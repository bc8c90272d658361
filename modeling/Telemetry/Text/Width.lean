import Telemetry.Text.Width.Character
import Telemetry.Text.Width.Emoji
/-
The number of terminal columns a line of text takes.

Most characters take the same columns everywhere. Letters that make a ligature and characters that make one emoji take fewer
than the sum of theirs. A text is read from its end: `Following` is what the text read so far offers to the character before
it, be that the first letter of a ligature, an emoji that a joiner may join, or a selector that styles it. `step` takes one
more character in front and tells how many columns it adds; a character may take back a column that its follower was given.
-/
namespace Telemetry.Text

/-! ## What lies ahead -/

/-- what the text ahead may make together with the character before it -/
inductive Ahead where
  | nothing
  /-- an Arabic alef, which takes no column of its own behind a lam -/
  | alef
  /-- a Hebrew lamed, after a joiner or not -/
  | lamed (joined : Bool)
  /-- a Buginese ya -/
  | ya (joined : Bool)
  /-- a Buginese vowel sign, a joiner and a ya -/
  | vowelAndYa
  /-- a Tifinagh consonant -/
  | tifinagh (joined : Bool)
  /-- the Tifinagh consonant joiner and a consonant -/
  | joinerAndTifinagh
  /-- a Lisu tone that another tone may stand before -/
  | lisuTone
  /-- an Old Turkic i -/
  | orkhonI (joined : Bool)
  /-- a Khmer letter that may be drawn below another -/
  | khmerLetter
  /-- the Kirat Rai vowel e -/
  | kiratE
  /-- the Kirat Rai vowel ai -/
  | kiratAi
  | emoji
  | skinTone
  /-- a joiner and an emoji -/
  | joinedEmoji
  /-- the frame of a keycap, a joiner and an emoji -/
  | joinedKeycap
  | flagLetter
  | flagLetters
  /-- letters of flags, a joiner and an emoji, beginning with the second letter of a flag or the first -/
  | joinedFlagLetter
  | joinedFlag
  | joinedFlagAndLetter
  /-- the letters that end an invisible name, before a joiner and an emoji -/
  | tagLetters (count : Nat)
  /-- the digits that such a name goes on with towards its front -/
  | tagDigits (count : Nat)
  deriving DecidableEq, Repr

namespace Ahead

/-- a letter or letters that marks do not keep from a ligature -/
def isLigature : Ahead → Bool
  | .lamed _ | .ya _ | .vowelAndYa | .tifinagh _ | .joinerAndTifinagh | .lisuTone | .orkhonI _ | .khmerLetter => true
  | _ => false

/-- what is left of it before a selector that styles nothing -/
def pastSelector (a : Ahead) : Ahead :=
  if a.isLigature || a = .alef then a else .nothing

/-- a joiner is first and an emoji, framed or not, follows -/
def isJoinedEmoji (a : Ahead) : Bool :=
  a = .joinedEmoji || a = .joinedKeycap

/-- the same letters with a joiner before them -/
def joined : Ahead → Ahead
  | .lamed _ => .lamed true
  | .ya _ => .ya true
  | .tifinagh _ => .tifinagh true
  | .orkhonI _ => .orkhonI true
  | a => a

end Ahead

/-- a style that a selector gives the character before it -/
inductive GlyphStyle where
  | text | emoji
  /-- for quotation marks -/
  | fullwidth
  deriving DecidableEq, Repr

/-- what follows a character -/
structure Following where
  ahead : Ahead := .nothing
  style : Option GlyphStyle := none
  deriving DecidableEq, Repr

/-! ## Letters -/

/-- the zero width joiner -/
def joiner : Char := Char.ofNat 0x200D

/-- the style that a selector gives -/
def glyphStyle? (c : Char) : Option GlyphStyle :=
  if c.toNat = 0xFE0F then some .emoji
  else if c.toNat = 0xFE0E then some .text
  else if c.toNat = 0xFE01 then some .fullwidth
  else none

/-- a quotation mark that can be drawn fullwidth -/
def isQuotationMark (c : Char) : Bool :=
  inRanges [(0x2018, 0x2019), (0x201C, 0x201D)] c

/-- marks that are passed over inside ligatures -/
def isPassedOver (c : Char) : Bool :=
  inRanges [(0x34F, 0x34F), (0x17B4, 0x17B5), (0x180B, 0x180D), (0x180F, 0x180F), (0x200D, 0x200D), (0xFE00, 0xFE0F),
    (0xE0100, 0xE01EF)] c

/-- characters without a column over which Arabic letters do not join -/
def breaksArabicRanges : List CodeRange := [
  (0x605, 0x605), (0x890, 0x891), (0x8E2, 0x8E2), (0x9BE, 0x9BE), (0x9D7, 0x9D7), (0xB3E, 0xB3E), (0xB57, 0xB57),
  (0xBBE, 0xBBE), (0xBD7, 0xBD7), (0xCC0, 0xCC0), (0xCC2, 0xCC2), (0xCC7, 0xCC8), (0xCCA, 0xCCB), (0xCD5, 0xCD6),
  (0xD3E, 0xD3E), (0xD4E, 0xD4E), (0xD57, 0xD57), (0xDCF, 0xDCF), (0xDDF, 0xDDF), (0x1160, 0x11FF), (0x1715, 0x1715),
  (0x1734, 0x1734), (0x180E, 0x180E), (0x1B35, 0x1B35), (0x1B3B, 0x1B3B), (0x1B3D, 0x1B3D), (0x1B43, 0x1B44),
  (0x1BAA, 0x1BAA), (0x1BF2, 0x1BF3), (0x200C, 0x200D), (0x2065, 0x2069), (0x302E, 0x302F), (0x3164, 0x3164),
  (0xA8FA, 0xA8FA), (0xA953, 0xA953), (0xA9C0, 0xA9C0), (0xD7B0, 0xD7C6), (0xD7CB, 0xD7FB), (0xFF9E, 0xFFA0),
  (0xFFF0, 0xFFF8), (0x111C0, 0x111C0), (0x111C2, 0x111C3), (0x11235, 0x11235), (0x1133E, 0x1133E), (0x1134D, 0x1134D),
  (0x11357, 0x11357), (0x113B8, 0x113B8), (0x113C2, 0x113C2), (0x113C5, 0x113C5), (0x113C7, 0x113C9),
  (0x113CF, 0x113CF), (0x113D1, 0x113D1), (0x114B0, 0x114B0), (0x114BD, 0x114BD), (0x115AF, 0x115AF),
  (0x116B6, 0x116B6), (0x11930, 0x11930), (0x1193D, 0x1193D), (0x1193F, 0x1193F), (0x11941, 0x11941),
  (0x11A3A, 0x11A3A), (0x11A84, 0x11A89), (0x11D46, 0x11D46), (0x11F02, 0x11F02), (0x11F41, 0x11F41),
  (0x16FF0, 0x16FF1), (0x1D165, 0x1D166), (0x1D16D, 0x1D172), (0xE0000, 0xE0000), (0xE0002, 0xE001F),
  (0xE0080, 0xE00FF), (0xE01F0, 0xE0FFF)]

/-- marks over which Arabic letters join -/
def isArabicTransparent (c : Char) : Bool :=
  charWidth c = 0 && !inRanges breaksArabicRanges c

/-- an Arabic alef of any kind -/
def isAlef (c : Char) : Bool :=
  inRanges [(0x622, 0x623), (0x625, 0x625), (0x627, 0x627), (0x671, 0x673), (0x675, 0x675), (0x773, 0x774),
    (0x870, 0x882)] c

/-- an Arabic lam of any kind -/
def isLam (c : Char) : Bool :=
  inRanges [(0x644, 0x644), (0x6B5, 0x6B8), (0x76A, 0x76A), (0x8A6, 0x8A6), (0x8C7, 0x8C7)] c

def isTifinagh (c : Char) : Bool :=
  inRanges [(0x2D31, 0x2D65), (0x2D6F, 0x2D6F)] c

/-- a Khmer letter with a form below another -/
def isKhmerLetter (c : Char) : Bool :=
  inRanges [(0x1780, 0x1782), (0x1784, 0x1787), (0x1789, 0x178C), (0x178E, 0x1793), (0x1795, 0x1798), (0x179B, 0x179D),
    (0x17A0, 0x17A0), (0x17A2, 0x17A2), (0x17A7, 0x17A7), (0x17AB, 0x17AC), (0x17AF, 0x17AF)] c

/-! ## Steps -/

/-- the columns of a character that joins nothing, and what it offers -/
def alone (c : Char) : Int × Following :=
  let ahead : Ahead :=
    if isFlagLetter c then .flagLetter
    else if isSkinTone c then .skinTone
    else if isEmoji c then .emoji
    else if isAlef c then .alef
    else if isTifinagh c then .tifinagh false
    else if isKhmerLetter c then .khmerLetter
    else
      match c.toNat with
      | 0x5DC => .lamed false
      | 0x1A10 => .ya false
      | 0xA4FC | 0xA4FD => .lisuTone
      | 0x10C03 => .orkhonI false
      | 0x16D67 => .kiratE
      | 0x16D68 => .kiratAi
      | _ => .nothing
  (charWidth c, ⟨ahead, glyphStyle? c⟩)

/-- the columns a letter adds when it makes a ligature with what lies ahead -/
def ligature? (ahead : Ahead) (c : Char) : Option (Int × Ahead) :=
  match ahead, c.toNat with
  | .alef, _ =>
    if isLam c then some (0, .nothing) else if isArabicTransparent c then some (0, .alef) else none
  | .lamed true, 0x5D0 => some (0, .nothing)
  | .khmerLetter, 0x17D2 => some (-1, .nothing)
  | .ya true, 0x1A17 => some (0, .vowelAndYa)
  | .vowelAndYa, 0x1A15 => some (0, .nothing)
  | .tifinagh _, 0x2D7F => some (1, .joinerAndTifinagh)
  | .tifinagh true, _ => if isTifinagh c then some (0, .nothing) else none
  | .joinerAndTifinagh, _ => if isTifinagh c then some (-1, .nothing) else none
  | .lisuTone, n => if 0xA4F8 ≤ n ∧ n ≤ 0xA4FB then some (0, .nothing) else none
  | .orkhonI true, 0x10C32 => some (0, .nothing)
  | .kiratE, 0x16D63 => some (0, .nothing)
  | .kiratE, 0x16D67 => some (0, .kiratAi)
  | .kiratE, 0x16D68 => some (1, .kiratE)
  | .kiratE, 0x16D69 => some (0, .nothing)
  | .kiratAi, 0x16D63 => some (0, .nothing)
  | _, _ => none

/-- an emoji, or emoji joined before, that a joiner may join to one before it -/
def isJoinable : Ahead → Bool
  | .emoji | .skinTone | .flagLetters | .joinedFlag | .joinedFlagAndLetter => true
  | _ => false

/-- the columns a character adds when it makes one emoji with what lies ahead -/
def emojiJoin? (ahead : Ahead) (c : Char) : Option (Int × Ahead) :=
  if c = joiner then if isJoinable ahead then some (0, .joinedEmoji) else none
  else
    match ahead with
    | .skinTone => if takesSkinTone c then some (0, .emoji) else none
    | .flagLetter | .flagLetters => if isFlagLetter c then some (1, .flagLetters) else none
    | .joinedFlagLetter | .joinedFlagAndLetter => if isFlagLetter c then some (-1, .joinedFlag) else none
    | .joinedFlag => if isFlagLetter c then some (3, .joinedFlagAndLetter) else none
    | .joinedEmoji =>
      if c = keycapFrame then some (0, .joinedKeycap)
      else if isFlagLetter c then some (1, .joinedFlagLetter)
      else if isSkinTone c then some (0, .skinTone)
      else if c = tagEnd then some (0, .tagLetters 0)
      else if isEmoji c then some (0, .emoji)
      else none
    | .tagLetters count =>
      if isTagLetter c ∧ count < 6 then some (0, .tagLetters (count + 1))
      else if isTagDigit c ∧ count ≤ 4 then some (0, .tagDigits 1)
      else if c = blackFlag ∧ 3 ≤ count then some (0, .emoji)
      else none
    | .tagDigits count =>
      if isTagDigit c ∧ count < 3 then some (0, .tagDigits (count + 1))
      else if c = blackFlag ∧ count = 3 then some (0, .emoji)
      else none
    | _ => none

/-- a character that no selector styles -/
def plainStep (ahead : Ahead) (c : Char) : Int × Following :=
  match glyphStyle? c with
  | some style =>
    let kept := if style = .emoji ∧ ahead.isJoinedEmoji then ahead else ahead.pastSelector
    (0, ⟨kept, some style⟩)
  | none =>
    if ahead.isLigature ∧ isPassedOver c then (0, ⟨if c = joiner then ahead.joined else ahead, none⟩)
    else
      match (ligature? ahead c).or (emojiJoin? ahead c) with
      | some (columns, more) => (columns, ⟨more, none⟩)
      | none => alone c

/-- the columns a character adds in front of a text, and what it offers to the one before it -/
def step (f : Following) (c : Char) : Int × Following :=
  match f.style with
  | none => plainStep f.ahead c
  | some style =>
    if style = .emoji ∧ takesEmojiStyle c then (if f.ahead.isJoinedEmoji then 0 else 2, ⟨.emoji, none⟩)
    else if style = .text ∧ narrowsAsText c then (1, {})
    else if style = .fullwidth ∧ isQuotationMark c then (2, {})
    else plainStep f.ahead.pastSelector c

/-! ## Lines -/

/-- columns of a text and what it offers to a character before it -/
def columns : List Char → Int × Following
  | [] => (0, {})
  | c :: cs =>
    let rest := columns cs
    let front := step rest.2 c
    (front.1 + rest.1, front.2)

def displayWidth (cs : List Char) : Nat :=
  (columns cs).1.toNat

end Telemetry.Text
