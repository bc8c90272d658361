import Telemetry.Proofs.Query.Plain
/-
A scanner of query text, and what it makes of quoted and of plain text.

The scanner follows the rule that quoting presupposes: outside quotes a double or single quote opens a token; inside, a
backslash takes the next character as it is, and the same quote closes. `Reads` says of a text that a scan that meets it
outside quotes leaves it outside quotes, with some tokens and some text around them; such texts compose.

- `reads_quoteIdentifier`, `reads_quoteValue`: a quoted name or value is one token, whatever it contains;
- `reads_plain`: a text without quotes has no tokens;
- `Reads.append`, `Reads.scan`: composition, and the whole scan;
- `Composed.reads`: texts put together from such pieces.
-/
namespace Telemetry.Query

/-! ## The scanner -/

/-- a quoted piece of a text: its quote, and what it stands for -/
structure Token where
  quote : Char
  content : List Char
  deriving DecidableEq, Repr

def Token.identifier (name : String) : Token := ⟨'"', name.toList⟩

def Token.value (value : String) : Token := ⟨'\'', value.toList⟩

/-- where a scan stands -/
inductive ScanState where
  | outside
  /-- inside a token, with its content so far -/
  | inside (token : Token)
  /-- after a backslash inside a token -/
  | escaped (token : Token)
  deriving DecidableEq, Repr

/-- a scan: where it stands, the tokens it has closed, and the characters around them -/
structure Scan where
  state : ScanState := .outside
  tokens : List Token := []
  skeleton : List Char := []
  deriving DecidableEq, Repr

/-- the token with one more character -/
def Token.push (t : Token) (c : Char) : Token := { t with content := t.content ++ [c] }

/-- the scan after one more character -/
def Scan.next (s : Scan) (c : Char) : Scan :=
  match s.state with
  | .outside =>
    if c = '"' ∨ c = '\'' then { s with state := .inside ⟨c, []⟩ } else { s with skeleton := s.skeleton ++ [c] }
  | .inside t =>
    if c = '\\' then { s with state := .escaped t }
    else if c = t.quote then { s with state := .outside, tokens := s.tokens ++ [t] }
    else { s with state := .inside (t.push c) }
  | .escaped t => { s with state := .inside (t.push c) }

/-- the scan of a text -/
def scan (text : String) : Scan :=
  text.toList.foldl Scan.next {}

/-! ## Inside a token -/

/-- a scan that stands inside a token -/
def Scan.within (s : Scan) (t : Token) : Scan := { s with state := .inside t }

theorem next_within_plain (s : Scan) (t : Token) {c : Char} (hescape : c ≠ '\\') (hquote : c ≠ t.quote) :
    (s.within t).next c = s.within (t.push c) := by
  simp [Scan.within, Scan.next, hescape, hquote]

theorem foldl_within_escaped (s : Scan) (t : Token) (c : Char) :
    ['\\', c].foldl Scan.next (s.within t) = s.within (t.push c) := by
  simp [Scan.within, Scan.next]

/-- if every character is written so that it scans as itself, the characters scan as themselves -/
theorem foldl_within_flatMap (s : Scan) {write : Char → List Char} {quote : Char} {cs : List Char}
    (hwrite : ∀ c ∈ cs, ∀ content,
      (write c).foldl Scan.next (s.within ⟨quote, content⟩) = s.within ⟨quote, content ++ [c]⟩) (content : List Char) :
    (cs.flatMap write).foldl Scan.next (s.within ⟨quote, content⟩) = s.within ⟨quote, content ++ cs⟩ := by
  induction cs generalizing content with
  | nil => rw [List.append_nil]; rfl
  | cons c cs ih =>
    rw [List.flatMap_cons, List.foldl_append, hwrite c List.mem_cons_self,
      ih fun d hd => hwrite d (List.mem_cons_of_mem c hd)]
    simp

theorem foldl_identifierChar (s : Scan) {c : Char} (hc : c ≠ '\\') (content : List Char) :
    (identifierChar c).foldl Scan.next (s.within ⟨'"', content⟩) = s.within ⟨'"', content ++ [c]⟩ := by
  unfold identifierChar
  split
  · rename_i h
    subst h
    exact foldl_within_escaped s _ _
  · rename_i h
    exact next_within_plain s ⟨'"', content⟩ hc h

theorem foldl_valueChar (s : Scan) (c : Char) (content : List Char) :
    (valueChar c).foldl Scan.next (s.within ⟨'\'', content⟩) = s.within ⟨'\'', content ++ [c]⟩ := by
  unfold valueChar
  split
  · rename_i h
    subst h
    exact foldl_within_escaped s _ _
  · rename_i hescape
    split
    · rename_i h
      subst h
      exact foldl_within_escaped s _ _
    · rename_i h
      exact next_within_plain s ⟨'\'', content⟩ hescape h

/-! ## Texts that scan from outside to outside -/

/-- a scan that meets the text outside quotes leaves it outside, with these tokens and this text around them -/
def Reads (text : String) (tokens : List Token) (skeleton : String) : Prop :=
  ∀ s : Scan, s.state = .outside →
    text.toList.foldl Scan.next s = ⟨.outside, s.tokens ++ tokens, s.skeleton ++ skeleton.toList⟩

theorem Reads.scan {text : String} {tokens : List Token} {skeleton : String} (h : Reads text tokens skeleton) :
    scan text = ⟨.outside, tokens, skeleton.toList⟩ := h {} rfl

theorem Reads.append {text1 text2 skeleton1 skeleton2 : String} {tokens1 tokens2 : List Token}
    (h1 : Reads text1 tokens1 skeleton1) (h2 : Reads text2 tokens2 skeleton2) :
    Reads (text1 ++ text2) (tokens1 ++ tokens2) (skeleton1 ++ skeleton2) := by
  intro s hs
  rw [String.toList_append, List.foldl_append, h1 s hs, h2 _ rfl]
  simp [String.toList_append]

/-- a text without quotes is read as it is -/
theorem reads_plain {text : String} (h : Plain text.toList) : Reads text [] text := by
  have hplain : ∀ cs : List Char, Plain cs → ∀ tokens skeleton,
      cs.foldl Scan.next ⟨.outside, tokens, skeleton⟩ = ⟨.outside, tokens, skeleton ++ cs⟩ := by
    intro cs hcs
    induction cs with
    | nil => simp
    | cons c cs ih =>
      intro tokens skeleton
      obtain ⟨hdouble, hsingle⟩ := hcs c List.mem_cons_self
      have hnext : Scan.next ⟨.outside, tokens, skeleton⟩ c = ⟨.outside, tokens, skeleton ++ [c]⟩ := by
        simp [Scan.next, hdouble, hsingle]
      rw [List.foldl_cons, hnext, ih fun d hd => hcs d (List.mem_cons_of_mem c hd)]
      simp
  intro s hs
  obtain ⟨state, tokens, skeleton⟩ := s
  cases hs
  rw [hplain text.toList h, List.append_nil]

/-- characters written so that they scan as themselves, in quotes, are one token -/
theorem reads_quoted {write : Char → List Char} {quote : Char} {content : String}
    (hquote : quote = '"' ∨ quote = '\'')
    (hwrite : ∀ s : Scan, ∀ c ∈ content.toList, ∀ before,
      (write c).foldl Scan.next (s.within ⟨quote, before⟩) = s.within ⟨quote, before ++ [c]⟩) :
    Reads (String.ofList (quote :: content.toList.flatMap write ++ [quote])) [⟨quote, content.toList⟩] "" := by
  intro s hs
  have hopen : s.next quote = s.within ⟨quote, []⟩ := by
    simp [Scan.next, hs, hquote, Scan.within]
  have hescape : quote ≠ '\\' := by
    rcases hquote with rfl | rfl <;> decide
  rw [String.toList_ofList, List.cons_append, List.foldl_cons, List.foldl_append, hopen,
    foldl_within_flatMap s (hwrite s) []]
  simp [Scan.next, Scan.within, hescape]

/-- a quoted name without backslashes is one token -/
theorem reads_quoteIdentifier {name : String} (h : '\\' ∉ name.toList) :
    Reads (quoteIdentifier name) [.identifier name] "" :=
  reads_quoted (Or.inl rfl) fun s _ hc => foldl_identifierChar s fun hb => h (hb ▸ hc)

/-- a quoted value is one token -/
theorem reads_quoteValue (value : String) : Reads (quoteValue value) [.value value] "" :=
  reads_quoted (Or.inr rfl) fun s _ _ => foldl_valueChar s _

/-! ## Texts put together from pieces -/

/-- a text put together from plain texts, quoted names and quoted values, with the tokens that stand for these and the text
around them -/
inductive Composed : String → List Token → String → Prop
  | plain {text : String} (h : Plain text.toList) : Composed text [] text
  | name (name : String) : Composed (quoteIdentifier name) [.identifier name] ""
  | value (value : String) : Composed (quoteValue value) [.value value] ""
  | append {text1 text2 skeleton1 skeleton2 : String} {tokens1 tokens2 : List Token} (h1 : Composed text1 tokens1 skeleton1)
      (h2 : Composed text2 tokens2 skeleton2) : Composed (text1 ++ text2) (tokens1 ++ tokens2) (skeleton1 ++ skeleton2)

/-- the token is a value, or a name without backslashes -/
def Token.Verbatim (t : Token) : Prop := t.quote = '"' → '\\' ∉ t.content

theorem verbatim_identifier_iff {name : String} : (Token.identifier name).Verbatim ↔ '\\' ∉ name.toList := by
  simp [Token.Verbatim, Token.identifier]

theorem verbatim_value (value : String) : (Token.value value).Verbatim := by
  intro hquote
  cases hquote

/-- pieces without backslashes in their names are read as what they stand for -/
theorem Composed.reads {text skeleton : String} {tokens : List Token} (h : Composed text tokens skeleton)
    (hnames : ∀ t ∈ tokens, t.Verbatim) : Reads text tokens skeleton := by
  induction h with
  | plain h => exact reads_plain h
  | name name => exact reads_quoteIdentifier (hnames _ List.mem_cons_self rfl)
  | value value => exact reads_quoteValue value
  | append _ _ ih1 ih2 =>
    rw [List.forall_mem_append] at hnames
    exact (ih1 hnames.1).append (ih2 hnames.2)

/-- texts joined by a plain separator -/
theorem Composed.join {α : Type} {separator : String} {text skeleton : α → String} {tokens : α → List Token}
    (hseparator : Plain separator.toList) {as : List α} (h : ∀ a ∈ as, Composed (text a) (tokens a) (skeleton a)) :
    Composed (Text.joinWith separator (as.map text)) (as.flatMap tokens) (Text.joinWith separator (as.map skeleton)) := by
  induction as with
  | nil =>
    have hempty : Composed "" [] "" := .plain (by decide)
    exact hempty
  | cons a as ih =>
    have ha := h a List.mem_cons_self
    have hrest := ih fun b hb => h b (List.mem_cons_of_mem a hb)
    cases as with
    | nil =>
      rw [List.flatMap_cons, List.flatMap_nil, List.append_nil]
      exact ha
    | cons b bs =>
      have hall := (ha.append (.plain hseparator)).append hrest
      rw [List.append_nil] at hall
      exact hall

end Telemetry.Query
