import Mathlib.Data.List.Basic
import Telemetry.Proofs.Text.Trim
import Telemetry.Proofs.Time.Fields
import Telemetry.Time.Period
/-
The forms of a date-time.

A text in the form of a date-time is cut into its parts wherever it is cut: the pictures of the date and of the clock have a
fixed length, and neither a point nor an offset can be taken for a digit of the fraction. So all forms of one date-time have
the same parts but for the offset, and show the same.

- `matchesPicture_three`: pictures of three numbers;
- `Stamp.split?_append`, `isOffset_iff`: the parts of a date-time, and what an offset is;
- `Stamp.reads_iff`, `Stamp.reads_offset_iff`, `reads_date_iff`: what is read;
- `forms_agree`: all forms of a date-time are read as one instant.
-/
namespace Telemetry.Time

open Decimal Text

variable {cs ds es fs rest picture offset : List Char} {c mark : Char} {k width : Nat} {t : Instant}

/-- a text is read as an instant -/
def Reads (cs : List Char) (t : Instant) : Prop :=
  instantOf (String.ofList cs) = .ok t

theorem instantOf_eq_ok_iff {s : String} : instantOf s = .ok t ↔ readInstant s = .ok t := by
  unfold instantOf
  cases readInstant s <;> simp

theorem reads_iff_readInstant : Reads cs t ↔ readInstant (String.ofList cs) = .ok t :=
  instantOf_eq_ok_iff

/-! ## Pictures -/

theorem matchesPicture_nil : matchesPicture [] cs = true ↔ cs = [] := by
  cases cs <;> simp [matchesPicture]

theorem matchesPicture_mark (hmark : mark ≠ '0') :
    matchesPicture (mark :: picture) cs = true ↔ ∃ rest, cs = mark :: rest ∧ matchesPicture picture rest = true := by
  cases cs with
  | nil => simp [matchesPicture]
  | cons c cs =>
    rw [matchesPicture]
    · simp [eq_comm (a := mark)]
    · exact hmark

theorem matchesPicture_digit : matchesPicture ('0' :: picture) cs = true ↔
    ∃ c rest, cs = c :: rest ∧ isDecimalDigit c = true ∧ matchesPicture picture rest = true := by
  cases cs <;> simp [matchesPicture]

theorem matchesPicture_digits (k : Nat) : matchesPicture (List.replicate k '0' ++ picture) cs = true ↔
    ∃ ds rest, cs = ds ++ rest ∧ (ds.length = k ∧ ∀ c ∈ ds, isDecimalDigit c = true) ∧ matchesPicture picture rest = true := by
  induction k generalizing cs with
  | zero =>
    constructor
    · intro h
      exact ⟨[], cs, rfl, ⟨rfl, by simp⟩, h⟩
    · rintro ⟨ds, rest, rfl, ⟨hlength, -⟩, h⟩
      rwa [List.length_eq_zero_iff.1 hlength]
  | succ k ih =>
    rw [List.replicate_succ, List.cons_append, matchesPicture_digit]
    constructor
    · rintro ⟨c, cs, rfl, hc, h⟩
      obtain ⟨ds, rest, rfl, ⟨hlength, hds⟩, h⟩ := ih.1 h
      exact ⟨c :: ds, rest, rfl, ⟨congrArg (· + 1) hlength, List.forall_mem_cons.2 ⟨hc, hds⟩⟩, h⟩
    · rintro ⟨ds, rest, rfl, ⟨hlength, hds⟩, h⟩
      obtain ⟨c, ds, rfl⟩ := List.exists_cons_of_length_eq_add_one hlength
      obtain ⟨hc, hds⟩ := List.forall_mem_cons.1 hds
      exact ⟨c, ds ++ rest, rfl, hc, ih.2 ⟨ds, rest, rfl, ⟨Nat.succ.inj hlength, hds⟩, h⟩⟩

theorem matchesPicture_replicate :
    matchesPicture (List.replicate k '0') cs = true ↔ cs.length = k ∧ ∀ c ∈ cs, isDecimalDigit c = true := by
  rw [← List.append_nil (List.replicate k '0'), matchesPicture_digits]
  constructor
  · rintro ⟨ds, rest, rfl, hds, h⟩
    rwa [matchesPicture_nil.1 h, List.append_nil]
  · intro h
    exact ⟨cs, [], (List.append_nil cs).symm, h, rfl⟩

/-- the picture of three numbers shows where they are -/
theorem matchesPicture_three (width : Nat) (hmark : mark ≠ '0') :
    matchesPicture (List.replicate width '0' ++ mark :: (List.replicate 2 '0' ++ mark :: List.replicate 2 '0')) cs = true ↔
      ∃ ds es fs, InThree mark width cs ds es fs := by
  rw [matchesPicture_digits]
  constructor
  · rintro ⟨ds, rest, rfl, hds, h⟩
    obtain ⟨r₁, rfl, h₁⟩ := (matchesPicture_mark hmark).1 h
    obtain ⟨es, r₂, rfl, hes, h₂⟩ := (matchesPicture_digits 2).1 h₁
    obtain ⟨fs, rfl, h₃⟩ := (matchesPicture_mark hmark).1 h₂
    exact ⟨ds, es, fs, rfl, hds, hes, matchesPicture_replicate.1 h₃⟩
  · rintro ⟨ds, es, fs, rfl, hds, hes, hfs⟩
    have hthird := (matchesPicture_mark hmark).2 ⟨fs, rfl, matchesPicture_replicate.2 hfs⟩
    have hsecond := (matchesPicture_digits 2).2 ⟨es, _, rfl, hes, hthird⟩
    exact ⟨ds, _, rfl, hds, (matchesPicture_mark hmark).2 ⟨_, rfl, hsecond⟩⟩

theorem matchesPicture_date : matchesPicture datePicture cs = true ↔ ∃ ds es fs, InThree '-' 4 cs ds es fs :=
  matchesPicture_three 4 (by decide)

theorem matchesPicture_clock : matchesPicture clockPicture cs = true ↔ ∃ ds es fs, InThree ':' 2 cs ds es fs :=
  matchesPicture_three 2 (by decide)

theorem InThree.length (h : InThree mark width cs ds es fs) : cs.length = width + 6 := by
  simp only [h.chars, List.length_append, List.length_cons, h.first.1, h.second.1, h.third.1]

/-- a picture of numbers begins and ends with a digit -/
theorem InThree.head_digit (h : InThree mark (width + 1) cs ds es fs) (rest : List Char) :
    ∀ c ∈ (cs ++ rest).head?, isDecimalDigit c = true := by
  obtain ⟨d, ds, rfl⟩ := List.exists_cons_of_length_eq_add_one h.first.1
  rw [h.chars]
  simpa using h.first.2 d List.mem_cons_self

/-- a text ends with the last of the digits that it ends with -/
theorem getLast?_digits (hes : es ≠ []) (hdigits : ∀ c ∈ es, isDecimalDigit c = true) (ds : List Char) :
    ∀ c ∈ (ds ++ es).getLast?, isDecimalDigit c = true := by
  intro c hc
  rw [List.getLast?_append, List.getLast?_eq_some_getLast hes, Option.some_or] at hc
  exact hdigits c (Option.mem_some_iff.1 hc ▸ List.getLast_mem hes)

theorem InThree.last_digit (h : InThree mark width cs ds es fs) (before : List Char) :
    ∀ c ∈ (before ++ cs).getLast?, isDecimalDigit c = true := by
  have hfs : fs ≠ [] := List.ne_nil_of_length_pos (by rw [h.third.1]; decide)
  have hchars : before ++ cs = (before ++ (ds ++ mark :: (es ++ [mark]))) ++ fs := by simp [h.chars]
  rw [hchars]
  exact getLast?_digits hfs h.third.2 _

/-! ## Date-times and their parts -/

/-- a date-time without an offset, as it is written -/
structure Stamp where
  date : List Char
  separator : Char
  clock : List Char
  /-- the characters after the point, none if there is no point -/
  fraction : List Char

/-- each part is in its form -/
structure Stamp.InForm (x : Stamp) : Prop where
  date : matchesPicture datePicture x.date = true
  separator : x.separator = 'T' ∨ x.separator = ' '
  clock : matchesPicture clockPicture x.clock = true
  fraction : ∀ c ∈ x.fraction, isDecimalDigit c = true

/-- a fraction after its point -/
def pointed : List Char → List Char
  | [] => []
  | d :: ds => '.' :: d :: ds

namespace Stamp

variable {x : Stamp}

def chars (x : Stamp) : List Char :=
  x.date ++ x.separator :: (x.clock ++ pointed x.fraction)

/-- the parts that are found again, with an offset perhaps -/
def parts (x : Stamp) (offset : Option (List Char)) : Parts :=
  ⟨x.date, x.clock, x.fraction, offset⟩

theorem InForm.parts (hx : x.InForm) (offset : Option (List Char)) : (x.parts offset).InForm :=
  ⟨matchesPicture_date.1 hx.date, matchesPicture_clock.1 hx.clock⟩

theorem InForm.length_date (hx : x.InForm) : x.date.length = 10 := by
  obtain ⟨ds, es, fs, hdate⟩ := matchesPicture_date.1 hx.date
  exact hdate.length

theorem InForm.length_clock (hx : x.InForm) : x.clock.length = 8 := by
  obtain ⟨ds, es, fs, hclock⟩ := matchesPicture_clock.1 hx.clock
  exact hclock.length

end Stamp

/-- neither a point nor a digit continues the fraction -/
def EndsFraction (rest : List Char) : Prop :=
  ∀ c ∈ rest.head?, c ≠ '.' ∧ isDecimalDigit c = false

theorem splitFraction_pointed {fraction : List Char} (hfraction : ∀ c ∈ fraction, isDecimalDigit c = true)
    (hrest : EndsFraction rest) : splitFraction (pointed fraction ++ rest) = some (fraction, rest) := by
  cases fraction with
  | nil =>
    cases rest with
    | nil => rfl
    | cons c cs =>
      have hpoint : c ≠ '.' := (hrest c rfl).1
      simp [pointed, splitFraction, hpoint]
  | cons d ds =>
    have htake : rest.takeWhile isDecimalDigit = [] := by
      cases rest with
      | nil => rfl
      | cons c cs => simp [(hrest c rfl).2]
    have hdrop : rest.dropWhile isDecimalDigit = rest := by
      rw [List.dropWhile_eq_self_iff]
      cases rest <;> simp_all [EndsFraction]
    have htaken : (d :: (ds ++ rest)).takeWhile isDecimalDigit = d :: ds := by
      rw [← List.cons_append, List.takeWhile_append_of_pos hfraction, htake, List.append_nil]
    have hdropped : (d :: (ds ++ rest)).dropWhile isDecimalDigit = rest := by
      rw [← List.cons_append, List.dropWhile_append_of_pos hfraction, hdrop]
    simp only [pointed, List.cons_append, splitFraction, htaken, hdropped]

namespace Stamp

variable {x : Stamp}

/-- a date-time and what follows it are cut where it ends -/
theorem split?_append (hx : x.InForm) (hrest : EndsFraction rest) : split? (x.chars ++ rest) =
    if rest = [] then some (x.parts none) else if isOffset rest then some (x.parts (some rest)) else none := by
  -- a date has ten characters and a clock eight, so the places where the text is cut are those where the parts meet
  have hdate : (x.chars ++ rest).take 10 = x.date := by
    rw [chars, List.append_assoc, ← hx.length_date, List.take_left]
  have hafter : (x.chars ++ rest).drop 10 = x.separator :: (x.clock ++ (pointed x.fraction ++ rest)) := by
    rw [chars, List.append_assoc, ← hx.length_date, List.drop_left, List.cons_append, List.append_assoc]
  have hbetween : ((x.chars ++ rest).drop 10).take 1 = [x.separator] := by rw [hafter]; rfl
  have hlast : (x.chars ++ rest).drop 11 = x.clock ++ (pointed x.fraction ++ rest) := by
    rw [← List.drop_drop (i := 1) (j := 10), hafter]
    rfl
  have hclock : ((x.chars ++ rest).drop 11).take 8 = x.clock := by rw [hlast, ← hx.length_clock, List.take_left]
  have hfraction : (x.chars ++ rest).drop 19 = pointed x.fraction ++ rest := by
    rw [← List.drop_drop (i := 8) (j := 11), hlast, ← hx.length_clock, List.drop_left]
  have hseparator : ([x.separator] == ['T'] || [x.separator] == [' ']) = true := by
    rcases hx.separator with h | h <;> rw [h] <;> rfl
  simp only [split?, hdate, hbetween, hclock, hfraction, hseparator, hx.date, hx.clock, Bool.and_self, if_true,
    splitFraction_pointed hx.fraction hrest]
  cases rest with
  | nil => rfl
  | cons c cs => rfl

end Stamp

/-- parts that are found are in form, and so is an offset -/
theorem inForm_of_split? {p : Parts} (h : split? cs = some p) : p.InForm ∧ ∀ offset ∈ p.offset, isOffset offset = true := by
  unfold split? at h
  dsimp only at h
  split at h
  · rename_i hforms
    simp only [Bool.and_eq_true] at hforms
    obtain ⟨⟨hdate, -⟩, hclock⟩ := hforms
    have hform (fraction : List Char) (offset : Option (List Char)) :
        Parts.InForm ⟨cs.take 10, (cs.drop 11).take 8, fraction, offset⟩ :=
      ⟨matchesPicture_date.1 hdate, matchesPicture_clock.1 hclock⟩
    split at h
    · cases h
    · cases h
      exact ⟨hform _ _, by simp⟩
    · split at h
      · rename_i hoffset
        cases h
        exact ⟨hform _ _, by simpa using hoffset⟩
      · cases h
  · cases h

/-! ## Offsets -/

/-- two decimal digits of any script -/
def TwoDigits (cs : List Char) : Prop :=
  cs.length = 2 ∧ ∀ c ∈ cs, isDecimalDigit c = true

/-- hours and minutes after a sign, with a colon between them or without one -/
structure IsShift (offset : List Char) (sign : Char) (hours minutes : List Char) : Prop where
  chars : offset = sign :: (hours ++ ':' :: minutes) ∨ offset = sign :: (hours ++ minutes)
  sign : sign = '+' ∨ sign = '-'
  hours : TwoDigits hours
  minutes : TwoDigits minutes

theorem matchesPicture_hours_minutes : matchesPicture ['0', '0', ':', '0', '0'] cs = true ↔
    ∃ hours minutes, cs = hours ++ ':' :: minutes ∧ TwoDigits hours ∧ TwoDigits minutes := by
  refine (matchesPicture_digits 2).trans ?_
  constructor
  · rintro ⟨hours, rest, rfl, hhours, h⟩
    obtain ⟨minutes, rfl, hminutes⟩ := (matchesPicture_mark (by decide)).1 h
    exact ⟨hours, minutes, rfl, hhours, (matchesPicture_replicate (k := 2)).1 hminutes⟩
  · rintro ⟨hours, minutes, rfl, hhours, hminutes⟩
    refine ⟨hours, _, rfl, hhours, (matchesPicture_mark (by decide)).2 ⟨minutes, rfl, ?_⟩⟩
    exact (matchesPicture_replicate (k := 2)).2 hminutes

theorem matchesPicture_compact : matchesPicture ['0', '0', '0', '0'] cs = true ↔
    ∃ hours minutes, cs = hours ++ minutes ∧ TwoDigits hours ∧ TwoDigits minutes := by
  refine (matchesPicture_digits 2).trans ?_
  constructor
  · rintro ⟨hours, minutes, rfl, hhours, hminutes⟩
    exact ⟨hours, minutes, rfl, hhours, (matchesPicture_replicate (k := 2)).1 hminutes⟩
  · rintro ⟨hours, minutes, rfl, hhours, hminutes⟩
    exact ⟨hours, minutes, rfl, hhours, (matchesPicture_replicate (k := 2)).2 hminutes⟩

theorem isOffset_cons (c : Char) (hc : c ≠ 'Z') (hc' : c ≠ 'z') : isOffset (c :: cs) =
    ((c == '+' || c == '-') && (matchesPicture ['0', '0', ':', '0', '0'] cs || matchesPicture ['0', '0', '0', '0'] cs)) := by
  rw [isOffset]
  · rintro rfl -
    exact hc rfl
  · rintro rfl -
    exact hc' rfl

theorem isOffset_iff :
    isOffset offset = true ↔ offset = ['Z'] ∨ offset = ['z'] ∨ ∃ sign hours minutes, IsShift offset sign hours minutes := by
  constructor
  · intro h
    unfold isOffset at h
    split at h
    · exact Or.inl rfl
    · exact Or.inr (Or.inl rfl)
    · rename_i sign cs _ _
      simp only [Bool.and_eq_true, Bool.or_eq_true, beq_iff_eq] at h
      obtain ⟨hsign, hcolon | hcompact⟩ := h
      · obtain ⟨hours, minutes, rfl, hhours, hminutes⟩ := matchesPicture_hours_minutes.1 hcolon
        exact Or.inr (Or.inr ⟨sign, hours, minutes, Or.inl rfl, hsign, hhours, hminutes⟩)
      · obtain ⟨hours, minutes, rfl, hhours, hminutes⟩ := matchesPicture_compact.1 hcompact
        exact Or.inr (Or.inr ⟨sign, hours, minutes, Or.inr rfl, hsign, hhours, hminutes⟩)
    · cases h
  · rintro (rfl | rfl | ⟨sign, hours, minutes, hchars, hsign, hhours, hminutes⟩)
    · rfl
    · rfl
    · -- a sign is no letter, so it is the third kind of offset that is asked for
      have hletter : sign ≠ 'Z' ∧ sign ≠ 'z' := by
        rcases hsign with rfl | rfl <;> decide
      have hsign : (sign == '+' || sign == '-') = true := by simpa using hsign
      rcases hchars with rfl | rfl <;> rw [isOffset_cons sign hletter.1 hletter.2, hsign, Bool.true_and, Bool.or_eq_true]
      · exact Or.inl (matchesPicture_hours_minutes.2 ⟨hours, minutes, rfl, hhours, hminutes⟩)
      · exact Or.inr (matchesPicture_compact.2 ⟨hours, minutes, rfl, hhours, hminutes⟩)

theorem endsFraction_of_isOffset (h : isOffset offset = true) : offset ≠ [] ∧ EndsFraction offset := by
  have hfirst : ∃ c cs, offset = c :: cs ∧ c ∈ ['Z', 'z', '+', '-'] := by
    rcases isOffset_iff.1 h with rfl | rfl | ⟨sign, hours, minutes, hchars, hsign, -, -⟩
    · exact ⟨'Z', [], rfl, by decide⟩
    · exact ⟨'z', [], rfl, by decide⟩
    · have hmem : sign ∈ ['Z', 'z', '+', '-'] := by
        rcases hsign with rfl | rfl <;> decide
      rcases hchars with rfl | rfl <;> exact ⟨sign, _, rfl, hmem⟩
  obtain ⟨c, cs, rfl, hc⟩ := hfirst
  have hnone : (['Z', 'z', '+', '-'].all fun c => c ≠ '.' && !isDecimalDigit c) = true := by decide
  refine ⟨List.cons_ne_nil c cs, fun d hd => ?_⟩
  simpa using List.all_eq_true.1 hnone d (Option.mem_some_iff.1 hd ▸ hc)

theorem isBlank_last_of_isOffset (h : isOffset offset = true) (cs : List Char) :
    ∀ c ∈ (cs ++ offset).getLast?, isBlank c = false := by
  rcases isOffset_iff.1 h with rfl | rfl | ⟨sign, hours, minutes, hchars, -, -, hminutes⟩
  · simpa using (by decide : isBlank 'Z' = false)
  · simpa using (by decide : isBlank 'z' = false)
  · have hne : minutes ≠ [] := List.ne_nil_of_length_pos (by rw [hminutes.1]; decide)
    obtain ⟨before, hbefore⟩ : ∃ before, cs ++ offset = before ++ minutes := by
      rcases hchars with rfl | rfl
      · exact ⟨cs ++ sign :: (hours ++ [':']), by simp⟩
      · exact ⟨cs ++ sign :: hours, by simp⟩
    rw [hbefore]
    intro c hc
    exact isBlank_of_isDecimalDigit (getLast?_digits hne hminutes.2 before c hc)

/-! ## What is read -/

theorem readInstant_congr (h : trimmed cs = trimmed ds) : readInstant (String.ofList cs) = readInstant (String.ofList ds) := by
  simp only [readInstant, String.toList_ofList, h]

/-- blanks around a text are not read -/
theorem reads_surrounded {before after : List Char} (hbefore : ∀ c ∈ before, isBlank c = true)
    (hafter : ∀ c ∈ after, isBlank c = true) : Reads (before ++ cs ++ after) t ↔ Reads cs t := by
  rw [reads_iff_readInstant, reads_iff_readInstant, readInstant_congr (trimmed_surrounded hbefore hafter cs)]

/-- a text that is longer than a date is read by its parts -/
theorem readInstant_of_split? {p : Parts} (htrimmed : trimmed cs = cs) (hlength : cs.length ≠ 10) (hsplit : split? cs = some p) :
    readInstant (String.ofList cs) = p.offset.elim (readUniversal p) (readWithOffset p) := by
  have hnoDate : matchesPicture datePicture cs = false := by
    refine Bool.eq_false_iff.2 fun hdate => ?_
    obtain ⟨ds, es, fs, h⟩ := matchesPicture_date.1 hdate
    exact hlength h.length
  simp only [readInstant, String.toList_ofList, htrimmed, hnoDate, hsplit]
  cases p.offset <;> rfl

namespace Stamp

variable {x : Stamp}

theorem isBlank_head (hx : x.InForm) (rest : List Char) : ∀ c ∈ (x.chars ++ rest).head?, isBlank c = false := by
  obtain ⟨ds, es, fs, hdate⟩ := matchesPicture_date.1 hx.date
  rw [chars, List.append_assoc]
  exact fun c hc => isBlank_of_isDecimalDigit (hdate.head_digit _ c hc)

theorem isBlank_last (hx : x.InForm) : ∀ c ∈ x.chars.getLast?, isBlank c = false := by
  refine fun c hc => isBlank_of_isDecimalDigit ?_
  obtain ⟨ds, es, fs, hclock⟩ := matchesPicture_clock.1 hx.clock
  rcases hfraction : x.fraction with _ | ⟨d, rest⟩
  · have hchars : x.chars = (x.date ++ [x.separator]) ++ x.clock := by simp [chars, hfraction, pointed]
    rw [hchars] at hc
    exact hclock.last_digit _ c hc
  · have hchars : x.chars = (x.date ++ x.separator :: (x.clock ++ ['.'])) ++ d :: rest := by
      simp [chars, hfraction, pointed]
    rw [hchars] at hc
    exact getLast?_digits (List.cons_ne_nil d rest) (hfraction ▸ hx.fraction) _ c hc

theorem length_chars (hx : x.InForm) (rest : List Char) : (x.chars ++ rest).length ≠ 10 := by
  have hdate := hx.length_date
  simp only [chars, List.length_append, List.length_cons]
  omega

/-- a date-time without an offset is read as the instant that it shows -/
theorem reads_iff (hx : x.InForm) : Reads x.chars t ↔ (x.parts none).Shows t := by
  -- it begins and ends with a digit, so trimming leaves it, and it is too long for a date
  have htrimmed := trimmed_eq_self_iff.2 ⟨isBlank_head hx [], (List.append_nil x.chars).symm ▸ isBlank_last hx⟩
  have hnone : EndsFraction [] := by simp [EndsFraction]
  have hsplit := split?_append hx hnone
  have hlength := length_chars hx []
  rw [List.append_nil] at htrimmed hsplit hlength
  rw [reads_iff_readInstant, readInstant_of_split? htrimmed hlength hsplit]
  exact readUniversal_ok_iff (hx.parts none)

/-- a date-time with an offset is read as the instant that it shows without it, less the offset -/
theorem reads_offset_iff (hx : x.InForm) (hoffset : isOffset offset = true) : Reads (x.chars ++ offset) t ↔
    ∃ east s, readOffset offset = .ok east ∧ Reads x.chars s ∧ t = { s with seconds := s.seconds - east } := by
  obtain ⟨hsome, hends⟩ := endsFraction_of_isOffset hoffset
  have htrimmed := trimmed_eq_self_iff.2 ⟨isBlank_head hx offset, isBlank_last_of_isOffset hoffset x.chars⟩
  have hsplit := split?_append hx hends
  rw [if_neg hsome, if_pos hoffset] at hsplit
  rw [reads_iff_readInstant, readInstant_of_split? htrimmed (length_chars hx offset) hsplit]
  simp only [reads_iff hx]
  exact readWithOffset_ok_iff (hx.parts (some offset))

end Stamp

/-! ## Fractions -/

/-- nine digits of a fraction count -/
theorem showsFraction_congr {n : Nat} (h : es.take 9 = ds.take 9) : ShowsFraction es n ↔ ShowsFraction ds n := by
  constructor <;> rintro ⟨hdigits, hvalue⟩
  · exact ⟨h ▸ hdigits, h ▸ hvalue⟩
  · exact ⟨h.symm ▸ hdigits, h.symm ▸ hvalue⟩

/-- zeros at the end of a fraction do not count -/
theorem showsFraction_zeros {n : Nat} (k : Nat) : ShowsFraction (ds ++ List.replicate k '0') n ↔ ShowsFraction ds n := by
  have htake : (ds ++ List.replicate k '0').take 9 = ds.take 9 ++ List.replicate (min (9 - ds.length) k) '0' := by
    rw [List.take_append, List.take_replicate]
  have hvalue : digitsValue (ds.take 9 ++ List.replicate (min (9 - ds.length) k) '0') *
      10 ^ (9 - (ds.take 9 ++ List.replicate (min (9 - ds.length) k) '0').length) =
        digitsValue (ds.take 9) * 10 ^ (9 - (ds.take 9).length) := by
    rw [digitsValue_zeros, Nat.mul_assoc, ← Nat.pow_add, List.length_append, List.length_replicate, List.length_take]
    congr 2
    omega
  constructor <;> rintro ⟨hdigits, hn⟩
  · rw [htake] at hdigits hn
    exact ⟨(List.forall_mem_append.1 hdigits).1, hvalue.symm.trans hn⟩
  · refine ⟨?_, ?_⟩
    · rw [htake]
      refine List.forall_mem_append.2 ⟨hdigits, fun c hc => ?_⟩
      rw [List.eq_of_mem_replicate hc]
      rfl
    · rw [htake]
      exact hvalue.trans hn

/-- what is read depends on the date, the clock and what the fraction shows -/
theorem Stamp.reads_congr {x y : Stamp} (hx : x.InForm) (hy : y.InForm) (hdate : y.date = x.date) (hclock : y.clock = x.clock)
    (hfraction : ∀ n, ShowsFraction y.fraction n ↔ ShowsFraction x.fraction n) : Reads y.chars t ↔ Reads x.chars t := by
  simp only [Stamp.reads_iff hx, Stamp.reads_iff hy, Parts.Shows, Stamp.parts, hdate, hclock, hfraction]

/-! ## Shifts -/

/-- the minutes of a shift of less than a day -/
def ShowsShift (hours minutes : List Char) (n : Nat) : Prop :=
  ∃ hh mm, Denotes hours hh ∧ Denotes minutes mm ∧ hh ≤ 23 ∧ mm ≤ 59 ∧ n = hh * 60 + mm

theorem twoDigits?_eq_some_iff {a b : Char} {n : Nat} : twoDigits? a b = some n ↔ Denotes [a, b] n := by
  have hvalue : digitsValue [a, b] = 10 * (a.toNat - 48) + (b.toNat - 48) := by
    simp [digitsValue]
  unfold twoDigits?
  split
  · rename_i hdigits
    rw [Bool.and_eq_true] at hdigits
    rw [Option.some_inj, ← hvalue]
    exact ⟨fun h => ⟨by simpa using hdigits, h⟩, fun h => h.value⟩
  · rename_i hdigits
    constructor
    · intro h
      cases h
    · intro h
      exact absurd (by simpa using h.digits) hdigits

theorem offsetSeconds_ok_iff {h₁ h₂ m₁ m₂ : Char} {seconds : Nat} : offsetSeconds h₁ h₂ m₁ m₂ = .ok seconds ↔
    ∃ n, ShowsShift [h₁, h₂] [m₁, m₂] n ∧ seconds = n * 60 := by
  constructor
  · intro h
    unfold offsetSeconds at h
    split at h
    · rename_i hh mm hhours hminutes
      split at h
      · cases h
      · rename_i hbounds
        cases h
        have hhour := twoDigits?_eq_some_iff.1 hhours
        have hminute := twoDigits?_eq_some_iff.1 hminutes
        exact ⟨hh * 60 + mm, ⟨hh, mm, hhour, hminute, by omega, by omega, rfl⟩, by omega⟩
    · cases h
  · rintro ⟨n, ⟨hh, mm, hhours, hminutes, hhour, hminute, rfl⟩, rfl⟩
    have hbounds : ¬ (23 < hh ∨ 59 < mm) := by omega
    simp only [offsetSeconds, twoDigits?_eq_some_iff.2 hhours, twoDigits?_eq_some_iff.2 hminutes, if_neg hbounds]
    rw [Nat.add_mul, Nat.mul_assoc]

theorem signed_ok_iff {sign : Char} {seconds : Except Fault Nat} {east : Int} :
    readOffset.signed sign seconds = .ok east ↔ ∃ n : Nat, seconds = .ok n ∧ east = if sign = '-' then -(n : Int) else n := by
  cases seconds with
  | error fault => simp [readOffset.signed, Except.map]
  | ok n => simp [readOffset.signed, Except.map, eq_comm]

/-- an offset is read as the minutes that it shows, west of universal time after a minus -/
theorem readOffset_shift_ok_iff {sign : Char} {hours minutes : List Char} {east : Int} (h : IsShift offset sign hours minutes) :
    readOffset offset = .ok east ↔
      ∃ n : Nat, ShowsShift hours minutes n ∧ east = if sign = '-' then -((n * 60 : Nat) : Int) else (n * 60 : Nat) := by
  obtain ⟨h₁, h₂, rfl⟩ := List.length_eq_two.1 h.hours.1
  obtain ⟨m₁, m₂, rfl⟩ := List.length_eq_two.1 h.minutes.1
  have hsigned : readOffset offset = readOffset.signed sign (offsetSeconds h₁ h₂ m₁ m₂) := by
    rcases h.chars with rfl | rfl
    · rfl
    · simp [readOffset]
  simp only [hsigned, signed_ok_iff, offsetSeconds_ok_iff]
  constructor
  · rintro ⟨seconds, ⟨n, hn, rfl⟩, heast⟩
    exact ⟨n, hn, heast⟩
  · rintro ⟨n, hn, heast⟩
    exact ⟨n * 60, ⟨n, hn, rfl⟩, heast⟩

/-- a shift is taken off, with the nanoseconds as they are -/
theorem Stamp.reads_shift_iff {x : Stamp} {sign : Char} {hours minutes : List Char} (hx : x.InForm)
    (h : IsShift offset sign hours minutes) : Reads (x.chars ++ offset) t ↔
      ∃ n s, ShowsShift hours minutes n ∧ Reads x.chars s ∧
        t = ⟨if sign = '-' then s.seconds + n * 60 else s.seconds - n * 60, s.nanos⟩ := by
  have hoffset := isOffset_iff.2 (Or.inr (Or.inr ⟨sign, hours, minutes, h⟩))
  have hshifted (s : Instant) (n : Nat) :
      ({ s with seconds := s.seconds - if sign = '-' then -((n * 60 : Nat) : Int) else (n * 60 : Nat) } : Instant) =
        ⟨if sign = '-' then s.seconds + n * 60 else s.seconds - n * 60, s.nanos⟩ := by
    split
    · congr 1
      omega
    · rfl
  rw [Stamp.reads_offset_iff hx hoffset]
  constructor
  · rintro ⟨east, s, heast, hs, rfl⟩
    obtain ⟨n, hn, rfl⟩ := (readOffset_shift_ok_iff h).1 heast
    exact ⟨n, s, hn, hs, hshifted s n⟩
  · rintro ⟨n, s, hn, hs, rfl⟩
    exact ⟨_, s, (readOffset_shift_ok_iff h).2 ⟨n, hn, rfl⟩, hs, (hshifted s n).symm⟩

theorem twoDigits_zeros : TwoDigits ['0', '0'] :=
  ⟨rfl, List.all_eq_true.1 (by decide)⟩

theorem denotes_zeros_iff {n : Nat} : Denotes ['0', '0'] n ↔ n = 0 :=
  ⟨fun h => h.value.symm, fun h => ⟨List.all_eq_true.1 (by decide), h.symm⟩⟩

theorem isShift_zeros {sign : Char} (hsign : sign = '+' ∨ sign = '-') :
    IsShift [sign, '0', '0', ':', '0', '0'] sign ['0', '0'] ['0', '0'] :=
  ⟨Or.inl rfl, hsign, twoDigits_zeros, twoDigits_zeros⟩

theorem Stamp.reads_universal {x : Stamp} (hx : x.InForm) (hoffset : isOffset offset = true) (hzero : readOffset offset = .ok 0) :
    Reads (x.chars ++ offset) t ↔ Reads x.chars t := by
  rw [Stamp.reads_offset_iff hx hoffset]
  constructor
  · rintro ⟨east, s, heast, hs, rfl⟩
    obtain rfl := Except.ok.inj (hzero.symm.trans heast)
    simpa using hs
  · intro h
    exact ⟨0, t, hzero, h, by simp⟩

/-- no shift at all is universal time, whatever its sign -/
theorem Stamp.reads_zeros {x : Stamp} {sign : Char} (hx : x.InForm) (hsign : sign = '+' ∨ sign = '-') :
    Reads (x.chars ++ [sign, '0', '0', ':', '0', '0']) t ↔ Reads x.chars t := by
  have hshift := isShift_zeros hsign
  have hnone : ShowsShift ['0', '0'] ['0', '0'] 0 :=
    ⟨0, 0, denotes_zeros_iff.2 rfl, denotes_zeros_iff.2 rfl, by decide, by decide, rfl⟩
  have hzero : readOffset [sign, '0', '0', ':', '0', '0'] = .ok 0 :=
    (readOffset_shift_ok_iff hshift).2 ⟨0, hnone, by simp⟩
  exact Stamp.reads_universal hx (isOffset_iff.2 (Or.inr (Or.inr ⟨sign, _, _, hshift⟩))) hzero

/-! ## Dates -/

theorem readDateOnly_ok_iff (h : matchesPicture datePicture cs = true) :
    readDateOnly cs = .ok t ↔ ∃ d, ShowsDate cs d ∧ instantAt d ⟨0, 0, 0⟩ 0 = .ok t := by
  obtain ⟨ds, es, fs, hdate⟩ := matchesPicture_date.1 h
  constructor
  · intro hread
    obtain ⟨⟨d, rest⟩, hd, hread⟩ := bind_eq_ok_iff.1 hread
    dsimp only at hread
    split at hread
    · rename_i hend
      obtain rfl := List.isEmpty_iff.1 hend
      exact ⟨d, (readDate_ok_iff hdate (isValid_of_instantAt hread)).1 hd, hread⟩
    · cases hread
  · rintro ⟨d, hd, ht⟩
    exact bind_eq_ok_iff.2 ⟨_, (readDate_ok_iff hdate (isValid_of_instantAt ht)).2 hd, ht⟩

/-- a date is read as its start -/
theorem reads_date_iff (h : matchesPicture datePicture cs = true) :
    Reads cs t ↔ ∃ d, ShowsDate cs d ∧ instantAt d ⟨0, 0, 0⟩ 0 = .ok t := by
  obtain ⟨ds, es, fs, hdate⟩ := matchesPicture_date.1 h
  have htrimmed : trimmed cs = cs := by
    refine trimmed_eq_self_iff.2 ⟨fun c hc => ?_, fun c hc => ?_⟩
    · exact isBlank_of_isDecimalDigit (hdate.head_digit [] c ((List.append_nil cs).symm ▸ hc))
    · exact isBlank_of_isDecimalDigit (hdate.last_digit [] c hc)
  rw [reads_iff_readInstant, ← readDateOnly_ok_iff h]
  simp only [readInstant, String.toList_ofList, htrimmed, h, if_true]

/-- a date shows what it shows at midnight -/
theorem reads_midnight (h : matchesPicture datePicture cs = true) :
    Reads (cs ++ ['T', '0', '0', ':', '0', '0', ':', '0', '0']) t ↔ Reads cs t := by
  have hclock : InThree ':' 2 ['0', '0', ':', '0', '0', ':', '0', '0'] ['0', '0'] ['0', '0'] ['0', '0'] :=
    ⟨rfl, twoDigits_zeros, twoDigits_zeros, twoDigits_zeros⟩
  have hmidnight (c : Clock) : ShowsClock ['0', '0', ':', '0', '0', ':', '0', '0'] c ↔ c = ⟨0, 0, 0⟩ := by
    simp only [ShowsClock, hclock.shows_iff, denotes_zeros_iff]
    cases c
    simp
  have hwhole (n : Nat) : ShowsFraction [] n ↔ n = 0 :=
    ⟨fun hn => hn.value.symm, fun hn => ⟨by simp, hn.symm⟩⟩
  have hx : Stamp.InForm ⟨cs, 'T', ['0', '0', ':', '0', '0', ':', '0', '0'], []⟩ :=
    ⟨h, Or.inl rfl, matchesPicture_clock.2 ⟨_, _, _, hclock⟩, by simp⟩
  rw [reads_date_iff h]
  refine (Stamp.reads_iff hx).trans ?_
  simp only [Parts.Shows, Stamp.parts, hmidnight, hwhole]
  constructor
  · rintro ⟨d, c, n, hd, rfl, rfl, -, ht⟩
    exact ⟨d, hd, ht⟩
  · rintro ⟨d, hd, ht⟩
    exact ⟨d, ⟨0, 0, 0⟩, 0, hd, rfl, rfl, rfl, ht⟩

/-! ## All forms -/

/-- **The forms of a date-time agree.** A date-time without an offset, in decimal digits of any script, is read as the
instant that it shows, if it shows one. What is read does not change with the separator, with a sign of universal time, with
blanks around the text, with the digits of the fraction after the ninth or with zeros after them. With an offset, with a
colon or without one, the same is read less the offset, if the offset shows hours and minutes of less than a day; and a date
is read as its midnight. -/
theorem forms_agree {x : Stamp} (hx : x.InForm) (t : Instant) :
    (Reads x.chars t ↔ (x.parts none).Shows t) ∧
    (∀ separator, separator = 'T' ∨ separator = ' ' → (Reads { x with separator := separator }.chars t ↔ Reads x.chars t)) ∧
    (∀ zone ∈ [['Z'], ['z'], ['+', '0', '0', ':', '0', '0'], ['-', '0', '0', ':', '0', '0']],
      Reads (x.chars ++ zone) t ↔ Reads x.chars t) ∧
    (∀ before after, (∀ c ∈ before, isBlank c = true) → (∀ c ∈ after, isBlank c = true) →
      (Reads (before ++ x.chars ++ after) t ↔ Reads x.chars t)) ∧
    (∀ offset hours minutes, IsShift offset '+' hours minutes → (Reads (x.chars ++ offset) t ↔
      ∃ n s, ShowsShift hours minutes n ∧ Reads x.chars s ∧ t = ⟨s.seconds - n * 60, s.nanos⟩)) ∧
    (∀ offset hours minutes, IsShift offset '-' hours minutes → (Reads (x.chars ++ offset) t ↔
      ∃ n s, ShowsShift hours minutes n ∧ Reads x.chars s ∧ t = ⟨s.seconds + n * 60, s.nanos⟩)) ∧
    (∀ fraction, (∀ c ∈ fraction, isDecimalDigit c = true) → fraction.take 9 = x.fraction.take 9 →
      (Reads { x with fraction := fraction }.chars t ↔ Reads x.chars t)) ∧
    (∀ k, Reads { x with fraction := x.fraction ++ List.replicate k '0' }.chars t ↔ Reads x.chars t) ∧
    (Reads (x.date ++ ['T', '0', '0', ':', '0', '0', ':', '0', '0']) t ↔ Reads x.date t) := by
  have hwith {fraction : List Char} (h : ∀ c ∈ fraction, isDecimalDigit c = true) :
      ({ x with fraction := fraction } : Stamp).InForm := ⟨hx.date, hx.separator, hx.clock, h⟩
  refine ⟨Stamp.reads_iff hx, fun separator h => ?separator, fun zone h => ?universal,
    fun before after => reads_surrounded, ?east, ?west, fun fraction h hnine => ?nine, fun k => ?zeros,
    reads_midnight hx.date⟩
  case separator => exact Stamp.reads_congr hx ⟨hx.date, h, hx.clock, hx.fraction⟩ rfl rfl fun n => Iff.rfl
  case universal =>
    simp only [List.mem_cons, List.not_mem_nil, or_false] at h
    rcases h with rfl | rfl | rfl | rfl
    · exact Stamp.reads_universal hx rfl rfl
    · exact Stamp.reads_universal hx rfl rfl
    · exact Stamp.reads_zeros hx (Or.inl rfl)
    · exact Stamp.reads_zeros hx (Or.inr rfl)
  case east => exact fun offset hours minutes h => Stamp.reads_shift_iff hx h
  case west => exact fun offset hours minutes h => Stamp.reads_shift_iff hx h
  case nine => exact Stamp.reads_congr hx (hwith h) rfl rfl fun n => showsFraction_congr hnine
  case zeros =>
    refine Stamp.reads_congr hx (hwith (List.forall_mem_append.2 ⟨hx.fraction, fun c hc => ?_⟩)) rfl rfl fun n =>
      showsFraction_zeros k
    rw [List.eq_of_mem_replicate hc]
    rfl

/-- the leap second at the end of 2016, with a fraction -/
def leapStamp : Stamp :=
  ⟨"2016-12-31".toList, 'T', "23:59:60".toList, ['2', '5']⟩

/-- written west of universal time it is read as a leap second of the next year, with its nanoseconds -/
theorem forms_agree_leap : leapStamp.InForm ∧ Reads (leapStamp.chars ++ "-0130".toList) ⟨1483234199, 1250000000⟩ := by
  have hx : leapStamp.InForm :=
    ⟨by decide +kernel, Or.inl rfl, by decide +kernel, List.all_eq_true.1 (by decide +kernel)⟩
  have hread : Reads leapStamp.chars ⟨1483228799, 1250000000⟩ := by
    rw [reads_iff_readInstant]
    decide +kernel
  have hshift : IsShift "-0130".toList '-' ['0', '1'] ['3', '0'] :=
    ⟨Or.inr rfl, Or.inr rfl, ⟨rfl, List.all_eq_true.1 (by decide)⟩, rfl, List.all_eq_true.1 (by decide)⟩
  have hshown : ShowsShift ['0', '1'] ['3', '0'] 90 :=
    ⟨1, 30, ⟨List.all_eq_true.1 (by decide), rfl⟩, ⟨List.all_eq_true.1 (by decide), rfl⟩, by decide, by decide, rfl⟩
  obtain ⟨-, -, -, -, -, hwest, -⟩ := forms_agree hx ⟨1483234199, 1250000000⟩
  exact ⟨hx, (hwest _ _ _ hshift).2 ⟨90, ⟨1483228799, 1250000000⟩, hshown, hread, rfl⟩⟩

end Telemetry.Time
