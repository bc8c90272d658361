import Mathlib.Data.List.TakeWhile
import Telemetry.Proofs.Decimal.Digits
import Telemetry.Proofs.Except
import Telemetry.Proofs.Time.Calendar
import Telemetry.Time.Reader
/-
What the fields of a date-time show, and that both readers read it.

A date and a clock are three numbers with marks between them. One reader takes the digits that a field has, judges the
number at once and goes on with whatever follows; the other asks for all digits first. A field in the form of a date-time
has digits of some script where digits belong, so a digit that is not ASCII stops the first reader where a mark or the end is
due: both read the same fields, and refuse the same.

- `readThree_ok_iff`: three numbers, by readers of either kind;
- `readUniversal_ok_iff`, `readWithOffset_ok_iff`: a date-time without an offset and with one.
-/
namespace Telemetry.Time

open Decimal Text

variable {cs ds es fs rest : List Char} {mark : Char} {width a b c n : Nat}

/-! ## Three numbers -/

/-- runs of digits of any script, with marks between them -/
structure InThree (mark : Char) (width : Nat) (cs ds es fs : List Char) : Prop where
  chars : cs = ds ++ mark :: (es ++ mark :: fs)
  first : ds.length = width ∧ ∀ c ∈ ds, isDecimalDigit c = true
  second : es.length = 2 ∧ ∀ c ∈ es, isDecimalDigit c = true
  third : fs.length = 2 ∧ ∀ c ∈ fs, isDecimalDigit c = true

/-- the numbers that three runs of ASCII digits show -/
def ShowsThree (mark : Char) (width : Nat) (cs : List Char) (a b c : Nat) : Prop :=
  ∃ ds es fs, cs = ds ++ mark :: (es ++ mark :: fs) ∧ ds.length = width ∧ es.length = 2 ∧ fs.length = 2 ∧
    Denotes ds a ∧ Denotes es b ∧ Denotes fs c

/-- runs of known lengths are found again -/
theorem InThree.shows_iff (h : InThree mark width cs ds es fs) :
    ShowsThree mark width cs a b c ↔ Denotes ds a ∧ Denotes es b ∧ Denotes fs c := by
  constructor
  · rintro ⟨ds', es', fs', hchars, hds, hes, hfs, ha, hb, hc⟩
    rw [h.chars] at hchars
    obtain ⟨rfl, hafter⟩ := List.append_inj hchars (h.first.1.trans hds.symm)
    obtain ⟨rfl, hlast⟩ := List.append_inj (List.tail_eq_of_cons_eq hafter) (h.second.1.trans hes.symm)
    obtain rfl := List.tail_eq_of_cons_eq hlast
    exact ⟨ha, hb, hc⟩
  · rintro ⟨ha, hb, hc⟩
    exact ⟨ds, es, fs, h.chars, h.first.1, h.second.1, h.third.1, ha, hb, hc⟩

/-- a reader of numbers of `width` digits: it reads those that are allowed, and fails on others or, where it may, leaves a
digit unread -/
structure NumberReader (reader : List Char → Except Fault (Nat × List Char)) (width : Nat) (Allowed : Nat → Prop)
    (MayLeave : Prop) : Prop where
  reads : ∀ {ds rest n}, ds.length = width → Denotes ds n → Allowed n → reader (ds ++ rest) = .ok (n, rest)
  read : ∀ {ds rest n rest'}, ds.length = width → (∀ c ∈ ds, isDecimalDigit c = true) →
    reader (ds ++ rest) = .ok (n, rest') →
      (Denotes ds n ∧ Allowed n ∧ rest' = rest) ∨ MayLeave ∧ ∃ c cs, rest' = c :: cs ∧ isDecimalDigit c = true

theorem readField_numberReader {width : Nat} (hwidth : 0 < width) (least greatest : Nat) :
    NumberReader (readField width least greatest) width (fun n => least ≤ n ∧ n ≤ greatest) True := by
  refine ⟨fun {ds rest n} hlength hn hallowed => ?_, fun {ds rest n rest'} hlength hdigits h => ?_⟩
  · have hall : ds.takeWhile isAsciiDigit = ds := List.takeWhile_eq_self_iff.2 hn.digits
    have hne : ds.isEmpty = false := by
      rw [List.isEmpty_eq_false_iff]
      exact List.ne_nil_of_length_pos (by omega)
    simp only [readField, ← hlength, List.take_left, hall, hne, List.drop_left, hn.value]
    exact if_pos hallowed
  · have htaken : (ds ++ rest).take width = ds := by rw [← hlength, List.take_left]
    simp only [readField, htaken] at h
    split at h
    · cases h
    split at h
    · rename_i hallowed
      cases h
      -- the digits end with the field, or before one of another script
      rcases hafter : ds.dropWhile isAsciiDigit with _ | ⟨c, cs⟩
      · have hall : ∀ c ∈ ds, isAsciiDigit c = true := List.dropWhile_eq_nil_iff.1 hafter
        have hself : ds.takeWhile isAsciiDigit = ds := List.takeWhile_eq_self_iff.2 hall
        rw [hself] at hallowed ⊢
        exact Or.inl ⟨⟨hall, rfl⟩, hallowed, List.drop_left⟩
      · have hsplit : ds.takeWhile isAsciiDigit ++ c :: cs = ds := by
          rw [← hafter, List.takeWhile_append_dropWhile]
        have hrest : ds ++ rest = ds.takeWhile isAsciiDigit ++ (c :: cs ++ rest) := by
          rw [← List.append_assoc, hsplit]
        refine Or.inr ⟨trivial, c, cs ++ rest, ?_, ?_⟩
        · rw [hrest, List.drop_left, List.cons_append]
        · exact hdigits c (hsplit ▸ List.mem_append_right _ List.mem_cons_self)
    · cases h

theorem readDigits_numberReader {width : Nat} : NumberReader (readDigits width) width (fun _ => True) False := by
  refine ⟨fun {ds rest n} hlength hn _ => ?_, fun {ds rest n rest'} hlength hdigits h => ?_⟩
  · have hall : ds.takeWhile isAsciiDigit = ds := List.takeWhile_eq_self_iff.2 hn.digits
    simp only [readDigits, ← hlength, List.take_left, hall, List.drop_left, hn.value]
    exact if_neg (Nat.lt_irrefl _)
  · have htaken : (ds ++ rest).take width = ds := by rw [← hlength, List.take_left]
    simp only [readDigits, htaken] at h
    split at h
    · cases h
    · rename_i hcomplete
      cases h
      have hself : ds.takeWhile isAsciiDigit = ds :=
        (List.takeWhile_prefix isAsciiDigit).eq_of_length_le (by omega)
      rw [hself, ← hlength, List.drop_left]
      exact Or.inl ⟨⟨List.takeWhile_eq_self_iff.1 hself, rfl⟩, trivial, rfl⟩

theorem readMark_ok_iff : readMark mark cs = .ok rest ↔ cs = mark :: rest := by
  cases cs with
  | nil => simp [readMark]
  | cons c cs => by_cases hc : c = mark <;> simp [readMark, hc]

theorem readThree_eq_ok_iff {first second third : List Char → Except Fault (Nat × List Char)} :
    readThree mark first second third cs = .ok ((a, b, c), rest) ↔
      ∃ r₁ r₂, first cs = .ok (a, mark :: r₁) ∧ second r₁ = .ok (b, mark :: r₂) ∧ third r₂ = .ok (c, rest) := by
  constructor
  · intro h
    obtain ⟨⟨a', s₁⟩, hfirst, h⟩ := bind_eq_ok_iff.1 h
    obtain ⟨r₁, hmark₁, h⟩ := bind_eq_ok_iff.1 h
    obtain ⟨⟨b', s₂⟩, hsecond, h⟩ := bind_eq_ok_iff.1 h
    obtain ⟨r₂, hmark₂, h⟩ := bind_eq_ok_iff.1 h
    obtain ⟨⟨c', s₃⟩, hthird, h⟩ := bind_eq_ok_iff.1 h
    cases h
    exact ⟨r₁, r₂, readMark_ok_iff.1 hmark₁ ▸ hfirst, readMark_ok_iff.1 hmark₂ ▸ hsecond, hthird⟩
  · rintro ⟨r₁, r₂, hfirst, hsecond, hthird⟩
    refine bind_eq_ok_iff.2 ⟨_, hfirst, bind_eq_ok_iff.2 ⟨r₁, readMark_ok_iff.2 rfl, ?_⟩⟩
    refine bind_eq_ok_iff.2 ⟨_, hsecond, bind_eq_ok_iff.2 ⟨r₂, readMark_ok_iff.2 rfl, ?_⟩⟩
    exact bind_eq_ok_iff.2 ⟨_, hthird, rfl⟩

section Three

variable {first second third : List Char → Except Fault (Nat × List Char)} {A B C : Nat → Prop} {MayLeave : Prop}
  (hfirst : NumberReader first width A MayLeave) (hsecond : NumberReader second 2 B MayLeave)
  (hthird : NumberReader third 2 C MayLeave)

include hfirst hsecond hthird

/-- a digit that is left unread is no mark, so it can only be left at the end -/
theorem readThree_read (hmark : isDecimalDigit mark = false) (h : InThree mark width cs ds es fs)
    (hread : readThree mark first second third cs = .ok ((a, b, c), rest)) :
    (ShowsThree mark width cs a b c ∧ A a ∧ B b ∧ C c ∧ rest = []) ∨ MayLeave ∧ rest ≠ [] := by
  have hnoMark (r : List Char) : ¬ ∃ c cs, mark :: r = c :: cs ∧ isDecimalDigit c = true := by
    rintro ⟨c, cs, hc, hdigit⟩
    rw [← (List.cons.inj hc).1, hmark] at hdigit
    cases hdigit
  obtain ⟨r₁, r₂, h₁, h₂, h₃⟩ := readThree_eq_ok_iff.1 hread
  rw [h.chars] at h₁
  rcases hfirst.read h.first.1 h.first.2 h₁ with ⟨ha, hA, hr₁⟩ | ⟨-, hleft⟩
  · obtain rfl := List.tail_eq_of_cons_eq hr₁
    rcases hsecond.read h.second.1 h.second.2 h₂ with ⟨hb, hB, hr₂⟩ | ⟨-, hleft⟩
    · obtain rfl := List.tail_eq_of_cons_eq hr₂
      rw [← List.append_nil r₂] at h₃
      rcases hthird.read h.third.1 h.third.2 h₃ with ⟨hc, hC, hrest⟩ | ⟨hmay, c, cs, hleft, -⟩
      · exact Or.inl ⟨h.shows_iff.2 ⟨ha, hb, hc⟩, hA, hB, hC, hrest⟩
      · exact Or.inr ⟨hmay, by simp [hleft]⟩
    · exact absurd hleft (hnoMark r₂)
  · exact absurd hleft (hnoMark r₁)

/-- three numbers are read if they are shown and allowed -/
theorem readThree_ok_iff (hmark : isDecimalDigit mark = false) (h : InThree mark width cs ds es fs) :
    readThree mark first second third cs = .ok ((a, b, c), []) ↔ ShowsThree mark width cs a b c ∧ A a ∧ B b ∧ C c := by
  constructor
  · intro hread
    rcases readThree_read hfirst hsecond hthird hmark h hread with ⟨hshown, hA, hB, hC, -⟩ | ⟨-, hrest⟩
    · exact ⟨hshown, hA, hB, hC⟩
    · exact absurd rfl hrest
  · rintro ⟨hshown, hA, hB, hC⟩
    obtain ⟨ha, hb, hc⟩ := h.shows_iff.1 hshown
    refine readThree_eq_ok_iff.2 ⟨es ++ mark :: fs, fs, ?_, hsecond.reads h.second.1 hb hB, ?_⟩
    · rw [h.chars]
      exact hfirst.reads h.first.1 ha hA
    · rw [← List.append_nil fs]
      exact hthird.reads h.third.1 hc hC

end Three

/-- complete runs of digits are read if they are shown, and nothing is left -/
theorem readThree_digits_iff (hmark : isDecimalDigit mark = false) (h : InThree mark width cs ds es fs) :
    readThree mark (readDigits width) (readDigits 2) (readDigits 2) cs = .ok ((a, b, c), rest) ↔
      ShowsThree mark width cs a b c ∧ rest = [] := by
  constructor
  · intro hread
    rcases readThree_read readDigits_numberReader readDigits_numberReader readDigits_numberReader hmark h hread with
      ⟨hshown, -, -, -, hrest⟩ | ⟨hnever, -⟩
    · exact ⟨hshown, hrest⟩
    · exact hnever.elim
  · rintro ⟨hshown, rfl⟩
    exact (readThree_ok_iff readDigits_numberReader readDigits_numberReader readDigits_numberReader hmark h).2
      ⟨hshown, trivial, trivial, trivial⟩

/-! ## Dates, clocks and fractions -/

/-- the date that characters show -/
def ShowsDate (cs : List Char) (d : Date) : Prop :=
  ∃ year : Nat, d.year = year ∧ ShowsThree '-' 4 cs year d.month d.day

/-- the clock that characters show -/
def ShowsClock (cs : List Char) (c : Clock) : Prop :=
  ShowsThree ':' 2 cs c.hour c.minute c.second

/-- the nanoseconds that the digits of a fraction show: nine digits count -/
structure ShowsFraction (fraction : List Char) (nanos : Nat) : Prop where
  digits : ∀ c ∈ fraction.take 9, isAsciiDigit c = true
  value : digitsValue (fraction.take 9) * 10 ^ (9 - (fraction.take 9).length) = nanos

/-- fields that are judged one by one show a date if it exists -/
theorem readDate_ok_iff {d : Date} (h : InThree '-' 4 cs ds es fs) (hd : d.isValid = true) :
    readDate cs = .ok (d, []) ↔ ShowsDate cs d := by
  have hthree {year month day : Nat} := readThree_ok_iff (a := year) (b := month) (c := day)
    (readField_numberReader (by decide) 0 9999)
    (readField_numberReader (by decide) 1 12)
    (readField_numberReader (by decide) 1 31) (by decide) h
  constructor
  · intro hread
    obtain ⟨⟨⟨year, month, day⟩, rest⟩, hfields, hdone⟩ := bind_eq_ok_iff.1 hread
    cases hdone
    exact ⟨year, rfl, (hthree.1 hfields).1⟩
  · obtain ⟨hmonth, hday⟩ := Date.isValid_bounds hd
    obtain ⟨y, month, day⟩ := d
    rintro ⟨year, rfl, hshown⟩
    have hyear : year ≤ 9999 := by
      have hlt := (h.shows_iff.1 hshown).1.lt
      rw [h.first.1] at hlt
      omega
    exact bind_eq_ok_iff.2 ⟨_, hthree.2 ⟨hshown, ⟨Nat.zero_le _, hyear⟩, hmonth, hday⟩, rfl⟩

theorem readWholeDate_ok_iff {d : Date} (h : InThree '-' 4 cs ds es fs) :
    readWholeDate cs = .ok d ↔ ShowsDate cs d ∧ d.isValid = true := by
  constructor
  · intro hread
    obtain ⟨⟨⟨year, month, day⟩, rest⟩, hfields, hrest⟩ := bind_eq_ok_iff.1 hread
    dsimp only at hrest
    split at hrest
    · rename_i hvalid
      cases hrest
      exact ⟨⟨year, rfl, ((readThree_digits_iff (by decide) h).1 hfields).1⟩, hvalid⟩
    · cases hrest
  · obtain ⟨y, month, day⟩ := d
    rintro ⟨⟨year, rfl, hshown⟩, hvalid⟩
    exact bind_eq_ok_iff.2 ⟨_, (readThree_digits_iff (by decide) h).2 ⟨hshown, rfl⟩, if_pos hvalid⟩

theorem Clock.isValid_iff {c : Clock} : c.isValid = true ↔ c.hour ≤ 23 ∧ c.minute ≤ 59 ∧ c.second ≤ 60 := by
  simp [Clock.isValid, and_assoc]

theorem readClock_ok_iff {c : Clock} (h : InThree ':' 2 cs ds es fs) :
    readClock cs = .ok (c, []) ↔ ShowsClock cs c ∧ c.isValid = true := by
  have hthree {hour minute second : Nat} := readThree_ok_iff (a := hour) (b := minute) (c := second)
    (readField_numberReader (by decide) 0 23)
    (readField_numberReader (by decide) 0 59)
    (readField_numberReader (by decide) 0 60) (by decide) h
  rw [Clock.isValid_iff]
  constructor
  · intro hread
    obtain ⟨⟨⟨hour, minute, second⟩, rest⟩, hfields, hdone⟩ := bind_eq_ok_iff.1 hread
    cases hdone
    obtain ⟨hshown, hhour, hminute, hsecond⟩ := hthree.1 hfields
    exact ⟨hshown, hhour.2, hminute.2, hsecond.2⟩
  · rintro ⟨hshown, hhour, hminute, hsecond⟩
    refine bind_eq_ok_iff.2 ⟨_, hthree.2 ⟨hshown, ⟨?_, hhour⟩, ⟨?_, hminute⟩, ?_, hsecond⟩, rfl⟩ <;> exact Nat.zero_le _

theorem readWholeClock_ok_iff {c : Clock} (h : InThree ':' 2 cs ds es fs) :
    readWholeClock cs = .ok c ↔ ShowsClock cs c := by
  constructor
  · intro hread
    obtain ⟨⟨⟨hour, minute, second⟩, rest⟩, hfields, hdone⟩ := bind_eq_ok_iff.1 hread
    cases hdone
    exact ((readThree_digits_iff (by decide) h).1 hfields).1
  · intro hshown
    exact bind_eq_ok_iff.2 ⟨_, (readThree_digits_iff (by decide) h).2 ⟨hshown, rfl⟩, rfl⟩

/-- a fraction is read to its end if the digits that count are ASCII -/
theorem readFractionNanos_ok_iff : readFractionNanos cs = .ok (n, []) ↔ ShowsFraction cs n := by
  unfold readFractionNanos
  split
  · rename_i hempty
    rw [List.isEmpty_iff.1 hempty]
    constructor
    · intro h
      cases h
      exact ⟨by simp, rfl⟩
    · intro h
      rw [← h.value]
      rfl
  · rename_i hsome
    have hkept : cs.take 9 ≠ [] := by simpa using hsome
    dsimp only
    constructor
    · intro h
      split at h
      · cases h
      · obtain ⟨hvalue, hrest⟩ := Prod.mk.inj (Except.ok.inj h)
        have hall : (cs.take 9).takeWhile isAsciiDigit = cs.take 9 :=
          (List.takeWhile_prefix isAsciiDigit).eq_of_length_le (List.drop_eq_nil_iff.1 hrest)
        rw [hall] at hvalue
        exact ⟨List.takeWhile_eq_self_iff.1 hall, hvalue⟩
    · intro h
      have hall : (cs.take 9).takeWhile isAsciiDigit = cs.take 9 := List.takeWhile_eq_self_iff.2 h.digits
      rw [hall, if_neg (by simpa using hkept), List.drop_length, ← h.value]
      rfl

/-! ## Date-times -/

/-- the parts of a text in the form of a date-time -/
structure Parts.InForm (p : Parts) : Prop where
  date : ∃ ds es fs, InThree '-' 4 p.date ds es fs
  clock : ∃ ds es fs, InThree ':' 2 p.clock ds es fs

/-- what the parts show, as an instant of universal time -/
def Parts.Shows (p : Parts) (t : Instant) : Prop :=
  ∃ d c nanos, ShowsDate p.date d ∧ ShowsClock p.clock c ∧ ShowsFraction p.fraction nanos ∧ c.isValid = true ∧
    instantAt d c nanos = .ok t

theorem isValid_of_instantAt {d : Date} {c : Clock} {nanos : Nat} {t : Instant} (h : instantAt d c nanos = .ok t) :
    d.isValid = true := by
  unfold instantAt at h
  split at h
  · assumption
  · cases h

/-- a computation gets past a check that it does not fail -/
theorem check_eq_ok_iff {α β : Type} {failed : Bool} {fault : Fault} {f : α → Except Fault β} {x : Except Fault β} {b : β} :
    (if failed = true then throw fault >>= f else x) = .ok b ↔ failed = false ∧ x = .ok b := by
  cases failed with
  | true =>
    constructor
    · intro h
      cases h
    · rintro ⟨h, -⟩
      cases h
  | false => simp

theorem nil_of_isEmpty {cs : List Char} (h : (!cs.isEmpty) = false) : cs = [] := by
  simpa using h

/-- a date-time without an offset is read as the instant that it shows -/
theorem readUniversal_ok_iff {p : Parts} {t : Instant} (hp : p.InForm) : readUniversal p = .ok t ↔ p.Shows t := by
  obtain ⟨⟨ds, es, fs, hdate⟩, ds', es', fs', hclock⟩ := hp
  constructor
  · intro h
    obtain ⟨⟨d, rest⟩, hd, h⟩ := bind_eq_ok_iff.1 h
    obtain ⟨hend, h⟩ := check_eq_ok_iff.1 h
    obtain rfl := nil_of_isEmpty hend
    obtain ⟨⟨c, rest⟩, hc, h⟩ := bind_eq_ok_iff.1 h
    obtain ⟨hend, h⟩ := check_eq_ok_iff.1 h
    obtain rfl := nil_of_isEmpty hend
    obtain ⟨⟨nanos, rest⟩, hn, h⟩ := bind_eq_ok_iff.1 h
    obtain ⟨hend, ht⟩ := check_eq_ok_iff.1 h
    obtain rfl := nil_of_isEmpty hend
    obtain ⟨hc, hvalid⟩ := (readClock_ok_iff hclock).1 hc
    exact ⟨d, c, nanos, (readDate_ok_iff hdate (isValid_of_instantAt ht)).1 hd, hc, readFractionNanos_ok_iff.1 hn, hvalid, ht⟩
  · rintro ⟨d, c, nanos, hd, hc, hn, hvalid, ht⟩
    have hd := (readDate_ok_iff hdate (isValid_of_instantAt ht)).2 hd
    have hc := (readClock_ok_iff hclock).2 ⟨hc, hvalid⟩
    refine bind_eq_ok_iff.2 ⟨_, hd, check_eq_ok_iff.2 ⟨rfl, ?_⟩⟩
    refine bind_eq_ok_iff.2 ⟨_, hc, check_eq_ok_iff.2 ⟨rfl, ?_⟩⟩
    exact bind_eq_ok_iff.2 ⟨_, readFractionNanos_ok_iff.2 hn, check_eq_ok_iff.2 ⟨rfl, ht⟩⟩

/-- a date-time with an offset is read as the instant that it shows less the offset -/
theorem readWithOffset_ok_iff {p : Parts} {offset : List Char} {t : Instant} (hp : p.InForm) :
    readWithOffset p offset = .ok t ↔
      ∃ east s, readOffset offset = .ok east ∧ p.Shows s ∧ t = { s with seconds := s.seconds - east } := by
  obtain ⟨⟨ds, es, fs, hdate⟩, ds', es', fs', hclock⟩ := hp
  constructor
  · intro h
    obtain ⟨d, hd, h⟩ := bind_eq_ok_iff.1 h
    obtain ⟨c, hc, h⟩ := bind_eq_ok_iff.1 h
    obtain ⟨⟨nanos, rest⟩, hn, h⟩ := bind_eq_ok_iff.1 h
    obtain ⟨hinvalid, h⟩ := check_eq_ok_iff.1 h
    obtain ⟨hend, h⟩ := check_eq_ok_iff.1 h
    obtain rfl := nil_of_isEmpty hend
    obtain ⟨east, heast, h⟩ := bind_eq_ok_iff.1 h
    obtain ⟨s, hs, h⟩ := bind_eq_ok_iff.1 h
    cases h
    have hshown := ((readWholeDate_ok_iff hdate).1 hd).1
    refine ⟨east, s, heast, ⟨d, c, nanos, hshown, (readWholeClock_ok_iff hclock).1 hc, readFractionNanos_ok_iff.1 hn, ?_, hs⟩, rfl⟩
    simpa using hinvalid
  · rintro ⟨east, s, heast, ⟨d, c, nanos, hd, hc, hn, hvalid, hs⟩, rfl⟩
    have hd := (readWholeDate_ok_iff hdate).2 ⟨hd, isValid_of_instantAt hs⟩
    refine bind_eq_ok_iff.2 ⟨_, hd, bind_eq_ok_iff.2 ⟨_, (readWholeClock_ok_iff hclock).2 hc, ?_⟩⟩
    refine bind_eq_ok_iff.2 ⟨_, readFractionNanos_ok_iff.2 hn, check_eq_ok_iff.2 ⟨by simpa using hvalid, ?_⟩⟩
    exact check_eq_ok_iff.2 ⟨rfl, bind_eq_ok_iff.2 ⟨_, heast, bind_eq_ok_iff.2 ⟨_, hs, rfl⟩⟩⟩

end Telemetry.Time
