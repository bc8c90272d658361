import Telemetry.Proofs.Json.InRange
import Telemetry.Proofs.Payload.RowCounts
/-
Which rows a format accepts.

Reading accepts exactly what writing back gives: checked rows are the given rows, cell by cell and entry by entry, so nothing
is lost and no two texts of a payload have the same rows. The first row that is not empty tells the format. If any format
accepts all rows, the told one does; else the first row that does not fit is reported.

- `Rows.parse_eq_ok_iff`: the checked form of rows, as what they are when written back;
- `detectFormat_of_parse`: accepted rows tell a format that accepts them;
- `Rows.parse_error`, `detectFormat_error`: the row that is reported is the first that does not fit;
- `Single.rows_inRange`: the rows that are read from a text;
- `rows_accepted`: all this of a payload.
-/
namespace Telemetry.Payload

open Json Decimal

/-! ## Rows written back -/

def Entry.written (e : Entry) : Value :=
  .array [.ofNat e.index, e.value]

def Entry.writtenRow (entries : List Entry) : Value :=
  .array (entries.map Entry.written)

/-- the rows as they are sent -/
def Rows.written : Rows → List Value
  | .implicit rows => rows.map .array
  | .explicit rows => rows.map Entry.writtenRow

/-- no cell of an implicit row is an array or an object -/
def Rows.Flat : Rows → Prop
  | .implicit rows => ∀ row ∈ rows, ∀ v ∈ row, v.isNested = false
  | .explicit _ => True

/-- what a format asks of a row: cells that are neither arrays nor objects, or pairs of an index and any value -/
def Format.Fits : Format → Value → Prop
  | .implicit, row => ∃ values, row = .array values ∧ ∀ v ∈ values, v.isNested = false
  | .explicit, row => ∃ pairs, row = .array pairs ∧ ∀ pair ∈ pairs, ∃ e : Entry, pair = e.written

variable {α β ε : Type} {step : Nat → α → Except ε β} {i rowIndex : Nat} {as : List α} {bs : List β} {row : Value}
  {rows : List Value} {format : Format} {parsed : Rows} {e : ParserError}

/-! ## Reading one by one -/

/-- what can be read is read the same at every position -/
theorem eachFrom_eq_ok_iff {R : α → β → Prop} (hstep : ∀ j a b, step j a = .ok b ↔ R a b) :
    eachFrom step i as = .ok bs ↔ List.Forall₂ R as bs := by
  constructor
  · intro h
    exact (eachFrom_forall₂ h).imp fun a b ⟨j, hb⟩ => (hstep j a b).1 hb
  · intro h
    induction h generalizing i with
    | nil => rfl
    | cons hb _ ih => exact bind_eq_ok_iff.2 ⟨_, (hstep i _ _).2 hb, bind_eq_ok_iff.2 ⟨_, ih, rfl⟩⟩

/-- reading one by one stops at the first element that cannot be read -/
theorem eachFrom_error {e : ε} (h : eachFrom step i as = .error e) :
    ∃ before a after, as = before ++ a :: after ∧ (∀ x ∈ before, ∃ j b, step j x = .ok b) ∧
      step (i + before.length) a = .error e := by
  induction as generalizing i with
  | nil => cases h
  | cons first as ih =>
    cases hfirst : step i first with
    | error e' =>
      simp only [eachFrom, hfirst, Bind.bind, Except.bind] at h
      cases h
      exact ⟨[], first, as, rfl, by simp, hfirst⟩
    | ok b =>
      cases hrest : eachFrom step (i + 1) as with
      | ok bs =>
        simp only [eachFrom, hfirst, hrest, Bind.bind, Except.bind] at h
        cases h
      | error e' =>
        simp only [eachFrom, hfirst, hrest, Bind.bind, Except.bind] at h
        cases h
        obtain ⟨before, a, after, rfl, hbefore, ha⟩ := ih hrest
        refine ⟨first :: before, a, after, rfl, List.forall_mem_cons.2 ⟨⟨i, b, hfirst⟩, hbefore⟩, ?_⟩
        rwa [List.length_cons, Nat.add_comm before.length, ← Nat.add_assoc]

theorem exists_forall₂_iff {R : α → β → Prop} : (∃ bs, List.Forall₂ R as bs) ↔ ∀ a ∈ as, ∃ b, R a b := by
  constructor
  · rintro ⟨bs, h⟩ a ha
    obtain ⟨b, -, hb⟩ := exists_of_forall₂ h.flip ha
    exact ⟨b, hb⟩
  · intro h
    induction as with
    | nil => exact ⟨[], .nil⟩
    | cons a as ih =>
      obtain ⟨⟨b, hb⟩, hrest⟩ := List.forall_mem_cons.1 h
      obtain ⟨bs, hbs⟩ := ih hrest
      exact ⟨b :: bs, .cons hb hbs⟩

theorem forall₂_written_iff {write : β → α} {P : β → Prop} :
    List.Forall₂ (fun a b => a = write b ∧ P b) as bs ↔ as = bs.map write ∧ ∀ b ∈ bs, P b := by
  induction bs generalizing as with
  | nil => simp
  | cons b bs ih =>
    rw [List.forall₂_cons_right_iff]
    constructor
    · rintro ⟨a, rest, ⟨rfl, hb⟩, hrest, rfl⟩
      obtain ⟨rfl, hbs⟩ := ih.1 hrest
      exact ⟨rfl, List.forall_mem_cons.2 ⟨hb, hbs⟩⟩
    · rintro ⟨rfl, h⟩
      obtain ⟨hb, hbs⟩ := List.forall_mem_cons.1 h
      exact ⟨write b, bs.map write, ⟨rfl, hb⟩, ih.2 ⟨rfl, hbs⟩, rfl⟩

theorem forall₂_eq_map_iff {write : β → α} : List.Forall₂ (fun a b => a = write b) as bs ↔ as = bs.map write := by
  have h : List.Forall₂ (fun a b => a = write b ∧ True) as bs ↔ as = bs.map write ∧ ∀ b ∈ bs, True := forall₂_written_iff
  simpa using h

/-! ## One row -/

theorem rowValues_eq_ok_iff {values : List Value} : rowValues rowIndex row = .ok values ↔ row = .array values := by
  cases row <;> simp [rowValues, Value.items?]

theorem parseImplicitRow_eq_ok_iff (rowIndex : Nat) (row : Value) (values : List Value) :
    parseImplicitRow rowIndex row = .ok values ↔ row = .array values ∧ ∀ v ∈ values, v.isNested = false := by
  unfold parseImplicitRow
  rw [bind_eq_ok_iff]
  simp only [rowValues_eq_ok_iff]
  constructor
  · rintro ⟨found, rfl, hrest⟩
    split at hrest
    · cases hrest
    · rename_i hnone
      cases hrest
      exact ⟨rfl, by simpa using hnone⟩
  · rintro ⟨rfl, hflat⟩
    have hnone : values.findIdx? Value.isNested = none := by simpa using hflat
    exact ⟨values, rfl, by rw [hnone]; rfl⟩

/-- an entry is read from the pair it is written as, and from no other value -/
theorem parseEntry_eq_ok_iff (rowIndex : Nat) (pair : Value) (entry : Entry) :
    parseEntry rowIndex pair = .ok entry ↔ pair = entry.written := by
  constructor
  · intro h
    unfold parseEntry at h
    split at h
    · split at h
      · split at h
        · rename_i index hnonneg
          cases h
          simp [Entry.written, Value.ofNat, Int.toNat_of_nonneg hnonneg]
        · cases h
      · cases h
    · cases h
    · cases h
  · rintro rfl
    simp [parseEntry, Entry.written, Value.ofNat]

theorem parseEntries_eq_ok_iff {pairs : List Value} {entries : List Entry} :
    eachFrom (fun _ pair => parseEntry rowIndex pair) 0 pairs = .ok entries ↔ pairs = entries.map Entry.written :=
  (eachFrom_eq_ok_iff fun _ => parseEntry_eq_ok_iff rowIndex).trans forall₂_eq_map_iff

theorem parseExplicitRow_eq_ok_iff (rowIndex : Nat) (row : Value) (entries : List Entry) :
    parseExplicitRow rowIndex row = .ok entries ↔ row = Entry.writtenRow entries := by
  unfold parseExplicitRow
  rw [bind_eq_ok_iff]
  simp only [rowValues_eq_ok_iff, parseEntries_eq_ok_iff]
  constructor
  · rintro ⟨pairs, rfl, rfl⟩
    rfl
  · rintro rfl
    exact ⟨_, rfl, rfl⟩

theorem fits_explicit_iff : Format.explicit.Fits row ↔ ∃ entries, row = Entry.writtenRow entries := by
  simp only [Format.Fits, ← exists_forall₂_iff, forall₂_eq_map_iff]
  constructor
  · rintro ⟨pairs, rfl, entries, rfl⟩
    exact ⟨entries, rfl⟩
  · rintro ⟨entries, rfl⟩
    exact ⟨_, rfl, entries, rfl⟩

/-! ## All rows -/

theorem implicitRows_eq_ok_iff {cells : List (List Value)} :
    eachFrom parseImplicitRow i rows = .ok cells ↔
      rows = cells.map .array ∧ ∀ values ∈ cells, ∀ v ∈ values, v.isNested = false :=
  (eachFrom_eq_ok_iff parseImplicitRow_eq_ok_iff).trans forall₂_written_iff

theorem explicitRows_eq_ok_iff {entries : List (List Entry)} :
    eachFrom parseExplicitRow i rows = .ok entries ↔ rows = entries.map Entry.writtenRow :=
  (eachFrom_eq_ok_iff parseExplicitRow_eq_ok_iff).trans forall₂_eq_map_iff

/-- **Reading is writing back.** Rows are accepted in a format as those rows of the format that are written as they are. -/
theorem Rows.parse_eq_ok_iff :
    Rows.parse rows format = .ok parsed ↔ parsed.format = format ∧ parsed.Flat ∧ parsed.written = rows := by
  cases format with
  | implicit =>
    simp only [Rows.parse, map_eq_ok_iff, implicitRows_eq_ok_iff]
    constructor
    · rintro ⟨cells, ⟨rfl, hflat⟩, rfl⟩
      exact ⟨rfl, hflat, rfl⟩
    · rintro ⟨hformat, hflat, rfl⟩
      cases parsed with
      | implicit cells => exact ⟨cells, ⟨rfl, hflat⟩, rfl⟩
      | explicit entries => cases hformat
  | explicit =>
    simp only [Rows.parse, map_eq_ok_iff, explicitRows_eq_ok_iff]
    constructor
    · rintro ⟨entries, rfl, rfl⟩
      exact ⟨rfl, trivial, rfl⟩
    · rintro ⟨hformat, -, rfl⟩
      cases parsed with
      | implicit cells => cases hformat
      | explicit entries => exact ⟨entries, rfl, rfl⟩

/-- rows are accepted in a format if each of them fits -/
theorem Rows.exists_parse_iff : (∃ parsed, Rows.parse rows format = .ok parsed) ↔ ∀ row ∈ rows, format.Fits row := by
  cases format with
  | implicit =>
    have hread : (∃ cells, eachFrom parseImplicitRow 0 rows = .ok cells) ↔ ∀ row ∈ rows, Format.implicit.Fits row :=
      (exists_congr fun _ => eachFrom_eq_ok_iff parseImplicitRow_eq_ok_iff).trans exists_forall₂_iff
    simpa [Rows.parse, map_eq_ok_iff] using hread
  | explicit =>
    have hread : (∃ entries, eachFrom parseExplicitRow 0 rows = .ok entries) ↔
        ∀ row ∈ rows, ∃ entries, row = Entry.writtenRow entries :=
      (exists_congr fun _ => eachFrom_eq_ok_iff parseExplicitRow_eq_ok_iff).trans exists_forall₂_iff
    simpa [Rows.parse, map_eq_ok_iff, fits_explicit_iff] using hread

/-! ## Refused rows -/

/-- the first row, at an index, that does not have a property -/
def FirstWithout (P : Value → Prop) (rows : List Value) (index : Nat) : Prop :=
  ∃ before row after, rows = before ++ row :: after ∧ before.length = index ∧ (∀ r ∈ before, P r) ∧ ¬ P row

theorem rowValues_error (h : rowValues rowIndex row = .error e) :
    (∀ items, row ≠ .array items) ∧ ∃ reason, e = .malformedRow rowIndex reason := by
  unfold rowValues at h
  cases row with
  | array items => cases h
  | _ =>
    cases h
    exact ⟨by simp, _, rfl⟩

theorem parseImplicitRow_error (h : parseImplicitRow rowIndex row = .error e) : ∃ reason, e = .malformedRow rowIndex reason := by
  rcases bind_eq_error_iff.1 h with hvalues | ⟨values, -, hcells⟩
  · exact (rowValues_error hvalues).2
  · split at hcells
    · cases hcells
      exact ⟨_, rfl⟩
    · cases hcells

theorem parseEntry_error {pair : Value} (h : parseEntry rowIndex pair = .error e) :
    ∃ reason, e = .malformedRow rowIndex reason := by
  unfold parseEntry at h
  split at h
  · split at h
    · split at h
      · cases h
      · cases h
        exact ⟨_, rfl⟩
    · cases h
      exact ⟨_, rfl⟩
  · cases h
    exact ⟨_, rfl⟩
  · cases h
    exact ⟨_, rfl⟩

theorem parseExplicitRow_error (h : parseExplicitRow rowIndex row = .error e) : ∃ reason, e = .malformedRow rowIndex reason := by
  rcases bind_eq_error_iff.1 h with hvalues | ⟨values, -, hentries⟩
  · exact (rowValues_error hvalues).2
  · obtain ⟨-, pair, -, -, -, hpair⟩ := eachFrom_error hentries
    exact parseEntry_error hpair

/-- reading rows one by one reports the first that cannot be read -/
theorem eachFrom_refused {β : Type} {step : Nat → Value → Except ParserError β} {P : Value → Prop}
    (hread : ∀ j row, (∃ b, step j row = .ok b) ↔ P row)
    (hrefuse : ∀ {j row e}, step j row = .error e → ∃ reason, e = .malformedRow j reason)
    (h : eachFrom step 0 rows = .error e) : ∃ index reason, e = .malformedRow index reason ∧ FirstWithout P rows index := by
  obtain ⟨before, row, after, rfl, hbefore, hrow⟩ := eachFrom_error h
  obtain ⟨reason, rfl⟩ := hrefuse hrow
  refine ⟨_, reason, rfl, before, row, after, rfl, (Nat.zero_add _).symm, fun r hr => ?_, fun hP => ?_⟩
  · obtain ⟨j, b, hb⟩ := hbefore r hr
    exact (hread j r).1 ⟨b, hb⟩
  · obtain ⟨b, hb⟩ := (hread (0 + before.length) row).2 hP
    rw [hb] at hrow
    cases hrow

/-- the row that is reported is the first that does not fit -/
theorem Rows.parse_error (h : Rows.parse rows format = .error e) :
    ∃ index reason, e = .malformedRow index reason ∧ FirstWithout format.Fits rows index := by
  cases format with
  | implicit =>
    refine eachFrom_refused (fun j row => ?_) parseImplicitRow_error (map_eq_error_iff.1 h)
    simp only [parseImplicitRow_eq_ok_iff, Format.Fits]
  | explicit =>
    refine eachFrom_refused (fun j row => ?_) parseExplicitRow_error (map_eq_error_iff.1 h)
    simp only [parseExplicitRow_eq_ok_iff, fits_explicit_iff]

/-! ## The format that rows tell -/

/-- the format that the first cell of a row tells -/
def Format.told : Value → Format
  | .array _ => .explicit
  | _ => .implicit

theorem detectFormatFrom_cons {i : Nat} {v : Value} {values : List Value} :
    detectFormatFrom i (.array (v :: values) :: rows) = .ok (Format.told v) := by
  cases v <;> rfl

/-- rows without cells tell nothing -/
theorem detectFormatFrom_blank {i : Nat} : detectFormatFrom i (.array [] :: rows) = detectFormatFrom (i + 1) rows := rfl

/-- a row that fits tells its format, if it has any cells -/
theorem Format.Fits.told {v : Value} {values : List Value} (h : format.Fits (.array (v :: values))) :
    Format.told v = format := by
  cases format with
  | implicit =>
    obtain ⟨found, heq, hflat⟩ := h
    cases heq
    have hv := hflat v List.mem_cons_self
    cases v with
    | array | object => cases hv
    | _ => rfl
  | explicit =>
    obtain ⟨pairs, heq, hpairs⟩ := h
    cases heq
    obtain ⟨entry, rfl⟩ := hpairs v List.mem_cons_self
    rfl

theorem Format.Fits.isArray (h : format.Fits row) : ∃ items, row = .array items := by
  cases format with
  | implicit => exact h.imp fun _ h => h.1
  | explicit => exact h.imp fun _ h => h.1

theorem Format.fits_blank (format : Format) : format.Fits (.array []) := by
  cases format <;> exact ⟨[], rfl, by simp⟩

/-- rows that fit a format tell it, unless no row has any cells -/
theorem detectFormatFrom_of_fits {i : Nat} (h : ∀ row ∈ rows, format.Fits row) :
    detectFormatFrom i rows = .ok format ∨ detectFormatFrom i rows = .ok .implicit ∧ ∀ row ∈ rows, row = .array [] := by
  induction rows generalizing i with
  | nil => exact Or.inr ⟨rfl, by simp⟩
  | cons row rows ih =>
    obtain ⟨hrow, hrest⟩ := List.forall_mem_cons.1 h
    obtain ⟨items, rfl⟩ := hrow.isArray
    cases items with
    | nil =>
      rw [detectFormatFrom_blank]
      exact (ih hrest).imp_right fun ⟨htold, hblank⟩ => ⟨htold, List.forall_mem_cons.2 ⟨rfl, hblank⟩⟩
    | cons v values =>
      rw [detectFormatFrom_cons, hrow.told]
      exact Or.inl rfl

/-- where no format is told, the row that is reported is the first that is no array, and no row before it has any cells -/
theorem detectFormatFrom_error {i : Nat} (h : detectFormatFrom i rows = .error e) :
    ∃ before row after reason, rows = before ++ row :: after ∧ (∀ r ∈ before, r = .array []) ∧
      (∀ items, row ≠ .array items) ∧ e = .malformedRow (i + before.length) reason := by
  induction rows generalizing i with
  | nil => cases h
  | cons row rows ih =>
    rcases bind_eq_error_iff.1 h with hvalues | ⟨values, hvalues, hrest⟩
    · obtain ⟨hrow, reason, rfl⟩ := rowValues_error hvalues
      exact ⟨[], row, rows, reason, rfl, by simp, hrow, rfl⟩
    · obtain rfl := rowValues_eq_ok_iff.1 hvalues
      cases values with
      | cons v values =>
        rw [detectFormatFrom_cons] at h
        cases h
      | nil =>
        rw [detectFormatFrom_blank] at h
        obtain ⟨before, row, after, reason, rfl, hbefore, hrow, rfl⟩ := ih h
        refine ⟨.array [] :: before, row, after, reason, rfl, List.forall_mem_cons.2 ⟨rfl, hbefore⟩, hrow, ?_⟩
        rw [List.length_cons, Nat.add_comm before.length, Nat.add_assoc]

/-- every format accepts rows without cells, and no other rows -/
theorem forall_fits_iff : (∀ format : Format, ∀ row ∈ rows, format.Fits row) ↔ ∀ row ∈ rows, row = .array [] := by
  constructor
  · intro h row hrow
    obtain ⟨values, rfl, hflat⟩ := h .implicit row hrow
    obtain ⟨pairs, heq, hpairs⟩ := h .explicit _ hrow
    cases heq
    cases values with
    | nil => rfl
    | cons v values =>
      -- its first cell would be an array, and none
      obtain ⟨entry, rfl⟩ := hpairs v List.mem_cons_self
      have hv := hflat _ List.mem_cons_self
      cases hv
  · intro h format row hrow
    rw [h row hrow]
    exact format.fits_blank

/-- accepted rows tell a format that accepts them -/
theorem detectFormat_of_parse (h : Rows.parse rows format = .ok parsed) :
    ∃ told held, detectFormat rows = .ok told ∧ Rows.parse rows told = .ok held := by
  have hfits := Rows.exists_parse_iff.1 ⟨parsed, h⟩
  rcases detectFormatFrom_of_fits hfits with htold | ⟨htold, hblank⟩
  · exact ⟨format, parsed, htold, h⟩
  · obtain ⟨held, hheld⟩ := Rows.exists_parse_iff.2 (forall_fits_iff.2 hblank .implicit)
    exact ⟨.implicit, held, htold, hheld⟩

/-- where no format is told, the first row that is no array is reported -/
theorem detectFormat_error (h : detectFormat rows = .error e) :
    ∃ index reason, e = .malformedRow index reason ∧ FirstWithout (fun row => ∃ items, row = .array items) rows index := by
  obtain ⟨before, row, after, reason, rfl, hbefore, hrow, rfl⟩ := detectFormatFrom_error h
  refine ⟨_, reason, rfl, before, row, after, rfl, (Nat.zero_add _).symm, fun r hr => ⟨[], hbefore r hr⟩, ?_⟩
  rintro ⟨items, hitems⟩
  exact hrow items hitems

/-! ## Payloads -/

/-- what reading a payload asks -/
theorem Single.parse_eq_ok_iff {payload : Single} {parsed : Parsed} :
    payload.parse = .ok parsed ↔ parseChannels payload.channels = .ok parsed.channels ∧
      detectFormat payload.rows = .ok parsed.rows.format ∧ Rows.parse payload.rows parsed.rows.format = .ok parsed.rows := by
  constructor
  · intro h
    obtain ⟨channels, hchannels, h⟩ := bind_eq_ok_iff.1 h
    obtain ⟨format, hformat, h⟩ := bind_eq_ok_iff.1 h
    obtain ⟨rows, hrows, hdone⟩ := bind_eq_ok_iff.1 h
    cases hdone
    obtain rfl := (Rows.parse_eq_ok_iff.1 hrows).1
    exact ⟨hchannels, hformat, hrows⟩
  · rintro ⟨hchannels, hformat, hrows⟩
    exact bind_eq_ok_iff.2 ⟨_, hchannels, bind_eq_ok_iff.2 ⟨_, hformat, bind_eq_ok_iff.2 ⟨_, hrows, rfl⟩⟩⟩

/-- the fault of a payload whose channels are well declared -/
theorem Single.parse_error {wire : List WireChannel} {declared : List DeclaredChannel} (hwire : parseChannels wire = .ok declared)
    (h : Single.parse ⟨wire, rows⟩ = .error e) :
    ∃ index reason, e = .malformedRow index reason ∧
      ((∃ told, detectFormat rows = .ok told ∧ FirstWithout told.Fits rows index) ∨
        ∃ refusal, detectFormat rows = .error refusal ∧ FirstWithout (fun row => ∃ items, row = .array items) rows index) := by
  rcases bind_eq_error_iff.1 h with hrefused | ⟨_, -, h⟩
  · rw [hwire] at hrefused
    cases hrefused
  rcases bind_eq_error_iff.1 h with huntold | ⟨told, htold, h⟩
  · obtain ⟨index, reason, rfl, hfirst⟩ := detectFormat_error huntold
    exact ⟨index, reason, rfl, Or.inr ⟨_, huntold, hfirst⟩⟩
  rcases bind_eq_error_iff.1 h with hparse | ⟨_, -, hdone⟩
  · obtain ⟨index, reason, rfl, hfirst⟩ := Rows.parse_error hparse
    exact ⟨index, reason, rfl, Or.inl ⟨told, htold, hfirst⟩⟩
  · cases hdone

/-- a pair in range has an index of 64 bits -/
theorem Entry.index_le {entry : Entry} (h : entry.written.InRange) : entry.index ≤ greatestNat64 := by
  have hindex := (h.items _ List.mem_cons_self).int.2
  exact Int.ofNat_le.1 hindex

theorem fits_explicit_inRange_iff (hrow : row.InRange) :
    Format.explicit.Fits row ↔ ∃ pairs, row = .array pairs ∧
      ∀ pair ∈ pairs, ∃ index value, index ≤ greatestNat64 ∧ pair = .array [.ofNat index, value] := by
  constructor
  · rintro ⟨pairs, rfl, hpairs⟩
    refine ⟨pairs, rfl, fun pair hpair => ?_⟩
    obtain ⟨entry, rfl⟩ := hpairs pair hpair
    exact ⟨entry.index, entry.value, Entry.index_le (hrow.items _ hpair), rfl⟩
  · rintro ⟨pairs, rfl, hpairs⟩
    refine ⟨pairs, rfl, fun pair hpair => ?_⟩
    obtain ⟨index, value, -, rfl⟩ := hpairs pair hpair
    exact ⟨⟨index, value⟩, rfl⟩

theorem exists_of_mem_list? {element : Written → Option α} {w : Written} (h : w.list? element = some as) :
    ∀ a ∈ as, ∃ item, element item = some a := by
  cases w with
  | array items => exact exists_of_mem_mapM h
  | _ => cases h

/-- the rows of a payload that is read are in range -/
theorem Single.rows_inRange {w : Written} {payload : Single} (h : Single.ofJson? w = some payload) :
    ∀ row ∈ payload.rows, row.InRange := by
  obtain ⟨fields, -, h⟩ := Option.bind_eq_some_iff.1 h
  obtain ⟨channels, -, h⟩ := Option.bind_eq_some_iff.1 h
  obtain ⟨rows, hrows, hdone⟩ := Option.bind_eq_some_iff.1 h
  cases hdone
  unfold Fields.withDefault at hrows
  split at hrows
  · intro row hrow
    obtain ⟨item, hitem⟩ := exists_of_mem_list? hrows row hrow
    exact inRange_of_toValue? hitem
  · cases hrows
    simp

/-- **Which rows a payload may have.** Let rows be any JSON values. They are accepted as implicit rows if each is an array
without arrays and objects in it, and as explicit rows if each is an array of pairs of an integer of 64 bits, not negative,
and any value. What is accepted is written back as it was sent. Both formats accept rows without cells and no others. If a
format accepts the rows, then they tell a format, and it accepts them. If a payload with well declared channels is refused,
then for the first row that does not fit the told format, or that is no array where no format is told. -/
theorem rows_accepted (rows : List Value) (hrows : ∀ row ∈ rows, row.InRange) :
    ((∃ parsed, Rows.parse rows .implicit = .ok parsed) ↔
      ∀ row ∈ rows, ∃ values, row = .array values ∧ ∀ v ∈ values, v.isNested = false) ∧
    ((∃ parsed, Rows.parse rows .explicit = .ok parsed) ↔
      ∀ row ∈ rows, ∃ pairs, row = .array pairs ∧
        ∀ pair ∈ pairs, ∃ index value, index ≤ greatestNat64 ∧ pair = .array [.ofNat index, value]) ∧
    (∀ format parsed, Rows.parse rows format = .ok parsed → parsed.format = format ∧ parsed.written = rows) ∧
    ((∀ format, ∃ parsed, Rows.parse rows format = .ok parsed) ↔ ∀ row ∈ rows, row = .array []) ∧
    (∀ format parsed, Rows.parse rows format = .ok parsed →
      ∃ told held, detectFormat rows = .ok told ∧ Rows.parse rows told = .ok held) ∧
    ∀ wire declared, parseChannels wire = .ok declared → ∀ e, Single.parse ⟨wire, rows⟩ = .error e →
      ∃ index reason, e = .malformedRow index reason ∧
        ((∃ told, detectFormat rows = .ok told ∧ FirstWithout told.Fits rows index) ∨
          ∃ refusal, detectFormat rows = .error refusal ∧ FirstWithout (fun row => ∃ items, row = .array items) rows index) := by
  refine ⟨Rows.exists_parse_iff, ?_, fun format parsed h => ?_, ?_, fun _ _ => detectFormat_of_parse,
    fun _ _ hwire _ => Single.parse_error hwire⟩
  · rw [Rows.exists_parse_iff]
    exact forall₂_congr fun row hrow => fits_explicit_inRange_iff (hrows row hrow)
  · obtain ⟨hformat, -, hwritten⟩ := Rows.parse_eq_ok_iff.1 h
    exact ⟨hformat, hwritten⟩
  · simp only [Rows.exists_parse_iff]
    exact forall_fits_iff

/-- a row without cells, a row of one pair, and a row of one number -/
def mixedRows : List Value :=
  [.array [], .array [.array [.ofNat 0, .ofNat 1]], .array [.ofNat 3]]

theorem mixedRows_inRange : ∀ row ∈ mixedRows, row.InRange := by
  have hnumber (n : Nat) (hn : n ≤ 3) : (Value.ofNat n).InRange := by
    refine .number ⟨?_, ?_⟩
    · simp [leastInt64]
    · simp [greatestNat64]; omega
  simp only [mixedRows, List.forall_mem_cons]
  refine ⟨.array (by simp), .array ?_, .array ?_, by simp⟩
  · exact List.forall_mem_singleton.2 (.array (by simp [hnumber]))
  · exact List.forall_mem_singleton.2 (hnumber 3 (by omega))

/-- the second row tells that rows are explicit, and the third is refused for it -/
theorem mixedRows_refused : (∀ row ∈ mixedRows, row.InRange) ∧ detectFormat mixedRows = .ok .explicit ∧
    (∃ reason, Single.parse ⟨[], mixedRows⟩ = .error (.malformedRow 2 reason)) ∧
    FirstWithout Format.explicit.Fits mixedRows 2 := by
  have htold : detectFormat mixedRows = .ok .explicit := rfl
  have hrefused : ∃ reason, Single.parse ⟨[], mixedRows⟩ = .error (.malformedRow 2 reason) := ⟨_, rfl⟩
  obtain ⟨reason, herror⟩ := hrefused
  obtain ⟨-, -, -, -, -, hfirst⟩ := rows_accepted mixedRows mixedRows_inRange
  obtain ⟨index, reason', heq, ⟨told, htold', hfirst⟩ | ⟨refusal, huntold, -⟩⟩ := hfirst [] [] rfl _ herror
  · cases heq
    cases htold.symm.trans htold'
    exact ⟨mixedRows_inRange, htold, ⟨reason, herror⟩, hfirst⟩
  · cases htold.symm.trans huntold

end Telemetry.Payload
