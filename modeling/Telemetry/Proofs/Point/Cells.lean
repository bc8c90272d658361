import Telemetry.Proofs.Point.Fields
import Telemetry.Proofs.Runs
/-
Which cells are taken, and what they make.

A cell of a time channel has to be a null or a text that is read as an instant, any other cell must not be an array or an
object. Cells are taken one after another, so the last one of a time or of a name is kept, and the first one that does not
fit is reported. An entry moreover needs an index that is declared and that no entry before it has.

- `SortedMap.get?_insert`, `SortedMap.insert_ascending`: what a map is once an entry is set;
- `take_decided`, `Draft.MadeOf.take`: one cell, and the draft that has taken it;
- `takeCells_stepwise`, `takeEntries_stepwise`: the cells of a row, in either format;
- `takeCells_made`, `takeEntries_made`: the draft that has taken them;
- `finish_decided`: the time that a row needs.
-/
namespace Telemetry

/-! ## Maps -/

namespace SortedMap

variable {α : Type} {key : String} {value : α} {m : SortedMap α}

theorem get?_cons (k name : String) (x : α) (m : SortedMap α) :
    get? name ((k, x) :: m) = if k = name then some x else m.get? name := by
  by_cases h : k = name <;> simp [get?, h]

/-- an entry that is set is found under its key, and all else as before -/
theorem get?_insert (key name : String) (value : α) (m : SortedMap α) :
    (m.insert key value).get? name = if key = name then some value else m.get? name := by
  induction m with
  | nil => exact get?_cons key name value []
  | cons entry m ih =>
    obtain ⟨k, x⟩ := entry
    rcases lt_trichotomy key k with hk | rfl | hk
    · rw [insert_cons_of_lt hk, get?_cons]
    · rw [insert_cons_self, get?_cons, get?_cons]
      split <;> rfl
    · rw [insert_cons_of_gt hk, get?_cons, get?_cons, ih]
      by_cases hname : k = name
      · rw [if_pos hname, if_neg (hname ▸ hk.ne'), if_pos hname]
      · rw [if_neg hname, if_neg hname]

/-- keys stay in ascending order -/
theorem insert_ascending (h : m.keys.Pairwise (· < ·)) : (m.insert key value).keys.Pairwise (· < ·) := by
  induction m with
  | nil => exact List.pairwise_singleton _ _
  | cons entry m ih =>
    obtain ⟨k, x⟩ := entry
    obtain ⟨hfirst, hrest⟩ := List.pairwise_cons.1 h
    rcases lt_trichotomy key k with hk | rfl | hk
    · rw [insert_cons_of_lt hk]
      refine List.pairwise_cons.2 ⟨?_, h⟩
      intro k' hk'
      rcases List.mem_cons.1 hk' with rfl | hk'
      · exact hk
      · exact hk.trans (hfirst k' hk')
    · rw [insert_cons_self]
      exact h
    · rw [insert_cons_of_gt hk]
      refine List.pairwise_cons.2 ⟨?_, ih hrest⟩
      intro k' hk'
      rcases mem_keys_insert.1 hk' with rfl | hold
      · exact hk
      · exact hfirst k' hold

end SortedMap

namespace Point

open Json Payload Channel

variable {channels : List Resolved} {rowIndex : Nat}

/-! ## What cells make -/

namespace Cell

/-- the instant that the cell of a time channel tells -/
def instant? : Cell → Option Time.Instant
  | (c, .string s) => if c.isTime then (Time.instantOf s).toOption else none
  | _ => none

/-- the value that the cell gives the field of a name -/
def valueFor? (name : String) (cell : Cell) : Option FieldValue :=
  if cell.1.isTime = false ∧ cell.fieldName = name then FieldValue.ofCell? cell.2 else none

/-- the cell is a text of a time channel -/
def TellsTime (cell : Cell) : Prop :=
  cell.1.isTime = true ∧ ∃ s, cell.2 = .string s

/-- the cell of a time channel is a null or a text that is read as an instant, any other cell is no array and no object -/
def Fits (cell : Cell) : Prop :=
  if cell.1.isTime then cell.2 = .null ∨ ∃ s t, cell.2 = .string s ∧ Time.instantOf s = .ok t
  else cell.2.isNested = false

/-- the cells may be taken -/
def AllFit (cells : List Cell) : Prop :=
  ∀ cell ∈ cells, cell.Fits

theorem AllFit.nil : AllFit [] :=
  List.forall_mem_nil _

theorem allFit_concat_iff {cells : List Cell} {cell : Cell} : AllFit (cells ++ [cell]) ↔ AllFit cells ∧ cell.Fits := by
  unfold AllFit
  rw [List.forall_mem_append, List.forall_mem_singleton]

/-- one of the cells tells a time -/
def TimeTold (cells : List Cell) : Prop :=
  ∃ cell ∈ cells, cell.TellsTime

/-- why a cell of a row is not taken -/
inductive Fault (rowIndex : Nat) : Cell → ServiceError → Prop
  | notText {c : Resolved} {v : Value} (htime : c.isTime = true) (hnull : v ≠ .null) (htext : ∀ s, v ≠ .string s) :
      Fault rowIndex (c, v) (.invalidTimestamp v.text "time values must be strings")
  | noInstant {c : Resolved} {s : String} {e : ServiceError} (htime : c.isTime = true) (h : Time.instantOf s = .error e) :
      Fault rowIndex (c, .string s) e
  | nested {c : Resolved} {v : Value} (hfield : c.isTime = false) (h : v.isNested = true) :
      Fault rowIndex (c, v) (.unsupportedValue rowIndex c.definition.code)

end Cell

/-- a draft has been made of cells: it has the time that the last of them tells, and under each name the last value given to it -/
structure Draft.MadeOf (cells : List Cell) (d : Draft) : Prop where
  time : d.time = (cells.filterMap Cell.instant?).getLast?
  fields : ∀ name, d.fields.get? name = (cells.filterMap (Cell.valueFor? name)).getLast?
  ascending : d.fields.keys.Pairwise (· < ·)

/-- a point has been made of cells -/
def MadeOf (cells : List Cell) (point : Point) : Prop :=
  Draft.MadeOf cells ⟨some point.time, point.fields⟩

/-! ## One cell -/

/-- a cell is taken if it fits -/
theorem take_decided (d : Draft) (cell : Cell) :
    Decided (d.take rowIndex cell.1 cell.2) cell.Fits (cell.Fault rowIndex) := by
  obtain ⟨c, v⟩ := cell
  rw [take_eq]
  refine Decided.map (Decided.of ?_ ?_ ?_) _
  · intro hfits
    unfold Cell.Fits at hfits
    unfold Effect.of
    by_cases htime : c.isTime = true
    · rw [if_pos htime] at hfits ⊢
      obtain rfl | ⟨s, t, rfl, ht⟩ := hfits
      · exact ⟨.none, rfl⟩
      · exact ⟨.time t, map_eq_ok_iff.2 ⟨t, ht, rfl⟩⟩
    · rw [if_neg htime] at hfits ⊢
      cases v with
      | array | object => cases hfits
      | _ => exact ⟨_, rfl⟩
  · intro e hfault
    unfold Effect.of
    cases hfault with
    | notText htime hnull htext =>
      cases v with
      | null => exact absurd rfl hnull
      | string s => exact absurd rfl (htext s)
      | _ => exact if_pos htime
    | noInstant htime h =>
      rw [if_pos htime]
      exact map_eq_error_iff.2 h
    | nested hfield h =>
      rw [hfield]
      cases v with
      | array | object => rfl
      | _ => cases h
  · by_cases htime : c.isTime = true
    · unfold Cell.Fits
      rw [if_pos htime]
      cases v with
      | null => exact Or.inl (Or.inl rfl)
      | string s =>
        cases ht : Time.instantOf s with
        | ok t => exact Or.inl (Or.inr ⟨s, t, rfl, ht⟩)
        | error e => exact Or.inr ⟨e, .noInstant htime ht⟩
      | _ => exact Or.inr ⟨_, .notText htime (by simp) (by simp)⟩
    · unfold Cell.Fits
      rw [if_neg htime]
      rw [Bool.not_eq_true] at htime
      cases hnested : v.isNested with
      | false => exact Or.inl rfl
      | true => exact Or.inr ⟨_, .nested htime hnested⟩

/-- a cell sets the time if it tells one, and else leaves it -/
theorem take_time {d d' : Draft} {c : Resolved} {v : Value} (h : d.take rowIndex c v = .ok d') :
    d'.time = (Cell.instant? (c, v)).or d.time := by
  unfold Draft.take at h
  by_cases htime : c.isTime = true
  · rw [if_pos htime] at h
    cases v with
    | null =>
      cases h
      rfl
    | string s =>
      obtain ⟨t, ht, rfl⟩ := map_eq_ok_iff.1 h
      simp [Cell.instant?, htime, ht, Except.toOption]
    | _ => cases h
  · rw [if_neg htime] at h
    cases v with
    | array | object => cases h
    | _ =>
      cases h
      simp [Cell.instant?, htime]

/-- a cell sets a field if it gives a value for it, and else leaves it -/
theorem take_field {d d' : Draft} {c : Resolved} {v : Value} (h : d.take rowIndex c v = .ok d') (name : String) :
    d'.fields.get? name = (Cell.valueFor? name (c, v)).or (d.fields.get? name) := by
  unfold Draft.take at h
  by_cases htime : c.isTime = true
  · have hno : Cell.valueFor? name (c, v) = none := by simp [Cell.valueFor?, htime]
    rw [if_pos htime] at h
    rw [hno, Option.none_or]
    cases v with
    | null =>
      cases h
      rfl
    | string s =>
      obtain ⟨t, -, rfl⟩ := map_eq_ok_iff.1 h
      rfl
    | _ => cases h
  · rw [if_neg htime] at h
    rw [Bool.not_eq_true] at htime
    cases v with
    | null =>
      cases h
      simp [Cell.valueFor?, FieldValue.ofCell?]
    | bool | number | string =>
      cases h
      simp only [SortedMap.get?_insert, Cell.valueFor?, Cell.fieldName, htime, true_and]
      split <;> rfl
    | array | object => cases h

theorem Draft.MadeOf.nil : Draft.MadeOf [] {} :=
  ⟨rfl, fun _ => rfl, List.Pairwise.nil⟩

/-- a draft is made of one cell more once this cell has been taken -/
theorem Draft.MadeOf.take {cells : List Cell} {c : Resolved} {v : Value} {d d' : Draft} (h : d.MadeOf cells)
    (htake : d.take rowIndex c v = .ok d') : d'.MadeOf (cells ++ [(c, v)]) := by
  have hlast {α : Type} (f : Cell → Option α) :
      ((cells ++ [(c, v)]).filterMap f).getLast? = (f (c, v)).or (cells.filterMap f).getLast? := by
    rw [List.filterMap_append]
    cases hcell : f (c, v) <;> simp [hcell]
  refine ⟨?_, ?_, ?_⟩
  · rw [take_time htake, h.time, hlast]
  · intro name
    rw [take_field htake, h.fields, hlast]
  · have hfields : d.take rowIndex ((c, v) : Cell).1 ((c, v) : Cell).2 = .ok d' := htake
    rcases take_fields hfields with ⟨-, hsame⟩ | ⟨-, value, -, hset⟩
    · rw [hsame]
      exact h.ascending
    · rw [hset]
      exact SortedMap.insert_ascending h.ascending

/-! ## Cells of a row -/

/-- the cells of a row are taken one after another -/
theorem takeCells_stepwise : Stepwise (takeCells rowIndex) (fun d cell => d.take rowIndex cell.1 cell.2)
    Cell.AllFit Draft.MadeOf (fun _ cell => Cell.Fault rowIndex cell) where
  done d := ⟨d, rfl⟩
  next _ _ _ := rfl
  good_of_concat before cell h := (Cell.allFit_concat_iff.1 h).1
  step_decided before d cell h _ := by
    refine (take_decided d cell).congr ?_ fun _ => Iff.rfl
    rw [Cell.allFit_concat_iff, and_iff_right h]
  step_reached before d cell d' _ hmade htake := hmade.take htake

/-- cells that have been taken make a draft -/
theorem takeCells_made {cells : List Cell} {d : Draft} (h : takeCells rowIndex {} cells = .ok d) : d.MadeOf cells := by
  obtain ⟨_, hmade, hdone⟩ := takeCells_stepwise.end_reached Cell.AllFit.nil Draft.MadeOf.nil h
  cases hdone
  exact hmade

/-- a time is told by a cell that fits exactly if the cell is a text of a time channel -/
theorem Cell.Fits.tellsTime_iff {cell : Cell} (h : cell.Fits) : cell.TellsTime ↔ cell.instant? ≠ none := by
  obtain ⟨c, v⟩ := cell
  unfold Cell.Fits at h
  unfold Cell.TellsTime Cell.instant?
  by_cases htime : c.isTime = true
  · rw [if_pos htime] at h
    obtain rfl | ⟨s, t, rfl, ht⟩ := h
    · simp
    · simp [htime, ht, Except.toOption]
  · cases v <;> simp [htime]

/-- a draft is finished if one of its cells tells a time -/
theorem finish_decided {cells : List Cell} {d : Draft} (hmade : d.MadeOf cells) (hfits : Cell.AllFit cells) :
    Decided (d.finish rowIndex) (Cell.TimeTold cells) fun e =>
      ¬ Cell.TimeTold cells ∧ e = .missingTime rowIndex := by
  have htime : d.time = none ↔ ¬ Cell.TimeTold cells := by
    rw [hmade.time, List.getLast?_eq_none_iff, List.filterMap_eq_nil_iff]
    unfold Cell.TimeTold
    push Not
    refine forall₂_congr fun cell hcell => ?_
    rw [(hfits cell hcell).tellsTime_iff, not_not]
  unfold Draft.finish
  cases hd : d.time with
  | none =>
    have hno : ¬ Cell.TimeTold cells := htime.1 hd
    refine .of ?_ ?_ (Or.inr ⟨_, hno, rfl⟩)
    · intro htells
      exact absurd htells hno
    · rintro e ⟨-, rfl⟩
      rfl
  | some t =>
    have htells : Cell.TimeTold cells := by
      by_contra hno
      rw [htime.2 hno] at hd
      cases hd
    refine .of ?_ ?_ (Or.inl htells)
    · intro _
      exact ⟨_, rfl⟩
    · rintro e ⟨hno, -⟩
      exact absurd htells hno

theorem Draft.MadeOf.finish {cells : List Cell} {d : Draft} {point : Point} (hmade : d.MadeOf cells)
    (h : d.finish rowIndex = .ok point) : Point.MadeOf cells point := by
  unfold Draft.finish at h
  split at h
  · rename_i t ht
    cases h
    exact ⟨ht.symm.trans hmade.time, hmade.fields, hmade.ascending⟩
  · cases h

/-! ## Entries -/

/-- entries for different channels, all declared, whose cells may be taken -/
structure EntriesFit (channels : List Resolved) (entries : List Entry) : Prop where
  distinct : (entries.map (·.index)).Nodup
  declared : ∀ e ∈ entries, e.index ∈ channels.map (·.index)
  cells : Cell.AllFit (entries.filterMap (cellOf channels))

/-- why an entry of a row is not taken, after those before it -/
inductive EntryFault (channels : List Resolved) (rowIndex : Nat) (before : List Entry) (e : Entry) : ServiceError → Prop
  | repeated (h : e.index ∈ before.map (·.index)) : EntryFault channels rowIndex before e (.duplicateIndex rowIndex e.index)
  | undeclared (hnew : e.index ∉ before.map (·.index)) (h : e.index ∉ channels.map (·.index)) :
      EntryFault channels rowIndex before e (.undeclaredIndex rowIndex e.index)
  | cell {c : Resolved} {err : ServiceError} (hnew : e.index ∉ before.map (·.index)) (hc : channelAt channels e.index = some c)
      (h : Cell.Fault rowIndex (c, e.value) err) : EntryFault channels rowIndex before e err

theorem channelAt_eq_none_iff {index : Nat} : channelAt channels index = none ↔ index ∉ channels.map (·.index) := by
  unfold channelAt
  rw [List.find?_eq_none]
  simp

theorem EntriesFit.nil : EntriesFit channels [] :=
  ⟨List.nodup_nil, List.forall_mem_nil _, Cell.AllFit.nil⟩

theorem cells_concat {before : List Entry} {e : Entry} {c : Resolved} (hc : channelAt channels e.index = some c) :
    (before ++ [e]).filterMap (cellOf channels) = before.filterMap (cellOf channels) ++ [(c, e.value)] := by
  rw [List.filterMap_append, List.filterMap_cons, cellOf, hc]
  rfl

/-- an entry goes with those before it if its index is its own and its cell may be taken -/
theorem entriesFit_concat_iff {before : List Entry} {e : Entry} : EntriesFit channels (before ++ [e]) ↔
    EntriesFit channels before ∧ e.index ∉ before.map (·.index) ∧
      ∃ c, channelAt channels e.index = some c ∧ Cell.Fits (c, e.value) := by
  have hdistinct : ((before ++ [e]).map (·.index)).Nodup ↔ e.index ∉ before.map (·.index) ∧ (before.map (·.index)).Nodup := by
    rw [List.map_append, List.map_singleton, List.nodup_append_comm, List.singleton_append, List.nodup_cons]
  constructor
  · intro h
    have hdeclared := List.forall_mem_append.1 h.declared
    have hindex : channelAt channels e.index ≠ none := by
      rw [Ne, channelAt_eq_none_iff, not_not]
      exact hdeclared.2 e (List.mem_singleton_self e)
    obtain ⟨c, hc⟩ := Option.ne_none_iff_exists'.1 hindex
    have hcells := h.cells
    rw [cells_concat hc, Cell.allFit_concat_iff] at hcells
    obtain ⟨hnew, hbefore⟩ := hdistinct.1 h.distinct
    exact ⟨⟨hbefore, hdeclared.1, hcells.1⟩, hnew, c, hc, hcells.2⟩
  · rintro ⟨hbefore, hnew, c, hc, hfits⟩
    refine ⟨hdistinct.2 ⟨hnew, hbefore.distinct⟩, ?_, ?_⟩
    · rw [List.forall_mem_append, List.forall_mem_singleton]
      obtain ⟨hmem, hindex⟩ := channelAt_some hc
      exact ⟨hbefore.declared, List.mem_map.2 ⟨c, hmem, hindex⟩⟩
    · rw [cells_concat hc, Cell.allFit_concat_iff]
      exact ⟨hbefore.cells, hfits⟩

/-- an entry is taken if it goes with those before it -/
theorem takeEntry_decided {before : List Entry} {seen : List Nat} (h : EntriesFit channels before)
    (hseen : ∀ index, index ∈ seen ↔ index ∈ before.map (·.index)) (d : Draft) (e : Entry) :
    Decided (takeEntry channels rowIndex seen d e) (EntriesFit channels (before ++ [e]))
      (EntryFault channels rowIndex before e) := by
  have hgood : EntriesFit channels (before ++ [e]) ↔ e.index ∉ before.map (·.index) ∧
      ∃ c, channelAt channels e.index = some c ∧ Cell.Fits (c, e.value) :=
    entriesFit_concat_iff.trans (and_iff_right h)
  refine Decided.congr ?_ hgood.symm fun _ => Iff.rfl
  by_cases hnew : e.index ∈ before.map (·.index)
  · have hcontains : seen.contains e.index = true := List.contains_iff_mem.2 ((hseen _).2 hnew)
    rw [takeEntry, if_pos hcontains]
    refine .of ?_ ?_ (Or.inr ⟨_, .repeated hnew⟩)
    · intro hown
      exact absurd hnew hown.1
    · intro err hfault
      cases hfault with
      | repeated => rfl
      | undeclared hown | cell hown => exact absurd hnew hown
  · have hunseen : e.index ∉ seen := fun hmem => hnew ((hseen _).1 hmem)
    cases hc : channelAt channels e.index with
    | none =>
      have hcontains : seen.contains e.index = false := by simpa using hunseen
      rw [takeEntry, hcontains, hc]
      refine .of ?_ ?_ (Or.inr ⟨_, .undeclared hnew (channelAt_eq_none_iff.1 hc)⟩)
      · rintro ⟨-, c, hdeclared, -⟩
        cases hdeclared
      · intro err hfault
        cases hfault with
        | repeated h => exact absurd h hnew
        | undeclared => rfl
        | cell _ hdeclared =>
          rw [hc] at hdeclared
          cases hdeclared
    | some c =>
      rw [takeEntry_of_new hunseen hc]
      refine (take_decided d (c, e.value)).congr ?_ ?_
      · simp [hnew]
      · intro err
        constructor
        · exact .cell hnew hc
        · intro hfault
          cases hfault with
          | repeated h => exact absurd h hnew
          | undeclared _ h =>
            rw [channelAt_eq_none_iff.2 h] at hc
            cases hc
          | cell _ hdeclared h =>
            rw [hc] at hdeclared
            cases hdeclared
            exact h

/-- the entries of a row are taken one after another, with the indices of those before them seen -/
theorem takeEntries_stepwise : Stepwise
    (fun (s : List Nat × Draft) entries => takeEntries channels rowIndex s.1 s.2 entries)
    (fun s e => (takeEntry channels rowIndex s.1 s.2 e).map fun d => (e.index :: s.1, d))
    (EntriesFit channels) (fun before s => ∀ index, index ∈ s.1 ↔ index ∈ before.map (·.index))
    (EntryFault channels rowIndex) where
  done s := ⟨s.2, rfl⟩
  next s e entries := by
    rw [takeEntries_cons]
    cases takeEntry channels rowIndex s.1 s.2 e <;> rfl
  good_of_concat before e h := (entriesFit_concat_iff.1 h).1
  step_decided before s e h hseen := (takeEntry_decided h hseen s.2 e).map _
  step_reached := by
    intro before s e s' _ hseen hstep index
    obtain ⟨d, -, rfl⟩ := map_eq_ok_iff.1 hstep
    simp [hseen, or_comm]

/-- entries that have been taken make the draft of their cells -/
theorem takeEntries_made {entries : List Entry} {d : Draft} (h : takeEntries channels rowIndex [] {} entries = .ok d) :
    d.MadeOf (entries.filterMap (cellOf channels)) :=
  takeCells_made (takeEntries_cells h).1

end Point

end Telemetry
