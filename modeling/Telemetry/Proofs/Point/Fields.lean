import Telemetry.Proofs.Payload.RowCounts
import Telemetry.Proofs.Point.Encodings
/-
The fields of a point are the cells of its row.

The cells of a row are values with their channels: one of each channel, or those that the row has entries for. A point keeps
them if it has a field for each cell that is no time and no null, under the name of the cell's channel, and no other fields.

- `SortedMap.insert_perm`: an entry of a new key is added, and none is lost;
- `takeCells_taken`: cells of channels with different names become fields of their own;
- `takeCells_names`, `ofRows_names`: no field is named otherwise than by a channel;
- `ofRows_keepsCells`: the points of rows keep all cells.
-/
namespace Telemetry

open Json Payload Channel

/-! ## Maps -/

namespace SortedMap

variable {α : Type} {key : String} {value : α} {m : SortedMap α}

/-- an entry of a new key is added, and none is lost -/
theorem insert_perm (hnew : key ∉ m.keys) (value : α) : (m.insert key value).Perm ((key, value) :: m) := by
  induction m with
  | nil => exact .refl _
  | cons entry m ih =>
    obtain ⟨k, x⟩ := entry
    have hne : key ≠ k := List.ne_of_not_mem_cons hnew
    have hrest : key ∉ keys m := List.not_mem_of_not_mem_cons hnew
    rw [insert, if_neg hne]
    split
    · exact .refl _
    · exact ((ih hrest).cons (k, x)).trans (.swap _ _ m)

/-- an entry that is set adds its key, and no other -/
theorem mem_keys_insert {k : String} : k ∈ (m.insert key value).keys ↔ k = key ∨ k ∈ m.keys := by
  induction m with
  | nil => exact List.mem_singleton.trans (or_iff_left List.not_mem_nil).symm
  | cons entry m ih =>
    obtain ⟨first, x⟩ := entry
    have hcons (y : α) (m : SortedMap α) : k ∈ keys ((first, y) :: m) ↔ k = first ∨ k ∈ m.keys := List.mem_cons
    rw [insert, hcons]
    split
    · exact List.mem_cons.trans (or_congr_right (hcons x m))
    · split
      · rename_i hsame
        subst hsame
        rw [hcons, or_self_left]
      · rw [hcons, ih, or_left_comm]

theorem get?_of_mem (hkeys : m.keys.Nodup) (h : (key, value) ∈ m) : m.get? key = some value := by
  rcases hfound : m.find? (·.1 == key) with _ | entry
  · have hnone := List.find?_eq_none.1 hfound _ h
    simp at hnone
  · have hkey : entry.1 = key := by simpa using List.find?_some hfound
    have hentry := List.inj_on_of_nodup_map hkeys (List.mem_of_find?_eq_some hfound) h hkey
    rw [get?, hfound, hentry]
    rfl

end SortedMap

/-- the field that a cell becomes, if it is of a stored type -/
def FieldValue.ofCell? : Value → Option FieldValue
  | .bool b => some (.boolean b)
  | .number n => some (.ofNumber n)
  | .string s => some (.text s)
  | .null | .array _ | .object _ => none

namespace Point

variable {channels : List Resolved} {rowIndex : Nat}

/-! ## Cells -/

abbrev Cell := Resolved × Value

namespace Cell

/-- the cell is to become a field: it is neither a time nor a null -/
def isField : Cell → Bool
  | (_, .null) => false
  | (c, _) => !c.isTime

def fieldName (cell : Cell) : String := cell.1.fieldName

theorem not_isTime_of_isField {cell : Cell} (h : cell.isField = true) : (!cell.1.isTime) = true := by
  obtain ⟨c, v⟩ := cell
  cases v <;> first | exact h | cases h

end Cell

def fieldNames (cells : List Cell) : List String :=
  (cells.filter Cell.isField).map Cell.fieldName

theorem fieldNames_cons (cell : Cell) (cells : List Cell) :
    fieldNames (cell :: cells) = if cell.isField then cell.fieldName :: fieldNames cells else fieldNames cells := by
  unfold fieldNames
  rw [List.filter_cons]
  split <;> rfl

/-- a cell sets the field of its channel if it is to become one, and else no field -/
theorem take_fields {d d' : Draft} {cell : Cell} (h : d.take rowIndex cell.1 cell.2 = .ok d') :
    (cell.isField = false ∧ d'.fields = d.fields) ∨
      (cell.isField = true ∧ ∃ value, FieldValue.ofCell? cell.2 = some value ∧
        d'.fields = d.fields.insert cell.fieldName value) := by
  obtain ⟨c, v⟩ := cell
  unfold Draft.take at h
  split at h
  · rename_i htime
    cases v with
    | null => cases h; exact Or.inl ⟨rfl, rfl⟩
    | string s =>
      obtain ⟨t, -, rfl⟩ := map_eq_ok_iff.1 h
      exact Or.inl ⟨by simp [Cell.isField, htime], rfl⟩
    | _ => cases h
  · rename_i htime
    cases v with
    | null => cases h; exact Or.inl ⟨rfl, rfl⟩
    | bool | number | string =>
      cases h
      exact Or.inr ⟨by simpa [Cell.isField] using htime, _, rfl, rfl⟩
    | array | object => cases h

/-- all that is known of the fields once cells have been taken: those from before are kept, each cell that is to become a field
has become one, and there are no others -/
structure Taken (cells : List Cell) (d d' : Draft) : Prop where
  kept : ∀ entry ∈ d.fields, entry ∈ d'.fields
  fields : ∀ cell ∈ cells, cell.isField = true →
    ∃ value, FieldValue.ofCell? cell.2 = some value ∧ (cell.fieldName, value) ∈ d'.fields
  keys : d'.fields.keys.Perm (fieldNames cells ++ d.fields.keys)

/-- cells of channels with different names become fields of their own -/
theorem takeCells_taken {cells : List Cell} {d d' : Draft} (hnames : (fieldNames cells ++ d.fields.keys).Nodup)
    (h : takeCells rowIndex d cells = .ok d') : Taken cells d d' := by
  induction cells generalizing d with
  | nil =>
    cases h
    exact ⟨fun _ hentry => hentry, fun _ hcell => absurd hcell List.not_mem_nil, .refl _⟩
  | cons cell cells ih =>
    obtain ⟨d1, htake, hrest⟩ := bind_eq_ok_iff.1 h
    rcases take_fields htake with ⟨hno, hsame⟩ | ⟨hfield, value, hvalue, hset⟩
    · have hskip : fieldNames (cell :: cells) = fieldNames cells := by rw [fieldNames_cons, if_neg (by simp [hno])]
      rw [hskip, ← hsame] at hnames
      obtain ⟨hkept, hfields, hkeys⟩ := ih hnames hrest
      rw [hsame] at hkept hkeys
      refine ⟨hkept, List.forall_mem_cons.2 ⟨fun hfield => ?_, hfields⟩, ?_⟩
      · rw [hno] at hfield
        cases hfield
      · rw [hskip]
        exact hkeys
    · have hnext : fieldNames (cell :: cells) = cell.fieldName :: fieldNames cells := by rw [fieldNames_cons, if_pos hfield]
      rw [hnext, List.cons_append] at hnames
      have hnew : cell.fieldName ∉ d.fields.keys :=
        fun hmem => (List.nodup_cons.1 hnames).1 (List.mem_append_right _ hmem)
      have hentries : d1.fields.Perm ((cell.fieldName, value) :: d.fields) := by
        rw [hset]
        exact SortedMap.insert_perm hnew value
      have hmoved : (fieldNames cells ++ d1.fields.keys).Perm (cell.fieldName :: (fieldNames cells ++ d.fields.keys)) :=
        ((hentries.map Prod.fst).append_left _).trans List.perm_middle
      obtain ⟨hkept, hfields, hkeys⟩ := ih (hmoved.nodup_iff.2 hnames) hrest
      refine ⟨fun entry hentry => ?_, List.forall_mem_cons.2 ⟨fun _ => ⟨value, hvalue, ?_⟩, hfields⟩, ?_⟩
      · exact hkept entry (hentries.mem_iff.2 (List.mem_cons_of_mem _ hentry))
      · exact hkept _ (hentries.mem_iff.2 List.mem_cons_self)
      · rw [hnext]
        exact hkeys.trans hmoved

/-- no field is named otherwise than by a cell, or from before -/
theorem takeCells_names {cells : List Cell} {d d' : Draft} (h : takeCells rowIndex d cells = .ok d') {name : String}
    (hname : name ∈ d'.fields.keys) : name ∈ d.fields.keys ∨ name ∈ fieldNames cells := by
  induction cells generalizing d with
  | nil =>
    cases h
    exact Or.inl hname
  | cons cell cells ih =>
    obtain ⟨d1, htake, hrest⟩ := bind_eq_ok_iff.1 h
    rw [fieldNames_cons]
    rcases take_fields htake with ⟨hno, hsame⟩ | ⟨hfield, value, -, hset⟩
    · rw [if_neg (by simp [hno]), ← hsame]
      exact ih hrest
    · rw [if_pos hfield]
      rcases ih hrest with hbefore | hlater
      · rw [hset] at hbefore
        rcases SortedMap.mem_keys_insert.1 hbefore with rfl | hold
        · exact Or.inr List.mem_cons_self
        · exact Or.inl hold
      · exact Or.inr (List.mem_cons_of_mem _ hlater)

/-! ## Rows -/

def cellOf (channels : List Resolved) (e : Entry) : Option Cell :=
  (channelAt channels e.index).map fun c => (c, e.value)

/-- the cells of each row -/
def cells (channels : List Resolved) : Rows → List (List Cell)
  | .implicit rows => rows.map channels.zip
  | .explicit rows => rows.map fun entries => entries.filterMap (cellOf channels)

/-- the point has a field for each cell that is to become one, with its value, and no others -/
structure KeepsCells (cells : List Cell) (point : Point) : Prop where
  fields : ∀ cell ∈ cells, cell.isField = true →
    ∃ value, FieldValue.ofCell? cell.2 = some value ∧ point.fields.get? cell.fieldName = some value
  count : point.fields.length = (cells.filter Cell.isField).length

theorem Draft.finish_fields {d : Draft} {point : Point} (h : d.finish rowIndex = .ok point) : point.fields = d.fields := by
  unfold Draft.finish at h
  split at h <;> cases h
  rfl

theorem Taken.keepsCells {cells : List Cell} {d : Draft} {point : Point} (h : Taken cells {} d)
    (hnames : (fieldNames cells).Nodup) (hfinish : d.finish rowIndex = .ok point) : KeepsCells cells point := by
  have hpoint := Draft.finish_fields hfinish
  have hkeys : d.fields.keys.Perm (fieldNames cells) := by simpa [SortedMap.keys] using h.keys
  constructor
  · intro cell hcell hfield
    obtain ⟨value, hvalue, hmem⟩ := h.fields cell hcell hfield
    refine ⟨value, hvalue, ?_⟩
    rw [hpoint]
    exact SortedMap.get?_of_mem (hkeys.nodup_iff.2 hnames) hmem
  · have hlength := hkeys.length_eq
    rw [SortedMap.keys, fieldNames, List.length_map, List.length_map] at hlength
    rw [hpoint, hlength]

/-- entries are taken as cells of different channels -/
theorem takeEntries_cells {seen : List Nat} {d d' : Draft} {entries : List Entry}
    (h : takeEntries channels rowIndex seen d entries = .ok d') :
    takeCells rowIndex d (entries.filterMap (cellOf channels)) = .ok d' ∧
      ((entries.filterMap (cellOf channels)).map (·.1.index)).Nodup ∧
      ∀ cell ∈ entries.filterMap (cellOf channels), cell.1 ∈ channels ∧ cell.1.index ∉ seen := by
  induction entries generalizing seen d with
  | nil =>
    cases h
    exact ⟨rfl, List.nodup_nil, by simp⟩
  | cons e entries ih =>
    rw [takeEntries_cons] at h
    obtain ⟨d1, htake, hrest⟩ := bind_eq_ok_iff.1 h
    obtain ⟨hunseen, c, a, hc, ha, rfl⟩ := takeEntry_ok.1 htake
    obtain ⟨hcells, hindices, hchannels⟩ := ih hrest
    obtain ⟨hmem, hindex⟩ := channelAt_some hc
    have hcell : (e :: entries).filterMap (cellOf channels) = (c, e.value) :: entries.filterMap (cellOf channels) := by
      rw [List.filterMap_cons, cellOf, hc]
      rfl
    rw [hcell]
    refine ⟨?_, List.nodup_cons.2 ⟨fun hagain => ?_, hindices⟩, List.forall_mem_cons.2 ⟨⟨hmem, ?_⟩, fun other hother => ?_⟩⟩
    · exact bind_eq_ok_iff.2 ⟨_, by rw [take_eq, ha]; rfl, hcells⟩
    · obtain ⟨other, hother, heq⟩ := List.mem_map.1 hagain
      refine List.ne_of_not_mem_cons (hchannels other hother).2 ?_
      rw [heq]
      exact hindex
    · rw [hindex]
      exact hunseen
    · exact ⟨(hchannels other hother).1, List.not_mem_of_not_mem_cons (hchannels other hother).2⟩

/-- a field that cells are to become is that of one of their channels, which is no time -/
theorem channel_of_fieldNames {cells : List Cell} (hchannels : ∀ cell ∈ cells, cell.1 ∈ channels) {name : String}
    (h : name ∈ fieldNames cells) : ∃ c ∈ channels, c.isTime = false ∧ c.fieldName = name := by
  obtain ⟨⟨c, v⟩, hcell, rfl⟩ := List.mem_map.1 h
  obtain ⟨hcell, hfield⟩ := List.mem_filter.1 hcell
  exact ⟨c, hchannels _ hcell, by simpa using Cell.not_isTime_of_isField hfield, rfl⟩

theorem ofImplicitRow_names {values : List Value} {point : Point} (h : ofImplicitRow channels rowIndex values = .ok point)
    {name : String} (hname : name ∈ point.fields.keys) : ∃ c ∈ channels, c.isTime = false ∧ c.fieldName = name := by
  unfold ofImplicitRow at h
  split at h
  · cases h
  · obtain ⟨d, htake, hfinish⟩ := bind_eq_ok_iff.1 h
    rw [Draft.finish_fields hfinish] at hname
    rcases takeCells_names htake hname with hno | hnamed
    · cases hno
    · exact channel_of_fieldNames (fun cell hcell => (List.of_mem_zip hcell).1) hnamed

theorem ofExplicitRow_names {entries : List Entry} {point : Point} (h : ofExplicitRow channels rowIndex entries = .ok point)
    {name : String} (hname : name ∈ point.fields.keys) : ∃ c ∈ channels, c.isTime = false ∧ c.fieldName = name := by
  obtain ⟨d, htake, hfinish⟩ := bind_eq_ok_iff.1 h
  obtain ⟨hcells, -, hchannels⟩ := takeEntries_cells htake
  rw [Draft.finish_fields hfinish] at hname
  rcases takeCells_names hcells hname with hno | hnamed
  · cases hno
  · exact channel_of_fieldNames (fun cell hcell => (hchannels cell hcell).1) hnamed

/-- every field of the points of rows is that of a channel which is no time -/
theorem ofRows_names {rows : Rows} {points : List Point} (h : ofRows channels rows = .ok points) {point : Point}
    (hpoint : point ∈ points) {name : String} (hname : name ∈ point.fields.keys) :
    ∃ c ∈ channels, c.isTime = false ∧ c.fieldName = name := by
  cases rows with
  | implicit rows =>
    obtain ⟨values, -, i, hrow⟩ := exists_of_forall₂ (eachFrom_forall₂ h) hpoint
    exact ofImplicitRow_names hrow hname
  | explicit rows =>
    simp only [ofRows] at h
    split at h
    · cases h
    · obtain ⟨entries, -, i, hrow⟩ := exists_of_forall₂ (eachFrom_forall₂ h) hpoint
      exact ofExplicitRow_names hrow hname

/-- channels with different indices, of which no two that are no time have one name -/
structure NamedApart (channels : List Resolved) : Prop where
  indices : (channels.map (·.index)).Nodup
  names : ((channels.filter fun c => !c.isTime).map (·.fieldName)).Nodup

/-- cells of different channels are to become fields of different names -/
theorem NamedApart.fieldNames (h : NamedApart channels) {cells : List Cell} (hcells : (cells.map (·.1)).Nodup)
    (hchannels : ∀ cell ∈ cells, cell.1 ∈ channels) : (Point.fieldNames cells).Nodup := by
  have hfields : ((cells.filter Cell.isField).map (·.1)).Nodup := hcells.sublist (List.filter_sublist.map _)
  have hmem : ∀ c ∈ (cells.filter Cell.isField).map (·.1), c ∈ channels.filter fun c => !c.isTime := by
    intro c hc
    obtain ⟨⟨c', v⟩, hcell, rfl⟩ := List.mem_map.1 hc
    obtain ⟨hcell, hfield⟩ := List.mem_filter.1 hcell
    exact List.mem_filter.2 ⟨hchannels _ hcell, Cell.not_isTime_of_isField hfield⟩
  have hnames := List.Nodup.map_on
    (fun c hc c' hc' heq => List.inj_on_of_nodup_map h.names (hmem c hc) (hmem c' hc') heq) hfields
  rwa [List.map_map] at hnames

theorem ofImplicitRow_keepsCells (h : NamedApart channels) {values : List Value} {point : Point}
    (hpoint : ofImplicitRow channels rowIndex values = .ok point) : KeepsCells (channels.zip values) point := by
  unfold ofImplicitRow at hpoint
  split at hpoint
  · cases hpoint
  · rename_i hlength
    obtain ⟨d, htake, hfinish⟩ := bind_eq_ok_iff.1 hpoint
    have hcells : ((channels.zip values).map (·.1)).Nodup := by
      rw [List.map_fst_zip (not_not.1 hlength).ge]
      exact List.Nodup.of_map _ h.indices
    have hnames := h.fieldNames hcells fun cell hcell => (List.of_mem_zip hcell).1
    exact (takeCells_taken (by simpa [SortedMap.keys] using hnames) htake).keepsCells hnames hfinish

theorem ofExplicitRow_keepsCells (h : NamedApart channels) {entries : List Entry} {point : Point}
    (hpoint : ofExplicitRow channels rowIndex entries = .ok point) :
    KeepsCells (entries.filterMap (cellOf channels)) point := by
  obtain ⟨d, htake, hfinish⟩ := bind_eq_ok_iff.1 hpoint
  obtain ⟨hcells, hindices, hchannels⟩ := takeEntries_cells htake
  have hnames := h.fieldNames (List.Nodup.of_map (·.index) (by rwa [List.map_map])) fun cell hcell => (hchannels cell hcell).1
  exact (takeCells_taken (by simpa [SortedMap.keys] using hnames) hcells).keepsCells hnames hfinish

/-- the points of rows keep all cells -/
theorem ofRows_keepsCells (h : NamedApart channels) {rows : Rows} {points : List Point}
    (hpoints : ofRows channels rows = .ok points) : List.Forall₂ KeepsCells (cells channels rows) points := by
  cases rows with
  | implicit rows =>
    refine List.forall₂_map_left_iff.2 ((eachFrom_forall₂ hpoints).imp ?_)
    rintro values point ⟨i, hpoint⟩
    exact ofImplicitRow_keepsCells h hpoint
  | explicit rows =>
    simp only [ofRows] at hpoints
    split at hpoints
    · cases hpoints
    · refine List.forall₂_map_left_iff.2 ((eachFrom_forall₂ hpoints).imp ?_)
      rintro entries point ⟨i, hpoint⟩
      exact ofExplicitRow_keepsCells h hpoint

end Point

end Telemetry
