import Mathlib.Data.List.Forall2
import Mathlib.Data.List.Nodup
import Mathlib.Data.String.Basic
import Telemetry.Point.OfRows
import Telemetry.Proofs.Except
/-
Rows in their two formats make the same points.

What a cell does to a draft does not depend on the draft: it sets the time, sets a field, or does nothing (`Effect`). So a
null cell may be left out, and cells of different channels may be taken in either order, as long as no two of them set the
same thing.

- `takeEntries_entriesOf`: a row with one cell per channel, in its explicit form;
- `takeEntries_dropsNulls`: entries without a value may be left out;
- `takeEntries_perm`: entries may be taken in any order;
- `encodings_agree`: the points of implicit and explicit rows.
-/
namespace Telemetry

/-! ## Maps -/

namespace SortedMap

variable {α : Type} {key key' k : String} {value x : α} {m : SortedMap α}

theorem insert_cons_of_lt (h : key < k) : insert key value ((k, x) :: m) = (key, value) :: (k, x) :: m := by
  rw [insert, if_pos h]

theorem insert_cons_self : insert k value ((k, x) :: m) = (k, value) :: m := by
  rw [insert, if_neg (lt_irrefl k), if_pos rfl]

theorem insert_cons_of_gt (h : k < key) : insert key value ((k, x) :: m) = (k, x) :: insert key value m := by
  rw [insert, if_neg h.not_gt, if_neg h.ne']

/-- entries of different keys may be set in either order -/
theorem insert_comm (hne : key ≠ key') (value value' : α) (m : SortedMap α) :
    (m.insert key value).insert key' value' = (m.insert key' value').insert key value := by
  wlog h : key < key' generalizing key key' value value'
  · exact (this hne.symm value' value (lt_of_le_of_ne (not_lt.1 h) hne.symm)).symm
  induction m with
  | nil => simp only [insert, h, h.not_gt, hne.symm, if_true, if_false]
  | cons entry m ih =>
    obtain ⟨k, x⟩ := entry
    rcases lt_trichotomy key k with hk | rfl | hk
    · rw [insert_cons_of_lt hk, insert_cons_of_gt h]
      rcases lt_trichotomy key' k with hk' | rfl | hk'
      · rw [insert_cons_of_lt hk', insert_cons_of_lt h]
      · rw [insert_cons_self, insert_cons_of_lt h]
      · rw [insert_cons_of_gt hk', insert_cons_of_lt hk]
    · rw [insert_cons_self, insert_cons_of_gt h, insert_cons_of_gt h, insert_cons_self]
    · rw [insert_cons_of_gt hk, insert_cons_of_gt (hk.trans h), insert_cons_of_gt (hk.trans h), insert_cons_of_gt hk, ih]

end SortedMap

/-! ## Row after row -/

namespace Payload

theorem eachFrom_congr {α β ε γ : Type} {step : Nat → α → Except ε γ} {step' : Nat → β → Except ε γ} {as : List α}
    {bs : List β} (h : List.Forall₂ (fun a b => ∀ i, step i a = step' i b) as bs) (i : Nat) :
    eachFrom step i as = eachFrom step' i bs := by
  induction h generalizing i with
  | nil => rfl
  | cons hab _ ih => rw [eachFrom, eachFrom, hab, ih]

theorem eachFrom_ok_of {α γ ε : Type} {step : Nat → α → Except ε γ} {as bs : List α}
    (h : List.Forall₂ (fun a b => ∀ i r, step i a = .ok r → step i b = .ok r) as bs) {i : Nat} {results : List γ}
    (hok : eachFrom step i as = .ok results) : eachFrom step i bs = .ok results := by
  induction h generalizing i results with
  | nil => exact hok
  | cons hab _ ih =>
    rw [eachFrom, bind_eq_ok_iff] at hok ⊢
    obtain ⟨r, hr, hrest⟩ := hok
    refine ⟨r, hab i r hr, ?_⟩
    rw [bind_eq_ok_iff] at hrest ⊢
    obtain ⟨rs, hrs, hdone⟩ := hrest
    exact ⟨rs, ih hrs, hdone⟩

end Payload

namespace Point

open Json Payload Channel

variable {channels : List Resolved} {rowIndex : Nat}

/-! ## Cells -/

/-- what a cell does to a draft -/
inductive Effect where
  | none
  | time (t : Time.Instant)
  | field (name : String) (value : FieldValue)

namespace Effect

def apply (d : Draft) : Effect → Draft
  | .none => d
  | .time t => { d with time := some t }
  | .field name value => { d with fields := d.fields.insert name value }

/-- what the cell of a channel does -/
def of (rowIndex : Nat) (c : Resolved) (v : Value) : Except ServiceError Effect :=
  if c.isTime then
    match v with
    | .null => .ok .none
    | .string s => (Time.instantOf s).map .time
    | other => .error (.invalidTimestamp other.text "time values must be strings")
  else
    match v with
    | .null => .ok .none
    | .bool b => .ok (.field c.fieldName (.boolean b))
    | .number n => .ok (.field c.fieldName (.ofNumber n))
    | .string s => .ok (.field c.fieldName (.text s))
    | .array _ | .object _ => .error (.unsupportedValue rowIndex c.definition.code)

/-- what a cell does is up to its channel: it may set the time, or the channel's field -/
theorem of_ok {c : Resolved} {v : Value} {a : Effect} (h : of rowIndex c v = .ok a) :
    a = .none ∨ (c.isTime = true ∧ ∃ t, a = .time t) ∨ (c.isTime = false ∧ ∃ x, a = .field c.fieldName x) := by
  unfold of at h
  split at h
  · rename_i htime
    cases v with
    | null => cases h; exact Or.inl rfl
    | string s =>
      obtain ⟨t, -, rfl⟩ := map_eq_ok_iff.1 h
      exact Or.inr (Or.inl ⟨htime, t, rfl⟩)
    | _ => cases h
  · rename_i htime
    rw [Bool.not_eq_true] at htime
    cases v with
    | null => cases h; exact Or.inl rfl
    | bool | number | string => cases h; exact Or.inr (Or.inr ⟨htime, _, rfl⟩)
    | array | object => cases h

/-- cells that do not set the same thing may be taken in either order -/
theorem apply_comm {c c' : Resolved} {v v' : Value} {a a' : Effect} (ha : of rowIndex c v = .ok a)
    (ha' : of rowIndex c' v' = .ok a') (htimes : c.isTime = true → c'.isTime = true → False)
    (hfields : c.isTime = false → c'.isTime = false → c.fieldName ≠ c'.fieldName) (d : Draft) :
    apply (apply d a) a' = apply (apply d a') a := by
  rcases of_ok ha with rfl | ⟨htime, t, rfl⟩ | ⟨hfield, x, rfl⟩ <;>
    rcases of_ok ha' with rfl | ⟨htime', t', rfl⟩ | ⟨hfield', x', rfl⟩
  case inr.inl.inr.inl => exact (htimes htime htime').elim
  case inr.inr.inr.inr => simp only [apply, SortedMap.insert_comm (hfields hfield hfield')]
  all_goals rfl

end Effect

theorem take_eq (d : Draft) (c : Resolved) (v : Value) :
    d.take rowIndex c v = (Effect.of rowIndex c v).map (Effect.apply d) := by
  unfold Draft.take Effect.of
  split
  · cases v with
    | string s =>
      simp only [Draft.takeTime]
      cases Time.instantOf s <;> rfl
    | _ => rfl
  · cases v <;> rfl

theorem take_null (d : Draft) (c : Resolved) : d.take rowIndex c .null = .ok d := by
  unfold Draft.take
  split <;> rfl

/-! ## Entries -/

/-- takes an entry whose index has not been seen yet -/
def takeEntry (channels : List Resolved) (rowIndex : Nat) (seen : List Nat) (d : Draft) (e : Entry) :
    Except ServiceError Draft :=
  if seen.contains e.index then .error (.duplicateIndex rowIndex e.index)
  else match channelAt channels e.index with
    | none => .error (.undeclaredIndex rowIndex e.index)
    | some c => d.take rowIndex c e.value

theorem takeEntries_cons (seen : List Nat) (d : Draft) (e : Entry) (entries : List Entry) :
    takeEntries channels rowIndex seen d (e :: entries) =
      takeEntry channels rowIndex seen d e >>= fun d => takeEntries channels rowIndex (e.index :: seen) d entries := by
  rw [takeEntries, takeEntry]
  split
  · rfl
  · cases channelAt channels e.index <;> rfl

theorem channelAt_some {index : Nat} {c : Resolved} (h : channelAt channels index = some c) :
    c ∈ channels ∧ c.index = index := by
  have hmem := List.mem_of_find?_eq_some h
  have hindex := List.find?_some h
  exact ⟨List.mem_reverse.1 hmem, by simpa using hindex⟩

theorem channelAt_of_mem (hindices : (channels.map (·.index)).Nodup) {c : Resolved} (hc : c ∈ channels) :
    channelAt channels c.index = some c := by
  rcases hfound : channelAt channels c.index with _ | found
  · have hnone := List.find?_eq_none.1 hfound c (List.mem_reverse.2 hc)
    simp at hnone
  · obtain ⟨hmem, hindex⟩ := channelAt_some hfound
    rw [List.inj_on_of_nodup_map hindices hmem hc hindex]

/-- what is unseen, and has not a certain index, is unseen even once this index is seen -/
theorem unseen_cons {α : Type} {index : α → Nat} {first : Nat} {rest : List α} {seen : List Nat}
    (hfirst : first ∉ rest.map index) (hnew : ∀ a ∈ rest, index a ∉ seen) : ∀ a ∈ rest, index a ∉ first :: seen := by
  intro a ha
  refine List.not_mem_cons_of_ne_of_not_mem ?_ (hnew a ha)
  rintro rfl
  exact hfirst (List.mem_map_of_mem ha)

/-- a new entry of a declared channel -/
theorem takeEntry_of_new {seen : List Nat} {d : Draft} {e : Entry} {c : Resolved} (hnew : e.index ∉ seen)
    (hc : channelAt channels e.index = some c) : takeEntry channels rowIndex seen d e = d.take rowIndex c e.value := by
  have hseen : seen.contains e.index = false := by simpa using hnew
  rw [takeEntry, hseen, hc]
  rfl

/-! ## A row with one cell per channel -/

/-- the explicit form of a row with one cell per channel -/
def entriesOf (channels : List Resolved) (values : List Value) : List Entry :=
  List.zipWith (fun c v => ⟨c.index, v⟩) channels values

theorem entriesOf_indices {values : List Value} (hlength : values.length = channels.length) :
    (entriesOf channels values).map (·.index) = channels.map (·.index) := by
  induction channels generalizing values with
  | nil => rfl
  | cons c channels ih =>
    cases values with
    | nil => cases hlength
    | cons v values =>
      rw [List.length_cons, List.length_cons, Nat.succ_inj] at hlength
      rw [List.map_cons, ← ih hlength]
      rfl

theorem takeEntries_entriesOf {cs : List Resolved} (hdeclared : ∀ c ∈ cs, channelAt channels c.index = some c)
    (hindices : (cs.map (·.index)).Nodup) (values : List Value) {seen : List Nat} (hnew : ∀ c ∈ cs, c.index ∉ seen) (d : Draft) :
    takeEntries channels rowIndex seen d (entriesOf cs values) = takeCells rowIndex d (cs.zip values) := by
  induction cs generalizing values seen d with
  | nil => rfl
  | cons c cs ih =>
    cases values with
    | nil => rfl
    | cons v values =>
      rw [List.forall_mem_cons] at hdeclared hnew
      rw [List.map_cons, List.nodup_cons] at hindices
      have hstep : takeEntry channels rowIndex seen d ⟨c.index, v⟩ = d.take rowIndex c v :=
        takeEntry_of_new hnew.1 hdeclared.1
      change takeEntries channels rowIndex seen d (⟨c.index, v⟩ :: entriesOf cs values) = _
      rw [takeEntries_cons, hstep, List.zip_cons_cons, takeCells]
      exact bind_congr fun d' => ih hdeclared.2 hindices.2 values (unseen_cons hindices.1 hnew.2) d'

/-! ## Entries without a value -/

/-- some entries without a value are left out -/
inductive DropsNulls : List Entry → List Entry → Prop
  | nil : DropsNulls [] []
  | keep (e : Entry) {entries kept : List Entry} (h : DropsNulls entries kept) : DropsNulls (e :: entries) (e :: kept)
  | drop (index : Nat) {entries kept : List Entry} (h : DropsNulls entries kept) :
      DropsNulls (⟨index, .null⟩ :: entries) kept

/-- entries of different channels, all declared: those without a value may be left out -/
theorem takeEntries_dropsNulls {entries kept : List Entry} (h : DropsNulls entries kept)
    (hdeclared : ∀ e ∈ entries, ∃ c, channelAt channels e.index = some c) (hindices : (entries.map (·.index)).Nodup)
    {seen seen' : List Nat} (hnew : ∀ e ∈ entries, e.index ∉ seen) (hseen : seen' ⊆ seen) (d : Draft) :
    takeEntries channels rowIndex seen' d kept = takeEntries channels rowIndex seen d entries := by
  induction h generalizing seen seen' d with
  | nil => rfl
  | keep e h ih =>
    rw [List.forall_mem_cons] at hdeclared hnew
    rw [List.map_cons, List.nodup_cons] at hindices
    obtain ⟨⟨c, hc⟩, hdeclared⟩ := hdeclared
    rw [takeEntries_cons, takeEntries_cons, takeEntry_of_new hnew.1 hc, takeEntry_of_new (fun hmem => hnew.1 (hseen hmem)) hc]
    have hrest := unseen_cons hindices.1 hnew.2
    exact bind_congr fun d' => ih hdeclared hindices.2 hrest (List.cons_subset_cons e.index hseen) d'
  | drop index h ih =>
    rw [List.forall_mem_cons] at hdeclared hnew
    rw [List.map_cons, List.nodup_cons] at hindices
    obtain ⟨⟨c, hc⟩, hdeclared⟩ := hdeclared
    rw [takeEntries_cons, takeEntry_of_new hnew.1 hc, take_null]
    -- the entry has left nothing behind but its index, which no later entry has
    exact ih hdeclared hindices.2 (unseen_cons hindices.1 hnew.2) (List.subset_cons_of_subset index hseen) d

/-! ## Entries in another order -/

theorem takeEntry_ok {seen : List Nat} {d d' : Draft} {e : Entry} :
    takeEntry channels rowIndex seen d e = .ok d' ↔ e.index ∉ seen ∧ ∃ c a, channelAt channels e.index = some c ∧
      Effect.of rowIndex c e.value = .ok a ∧ Effect.apply d a = d' := by
  unfold takeEntry
  by_cases hseen : e.index ∈ seen
  · simp [hseen]
  · cases hc : channelAt channels e.index with
    | none => simp [hseen]
    | some c => simp [hseen, take_eq, map_eq_ok_iff]

/-- indices count as seen whatever their order -/
theorem takeEntries_seen {seen seen' : List Nat} (hseen : ∀ index, index ∈ seen ↔ index ∈ seen') (d : Draft)
    (entries : List Entry) :
    takeEntries channels rowIndex seen d entries = takeEntries channels rowIndex seen' d entries := by
  induction entries generalizing seen seen' d with
  | nil => rfl
  | cons e entries ih =>
    have hcontains : seen.contains e.index = seen'.contains e.index := by
      rw [Bool.eq_iff_iff]
      simpa using hseen e.index
    have hstep : takeEntry channels rowIndex seen d e = takeEntry channels rowIndex seen' d e := by
      rw [takeEntry, takeEntry, hcontains]
    rw [takeEntries_cons, takeEntries_cons, hstep]
    refine bind_congr fun d' => ih (fun index => ?_) d'
    rw [List.mem_cons, List.mem_cons, hseen index]

/-- no two channels set the same thing -/
structure Apart (channels : List Resolved) : Prop where
  times : (channels.filter (·.isTime)).length ≤ 1
  fields : ((channels.filter fun c => !c.isTime).map (·.fieldName)).Nodup

theorem Apart.not_both_time (h : Apart channels) {c c' : Resolved} (hc : c ∈ channels) (hc' : c' ∈ channels) (hne : c ≠ c')
    (htime : c.isTime = true) (htime' : c'.isTime = true) : False := by
  have hmem : c ∈ channels.filter (·.isTime) := List.mem_filter.2 ⟨hc, htime⟩
  have hmem' : c' ∈ channels.filter (·.isTime) := List.mem_filter.2 ⟨hc', htime'⟩
  have hlength := h.times
  generalize channels.filter (·.isTime) = times at hmem hmem' hlength
  rcases times with _ | ⟨x, _ | ⟨y, rest⟩⟩
  · cases hmem
  · rw [List.mem_singleton] at hmem hmem'
    exact hne (hmem.trans hmem'.symm)
  · simp at hlength

theorem Apart.fieldName_ne (h : Apart channels) {c c' : Resolved} (hc : c ∈ channels) (hc' : c' ∈ channels) (hne : c ≠ c')
    (hfield : c.isTime = false) (hfield' : c'.isTime = false) : c.fieldName ≠ c'.fieldName := by
  intro heq
  refine hne (List.inj_on_of_nodup_map h.fields ?_ ?_ heq)
  · exact List.mem_filter.2 ⟨hc, by simpa using hfield⟩
  · exact List.mem_filter.2 ⟨hc', by simpa using hfield'⟩

/-- two entries that can be taken can be taken in the other order -/
theorem takeEntry_swap (h : Apart channels) {seen : List Nat} {d d1 d2 : Draft} {e e' : Entry}
    (he : takeEntry channels rowIndex seen d e = .ok d1) (he' : takeEntry channels rowIndex (e.index :: seen) d1 e' = .ok d2) :
    ∃ d1', takeEntry channels rowIndex seen d e' = .ok d1' ∧
      takeEntry channels rowIndex (e'.index :: seen) d1' e = .ok d2 := by
  obtain ⟨hseen, c, a, hc, ha, rfl⟩ := takeEntry_ok.1 he
  obtain ⟨hseen', c', a', hc', ha', rfl⟩ := takeEntry_ok.1 he'
  rw [List.mem_cons, not_or] at hseen'
  obtain ⟨hmem, hindex⟩ := channelAt_some hc
  obtain ⟨hmem', hindex'⟩ := channelAt_some hc'
  -- different indices belong to different channels, which do not set the same thing
  have hne : c ≠ c' := by
    rintro rfl
    exact hseen'.1 (hindex'.symm.trans hindex)
  refine ⟨Effect.apply d a', takeEntry_ok.2 ⟨hseen'.2, c', a', hc', ha', rfl⟩, takeEntry_ok.2 ⟨?_, c, a, hc, ha, ?_⟩⟩
  · exact List.not_mem_cons_of_ne_of_not_mem (Ne.symm hseen'.1) hseen
  · exact (Effect.apply_comm ha ha' (h.not_both_time hmem hmem' hne) (h.fieldName_ne hmem hmem' hne) d).symm

/-- entries that can be taken can be taken in any order, and make the same draft -/
theorem takeEntries_perm (h : Apart channels) {entries shuffled : List Entry} (hperm : entries.Perm shuffled)
    {seen : List Nat} {d d' : Draft} (hok : takeEntries channels rowIndex seen d entries = .ok d') :
    takeEntries channels rowIndex seen d shuffled = .ok d' := by
  induction hperm generalizing seen d with
  | nil => exact hok
  | cons e _ ih =>
    rw [takeEntries_cons, bind_eq_ok_iff] at hok ⊢
    obtain ⟨d1, he, hrest⟩ := hok
    exact ⟨d1, he, ih hrest⟩
  | swap e e' entries =>
    rw [takeEntries_cons, bind_eq_ok_iff] at hok ⊢
    obtain ⟨d1, he, hrest⟩ := hok
    rw [takeEntries_cons, bind_eq_ok_iff] at hrest
    obtain ⟨d2, he', hrest⟩ := hrest
    obtain ⟨d1', hswap, hswap'⟩ := takeEntry_swap h he he'
    refine ⟨d1', hswap, ?_⟩
    rw [takeEntries_cons, bind_eq_ok_iff]
    refine ⟨d2, hswap', ?_⟩
    rw [← hrest]
    exact takeEntries_seen (fun index => by simp only [List.mem_cons]; tauto) d2 entries
  | trans _ _ ih ih' => exact ih' (ih hok)

/-! ## Rows -/

theorem ofImplicitRow_eq (hindices : (channels.map (·.index)).Nodup) {values : List Value}
    (hlength : values.length = channels.length) (rowIndex : Nat) :
    ofImplicitRow channels rowIndex values = ofExplicitRow channels rowIndex (entriesOf channels values) := by
  have htake : takeEntries channels rowIndex [] {} (entriesOf channels values) = takeCells rowIndex {} (channels.zip values) :=
    takeEntries_entriesOf (fun c hc => channelAt_of_mem hindices hc) hindices values (fun _ _ => List.not_mem_nil) {}
  rw [ofExplicitRow, htake, ofImplicitRow, if_neg (not_not.2 hlength)]

theorem ofExplicitRow_dropsNulls (hindices : (channels.map (·.index)).Nodup) {values : List Value} {kept : List Entry}
    (hlength : values.length = channels.length) (h : DropsNulls (entriesOf channels values) kept) (rowIndex : Nat) :
    ofExplicitRow channels rowIndex kept = ofExplicitRow channels rowIndex (entriesOf channels values) := by
  have hentries := entriesOf_indices hlength
  have hdeclared : ∀ e ∈ entriesOf channels values, ∃ c, channelAt channels e.index = some c := by
    intro e he
    have hindex : e.index ∈ channels.map (·.index) := by
      rw [← hentries]
      exact List.mem_map_of_mem he
    obtain ⟨c, hc, heq⟩ := List.mem_map.1 hindex
    exact ⟨c, by rw [← heq, channelAt_of_mem hindices hc]⟩
  rw [← hentries] at hindices
  rw [ofExplicitRow, ofExplicitRow,
    takeEntries_dropsNulls h hdeclared hindices (fun _ _ => List.not_mem_nil) (List.Subset.refl []) {}]

theorem ofExplicitRow_perm (h : Apart channels) {entries shuffled : List Entry} (hperm : entries.Perm shuffled)
    (rowIndex : Nat) (point : Point) (hok : ofExplicitRow channels rowIndex entries = .ok point) :
    ofExplicitRow channels rowIndex shuffled = .ok point := by
  rw [ofExplicitRow, bind_eq_ok_iff] at hok ⊢
  obtain ⟨d, htake, hfinish⟩ := hok
  exact ⟨d, takeEntries_perm h hperm htake, hfinish⟩

/-- explicit rows make the same points, if any, in whatever order their entries stand -/
theorem ofRows_perm (h : Apart channels) {rows shuffled : List (List Entry)} (hperm : List.Forall₂ List.Perm rows shuffled)
    {points : List Point} (hok : ofRows channels (.explicit rows) = .ok points) :
    ofRows channels (.explicit shuffled) = .ok points := by
  rw [ofRows] at hok ⊢
  split at hok
  · cases hok
  · rename_i hmany
    rw [if_neg hmany]
    refine eachFrom_ok_of (hperm.imp fun entries shuffled hrow i point => ?_) hok
    exact ofExplicitRow_perm h hrow i point

/-- **Both formats of rows make the same points.** Take two channels or more with different indices. Rows with one cell per
channel make the same points as their explicit form, or fail in the same way, and so does the explicit form with any
entries without a value left out. If moreover no two channels set the same thing, the order of the entries in explicit rows
decides neither whether there are points nor what they are. -/
theorem encodings_agree (channels : List Resolved) (rows : List (List Value)) (htwo : 2 ≤ channels.length)
    (hindices : (channels.map (·.index)).Nodup) (hrows : ∀ values ∈ rows, values.length = channels.length) :
    ofRows channels (.implicit rows) = ofRows channels (.explicit (rows.map (entriesOf channels))) ∧
    (∀ kept, List.Forall₂ DropsNulls (rows.map (entriesOf channels)) kept →
      ofRows channels (.explicit kept) = ofRows channels (.explicit (rows.map (entriesOf channels)))) ∧
    ((channels.filter (·.isTime)).length ≤ 1 → ((channels.filter fun c => !c.isTime).map (·.fieldName)).Nodup →
      ∀ explicit shuffled : List (List Entry), List.Forall₂ List.Perm explicit shuffled →
        (ofRows channels (.explicit shuffled)).toOption = (ofRows channels (.explicit explicit)).toOption) := by
  have hmany : ¬ channels.length < 2 := by omega
  have hexplicit : ∀ entries, ofRows channels (.explicit entries) = eachFrom (ofExplicitRow channels) 0 entries := by
    intro entries
    rw [ofRows, if_neg hmany]
  refine ⟨?_, fun kept hkept => ?_, fun htimes hfields explicit shuffled hperm => ?_⟩
  · rw [hexplicit, ofRows]
    refine eachFrom_congr (List.forall₂_map_right_iff.2 (List.forall₂_same.2 fun values hvalues i => ?_)) 0
    exact ofImplicitRow_eq hindices (hrows values hvalues) i
  · rw [hexplicit, hexplicit]
    refine eachFrom_congr (List.forall₂_map_right_iff.2 ?_) 0
    have hboth := ((List.forall₂_and_left _ _).2 ⟨hrows, List.forall₂_map_left_iff.1 hkept⟩).flip
    exact hboth.imp fun kept values hrow => ofExplicitRow_dropsNulls hindices hrow.1 hrow.2
  · have happart : Apart channels := ⟨htimes, hfields⟩
    have hback : List.Forall₂ List.Perm shuffled explicit := hperm.flip.imp fun _ _ h => h.symm
    rcases hok : ofRows channels (.explicit explicit) with e | points
    · rcases hok' : ofRows channels (.explicit shuffled) with e' | points
      · rfl
      · rw [ofRows_perm happart hback hok'] at hok
        cases hok
    · rw [ofRows_perm happart hperm hok]

/-- a time, a load and a temperature, with indices of their own -/
def pumpChannels : List Resolved :=
  [⟨3, { code := "time", dimension := "time", unit := "unitless" }, "time"⟩,
    ⟨1, { code := "load", dimension := "power", unit := "kW" }, "load.kW"⟩,
    ⟨7, { code := "heat", dimension := "temperature", unit := "K" }, "heat.K"⟩]

/-- a time and a load, without a temperature -/
def pumpRow : List Value := [.string "2024-05-01T10:00:00Z", .ofInt 5, .null]

/-- the row makes a point, and the same one in explicit form without its null, in either order -/
theorem encodings_agree_pump :
    let time : Entry := ⟨3, .string "2024-05-01T10:00:00Z"⟩
    let load : Entry := ⟨1, .ofInt 5⟩
    ofRows pumpChannels (.implicit [pumpRow]) = ofRows pumpChannels (.explicit [entriesOf pumpChannels pumpRow]) ∧
      ofRows pumpChannels (.explicit [[time, load]]) = ofRows pumpChannels (.explicit [entriesOf pumpChannels pumpRow]) ∧
      (ofRows pumpChannels (.explicit [[load, time]])).toOption = (ofRows pumpChannels (.explicit [[time, load]])).toOption ∧
      (ofRows pumpChannels (.implicit [pumpRow])).toOption.map (·.map (·.fields)) =
        some [[("load.kW", .integer 5)]] := by
  intro time load
  obtain ⟨hformats, hdrops, horder⟩ :=
    encodings_agree pumpChannels [pumpRow] (by decide) (by decide) (by simp [pumpRow, pumpChannels])
  have hdropped : DropsNulls (entriesOf pumpChannels pumpRow) [time, load] := .keep time (.keep load (.drop 7 .nil))
  refine ⟨hformats, hdrops _ (.cons hdropped .nil), ?_, by decide +kernel⟩
  exact horder (by decide +kernel) (by decide +kernel) _ _ (.cons (.swap load time []) .nil)

end Point

end Telemetry
