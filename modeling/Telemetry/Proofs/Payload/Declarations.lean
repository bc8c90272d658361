import Telemetry.Proofs.Payload.Declared
import Telemetry.Proofs.Runs
/-
Which channels may be declared together.

Channels are declared one after another, each beside those before it. `WellDeclared` says of a whole list what this comes
to, and `Refused` says why a channel does not go with those before it: of several defects the one of the code comes first,
and the index is looked at last.

- `wellDeclared_concat_iff`: what a channel needs beside those before it;
- `declare_decided`: one channel, beside those before it;
- `declareFrom_stepwise`: the channels one after another;
- `channels_checked`: which declarations are accepted, as what, and what is reported of the others.
-/
namespace Telemetry.Payload

open Text

/-- the index that a channel claims at a position: the one it gives, or else the position -/
def WireChannel.slot (position : Nat) (w : WireChannel) : Int := w.index.getD position

def WireChannel.declaredAt (position : Nat) (w : WireChannel) : DeclaredChannel :=
  ⟨(w.slot position).toNat, trim w.code, trim w.uom, trim w.dimension⟩

/-- the channels as they are declared -/
def declarations (ws : List WireChannel) : List DeclaredChannel :=
  ws.mapIdx WireChannel.declaredAt

/-- every channel has a code and no negative index, and no two have one code up to case, or one index -/
structure WellDeclared (ws : List WireChannel) : Prop where
  codes : ∀ w ∈ ws, trim w.code ≠ ""
  distinctCodes : (ws.map fun w => foldCase (trim w.code)).Nodup
  indices : ∀ w ∈ ws, ∀ i, w.index = some i → 0 ≤ i
  distinctIndices : (ws.mapIdx WireChannel.slot).Nodup

/-- the channel has the code of one before it, up to case -/
def WireChannel.Repeats (before : List WireChannel) (w : WireChannel) : Prop :=
  ∃ b ∈ before, foldCase (trim b.code) = foldCase (trim w.code)

/-- why a channel does not go with those before it -/
inductive Refused (before : List WireChannel) (w : WireChannel) : ParserError → Prop
  | blank (hcode : trim w.code = "") : Refused before w (.emptyChannelCode before.length)
  | repeated (hcode : trim w.code ≠ "") (hrepeats : w.Repeats before) : Refused before w (.duplicateChannel (trim w.code))
  | negative {i : Int} (hcode : trim w.code ≠ "") (hnew : ¬ w.Repeats before) (hindex : w.index = some i) (hi : i < 0) :
      Refused before w (.invalidChannelIndex (trim w.code) i)
  /-- exactly one channel before it has its index -/
  | taken {first : DeclaredChannel} (hcode : trim w.code ≠ "") (hnew : ¬ w.Repeats before)
      (hfirst : first ∈ declarations before) (hindex : (first.index : Int) = w.slot before.length)
      (hunique : ∀ other ∈ declarations before, other.index = first.index → other = first) :
      Refused before w (.duplicateChannelIndex first.index first.code (trim w.code))

variable {before ws : List WireChannel} {w : WireChannel} {e : ParserError}

/-! ## Declarations -/

@[simp] theorem declarations_length (ws : List WireChannel) : (declarations ws).length = ws.length := by
  simp [declarations]

theorem declarations_concat (ws : List WireChannel) (w : WireChannel) :
    declarations (ws ++ [w]) = declarations ws ++ [w.declaredAt ws.length] :=
  List.mapIdx_concat

theorem slot_nonneg {position : Nat} (h : ∀ i, w.index = some i → 0 ≤ i) : 0 ≤ w.slot position := by
  unfold WireChannel.slot
  cases hindex : w.index with
  | none => simp
  | some i => exact h i hindex

theorem declarations_codes (ws : List WireChannel) :
    (declarations ws).map (fun c => foldCase c.code) = ws.map fun w => foldCase (trim w.code) := by
  apply List.ext_getElem
  · simp
  · intro i hi hi'
    simp [declarations, WireChannel.declaredAt]

/-- declared channels have the indices they claim -/
theorem WellDeclared.slots (h : WellDeclared ws) :
    (declarations ws).map (fun c => (c.index : Int)) = ws.mapIdx WireChannel.slot := by
  apply List.ext_getElem
  · simp
  · intro i hi hi'
    have hlength : i < ws.length := by simpa using hi
    have hslot : 0 ≤ ws[i].slot i := slot_nonneg (h.indices _ (List.getElem_mem hlength))
    simp only [declarations, WireChannel.declaredAt, List.getElem_map, List.getElem_mapIdx]
    exact Int.toNat_of_nonneg hslot

theorem repeats_iff : (declarations before).any (fun c => sameIgnoringCase c.code (trim w.code)) = true ↔ w.Repeats before := by
  have hdeclared : w.Repeats before ↔ foldCase (trim w.code) ∈ (declarations before).map fun c => foldCase c.code := by
    rw [declarations_codes, List.mem_map]
    rfl
  simp [hdeclared, sameIgnoringCase]

theorem WellDeclared.nil : WellDeclared [] :=
  ⟨by simp, List.nodup_nil, by simp, List.nodup_nil⟩

/-- a channel goes with those before it if its code and its index are its own -/
theorem wellDeclared_concat_iff : WellDeclared (before ++ [w]) ↔
    WellDeclared before ∧ trim w.code ≠ "" ∧ ¬ w.Repeats before ∧ (∀ i, w.index = some i → 0 ≤ i) ∧
      ∀ c ∈ declarations before, (c.index : Int) ≠ w.slot before.length := by
  have hnodup {α : Type} (as : List α) (a : α) : (as ++ [a]).Nodup ↔ as.Nodup ∧ a ∉ as := by
    rw [← List.concat_eq_append, List.nodup_concat]
    exact and_comm
  have hslots (h : WellDeclared before) : w.slot before.length ∉ before.mapIdx WireChannel.slot ↔
      ∀ c ∈ declarations before, (c.index : Int) ≠ w.slot before.length := by
    rw [← h.slots]
    simp
  constructor
  · rintro ⟨hcodes, hdistinct, hindices, hslot⟩
    rw [List.forall_mem_append, List.forall_mem_singleton] at hcodes hindices
    rw [List.map_append, List.map_singleton, hnodup, List.mem_map] at hdistinct
    rw [List.mapIdx_concat, hnodup] at hslot
    have hbefore : WellDeclared before := ⟨hcodes.1, hdistinct.1, hindices.1, hslot.1⟩
    exact ⟨hbefore, hcodes.2, hdistinct.2, hindices.2, (hslots hbefore).1 hslot.2⟩
  · rintro ⟨hbefore, hcode, hnew, hindex, hfree⟩
    refine ⟨?_, ?_, ?_, ?_⟩
    · rw [List.forall_mem_append, List.forall_mem_singleton]
      exact ⟨hbefore.codes, hcode⟩
    · rw [List.map_append, List.map_singleton, hnodup, List.mem_map]
      exact ⟨hbefore.distinctCodes, hnew⟩
    · rw [List.forall_mem_append, List.forall_mem_singleton]
      exact ⟨hbefore.indices, hindex⟩
    · rw [List.mapIdx_concat, hnodup]
      exact ⟨hbefore.distinctIndices, (hslots hbefore).2 hfree⟩

/-! ## One channel -/

theorem effectiveIndex_ok {position : Nat} (hindex : ∀ i, w.index = some i → 0 ≤ i) :
    effectiveIndex position (trim w.code) w.index = .ok (w.slot position).toNat := by
  unfold effectiveIndex WireChannel.slot
  cases h : w.index with
  | none => rfl
  | some i => exact if_pos (hindex i h)

theorem any_sameIgnoringCase_of_new (hnew : ¬ w.Repeats before) :
    (declarations before).any (fun c => sameIgnoringCase c.code (trim w.code)) = false := by
  rw [Bool.eq_false_iff]
  intro hany
  exact hnew (repeats_iff.1 hany)

/-- a channel that goes with those before it is declared -/
theorem declare_of_wellDeclared (h : WellDeclared (before ++ [w])) :
    declare (declarations before) before.length w = .ok (w.declaredAt before.length) := by
  obtain ⟨-, hcode, hnew, hindex, hfree⟩ := wellDeclared_concat_iff.1 h
  have hslot : ((w.slot before.length).toNat : Int) = w.slot before.length := Int.toNat_of_nonneg (slot_nonneg hindex)
  have hnone : (declarations before).find? (fun c => c.index == (w.slot before.length).toNat) = none := by
    rw [List.find?_eq_none]
    intro c hc hsame
    apply hfree c hc
    rw [beq_iff_eq.1 hsame, hslot]
  simp only [declare, hcode, if_false, any_sameIgnoringCase_of_new hnew, Bool.false_eq_true, effectiveIndex_ok hindex, bind,
    Except.bind, hnone]
  rfl

/-- a channel that is refused for a reason is not declared, for this reason -/
theorem Refused.declare (h : Refused before w e) : declare (declarations before) before.length w = .error e := by
  cases h with
  | blank hcode =>
    simp only [Payload.declare, hcode, if_true]
    rfl
  | repeated hcode hrepeats =>
    simp only [Payload.declare, hcode, if_false, repeats_iff.2 hrepeats, if_true]
    rfl
  | @negative i hcode hnew hindex hi =>
    have hrefused : effectiveIndex before.length (trim w.code) w.index = .error (.invalidChannelIndex (trim w.code) i) := by
      rw [hindex]
      exact if_neg (Int.not_le.2 hi)
    simp only [Payload.declare, hcode, if_false, any_sameIgnoringCase_of_new hnew, Bool.false_eq_true, hrefused]
    rfl
  | @taken first hcode hnew hfirst hindex hunique =>
    have hslot : (w.slot before.length).toNat = first.index := by
      rw [← hindex]
      exact Int.toNat_natCast first.index
    have hnonneg : ∀ i, w.index = some i → 0 ≤ i := by
      intro i hi
      simp only [WireChannel.slot, hi, Option.getD_some] at hindex
      omega
    have hfind : (declarations before).find? (fun c => c.index == first.index) = some first := by
      obtain ⟨found, hfound⟩ := Option.isSome_iff_exists.1
        (List.find?_isSome.2 ⟨first, hfirst, beq_self_eq_true first.index⟩ :
          ((declarations before).find? fun c => c.index == first.index).isSome)
      have hsame : found.index = first.index := by simpa using List.find?_some hfound
      rw [hfound, hunique found (List.mem_of_find?_eq_some hfound) hsame]
    simp only [Payload.declare, hcode, if_false, any_sameIgnoringCase_of_new hnew, Bool.false_eq_true,
      effectiveIndex_ok hnonneg, hslot, bind, Except.bind, hfind]
    rfl

/-- a channel goes with those before it, or there is a reason why not -/
theorem wellDeclared_or_refused (h : WellDeclared before) (w : WireChannel) :
    WellDeclared (before ++ [w]) ∨ ∃ e, Refused before w e := by
  by_cases hcode : trim w.code = ""
  · exact Or.inr ⟨_, .blank hcode⟩
  by_cases hnew : w.Repeats before
  · exact Or.inr ⟨_, .repeated hcode hnew⟩
  by_cases hindex : ∀ i, w.index = some i → 0 ≤ i
  · by_cases hfree : ∀ c ∈ declarations before, (c.index : Int) ≠ w.slot before.length
    · exact Or.inl (wellDeclared_concat_iff.2 ⟨h, hcode, hnew, hindex, hfree⟩)
    · obtain ⟨first, hfirst, htaken⟩ : ∃ c ∈ declarations before, (c.index : Int) = w.slot before.length := by
        simpa using hfree
      -- two channels before it with one index would not go together
      have hnodup : ((declarations before).map fun c => (c.index : Int)).Nodup := by
        rw [h.slots]
        exact h.distinctIndices
      refine Or.inr ⟨_, .taken hcode hnew hfirst htaken ?_⟩
      intro other hother hsame
      exact List.inj_on_of_nodup_map hnodup hother hfirst (congrArg Nat.cast hsame)
  · obtain ⟨i, hi, hnegative⟩ : ∃ i, w.index = some i ∧ i < 0 := by simpa using hindex
    exact Or.inr ⟨_, .negative hcode hnew hi hnegative⟩

/-- a channel is declared if it goes with those before it -/
theorem declare_decided (h : WellDeclared before) (w : WireChannel) :
    Decided (declare (declarations before) before.length w) (WellDeclared (before ++ [w])) (Refused before w) := by
  apply Decided.of
  · intro hwell
    exact ⟨_, declare_of_wellDeclared hwell⟩
  · intro e hrefused
    exact hrefused.declare
  · exact wellDeclared_or_refused h w

theorem Refused.not_wellDeclared (h : Refused before w e) : ¬ WellDeclared (before ++ [w]) := by
  intro hwell
  have hdeclared := declare_of_wellDeclared hwell
  rw [h.declare] at hdeclared
  cases hdeclared

/-! ## All channels -/

/-- the channels so far, with a channel declared beside them -/
def declareNext (declared : List DeclaredChannel) (w : WireChannel) : Except ParserError (List DeclaredChannel) :=
  (declare declared declared.length w).map fun c => declared ++ [c]

/-- channels are declared one after another, each beside those before it -/
theorem declareFrom_stepwise :
    Stepwise declareFrom declareNext WellDeclared (fun before declared => declared = declarations before) Refused where
  done declared := ⟨declared, rfl⟩
  next declared w ws := by
    rw [declareFrom, declareNext]
    cases declare declared declared.length w <;> rfl
  good_of_concat before w h := (wellDeclared_concat_iff.1 h).1
  step_decided := by
    rintro before _ w h rfl
    rw [declareNext, declarations_length]
    exact (declare_decided h w).map _
  step_reached := by
    rintro before _ w declared h rfl hnext
    rw [declareNext, declarations_length] at hnext
    have hwell : WellDeclared (before ++ [w]) := ((declare_decided h w).map _).ok_iff.1 ⟨_, hnext⟩
    rw [declare_of_wellDeclared hwell] at hnext
    cases hnext
    exact (declarations_concat before w).symm

/-- Channels are accepted if every code is there, no two are the same up to case, no index is negative and no two indices,
given or by position, are the same. They are then declared in order, trimmed. The error of others is that of the first
channel that does not go with those before it. -/
theorem channels_checked (ws : List WireChannel) :
    (∀ channels, parseChannels ws = .ok channels ↔ WellDeclared ws ∧ channels = declarations ws) ∧
      ∀ e, parseChannels ws = .error e ↔
        ∃ before w after, ws = before ++ w :: after ∧ WellDeclared before ∧ ¬ WellDeclared (before ++ [w]) ∧
          Refused before w e := by
  have hdecided : Decided (parseChannels ws) (WellDeclared ws) fun e =>
      ∃ before w after, ws = before ++ w :: after ∧ WellDeclared before ∧ Refused before w e :=
    declareFrom_stepwise.decided WellDeclared.nil rfl
  have hdeclared : ∀ channels, parseChannels ws = .ok channels → channels = declarations ws := by
    intro channels h
    obtain ⟨_, rfl, hdone⟩ := declareFrom_stepwise.end_reached WellDeclared.nil rfl h
    cases hdone
    rfl
  constructor
  · intro channels
    constructor
    · intro h
      exact ⟨hdecided.ok_iff.1 ⟨channels, h⟩, hdeclared channels h⟩
    · rintro ⟨hwell, rfl⟩
      obtain ⟨channels, h⟩ := hdecided.ok_iff.2 hwell
      rw [h, hdeclared channels h]
  · intro e
    rw [hdecided.error_iff]
    constructor
    · rintro ⟨before, w, after, hws, hbefore, hrefused⟩
      exact ⟨before, w, after, hws, hbefore, hrefused.not_wellDeclared, hrefused⟩
    · rintro ⟨before, w, after, hws, hbefore, -, hrefused⟩
      exact ⟨before, w, after, hws, hbefore, hrefused⟩

/-- a channel that has both the code and the index of one before it is reported for its code -/
example : parseChannels [⟨none, "load", "", ""⟩, ⟨some 0, " LOAD ", "", ""⟩] = .error (.duplicateChannel "LOAD") := by
  decide +kernel

end Telemetry.Payload
