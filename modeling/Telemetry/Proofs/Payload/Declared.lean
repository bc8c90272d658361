import Mathlib.Data.List.Nodup
import Telemetry.Payload.Declared
import Telemetry.Proofs.Except
import Telemetry.Proofs.Text.Trim
/-
Declared channels are told apart by their codes, and by their indices.

Each channel is compared with all that were declared before it, so what holds of the channels so far carries over. A channel
that is declared alone is accepted if it has a code, without the blanks at the ends of its texts.
-/
namespace Telemetry.Payload

open Text

/-- no two channels have one code, or one index -/
structure Distinct (channels : List DeclaredChannel) : Prop where
  codes : (channels.map (·.code)).Nodup
  indices : (channels.map (·.index)).Nodup

theorem Distinct.nil : Distinct [] :=
  ⟨List.nodup_nil, List.nodup_nil⟩

theorem sameIgnoringCase_self (s : String) : sameIgnoringCase s s = true := by
  simp [sameIgnoringCase]

/-- a channel differs in code and in index from those declared before it -/
theorem declare_ok {before : List DeclaredChannel} {position : Nat} {w : WireChannel} {c : DeclaredChannel}
    (h : declare before position w = .ok c) : ∀ b ∈ before, b.code ≠ c.code ∧ b.index ≠ c.index := by
  simp only [declare] at h
  split at h
  · cases h
  · split at h
    · cases h
    · rename_i hcodes
      obtain ⟨index, hindex, hrest⟩ := bind_eq_ok_iff.1 h
      split at hrest
      · cases hrest
      · rename_i hindices
        cases hrest
        refine fun b hb => ⟨?_, ?_⟩
        · rintro heq
          apply hcodes
          exact List.any_eq_true.2 ⟨b, hb, by rw [heq]; exact sameIgnoringCase_self _⟩
        · simpa using List.find?_eq_none.1 hindices b hb

theorem Distinct.append {before : List DeclaredChannel} {c : DeclaredChannel} (h : Distinct before)
    (hnew : ∀ b ∈ before, b.code ≠ c.code ∧ b.index ≠ c.index) : Distinct (before ++ [c]) := by
  have hnodup {α : Type} {f : DeclaredChannel → α} (hbefore : (before.map f).Nodup) (hf : ∀ b ∈ before, f b ≠ f c) :
      ((before ++ [c]).map f).Nodup := by
    rw [List.map_append, List.map_singleton, ← List.concat_eq_append, List.nodup_concat]
    refine ⟨fun hmem => ?_, hbefore⟩
    obtain ⟨b, hb, heq⟩ := List.mem_map.1 hmem
    exact hf b hb heq
  exact ⟨hnodup h.codes fun b hb => (hnew b hb).1, hnodup h.indices fun b hb => (hnew b hb).2⟩

theorem declareFrom_distinct {before channels : List DeclaredChannel} {ws : List WireChannel} (hbefore : Distinct before)
    (h : declareFrom before ws = .ok channels) : Distinct channels := by
  induction ws generalizing before with
  | nil =>
    cases h
    exact hbefore
  | cons w ws ih =>
    obtain ⟨c, hc, hrest⟩ := bind_eq_ok_iff.1 h
    exact ih (hbefore.append (declare_ok hc)) hrest

/-- the channels of a payload differ in their codes and in their indices -/
theorem parseChannels_distinct {ws : List WireChannel} {channels : List DeclaredChannel}
    (h : parseChannels ws = .ok channels) : Distinct channels :=
  declareFrom_distinct .nil h

/-- a channel by itself is accepted if its code is not blank -/
theorem parseChannels_single {code : String} (hcode : isBlankText code = false) (index : Option Nat) (uom dimension : String) :
    parseChannels [⟨index.map Int.ofNat, code, uom, dimension⟩] =
      .ok [⟨index.getD 0, trim code, trim uom, trim dimension⟩] := by
  have hdeclare : declare [] 0 ⟨index.map Int.ofNat, code, uom, dimension⟩ =
      .ok ⟨index.getD 0, trim code, trim uom, trim dimension⟩ := by
    unfold declare
    simp only [trim_ne_empty hcode, if_false, List.any_nil]
    cases index <;> rfl
  rw [parseChannels, declareFrom, List.length_nil, hdeclare]
  rfl

end Telemetry.Payload
