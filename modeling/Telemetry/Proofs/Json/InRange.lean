import Telemetry.Json.Reader
/-
JSON values as they are read: each integer in them has 64 bits.

The type of values allows any integer. The reader keeps a number as an integer only if it fits 64 bits, unsigned, or signed if
it is negative, so whatever it returns is in range at every depth (`inRange_of_toValue?`).
-/
namespace Telemetry

open Decimal

/-! ## Maps -/

namespace SortedMap

variable {α : Type} {key : String} {value : α} {entry : String × α}

/-- an entry of a map is the one that was set last, or was there before -/
theorem mem_insert {m : SortedMap α} (h : entry ∈ m.insert key value) : entry = (key, value) ∨ entry ∈ m := by
  induction m with
  | nil => exact Or.inl (List.mem_singleton.1 h)
  | cons first rest ih =>
    obtain ⟨k, x⟩ := first
    rw [insert] at h
    split at h
    · exact List.mem_cons.1 h
    · split at h
      · exact (List.mem_cons.1 h).imp_right (List.mem_cons_of_mem _)
      · rcases List.mem_cons.1 h with rfl | hrest
        · exact Or.inr List.mem_cons_self
        · exact (ih hrest).imp_right (List.mem_cons_of_mem _)

/-- every entry of a map is one of those it was made of -/
theorem mem_ofList {entries : List (String × α)} (h : entry ∈ ofList entries) : entry ∈ entries := by
  have hfold (m : SortedMap α) (hmem : entry ∈ entries.foldl (fun m e => m.insert e.1 e.2) m) : entry ∈ m ∨ entry ∈ entries := by
    clear h
    induction entries generalizing m with
    | nil => exact Or.inl hmem
    | cons first rest ih =>
      rcases ih _ hmem with hset | hrest
      · rcases mem_insert hset with rfl | hm
        · exact Or.inr List.mem_cons_self
        · exact Or.inl hm
      · exact Or.inr (List.mem_cons_of_mem _ hrest)
  exact (hfold [] h).resolve_left List.not_mem_nil

end SortedMap

namespace Json

/-! ## Values in range -/

/-- an integer of 64 bits, unsigned or signed, or a binary number -/
def Number.InRange : Number → Prop
  | .int i => leastInt64 ≤ i ∧ i ≤ greatestNat64
  | .float _ => True

/-- every integer in the value is of 64 bits -/
inductive Value.InRange : Value → Prop
  | null : InRange .null
  | bool (b : Bool) : InRange (.bool b)
  | number {n : Number} (hn : n.InRange) : InRange (.number n)
  | string (s : String) : InRange (.string s)
  | array {items : List Value} (hitems : ∀ v ∈ items, v.InRange) : InRange (.array items)
  | object {members : List (String × Value)} (hmembers : ∀ m ∈ members, m.2.InRange) : InRange (.object members)

theorem Value.InRange.items {items : List Value} (h : (Value.array items).InRange) : ∀ v ∈ items, v.InRange := by
  cases h with
  | array hitems => exact hitems

theorem Value.InRange.int {i : Int} (h : (Value.number (.int i)).InRange) : leastInt64 ≤ i ∧ i ≤ greatestNat64 := by
  cases h with
  | number hn => exact hn

/-! ## Reading -/

theorem inRange_of_ofNumeral? {x : Numeral} {n : Number} (h : Number.ofNumeral? x = some n) : n.InRange := by
  have hfloat : x.toBinary64?.map Number.float = some n → n.InRange := by
    intro hx
    obtain ⟨b, -, rfl⟩ := Option.map_eq_some_iff.1 hx
    trivial
  unfold Number.ofNumeral? at h
  split at h
  · split at h
    · exact hfloat h
    · rename_i i _ hfits
      cases h
      exact ⟨by omega, by omega⟩
  · exact hfloat h

mutual

/-- whatever is read is in range -/
theorem inRange_of_toValue? {depth : Nat} {w : Written} {v : Value} (h : w.toValue? depth = some v) : v.InRange := by
  cases w with
  | null => cases h; exact .null
  | bool b => cases h; exact .bool b
  | number n =>
    obtain ⟨x, hx, rfl⟩ := Option.map_eq_some_iff.1 h
    exact .number (inRange_of_ofNumeral? hx)
  | string pieces =>
    obtain ⟨s, -, rfl⟩ := Option.map_eq_some_iff.1 h
    exact .string s
  | array items =>
    cases depth with
    | zero => cases h
    | succ depth =>
      obtain ⟨vs, hvs, rfl⟩ := Option.map_eq_some_iff.1 h
      exact .array (inRange_of_toValues? hvs)
  | object members =>
    cases depth with
    | zero => cases h
    | succ depth =>
      obtain ⟨ms, hms, rfl⟩ := Option.map_eq_some_iff.1 h
      exact .object fun m hm => inRange_of_toMembers? hms m (SortedMap.mem_ofList hm)

theorem inRange_of_toValues? {depth : Nat} {ws : List Written} {vs : List Value} (h : toValues? depth ws = some vs) :
    ∀ v ∈ vs, v.InRange := by
  cases ws with
  | nil => cases h; simp
  | cons w ws =>
    rw [toValues?] at h
    split at h
    · rename_i v rest hv hrest
      cases h
      exact List.forall_mem_cons.2 ⟨inRange_of_toValue? hv, inRange_of_toValues? hrest⟩
    · cases h

theorem inRange_of_toMembers? {depth : Nat} {ws : List (List Piece × Written)} {ms : List (String × Value)}
    (h : toMembers? depth ws = some ms) : ∀ m ∈ ms, m.2.InRange := by
  cases ws with
  | nil => cases h; simp
  | cons first ws =>
    obtain ⟨key, w⟩ := first
    rw [toMembers?] at h
    split at h
    · rename_i k v rest hk hv hrest
      cases h
      exact List.forall_mem_cons.2 ⟨inRange_of_toValue? hv, inRange_of_toMembers? hrest⟩
    · cases h

end

end Json

end Telemetry
