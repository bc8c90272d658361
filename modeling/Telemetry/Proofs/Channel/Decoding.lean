import Mathlib.Data.List.Count
import Telemetry.Channel.FieldName
/-
What the name of a field says of its channel.

A name is split at its last point. A unit without points is found behind it, so the channel is read back. A unit with a point
is cut in two, and the first part taken for the end of the code: a name with two points always gives a code with a point
(`point_mem_decoded`), and a column alias has as many points as the field inside it.

A name is cut if it has something before and after its last point, and else it is whole (`whole_or_cut`). Both round trips
follow from what each kind is read as.

- `decode_encode_iff`, `encode_decode_iff`: which channels are read back from their names, and which names are written back;
- `decodeFieldName_encodeFieldName_iff`: which channels, of those whose code has no point, are read back;
- `codec_domain`: both round trips together.
-/
namespace Telemetry.Channel

variable {cs before after start : List Char} {code unit name column field : String}

/-! ## The last point -/

theorem splitAtLastPoint_eq_none_iff : splitAtLastPoint cs = none ↔ '.' ∉ cs := by
  induction cs with
  | nil => simp [splitAtLastPoint]
  | cons c cs ih =>
    rw [splitAtLastPoint]
    cases hrest : splitAtLastPoint cs with
    | some parts =>
      have hpoint : '.' ∈ cs := by
        by_contra hnone
        rw [ih.2 hnone] at hrest
        cases hrest
      simp [hpoint]
    | none =>
      have hnone : '.' ∉ cs := ih.1 hrest
      by_cases hc : c = '.'
      · simp [hc]
      · simp [hc, hnone, Ne.symm hc]

/-- the last point is the one with no other after it -/
theorem splitAtLastPoint_append (h : '.' ∉ after) : splitAtLastPoint (before ++ '.' :: after) = some (before, after) := by
  induction before with
  | nil => simp [splitAtLastPoint, splitAtLastPoint_eq_none_iff.2 h]
  | cons c before ih => rw [List.cons_append, splitAtLastPoint, ih]

theorem eq_of_splitAtLastPoint (h : splitAtLastPoint cs = some (before, after)) :
    cs = before ++ '.' :: after ∧ '.' ∉ after := by
  induction cs generalizing before with
  | nil => cases h
  | cons c cs ih =>
    rw [splitAtLastPoint] at h
    split at h
    · rename_i before' after' hrest
      cases h
      obtain ⟨rfl, hafter⟩ := ih hrest
      exact ⟨rfl, hafter⟩
    · rename_i hrest
      split at h
      · rename_i hc
        cases h
        exact ⟨by rw [hc]; rfl, splitAtLastPoint_eq_none_iff.1 hrest⟩
      · cases h

/-! ## Decoding -/

/-- what follows the last point is the unit -/
theorem decodeFieldName_append (hcode : code ≠ "") (hunit : unit ≠ "") (h : '.' ∉ unit.toList) :
    decodeFieldName (code ++ "." ++ unit) = ⟨code, unit⟩ := by
  have hchars : (code ++ "." ++ unit).toList = code.toList ++ '.' :: unit.toList := by simp [String.toList_append]
  rw [decodeFieldName, hchars, splitAtLastPoint_append h]
  rcases hcodeChars : code.toList with _ | ⟨c, code'⟩
  · exact absurd (String.toList_eq_nil_iff.1 hcodeChars) hcode
  rcases hunitChars : unit.toList with _ | ⟨u, unit'⟩
  · exact absurd (String.toList_eq_nil_iff.1 hunitChars) hunit
  simp only [← hcodeChars, ← hunitChars, String.ofList_toList]

/-- the last point of a name, if it has one, is its first or its last character -/
def Whole (name : String) : Prop :=
  ∀ before after, name.toList = before ++ '.' :: after → '.' ∉ after → before = [] ∨ after = []

theorem whole_of_no_point (h : '.' ∉ name.toList) : Whole name := by
  intro before after hname
  rw [hname] at h
  simp at h

/-- a name that is not whole has a code and a unit -/
theorem whole_or_cut (name : String) :
    Whole name ∨ ∃ code unit, code ≠ "" ∧ unit ≠ "" ∧ '.' ∉ unit.toList ∧ name = code ++ "." ++ unit := by
  by_cases h : Whole name
  · exact Or.inl h
  · right
    simp only [Whole, not_forall, not_or] at h
    obtain ⟨before, after, hname, hafter, hbefore, hrest⟩ := h
    refine ⟨String.ofList before, String.ofList after, ?_, ?_, ?_, ?_⟩
    · simpa using hbefore
    · simpa using hrest
    · simpa using hafter
    · rw [← String.toList_inj, hname]
      simp [String.toList_append]

theorem decodeFieldName_of_whole (h : Whole name) : decodeFieldName name = ⟨name, unitless⟩ := by
  unfold decodeFieldName
  split
  · rename_i c code u unit hsplit
    obtain ⟨hname, hafter⟩ := eq_of_splitAtLastPoint hsplit
    rcases h _ _ hname hafter with hcode | hunit
    · cases hcode
    · cases hunit
  · rfl

/-- a cut name is longer than its code -/
theorem append_point_ne (code unit : String) : code ≠ code ++ "." ++ unit := by
  intro h
  have hlength := congrArg (fun s : String => s.toList.length) h
  simp [String.toList_append] at hlength

/-- a name is read as a code without unit exactly if it is whole -/
theorem decodeFieldName_eq_self_iff : decodeFieldName name = ⟨name, unitless⟩ ↔ Whole name := by
  constructor
  · intro h
    rcases whole_or_cut name with hwhole | ⟨code, unit, hcode, hunit, hpoint, rfl⟩
    · exact hwhole
    · rw [decodeFieldName_append hcode hunit hpoint] at h
      exact absurd (congrArg Description.code h) (append_point_ne code unit)
  · exact decodeFieldName_of_whole

/-- of two points in a name, the code keeps one -/
theorem point_mem_decoded (h : 2 ≤ name.toList.count '.') : '.' ∈ (decodeFieldName name).code.toList := by
  have hname : '.' ∈ name.toList := List.count_pos_iff.1 (by omega)
  unfold decodeFieldName
  split
  · rename_i c code u unit hsplit
    obtain ⟨hchars, hafter⟩ := eq_of_splitAtLastPoint hsplit
    rw [hchars, List.count_append, List.count_cons_self, List.count_eq_zero.2 hafter] at h
    rw [String.toList_ofList]
    exact List.count_pos_iff.1 (by omega)
  · exact hname

/-! ## Names of fields -/

theorem two_points_of_unit (code : String) (h : '.' ∈ unit.toList) : 2 ≤ (encodeFieldName code unit).toList.count '.' := by
  have hunitless : unit ≠ unitless := by
    rintro rfl
    exact absurd h (by decide)
  have hcount : 1 ≤ unit.toList.count '.' := List.count_pos_iff.2 h
  have hchars : (encodeFieldName code unit).toList = code.toList ++ '.' :: unit.toList := by
    simp [encodeFieldName, hunitless, String.toList_append]
  rw [hchars, List.count_append, List.count_cons_self]
  omega

/-- a channel with a unit is read back if it has a code, and its unit neither is empty nor has a point; one without is read
back if its code is whole -/
theorem decode_encode_iff : decodeFieldName (encodeFieldName code unit) = ⟨code, unit⟩ ↔
    (unit ≠ unitless ∧ code ≠ "" ∧ unit ≠ "" ∧ '.' ∉ unit.toList) ∨ (unit = unitless ∧ Whole code) := by
  by_cases hunitless : unit = unitless
  · simp [encodeFieldName, hunitless, decodeFieldName_eq_self_iff]
  · rw [encodeFieldName, if_neg hunitless]
    constructor
    · intro h
      rcases whole_or_cut (code ++ "." ++ unit) with hwhole | ⟨code', unit', hcode, hunit, hpoint, hname⟩
      · -- a whole name would be read as a code without unit
        rw [decodeFieldName_of_whole hwhole] at h
        exact absurd (congrArg Description.unit h).symm hunitless
      · rw [hname, decodeFieldName_append hcode hunit hpoint] at h
        cases h
        exact Or.inl ⟨hunitless, hcode, hunit, hpoint⟩
    · rintro (⟨-, hcode, hunit, hpoint⟩ | ⟨hsame, -⟩)
      · exact decodeFieldName_append hcode hunit hpoint
      · exact absurd hsame hunitless

/-- a name is written back unless it has a code, and `unitless` for its unit -/
theorem encode_decode_iff : encodeFieldName (decodeFieldName name).code (decodeFieldName name).unit = name ↔
    ¬ ∃ code, code ≠ "" ∧ name = code ++ ".unitless" := by
  have hmarked (code : String) (hcode : code ≠ "") : decodeFieldName (code ++ ".unitless") = ⟨code, unitless⟩ := by
    have h := decodeFieldName_append hcode (by decide : unitless ≠ "") (by decide : '.' ∉ unitless.toList)
    rwa [String.append_assoc] at h
  rcases whole_or_cut name with hwhole | ⟨code, unit, hcode, hunit, hpoint, rfl⟩
  · rw [decodeFieldName_of_whole hwhole]
    refine iff_of_true (by simp [encodeFieldName]) ?_
    rintro ⟨code, hcode, rfl⟩
    have h := (hmarked code hcode).symm.trans (decodeFieldName_of_whole hwhole)
    have hsame : code = code ++ "." ++ unitless := by
      rw [String.append_assoc]
      exact congrArg Description.code h
    exact append_point_ne code unitless hsame
  · rw [decodeFieldName_append hcode hunit hpoint]
    by_cases hunitless : unit = unitless
    · subst hunitless
      refine iff_of_false ?_ ?_
      · rw [encodeFieldName, if_pos rfl]
        exact append_point_ne code unitless
      · intro h
        exact h ⟨code, hcode, by rw [String.append_assoc]; rfl⟩
    · refine iff_of_true (by rw [encodeFieldName, if_neg hunitless]) ?_
      rintro ⟨code', hcode', hname⟩
      have h := decodeFieldName_append hcode hunit hpoint
      rw [hname, hmarked code' hcode'] at h
      exact hunitless (congrArg Description.unit h).symm

/-- a channel whose code has no point is read back from the name of its field if and only if its unit has no point either -/
theorem decodeFieldName_encodeFieldName_iff (hcode : code ≠ "") (hunit : unit ≠ "") (hpoint : '.' ∉ code.toList) :
    decodeFieldName (encodeFieldName code unit) = ⟨code, unit⟩ ↔ '.' ∉ unit.toList := by
  rw [decode_encode_iff]
  by_cases hunitless : unit = unitless
  · subst hunitless
    have hmark : '.' ∉ unitless.toList := by decide
    simp [hmark, whole_of_no_point hpoint]
  · simp [hunitless, hcode, hunit]

/-- **What the names of fields keep.** A channel is read back from the name of its field if and only if it has a code and a
unit other than `unitless` that is not empty and has no point, or has the unit `unitless` and a code whose last point, if it
has one, is its first or its last character. Any name is written back as it was read if and only if it is not a code followed
by `.unitless`. -/
theorem codec_domain (code unit name : String) :
    (decodeFieldName (encodeFieldName code unit) = ⟨code, unit⟩ ↔
      (unit ≠ "unitless" ∧ code ≠ "" ∧ unit ≠ "" ∧ '.' ∉ unit.toList) ∨
        (unit = "unitless" ∧ ∀ before after, code.toList = before ++ '.' :: after → '.' ∉ after → before = [] ∨ after = [])) ∧
    (encodeFieldName (decodeFieldName name).code (decodeFieldName name).unit = name ↔
      ¬ ∃ c, c ≠ "" ∧ name = c ++ ".unitless") :=
  ⟨decode_encode_iff, encode_decode_iff⟩

/-! ## Columns -/

theorem eq_of_afterStart {rest : List Char} (h : afterStart start cs = some rest) : cs = start ++ rest := by
  induction start generalizing cs with
  | nil => cases h; rfl
  | cons p start ih =>
    cases cs with
    | nil => cases h
    | cons c cs =>
      rw [afterStart] at h
      split at h
      · rename_i hpc
        rw [ih h, hpc]
        rfl
      · cases h

/-- taking a function's name off a column takes no point off -/
theorem count_point_of_withoutAggregation (h : withoutAggregation column = some field) :
    field.toList.count '.' = column.toList.count '.' := by
  obtain ⟨f, -, hf⟩ := List.exists_of_findSome?_eq_some h
  have hname : (f.name.toList ++ ['_']).count '.' = 0 := by cases f <;> decide
  split at hf
  · rename_i c rest hrest
    cases hf
    rw [eq_of_afterStart hrest, List.count_append, hname, String.toList_ofList, Nat.zero_add]
  · cases hf

end Telemetry.Channel
