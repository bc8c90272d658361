import Telemetry.Channel.FieldName
/-
Which channels share a field name.

A field is named by the channel's code and a suffix for its unit, with nothing but a point between them that a code may
contain as well. So two codes give one name exactly if the longer one goes on, where the shorter one ends, through the
beginning of the other channel's suffix (`RunsInto`). Such a code has a point in it.
-/
namespace Telemetry.Channel

/-- what follows the code in the name of a field -/
def suffix (unit : String) : String :=
  if unit = unitless then "" else "." ++ unit

theorem encodeFieldName_eq (code unit : String) : encodeFieldName code unit = code ++ suffix unit := by
  unfold encodeFieldName suffix
  split
  · rw [String.append_empty]
  · rw [String.append_assoc]

/-- the one's code goes on, where the other's ends, through the beginning of the other's suffix -/
def Description.RunsInto (d e : Description) : Prop :=
  ∃ t : String, t ≠ "" ∧ d.code = e.code ++ t ∧ suffix e.unit = t ++ suffix d.unit

variable {d e : Description}

theorem Description.RunsInto.encodeFieldName_eq (h : d.RunsInto e) :
    encodeFieldName d.code d.unit = encodeFieldName e.code e.unit := by
  obtain ⟨t, -, hcode, hsuffix⟩ := h
  rw [Channel.encodeFieldName_eq, Channel.encodeFieldName_eq, hcode, hsuffix, String.append_assoc]

theorem runsInto_of_toList {t : List Char} (hne : d.code ≠ e.code) (hcode : d.code.toList = e.code.toList ++ t)
    (hsuffix : (suffix e.unit).toList = t ++ (suffix d.unit).toList) : d.RunsInto e := by
  have hcode' : d.code = e.code ++ String.ofList t := by
    rw [← String.toList_inj, hcode, String.toList_append, String.toList_ofList]
  refine ⟨String.ofList t, ?_, hcode', ?_⟩
  · intro ht
    rw [ht, String.append_empty] at hcode'
    exact hne hcode'
  · rw [← String.toList_inj, hsuffix, String.toList_append, String.toList_ofList]

/-- different codes give one name exactly if one of them runs into the other's suffix -/
theorem encodeFieldName_eq_iff (hne : d.code ≠ e.code) :
    encodeFieldName d.code d.unit = encodeFieldName e.code e.unit ↔ d.RunsInto e ∨ e.RunsInto d := by
  constructor
  · intro h
    rw [encodeFieldName_eq, encodeFieldName_eq] at h
    have hchars : d.code.toList ++ (suffix d.unit).toList = e.code.toList ++ (suffix e.unit).toList := by
      rw [← String.toList_append, h, String.toList_append]
    rcases List.append_eq_append_iff.1 hchars with ⟨t, hcode, hsuffix⟩ | ⟨t, hcode, hsuffix⟩
    · exact Or.inr (runsInto_of_toList hne.symm hcode hsuffix)
    · exact Or.inl (runsInto_of_toList hne hcode hsuffix)
  · rintro (h | h)
    · exact h.encodeFieldName_eq
    · exact h.encodeFieldName_eq.symm

/-- a code that runs into a suffix has a point -/
theorem Description.RunsInto.point_mem (h : d.RunsInto e) : '.' ∈ d.code.toList := by
  obtain ⟨t, ht, hcode, hsuffix⟩ := h
  rw [hcode, String.toList_append]
  refine List.mem_append_right _ ?_
  rw [← String.toList_inj, String.toList_append] at hsuffix
  -- the text begins as the suffix does, and this is with a point
  cases hchars : t.toList with
  | nil => exact absurd (String.toList_eq_nil_iff.1 hchars) ht
  | cons c cs =>
    rw [hchars] at hsuffix
    unfold suffix at hsuffix
    split at hsuffix
    · cases hsuffix
    · rw [String.toList_append] at hsuffix
      have hpoint : '.' = c := (List.cons.inj hsuffix).1
      rw [hpoint]
      exact List.mem_cons_self

end Telemetry.Channel
