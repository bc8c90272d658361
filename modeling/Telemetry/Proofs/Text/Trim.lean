import Mathlib.Data.List.TakeWhile
import Telemetry.Text.Character
/-
Texts with blanks at their ends.

Trimming a text drops characters or leaves it as it is. It leaves exactly the texts as they are that are not padded
(`trim_eq_self_iff`), and something of every text that is not blank. Folding case keeps the number of characters, so a padded
text is not even up to case what trimming makes of it (`sameIgnoringCase_trim_iff`).
-/
namespace Telemetry.Text

/-- there is no blank at either end -/
def Unpadded (s : String) : Prop :=
  (∀ c ∈ s.toList.head?, isBlank c = false) ∧ ∀ c ∈ s.toList.getLast?, isBlank c = false

variable {cs : List Char} {s : String}

theorem dropWhile_isBlank_eq_self_iff : cs.dropWhile isBlank = cs ↔ ∀ c ∈ cs.head?, isBlank c = false := by
  rw [List.dropWhile_eq_self_iff]
  cases cs <;> simp

theorem trimmed_sublist (cs : List Char) : (trimmed cs).Sublist cs := by
  have hend : (((cs.dropWhile isBlank).reverse).dropWhile isBlank).Sublist (cs.dropWhile isBlank).reverse :=
    List.dropWhile_sublist isBlank
  have hall := hend.reverse
  rw [List.reverse_reverse] at hall
  exact hall.trans (List.dropWhile_sublist isBlank)

theorem trimmed_eq_self_iff :
    trimmed cs = cs ↔ (∀ c ∈ cs.head?, isBlank c = false) ∧ ∀ c ∈ cs.getLast?, isBlank c = false := by
  have hlast : (∀ c ∈ cs.getLast?, isBlank c = false) ↔ cs.reverse.dropWhile isBlank = cs.reverse := by
    rw [dropWhile_isBlank_eq_self_iff, List.head?_reverse]
  rw [← dropWhile_isBlank_eq_self_iff, hlast]
  constructor
  · intro h
    have hfirst : cs.dropWhile isBlank = cs := by
      refine (List.dropWhile_sublist isBlank).eq_of_length_le ?_
      have hend : (trimmed cs).length ≤ (cs.dropWhile isBlank).length := by
        rw [trimmed, List.length_reverse]
        exact (List.dropWhile_sublist isBlank).length_le.trans List.length_reverse.le
      rwa [h] at hend
    rw [trimmed, hfirst] at h
    exact ⟨hfirst, List.reverse_eq_iff.1 h⟩
  · rintro ⟨hfirst, hend⟩
    rw [trimmed, hfirst, hend, List.reverse_reverse]

theorem trim_eq_self_iff : trim s = s ↔ Unpadded s := by
  rw [← String.toList_inj, trim, String.toList_ofList]
  exact trimmed_eq_self_iff

theorem head_dropWhile_isBlank (cs : List Char) : ∀ c ∈ (cs.dropWhile isBlank).head?, isBlank c = false := by
  intro c hc
  have hhead := List.head?_dropWhile_not isBlank cs
  rw [Option.mem_def.1 hc] at hhead
  exact hhead

/-- trimming leaves nothing to trim -/
theorem trim_trim (s : String) : trim (trim s) = trim s := by
  rw [trim_eq_self_iff, Unpadded, trim, String.toList_ofList]
  have hstart : trimmed s.toList <+: s.toList.dropWhile isBlank := by
    rw [← List.reverse_suffix, trimmed, List.reverse_reverse]
    exact List.dropWhile_suffix isBlank
  constructor
  · intro c hc
    obtain ⟨rest, hrest⟩ := hstart
    refine head_dropWhile_isBlank s.toList c ?_
    rw [← hrest, List.head?_append, Option.mem_def.1 hc]
    rfl
  · rw [trimmed, List.getLast?_reverse]
    exact head_dropWhile_isBlank _

/-- blanks around a text are dropped with those at its ends -/
theorem trimmed_surrounded {before after : List Char} (hbefore : ∀ c ∈ before, isBlank c = true)
    (hafter : ∀ c ∈ after, isBlank c = true) (cs : List Char) : trimmed (before ++ cs ++ after) = trimmed cs := by
  rw [trimmed, trimmed, List.append_assoc, List.dropWhile_append_of_pos hbefore, List.dropWhile_append]
  split
  · rename_i hblank
    rw [List.isEmpty_iff.1 hblank, List.dropWhile_eq_nil_iff.2 hafter]
  · have hreverse : ∀ c ∈ after.reverse, isBlank c = true := fun c hc => hafter c (List.mem_reverse.1 hc)
    rw [List.reverse_append, List.dropWhile_append_of_pos hreverse]

/-- something is left of a text that is not blank -/
theorem trim_ne_empty (h : isBlankText s = false) : trim s ≠ "" := by
  intro hempty
  have hnil : trimmed s.toList = [] := by
    rw [← String.toList_inj, trim, String.toList_ofList] at hempty
    exact hempty
  have hrest := List.dropWhile_eq_nil_iff.1 (List.reverse_eq_nil_iff.1 hnil)
  have hblank : isBlankText s = true := by
    refine List.all_eq_true.2 fun c hc => ?_
    rw [← List.takeWhile_append_dropWhile (p := isBlank) (l := s.toList)] at hc
    rcases List.mem_append.1 hc with hstart | hend
    · exact List.mem_takeWhile_imp hstart
    · exact hrest c (List.mem_reverse.2 hend)
  rw [hblank] at h
  cases h

/-- a text is its trimmed form up to case only if it is not padded -/
theorem sameIgnoringCase_trim_iff : sameIgnoringCase s (trim s) = true ↔ Unpadded s := by
  rw [← trim_eq_self_iff]
  constructor
  · intro h
    have hfold : foldCase s = foldCase (trim s) := eq_of_beq h
    have hlength : s.toList.length = (trim s).toList.length := by
      have hchars := congrArg (fun t : String => t.toList.length) hfold
      simpa only [foldCase, String.toList_ofList, List.length_map] using hchars
    rw [← String.toList_inj]
    rw [trim, String.toList_ofList] at hlength ⊢
    exact (trimmed_sublist s.toList).eq_of_length hlength.symm
  · intro h
    simp [sameIgnoringCase, h]

end Telemetry.Text
