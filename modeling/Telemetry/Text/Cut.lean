/-
Joining lists with a separator, and cutting a list where the separator stands: at every place, at the first one or at the
last one.

Nothing is lost by cutting: `joinLists_cutAt` and `eq_of_cutAtFirst?` put the parts together again.
-/
namespace Telemetry.Text

/-! ## Joining -/

/-- lists one after another, a separator between neighbours -/
def joinLists {α : Type} (separator : List α) : List (List α) → List α
  | [] => []
  | [cs] => cs
  | cs :: rest => cs ++ separator ++ joinLists separator rest

/-- texts one after another, a separator between neighbours -/
def joinWith (separator : String) : List String → String
  | [] => ""
  | [t] => t
  | t :: ts => t ++ separator ++ joinWith separator ts

variable {α : Type} [DecidableEq α]

/-! ## At every separator -/

/-- the parts between separators; there is always one part more than there are separators -/
def cutAt (separator : α) : List α → List (List α)
  | [] => [[]]
  | x :: xs =>
    if x = separator then [] :: cutAt separator xs
    else
      match cutAt separator xs with
      | part :: parts => (x :: part) :: parts
      | [] => [[x]]

theorem cutAt_ne_nil (separator : α) (xs : List α) : cutAt separator xs ≠ [] := by
  cases xs with
  | nil => simp [cutAt]
  | cons x xs =>
    simp only [cutAt]
    split
    · simp
    · split <;> simp

theorem joinLists_cutAt (separator : α) (xs : List α) : joinLists [separator] (cutAt separator xs) = xs := by
  induction xs with
  | nil => rfl
  | cons x xs ih =>
    obtain ⟨part, parts, h⟩ := List.exists_cons_of_ne_nil (cutAt_ne_nil separator xs)
    rw [h] at ih
    by_cases hx : x = separator
    · simp [cutAt, hx, h, joinLists, ih]
    · cases parts with
      | nil => simpa [cutAt, hx, h, joinLists] using ih
      | cons next rest => simpa [cutAt, hx, h, joinLists] using ih

/-! ## At one separator -/

/-- what stands before and after the first separator -/
def cutAtFirst? (separator : α) (xs : List α) : Option (List α × List α) :=
  match xs.dropWhile (· != separator) with
  | _ :: after => some (xs.takeWhile (· != separator), after)
  | [] => none

/-- what stands before and after the last separator -/
def cutAtLast? (separator : α) (xs : List α) : Option (List α × List α) :=
  (cutAtFirst? separator xs.reverse).map fun (after, before) => (before.reverse, after.reverse)

theorem eq_of_cutAtFirst? {separator : α} {xs before after : List α}
    (h : cutAtFirst? separator xs = some (before, after)) : xs = before ++ separator :: after := by
  unfold cutAtFirst? at h
  split at h
  · next x rest hd =>
    have hx : x = separator := by
      have := List.head?_dropWhile_not (· != separator) xs
      rw [hd] at this
      simpa using this
    simp only [Option.some.injEq, Prod.mk.injEq] at h
    obtain ⟨rfl, rfl⟩ := h
    subst hx
    rw [← hd, List.takeWhile_append_dropWhile]
  · simp at h

end Telemetry.Text
