import Telemetry.Proofs.Except
/-
When a run over a list succeeds, and which element it fails at otherwise.

A run takes elements from left to right, each in the state that the elements before it have led to, and stops at the first
that it cannot take. Which elements go with those before them (`Good`), what is known of the state (`Reached`) and why an
element is not taken (`Fault`) are said of the elements taken so far. Once each single step is known to keep to this
(`Stepwise`), so does the whole run:

- `Stepwise.decided`: it succeeds on good lists, and else reports the first element that does not go with those before it;
- `Stepwise.end_reached`: what is known of the state at the end.
-/
namespace Telemetry

/-! ## Computations that may fail -/

section

variable {ε α β : Type} {x : Except ε α} {f : α → Except ε β} {Fits Fits' : Prop} {Fault Fault' : ε → Prop}

/-- a computation succeeds in certain cases, and in the others it fails with certain errors -/
structure Decided (x : Except ε α) (Fits : Prop) (Fault : ε → Prop) : Prop where
  ok_iff : (∃ a, x = .ok a) ↔ Fits
  error_iff : ∀ e, x = .error e ↔ Fault e

/-- it is enough to know what happens in each case, and that these are all cases -/
theorem Decided.of (hok : Fits → ∃ a, x = .ok a) (herror : ∀ e, Fault e → x = .error e) (hall : Fits ∨ ∃ e, Fault e) :
    Decided x Fits Fault := by
  rcases hall with hfits | ⟨e, hfault⟩
  · obtain ⟨a, rfl⟩ := hok hfits
    refine ⟨⟨fun _ => hfits, hok⟩, fun e => ⟨?_, herror e⟩⟩
    intro h
    cases h
  · obtain rfl := herror e hfault
    refine ⟨⟨?_, hok⟩, fun e' => ⟨?_, herror e'⟩⟩
    · rintro ⟨a, h⟩
      cases h
    · intro h
      cases h
      exact hfault

theorem Decided.congr (h : Decided x Fits Fault) (hfits : Fits ↔ Fits') (hfault : ∀ e, Fault e ↔ Fault' e) :
    Decided x Fits' Fault' :=
  ⟨h.ok_iff.trans hfits, fun e => (h.error_iff e).trans (hfault e)⟩

/-- of two computations the second decides once the first one has succeeded -/
theorem Decided.bind (h : Decided x Fits Fault) (hf : ∀ a, x = .ok a → Decided (f a) Fits' Fault') :
    Decided (x >>= f) (Fits ∧ Fits') fun e => Fault e ∨ Fits ∧ Fault' e := by
  cases x with
  | error e =>
    have hfault : Fault e := (h.error_iff e).1 rfl
    have hno : ¬ Fits := by
      intro hfits
      obtain ⟨a, ha⟩ := h.ok_iff.2 hfits
      cases ha
    refine .of ?_ ?_ (Or.inr ⟨e, Or.inl hfault⟩)
    · intro hboth
      exact absurd hboth.1 hno
    · rintro e' (hfault' | ⟨hfits, -⟩)
      · have hsame := (h.error_iff e').2 hfault'
        cases hsame
        rfl
      · exact absurd hfits hno
  | ok a =>
    have hfits : Fits := h.ok_iff.1 ⟨a, rfl⟩
    have hnone : ∀ e, ¬ Fault e := by
      intro e hfault
      have hfailed := (h.error_iff e).2 hfault
      cases hfailed
    refine (hf a rfl).congr ?_ ?_
    · simp [hfits]
    · simp [hfits, hnone]

theorem Decided.map (h : Decided x Fits Fault) (g : α → β) : Decided (x.map g) Fits Fault := by
  cases x with
  | error e => exact ⟨by simpa [Except.map] using h.ok_iff, fun e' => by simpa [Except.map] using h.error_iff e'⟩
  | ok a => exact ⟨by simpa [Except.map] using h.ok_iff, fun e' => by simpa [Except.map] using h.error_iff e'⟩

end

/-! ## An element of a list, told from those before it -/

section

variable {α : Type} {P : List α → α → Prop} {a : α} {as : List α}

theorem not_exists_split_nil : ¬ ∃ before b after, [] = before ++ b :: after ∧ P before b := by
  rintro ⟨before, b, after, h, -⟩
  cases before <;> cases h

/-- it is the first one, or one of the rest with the first one in front of those before it -/
theorem exists_split_cons_iff : (∃ before b after, a :: as = before ++ b :: after ∧ P before b) ↔
    P [] a ∨ ∃ before b after, as = before ++ b :: after ∧ P (a :: before) b := by
  constructor
  · rintro ⟨before, b, after, h, hP⟩
    cases before with
    | nil =>
      cases h
      exact Or.inl hP
    | cons first before =>
      cases h
      exact Or.inr ⟨before, b, after, rfl, hP⟩
  · rintro (hP | ⟨before, b, after, rfl, hP⟩)
    · exact ⟨[], a, as, rfl, hP⟩
    · exact ⟨a :: before, b, after, rfl, hP⟩

end

/-! ## Runs -/

/-- A run that takes elements by steps. `Good` lists can be taken, `Reached` is known of the state that a good list leads to,
and an element is not taken after a good list for a `Fault`. -/
structure Stepwise {σ α β ε : Type} (run : σ → List α → Except ε β) (step : σ → α → Except ε σ) (Good : List α → Prop)
    (Reached : List α → σ → Prop) (Fault : List α → α → ε → Prop) : Prop where
  done : ∀ s, ∃ b, run s [] = .ok b
  next : ∀ s a as, run s (a :: as) = step s a >>= fun s' => run s' as
  good_of_concat : ∀ before a, Good (before ++ [a]) → Good before
  step_decided : ∀ before s a, Good before → Reached before s → Decided (step s a) (Good (before ++ [a])) (Fault before a)
  step_reached : ∀ before s a s', Good before → Reached before s → step s a = .ok s' → Reached (before ++ [a]) s'

namespace Stepwise

variable {σ α β ε : Type} {run : σ → List α → Except ε β} {step : σ → α → Except ε σ} {Good : List α → Prop}
  {Reached : List α → σ → Prop} {Fault : List α → α → ε → Prop} {before as : List α} {s : σ} {b : β}

/-- a good list is so without its last elements -/
theorem good_of_append (h : Stepwise run step Good Reached Fault) (hgood : Good (before ++ as)) : Good before := by
  induction as generalizing before with
  | nil => simpa using hgood
  | cons a as ih =>
    rw [List.append_cons] at hgood
    exact h.good_of_concat before a (ih hgood)

/-- a run takes all elements, or it stops at the first that does not go with those before it -/
theorem decided (h : Stepwise run step Good Reached Fault) (hgood : Good before) (hreached : Reached before s) :
    Decided (run s as) (Good (before ++ as)) fun e =>
      ∃ between a after, as = between ++ a :: after ∧ Good (before ++ between) ∧ Fault (before ++ between) a e := by
  -- over the elements that are left; what has been taken grows by one of them at each step
  induction as generalizing before s with
  | nil =>
    rw [List.append_nil]
    obtain ⟨b, hb⟩ := h.done s
    rw [hb]
    refine ⟨⟨fun _ => hgood, fun _ => ⟨b, rfl⟩⟩, fun e => ?_⟩
    simp only [reduceCtorEq, false_iff]
    exact not_exists_split_nil
  | cons a as ih =>
    have hstep := h.step_decided before s a hgood hreached
    have hrest := hstep.bind fun s' hs' => ih (hstep.ok_iff.1 ⟨s', hs'⟩) (h.step_reached before s a s' hgood hreached hs')
    rw [h.next, List.append_cons]
    refine hrest.congr ?_ ?_
    · exact and_iff_right_of_imp h.good_of_append
    · intro e
      rw [exists_split_cons_iff, List.append_nil]
      refine or_congr (and_iff_right hgood).symm ?_
      constructor
      · rintro ⟨-, between, b, after, has, hgood, hfault⟩
        refine ⟨between, b, after, has, ?_⟩
        rw [List.append_cons]
        exact ⟨hgood, hfault⟩
      · rintro ⟨between, b, after, has, hgood, hfault⟩
        rw [List.append_cons] at hgood hfault
        exact ⟨h.good_of_append hgood, between, b, after, has, hgood, hfault⟩

/-- a run that takes all elements ends in a state that they lead to -/
theorem end_reached (h : Stepwise run step Good Reached Fault) (hgood : Good before) (hreached : Reached before s)
    (hrun : run s as = .ok b) : ∃ s', Reached (before ++ as) s' ∧ run s' [] = .ok b := by
  induction as generalizing before s with
  | nil =>
    rw [List.append_nil]
    exact ⟨s, hreached, hrun⟩
  | cons a as ih =>
    rw [h.next] at hrun
    obtain ⟨s', hs', hrest⟩ := bind_eq_ok_iff.1 hrun
    rw [List.append_cons]
    have hgood' : Good (before ++ [a]) := (h.step_decided before s a hgood hreached).ok_iff.1 ⟨s', hs'⟩
    exact ih hgood' (h.step_reached before s a s' hgood hreached hs') hrest

end Stepwise

end Telemetry
