import Telemetry.Program
/-
The calls of a program.

`Only` says that every call in a program is of an allowed kind, whatever the calls before it are answered; it needs no
surroundings. `moments` lists the calls that a program makes in given surroundings, each with the state it is made in.

- `perform_invariant`: what every allowed call preserves, a program of allowed calls preserves;
- `moments_invariant`: and it holds at each of its calls, which are allowed ones;
- `perform_bind_of_ok`, `perform_bind_of_error`, `moments_bind_of_ok`: a composition, part by part;
- `mem_momentsAll`: a call of a run of several programs belongs to one of them.
-/
namespace Telemetry.Program

variable {ε ε' α β σ : Type} {answer : σ → (c : Call) → c.Answer × σ} {allowed : Call → Prop}

/-- every call of the program is allowed, whatever the calls before it are answered -/
def Only (allowed : Call → Prop) : Program ε α → Prop
  | .done _ => True
  | .fail _ => True
  | .step c next => allowed c ∧ ∀ a, (next a).Only allowed

/-- a call and the state it is made in -/
structure Moment (σ : Type) where
  state : σ
  call : Call

/-- the calls of a program, in order -/
def moments (answer : σ → (c : Call) → c.Answer × σ) : Program ε α → σ → List (Moment σ)
  | .done _, _ => []
  | .fail _, _ => []
  | .step c next, s => ⟨s, c⟩ :: (next (answer s c).1).moments answer (answer s c).2

/-! ## Allowed calls -/

theorem only_step {c : Call} {next : c.Answer → Program ε α} (hc : allowed c)
    (hnext : ∀ a, (next a).Only allowed) : (step c next).Only allowed :=
  ⟨hc, hnext⟩

theorem only_bind {p : Program ε α} {f : α → Program ε β} (hp : p.Only allowed)
    (hf : ∀ a, (f a).Only allowed) : (p >>= f).Only allowed := by
  induction p with
  | done a => exact hf a
  | fail e => trivial
  | step c next ih => exact ⟨hp.1, fun a => ih a (hp.2 a)⟩

theorem only_pure (a : α) : (pure a : Program ε α).Only allowed := trivial

theorem only_ofExcept (r : Except ε α) : (ofExcept r).Only allowed := by
  cases r <;> trivial

theorem only_orFail (e : ε) (o : Option α) : (orFail e o).Only allowed := by
  cases o <;> trivial

theorem only_mapError {rename : ε → ε'} {p : Program ε α} (hp : p.Only allowed) :
    (p.mapError rename).Only allowed := by
  induction p with
  | done a => trivial
  | fail e => trivial
  | step c next ih => exact ⟨hp.1, fun a => ih a (hp.2 a)⟩

theorem only_mono {allowed' : Call → Prop} (h : ∀ c, allowed c → allowed' c) {p : Program ε α}
    (hp : p.Only allowed) : p.Only allowed' := by
  induction p with
  | done a => trivial
  | fail e => trivial
  | step c next ih => exact ⟨h c hp.1, fun a => ih a (hp.2 a)⟩

/-- what every allowed call preserves, a program of allowed calls preserves -/
theorem perform_invariant {I : σ → Prop} (hstep : ∀ s c, allowed c → I s → I (answer s c).2)
    {p : Program ε α} (hp : p.Only allowed) {s : σ} (hs : I s) : I (p.perform answer s).2 := by
  induction p generalizing s with
  | done a => exact hs
  | fail e => exact hs
  | step c next ih => exact ih _ (hp.2 _) (hstep s c hp.1 hs)

/-- each call of a program of allowed calls is allowed, and made in a state with what allowed calls preserve -/
theorem moments_invariant {I : σ → Prop} (hstep : ∀ s c, allowed c → I s → I (answer s c).2)
    {p : Program ε α} (hp : p.Only allowed) {s : σ} (hs : I s) :
    ∀ m ∈ p.moments answer s, I m.state ∧ allowed m.call := by
  induction p generalizing s with
  | done a => intro m hm; simp [moments] at hm
  | fail e => intro m hm; simp [moments] at hm
  | step c next ih =>
    intro m hm
    rcases List.mem_cons.1 hm with rfl | hm
    · exact ⟨hs, hp.1⟩
    · exact ih _ (hp.2 _) (hstep s c hp.1 hs) m hm

/-- a program of allowed calls makes no other -/
theorem call_of_mem_moments {p : Program ε α} (hp : p.Only allowed) {s : σ} {m : Moment σ}
    (hm : m ∈ p.moments answer s) : allowed m.call :=
  (moments_invariant (I := fun _ => True) (fun _ _ _ _ => trivial) hp trivial m hm).2

/-! ## Composition -/

theorem bind_done_right (p : Program ε α) : p.bind done = p := by
  induction p with
  | done a => rfl
  | fail e => rfl
  | step c next ih => exact congrArg (step c) (funext ih)

instance : LawfulMonad (Program ε) :=
  LawfulMonad.mk' _ bind_done_right (fun _ _ => rfl) bind_assoc

theorem perform_of_fst {p : Program ε α} {s : σ} {r : Except ε α} (h : (p.perform answer s).1 = r) :
    p.perform answer s = (r, (p.perform answer s).2) :=
  Prod.ext h rfl

theorem perform_ofExcept_ok {r : Except ε α} {a : α} {s s' : σ} :
    (ofExcept r).perform answer s = (.ok a, s') ↔ r = .ok a ∧ s = s' := by
  cases r <;> simp [ofExcept, perform]

theorem perform_ofExcept_error {r : Except ε α} {e : ε} {s s' : σ} :
    (ofExcept r).perform answer s = (.error e, s') ↔ r = .error e ∧ s = s' := by
  cases r <;> simp [ofExcept, perform]

theorem perform_mapError_ok {rename : ε → ε'} {p : Program ε α} {a : α} {s s' : σ} :
    (p.mapError rename).perform answer s = (.ok a, s') ↔ p.perform answer s = (.ok a, s') := by
  induction p generalizing s with
  | done b => simp [mapError, perform]
  | fail e => simp [mapError, perform]
  | step c next ih => exact ih _

theorem perform_mapError (rename : ε → ε') (p : Program ε α) (s : σ) :
    (p.mapError rename).perform answer s = ((p.perform answer s).1.mapError rename, (p.perform answer s).2) := by
  induction p generalizing s with
  | done b => rfl
  | fail e => rfl
  | step c next ih => exact ih _ _

theorem moments_mapError (rename : ε → ε') (p : Program ε α) (s : σ) :
    (p.mapError rename).moments answer s = p.moments answer s := by
  induction p generalizing s with
  | done b => rfl
  | fail e => rfl
  | step c next ih => exact congrArg (List.cons _) (ih _ _)

theorem perform_bind_of_ok {p : Program ε α} {f : α → Program ε β} {s s1 : σ} {a : α}
    (h : p.perform answer s = (.ok a, s1)) : (p >>= f).perform answer s = (f a).perform answer s1 := by
  change (p.bind f).perform answer s = _
  rw [perform_bind, h]

theorem perform_bind_of_error {p : Program ε α} {f : α → Program ε β} {s s1 : σ} {e : ε}
    (h : p.perform answer s = (.error e, s1)) : (p >>= f).perform answer s = (.error e, s1) := by
  change (p.bind f).perform answer s = _
  rw [perform_bind, h]

theorem perform_bind_ok {p : Program ε α} {f : α → Program ε β} {s s' : σ} {b : β} :
    (p >>= f).perform answer s = (.ok b, s') ↔
      ∃ a s1, p.perform answer s = (.ok a, s1) ∧ (f a).perform answer s1 = (.ok b, s') := by
  rcases h : p.perform answer s with ⟨e | a, s1⟩
  · rw [perform_bind_of_error h]
    simp
  · rw [perform_bind_of_ok h]
    constructor
    · intro hb; exact ⟨a, s1, rfl, hb⟩
    · rintro ⟨a', s1', ha, hb⟩
      cases ha
      exact hb

/-- a composition fails with its first part, or with the second one after the first -/
theorem perform_bind_error {p : Program ε α} {f : α → Program ε β} {s s' : σ} {e : ε} :
    (p >>= f).perform answer s = (.error e, s') ↔ p.perform answer s = (.error e, s') ∨
      ∃ a s1, p.perform answer s = (.ok a, s1) ∧ (f a).perform answer s1 = (.error e, s') := by
  rcases h : p.perform answer s with ⟨failure | a, s1⟩
  · rw [perform_bind_of_error h]
    simp
  · rw [perform_bind_of_ok h]
    constructor
    · intro he; exact Or.inr ⟨a, s1, rfl, he⟩
    · rintro (he | ⟨a', s1', ha, he⟩)
      · cases he
      · cases ha
        exact he

theorem moments_bind_of_ok {p : Program ε α} {f : α → Program ε β} {s s1 : σ} {a : α}
    (h : p.perform answer s = (.ok a, s1)) :
    (p >>= f).moments answer s = p.moments answer s ++ (f a).moments answer s1 := by
  induction p generalizing s with
  | done b => cases h; rfl
  | fail e => cases h
  | step c next ih => exact congrArg (List.cons _) (ih _ h)

theorem moments_bind_of_error {p : Program ε α} {f : α → Program ε β} {s s1 : σ} {e : ε}
    (h : p.perform answer s = (.error e, s1)) : (p >>= f).moments answer s = p.moments answer s := by
  induction p generalizing s with
  | done b => cases h
  | fail e' => rfl
  | step c next ih => exact congrArg (List.cons _) (ih _ h)

theorem mem_moments_bind_left {p : Program ε α} {f : α → Program ε β} {s : σ} {m : Moment σ}
    (hm : m ∈ p.moments answer s) : m ∈ (p >>= f).moments answer s := by
  rcases h : p.perform answer s with ⟨e | a, s1⟩
  · rw [moments_bind_of_error h]; exact hm
  · rw [moments_bind_of_ok h]; exact List.mem_append_left _ hm

theorem mem_moments_bind_right {p : Program ε α} {f : α → Program ε β} {s s1 : σ} {a : α} {m : Moment σ}
    (h : p.perform answer s = (.ok a, s1)) (hm : m ∈ (f a).moments answer s1) : m ∈ (p >>= f).moments answer s := by
  rw [moments_bind_of_ok h]
  exact List.mem_append_right _ hm

/-- a composition that only renames results -/
theorem perform_bind_pure (p : Program ε α) (f : α → β) (s : σ) :
    (p >>= fun a => pure (f a)).perform answer s = ((p.perform answer s).1.map f, (p.perform answer s).2) := by
  rcases h : p.perform answer s with ⟨e | a, s1⟩
  · exact perform_bind_of_error h
  · exact perform_bind_of_ok h

/-- a call of a composition belongs to its first part, or to the second one if the first succeeds -/
theorem mem_moments_bind {p : Program ε α} {f : α → Program ε β} {s : σ} {m : Moment σ}
    (hm : m ∈ (p >>= f).moments answer s) :
    m ∈ p.moments answer s ∨ ∃ a s1, p.perform answer s = (.ok a, s1) ∧ m ∈ (f a).moments answer s1 := by
  rcases h : p.perform answer s with ⟨e | a, s1⟩
  · rw [moments_bind_of_error h] at hm
    exact Or.inl hm
  · rw [moments_bind_of_ok h] at hm
    rcases List.mem_append.1 hm with hm | hm
    · exact Or.inl hm
    · exact Or.inr ⟨a, s1, rfl, hm⟩

/-! ## One program after another -/

/-- performs programs one after another, whether the ones before succeed or fail -/
def performAll (answer : σ → (c : Call) → c.Answer × σ) : List (Program ε α) → σ → σ
  | [], s => s
  | p :: ps, s => performAll answer ps (p.perform answer s).2

/-- the calls of programs performed one after another -/
def momentsAll (answer : σ → (c : Call) → c.Answer × σ) : List (Program ε α) → σ → List (Moment σ)
  | [], _ => []
  | p :: ps, s => p.moments answer s ++ momentsAll answer ps (p.perform answer s).2

theorem momentsAll_append (ps qs : List (Program ε α)) (s : σ) :
    momentsAll answer (ps ++ qs) s = momentsAll answer ps s ++ momentsAll answer qs (performAll answer ps s) := by
  induction ps generalizing s with
  | nil => rfl
  | cons p ps ih => simp only [List.cons_append, momentsAll, performAll, ih, List.append_assoc]

/-- a call of a run is a call of one of its programs, performed where those before it lead -/
theorem mem_momentsAll {ps : List (Program ε α)} {s : σ} {m : Moment σ} (hm : m ∈ momentsAll answer ps s) :
    ∃ before p after, ps = before ++ p :: after ∧ m ∈ p.moments answer (performAll answer before s) := by
  induction ps generalizing s with
  | nil => simp [momentsAll] at hm
  | cons p ps ih =>
    rcases List.mem_append.1 hm with h | h
    · exact ⟨[], p, ps, rfl, h⟩
    · obtain ⟨before, q, after, rfl, hq⟩ := ih h
      exact ⟨p :: before, q, after, rfl, hq⟩

end Telemetry.Program
