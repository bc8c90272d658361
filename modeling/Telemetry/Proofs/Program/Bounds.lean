import Telemetry.Proofs.Program.Calls
import Telemetry.Collaborator
/-
Bounds of a program: the calls it may make and the failures it may end with.

`Within` bounds both at once, whatever the calls are answered; it needs no surroundings, and follows a program's text as
`Only` does.

- `Within.only`: the bound on calls by itself;
- `Within.failure`: a program fails within its bound, wherever it is performed.
-/
namespace Telemetry

namespace Program

variable {ε α β σ : Type} {answer : σ → (c : Call) → c.Answer × σ} {calls : Call → Prop} {failures : ε → Prop}

/-- every call and every failure of the program is allowed, whatever its calls are answered -/
def Within (calls : Call → Prop) (failures : ε → Prop) : Program ε α → Prop
  | .done _ => True
  | .fail e => failures e
  | .step c next => calls c ∧ ∀ a, (next a).Within calls failures

theorem within_pure (a : α) : (pure a : Program ε α).Within calls failures := trivial

theorem within_step {c : Call} {next : c.Answer → Program ε α} (hc : calls c)
    (hnext : ∀ a, (next a).Within calls failures) : (step c next).Within calls failures :=
  ⟨hc, hnext⟩

theorem within_bind {p : Program ε α} {f : α → Program ε β} (hp : p.Within calls failures)
    (hf : ∀ a, (f a).Within calls failures) : (p >>= f).Within calls failures := by
  induction p with
  | done a => exact hf a
  | fail e => exact hp
  | step c next ih => exact ⟨hp.1, fun a => ih a (hp.2 a)⟩

theorem within_ofExcept {r : Except ε α} (h : ∀ e, r = .error e → failures e) : (ofExcept r).Within calls failures := by
  cases r with
  | ok a => trivial
  | error e => exact h e rfl

theorem within_orFail {e : ε} (h : failures e) (o : Option α) : (orFail e o).Within calls failures := by
  cases o with
  | some a => trivial
  | none => exact h

theorem Within.mono {calls' : Call → Prop} {failures' : ε → Prop} (hcalls : ∀ c, calls c → calls' c)
    (hfailures : ∀ e, failures e → failures' e) {p : Program ε α} (hp : p.Within calls failures) :
    p.Within calls' failures' := by
  induction p with
  | done a => trivial
  | fail e => exact hfailures e hp
  | step c next ih => exact ⟨hcalls c hp.1, fun a => ih a (hp.2 a)⟩

theorem Within.only {p : Program ε α} (hp : p.Within calls failures) : p.Only calls := by
  induction p with
  | done a => trivial
  | fail e => trivial
  | step c next ih => exact ⟨hp.1, fun a => ih a (hp.2 a)⟩

/-- a program fails in an allowed way, if it fails -/
theorem Within.failure {p : Program ε α} (hp : p.Within calls failures) {s : σ} {e : ε}
    (h : (p.perform answer s).1 = .error e) : failures e := by
  induction p generalizing s with
  | done a => cases h
  | fail failure =>
    cases h
    exact hp
  | step c next ih => exact ih _ (hp.2 _) h

end Program

/-! ## Answers -/

variable {α : Type} {calls : Call → Prop} {failures : ServiceError → Prop}

theorem within_repositoryAnswer (h : ∀ e, failures (.repository e)) (r : Except RepositoryError α) :
    (repositoryAnswer r).Within calls failures := by
  cases r with
  | ok a => trivial
  | error e => exact h e

theorem within_hierarchyAnswer (h : ∀ e, failures (.ofHierarchy e)) (r : Except HierarchyError α) :
    (hierarchyAnswer r).Within calls failures := by
  cases r with
  | ok a => trivial
  | error e => exact h e

theorem within_historianAnswer (h : ∀ e, failures (.historian e)) (r : Except HistorianError α) :
    (historianAnswer r).Within calls failures := by
  cases r with
  | ok a => trivial
  | error e => exact h e

end Telemetry
