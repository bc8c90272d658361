import Telemetry.Call
/-
Programs: trees of calls whose continuation depends on the answers.

A program ends with a result, ends with a failure, or makes a call and goes on with its answer. Programs are composed by
`bind`; `mapError` renames failures. `perform` carries a program out in surroundings of any kind, given by how they answer a
call; performing a composition is performing its parts (`perform_bind`). Nothing here says what a call does: that is the
world's part.
-/
namespace Telemetry

/-- a computation that acts only by calls -/
inductive Program (ε α : Type) : Type where
  | done (result : α)
  | fail (failure : ε)
  | step (call : Call) (next : call.Answer → Program ε α)

namespace Program

variable {ε ε' α β : Type}

/-- goes on with the result of a program -/
def bind (p : Program ε α) (f : α → Program ε β) : Program ε β :=
  match p with
  | .done a => f a
  | .fail e => .fail e
  | .step c next => .step c fun answer => (next answer).bind f

instance : Monad (Program ε) where
  pure := .done
  bind := bind

/-- the same program with its failure renamed -/
def mapError (rename : ε → ε') : Program ε α → Program ε' α
  | .done a => .done a
  | .fail e => .fail (rename e)
  | .step c next => .step c fun answer => (next answer).mapError rename

/-- a result or failure that needs no call -/
def ofExcept : Except ε α → Program ε α
  | .ok a => .done a
  | .error e => .fail e

/-- the value, or a failure if there is none -/
def orFail (failure : ε) : Option α → Program ε α
  | some a => .done a
  | none => .fail failure

/-- performs a program's calls one after another, each answered in the state that the one before left -/
def perform {σ : Type} (answer : σ → (c : Call) → c.Answer × σ) : Program ε α → σ → Except ε α × σ
  | .done a, s => (.ok a, s)
  | .fail e, s => (.error e, s)
  | .step c next, s => (next (answer s c).1).perform answer (answer s c).2

theorem bind_assoc {γ : Type} (p : Program ε α) (f : α → Program ε β) (g : β → Program ε γ) :
    (p.bind f).bind g = p.bind fun a => (f a).bind g := by
  induction p with
  | done a => rfl
  | fail e => rfl
  | step c next ih => exact congrArg (step c) (funext ih)

theorem perform_bind {σ : Type} (answer : σ → (c : Call) → c.Answer × σ) (p : Program ε α) (f : α → Program ε β) (s : σ) :
    (p.bind f).perform answer s =
      match p.perform answer s with
      | (.ok a, s) => (f a).perform answer s
      | (.error e, s) => (.error e, s) := by
  induction p generalizing s with
  | done a => rfl
  | fail e => rfl
  | step c next ih => exact ih _ _

end Program

end Telemetry
