import Telemetry.Proofs.Program.Calls
/-
Two programs in one state, call by call.

A race is what is left of two programs, the state they share, and the calls they have made. A schedule says whose call is
next; a program that has ended makes no more calls. Nothing is said about which schedules there are, so what holds of every
schedule holds however the calls of the two are mixed.

- `run_invariant`: what every step of a race preserves, a race preserves;
- `exists_left_step`: where the left program ends, the schedule has its first call.
-/
namespace Telemetry.Program

/-- one of the two programs of a race -/
inductive Side where
  | left | right
  deriving DecidableEq, Repr

/-- what is left of two programs that share a state -/
structure Race (σ ε α β : Type) where
  left : Program ε α
  right : Program ε β
  state : σ
  /-- the calls made so far, each by one side and in some state -/
  made : List (Side × Moment σ) := []

variable {σ ε α β : Type}

/-- whatever the calls of the program are answered, it ends with this result -/
def Returns (a : α) : Program ε α → Prop
  | .done b => b = a
  | .fail _ => False
  | .step c next => ∀ answer : c.Answer, (next answer).Returns a

/-- the program makes no more calls -/
def Ended : Program ε α → Prop
  | .step .. => False
  | _ => True

instance (p : Program ε α) : Decidable p.Ended :=
  match p with
  | .done _ => isTrue trivial
  | .fail _ => isTrue trivial
  | .step .. => isFalse id

theorem Returns.eq_done {a : α} {p : Program ε α} (h : p.Returns a) (hended : p.Ended) : p = .done a := by
  cases p with
  | done b => exact congrArg _ h
  | fail e => exact h.elim
  | step c next => exact hended.elim

namespace Race

/-- the calls made so far -/
def calls (r : Race σ ε α β) : List (Side × Call) := r.made.map fun call => (call.1, call.2.call)

def step (answer : σ → (c : Call) → c.Answer × σ) (r : Race σ ε α β) : Side → Race σ ε α β
  | .left =>
    match r.left with
    | .step c next =>
      { r with
        left := next (answer r.state c).1, state := (answer r.state c).2, made := r.made ++ [(.left, ⟨r.state, c⟩)] }
    | _ => r
  | .right =>
    match r.right with
    | .step c next =>
      { r with
        right := next (answer r.state c).1, state := (answer r.state c).2, made := r.made ++ [(.right, ⟨r.state, c⟩)] }
    | _ => r

/-- the calls of both sides, in the order of a schedule -/
def run (answer : σ → (c : Call) → c.Answer × σ) (schedule : List Side) (r : Race σ ε α β) : Race σ ε α β :=
  schedule.foldl (step answer) r

/-- neither side makes any more calls -/
def Over (r : Race σ ε α β) : Prop := r.left.Ended ∧ r.right.Ended

instance (r : Race σ ε α β) : Decidable r.Over := inferInstanceAs (Decidable (_ ∧ _))

variable {answer : σ → (c : Call) → c.Answer × σ}

/-- what every step preserves, a race preserves -/
theorem run_invariant {I : Race σ ε α β → Prop} (hstep : ∀ r side, I r → I (r.step answer side)) (schedule : List Side)
    {r : Race σ ε α β} (hr : I r) : I (r.run answer schedule) := by
  induction schedule generalizing r with
  | nil => exact hr
  | cons side schedule ih => exact ih (hstep r side hr)

theorem run_append (before after : List Side) (r : Race σ ε α β) :
    r.run answer (before ++ after) = (r.run answer before).run answer after :=
  List.foldl_append

theorem run_cons (side : Side) (schedule : List Side) (r : Race σ ε α β) :
    r.run answer (side :: schedule) = (r.step answer side).run answer schedule := rfl

theorem step_left {r : Race σ ε α β} {c : Call} {next : c.Answer → Program ε α} (h : r.left = .step c next) :
    r.step answer .left =
      { r with
        left := next (answer r.state c).1, state := (answer r.state c).2, made := r.made ++ [(.left, ⟨r.state, c⟩)] } := by
  simp only [step, h]

theorem step_right {r : Race σ ε α β} {c : Call} {next : c.Answer → Program ε β} (h : r.right = .step c next) :
    r.step answer .right =
      { r with
        right := next (answer r.state c).1, state := (answer r.state c).2, made := r.made ++ [(.right, ⟨r.state, c⟩)] } := by
  simp only [step, h]

theorem calls_step_left {r : Race σ ε α β} {c : Call} {next : c.Answer → Program ε α} (h : r.left = .step c next) :
    (r.step answer .left).calls = r.calls ++ [(.left, c)] := by
  simp only [step_left h, calls, List.map_append, List.map_cons, List.map_nil]

theorem calls_step_right {r : Race σ ε α β} {c : Call} {next : c.Answer → Program ε β} (h : r.right = .step c next) :
    (r.step answer .right).calls = r.calls ++ [(.right, c)] := by
  simp only [step_right h, calls, List.map_append, List.map_cons, List.map_nil]

theorem step_left_of_ended {r : Race σ ε α β} (h : r.left.Ended) : r.step answer .left = r := by
  cases hr : r.left with
  | done a => simp only [step, hr]
  | fail e => simp only [step, hr]
  | step c next => rw [hr] at h; exact h.elim

theorem step_right_of_ended {r : Race σ ε α β} (h : r.right.Ended) : r.step answer .right = r := by
  cases hr : r.right with
  | done a => simp only [step, hr]
  | fail e => simp only [step, hr]
  | step c next => rw [hr] at h; exact h.elim

theorem step_right_left (r : Race σ ε α β) : (r.step answer .right).left = r.left := by
  cases hr : r.right <;> simp only [step, hr]

theorem left_run {schedule : List Side} (h : .left ∉ schedule) (r : Race σ ε α β) :
    (r.run answer schedule).left = r.left := by
  induction schedule generalizing r with
  | nil => rfl
  | cons side schedule ih =>
    cases side with
    | left => exact absurd List.mem_cons_self h
    | right => exact (ih (fun hmem => h (List.mem_cons_of_mem _ hmem)) _).trans r.step_right_left

theorem left_run_returns {a : α} (schedule : List Side) {r : Race σ ε α β} (h : r.left.Returns a) :
    (r.run answer schedule).left.Returns a := by
  refine run_invariant (I := fun r => r.left.Returns a) (fun r side hr => ?_) schedule h
  cases side with
  | left =>
    cases hleft : r.left with
    | done _ | fail _ => rwa [step_left_of_ended (by rw [hleft]; trivial)]
    | step c next =>
      rw [hleft] at hr
      rw [step_left hleft]
      exact hr _
  | right => rwa [step_right_left]

/-- a left program that makes a call and ends in the course of a schedule makes its first call at some point -/
theorem exists_left_step {schedule : List Side} {r : Race σ ε α β} (hr : ¬ r.left.Ended)
    (h : (r.run answer schedule).left.Ended) : ∃ before after, schedule = before ++ .left :: after ∧ .left ∉ before := by
  by_cases hmem : .left ∈ schedule
  · exact List.eq_append_cons_of_mem hmem
  · rw [left_run hmem] at h
    exact absurd h hr

end Race

end Telemetry.Program
