import Telemetry.Proofs.Channel.Decoding
import Telemetry.Proofs.Except
import Telemetry.Query.Statement
/-
Texts without quotes: what a query shows besides names and values.

Numbers are digits with a sign or a point, intervals are digits and letters of units, and functions, operators and fill
policies are words of the language. A name's channel code is a part of the name, so it has a character only if the name has.

- `plain_int`, `plain_positional`: numbers;
- `plain_of_isInterval`: intervals, through every step of their scan;
- `mem_of_mem_code`: channel codes.
-/
namespace Telemetry

/-- no character is a quote -/
def Plain (cs : List Char) : Prop := ∀ c ∈ cs, c ≠ '"' ∧ c ≠ '\''

instance (cs : List Char) : Decidable (Plain cs) :=
  List.decidableBAll (fun c => c ≠ '"' ∧ c ≠ '\'') cs

theorem Plain.append {cs ds : List Char} (hcs : Plain cs) (hds : Plain ds) : Plain (cs ++ ds) := by
  intro c hc
  rcases List.mem_append.1 hc with hc | hc
  · exact hcs c hc
  · exact hds c hc

theorem Plain.cons {c : Char} {cs : List Char} (hdouble : c ≠ '"') (hsingle : c ≠ '\'') (hcs : Plain cs) :
    Plain (c :: cs) := by
  intro d hd
  rcases List.mem_cons.1 hd with rfl | hd
  · exact ⟨hdouble, hsingle⟩
  · exact hcs d hd

theorem Plain.mono {cs ds : List Char} (hds : Plain ds) (h : ∀ c ∈ cs, c ∈ ds) : Plain cs :=
  fun c hc => hds c (h c hc)

theorem plain_replicate_zero (n : Nat) : Plain (List.replicate n '0') := by
  intro c hc
  rw [List.eq_of_mem_replicate hc]
  decide

/-! ## Numbers -/

namespace Decimal

theorem plain_digitsOf (n : Nat) : Plain (digitsOf n) := by
  intro c hc
  have hdigit := Nat.isDigit_of_mem_toDigits (by decide) (by decide) hc
  constructor
  · rintro rfl
    exact absurd hdigit (by decide)
  · rintro rfl
    exact absurd hdigit (by decide)

theorem plain_int (i : Int) : Plain (toString i).toList := by
  cases i with
  | ofNat n =>
    have h : (toString (Int.ofNat n)).toList = digitsOf n := Nat.toList_repr
    rw [h]
    exact plain_digitsOf n
  | negSucc n =>
    have h : (toString (Int.negSucc n)).toList = '-' :: digitsOf (n + 1) := by
      change ("-" ++ (n + 1).repr).toList = _
      rw [String.toList_append, Nat.toList_repr]
      rfl
    rw [h]
    exact Plain.cons (by decide) (by decide) (plain_digitsOf _)

theorem plain_shortest (tie : Tie) (x : Binary64) : Plain (x.shortest tie).digits := by
  unfold Binary64.shortest
  split
  · decide
  · split
    · rename_i c power _
      refine (plain_digitsOf c).mono fun d hd => ?_
      simp only [Binary64.withoutTrailingZeros, List.mem_reverse] at hd
      exact List.mem_reverse.1 ((List.dropWhile_sublist _).subset hd)
    · decide

theorem plain_positionalText {style : Style} (hend : Plain style.integralEnd) {x : Scaled} (hx : Plain x.digits) :
    Plain (positionalText style x) := by
  unfold positionalText
  split
  · exact ((by decide : Plain ['0', '.']).append (plain_replicate_zero _)).append hx
  · dsimp only
    split
    · exact (hx.append (plain_replicate_zero _)).append hend
    · refine ((hx.mono fun c hc => ?_).append (by decide)).append (hx.mono fun c hc => ?_)
      · exact List.mem_of_mem_take hc
      · exact List.mem_of_mem_drop hc

/-- a number written without an exponent -/
theorem plain_positional (x : Binary64) : Plain (x.text .positional) := by
  have hbody : Plain (positionalText .positional (x.shortest Style.positional.tie)) :=
    plain_positionalText (by decide) (plain_shortest _ x)
  unfold Binary64.text
  simp only [Style.isPositional, Style.positional, Bool.and_self, if_true]
  split
  · exact Plain.cons (by decide) (by decide) hbody
  · exact hbody

end Decimal

/-! ## Groupings -/

namespace Query

/-- no quote goes on with an interval -/
theorem IntervalState.next_plain {state state' : IntervalState} {c : Char} (h : state.next c = some state') :
    c ≠ '"' ∧ c ≠ '\'' := by
  have hdouble : ∀ state : IntervalState, state.next '"' = none := by intro state; cases state <;> decide
  have hsingle : ∀ state : IntervalState, state.next '\'' = none := by intro state; cases state <;> decide
  constructor
  · rintro rfl
    rw [hdouble] at h
    cases h
  · rintro rfl
    rw [hsingle] at h
    cases h

theorem plain_of_foldlM_next {cs : List Char} {state state' : IntervalState}
    (h : cs.foldlM IntervalState.next state = some state') : Plain cs := by
  induction cs generalizing state with
  | nil => intro c hc; cases hc
  | cons c cs ih =>
    rw [List.foldlM_cons] at h
    obtain ⟨state1, hnext, hrest⟩ := Option.bind_eq_some_iff.1 h
    obtain ⟨hdouble, hsingle⟩ := IntervalState.next_plain hnext
    exact (ih hrest).cons hdouble hsingle

theorem plain_of_isInterval {cs : List Char} (h : isInterval cs = true) : Plain cs := by
  unfold isInterval at h
  split at h
  · rename_i state hstate
    exact plain_of_foldlM_next hstate
  · cases h

theorem FillPolicy.plain_token (fill : FillPolicy) : Plain fill.token.toList := by
  cases fill with
  | value x =>
    rw [FillPolicy.token, String.toList_ofList]
    exact Decimal.plain_positional x
  | _ => decide

/-- the grouping comes out of one of the two constructors -/
def GroupBy.Made (g : GroupBy) : Prop :=
  (∃ interval fill, GroupBy.new interval fill = .ok g) ∨ ∃ interval fill, GroupBy.read interval fill = .ok g

theorem GroupBy.isInterval_of_new {interval : String} {fill : FillPolicy} {g : GroupBy}
    (h : GroupBy.new interval fill = .ok g) : isInterval g.interval.toList = true := by
  unfold GroupBy.new at h
  split at h
  · rename_i hinterval
    cases h
    exact hinterval
  · cases h

theorem GroupBy.Made.isInterval {g : GroupBy} (h : g.Made) : isInterval g.interval.toList = true := by
  rcases h with ⟨interval, fill, h⟩ | ⟨interval, fill, h⟩
  · exact GroupBy.isInterval_of_new h
  · unfold GroupBy.read at h
    cases fill with
    | none =>
      obtain ⟨policy, -, hnew⟩ := bind_eq_ok_iff.1 h
      exact GroupBy.isInterval_of_new hnew
    | some token =>
      obtain ⟨policy, -, hnew⟩ := bind_eq_ok_iff.1 h
      exact GroupBy.isInterval_of_new hnew

theorem Aggregation.plain_name (f : Aggregation) : Plain f.name.toList := by
  cases f <;> decide

theorem MathFunction.plain_operator (f : MathFunction) : Plain f.operator.toList := by
  cases f <;> decide

end Query

/-! ## Channel codes -/

namespace Channel

/-- a channel's code is a part of its field name -/
theorem mem_of_mem_code {name : String} {c : Char} (h : c ∈ (decodeFieldName name).code.toList) : c ∈ name.toList := by
  unfold decodeFieldName at h
  split at h
  · rename_i d code u unit hsplit
    rw [String.toList_ofList] at h
    rw [(eq_of_splitAtLastPoint hsplit).1]
    exact List.mem_append_left _ h
  · exact h

end Channel

end Telemetry
