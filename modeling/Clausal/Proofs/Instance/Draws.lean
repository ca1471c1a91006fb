import Mathlib.Data.List.Basic
import Clausal.Instance

/-!
# Draws one after the other

Draws that are repeated are repetitions of a lawful monad: drawing twice in a row is drawing
the sum (`times_add`), and drawing lists of one width is drawing their values and cutting
them up (`times_mul`).  Both hold of any draw and any source, also where a draw fails.  So an
instance takes from a source what as many literals take, in the same order
(`literals_eq_flatten_clauses`).

`Draw.Succeeds` is for draws that cannot fail: from any state they get a value that has a
property.
-/

namespace Clausal

namespace Instance

variable {State : Type} {Value Result : Type}

/-! ## Repeated draws -/

theorem times_add (draw : Draw State Value) (count count' : Nat) :
    times draw (count + count') = do
      let values ← times draw count
      let values' ← times draw count'
      return values ++ values' := by
  induction count with
  | zero => simp [times]
  | succ count ih =>
      rw [Nat.succ_add, times, times, ih]
      simp

theorem times_mul (draw : Draw State Value) (count width : Nat) :
    times draw (count * width) = List.flatten <$> times (times draw width) count := by
  induction count with
  | zero => simp [times]
  | succ count ih =>
      rw [Nat.succ_mul, Nat.add_comm, times_add, times, ih]
      simp

/-- An instance is drawn literal by literal, clause after clause. -/
theorem literals_eq_flatten_clauses [Source State] (alphabet : List String) (width count : Nat) :
    (times (literal alphabet) (count * width) : Draw State _) =
      List.flatten <$> clauses alphabet width count :=
  times_mul (literal alphabet) count width

/-! ## Draws that succeed -/

theorem run_bind_of_ok {draw : Draw State Value} {state after : State} {value : Value}
    (hdraw : draw.run state = (.ok value, after)) (next : Value → Draw State Result) :
    (draw >>= next).run state = (next value).run after := by
  rw [ExceptT.run_bind]
  simp [bind, StateT.bind, hdraw]

theorem run_map_of_ok {draw : Draw State Value} {state after : State} {value : Value}
    (hdraw : draw.run state = (.ok value, after)) (change : Value → Result) :
    (change <$> draw).run state = (.ok (change value), after) := by
  rw [map_eq_pure_bind, run_bind_of_ok hdraw]
  rfl

/-- The draw gets a value from any state, and the value has the property. -/
def Draw.Succeeds (draw : Draw State Value) (holds : Value → Prop) : Prop :=
  ∀ state, ∃ value after, draw.run state = (.ok value, after) ∧ holds value

namespace Draw.Succeeds

theorem pure {holds : Value → Prop} {value : Value} (hvalue : holds value) :
    Succeeds (Pure.pure value : Draw State Value) holds :=
  fun state => ⟨value, state, rfl, hvalue⟩

theorem bind {draw : Draw State Value} {next : Value → Draw State Result} {holds : Value → Prop}
    {ensures : Result → Prop} (hdraw : Succeeds draw holds)
    (hnext : ∀ value, holds value → Succeeds (next value) ensures) :
    Succeeds (draw >>= next) ensures := by
  intro state
  obtain ⟨value, after, hrun, hvalue⟩ := hdraw state
  obtain ⟨result, final, hrest, hresult⟩ := hnext value hvalue after
  exact ⟨result, final, (run_bind_of_ok hrun next).trans hrest, hresult⟩

/-- As many values are drawn as are asked for, each with the property. -/
theorem times {draw : Draw State Value} {holds : Value → Prop} (hdraw : Succeeds draw holds)
    (count : Nat) :
    Succeeds (times draw count) fun values =>
      values.length = count ∧ ∀ value ∈ values, holds value := by
  induction count with
  | zero => exact pure ⟨rfl, by simp⟩
  | succ count ih =>
      rw [Instance.times]
      refine hdraw.bind fun value hvalue => ih.bind fun values hvalues => pure ⟨?_, ?_⟩
      · rw [List.length_cons, hvalues.1]
      · exact List.forall_mem_cons.mpr ⟨hvalue, hvalues.2⟩

end Draw.Succeeds

section Source

variable [Source State] {alphabet : List String} (hnonempty : alphabet ≠ [])

theorem succeeds_coin : (coin : Draw State Bool).Succeeds fun _ => True :=
  fun _ => ⟨_, _, rfl, trivial⟩

include hnonempty

theorem succeeds_choose : (choose alphabet : Draw State String).Succeeds (· ∈ alphabet) := by
  have hlength := List.length_pos_of_ne_nil hnonempty
  intro state
  rw [choose, dif_pos hlength]
  exact ⟨_, _, rfl, List.getElem_mem _⟩

theorem succeeds_literal :
    (literal alphabet : Draw State _).Succeeds fun drawn => drawn.name ∈ alphabet :=
  succeeds_coin.bind fun _ _ => (succeeds_choose hnonempty).bind fun _ hname => .pure hname

/-- The clauses have the shape that is asked for and names of the alphabet. -/
theorem succeeds_clauses (width count : Nat) :
    (clauses alphabet width count : Draw State _).Succeeds fun drawn =>
      drawn.length = count ∧ ∀ clause ∈ drawn, clause.length = width ∧
        ∀ literal ∈ clause, literal.name ∈ alphabet :=
  ((succeeds_literal hnonempty).times width).times count

end Source

/-- An instance that is checked is drawn clause by clause. -/
theorem draw_eq_clauses [Source State] {alphabet : List String} (hnonempty : alphabet ≠ [])
    {count width : Nat} (hcount : 0 < count) (hwidth : 0 < width) :
    (draw count alphabet width : Draw State _) = clauses alphabet width count := by
  rw [draw, if_neg (by omega), if_neg (by omega), if_neg (by simpa), Int.toNat_natCast,
    Int.toNat_natCast]

end Instance

end Clausal
