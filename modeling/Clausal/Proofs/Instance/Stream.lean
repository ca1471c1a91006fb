import Clausal.Proofs.Instance.Draws
import Clausal.Session

/-!
# Instances from one stream

The answers of a source are a stream, and whatever is drawn takes the next of them.  An instance
takes as many as its literals do, clause after clause, and looks neither back nor ahead.  So two
instances drawn one after the other are the beginning and the rest of the instance that has the
clauses of both (`IsDrawable.exists_run_add`); only the text of that one has a `^` more, between
them.

What is refused is refused before anything is drawn.
-/

namespace Clausal

namespace Instance

/-- There is a clause to draw, a literal in it, and a name for the literal. -/
structure IsDrawable (count : Int) (alphabet : List String) (width : Int) : Prop where
  count_pos : 0 < count
  width_pos : 0 < width
  nonempty : alphabet ≠ []

/-! ## Drawing on -/

section Source

variable {State : Type} [Source State] {alphabet : List String} {count more width : Int}

theorem IsDrawable.draw_eq (hdrawable : IsDrawable count alphabet width) :
    (draw count alphabet width : Draw State _) = clauses alphabet width.toNat count.toNat := by
  obtain ⟨hcount, hwidth, hnonempty⟩ := hdrawable
  obtain ⟨count, rfl⟩ := Int.eq_ofNat_of_zero_le (Int.le_of_lt hcount)
  obtain ⟨width, rfl⟩ := Int.eq_ofNat_of_zero_le (Int.le_of_lt hwidth)
  exact draw_eq_clauses hnonempty (by omega) (by omega)

theorem IsDrawable.add (hcount : IsDrawable count alphabet width)
    (hmore : IsDrawable more alphabet width) : IsDrawable (count + more) alphabet width where
  count_pos := Int.add_pos hcount.count_pos hmore.count_pos
  width_pos := hcount.width_pos
  nonempty := hcount.nonempty

/-- What can be drawn is drawn: a clause or more. -/
theorem IsDrawable.exists_run (hdrawable : IsDrawable count alphabet width) (state : State) :
    ∃ drawn after, (draw count alphabet width : Draw State _).run state = (.ok drawn, after) ∧
      drawn ≠ [] := by
  obtain ⟨drawn, after, hrun, hlength, -⟩ :=
    succeeds_clauses hdrawable.nonempty width.toNat count.toNat state
  have hpositive := hdrawable.count_pos
  rw [← hdrawable.draw_eq] at hrun
  exact ⟨drawn, after, hrun, List.ne_nil_of_length_pos (by omega)⟩

/-- Two instances drawn one after the other are the beginning and the rest of one, and that takes
from the source what its literals take. -/
theorem IsDrawable.exists_run_add (hcount : IsDrawable count alphabet width)
    (hmore : IsDrawable more alphabet width) (state : State) :
    ∃ first middle second last, first ≠ [] ∧ second ≠ [] ∧
      (draw count alphabet width : Draw State _).run state = (.ok first, middle) ∧
      (draw more alphabet width : Draw State _).run middle = (.ok second, last) ∧
      (draw (count + more) alphabet width : Draw State _).run state =
        (.ok (first ++ second), last) ∧
      (times (literal alphabet) ((count + more) * width).toNat : Draw State _).run state =
        (.ok (first ++ second).flatten, last) := by
  obtain ⟨first, middle, hfirst, hsome⟩ := hcount.exists_run state
  obtain ⟨second, last, hsecond, hsome'⟩ := hmore.exists_run middle
  have hboth := hcount.add hmore
  have hwhole : (draw (count + more) alphabet width : Draw State _).run state =
      (.ok (first ++ second), last) := by
    rw [hcount.draw_eq] at hfirst
    rw [hmore.draw_eq] at hsecond
    rw [hboth.draw_eq, Int.toNat_add (Int.le_of_lt hcount.count_pos) (Int.le_of_lt hmore.count_pos),
      clauses, times_add, ← clauses, ← clauses, run_bind_of_ok hfirst, run_bind_of_ok hsecond]
    rfl
  refine ⟨first, middle, second, last, hsome, hsome', hfirst, hsecond, hwhole, ?_⟩
  rw [hboth.draw_eq] at hwhole
  rw [Int.toNat_mul (Int.le_of_lt hboth.count_pos) (Int.le_of_lt hboth.width_pos),
    literals_eq_flatten_clauses, run_map_of_ok hwhole]

/-- A refused draw takes nothing from the source. -/
theorem exists_run_of_not_isDrawable (hrefused : ¬ IsDrawable count alphabet width)
    (state : State) :
    ∃ fault, (draw count alphabet width : Draw State _).run state = (.error fault, state) := by
  unfold draw
  split
  · exact ⟨_, rfl⟩
  split
  · exact ⟨_, rfl⟩
  split
  · exact ⟨_, rfl⟩
  · next hcount hwidth hnonempty =>
      exact absurd ⟨by omega, by omega, by simpa using hnonempty⟩ hrefused

end Source

/-- The text of two instances one after the other. -/
theorem text_append {first second : List (List (Literal String))} (hfirst : first ≠ [])
    (hsecond : second ≠ []) : text (first ++ second) = text first ++ " ^ " ++ text second := by
  rw [text, List.map_append, String.intercalate_append_of_ne_nil (by simpa) (by simpa), ← text,
    ← text]

end Instance

namespace Session

open Instance

variable {session : Session} {alphabet : List String} {count width : Int}

/-! ## Draws of a session -/

section Draws

variable {Value Result : Type}

theorem run_bind_of_run {activity : Activity Value} {after : Session} {value : Value}
    (hrun : activity.run session = (value, after)) (next : Value → Activity Result) :
    (activity >>= next).run session = (next value).run after := by
  rw [StateT.run_bind, hrun]
  rfl

theorem run_draw_of_run {draw : Draw Twister Value} {result : Except Fault Value} {after : Twister}
    (hdraw : draw.run session.random = (result, after)) :
    (Session.draw draw).run session =
      (result.mapError .draw, { session with random := after }) := by
  simp only [Session.draw, StateT.run_bind, StateT.run_get, StateT.run_set, pure_bind, hdraw]
  rfl

end Draws

theorem run_drawInstance_of_ok {drawn : List (List (Literal String))} {after : Twister}
    (hdraw : (Instance.draw count alphabet width : Draw Twister _).run session.random =
      (.ok drawn, after)) :
    (drawInstance (.integer count) alphabet width none).run session = (.ok (text drawn),
      { session with
        journal := session.journal.post (.instanceDrawn count width alphabet.length)
        random := after }) :=
  run_bind_of_run (run_draw_of_run hdraw) _

theorem run_drawLiteral_of_ok {literal : Literal String} {after : Twister}
    (hdraw : (Instance.literal alphabet : Draw Twister _).run session.random =
      (.ok literal, after)) :
    (drawLiteral alphabet).run session = (.ok literal.text, { session with random := after }) :=
  run_bind_of_run (run_draw_of_run hdraw) _

/-- Literals that are asked for one by one are those that are drawn at once. -/
theorem exists_run_mapM_drawLiteral (hnonempty : alphabet ≠ []) (number : Nat)
    (session : Session) :
    ∃ literals after, (times (literal alphabet) number : Draw Twister _).run session.random =
        (.ok literals, after) ∧
      ((List.replicate number alphabet).mapM drawLiteral).run session =
        ((literals.map Literal.text).map .ok, { session with random := after }) := by
  induction number generalizing session with
  | zero => exact ⟨[], session.random, rfl, rfl⟩
  | succ number ih =>
      obtain ⟨literal, middle, hliteral, -⟩ := succeeds_literal hnonempty session.random
      obtain ⟨literals, after, hliterals, hothers⟩ := ih { session with random := middle }
      refine ⟨literal :: literals, after, ?_, ?_⟩
      · rw [times, run_bind_of_ok hliteral, run_bind_of_ok hliterals]
        rfl
      · rw [List.replicate_succ, List.mapM_cons, run_bind_of_run (run_drawLiteral_of_ok hliteral),
          run_bind_of_run hothers]
        rfl

section Sources

variable {own : Option Twister}

/-- What is answered is drawn from the source of its own, if there is one. -/
theorem fst_run_drawInstance_of_ok {drawn : List (List (Literal String))} {after : Twister}
    (hdraw : (Instance.draw count alphabet width : Draw Twister _).run
      (own.getD session.random) = (.ok drawn, after)) :
    ((drawInstance (.integer count) alphabet width own).run session).1 = .ok (text drawn) := by
  cases own with
  | none => rw [run_drawInstance_of_ok hdraw]
  | some source =>
      rw [Option.getD_some] at hdraw
      simp only [drawInstance, hdraw, Except.mapError, pure_bind]
      rfl

/-- A fault that leaves the source as it was leaves the session as it was. -/
theorem run_drawInstance_of_error {fault : Fault}
    (hdraw : (Instance.draw count alphabet width : Draw Twister _).run
      (own.getD session.random) = (.error fault, own.getD session.random)) :
    (drawInstance (.integer count) alphabet width own).run session =
      (.error (.draw fault), session) := by
  cases own with
  | none => exact run_bind_of_run (run_draw_of_run hdraw) _
  | some source =>
      rw [Option.getD_some] at hdraw
      simp only [drawInstance, hdraw, Except.mapError, pure_bind]
      rfl

end Sources

/-- What is refused leaves the session as it was. -/
theorem exists_run_drawInstance_eq_error {count : Datum}
    (hrefused : ∀ number, count = .integer number → ¬ IsDrawable number alphabet width)
    (own : Option Twister) (session : Session) :
    ∃ failure, (drawInstance count alphabet width own).run session = (.error failure, session) := by
  cases count with
  | integer number =>
      obtain ⟨fault, hdraw⟩ :=
        exists_run_of_not_isDrawable (hrefused number rfl) (own.getD session.random)
      exact ⟨.draw fault, run_drawInstance_of_error hdraw⟩
  | _ => exact ⟨_, rfl⟩

/-! ## The main statement -/

/-- **Instances from one stream.**  Two instances that are drawn one after the other are, with a
`^` between them, the instance that is drawn from the same session with the clauses of both.
Either way the source is left where as many requests for a literal leave it, none of which fails.
A request for an instance is refused if and only if its count is no integer, there is no clause
to draw, no literal in it or no name for one, and then the session is left as it was. -/
theorem drawInstance_add (session : Session) (alphabet : List String) (width : Int) :
    (∀ count more : Int, IsDrawable count alphabet width → IsDrawable more alphabet width →
      ∃ (first second : String) (literals : List String) (middle last whole single : Session),
        (drawInstance (.integer count) alphabet width none).run session = (.ok first, middle) ∧
        (drawInstance (.integer more) alphabet width none).run middle = (.ok second, last) ∧
        (drawInstance (.integer (count + more)) alphabet width none).run session =
          (.ok (first ++ " ^ " ++ second), whole) ∧
        ((List.replicate ((count + more) * width).toNat alphabet).mapM drawLiteral).run session =
          (literals.map .ok, single) ∧
        whole.random = last.random ∧ single.random = last.random) ∧
    ∀ (count : Datum) (own : Option Twister),
      ((∃ failure, ((drawInstance count alphabet width own).run session).1 = .error failure) ↔
        ∀ number, count = .integer number → ¬ IsDrawable number alphabet width) ∧
      ∀ failure, ((drawInstance count alphabet width own).run session).1 = .error failure →
        ((drawInstance count alphabet width own).run session).2 = session := by
  refine ⟨fun count more hcount hmore => ?_, fun count own => ?_⟩
  · obtain ⟨first, middle, second, last, hfirst, hsecond, hrun, hrun', hwhole, hliterals⟩ :=
      hcount.exists_run_add hmore session.random
    obtain ⟨literals, after, hdraws, hsingle⟩ := exists_run_mapM_drawLiteral hcount.nonempty
      ((count + more) * width).toNat session
    have hafter : after = last := congrArg Prod.snd (hdraws.symm.trans hliterals)
    have hboth := run_drawInstance_of_ok hwhole
    rw [text_append hfirst hsecond] at hboth
    exact ⟨text first, text second, literals.map Literal.text, _, _, _, _,
      run_drawInstance_of_ok hrun, run_drawInstance_of_ok hrun', hboth, hsingle, rfl, hafter⟩
  · by_cases hrefused : ∀ number, count = .integer number → ¬ IsDrawable number alphabet width
    · obtain ⟨failure, hrun⟩ := exists_run_drawInstance_eq_error hrefused own session
      rw [hrun]
      exact ⟨⟨fun _ => hrefused, fun _ => ⟨failure, rfl⟩⟩, fun _ _ => rfl⟩
    · push Not at hrefused
      obtain ⟨number, rfl, hdrawable⟩ := hrefused
      obtain ⟨drawn, after, hdraw, -⟩ := hdrawable.exists_run (own.getD session.random)
      rw [fst_run_drawInstance_of_ok hdraw]
      simp [hdrawable]

/-- Three clauses and one more, from an alphabet that has a name twice and one outside ASCII. -/
theorem drawInstance_add_three_and_one :
    IsDrawable 3 ["A", "é", "A"] 2 ∧ IsDrawable 1 ["A", "é", "A"] 2 ∧
      (∃ (first second : String) (middle last whole : Session),
        (drawInstance (.integer 3) ["A", "é", "A"] 2 none).run (.initial 7) = (.ok first, middle) ∧
        (drawInstance (.integer 1) ["A", "é", "A"] 2 none).run middle = (.ok second, last) ∧
        (drawInstance (.integer 4) ["A", "é", "A"] 2 none).run (.initial 7) =
          (.ok (first ++ " ^ " ++ second), whole) ∧ whole.random = last.random) ∧
      (∃ failure, ((drawInstance (.boolean true) ["A", "é", "A"] 2 none).run (.initial 7)).1 =
        .error failure) ∧
      ((drawInstance (.boolean true) ["A", "é", "A"] 2 none).run (.initial 7)).2 = .initial 7 := by
  have hthree : IsDrawable 3 ["A", "é", "A"] 2 := ⟨by decide, by decide, by decide⟩
  have hone : IsDrawable 1 ["A", "é", "A"] 2 := ⟨by decide, by decide, by decide⟩
  obtain ⟨hadd, hrefused⟩ := drawInstance_add (.initial 7) ["A", "é", "A"] 2
  obtain ⟨first, second, -, middle, last, whole, -, hfirst, hsecond, hwhole, -, hrandom, -⟩ :=
    hadd 3 1 hthree hone
  obtain ⟨failure, hfailure⟩ := (hrefused (.boolean true) none).1.mpr (by simp)
  exact ⟨hthree, hone, ⟨first, second, middle, last, whole, hfirst, hsecond, hwhole, hrandom⟩,
    ⟨failure, hfailure⟩, (hrefused (.boolean true) none).2 failure hfailure⟩

end Session

end Clausal
