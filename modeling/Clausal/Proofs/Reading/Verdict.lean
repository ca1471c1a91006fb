import Clausal.Proofs.Reading.Outcome
import Clausal.Sentence.Rendering

/-!
# Verdicts on symbols

What becomes of a text is a function of its symbols, the characters that are not
blank: `Reading.verdict` if they are balanced, a mismatch of parentheses otherwise.
This file computes verdicts.  A pair of parentheses around balanced symbols changes
nothing (`verdict_enclose`), and closed symbols joined by a connective are read one
by one at the level of the other connective (`verdict_join`).
-/

namespace Clausal

namespace Token

/-- The symbols of a text: what is not blank. -/
def symbols (text : List Char) : List Char := text.filter fun c => !c.isWhitespace

@[simp] theorem symbols_nil : symbols [] = [] := rfl

@[simp] theorem symbols_append (first second : List Char) :
    symbols (first ++ second) = symbols first ++ symbols second :=
  List.filter_append ..

theorem symbols_cons_of_white {c : Char} (hwhite : c.isWhitespace = true) (text : List Char) :
    symbols (c :: text) = symbols text := by
  simp [symbols, hwhite]

theorem symbols_cons_of_not_white {c : Char} (hwhite : c.isWhitespace = false)
    (text : List Char) : symbols (c :: text) = c :: symbols text := by
  simp [symbols, hwhite]

theorem symbols_flatMap {Item : Type} (items : List Item) (text : Item → List Char) :
    symbols (items.flatMap text) = items.flatMap fun item => symbols (text item) := by
  induction items with
  | nil => rfl
  | cons item rest ih => rw [List.flatMap_cons, List.flatMap_cons, symbols_append, ih]

theorem symbols_separator (joint : Connective) : symbols joint.separator = [joint.symbol] := by
  cases joint <;> rfl

theorem map_symbol_scanFrom (start : Nat) (text : List Char) :
    (scanFrom start text).map symbol = symbols text := by
  induction text generalizing start with
  | nil => rfl
  | cons c rest ih =>
      rw [scanFrom_cons]
      cases hwhite : c.isWhitespace with
      | true => rw [if_pos rfl, ih, symbols_cons_of_white hwhite]
      | false =>
          rw [if_neg Bool.false_ne_true, List.map_cons, ih, symbols_cons_of_not_white hwhite]

theorem map_symbol_scan (text : String) : (scan text).map symbol = symbols text.toList :=
  map_symbol_scanFrom 0 text.toList

theorem kind_of_connective_symbol (joint : Connective) (position : Nat) :
    kind ⟨joint.symbol, position⟩ = .connective joint := by
  cases joint <;> rfl

end Token

namespace Reading

open Grouping Token

/-! ## Balance -/

theorem balanced_scan_iff {text : String} :
    Balanced (scan text) ↔ Balanced (unplaced (symbols text.toList)) :=
  balanced_congr (by rw [map_symbol_scan, map_symbol_unplaced])

/-- A balanced text is read by its symbols alone. -/
theorem outcome_read_of_balanced {text : String} (hbalanced : Balanced (scan text)) :
    (Sentence.read text).outcome = verdict .and (symbols text.toList) := by
  rw [Sentence.read_eq, balanced_of_balanced hbalanced, outcome_atLevel, map_symbol_scan]

/-- Only balanced texts are read. -/
theorem balanced_scan_of_eq_ok {text : String} {read : List Token → Reading Sentence}
    {sentence : Sentence} (hread : (Reading.balanced text read).result = .ok sentence) :
    Balanced (scan text) := by
  by_contra hbalanced
  obtain ⟨fault, hfault⟩ := balanced_of_not_balanced hbalanced read
  rw [hfault] at hread
  simp at hread

/-! ## Pairs of parentheses -/

theorem closed_unplaced_enclose {inside : List Char} (hinside : Balanced (unplaced inside)) :
    Closed (unplaced ('(' :: (inside ++ [')']))) := by
  rw [unplaced_cons, unplaced_append]
  exact closed_enclose rfl rfl hinside

theorem verdict_enclose (level : Connective) {inside : List Char}
    (hinside : Balanced (unplaced inside)) :
    verdict level ('(' :: (inside ++ [')'])) = verdict level inside := by
  have hstrip : strip? (unplaced ('(' :: (inside ++ [')']))) = strip? (unplaced inside) := by
    rw [unplaced_cons, unplaced_append]
    exact strip?_enclose rfl rfl hinside
  rw [verdict, verdict, atLevel_of_strip?_eq hstrip]

/-! ## Literals -/

/-- Closed symbols that nothing encloses are read as a literal. -/
theorem verdict_of_closed (level : Connective) {symbols : List Char}
    (hclosed : Closed (unplaced symbols))
    (hstrip : strip? (unplaced symbols) = some (unplaced symbols)) :
    verdict level symbols =
      Sentence.ofLiteral <$> (literal [] (unplaced symbols) []).outcome := by
  have hjoint : jointAt level (unplaced symbols) = none := by
    rw [jointAt_of_not_joins (hclosed.not_joins level), hclosed.not_joins]
    rfl
  rw [verdict, atLevel_of_jointAt_eq_none hstrip hjoint, outcome_map]

/-- What is negated is an atom once its enclosing pairs are gone. -/
theorem literal_not {text : List Char} {negation : Token} {rest inner context : List Token}
    (hkind : negation.kind = .not) (hstrip : strip? rest = some inner) (hnonempty : inner ≠ []) :
    literal text (negation :: rest) context = atom text true inner := by
  have hsome : inner.isEmpty = false := by simpa using hnonempty
  rw [literal, if_pos hkind, strip_eq_pure hstrip, pure_bind, hsome, if_neg Bool.false_ne_true]

/-! ## Operands -/

/-- The operands after the first, each with the symbol before it. -/
private def separated (joint : Connective) (others : List (List Char)) :
    List (Token × List Token) :=
  others.map fun other => (⟨joint.symbol, 0⟩, unplaced other)

private theorem kind_of_mem_separated {joint : Connective} {others : List (List Char)}
    {other : Token × List Token} (hother : other ∈ separated joint others) :
    other.1.kind = .connective joint := by
  obtain ⟨part, -, rfl⟩ := List.mem_map.mp hother
  exact kind_of_connective_symbol joint 0

private theorem closed_of_mem_separated {joint : Connective} {others : List (List Char)}
    (hothers : ∀ other ∈ others, Closed (unplaced other)) {other : Token × List Token}
    (hother : other ∈ separated joint others) : Closed other.2 := by
  obtain ⟨part, hpart, rfl⟩ := List.mem_map.mp hother
  exact hothers part hpart

private theorem unplaced_join (joint : Connective) (first : List Char)
    (others : List (List Char)) :
    unplaced (first ++ others.flatMap (joint.symbol :: ·)) =
      rejoin (unplaced first) (separated joint others) := by
  rw [unplaced_append, rejoin, separated, List.flatMap_map]
  congr 1
  induction others with
  | nil => rfl
  | cons other others ih =>
      rw [List.flatMap_cons, List.flatMap_cons, List.cons_append, unplaced_cons, unplaced_append,
        ih]
      rfl

section Join

variable {joint : Connective} {first : List Char} {others : List (List Char)}
  (hfirst : Closed (unplaced first)) (hothers : ∀ other ∈ others, Closed (unplaced other))

include hfirst hothers

theorem balanced_join : Balanced (unplaced (first ++ others.flatMap (joint.symbol :: ·))) := by
  rw [unplaced_join]
  exact balanced_rejoin hfirst (fun _ => closed_of_mem_separated hothers)
    fun _ => kind_of_mem_separated

theorem operands_join :
    operands joint (unplaced (first ++ others.flatMap (joint.symbol :: ·))) =
      (unplaced first, others.map unplaced) := by
  rw [unplaced_join, operands_rejoin hfirst (fun _ => closed_of_mem_separated hothers)
    (fun _ => kind_of_mem_separated), separated, List.map_map]
  rfl

theorem joins_join (joint : Connective) (hnonempty : others ≠ []) :
    joins joint (unplaced (first ++ others.flatMap (joint.symbol :: ·))) = true := by
  rw [joins_eq_true_iff, operands_join hfirst hothers]
  simpa using hnonempty

theorem not_joins_join {another : Connective} (hanother : another ≠ joint) :
    joins another (unplaced (first ++ others.flatMap (joint.symbol :: ·))) = false := by
  rw [unplaced_join]
  exact not_joins_rejoin hfirst (fun _ => closed_of_mem_separated hothers)
    (fun _ => kind_of_mem_separated) hanother

/-- Closed symbols joined by a connective are joined by that one at both levels. -/
theorem jointAt_join (joint : Connective) (hnonempty : others ≠ []) (level : Connective) :
    jointAt level (unplaced (first ++ others.flatMap (joint.symbol :: ·))) = some joint := by
  have hjoins := joins_join hfirst hothers joint hnonempty
  rcases eq_or_ne level joint with rfl | hlevel
  · exact jointAt_of_joins hjoins
  · have hother : level.other = joint := by
      cases level <;> cases joint <;> simp_all [Connective.other]
    rw [jointAt_of_not_joins (not_joins_join hfirst hothers hlevel), hother, hjoins]
    rfl

/-- Closed symbols joined by a connective are read one by one. -/
theorem verdict_join (hnonempty : others ≠ []) (level : Connective) :
    verdict level (first ++ others.flatMap (joint.symbol :: ·)) =
      (verdict joint.other first >>= fun head =>
        others.mapM (verdict joint.other) >>= fun tail => .ok (.group joint head tail)) := by
  have hjoint := jointAt_join hfirst hothers joint hnonempty level
  have hstrip :=
    (balanced_join hfirst hothers).strip?_of_joins (joins_join hfirst hothers joint hnonempty)
  rw [verdict, atLevel_of_jointAt_eq_some hstrip hjoint, outcome_joined,
    operands_join hfirst hothers]
  simp only [outcome_atLevel, List.mapM_map, Function.comp_def, map_symbol_unplaced]

end Join

/-- A group is read as a given one if its operands are. -/
theorem group_eq_ok_iff {Fault : Type} {joint : Connective} {head : Except Fault Sentence}
    {tail : Except Fault (List Sentence)} {first : Sentence} {others : List Sentence} :
    (head >>= fun first => tail >>= fun others => .ok (Sentence.group joint first others)) =
        .ok (Sentence.group joint first others) ↔ head = .ok first ∧ tail = .ok others := by
  cases head <;> cases tail <;> simp [bind, Except.bind]

end Reading

end Clausal
