import Clausal.Proofs.Reading.RoundTrip
import Clausal.Reading.Clauses

/-!
# Reading conjunctions of clauses back

The strict reading keeps a group at both levels, so nothing is to collapse: the text
of a conjunction of clauses over ASCII letters is read as that conjunction, in either
layout.  No other sentence is read from its text, because the strict reading returns
conjunctions of clauses only (`isClausal_of_readClauses_eq_ok`), whatever the text.

What needs care are conjunctions of one clause.  Their text is one group in
parentheses; the parentheses are taken away before the text is cut at `^`, and again
nothing but the clause is left (`strip?_spelling_of_isClause`).
-/

namespace Clausal

open Grouping Token

namespace Reading

/-! ## Both levels as joined readings -/

theorem clauses_eq (text : List Char) (tokens : List Token) :
    clauses text tokens = strip tokens >>= fun inner => joined .and (clause text) inner :=
  rfl

theorem clause_eq (text : List Char) (tokens : List Token) :
    clause text tokens =
      strip tokens >>= fun inner => joined .or (clause.disjunct text inner) inner :=
  rfl

theorem disjunct_eq (text : List Char) (inner tokens : List Token) :
    clause.disjunct text inner tokens =
      strip tokens >>= fun stripped => Sentence.ofLiteral <$> literal text stripped inner := by
  simp only [clause.disjunct, map_eq_pure_bind]

/-! ## Only the symbols matter -/

section Symbols

variable {relabel : Token → Token} (hkeeps : KeepsSymbols relabel) (text text' : List Char)
include hkeeps

theorem outcome_disjunct_map (inner inner' tokens : List Token) :
    (clause.disjunct text inner (tokens.map relabel)).outcome =
      (clause.disjunct text' inner' tokens).outcome := by
  rw [disjunct_eq, disjunct_eq]
  refine outcome_strip_bind_map hkeeps (fun stripped => ?_) tokens
  rw [outcome_map, outcome_map, outcome_literal_map hkeeps text text']

theorem outcome_clause_map (tokens : List Token) :
    (clause text (tokens.map relabel)).outcome = (clause text' tokens).outcome := by
  rw [clause_eq, clause_eq]
  refine outcome_strip_bind_map hkeeps (fun inner => ?_) tokens
  exact outcome_joined_map hkeeps fun part _ => outcome_disjunct_map hkeeps text text' _ _ part

theorem outcome_clauses_map (tokens : List Token) :
    (clauses text (tokens.map relabel)).outcome = (clauses text' tokens).outcome := by
  rw [clauses_eq, clauses_eq]
  refine outcome_strip_bind_map hkeeps (fun inner => ?_) tokens
  exact outcome_joined_map hkeeps fun part _ => outcome_clause_map hkeeps text text' part

end Symbols

/-- A balanced text is read by its symbols alone. -/
theorem outcome_readClauses_of_balanced {text : String} (hbalanced : Balanced (scan text)) :
    (Sentence.readClauses text).outcome =
      (clauses text.toList (unplaced (symbols text.toList))).outcome := by
  rw [Sentence.readClauses, balanced_of_balanced hbalanced, ← map_symbol_scan, ← map_unplace,
    outcome_clauses_map keepsSymbols_unplace]

/-! ## What the strict reading returns -/

variable {text : List Char} {tokens : List Token} {sentence : Sentence}

theorem isLiteral_of_disjunct_eq_ok {inner : List Token}
    (hread : (clause.disjunct text inner tokens).result = .ok sentence) :
    sentence.isLiteral = true ∧ sentence.inAlphabet = true := by
  rw [disjunct_eq] at hread
  obtain ⟨stripped, -, hstripped⟩ := bind_eq_ok_iff.mp hread
  obtain ⟨found, hliteral, rfl⟩ := map_eq_ok_iff.mp hstripped
  refine ⟨Sentence.isLiteral_ofLiteral found, ?_⟩
  rw [Sentence.inAlphabet_ofLiteral, isAlpha_of_literal_eq_ok hliteral]

/-- A joined range has what all readings of its parts have. -/
private theorem forall_operands_of_joined_eq_ok {joint : Connective}
    {read : List Token → Reading Sentence} {holds : Sentence → Prop}
    (hread : (joined joint read tokens).result = .ok sentence)
    (hholds : ∀ part operand, (read part).result = .ok operand → holds operand) :
    ∃ first others, sentence = .group joint first others ∧
      ∀ operand ∈ first :: others, holds operand := by
  obtain ⟨first, others, rfl, hfirst, hothers⟩ := joined_eq_ok_iff.mp hread
  refine ⟨first, others, rfl, List.forall_mem_cons.mpr ⟨hholds _ first hfirst, ?_⟩⟩
  intro other hother
  obtain ⟨part, -, hpart⟩ := exists_mem_of_forall₂ hothers.flip hother
  exact hholds part other hpart

theorem isClause_of_clause_eq_ok (hread : (clause text tokens).result = .ok sentence) :
    sentence.isClause = true ∧ sentence.inAlphabet = true := by
  rw [clause_eq] at hread
  obtain ⟨inner, -, hjoined⟩ := bind_eq_ok_iff.mp hread
  obtain ⟨first, others, rfl, hoperands⟩ :=
    forall_operands_of_joined_eq_ok hjoined fun _ _ => isLiteral_of_disjunct_eq_ok
  constructor
  · exact List.all_eq_true.mpr fun operand hoperand => (hoperands operand hoperand).1
  · exact Sentence.inAlphabet_group.mpr fun operand hoperand => (hoperands operand hoperand).2

theorem isClausal_of_clauses_eq_ok (hread : (clauses text tokens).result = .ok sentence) :
    sentence.isClausal = true ∧ sentence.inAlphabet = true := by
  rw [clauses_eq] at hread
  obtain ⟨inner, -, hjoined⟩ := bind_eq_ok_iff.mp hread
  obtain ⟨first, others, rfl, hoperands⟩ :=
    forall_operands_of_joined_eq_ok hjoined fun _ _ => isClause_of_clause_eq_ok
  constructor
  · exact List.all_eq_true.mpr fun operand hoperand => (hoperands operand hoperand).1
  · exact Sentence.inAlphabet_group.mpr fun operand hoperand => (hoperands operand hoperand).2

theorem isClausal_of_readClauses_eq_ok {text : String}
    (hread : (Sentence.readClauses text).result = .ok sentence) :
    sentence.isClausal = true ∧ sentence.inAlphabet = true := by
  have hbalanced : Balanced (scan text) := balanced_scan_of_eq_ok hread
  rw [Sentence.readClauses, balanced_of_balanced hbalanced] at hread
  exact isClausal_of_clauses_eq_ok hread

end Reading

namespace Sentence

open Reading

/-! ## The text of a conjunction of clauses -/

/-- Breaking lines changes no symbol. -/
theorem symbols_format (sentence : Sentence) (layout : Layout) :
    symbols (sentence.format layout).toList = symbols sentence.render := by
  cases layout with
  | inline => rw [format, String.toList_ofList]
  | stacked =>
      rw [format, String.toList_ofList]
      match sentence with
      | .group .and first others =>
          have hseparator : symbols lineSeparator = [Connective.and.symbol] := rfl
          rw [symbols_render_group, renderStacked, symbols_append, symbols_flatMap,
            List.flatMap_map]
          simp only [symbols_append, hseparator, List.singleton_append]
          rfl
      | .group .or first others => rfl
      | .variable name => rfl
      | .negation operand => rfl

/-- A clause without its enclosing pairs is what stands inside of its parentheses. -/
theorem strip?_spelling_of_isClause {clause : Sentence} (hclause : clause.isClause = true) :
    strip? (unplaced clause.spelling) = some (unplaced (symbols clause.render)) := by
  obtain ⟨first, others, rfl, hliterals⟩ : ∃ first others, clause = .disjunction first others ∧
      ∀ operand ∈ first :: others, operand.isLiteral = true := by
    match clause with
    | .group .or first others => exact ⟨first, others, rfl, List.all_eq_true.mp hclause⟩
  rcases eq_or_ne others [] with rfl | hnonempty
  · have hgroup : first.isGroup = false := by
      have hliteral := hliterals first List.mem_cons_self
      cases first with
      | «variable» | negation => rfl
      | group => simp [isLiteral] at hliteral
    rw [strip?_spelling_group_nil, strip?_spelling_of_not_group hgroup, symbols_render_group,
      List.map_nil, List.flatMap_nil, List.append_nil]
  · exact strip?_spelling_group hnonempty

/-- A range of joined spellings is read as the group if its operands are read as what
they spell. -/
theorem outcome_joined_render {joint : Connective} {first : Sentence} {others : List Sentence}
    {read : List Token → Reading Sentence}
    (hread : ∀ operand ∈ first :: others,
      (read (unplaced operand.spelling)).outcome = .ok operand) :
    (joined joint read (unplaced (symbols (render (.group joint first others))))).outcome =
      .ok (.group joint first others) := by
  rw [List.forall_mem_cons] at hread
  have hothers : (others.mapM fun other => (read (unplaced other.spelling)).outcome) = .ok others :=
    mapM_eq_ok_iff.mpr (List.forall₂_same.mpr hread.2)
  rw [outcome_joined, symbols_render_group,
    operands_join first.closed_spelling (closed_of_mem_map_spelling others), hread.1]
  simp only [List.mapM_map, Function.comp_def]
  rw [hothers]
  rfl

/-! ## Its reading -/

theorem outcome_disjunct_spelling {sentence : Sentence} (hliteral : sentence.isLiteral = true)
    (halphabet : sentence.inAlphabet = true) (text : List Char) (inner : List Token) :
    (clause.disjunct text inner (unplaced sentence.spelling)).outcome = .ok sentence := by
  have hdirect := direct_of_isLiteral hliteral halphabet
  have hgroup : sentence.isGroup = false := by
    cases sentence with
    | «variable» | negation => rfl
    | group => simp [isLiteral] at hliteral
  have hstrip := strip?_spelling_of_not_group hgroup
  have hverdict := verdict_spelling .and sentence
  rw [verdict_of_closed .and sentence.closed_spelling hstrip, if_pos hdirect.toReadable,
    hdirect.collapse_eq] at hverdict
  -- neither the text nor the clause around a literal counts for its outcome
  have hcontext := outcome_literal_map (fun _ => rfl : KeepsSymbols id) text []
    (unplaced sentence.spelling) inner []
  rw [List.map_id] at hcontext
  rw [disjunct_eq, strip_eq_pure hstrip, pure_bind, outcome_map, hcontext, hverdict]

/-- With or without its parentheses, a clause is read as itself. -/
theorem outcome_clause_of_isClause {clause : Sentence} (hclause : clause.isClause = true)
    (halphabet : clause.inAlphabet = true) (text : List Char) {tokens : List Token}
    (hstrip : strip? tokens = some (unplaced (symbols clause.render))) :
    (Reading.clause text tokens).outcome = .ok clause := by
  match clause with
  | .group .or first others =>
      rw [clause_eq, strip_eq_pure hstrip, pure_bind]
      refine outcome_joined_render fun operand hoperand => ?_
      exact outcome_disjunct_spelling (List.all_eq_true.mp hclause operand hoperand)
        (inAlphabet_group.mp halphabet operand hoperand) text _

/-- The parentheses of the only clause are taken for those of the whole text, and what
is left is cut at `^` nowhere. -/
theorem outcome_clauses_of_isClause {clause : Sentence} (hclause : clause.isClause = true)
    (halphabet : clause.inAlphabet = true) (text : List Char) :
    (clauses text (unplaced clause.spelling)).outcome = .ok (.conjunction clause []) := by
  have hstrip := strip?_spelling_of_isClause hclause
  have huncut : joins .and (unplaced (symbols clause.render)) = false := by
    match clause with
    | .group .or first others =>
        rw [symbols_render_group]
        exact not_joins_join first.closed_spelling (closed_of_mem_map_spelling others) (by decide)
  have hread := outcome_clause_of_isClause hclause halphabet text
    (strip?_of_strip?_eq_some hstrip)
  rw [clauses_eq, strip_eq_pure hstrip, pure_bind, outcome_joined, operands_eq_self huncut, hread]
  rfl

theorem outcome_clauses_of_isClausal {sentence : Sentence} (hclausal : sentence.isClausal = true)
    (halphabet : sentence.inAlphabet = true) (text : List Char) :
    (clauses text (unplaced (symbols sentence.render))).outcome = .ok sentence := by
  match sentence with
  | .group .and first others =>
      have hclauses := List.all_eq_true.mp hclausal
      have hletters := inAlphabet_group.mp halphabet
      rcases eq_or_ne others [] with rfl | hnonempty
      · rw [symbols_render_group, List.map_nil, List.flatMap_nil, List.append_nil]
        exact outcome_clauses_of_isClause (hclauses first List.mem_cons_self)
          (hletters first List.mem_cons_self) text
      · rw [clauses_eq, strip_eq_pure (strip?_symbols_render hnonempty), pure_bind]
        refine outcome_joined_render fun operand hoperand => ?_
        have hclause := hclauses operand hoperand
        exact outcome_clause_of_isClause hclause (hletters operand hoperand) text
          (strip?_spelling_of_isClause hclause)

/-- Breaking lines does not change what is read. -/
theorem readClauses_format_of_isClausal {sentence : Sentence} (hclausal : sentence.isClausal = true)
    (halphabet : sentence.inAlphabet = true) (layout : Layout) :
    (readClauses (sentence.format layout)).result = .ok sentence := by
  have hbalanced : Balanced (scan (sentence.format layout)) := by
    rw [balanced_scan_iff, symbols_format]
    exact sentence.balanced_symbols_render
  rw [← outcome_eq_ok_iff, outcome_readClauses_of_balanced hbalanced, symbols_format,
    outcome_clauses_of_isClausal hclausal halphabet]

/-! ## The main statement -/

/-- **Reading conjunctions of clauses back.**  In either layout the text of a sentence is
read strictly as the sentence if and only if it is a conjunction of clauses over ASCII
letters; and no text is read strictly as anything but a conjunction of clauses. -/
theorem readClauses_format :
    (∀ (sentence : Sentence) (layout : Layout),
      (readClauses (sentence.format layout)).result = .ok sentence ↔
        sentence.isClausal = true ∧ sentence.inAlphabet = true) ∧
    ∀ (text : String) (sentence : Sentence),
      (readClauses text).result = .ok sentence → sentence.isClausal = true := by
  refine ⟨fun sentence layout => ⟨isClausal_of_readClauses_eq_ok, ?_⟩,
    fun text sentence hread => (isClausal_of_readClauses_eq_ok hread).1⟩
  rintro ⟨hclausal, halphabet⟩
  exact readClauses_format_of_isClausal hclausal halphabet layout

end Sentence

end Clausal
