import Clausal.Proofs.Reading.Simulation
import Clausal.Proofs.Reading.Slices

/-!
# Blanks are insignificant

Two texts that are the same without spaces, tabs and line ends are read alike in both modes,
and where they are refused the quoted parts are the same without these characters, too.

The tokens of the two differ in their positions only, but positions decide what is quoted,
and each text is quoted for itself.  So the two readings are followed range by range:
`SameSymbols` relates ranges of the same symbols that are consecutive tokens of their texts,
and the slices that such ranges cover have these symbols (`symbols_slice`).
-/

namespace Clausal

/-- A text without its spaces, tabs, carriage returns and line feeds. -/
def withoutBlanks (text : String) : List Char :=
  text.toList.filter fun c => !(c = ' ' || c = '\t' || c = '\r' || c = '\n')

/-- Two faults are of one family and quote the same, up to blanks. -/
structure ReadError.SameUpToBlanks (fault fault' : ReadError) : Prop where
  kind_eq : fault.kind = fault'.kind
  fragment_eq : fault.fragment?.map withoutBlanks = fault'.fragment?.map withoutBlanks

namespace Reading

open Grouping Token

theorem withoutBlanks_eq_symbols (text : String) : withoutBlanks text = symbols text.toList := rfl

theorem withoutBlanks_fragment {text : List Char} {tokens : List Token}
    (hwithin : tokens <:+: scanFrom 0 text) :
    withoutBlanks (fragment text tokens) = tokens.map symbol := by
  rw [withoutBlanks_eq_symbols, fragment, String.toList_ofList, symbols_slice hwithin]

/-! ## Ranges of the same symbols -/

/-- Balanced ranges of consecutive tokens of two texts, with the same symbols. -/
structure SameSymbols (text text' : List Char) (tokens tokens' : List Token) : Prop where
  balanced : Balanced tokens
  isInfix : tokens <:+: scanFrom 0 text
  isInfix' : tokens' <:+: scanFrom 0 text'
  symbols_eq : tokens.map symbol = tokens'.map symbol

namespace SameSymbols

variable {text text' : List Char} {tokens tokens' : List Token}

/-- Ranges have the same symbols if they are the same once the positions are forgotten. -/
theorem map_unplace_eq_iff :
    tokens.map unplace = tokens'.map unplace ↔ tokens.map symbol = tokens'.map symbol := by
  rw [map_unplace, map_unplace]
  constructor
  · intro hunplaced
    have hsymbols := congrArg (List.map symbol) hunplaced
    rwa [map_symbol_unplaced, map_symbol_unplaced] at hsymbols
  · exact congrArg unplaced

variable (hsame : SameSymbols text text' tokens tokens')
include hsame

theorem balanced' : Balanced tokens' := hsame.balanced.of_symbols_eq hsame.symbols_eq

theorem withoutBlanks_fragment_eq :
    withoutBlanks (fragment text tokens) = withoutBlanks (fragment text' tokens') := by
  rw [withoutBlanks_fragment hsame.isInfix, withoutBlanks_fragment hsame.isInfix',
    hsame.symbols_eq]

theorem length_eq : tokens.length = tokens'.length := by
  have hlength := congrArg List.length hsame.symbols_eq
  rwa [List.length_map, List.length_map] at hlength

/-- What is left of both ranges has the same symbols. -/
theorem exists_strip? : ∃ inner inner', strip? tokens = some inner ∧
    strip? tokens' = some inner' ∧ SameSymbols text text' inner inner' := by
  obtain ⟨inner, hstrip, hinner⟩ := hsame.balanced.exists_strip?_eq_some
  obtain ⟨inner', hstrip', -⟩ := hsame.balanced'.exists_strip?_eq_some
  refine ⟨inner, inner', hstrip, hstrip', ?_⟩
  have hunplaced : (strip? tokens).map (List.map unplace) =
      (strip? tokens').map (List.map unplace) := by
    rw [← strip?_map keepsSymbols_unplace, ← strip?_map keepsSymbols_unplace,
      map_unplace_eq_iff.mpr hsame.symbols_eq]
  rw [hstrip, hstrip', Option.map_some, Option.map_some, Option.some.injEq] at hunplaced
  exact
    { balanced := hinner
      isInfix := (isInfix_of_wraps (wraps_of_strip?_eq_some hstrip)).trans hsame.isInfix
      isInfix' := (isInfix_of_wraps (wraps_of_strip?_eq_some hstrip')).trans hsame.isInfix'
      symbols_eq := map_unplace_eq_iff.mp hunplaced }

/-- The operands of both ranges have the same symbols, one by one. -/
theorem forall₂_allOperands (joint : Connective) :
    List.Forall₂ (SameSymbols text text') (allOperands joint tokens)
      (allOperands joint tokens') := by
  have hunplaced : (allOperands joint tokens).map (List.map unplace) =
      (allOperands joint tokens').map (List.map unplace) := by
    have hoperands : operands joint (tokens.map unplace) = operands joint (tokens'.map unplace) :=
      congrArg (operands joint) (map_unplace_eq_iff.mpr hsame.symbols_eq)
    rw [operands_map keepsSymbols_unplace, operands_map keepsSymbols_unplace,
      Prod.mk.injEq] at hoperands
    rw [allOperands, allOperands, List.map_cons, List.map_cons, hoperands.1, hoperands.2]
  have hlength := congrArg List.length hunplaced
  rw [List.length_map, List.length_map] at hlength
  rw [List.forall₂_iff_get]
  refine ⟨hlength, fun index hindex hindex' => ?_⟩
  have hpart := List.get_mem (allOperands joint tokens) ⟨index, hindex⟩
  have hpart' := List.get_mem (allOperands joint tokens') ⟨index, hindex'⟩
  exact
    { balanced := hsame.balanced.of_mem_allOperands hpart
      isInfix := (isInfix_of_mem_allOperands hpart).trans hsame.isInfix
      isInfix' := (isInfix_of_mem_allOperands hpart').trans hsame.isInfix'
      symbols_eq := by
        have hget := congrArg (fun parts => parts[index]?) hunplaced
        simp only [List.getElem?_map, List.getElem?_eq_getElem hindex,
          List.getElem?_eq_getElem hindex', Option.map_some, Option.some.injEq] at hget
        exact map_unplace_eq_iff.mp hget }

end SameSymbols

/-! ## Literals -/

section Literals

variable {text text' : List Char} {tokens tokens' context context' : List Token}

/-- Ranges of the same symbols are refused alike. -/
private theorem endAlike_unexpected {Value : Type} (hsame : SameSymbols text text' tokens tokens') :
    EndAlike ReadError.SameUpToBlanks
      (fail (.unexpectedLiteral (fragment text tokens)) : Reading Value)
      (fail (.unexpectedLiteral (fragment text' tokens'))) :=
  .fail ⟨rfl, congrArg some hsame.withoutBlanks_fragment_eq⟩

private theorem endAlike_atom (hsame : SameSymbols text text' tokens tokens') (negated : Bool) :
    EndAlike ReadError.SameUpToBlanks (atom text negated tokens) (atom text' negated tokens') := by
  have hlength := hsame.length_eq
  rcases tokens with _ | ⟨token, _ | ⟨second, rest⟩⟩
  · obtain rfl := List.length_eq_zero_iff.mp hlength.symm
    exact endAlike_unexpected hsame
  · obtain ⟨token', rfl⟩ := List.length_eq_one_iff.mp hlength.symm
    have hsymbol : token.symbol = token'.symbol := by simpa using hsame.symbols_eq
    have hletter : token.letter? = token'.letter? := by simp only [letter?, hsymbol]
    rw [atom, atom, ← hletter]
    cases token.letter? with
    | none => exact endAlike_unexpected hsame
    | some letter => exact .value rfl rfl
  · rcases tokens' with _ | ⟨token', _ | ⟨second', rest'⟩⟩
    · simp at hlength
    · simp at hlength
    · exact endAlike_unexpected hsame

/-- What follows the first tokens has the same symbols, too. -/
private theorem SameSymbols.of_cons {first first' : Token} {rest rest' : List Token}
    (hsame : SameSymbols text text' (first :: rest) (first' :: rest'))
    (hweight : weight first = 0) : SameSymbols text text' rest rest' where
  balanced := hsame.balanced.of_cons hweight
  isInfix := (List.suffix_cons first rest).isInfix.trans hsame.isInfix
  isInfix' := (List.suffix_cons first' rest').isInfix.trans hsame.isInfix'
  symbols_eq := (List.cons.inj hsame.symbols_eq).2

theorem endAlike_literal (hsame : SameSymbols text text' tokens tokens')
    (hcontext : SameSymbols text text' context context') :
    EndAlike ReadError.SameUpToBlanks (literal text tokens context)
      (literal text' tokens' context') := by
  cases tokens with
  | nil =>
      obtain rfl := List.length_eq_zero_iff.mp hsame.length_eq.symm
      exact .fail ⟨rfl, congrArg some hcontext.withoutBlanks_fragment_eq⟩
  | cons first rest =>
      obtain ⟨first', rest', rfl, hsymbol, -⟩ := List.map_eq_cons_iff.mp hsame.symbols_eq.symm
      have hkind : first'.kind = first.kind := by rw [kind, hsymbol, ← kind]
      rw [literal, literal, hkind]
      by_cases hnot : first.kind = .not
      · obtain ⟨inner, inner', hstrip, hstrip', hinner⟩ :=
          (hsame.of_cons (by simp [weight, hnot])).exists_strip?
        have hempty : inner.isEmpty = inner'.isEmpty := by
          rw [Bool.eq_iff_iff, List.isEmpty_iff_length_eq_zero, List.isEmpty_iff_length_eq_zero,
            hinner.length_eq]
        rw [if_pos hnot, if_pos hnot, strip_eq_pure hstrip, strip_eq_pure hstrip', pure_bind,
          pure_bind, hempty]
        cases inner'.isEmpty with
        | true => exact .fail ⟨rfl, congrArg some hsame.withoutBlanks_fragment_eq⟩
        | false => exact endAlike_atom hinner true
      · rw [if_neg hnot, if_neg hnot]
        exact endAlike_atom hsame false

end Literals

/-! ## The main statement -/

theorem simulation_sameSymbols (text text' : List Char) :
    Simulation text text' ReadError.SameUpToBlanks (SameSymbols text text') where
  strip hsame := hsame.exists_strip?
  operands hsame _ _ joint := hsame.forall₂_allOperands joint
  literal hsame _ _ hcontext := endAlike_literal hsame hcontext

/-- **Blanks are insignificant.**  Two texts that are the same without spaces, tabs, carriage
returns and line feeds are read alike in either mode: as the same sentence, or both refused
with a fault of one family, and what the two faults quote is the same without these
characters. -/
theorem Mode.endAlike_of_withoutBlanks_eq (mode : Mode) {text text' : String}
    (hblanks : withoutBlanks text = withoutBlanks text') :
    EndAlike ReadError.SameUpToBlanks (mode.read text) (mode.read text') := by
  have hsymbols : (scan text).map symbol = (scan text').map symbol := by
    rw [map_symbol_scan, map_symbol_scan]
    exact hblanks
  have hiff := balanced_congr hsymbols
  by_cases hbalanced : Balanced (scan text)
  · have hbalanced' := hiff.mp hbalanced
    rw [mode.read_of_balanced hbalanced, mode.read_of_balanced hbalanced']
    refine (simulation_sameSymbols text.toList text'.toList).endAlike_readTokens mode ?_
    exact ⟨hbalanced, List.infix_rfl, List.infix_rfl, hsymbols⟩
  · obtain ⟨fault, hfault⟩ := exists_imbalance_eq_some hbalanced
    obtain ⟨fault', hfault'⟩ := exists_imbalance_eq_some (mt hiff.mpr hbalanced)
    rw [mode.read_of_imbalance hfault, mode.read_of_imbalance hfault']
    exact .fail ⟨rfl, congrArg some hblanks⟩

/-- The blanks inside the quoted operand of these texts differ. -/
theorem Mode.endAlike_of_blanks_in_operand :
    withoutBlanks "A ^ (B C v ~D)" = withoutBlanks " A^\n(B\t C\rv~ D )" ∧
      EndAlike ReadError.SameUpToBlanks (Mode.clausal.read "A ^ (B C v ~D)")
        (Mode.clausal.read " A^\n(B\t C\rv~ D )") := by
  have hblanks : withoutBlanks "A ^ (B C v ~D)" = withoutBlanks " A^\n(B\t C\rv~ D )" := by
    decide +kernel
  exact ⟨hblanks, Mode.clausal.endAlike_of_withoutBlanks_eq hblanks⟩

end Reading

end Clausal
