import Clausal.Proofs.Reading.Groups
import Clausal.Proofs.Reading.Places
import Clausal.Proofs.Reading.Slices

/-!
# The first fault of joined texts

Texts in parentheses are joined by a connective.  What the joined text is read as depends on
more than what the texts are read as alone, because `v` may be looked for first inside of a
group.  What it is refused for does not: it is refused if one of the texts is, and then like
the first one that is.

The places of the joined text are those of the texts, one text after the other.  So it remains
to compare the literal at a place of a text with the literal at the same place inside the joined
text.  There the tokens have other positions and the text is a longer one, but what they cover
of it is the same (`slice_shift`).
-/

namespace Clausal

namespace Token

/-! ## Tokens of a text inside another -/

theorem position_lt_of_mem_scanFrom {start : Nat} {text : List Char} {token : Token}
    (htoken : token ∈ scanFrom start text) : token.position < start + text.length := by
  obtain ⟨front, back, hscan⟩ := List.append_of_mem htoken
  obtain ⟨before, after, rfl, hposition, -⟩ := exists_of_scanFrom_eq_append_cons hscan
  rw [hposition, List.length_append, List.length_cons]
  omega

theorem scanFrom_inParentheses (start : Nat) (text : String) :
    scanFrom start (inParentheses text) =
      ⟨'(', start⟩ :: (scanFrom (start + 1) text.toList ++
        [⟨')', start + 1 + text.toList.length⟩]) := by
  rw [inParentheses, scanFrom_cons_of_not_white rfl, scanFrom_append,
    scanFrom_cons_of_not_white rfl, scanFrom_nil]

theorem scanFrom_separator (start : Nat) (joint : Connective) :
    scanFrom start joint.separator = [⟨joint.symbol, start + 1⟩] := by
  cases joint <;> rfl

end Token

namespace Reading

open Grouping Token

/-! ## Literals of a text inside another -/

section Within

variable (before after : List Char) {text : List Char} {tokens : List Token}
  (hwithin : ∀ token ∈ tokens, token.position < text.length)
include hwithin

theorem slice_shift :
    slice (before ++ (text ++ after)) (tokens.map (shift before.length)) = slice text tokens := by
  cases tokens with
  | nil => rfl
  | cons first rest =>
      obtain ⟨last, hlast⟩ := Option.isSome_iff_exists.mp
        (List.getLast?_isSome.mpr (List.cons_ne_nil first rest))
      have hfirst := hwithin first List.mem_cons_self
      have hposition := hwithin last (List.mem_of_getLast? hlast)
      simp only [slice, List.getLast?_map, hlast, List.head?_map, List.head?_cons,
        Option.map_some, shift]
      rw [List.drop_length_add_append, List.drop_append_of_le_length (by omega),
        List.take_append_of_le_length (by rw [List.length_drop]; omega)]
      congr 1
      omega

theorem fragment_shift :
    fragment (before ++ (text ++ after)) (tokens.map (shift before.length)) =
      fragment text tokens :=
  congrArg String.ofList (slice_shift before after hwithin)

private theorem grounds?_atom_shift (negated : Bool) :
    (atom (before ++ (text ++ after)) negated (tokens.map (shift before.length))).grounds? =
      (atom text negated tokens).grounds? := by
  have hfragment := fragment_shift before after hwithin
  rcases tokens with _ | ⟨token, _ | ⟨second, rest⟩⟩
  · rfl
  · rw [List.map_singleton] at hfragment ⊢
    rw [atom, atom, letter?_relabel (keepsSymbols_shift _), hfragment]
  · exact congrArg (fun operand => some (ReadError.unexpectedLiteral operand).grounds) hfragment

theorem grounds?_literal_shift (hbalanced : Balanced tokens) :
    (literal (before ++ (text ++ after)) (tokens.map (shift before.length)) []).grounds? =
      (literal text tokens []).grounds? := by
  have hkeeps := keepsSymbols_shift before.length
  cases tokens with
  | nil => rfl
  | cons first rest =>
      rw [List.map_cons, literal, literal, hkeeps.kind_eq]
      by_cases hnot : first.kind = .not
      · obtain ⟨inner, hstrip, -⟩ :=
          (hbalanced.of_cons (by simp [weight, hnot])).exists_strip?_eq_some
        have hstrip' : strip? (rest.map (shift before.length)) =
            some (inner.map (shift before.length)) := by
          rw [strip?_map hkeeps, hstrip, Option.map_some]
        have hinner : ∀ token ∈ inner, token.position < text.length := fun token htoken =>
          hwithin token (List.mem_cons_of_mem _
            ((isInfix_of_wraps (wraps_of_strip?_eq_some hstrip)).subset htoken))
        rw [if_pos hnot, if_pos hnot, strip_eq_pure hstrip, strip_eq_pure hstrip', pure_bind,
          pure_bind, List.isEmpty_map]
        cases inner.isEmpty with
        | true => rfl
        | false => exact grounds?_atom_shift before after hinner true
      · rw [if_neg hnot, if_neg hnot]
        exact grounds?_atom_shift before after hwithin false

end Within

/-- A balanced text is refused inside another one as it is alone. -/
theorem findSome?_places_within (before after : List Char) {text : String}
    (hbalanced : Balanced (scan text)) :
    ((places (scanFrom before.length text.toList)).findSome? fun place =>
        (literal (before ++ (text.toList ++ after)) place []).grounds?) =
      (Sentence.read text).grounds? := by
  have hscan : scanFrom before.length text.toList = (scan text).map (shift before.length) :=
    scanFrom_add before.length 0 text.toList
  rw [Sentence.read_eq, balanced_of_balanced hbalanced, grounds?_atLevel _ _ hbalanced, hscan,
    places_map (keepsSymbols_shift _), List.findSome?_map]
  refine findSome?_eq_of_forall₂ (List.forall₂_same.mpr fun place hplace => ?_)
  obtain ⟨hplaceBalanced, hplaceWithin⟩ := (hereditary_isInfix text.toList).of_mem_places
    ⟨hbalanced, List.infix_rfl⟩ hplace
  refine grounds?_literal_shift before after (fun token htoken => ?_) hplaceBalanced
  have hposition := position_lt_of_mem_scanFrom (hplaceWithin.subset htoken)
  omega

/-! ## The tokens of joined texts -/

/-- The tokens are those of a balanced text in parentheses, where it stands in a whole text. -/
structure IsGroupOf (whole : List Char) (tokens : List Token) (text : String) : Prop where
  balanced : Balanced (scan text)
  stands : ∃ before after, whole = before ++ (inParentheses text ++ after) ∧
    tokens = scanFrom before.length (inParentheses text)

namespace IsGroupOf

variable {whole : List Char} {tokens : List Token} {text : String}
  (hgroup : IsGroupOf whole tokens text)
include hgroup

theorem balanced_inside (start : Nat) : Balanced (scanFrom start text.toList) :=
  hgroup.balanced.of_symbols_eq (by rw [map_symbol_scan, map_symbol_scanFrom])

theorem closed : Closed tokens := by
  obtain ⟨before, after, -, rfl⟩ := hgroup.stands
  rw [scanFrom_inParentheses]
  exact closed_enclose rfl rfl (hgroup.balanced_inside _)

/-- A text in parentheses is refused in the whole as it is alone. -/
theorem findSome?_places :
    ((places tokens).findSome? fun place => (literal whole place []).grounds?) =
      (Sentence.read text).grounds? := by
  obtain ⟨before, after, rfl, rfl⟩ := hgroup.stands
  have hplaces : places (scanFrom before.length (inParentheses text)) =
      places (scanFrom (before ++ ['(']).length text.toList) := by
    rw [scanFrom_inParentheses, List.length_append]
    exact places_of_strip?_eq (strip?_enclose rfl rfl (hgroup.balanced_inside _))
  have hwhole : before ++ (inParentheses text ++ after) =
      before ++ ['('] ++ (text.toList ++ ([')'] ++ after)) := by
    simp [inParentheses]
  rw [hplaces, hwhole]
  exact findSome?_places_within _ _ hgroup.balanced

end IsGroupOf

/-- Texts in parentheses, each after a connective. -/
def attached (joint : Connective) (others : List String) : List Char :=
  others.flatMap fun text => joint.separator ++ inParentheses text

theorem toList_joinGroups (joint : Connective) (first : String) (others : List String) :
    (joint.joinGroups first others).toList = inParentheses first ++ attached joint others :=
  String.toList_ofList

theorem attached_cons (joint : Connective) (second : String) (rest : List String) :
    attached joint (second :: rest) =
      joint.separator ++ (inParentheses second ++ attached joint rest) := by
  rw [attached, List.flatMap_cons, List.append_assoc, attached]

/-- The tokens of joined texts are groups with the connective between them. -/
theorem exists_rejoin_scanFrom (joint : Connective) {whole : List Char} (before : List Char)
    (first : String) {others : List String}
    (hwhole : whole = before ++ (inParentheses first ++ attached joint others))
    (hothers : ∀ text ∈ others, Balanced (scan text)) :
    ∃ groups : List (Token × List Token),
      scanFrom before.length (inParentheses first ++ attached joint others) =
        rejoin (scanFrom before.length (inParentheses first)) groups ∧
      (∀ group ∈ groups, group.1.kind = .connective joint) ∧
      List.Forall₂ (IsGroupOf whole) (groups.map Prod.snd) others := by
  induction others generalizing before first with
  | nil => exact ⟨[], by simp [attached], by simp, .nil⟩
  | cons second rest ih =>
      rw [List.forall_mem_cons] at hothers
      -- what is left begins after the first group and the connective
      have hrest : whole = before ++ (inParentheses first ++ joint.separator) ++
          (inParentheses second ++ attached joint rest) := by
        rw [hwhole, attached_cons, List.append_assoc, List.append_assoc]
      obtain ⟨groups, hscan, hseparators, hgroups⟩ := ih _ second hrest hothers.2
      refine ⟨(⟨joint.symbol, before.length + (inParentheses first).length + 1⟩,
        scanFrom _ (inParentheses second)) :: groups, ?_, ?_,
        .cons ⟨hothers.1, _, _, hrest, rfl⟩ hgroups⟩
      · rw [rejoin_cons, ← hscan, attached_cons, scanFrom_append, scanFrom_append _ joint.separator,
          scanFrom_separator, List.length_append, List.length_append, ← Nat.add_assoc]
        rfl
      · exact List.forall_mem_cons.mpr ⟨kind_of_connective_symbol joint _, hseparators⟩

/-! ## The main statement -/

/-- Joined texts are refused on the grounds of the first of them that is refused. -/
theorem grounds?_joinGroups (joint : Connective) {first : String} {others : List String}
    (hnonempty : others ≠ []) (hbalanced : ∀ text ∈ first :: others, Balanced (scan text)) :
    (Sentence.read (joint.joinGroups first others)).grounds? =
      (first :: others).findSome? fun text => (Sentence.read text).grounds? := by
  have hwhole := toList_joinGroups joint first others
  rw [List.forall_mem_cons] at hbalanced
  obtain ⟨groups, hrest, hseparators, hothers⟩ :=
    exists_rejoin_scanFrom joint [] first hwhole hbalanced.2
  have hscan : scan (joint.joinGroups first others) =
      rejoin (scanFrom 0 (inParentheses first)) groups :=
    (congrArg (scanFrom 0) hwhole).trans hrest
  have hgroups := List.Forall₂.cons ⟨hbalanced.1, [], _, hwhole, rfl⟩ hothers
  have hclosed : ∀ part ∈ scanFrom 0 (inParentheses first) :: groups.map Prod.snd, Closed part :=
    fun part hpart => (exists_mem_of_forall₂ hgroups hpart).elim fun _ hgroup => hgroup.2.closed
  rw [List.forall_mem_cons, List.forall_mem_map] at hclosed
  have hrejoin := balanced_rejoin hclosed.1 hclosed.2 hseparators
  have hoperands := operands_rejoin hclosed.1 hclosed.2 hseparators
  rw [← hscan] at hrejoin hoperands
  have hjoins : joins joint (scan (joint.joinGroups first others)) = true := by
    rw [joins_eq_true_iff, hoperands, ← List.length_pos_iff, hothers.length_eq]
    exact List.length_pos_iff.mpr hnonempty
  calc (Sentence.read (joint.joinGroups first others)).grounds?
      = (places (scan (joint.joinGroups first others))).findSome? fun place =>
          (literal (joint.joinGroups first others).toList place []).grounds? := by
        rw [Sentence.read_eq, balanced_of_balanced hrejoin, grounds?_atLevel _ _ hrejoin]
    _ = (scanFrom 0 (inParentheses first) :: groups.map Prod.snd).findSome? fun part =>
          (places part).findSome? fun place =>
            (literal (joint.joinGroups first others).toList place []).grounds? := by
        rw [← flatMap_places hrejoin hjoins, allOperands, hoperands, findSome?_flatMap]
    _ = (first :: others).findSome? fun text => (Sentence.read text).grounds? :=
        findSome?_eq_of_forall₂ (hgroups.imp fun part text hgroup => hgroup.findSome?_places)

end Reading

open Reading in
/-- **The first fault.**  Balanced texts joined in parentheses are a sentence if each of them is.
If not, the joined text is refused like the first text that is refused alone: with a fault of the
same family, and if that is an unexpected literal, with the same operand quoted. -/
theorem Sentence.read_joinGroups_firstFault {joint : Connective} {first : String}
    {others : List String} (hnonempty : others ≠ [])
    (hbalanced : ∀ text ∈ first :: others, Grouping.Balanced (Token.scan text)) :
    ((∀ text ∈ first :: others, (Sentence.read text).Succeeds) →
      (Sentence.read (joint.joinGroups first others)).Succeeds) ∧
    ∀ front culprit back fault, first :: others = front ++ culprit :: back →
      (∀ text ∈ front, (Sentence.read text).Succeeds) →
      (Sentence.read culprit).result = .error fault →
      ∃ fault', (Sentence.read (joint.joinGroups first others)).result = .error fault' ∧
        fault'.kind = fault.kind ∧
        (fault.kind = .unexpectedLiteral → fault'.fragment? = fault.fragment?) := by
  have hgrounds := grounds?_joinGroups joint hnonempty hbalanced
  constructor
  · intro hall
    rw [← grounds?_eq_none_iff, hgrounds, List.findSome?_eq_none_iff]
    exact fun text htext => grounds?_eq_none_iff.mpr (hall text htext)
  · intro front culprit back fault htexts hfront hculprit
    have hfirst : (Sentence.read (joint.joinGroups first others)).grounds? =
        some fault.grounds := by
      rw [hgrounds, List.findSome?_eq_some_iff]
      exact ⟨front, culprit, back, htexts, grounds?_eq_some_iff.mpr ⟨fault, hculprit, rfl⟩,
        fun text htext => grounds?_eq_none_iff.mpr (hfront text htext)⟩
    obtain ⟨fault', hread, hsame⟩ := grounds?_eq_some_iff.mp hfirst
    obtain ⟨hkind, hquoted⟩ := ReadError.grounds_eq_iff.mp hsame
    exact ⟨fault', hread, hkind, fun hunexpected => hquoted (hkind.trans hunexpected)⟩

/-- The second text has both connectives outside its groups, so inside the joined text it is cut
at `v` first.  The third one is refused, too, but for a missing literal. -/
theorem Sentence.read_groups_of_refused_negation :
    (∀ text ∈ ["A v B", "C ^ ~(D v E) v F", "()"], Grouping.Balanced (Token.scan text)) ∧
      (Sentence.read "A v B").Succeeds ∧
      (Sentence.read "C ^ ~(D v E) v F").result = .error (.unexpectedLiteral "D v E") ∧
      ∃ fault,
        (Sentence.read (Connective.and.joinGroups "A v B" ["C ^ ~(D v E) v F", "()"])).result =
          .error fault ∧ fault.kind = .unexpectedLiteral ∧ fault.fragment? = some "D v E" := by
  have hbalanced : ∀ text ∈ ["A v B", "C ^ ~(D v E) v F", "()"],
      Grouping.Balanced (Token.scan text) := by
    simp only [← Grouping.imbalance_eq_none_iff]
    decide +kernel
  have hfirst : (Sentence.read "A v B").Succeeds :=
    ⟨.disjunction (.variable ⟨'A', by decide, by decide⟩) [.variable ⟨'B', by decide, by decide⟩],
      by decide +kernel⟩
  have hsecond : (Sentence.read "C ^ ~(D v E) v F").result =
      .error (.unexpectedLiteral "D v E") := by decide +kernel
  obtain ⟨fault, hread, hkind, hfragment⟩ :=
    (Sentence.read_joinGroups_firstFault (List.cons_ne_nil _ _) hbalanced).2 ["A v B"]
      "C ^ ~(D v E) v F" ["()"] (.unexpectedLiteral "D v E") rfl (by simpa using hfirst) hsecond
  exact ⟨hbalanced, hfirst, hsecond, fault, hread, hkind, hfragment rfl⟩

end Clausal
