import Clausal.Proofs.Reading.Outcome

/-!
# What is read, as a grammar

`Grammar.Derives` is the grammar of sentences over the kinds of tokens:

```text
sentence → conjunct (^ conjunct)*        literal → variable | ~ atom
conjunct → disjunct (v disjunct)*        atom    → variable | ( atom )
disjunct → literal | ( sentence )
```

The main statement is that a text has a reading if and only if the grammar derives its
kinds of tokens from `sentence`.

The readings do not follow the grammar: inside a group which connective is looked for
first depends on where the group stands.  What is derived does not, because a
sentence is just a `Chain`: disjuncts with connectives of either kind between them.
Cutting a chain at the connectives of one kind gives chains
(`chain_iff_forall_allOperands`), and that is the step that both directions of the
induction over ranges take.
-/

namespace Clausal

namespace Grammar

open Grouping

/-- The categories of the grammar. -/
inductive Category where
  | sentence
  | conjunct
  | disjunct
  | literal
  | atom
  deriving DecidableEq

/-- The kinds of tokens that the grammar derives from a category. -/
inductive Derives : Category → List Token.Kind → Prop
  | sentence {first : List Token.Kind} {others : List (List Token.Kind)}
      (hfirst : Derives .conjunct first) (hothers : ∀ other ∈ others, Derives .conjunct other) :
      Derives .sentence (first ++ others.flatMap (.connective .and :: ·))
  | conjunct {first : List Token.Kind} {others : List (List Token.Kind)}
      (hfirst : Derives .disjunct first) (hothers : ∀ other ∈ others, Derives .disjunct other) :
      Derives .conjunct (first ++ others.flatMap (.connective .or :: ·))
  | literal {word : List Token.Kind} (hword : Derives .literal word) : Derives .disjunct word
  | group {word : List Token.Kind} (hword : Derives .sentence word) :
      Derives .disjunct (.opening :: (word ++ [.closing]))
  | variable : Derives .literal [.variable]
  | negation {word : List Token.Kind} (hword : Derives .atom word) :
      Derives .literal (.not :: word)
  | atom : Derives .atom [.variable]
  | enclosedAtom {word : List Token.Kind} (hword : Derives .atom word) :
      Derives .atom (.opening :: (word ++ [.closing]))

/-! ## Chains -/

/-- Disjuncts with connectives between them. -/
inductive Chain : List Token.Kind → Prop
  | last {word : List Token.Kind} (hword : Derives .disjunct word) : Chain word
  | more {word rest : List Token.Kind} (joint : Connective) (hword : Derives .disjunct word)
      (hrest : Chain rest) : Chain (word ++ .connective joint :: rest)

theorem Chain.append {first second : List Token.Kind} (hfirst : Chain first) (joint : Connective)
    (hsecond : Chain second) : Chain (first ++ .connective joint :: second) := by
  induction hfirst with
  | last hword => exact .more joint hword hsecond
  | more joint' hword _ ih =>
      rw [List.append_assoc, List.cons_append]
      exact .more joint' hword ih

private theorem chain_join {joint : Connective} {first : List Token.Kind}
    {others : List (List Token.Kind)} (hfirst : Chain first)
    (hothers : ∀ other ∈ others, Chain other) :
    Chain (first ++ others.flatMap (.connective joint :: ·)) := by
  induction others generalizing first with
  | nil => simpa using hfirst
  | cons other others ih =>
      rw [List.forall_mem_cons] at hothers
      rw [List.flatMap_cons, List.cons_append]
      exact hfirst.append joint (ih hothers.1 hothers.2)

private theorem Derives.chain_of_conjunct {word : List Token.Kind}
    (hword : Derives .conjunct word) : Chain word := by
  cases hword with
  | conjunct hfirst hothers =>
      exact chain_join (.last hfirst) fun other hother => .last (hothers other hother)

private theorem Derives.sentence_of_disjunct {word : List Token.Kind}
    (hword : Derives .disjunct word) : Derives .sentence word := by
  have hconjunct : Derives .conjunct (word ++ ([] : List (List Token.Kind)).flatMap _) :=
    .conjunct hword (by simp)
  have hsentence : Derives .sentence (_ ++ ([] : List (List Token.Kind)).flatMap _) :=
    .sentence hconjunct (by simp)
  simpa using hsentence

/-- One more disjunct in front: a new conjunct, or part of the first one. -/
private theorem Derives.sentence_cons {word rest : List Token.Kind} (joint : Connective)
    (hword : Derives .disjunct word) (hrest : Derives .sentence rest) :
    Derives .sentence (word ++ .connective joint :: rest) := by
  cases hrest with
  | @sentence first others hfirst hothers =>
      cases joint with
      | and =>
          have hconjunct : Derives .conjunct (word ++ ([] : List (List Token.Kind)).flatMap _) :=
            .conjunct hword (by simp)
          have hsentence := Derives.sentence hconjunct
            (List.forall_mem_cons.mpr ⟨hfirst, hothers⟩)
          simpa using hsentence
      | or =>
          cases hfirst with
          | @conjunct head tail hhead htail =>
              have hconjunct := Derives.conjunct hword
                (List.forall_mem_cons.mpr ⟨hhead, htail⟩)
              have hsentence := Derives.sentence hconjunct hothers
              simpa using hsentence

/-- Which connectives stand between the disjuncts of a sentence is free. -/
theorem derives_sentence_iff_chain {word : List Token.Kind} :
    Derives .sentence word ↔ Chain word := by
  constructor
  · intro hword
    cases hword with
    | sentence hfirst hothers =>
        exact chain_join hfirst.chain_of_conjunct fun other hother =>
          (hothers other hother).chain_of_conjunct
  · intro hword
    induction hword with
    | last hword => exact hword.sentence_of_disjunct
    | more joint hword _ ih => exact .sentence_cons joint hword ih

/-! ## Ranges of derived kinds -/

private theorem balanced_of_map_eq_join {joint : Connective} {first : List Token.Kind}
    {others : List (List Token.Kind)}
    (hfirst : ∀ tokens, tokens.map Token.kind = first → Balanced tokens)
    (hothers : ∀ other ∈ others, ∀ tokens, tokens.map Token.kind = other → Balanced tokens)
    {tokens : List Token}
    (htokens : tokens.map Token.kind = first ++ others.flatMap (.connective joint :: ·)) :
    Balanced tokens := by
  induction others generalizing first tokens with
  | nil => exact hfirst tokens (by simpa using htokens)
  | cons other others ih =>
      rw [List.forall_mem_cons] at hothers
      obtain ⟨head, tail, rfl, hhead, htail⟩ := List.map_eq_append_iff.mp htokens
      rw [List.flatMap_cons, List.cons_append] at htail
      obtain ⟨separator, rest, rfl, hkind, hrest⟩ := List.map_eq_cons_iff.mp htail
      exact (hfirst head hhead).append
        (.single (weight_of_connective hkind) (ih hothers.1 hothers.2 hrest))

private theorem exists_of_map_eq_enclosed {tokens : List Token} {word : List Token.Kind}
    (htokens : tokens.map Token.kind = .opening :: (word ++ [.closing])) :
    ∃ opening inner closing, opening.kind = .opening ∧ closing.kind = .closing ∧
      inner.map Token.kind = word ∧ tokens = opening :: (inner ++ [closing]) := by
  obtain ⟨opening, rest, rfl, hopening, hrest⟩ := List.map_eq_cons_iff.mp htokens
  obtain ⟨inner, last, rfl, hinner, hlast⟩ := List.map_eq_append_iff.mp hrest
  obtain ⟨closing, rfl, hclosing⟩ := List.map_eq_singleton_iff.mp hlast
  exact ⟨opening, inner, closing, hopening, hclosing, hinner, rfl⟩

/-- Every range of derived kinds is balanced. -/
theorem Derives.balanced {category : Category} {word : List Token.Kind}
    (hword : Derives category word) {tokens : List Token}
    (htokens : tokens.map Token.kind = word) : Balanced tokens := by
  induction hword generalizing tokens with
  | sentence _ _ ihFirst ihOthers | conjunct _ _ ihFirst ihOthers =>
      exact balanced_of_map_eq_join (fun _ => ihFirst) (fun other hother _ => ihOthers other hother)
        htokens
  | literal _ ih => exact ih htokens
  | group _ ih | enclosedAtom _ ih =>
      obtain ⟨opening, inner, closing, hopening, hclosing, hinner, rfl⟩ :=
        exists_of_map_eq_enclosed htokens
      exact .enclose hopening hclosing (ih hinner)
  | «variable» | atom =>
      obtain ⟨token, rfl, hkind⟩ := List.map_eq_singleton_iff.mp htokens
      exact .single (by simp [weight, hkind]) .empty
  | negation _ ih =>
      obtain ⟨token, rest, rfl, hkind, hrest⟩ := List.map_eq_cons_iff.mp htokens
      exact .single (by simp [weight, hkind]) (ih hrest)

private theorem Derives.closed_of_atom {word : List Token.Kind} (hword : Derives .atom word)
    {tokens : List Token} (htokens : tokens.map Token.kind = word) : Closed tokens := by
  cases hword with
  | atom =>
      obtain ⟨token, rfl, hkind⟩ := List.map_eq_singleton_iff.mp htokens
      exact closed_variable hkind
  | enclosedAtom hword =>
      obtain ⟨opening, inner, closing, hopening, hclosing, hinner, rfl⟩ :=
        exists_of_map_eq_enclosed htokens
      exact closed_enclose hopening hclosing (hword.balanced hinner)

/-- A disjunct has no connective outside its groups. -/
theorem Derives.closed {word : List Token.Kind} (hword : Derives .disjunct word)
    {tokens : List Token} (htokens : tokens.map Token.kind = word) : Closed tokens := by
  cases hword with
  | literal hword =>
      cases hword with
      | «variable» =>
          obtain ⟨token, rfl, hkind⟩ := List.map_eq_singleton_iff.mp htokens
          exact closed_variable hkind
      | negation hword =>
          obtain ⟨token, rest, rfl, hkind, hrest⟩ := List.map_eq_cons_iff.mp htokens
          exact (hword.closed_of_atom hrest).negation hkind
  | group hword =>
      obtain ⟨opening, inner, closing, hopening, hclosing, hinner, rfl⟩ :=
        exists_of_map_eq_enclosed htokens
      exact closed_enclose hopening hclosing (hword.balanced hinner)

/-- The operands of a connective in a chain are chains. -/
private theorem Chain.of_mem_allOperands {word : List Token.Kind} (hword : Chain word)
    {tokens : List Token} (htokens : tokens.map Token.kind = word) (joint : Connective)
    {part : List Token} (hpart : part ∈ allOperands joint tokens) :
    Chain (part.map Token.kind) := by
  induction hword generalizing tokens part with
  | last hword =>
      have hclosed := hword.closed htokens
      rw [allOperands, operands_eq_self (hclosed.not_joins joint), List.mem_singleton] at hpart
      rw [hpart, htokens]
      exact .last hword
  | more joint' hword _ ih =>
      obtain ⟨first, tail, rfl, hfirst, htail⟩ := List.map_eq_append_iff.mp htokens
      obtain ⟨separator, rest, rfl, hkind, hrest⟩ := List.map_eq_cons_iff.mp htail
      have hclosed := hword.closed hfirst
      have hweight := weight_of_connective hkind
      have huncut := operands_eq_self (hclosed.not_joins joint)
      unfold allOperands at hpart ih
      rcases eq_or_ne joint' joint with rfl | hother
      · -- the connective after the first disjunct cuts, so the disjunct is a part
        rw [operands, split_append_separator hclosed.balanced huncut hweight
          (decide_eq_true hkind)] at hpart
        rcases List.mem_cons.mp hpart with rfl | hpart
        · exact hfirst ▸ .last hword
        · exact ih hrest hpart
      · -- it does not, so the disjunct goes in front of the first part of the rest
        rw [operands, split_append hclosed.balanced huncut,
          split_cons_of_not_separates hweight (by simp [hkind, hother])] at hpart
        rcases List.mem_cons.mp hpart with rfl | hpart
        · rw [List.map_append, List.map_cons, hfirst, hkind]
          exact .more joint' hword (ih hrest List.mem_cons_self)
        · exact ih hrest (List.mem_cons_of_mem _ hpart)

private theorem chain_rejoin {joint : Connective} {first : List Token}
    {others : List (Token × List Token)} (hfirst : Chain (first.map Token.kind))
    (hothers : ∀ part ∈ others.map Prod.snd, Chain (part.map Token.kind))
    (hseparators : ∀ other ∈ others, other.1.kind = .connective joint) :
    Chain ((rejoin first others).map Token.kind) := by
  induction others generalizing first with
  | nil => simpa using hfirst
  | cons other others ih =>
      obtain ⟨separator, second⟩ := other
      rw [List.map_cons, List.forall_mem_cons] at hothers
      rw [List.forall_mem_cons] at hseparators
      rw [rejoin_cons, List.map_append, List.map_cons, hseparators.1]
      exact hfirst.append joint (ih hothers.1 hothers.2 hseparators.2)

/-- A range is a chain if and only if the operands of a connective in it are. -/
theorem chain_iff_forall_allOperands (joint : Connective) (tokens : List Token) :
    Chain (tokens.map Token.kind) ↔
      ∀ part ∈ allOperands joint tokens, Chain (part.map Token.kind) := by
  constructor
  · intro hchain part hpart
    exact hchain.of_mem_allOperands rfl joint hpart
  · intro hparts
    obtain ⟨others, hothers, hseparators, hjoin⟩ :=
      exists_rejoin_split (fun kind => decide (kind = .connective joint)) tokens
    rw [allOperands, operands, ← hothers, List.forall_mem_cons] at hparts
    rw [hjoin]
    exact chain_rejoin hparts.1 hparts.2 fun other hother =>
      of_decide_eq_true (hseparators other hother)

/-- A pair around a range changes nothing of whether it is a chain. -/
private theorem chain_enclose_iff {opening closing : Token} {inner : List Token}
    (hopening : opening.kind = .opening) (hclosing : closing.kind = .closing)
    (hinner : Balanced inner) :
    Chain ((opening :: (inner ++ [closing])).map Token.kind) ↔ Chain (inner.map Token.kind) := by
  have hkinds : (opening :: (inner ++ [closing])).map Token.kind =
      .opening :: (inner.map Token.kind ++ [.closing]) := by
    simp [hopening, hclosing]
  constructor
  · intro hchain
    generalize hword : (opening :: (inner ++ [closing])).map Token.kind = word at hchain
    cases hchain with
    | last hdisjunct =>
        rw [hkinds] at hword
        cases hdisjunct with
        | literal hliteral => cases hliteral <;> simp at hword
        | group hsentence =>
            rw [List.cons.injEq, List.append_left_inj] at hword
            exact hword.2 ▸ derives_sentence_iff_chain.mp hsentence
    | more joint hdisjunct _ =>
        -- the connective would stand outside the group that is the whole range
        obtain ⟨first, tail, hsplit, hfirst, htail⟩ := List.map_eq_append_iff.mp hword
        obtain ⟨separator, rest, rfl, hkind, -⟩ := List.map_eq_cons_iff.mp htail
        have hclosed := hdisjunct.closed hfirst
        have hgroup := operands_eq_self (not_joins_enclose joint hopening hclosing hinner)
        rw [hsplit, operands, split_append_separator hclosed.balanced
          (operands_eq_self (hclosed.not_joins joint)) (weight_of_connective hkind)
          (decide_eq_true hkind)] at hgroup
        simp at hgroup
  · intro hchain
    rw [hkinds]
    exact .last (.group (derives_sentence_iff_chain.mpr hchain))

theorem chain_iff_of_strip?_eq_some {tokens inner : List Token} (hbalanced : Balanced tokens)
    (hstrip : strip? tokens = some inner) :
    Chain (tokens.map Token.kind) ↔ Chain (inner.map Token.kind) := by
  refine hbalanced.strip_induction (motive := fun tokens =>
    Chain (tokens.map Token.kind) ↔ Chain (inner.map Token.kind)) hstrip Iff.rfl ?_
  intro opening closing next hopening hclosing hnext ih
  exact (chain_enclose_iff hopening hclosing hnext).trans ih

/-- A range that nothing encloses and nothing joins is a chain only as a literal. -/
theorem chain_iff_literal {tokens : List Token} (hbare : enclosure tokens = .bare)
    (hjoins : ∀ joint, joins joint tokens = false) :
    Chain (tokens.map Token.kind) ↔ Derives .literal (tokens.map Token.kind) := by
  constructor
  · intro hchain
    generalize hword : tokens.map Token.kind = word at hchain
    cases hchain with
    | last hdisjunct =>
        cases hdisjunct with
        | literal hliteral => exact hliteral
        | group hsentence =>
            -- the range would be enclosed by the parentheses of the group
            obtain ⟨opening, inner, closing, hopening, hclosing, hinner, rfl⟩ :=
              exists_of_map_eq_enclosed hword
            simp [enclosure_enclose hopening hclosing (hsentence.balanced hinner)] at hbare
    | more joint hdisjunct _ =>
        obtain ⟨first, tail, rfl, hfirst, htail⟩ := List.map_eq_append_iff.mp hword
        obtain ⟨separator, rest, rfl, hkind, -⟩ := List.map_eq_cons_iff.mp htail
        have hclosed := hdisjunct.closed hfirst
        have huncut := joins_eq_false_iff.mp (hjoins joint)
        rw [operands, split_append_separator hclosed.balanced
          (operands_eq_self (hclosed.not_joins joint)) (weight_of_connective hkind)
          (decide_eq_true hkind)] at huncut
        simp at huncut
  · intro hliteral
    exact .last (.literal hliteral)

/-! ## Literals -/

private theorem Derives.strip?_of_atom {category : Category} {word : List Token.Kind}
    (hword : Derives category word) (hatom : category = .atom) {tokens : List Token}
    (htokens : tokens.map Token.kind = word) :
    ∃ token, strip? tokens = some [token] ∧ token.kind = .variable := by
  induction hword generalizing tokens with
  | atom =>
      obtain ⟨token, rfl, hkind⟩ := List.map_eq_singleton_iff.mp htokens
      exact ⟨token, strip?_of_bare (enclosure_of_kind_ne_opening (by simp [hkind]) []), hkind⟩
  | enclosedAtom hword ih =>
      obtain ⟨opening, inner, closing, hopening, hclosing, hinner, rfl⟩ :=
        exists_of_map_eq_enclosed htokens
      rw [strip?_enclose hopening hclosing (hword.balanced hinner)]
      exact ih rfl hinner
  | sentence | conjunct | literal | group | «variable» | negation => simp at hatom

private theorem derives_atom_of_wraps {token : Token} (hkind : token.kind = .variable)
    {tokens inner : List Token} (hwraps : Wraps tokens inner) (hinner : inner = [token]) :
    Derives .atom (tokens.map Token.kind) := by
  induction hwraps with
  | bare =>
      rw [hinner, List.map_singleton, hkind]
      exact .atom
  | pair hopening hclosing _ ih =>
      rw [List.map_cons, List.map_append, List.map_singleton, hopening, hclosing]
      exact .enclosedAtom (ih hinner)

/-- An atom is a variable with some pairs around it. -/
theorem derives_atom_iff {tokens : List Token} :
    Derives .atom (tokens.map Token.kind) ↔
      ∃ token, strip? tokens = some [token] ∧ token.kind = .variable := by
  constructor
  · intro hword
    exact hword.strip?_of_atom rfl rfl
  · rintro ⟨token, hstrip, hkind⟩
    exact derives_atom_of_wraps hkind (wraps_of_strip?_eq_some hstrip) rfl

private theorem derives_literal_cons_iff {first : Token.Kind} {rest : List Token.Kind} :
    Derives .literal (first :: rest) ↔
      (first = .not ∧ Derives .atom rest) ∨ (first = .variable ∧ rest = []) := by
  constructor
  · intro hword
    cases hword with
    | «variable» => exact Or.inr ⟨rfl, rfl⟩
    | negation hword => exact Or.inl ⟨rfl, hword⟩
  · rintro (⟨rfl, hword⟩ | ⟨rfl, rfl⟩)
    · exact .negation hword
    · exact .variable

end Grammar

/-! ## What is read -/

theorem Token.isSome_letter?_iff (token : Token) :
    token.letter?.isSome ↔ token.kind = .variable := by
  have hsymbols : (Kind.ofSymbol token.symbol = .variable) ↔
      (token.symbol.isAlpha = true ∧ token.symbol ≠ Connective.or.symbol) := by
    unfold Kind.ofSymbol
    split_ifs with hnot hor hand hopening hclosing halpha <;>
      simp_all [negationSymbol, Connective.symbol]
  rw [Token.kind, hsymbols, Token.letter?]
  by_cases hletter : token.symbol.isAlpha = true ∧ token.symbol ≠ Connective.or.symbol
  · rw [dif_pos hletter]
    exact iff_of_true rfl hletter
  · rw [dif_neg hletter]
    exact iff_of_false Bool.false_ne_true hletter

namespace Reading

open Grouping Grammar

variable {text : List Char}

private theorem succeeds_atom_iff {negated : Bool} {tokens : List Token} :
    (atom text negated tokens).Succeeds ↔ ∃ token, tokens = [token] ∧ token.kind = .variable := by
  rcases tokens with _ | ⟨token, _ | ⟨second, rest⟩⟩
  · simp [atom, not_succeeds_fail]
  · have hletter := token.isSome_letter?_iff
    cases hcase : token.letter? with
    | some letter =>
        rw [hcase] at hletter
        simp [atom, hcase, settle, Succeeds, hletter.mp rfl]
    | none =>
        rw [hcase] at hletter
        have hkind : token.kind ≠ .variable := fun hkind => by simpa using hletter.mpr hkind
        simp [atom, hcase, not_succeeds_fail, hkind]
  · simp [atom, not_succeeds_fail]

/-- A range is read as a literal if and only if it is derived as one. -/
theorem succeeds_literal_iff {tokens : List Token} (hbalanced : Balanced tokens)
    (context : List Token) :
    (literal text tokens context).Succeeds ↔ Derives .literal (tokens.map Token.kind) := by
  cases tokens with
  | nil =>
      refine iff_of_false (not_succeeds_fail _) ?_
      intro hword
      cases hword
  | cons first rest =>
      rw [literal, List.map_cons, derives_literal_cons_iff]
      by_cases hnot : first.kind = .not
      · have hrest := hbalanced.of_cons (by simp [weight, hnot])
        obtain ⟨inner, hstrip, -⟩ := hrest.exists_strip?_eq_some
        rw [if_pos hnot, strip_eq_pure hstrip, pure_bind, derives_atom_iff, hstrip]
        cases inner with
        | nil => simp [not_succeeds_fail, hnot]
        | cons head tail => simp [succeeds_atom_iff, hnot]
      · rw [if_neg hnot, succeeds_atom_iff]
        cases rest <;> simp [hnot]

/-- At either level a balanced range is read if and only if it is derived. -/
theorem succeeds_atLevel_iff (level : Connective) {tokens : List Token}
    (hbalanced : Balanced tokens) (context : List Token) :
    (atLevel text level tokens context).Succeeds ↔
      Derives .sentence (tokens.map Token.kind) := by
  rw [derives_sentence_iff_chain]
  induction level, tokens using level_induction generalizing context with
  | step level tokens ih =>
      obtain ⟨inner, hstrip, hinner⟩ := hbalanced.exists_strip?_eq_some
      rw [chain_iff_of_strip?_eq_some hbalanced hstrip]
      cases hjoint : jointAt level inner with
      | some joint =>
          rw [atLevel_of_jointAt_eq_some hstrip hjoint, succeeds_joined,
            chain_iff_forall_allOperands joint]
          exact forall₂_congr fun part hpart =>
            ih inner joint hstrip hjoint part hpart (hinner.of_mem_allOperands hpart) inner
      | none =>
          have hcompound : isCompound inner = false := by
            rw [isCompound_eq_isSome_jointAt level, hjoint, Option.isSome_none]
          have hjoins : ∀ joint, joins joint inner = false := by
            simp only [isCompound, Bool.or_eq_false_iff] at hcompound
            intro joint
            cases joint
            exacts [hcompound.2, hcompound.1]
          rw [atLevel_of_jointAt_eq_none hstrip hjoint, succeeds_map,
            chain_iff_literal (enclosure_of_strip?_eq_some hstrip) hjoins,
            succeeds_literal_iff hinner]

end Reading

/-- **A text has a reading if and only if the grammar derives its kinds of tokens.** -/
theorem Sentence.exists_read_iff_derives (text : String) :
    (∃ sentence, (Sentence.read text).result = .ok sentence) ↔
      Grammar.Derives .sentence ((Token.scan text).map Token.kind) := by
  change (Sentence.read text).Succeeds ↔ _
  rw [Sentence.read_eq]
  by_cases hbalanced : Grouping.Balanced (Token.scan text)
  · rw [Reading.balanced_of_balanced hbalanced, Reading.succeeds_atLevel_iff .and hbalanced]
  · obtain ⟨fault, hfault⟩ := Reading.balanced_of_not_balanced hbalanced _
    rw [hfault]
    exact iff_of_false (Reading.not_succeeds_fail _) fun hword => hbalanced (hword.balanced rfl)

end Clausal
