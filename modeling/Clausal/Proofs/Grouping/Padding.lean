import Clausal.Proofs.Grouping.Relabelling
import Clausal.Proofs.Grouping.Surroundings
import Mathlib.Data.List.Forall2

/-!
# Redundant parentheses

`Redundant before run after` lists the places where a pair of parentheses around `run`
changes nothing of what a text is read as.  A pair that is added there stays visible for a
while: the range that holds it is cut into operands and its enclosing pairs are taken away,
until the pair is an enclosing one itself.  `Padded` relates the ranges on the way, and it is
kept by both operations (`Padded.exists_strip?`, `Padded.forall₂_allOperands`).

One place is not of this kind.  A conjunct of the whole text may hold `v` outside its groups,
which a pair around it would hide, so a range with such a pair is related to the one without
only where it is cut at `^` (`Redundant.padded_or_conjuncts`).
-/

namespace Clausal

namespace Grouping

variable {joint : Connective}

/-! ## Pairs of parentheses -/

/-- The second range is the first in a pair of parentheses. -/
inductive Encloses (inner : List Token) : List Token → Prop
  | pair {opening closing : Token} (hopening : opening.kind = .opening)
      (hclosing : closing.kind = .closing) : Encloses inner (opening :: (inner ++ [closing]))

namespace Encloses

variable {inner grouped : List Token} (hpair : Encloses inner grouped)
include hpair

theorem two_le_length : 2 ≤ grouped.length := by
  cases hpair
  simp

theorem ne_nil : grouped ≠ [] := by
  cases hpair
  exact List.cons_ne_nil _ _

theorem closed (hinner : Balanced inner) : Closed grouped := by
  obtain ⟨hopening, hclosing⟩ := hpair
  exact closed_enclose hopening hclosing hinner

theorem enclosure_eq (hinner : Balanced inner) : enclosure grouped = .pair inner := by
  obtain ⟨hopening, hclosing⟩ := hpair
  exact enclosure_enclose hopening hclosing hinner

theorem strip?_eq (hinner : Balanced inner) : strip? grouped = strip? inner :=
  strip?_of_pair (hpair.enclosure_eq hinner)

end Encloses

/-! ## The ends of a range -/

/-- The range is empty, or its last token is of a kind that is accepted. -/
def EndsWith (accepts : Token.Kind → Prop) (tokens : List Token) : Prop :=
  ∀ token ∈ tokens.getLast?, accepts token.kind

/-- The range is empty, or its first token is of a kind that is accepted. -/
def BeginsWith (accepts : Token.Kind → Prop) (tokens : List Token) : Prop :=
  ∀ token ∈ tokens.head?, accepts token.kind

section Ends

variable {accepts : Token.Kind → Prop} {front back before after : List Token}

theorem EndsWith.of_isSuffix (hbefore : EndsWith accepts before) (htrailing : front <:+ before) :
    EndsWith accepts front := by
  intro token htoken
  obtain ⟨start, rfl⟩ := htrailing
  have hnonempty : front ≠ [] := by
    rintro rfl
    simp at htoken
  apply hbefore
  rwa [List.getLast?_append_of_ne_nil _ hnonempty]

theorem BeginsWith.of_isPrefix (hafter : BeginsWith accepts after) (hleading : back <+: after) :
    BeginsWith accepts back := by
  intro token htoken
  obtain ⟨rest, rfl⟩ := hleading
  cases back with
  | nil => simp at htoken
  | cons first back => exact hafter token htoken

theorem EndsWith.map {relabel : Token → Token} (hkeeps : Token.KeepsSymbols relabel)
    (hbefore : EndsWith accepts before) : EndsWith accepts (before.map relabel) := by
  intro token htoken
  rw [List.getLast?_map, Option.mem_def, Option.map_eq_some_iff] at htoken
  obtain ⟨last, hlast, rfl⟩ := htoken
  rw [hkeeps.kind_eq]
  exact hbefore last hlast

theorem BeginsWith.map {relabel : Token → Token} (hkeeps : Token.KeepsSymbols relabel)
    (hafter : BeginsWith accepts after) : BeginsWith accepts (after.map relabel) := by
  intro token htoken
  rw [List.head?_map, Option.mem_def, Option.map_eq_some_iff] at htoken
  obtain ⟨first, hfirst, rfl⟩ := htoken
  rw [hkeeps.kind_eq]
  exact hafter first hfirst

/-- A connective at the end of a balanced range stands outside its groups. -/
theorem Balanced.joins_of_mem_getLast? (hfront : Balanced front) {token : Token}
    (htoken : token ∈ front.getLast?) (hkind : token.kind = .connective joint)
    (rest : List Token) : joins joint (front ++ rest) = true := by
  rw [joins_eq_true_iff_standsOutside]
  obtain ⟨start, rfl⟩ := List.getLast?_eq_some_iff.mp htoken
  refine ⟨start, token, rest, by simp, ?_, hkind⟩
  have hdepth := hfront.depth_eq_zero
  rw [depth_append, depth_cons, weight_of_connective hkind, depth_nil] at hdepth
  omega

/-- A connective after a balanced range stands outside its groups. -/
theorem Balanced.joins_of_mem_head? (hfront : Balanced front) {token : Token}
    (htoken : token ∈ back.head?) (hkind : token.kind = .connective joint) :
    joins joint (front ++ back) = true := by
  rw [joins_eq_true_iff_standsOutside]
  obtain ⟨rest, rfl⟩ := List.head?_eq_some_iff.mp htoken
  exact ⟨front, token, rest, rfl, hfront.depth_eq_zero, hkind⟩

/-- A balanced range is joined by what its surroundings end with, if that is a connective. -/
theorem exists_kind_of_ends {middle : List Token} (hfront : Balanced front)
    (hmiddle : Balanced middle) (hlast : EndsWith accepts front) (hfirst : BeginsWith accepts back)
    (hnonempty : front ≠ [] ∨ back ≠ []) :
    ∃ kind, accepts kind ∧ ∀ joint, kind = .connective joint →
      joins joint (front ++ (middle ++ back)) = true := by
  rcases hnonempty with hnonempty | hnonempty
  · have htoken := List.getLast?_eq_some_getLast hnonempty
    exact ⟨_, hlast _ htoken, fun _ hkind => hfront.joins_of_mem_getLast? htoken hkind _⟩
  · have htoken := List.head?_eq_some_head hnonempty
    refine ⟨_, hfirst _ htoken, fun _ hkind => ?_⟩
    rw [← List.append_assoc]
    exact (hfront.append hmiddle).joins_of_mem_head? htoken hkind

theorem exists_joins_of_ends {middle : List Token} (hfront : Balanced front)
    (hmiddle : Balanced middle)
    (hlast : EndsWith (fun kind => ∃ joint, kind = .connective joint) front)
    (hfirst : BeginsWith (fun kind => ∃ joint, kind = .connective joint) back)
    (hnonempty : front ≠ [] ∨ back ≠ []) :
    ∃ joint, joins joint (front ++ (middle ++ back)) = true := by
  obtain ⟨_, ⟨joint, hkind⟩, hjoins⟩ := exists_kind_of_ends hfront hmiddle hlast hfirst hnonempty
  exact ⟨joint, hjoins joint hkind⟩

end Ends

/-! ## Padded ranges -/

/-- The second range is the first, with one pair of parentheses more at a place where it is
redundant at every level, or without one. -/
inductive Padded : List Token → List Token → Prop
  | same {tokens : List Token} (hbalanced : Balanced tokens) : Padded tokens tokens
  /-- The pair is around the whole range. -/
  | whole {tokens grouped : List Token} (hbalanced : Balanced tokens)
      (hpair : Encloses tokens grouped) : Padded tokens grouped
  /-- The pair is inside of a group. -/
  | group {front inner inner' grouped grouped' back : List Token} (hfront : Balanced front)
      (hinner : Padded inner inner') (hpair : Encloses inner grouped)
      (hpair' : Encloses inner' grouped') (hback : Balanced back) :
      Padded (front ++ (grouped ++ back)) (front ++ (grouped' ++ back))
  /-- The pair is around an operand that is not joined itself. -/
  | operand {front run grouped back : List Token} (hfront : Balanced front)
      (hlast : EndsWith (fun kind => ∃ joint, kind = .connective joint) front)
      (hrun : Closed run) (hpair : Encloses run grouped) (hback : Balanced back)
      (hfirst : BeginsWith (fun kind => ∃ joint, kind = .connective joint) back) :
      Padded (front ++ (run ++ back)) (front ++ (grouped ++ back))
  /-- The pair is around a variable that is negated. -/
  | negated {front grouped back : List Token} {negation letter : Token} (hfront : Balanced front)
      (hnot : negation.kind = .not) (hvariable : letter.kind = .variable)
      (hpair : Encloses [letter] grouped) (hback : Balanced back) :
      Padded (front ++ ([negation, letter] ++ back)) (front ++ ((negation :: grouped) ++ back))

theorem Padded.balanced {tokens tokens' : List Token} (hpadded : Padded tokens tokens') :
    Balanced tokens ∧ Balanced tokens' := by
  induction hpadded with
  | same hbalanced => exact ⟨hbalanced, hbalanced⟩
  | whole hbalanced hpair => exact ⟨hbalanced, (hpair.closed hbalanced).balanced⟩
  | group hfront _ hpair hpair' hback ih =>
      exact ⟨hfront.append ((hpair.closed ih.1).balanced.append hback),
        hfront.append ((hpair'.closed ih.2).balanced.append hback)⟩
  | operand hfront _ hrun hpair hback _ =>
      exact ⟨hfront.append (hrun.balanced.append hback),
        hfront.append ((hpair.closed hrun.balanced).balanced.append hback)⟩
  | negated hfront hnot hvariable hpair hback =>
      have hclosed := closed_variable hvariable
      exact ⟨hfront.append ((hclosed.negation hnot).balanced.append hback),
        hfront.append (((hpair.closed hclosed.balanced).negation hnot).balanced.append hback)⟩

/-- Nothing encloses a range that goes on before or after a group. -/
private theorem enclosure_around {front middle back : List Token} (hfront : Balanced front)
    (hmiddle : Balanced middle) (hnonempty : middle ≠ []) (houter : front ≠ [] ∨ back ≠ []) :
    enclosure (front ++ (middle ++ back)) = .bare := by
  rcases eq_or_ne front [] with rfl | hfrontNonempty
  · exact hmiddle.enclosure_append hnonempty (houter.resolve_left (by simp))
  · exact hfront.enclosure_append hfrontNonempty (List.append_ne_nil_of_left_ne_nil hnonempty back)

private theorem enclosure_negation {front rest : List Token} {negation : Token}
    (hfront : Balanced front) (hnot : negation.kind = .not) :
    enclosure (front ++ negation :: rest) = .bare := by
  rcases eq_or_ne front [] with rfl | hnonempty
  · exact enclosure_of_kind_ne_opening (by simp [hnot]) rest
  · exact hfront.enclosure_append hnonempty (List.cons_ne_nil _ _)

/-- Taking the enclosing pairs away keeps ranges padded. -/
theorem Padded.exists_strip? {tokens tokens' : List Token} (hpadded : Padded tokens tokens') :
    ∃ inner inner', strip? tokens = some inner ∧ strip? tokens' = some inner' ∧
      Padded inner inner' := by
  induction hpadded with
  | same hbalanced =>
      obtain ⟨inner, hstrip, hinner⟩ := hbalanced.exists_strip?_eq_some
      exact ⟨inner, inner, hstrip, hstrip, .same hinner⟩
  | whole hbalanced hpair =>
      obtain ⟨inner, hstrip, hinner⟩ := hbalanced.exists_strip?_eq_some
      exact ⟨inner, inner, hstrip, (hpair.strip?_eq hbalanced).trans hstrip, .same hinner⟩
  | @group front inner inner' grouped grouped' back hfront hinner hpair hpair' hback ih =>
      obtain ⟨hbalanced, hbalanced'⟩ := hinner.balanced
      by_cases houter : front ≠ [] ∨ back ≠ []
      · refine ⟨_, _, strip?_of_bare ?_, strip?_of_bare ?_, .group hfront hinner hpair hpair' hback⟩
        · exact enclosure_around hfront (hpair.closed hbalanced).balanced hpair.ne_nil houter
        · exact enclosure_around hfront (hpair'.closed hbalanced').balanced hpair'.ne_nil houter
      · -- the group is the whole range, and what is inside is taken out
        obtain ⟨rfl, rfl⟩ : front = [] ∧ back = [] := by simpa using houter
        rw [List.nil_append, List.nil_append, List.append_nil, List.append_nil,
          hpair.strip?_eq hbalanced, hpair'.strip?_eq hbalanced']
        exact ih
  | @operand front run grouped back hfront hlast hrun hpair hback hfirst =>
      have hgrouped := hpair.closed hrun.balanced
      by_cases houter : front ≠ [] ∨ back ≠ []
      · obtain ⟨joint, hjoins⟩ := exists_joins_of_ends hfront hrun.balanced hlast hfirst houter
        obtain ⟨joint', hjoins'⟩ :=
          exists_joins_of_ends hfront hgrouped.balanced hlast hfirst houter
        have hbalanced := hfront.append (hrun.balanced.append hback)
        have hbalanced' := hfront.append (hgrouped.balanced.append hback)
        exact ⟨_, _, hbalanced.strip?_of_joins hjoins, hbalanced'.strip?_of_joins hjoins',
          .operand hfront hlast hrun hpair hback hfirst⟩
      · obtain ⟨rfl, rfl⟩ : front = [] ∧ back = [] := by simpa using houter
        obtain ⟨inner, hstrip, hinner⟩ := hrun.balanced.exists_strip?_eq_some
        rw [List.nil_append, List.nil_append, List.append_nil, List.append_nil,
          hpair.strip?_eq hrun.balanced]
        exact ⟨inner, inner, hstrip, hstrip, .same hinner⟩
  | negated hfront hnot hvariable hpair hback =>
      exact ⟨_, _, strip?_of_bare (enclosure_negation hfront hnot),
        strip?_of_bare (enclosure_negation hfront hnot),
        .negated hfront hnot hvariable hpair hback⟩

/-- Operands around one place that are the same but for the one at the place. -/
private theorem CutAround.forall₂_padded {before after last first part part' : List Token}
    {init others : List (List Token)} (hcut : CutAround joint before after init last first others)
    (hpart : Padded part part') :
    List.Forall₂ Padded (init ++ part :: others) (init ++ part' :: others) := by
  apply List.rel_append
  · rw [List.forall₂_same]
    exact fun operand hoperand => .same (hcut.init_balanced operand hoperand)
  · apply List.Forall₂.cons hpart
    rw [List.forall₂_same]
    exact fun operand hoperand => .same (hcut.others_balanced operand hoperand)

/-- An operand in parentheses that nothing else encloses is joined to another, with and without
them. -/
theorem exists_joins_of_operand {front run grouped back : List Token} (hfront : Balanced front)
    (hlast : EndsWith (fun kind => ∃ joint, kind = .connective joint) front)
    (hrun : Balanced run) (hpair : Encloses run grouped)
    (hfirst : BeginsWith (fun kind => ∃ joint, kind = .connective joint) back)
    (hbare : enclosure (front ++ (grouped ++ back)) = .bare) :
    (∃ joint, joins joint (front ++ (run ++ back)) = true) ∧
      ∃ joint, joins joint (front ++ (grouped ++ back)) = true := by
  have houter : front ≠ [] ∨ back ≠ [] := by
    by_contra hneither
    obtain ⟨rfl, rfl⟩ : front = [] ∧ back = [] := by simpa using hneither
    rw [List.nil_append, List.append_nil, hpair.enclosure_eq hrun] at hbare
    cases hbare
  exact ⟨exists_joins_of_ends hfront hrun hlast hfirst houter,
    exists_joins_of_ends hfront (hpair.closed hrun).balanced hlast hfirst houter⟩

/-- Cutting at a connective keeps ranges padded. -/
theorem Padded.forall₂_allOperands {tokens tokens' : List Token} (hpadded : Padded tokens tokens')
    (hbare : enclosure tokens' = .bare) (joint : Connective) :
    List.Forall₂ Padded (allOperands joint tokens) (allOperands joint tokens') := by
  cases hpadded with
  | same hbalanced =>
      rw [List.forall₂_same]
      exact fun part hpart => .same (hbalanced.of_mem_allOperands hpart)
  | whole hbalanced hpair => simp [hpair.enclosure_eq hbalanced] at hbare
  | group hfront hinner hpair hpair' hback =>
      have hclosed := hpair.closed hinner.balanced.1
      have hclosed' := hpair'.closed hinner.balanced.2
      obtain ⟨init, last, first, others, hcut⟩ := exists_cutAround joint hfront hback
      rw [hcut.allOperands_eq hclosed.balanced (hclosed.not_joins joint),
        hcut.allOperands_eq hclosed'.balanced (hclosed'.not_joins joint)]
      exact hcut.forall₂_padded (.group hcut.last_balanced hinner hpair hpair' hcut.first_balanced)
  | operand hfront hlast hrun hpair hback hfirst =>
      have hgrouped := hpair.closed hrun.balanced
      obtain ⟨init, last, first, others, hcut⟩ := exists_cutAround joint hfront hback
      rw [hcut.allOperands_eq hrun.balanced (hrun.not_joins joint),
        hcut.allOperands_eq hgrouped.balanced (hgrouped.not_joins joint)]
      exact hcut.forall₂_padded (.operand hcut.last_balanced (hlast.of_isSuffix hcut.last_isSuffix)
        hrun hpair hcut.first_balanced (hfirst.of_isPrefix hcut.first_isPrefix))
  | negated hfront hnot hvariable hpair hback =>
      have hclosed := (closed_variable hvariable).negation hnot
      have hclosed' := (hpair.closed (closed_variable hvariable).balanced).negation hnot
      obtain ⟨init, last, first, others, hcut⟩ := exists_cutAround joint hfront hback
      rw [hcut.allOperands_eq hclosed.balanced (hclosed.not_joins joint),
        hcut.allOperands_eq hclosed'.balanced (hclosed'.not_joins joint)]
      exact hcut.forall₂_padded
        (.negated hcut.last_balanced hnot hvariable hpair hcut.first_balanced)

/-- Ranges are padded if they are at the level of the place where they differ. -/
theorem Surrounds.padded {before after middle middle' : List Token}
    (hsurrounds : Surrounds before after)
    (hlevel : ∀ {front back}, front <:+ before → back <+: after → Balanced front → Balanced back →
      Padded (front ++ (middle ++ back)) (front ++ (middle' ++ back))) :
    Padded (before ++ (middle ++ after)) (before ++ (middle' ++ after)) := by
  induction hsurrounds with
  | level hbefore hafter => exact hlevel List.suffix_rfl List.prefix_rfl hbefore hafter
  | @group front before after back opening closing hfront hopening _ hclosing hback ih =>
      have hinner := ih fun htrailing hleading =>
        hlevel (htrailing.trans ⟨front ++ [opening], by simp⟩)
          (hleading.trans (List.prefix_append after (closing :: back)))
      simpa using Padded.group hfront hinner (.pair hopening hclosing) (.pair hopening hclosing)
        hback

/-! ## Places where a pair is redundant -/

/-- A pair of parentheses around `run` changes nothing between `before` and `after`. -/
inductive Redundant (before run after : List Token) : Prop
  /-- The run is a group already. -/
  | group {inner : List Token} (hinner : Balanced inner) (hpair : Encloses inner run)
  /-- The run is the whole text. -/
  | whole (hbefore : before = []) (hafter : after = [])
  /-- The run is all that stands between two `^` outside every group of the text, or between
  one of them and an end of the text. -/
  | conjunct (hbefore : Balanced before) (hlast : EndsWith (· = .connective .and) before)
      (hrun : Balanced run) (huncut : ¬ StandsOutside .and run) (hafter : Balanced after)
      (hfirst : BeginsWith (· = .connective .and) after)
  /-- The run is all that stands between two connectives of one group, or between one of them
  and an end of the group, in a group at any depth or outside every group. -/
  | operand (hlast : EndsWith (fun kind => kind = .opening ∨ ∃ joint, kind = .connective joint)
        before)
      (hrun : Balanced run) (huncut : ∀ joint, ¬ StandsOutside joint run)
      (hfirst : BeginsWith (fun kind => kind = .closing ∨ ∃ joint, kind = .connective joint) after)
  /-- The run is a variable after a negation. -/
  | negated {front : List Token} {negation letter : Token} (hbefore : before = front ++ [negation])
      (hnot : negation.kind = .not) (hrun : run = [letter])
      (hvariable : letter.kind = .variable)

namespace Redundant

variable {before run after : List Token}

theorem balanced_run (hredundant : Redundant before run after)
    (hbalanced : Balanced (before ++ (run ++ after))) : Balanced run := by
  cases hredundant with
  | group hinner hpair => exact (hpair.closed hinner).balanced
  | whole hbefore hafter => simpa [hbefore, hafter] using hbalanced
  | conjunct _ _ hrun => exact hrun
  | operand _ hrun => exact hrun
  | negated _ _ hrun hvariable => exact hrun ▸ (closed_variable hvariable).balanced

theorem map {relabel : Token → Token} (hkeeps : Token.KeepsSymbols relabel)
    (hredundant : Redundant before run after) :
    Redundant (before.map relabel) (run.map relabel) (after.map relabel) := by
  have hbalanced : ∀ {tokens}, Balanced tokens → Balanced (tokens.map relabel) := by
    intro tokens htokens
    apply htokens.of_symbols_eq
    rw [List.map_map]
    exact List.map_congr_left fun token _ => (hkeeps token).symm
  have huncut : ∀ {joint tokens}, ¬ StandsOutside joint tokens →
      ¬ StandsOutside joint (tokens.map relabel) := by
    intro joint tokens
    rw [← joins_eq_false_iff_not_standsOutside, ← joins_eq_false_iff_not_standsOutside,
      joins_map hkeeps]
    exact id
  cases hredundant with
  | group hinner hpair =>
      obtain ⟨hopening, hclosing⟩ := hpair
      apply group (hbalanced hinner)
      rw [List.map_cons, List.map_append, List.map_singleton]
      apply Encloses.pair
      · rw [hkeeps.kind_eq, hopening]
      · rw [hkeeps.kind_eq, hclosing]
  | whole hbefore hafter => exact whole (by simp [hbefore]) (by simp [hafter])
  | conjunct hbefore hlast hrun hcut hafter hfirst =>
      exact conjunct (hbalanced hbefore) (hlast.map hkeeps) (hbalanced hrun) (huncut hcut)
        (hbalanced hafter) (hfirst.map hkeeps)
  | operand hlast hrun hcut hfirst =>
      exact operand (hlast.map hkeeps) (hbalanced hrun) (fun joint => huncut (hcut joint))
        (hfirst.map hkeeps)
  | @negated front negation letter hbefore hnot hrun hvariable =>
      refine negated (by rw [hbefore, List.map_append, List.map_singleton]) ?_
        (by rw [hrun, List.map_singleton]) ?_
      · rw [hkeeps.kind_eq, hnot]
      · rw [hkeeps.kind_eq, hvariable]

/-- Outside every group nothing but the run is left of the operand that holds it. -/
private theorem forall₂_conjuncts {grouped : List Token} (hbefore : Balanced before)
    (hlast : EndsWith (· = .connective .and) before) (hrun : Balanced run)
    (huncut : ¬ StandsOutside .and run) (hafter : Balanced after)
    (hfirst : BeginsWith (· = .connective .and) after) (hpair : Encloses run grouped) :
    List.Forall₂ Padded (allOperands .and (before ++ (run ++ after)))
      (allOperands .and (before ++ (grouped ++ after))) := by
  have hgrouped := hpair.closed hrun
  obtain ⟨init, last, first, others, hcut⟩ := exists_cutAround .and hbefore hafter
  rw [hcut.allOperands_eq hrun (joins_eq_false_iff_not_standsOutside.mpr huncut),
    hcut.allOperands_eq hgrouped.balanced (hgrouped.not_joins .and)]
  have hlastEmpty : last = [] := by
    by_contra hnonempty
    have htoken := List.getLast?_eq_some_getLast hnonempty
    have hkind := hlast.of_isSuffix hcut.last_isSuffix _ htoken
    have hjoins := hcut.last_balanced.joins_of_mem_getLast? htoken hkind []
    rw [List.append_nil, hcut.last_not_joins] at hjoins
    exact absurd hjoins Bool.false_ne_true
  have hfirstEmpty : first = [] := by
    by_contra hnonempty
    have htoken := List.head?_eq_some_head hnonempty
    have hkind := hfirst.of_isPrefix hcut.first_isPrefix _ htoken
    have hjoins := Balanced.empty.joins_of_mem_head? htoken hkind
    rw [List.nil_append, hcut.first_not_joins] at hjoins
    exact absurd hjoins Bool.false_ne_true
  rw [hlastEmpty, hfirstEmpty, List.nil_append, List.nil_append, List.append_nil, List.append_nil]
  exact hcut.forall₂_padded (.whole hrun hpair)

/-- The ends of a range that is a piece of one level: a parenthesis there would open a group
in the range. -/
private theorem endsWith_connective {front : List Token}
    (hlast : EndsWith (fun kind => kind = .opening ∨ ∃ joint, kind = .connective joint) before)
    (htrailing : front <:+ before) (hfront : Balanced front) :
    EndsWith (fun kind => ∃ joint, kind = .connective joint) front := by
  intro token htoken
  apply (hlast.of_isSuffix htrailing token htoken).resolve_left
  exact hfront.kind_ne_opening_of_mem_getLast? htoken

private theorem beginsWith_connective {back : List Token}
    (hfirst : BeginsWith (fun kind => kind = .closing ∨ ∃ joint, kind = .connective joint) after)
    (hleading : back <+: after) (hback : Balanced back) :
    BeginsWith (fun kind => ∃ joint, kind = .connective joint) back := by
  intro token htoken
  apply (hfirst.of_isPrefix hleading token htoken).resolve_left
  exact hback.kind_ne_closing_of_mem_head? htoken

/-- A redundant pair pads the text, or the text is cut at `^` into conjuncts that it pads. -/
theorem padded_or_conjuncts {grouped : List Token} (hredundant : Redundant before run after)
    (hbalanced : Balanced (before ++ (run ++ after))) (hpair : Encloses run grouped) :
    Padded (before ++ (run ++ after)) (before ++ (grouped ++ after)) ∨
      (joins .and (before ++ (run ++ after)) = true ∧
        joins .and (before ++ (grouped ++ after)) = true ∧
        List.Forall₂ Padded (allOperands .and (before ++ (run ++ after)))
          (allOperands .and (before ++ (grouped ++ after)))) := by
  have hrun := hredundant.balanced_run hbalanced
  have hsurrounds :=
    surrounds_of_balanced_append ((balanced_append_iff hrun before after).mp hbalanced)
  cases hredundant with
  | @group inner hinner hinnerPair =>
      refine Or.inl (hsurrounds.padded fun _ _ hfront hback => ?_)
      exact .group hfront (.whole hinner hinnerPair) hinnerPair hpair hback
  | whole hbefore hafter =>
      rw [hbefore, hafter, List.nil_append, List.nil_append, List.append_nil, List.append_nil]
      exact Or.inl (.whole hrun hpair)
  | operand hlast _ huncut hfirst =>
      refine Or.inl (hsurrounds.padded fun htrailing hleading hfront hback => ?_)
      have hclosed : Closed run :=
        ⟨hrun, fun joint => joins_eq_false_iff_not_standsOutside.mpr (huncut joint)⟩
      exact .operand hfront (endsWith_connective hlast htrailing hfront) hclosed hpair hback
        (beginsWith_connective hfirst hleading hback)
  | @negated front negation letter hbefore hnot hletter hvariable =>
      subst hbefore hletter
      have hliteral := (closed_variable hvariable).negation hnot
      rw [List.append_assoc, List.singleton_append, List.singleton_append] at hbalanced ⊢
      have hplace := surrounds_of_balanced_append
        ((balanced_append_iff hliteral.balanced front after).mp hbalanced)
      rw [List.append_assoc, List.singleton_append]
      exact Or.inl (hplace.padded fun _ _ hfront hback =>
        .negated hfront hnot hvariable hpair hback)
  | conjunct hbefore hlast _ huncut hafter hfirst =>
      by_cases houter : before ≠ [] ∨ after ≠ []
      · obtain ⟨_, rfl, hjoins⟩ := exists_kind_of_ends hbefore hrun hlast hfirst houter
        obtain ⟨_, rfl, hjoins'⟩ :=
          exists_kind_of_ends hbefore (hpair.closed hrun).balanced hlast hfirst houter
        exact Or.inr ⟨hjoins .and rfl, hjoins' .and rfl,
          forall₂_conjuncts hbefore hlast hrun huncut hafter hfirst hpair⟩
      · obtain ⟨rfl, rfl⟩ : before = [] ∧ after = [] := by simpa using houter
        rw [List.nil_append, List.nil_append, List.append_nil, List.append_nil]
        exact Or.inl (.whole hrun hpair)

end Redundant

end Grouping

end Clausal
