import Clausal.Proofs.Sentence.Collapse

/-!
# The literals and nodes of a sentence

A sentence is written with one token for a variable, one for a negation and one between any
two operands of a group; parentheses apart, that is all.  This file counts those tokens from
the sentence (`Node.tokenCount`, summed over all nodes in preorder) and lists its variables
from left to right, each with whether a negation stands directly above it (`literals`).
-/

namespace Clausal

namespace Sentence

/-! ## Literals -/

mutual

/-- The variables of a sentence from left to right, each with whether it is directly under a
negation, where the sentence itself is under one or not. -/
def literalsUnder (negated : Bool) : Sentence → List (Literal Letter)
  | .variable name => [⟨negated, name⟩]
  | .negation operand => operand.literalsUnder true
  | .group _ first others => first.literalsUnder false ++ literalsOfList others

/-- The variables of a list of sentences that are under no negation. -/
def literalsOfList : List Sentence → List (Literal Letter)
  | [] => []
  | sentence :: rest => sentence.literalsUnder false ++ literalsOfList rest

end

/-- The variables of a sentence from left to right, each with whether it is directly under a
negation. -/
def literals (sentence : Sentence) : List (Literal Letter) := sentence.literalsUnder false

theorem literalsOfList_eq_flatMap (sentences : List Sentence) :
    literalsOfList sentences = sentences.flatMap literals := by
  induction sentences with
  | nil => rfl
  | cons sentence rest ih => rw [literalsOfList, List.flatMap_cons, ih, literals]

theorem literals_group (joint : Connective) (first : Sentence) (others : List Sentence) :
    literals (.group joint first others) = first.literals ++ others.flatMap literals := by
  rw [literals, literalsUnder, literalsOfList_eq_flatMap, literals]

theorem literals_ofLiteral (literal : Literal Letter) :
    (ofLiteral literal).literals = [literal] := by
  obtain ⟨negated, name⟩ := literal
  cases negated <;> rfl

private theorem map_name_literalsUnder (sentence : Sentence) (negated : Bool) :
    (sentence.literalsUnder negated).map Literal.name = sentence.letters := by
  induction sentence using operand_induction generalizing negated with
  | «variable» name => rfl
  | negation operand ih => exact ih true
  | group joint first others ihFirst ihOthers =>
      have hothers : (others.flatMap literals).map Literal.name = others.flatMap letters := by
        rw [List.map_flatMap]
        exact List.flatMap_congr fun other hother => ihOthers other hother false
      rw [literalsUnder, letters, literalsOfList_eq_flatMap, lettersOfList_eq_flatMap,
        List.map_append, ihFirst, hothers]

/-- Without their signs the literals are the letters. -/
theorem map_name_literals (sentence : Sentence) :
    sentence.literals.map Literal.name = sentence.letters :=
  map_name_literalsUnder sentence false

theorem mem_distinctLetters_iff {sentence : Sentence} {letter : Letter} :
    letter ∈ sentence.distinctLetters ↔ letter ∈ sentence.letters := by
  simp [distinctLetters]

/-! ## Nodes -/

/-- A total over some nodes. -/
def Node.total (weigh : Node → Nat) : List Node → Nat
  | [] => 0
  | node :: rest => weigh node + total weigh rest

theorem Node.total_append (weigh : Node → Nat) (nodes nodes' : List Node) :
    total weigh (nodes ++ nodes') = total weigh nodes + total weigh nodes' := by
  induction nodes with
  | nil => simp [total]
  | cons node rest ih => rw [List.cons_append, total, total, ih, Nat.add_assoc]

/-- With how many tokens of a kind a node is written, parentheses apart: a group has a
connective between any two operands. -/
def Node.tokenCount (kind : Token.Kind) : Node → Nat
  | .variable _ => if kind = .variable then 1 else 0
  | .negation => if kind = .not then 1 else 0
  | .group joint size => if kind = .connective joint then size - 1 else 0

/-- With how many tokens of a kind a sentence is written, parentheses apart: the total over
its nodes. -/
def tokenCount (kind : Token.Kind) (sentence : Sentence) : Nat :=
  Node.total (Node.tokenCount kind) sentence.preorder

theorem tokenCount_variable (kind : Token.Kind) (name : Letter) :
    tokenCount kind (.variable name) = if kind = .variable then 1 else 0 := by
  simp [tokenCount, preorder, Node.total, Node.tokenCount]

theorem tokenCount_negation (kind : Token.Kind) (operand : Sentence) :
    tokenCount kind (.negation operand) =
      (if kind = .not then 1 else 0) + operand.tokenCount kind := by
  simp [tokenCount, preorder, Node.total, Node.tokenCount]

/-- The negations are counted by their nodes. -/
theorem tokenCount_not (sentence : Sentence) :
    sentence.tokenCount .not = sentence.preorder.count .negation := by
  unfold tokenCount
  induction sentence.preorder with
  | nil => rfl
  | cons node rest ih =>
      rw [Node.total, ih, List.count_cons, Nat.add_comm]
      cases node <;> rfl

/-- No node is written with a symbol outside the alphabet. -/
theorem tokenCount_stray (sentence : Sentence) : sentence.tokenCount .stray = 0 := by
  unfold tokenCount
  induction sentence.preorder with
  | nil => rfl
  | cons node rest ih =>
      rw [Node.total, ih]
      cases node <;> rfl

theorem preorderOfList_append_singleton (sentences : List Sentence) (sentence : Sentence) :
    preorderOfList (sentences ++ [sentence]) = preorderOfList sentences ++ sentence.preorder := by
  induction sentences with
  | nil => simp [preorderOfList]
  | cons head rest ih => simp [preorderOfList, ih]

theorem tokenCount_group_nil (kind : Token.Kind) (joint : Connective) (operand : Sentence) :
    tokenCount kind (.group joint operand []) = operand.tokenCount kind := by
  simp [tokenCount, preorder, preorderOfList, Node.total, Node.tokenCount]

/-- One more operand comes with one more connective. -/
theorem tokenCount_group_append_singleton (kind : Token.Kind) (joint : Connective)
    (first : Sentence) (others : List Sentence) (operand : Sentence) :
    tokenCount kind (.group joint first (others ++ [operand])) =
      tokenCount kind (.group joint first others) +
        (if kind = .connective joint then 1 else 0) + operand.tokenCount kind := by
  simp only [tokenCount, preorder, preorderOfList_append_singleton, Node.total,
    Node.total_append, Node.tokenCount, List.length_append, List.length_singleton]
  split <;> omega

end Sentence

end Clausal
