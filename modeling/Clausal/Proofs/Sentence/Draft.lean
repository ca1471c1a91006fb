import Clausal.Proofs.Sentence.Collapse
import Clausal.Sentence.Draft

/-!
# Sentences as drafts

A sentence with its names as texts and its groups as lists is a draft.  Checking that
draft gives the sentence back (`check_draft`): the conditions that the type of sentences
carries are the ones that are checked, and no more.
-/

namespace Clausal

/-- The name of a variable is a letter to the check of drafts, too. -/
theorem Draft.letter_singleton (name : Letter) :
    Draft.letter (String.singleton name.char) = .ok name := by
  simp [Draft.letter, name.isLetter, name.notConnective]

namespace Sentence

mutual

/-- The draft that a sentence is. -/
def draft : Sentence → Draft
  | .variable name => .variable (String.singleton name.char)
  | .negation operand => .negation operand.draft
  | .group joint first others => .group joint (first.draft :: draftList others)

/-- The drafts that a list of sentences are. -/
def draftList : List Sentence → List Draft
  | [] => []
  | sentence :: rest => sentence.draft :: draftList rest

end

private theorem checkList_draftList {sentences : List Sentence}
    (hsentences : ∀ sentence ∈ sentences, sentence.draft.check = .ok sentence) :
    Draft.checkList (draftList sentences) = .ok sentences := by
  induction sentences with
  | nil => rfl
  | cons sentence rest ih =>
      rw [List.forall_mem_cons] at hsentences
      rw [draftList, Draft.checkList, hsentences.1, ih hsentences.2]
      rfl

/-- No sentence is refused as a draft. -/
theorem check_draft (sentence : Sentence) : sentence.draft.check = .ok sentence := by
  induction sentence using operand_induction with
  | «variable» name =>
      rw [draft, Draft.check, Draft.letter_singleton]
      rfl
  | negation operand ih =>
      rw [draft, Draft.check, ih]
      rfl
  | group joint first others ihFirst ihOthers =>
      rw [draft, Draft.check, Draft.checkList, ihFirst, checkList_draftList ihOthers]
      rfl

end Sentence

end Clausal
