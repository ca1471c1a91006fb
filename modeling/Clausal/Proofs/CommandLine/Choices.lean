import Clausal.CommandLine.Arguments
import Mathlib.Data.List.Infix
import Mathlib.Data.List.Perm.Basic

/-!
# Options and their order

The options that make settings are obeyed one by one, and each makes a setting of its own.  So
a row of them makes the settings that its members make, in whatever order they stand and how
often (`obey_choices`).  What depends on their place is only what the words around them are
taken for: a word that follows the ratio is the output, but one that follows an option is left
over unless it is the ratio.
-/

namespace Clausal

namespace CommandLine

/-! ## What arguments look like -/

/-- The argument is a word by its looks. -/
def IsWord (argument : String) : Prop := classify argument = .ok (.word argument)

/-- The arguments are these items by their looks, one by one. -/
def LookLike (arguments : List String) (items : List Item) : Prop :=
  List.Forall₂ (fun argument item => classify argument = .ok item) arguments items

theorem ne_separator_of_classify_eq_ok {argument : String} {item : Item}
    (hitem : classify argument = .ok item) : argument ≠ "--" := by
  have hseparator : (classify "--").toOption = none := by decide +kernel
  rintro rfl
  rw [hitem] at hseparator
  cases hseparator

theorem itemize_of_lookLike {arguments : List String} {items : List Item}
    (hitems : LookLike arguments items) : itemize arguments = .ok items := by
  induction hitems with
  | nil => rfl
  | cons hitem _ ih =>
      rw [itemize, if_neg (ne_separator_of_classify_eq_ok hitem), hitem, ih]
      rfl

section Integers

variable {argument : String} {digit : Char} {more : List Char}

/-- No spelling of an option has a digit behind its hyphen. -/
theorem not_isSome_digitValue_of_mem_spellings {entry : String × Named} (hentry : entry ∈ spellings)
    (hspelling : entry.1.toList = '-' :: digit :: more) :
    (Text.digitValue? digit).isSome = false := by
  have hletters : spellings.all (fun entry =>
      entry.1.toList.tail.head?.all fun letter => !(Text.digitValue? letter).isSome) = true := by
    decide +kernel
  have hletter := List.all_eq_true.mp hletters entry hentry
  rw [hspelling] at hletter
  simpa using hletter

theorem lookup_eq_none_of_digit (hargument : argument.toList = '-' :: digit :: more)
    (hdigit : (Text.digitValue? digit).isSome = true) : spellings.lookup argument = none := by
  rw [List.lookup_eq_none_iff]
  intro entry hentry
  rw [bne_iff_ne]
  rintro rfl
  rw [not_isSome_digitValue_of_mem_spellings hentry hargument] at hdigit
  exact absurd hdigit Bool.false_ne_true

theorem ne_hyphen_of_digit (hdigit : (Text.digitValue? digit).isSome = true) :
    digit ≠ '-' ∧ digit ≠ '=' := by
  have hnone : (Text.digitValue? '-').isSome = false ∧ (Text.digitValue? '=').isSome = false := by
    decide +kernel
  constructor <;> rintro rfl
  · exact absurd (hnone.1.symm.trans hdigit) Bool.false_ne_true
  · exact absurd (hnone.2.symm.trans hdigit) Bool.false_ne_true

theorem candidates_eq_nil_of_digit (more : List Char)
    (hdigit : (Text.digitValue? digit).isSome = true) :
    candidates ('-' :: digit :: more) = [] := by
  unfold candidates
  split
  · next heq =>
      cases heq
      exact absurd rfl (ne_hyphen_of_digit hdigit).1
  · next heq =>
      cases heq
      rw [List.map_eq_nil_iff, List.filter_eq_nil_iff]
      intro entry hentry hspelling
      rw [not_isSome_digitValue_of_mem_spellings hentry (of_decide_eq_true hspelling)] at hdigit
      exact absurd hdigit Bool.false_ne_true
  · rfl

/-- An equals sign comes behind the digit, if at all. -/
theorem exists_cutAtEquals_of_digit (more : List Char)
    (hdigit : (Text.digitValue? digit).isSome = true) :
    ∃ name value, cutAtEquals ('-' :: digit :: more) = ('-' :: digit :: name, value) := by
  have hequals := (ne_hyphen_of_digit hdigit).2
  rw [cutAtEquals]
  split
  · exact ⟨more, none, rfl⟩
  · next value _ => exact ⟨more.takeWhile (· ≠ '='), some value, by simp [hequals]⟩

/-- What begins with a hyphen and a digit is a word or is not understood. -/
theorem classify_of_digit (hargument : argument.toList = '-' :: digit :: more)
    (hdigit : (Text.digitValue? digit).isSome = true) :
    IsWord argument ∨ classify argument = .ok .unknown := by
  have hlookup := lookup_eq_none_of_digit hargument hdigit
  obtain ⟨name, value, hcut⟩ := exists_cutAtEquals_of_digit more hdigit
  have hname : spellings.lookup (String.ofList ('-' :: digit :: name)) = none :=
    lookup_eq_none_of_digit String.toList_ofList hdigit
  have hcandidates := candidates_eq_nil_of_digit more hdigit
  have hclassify : classify argument =
      .ok (if looksNegative ('-' :: digit :: more) || ('-' :: digit :: more).contains ' ' then
        .word argument else .unknown) := by
    unfold classify
    simp only [hargument, hcut, hlookup, hname, hcandidates]
    cases value <;> simp
  rw [IsWord, hclassify]
  split
  · exact .inl rfl
  · exact .inr rfl

end Integers

theorem exists_digit_of_digits {text : List Char} (hdigits : (Numeral.digits text).1 ≠ []) :
    ∃ digit more, text = digit :: more ∧ (Text.digitValue? digit).isSome = true := by
  match text with
  | [] => exact absurd rfl hdigits
  | digit :: more =>
      refine ⟨digit, more, rfl, ?_⟩
      cases hdigit : Text.digitValue? digit with
      | some value => rfl
      | none => simp [Numeral.digits, Numeral.digitsWithin, hdigit] at hdigits

/-- A digit follows the hyphen of an integer. -/
theorem exists_digit_of_integer {text : String} {n : Int} {rest : List Char}
    (hinteger : Numeral.integer? text = some n) (htext : text.toList = '-' :: rest) :
    ∃ digit more, rest = digit :: more ∧ (Text.digitValue? digit).isSome = true := by
  have hleading : Text.trimBlanks text.toList <+: '-' :: rest := by
    have hstart : text.toList.dropWhile Text.isBlank = '-' :: rest := by
      rw [htext]
      rfl
    rw [Text.trimBlanks, hstart, ← List.reverse_suffix, List.reverse_reverse]
    exact List.dropWhile_suffix _
  have hdigits : (Numeral.digits (Numeral.sign (Text.trimBlanks text.toList)).2).1 ≠ [] := by
    intro hnone
    rw [Numeral.integer?] at hinteger
    generalize Numeral.sign (Text.trimBlanks text.toList) = signed at hinteger hnone
    generalize hfound : Numeral.digits signed.2 = found at hinteger hnone
    obtain ⟨found, left⟩ := found
    cases hnone
    simp [hfound] at hinteger
  obtain ⟨digit, more, hunsigned, hdigit⟩ := exists_digit_of_digits hdigits
  rcases List.prefix_cons_iff.mp hleading with htrim | ⟨trimmed, htrim, left, hleft⟩
  · rw [htrim] at hunsigned
    cases hunsigned
  · rw [htrim] at hunsigned
    change trimmed = digit :: more at hunsigned
    rw [hunsigned] at hleft
    exact ⟨digit, more ++ left, hleft.symm, hdigit⟩

/-- The text of an integer is a word or is not understood. -/
theorem classify_of_integer {text : String} {n : Int} (hinteger : Numeral.integer? text = some n) :
    IsWord text ∨ classify text = .ok .unknown := by
  by_cases hhyphen : text.toList.head? = some '-'
  · obtain ⟨rest, htext⟩ := List.head?_eq_some_iff.mp hhyphen
    obtain ⟨digit, more, rfl, hdigit⟩ := exists_digit_of_integer hinteger htext
    exact classify_of_digit htext hdigit
  · exact .inl (by simp [IsWord, classify, hhyphen])

/-! ## Choices -/

/-- The options that make settings. -/
inductive Choice where
  | multiline
  | verbose
  | details
  | seed
  deriving DecidableEq, Repr

/-- The arguments for an option.  The number behind the one for the seed is given. -/
def Choice.arguments (number : String) : Choice → List String
  | multiline => ["--multiline"]
  | verbose => ["-v"]
  | details => ["--debug"]
  | seed => ["--seed", number]

/-- What the arguments for an option are, with what the number is. -/
def Choice.items (number : Item) : Choice → List Item
  | multiline => [.option (.flag .multiline) .nothing]
  | verbose => [.option (.flag .verbose) .nothing]
  | details => [.option (.flag .details) .nothing]
  | seed => [.option .seed .nothing, number]

theorem lookLike_flatMap_choices {number : String} {item : Item}
    (hnumber : classify number = .ok item) (choices : List Choice) :
    LookLike (choices.flatMap (Choice.arguments number)) (choices.flatMap (Choice.items item)) := by
  have hoptions : classify "--multiline" = .ok (.option (.flag .multiline) .nothing) ∧
      classify "-v" = .ok (.option (.flag .verbose) .nothing) ∧
      classify "--debug" = .ok (.option (.flag .details) .nothing) ∧
      classify "--seed" = .ok (.option .seed .nothing) := by
    decide +kernel
  obtain ⟨hmultiline, hverbose, hdetails, hseed⟩ := hoptions
  have hchoice : ∀ choice,
      LookLike (Choice.arguments number choice) (Choice.items item choice) := by
    intro choice
    cases choice with
    | multiline => exact .cons hmultiline .nil
    | verbose => exact .cons hverbose .nil
    | details => exact .cons hdetails .nil
    | seed => exact .cons hseed (.cons hnumber .nil)
  induction choices with
  | nil => exact .nil
  | cons choice rest ih => exact List.rel_append (hchoice choice) ih

/-- The settings after some options, whatever their order. -/
def Arguments.withChoices (settings : Arguments) (seed : Int) (choices : List Choice) :
    Arguments :=
  { settings with
    seed := if .seed ∈ choices then some seed else settings.seed
    multiline := settings.multiline || decide (.multiline ∈ choices)
    verbose := settings.verbose || decide (.verbose ∈ choices)
    details := settings.details || decide (.details ∈ choices) }

namespace Arguments

variable {settings : Arguments} {seed : Int}

theorem withChoices_nil : settings.withChoices seed [] = settings := by
  simp [withChoices]

theorem withChoices_withChoices (choices choices' : List Choice) :
    (settings.withChoices seed choices).withChoices seed choices' =
      settings.withChoices seed (choices ++ choices') := by
  by_cases hseed : Choice.seed ∈ choices <;>
    simp [withChoices, hseed, Bool.or_assoc, Bool.decide_or]

theorem withChoices_of_perm {choices choices' : List Choice} (hperm : choices.Perm choices') :
    settings.withChoices seed choices = settings.withChoices seed choices' := by
  simp only [withChoices, hperm.mem_iff]

end Arguments

theorem Awaited.afterOption_afterOption (awaited : Awaited) :
    awaited.afterOption.afterOption = awaited.afterOption := by
  cases awaited <;> rfl

/-! ## Obeying choices -/

section Obey

variable {settings : Arguments} {awaited : Awaited} {number : String} {seed : Int} {item : Item}

theorem obey_choice (hinteger : Numeral.integer? number = some seed) {choice : Choice}
    (hnumber : choice = .seed → item = .word number) (rest : List Item) :
    obey settings awaited (Choice.items item choice ++ rest) =
      obey (settings.withChoices seed [choice]) awaited.afterOption rest := by
  cases choice with
  | multiline | verbose | details =>
      simp [Choice.items, obey, Arguments.withFlag, Arguments.withChoices, bind, Except.bind]
  | seed =>
      cases hnumber rfl
      simp [Choice.items, obey, Arguments.withSeed, Arguments.withChoices, hinteger, bind,
        Except.bind]

/-- A row of options makes the settings of its members.  If it is not empty, the output is no
longer awaited behind it. -/
theorem obey_choices (hinteger : Numeral.integer? number = some seed) {choices : List Choice}
    (hnumber : .seed ∈ choices → item = .word number) (rest : List Item) :
    obey settings awaited (choices.flatMap (Choice.items item) ++ rest) =
      obey (settings.withChoices seed choices)
        (if choices = [] then awaited else awaited.afterOption) rest := by
  induction choices generalizing settings awaited with
  | nil => rw [Arguments.withChoices_nil, if_pos rfl, List.flatMap_nil, List.nil_append]
  | cons choice others ih =>
      have hchoice : choice = .seed → item = .word number := by
        rintro rfl
        exact hnumber List.mem_cons_self
      rw [List.flatMap_cons, List.append_assoc, obey_choice hinteger hchoice,
        ih fun hmem => hnumber (List.mem_cons_of_mem _ hmem), Arguments.withChoices_withChoices,
        Awaited.afterOption_afterOption, ite_self, if_neg (List.cons_ne_nil _ _)]
      rfl

/-- A command line may end with options. -/
theorem obey_choices_of_last (hinteger : Numeral.integer? number = some seed)
    {choices : List Choice} (hnumber : .seed ∈ choices → item = .word number) :
    obey settings awaited (choices.flatMap (Choice.items item)) =
      .ok (settings.withChoices seed choices) := by
  rw [← List.append_nil (choices.flatMap _), obey_choices hinteger hnumber]
  rfl

end Obey

/-! ## A seed without a number -/

/-- In whatever place these items are obeyed, the number of a seed is missed. -/
def MissesNumber (items : List Item) : Prop :=
  ∀ settings awaited, obey settings awaited items = .error (.refused .valueMissing)

namespace MissesNumber

variable {rest : List Item}

theorem word_cons (hrest : MissesNumber rest) (text : String) :
    MissesNumber (.word text :: rest) := by
  intro settings awaited
  cases awaited <;> exact hrest _ _

theorem option_cons (hrest : MissesNumber rest) {flag : Flag} (hflag : flag ≠ .help) :
    MissesNumber (.option (.flag flag) .nothing :: rest) := by
  intro settings awaited
  cases flag with
  | help => exact absurd rfl hflag
  | multiline | verbose | details => exact hrest _ _

theorem choices_append (hrest : MissesNumber rest) (choices : List Choice) :
    MissesNumber (choices.flatMap (Choice.items .unknown) ++ rest) := by
  induction choices with
  | nil => exact hrest
  | cons choice others ih =>
      rw [List.flatMap_cons, List.append_assoc]
      cases choice with
      | seed => exact fun _ _ => rfl
      | multiline | verbose | details => exact ih.option_cons (by decide)

/-- A number that is not understood is missed. -/
theorem of_mem {choices : List Choice} (hseed : .seed ∈ choices) (rest : List Item) :
    MissesNumber (choices.flatMap (Choice.items .unknown) ++ rest) := by
  obtain ⟨before, behind, rfl⟩ := List.append_of_mem hseed
  rw [List.flatMap_append, List.append_assoc]
  have hnumber : MissesNumber ((Choice.seed :: behind).flatMap (Choice.items .unknown) ++ rest) :=
    fun _ _ => rfl
  exact hnumber.choices_append before

end MissesNumber

end CommandLine

end Clausal
