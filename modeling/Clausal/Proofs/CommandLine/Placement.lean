import Clausal.Proofs.CommandLine.Choices
import Clausal.Proofs.CommandLine.Work

/-!
# Where options stand

A command line gives a ratio, perhaps an output behind it, and some options before, between and
behind the two.  The options make their settings wherever they stand.  Yet if an option stands
between the ratio and the output, the output is left over, and the run shows the usage
(`Placement.Splits`).  So two arrangements of the same ratio, output and options come to the
same if and only if both split the words or neither does; the only exception are seeds that are
numerals and still taken for options, such as `-1_0`, which are refused in any place.
-/

namespace Clausal

namespace CommandLine

/-- The options that stand before the ratio, between the ratio and the output, and behind
both. -/
structure Placement where
  before : List Choice
  between : List Choice
  behind : List Choice

namespace Placement

/-- All options, in the order in which they stand. -/
def options (placement : Placement) : List Choice :=
  placement.before ++ (placement.between ++ placement.behind)

/-- The command line. -/
def arguments (placement : Placement) (number ratioText : String) (output : Option String) :
    List String :=
  placement.before.flatMap (Choice.arguments number) ++ (ratioText ::
    (placement.between.flatMap (Choice.arguments number) ++
      (output.toList ++ placement.behind.flatMap (Choice.arguments number))))

/-- What the arguments are by their looks. -/
def items (placement : Placement) (number : Item) (ratioText : String) (output : Option String) :
    List Item :=
  placement.before.flatMap (Choice.items number) ++ (.word ratioText ::
    (placement.between.flatMap (Choice.items number) ++
      (output.toList.map .word ++ placement.behind.flatMap (Choice.items number))))

/-- An option stands between the ratio and an output. -/
def Splits (placement : Placement) (output : Option String) : Prop :=
  placement.between ≠ [] ∧ output ≠ none

variable {placement : Placement} {number ratioText : String} {output : Option String}
  {item : Item} {seed : Int}

theorem lookLike_items (hnumber : classify number = .ok item) (hratio : IsWord ratioText)
    (houtput : ∀ path ∈ output, IsWord path) :
    LookLike (placement.arguments number ratioText output)
      (placement.items item ratioText output) := by
  have hpath : LookLike output.toList (output.toList.map .word) := by
    cases output with
    | none => exact .nil
    | some path => exact .cons (houtput path rfl) .nil
  have hchoices := lookLike_flatMap_choices hnumber
  exact List.rel_append (hchoices placement.before) (.cons hratio
    (List.rel_append (hchoices placement.between)
      (List.rel_append hpath (hchoices placement.behind))))

theorem read_arguments (hnumber : classify number = .ok item) (hratio : IsWord ratioText)
    (houtput : ∀ path ∈ output, IsWord path) :
    Arguments.read (placement.arguments number ratioText output) =
      obey .initial .ratio (placement.items item ratioText output) := by
  rw [Arguments.read, itemize_of_lookLike (lookLike_items hnumber hratio houtput)]
  rfl

/-- What the number is counts only where it is given. -/
theorem exists_classify_eq_ok (hinteger : Numeral.integer? number = some seed)
    (hseed : .seed ∈ placement.options → IsWord number) :
    ∃ item, classify number = .ok item ∧ (.seed ∈ placement.options → item = .word number) := by
  rcases classify_of_integer hinteger with hword | hunknown
  · exact ⟨_, hword, fun _ => rfl⟩
  · refine ⟨_, hunknown, fun hmem => ?_⟩
    have hword := hseed hmem
    rw [IsWord, hunknown] at hword
    cases hword

/-- The items behind the ratio are obeyed after the options before it. -/
theorem obey_items (hinteger : Numeral.integer? number = some seed)
    (hitem : .seed ∈ placement.options → item = .word number) :
    obey .initial .ratio (placement.items item ratioText output) =
      obey { Arguments.withChoices .initial seed (placement.before ++ placement.between) with
        ratio := some ratioText }
        (if placement.between = [] then .output else .nothing)
        (output.toList.map .word ++ placement.behind.flatMap (Choice.items item)) := by
  have hbefore : .seed ∈ placement.before → item = .word number :=
    fun hmem => hitem (List.mem_append_left _ hmem)
  have hbetween : .seed ∈ placement.between → item = .word number :=
    fun hmem => hitem (List.mem_append_right _ (List.mem_append_left _ hmem))
  have hratio : (if placement.before = [] then .ratio else Awaited.ratio.afterOption) = .ratio :=
    ite_self _
  rw [items, obey_choices hinteger hbefore, hratio, obey, obey_choices hinteger hbetween,
    ← Arguments.withChoices_withChoices]
  rfl

theorem withChoices_options :
    Arguments.withChoices .initial seed placement.options =
      (Arguments.withChoices .initial seed (placement.before ++ placement.between)).withChoices
        seed placement.behind := by
  rw [Arguments.withChoices_withChoices, List.append_assoc, options]

section Read

variable (hinteger : Numeral.integer? number = some seed) (hratio : IsWord ratioText)
  (houtput : ∀ path ∈ output, IsWord path)
  (hseed : .seed ∈ placement.options → IsWord number)
include hinteger hratio houtput hseed

/-- The settings of a ratio, an output and some options. -/
theorem read_of_not_splits (hsplits : ¬ placement.Splits output) :
    Arguments.read (placement.arguments number ratioText output) =
      .ok { Arguments.withChoices .initial seed placement.options with
        ratio := some ratioText
        output := output } := by
  obtain ⟨item, hnumber, hitem⟩ := exists_classify_eq_ok hinteger hseed
  have hbehind : .seed ∈ placement.behind → item = .word number :=
    fun hmem => hitem (List.mem_append_right _ (List.mem_append_right _ hmem))
  rw [read_arguments hnumber hratio houtput, obey_items hinteger hitem, withChoices_options]
  cases output with
  | none => exact obey_choices_of_last hinteger hbehind
  | some path =>
      have hbetween : placement.between = [] := by
        by_contra hbetween
        exact hsplits ⟨hbetween, Option.some_ne_none path⟩
      have hpath := ne_separator_of_classify_eq_ok (houtput path rfl)
      rw [if_pos hbetween, Option.toList_some, List.map_singleton, List.singleton_append, obey,
        if_neg hpath]
      exact obey_choices_of_last hinteger hbehind

/-- The output is left over. -/
theorem read_of_splits (hsplits : placement.Splits output) :
    Arguments.read (placement.arguments number ratioText output) =
      .ok { Arguments.withChoices .initial seed placement.options with
        ratio := some ratioText
        surplus := true } := by
  obtain ⟨item, hnumber, hitem⟩ := exists_classify_eq_ok hinteger hseed
  have hbehind : .seed ∈ placement.behind → item = .word number :=
    fun hmem => hitem (List.mem_append_right _ (List.mem_append_right _ hmem))
  obtain ⟨hbetween, hgiven⟩ := hsplits
  obtain ⟨path, rfl⟩ := Option.ne_none_iff_exists'.mp hgiven
  rw [read_arguments hnumber hratio houtput, obey_items hinteger hitem, withChoices_options,
    if_neg hbetween, Option.toList_some, List.map_singleton, List.singleton_append, obey]
  exact obey_choices_of_last hinteger hbehind

end Read

/-- A seed that is not understood is refused in any place. -/
theorem read_of_not_isWord (hinteger : Numeral.integer? number = some seed)
    (hratio : IsWord ratioText) (houtput : ∀ path ∈ output, IsWord path)
    (hseed : .seed ∈ placement.options) (hnumber : ¬ IsWord number) :
    Arguments.read (placement.arguments number ratioText output) =
      .error (.refused .valueMissing) := by
  have hunknown := (classify_of_integer hinteger).resolve_left hnumber
  have hwords : ∀ {rest}, MissesNumber rest → MissesNumber (output.toList.map .word ++ rest) := by
    intro rest hrest
    cases output with
    | none => exact hrest
    | some path => exact hrest.word_cons path
  have hmisses : MissesNumber (placement.items .unknown ratioText output) := by
    rw [options, List.mem_append, List.mem_append] at hseed
    rcases hseed with hbefore | hbetween | hbehind
    · exact .of_mem hbefore _
    · exact ((MissesNumber.of_mem hbetween _).word_cons ratioText).choices_append _
    · have hlast := MissesNumber.of_mem hbehind []
      rw [List.append_nil] at hlast
      exact (((hwords hlast).choices_append _).word_cons ratioText).choices_append _
  rw [read_arguments hunknown hratio houtput]
  exact hmisses _ _

end Placement

end CommandLine

namespace Session

open CommandLine

/-! ## Runs of arguments that are read alike -/

theorem runCommandLine_of_read_eq {arguments arguments' : List String}
    (hread : Arguments.read arguments = Arguments.read arguments') (unseeded : Twister) :
    runCommandLine arguments unseeded = runCommandLine arguments' unseeded := by
  have hplan : plan arguments unseeded = plan arguments' unseeded := by
    rw [plan, plan, hread]
  rw [runCommandLine, runCommandLine, hplan]

variable {arguments : List String} {unseeded : Twister} {files after : Files} {run : Run}

theorem Runs.eq_of_usage {level : Journal.Level} (hruns : Runs arguments unseeded files run after)
    (husage : plan arguments unseeded = .usage level) :
    run = ⟨CommandLine.usage, "", .returned 1⟩ ∧ after = files := by
  cases hruns with
  | usage => exact ⟨rfl, rfl⟩
  | help hplan | refused hplan | failed hplan | emitted hplan => cases husage.symm.trans hplan

/-- Work for a file shows nothing. -/
theorem Runs.output_eq_empty {settings : Arguments} {ratioText path : String}
    (hruns : Runs arguments unseeded files run after) (hasks : Asks arguments settings ratioText)
    (houtput : settings.output = some path) : run.output = "" := by
  have hwork := plan_of_asks hasks unseeded
  cases hruns with
  | help hplan | refused hplan | usage hplan => cases hwork.symm.trans hplan
  | failed => rfl
  | emitted hplan hemitted hemits =>
      cases hwork.symm.trans hplan
      have hcomes := comesTo_result_workFor settings ratioText unseeded
      rw [hemitted] at hcomes
      cases hcomes with
      | text =>
          cases hemits with
          | printed hprinted =>
              rw [houtput] at hprinted
              cases hprinted
          | written | unwritable | noPath => rfl

section Placements

variable {placement placement' : Placement} {number ratioText : String}
  {output : Option String} {seed : Int}
  (hinteger : Numeral.integer? number = some seed) (hratio : IsWord ratioText)
  (houtput : ∀ path ∈ output, IsWord path)
include hinteger hratio houtput

/-! ## Split words -/

/-- If the words are split, the output is left over. -/
theorem run_of_splits (hseed : .seed ∈ placement.options → IsWord number)
    (hsplits : placement.Splits output) (unseeded : Twister) (session : Session) :
    let result :=
      (runCommandLine (placement.arguments number ratioText output) unseeded).run session
    result.1 = ⟨CommandLine.usage, "", .returned 1⟩ ∧ result.2.files = session.files := by
  have hread := Placement.read_of_splits hinteger hratio houtput hseed hsplits
  exact (runs_runCommandLine _ unseeded session).eq_of_usage (plan_of_read hread rfl unseeded)

/-- If they are not, the text goes to the output, and the usage is not shown. -/
theorem output_of_not_splits (hseed : .seed ∈ placement.options → IsWord number)
    (hsplits : ¬ placement.Splits output) (hgiven : output ≠ none) (unseeded : Twister)
    (session : Session) :
    ((runCommandLine (placement.arguments number ratioText output) unseeded).run session).1.output =
      "" := by
  have hread := Placement.read_of_not_splits hinteger hratio houtput hseed hsplits
  obtain ⟨path, rfl⟩ := Option.ne_none_iff_exists'.mp hgiven
  exact (runs_runCommandLine _ unseeded session).output_eq_empty ⟨hread, rfl, rfl⟩ rfl

/-! ## Two placements -/

variable (hoptions : placement.options.Perm placement'.options)
include hoptions

/-- Two placements are read alike if they agree about splitting the words. -/
theorem runCommandLine_eq_of_splits_iff
    (halike : (placement.Splits output ↔ placement'.Splits output) ∨
      .seed ∈ placement.options ∧ ¬ IsWord number) (unseeded : Twister) :
    runCommandLine (placement.arguments number ratioText output) unseeded =
      runCommandLine (placement'.arguments number ratioText output) unseeded := by
  apply runCommandLine_of_read_eq
  by_cases hrefused : .seed ∈ placement.options ∧ ¬ IsWord number
  · obtain ⟨hmem, hnumber⟩ := hrefused
    have hmem' := hoptions.mem_iff.mp hmem
    rw [Placement.read_of_not_isWord hinteger hratio houtput hmem hnumber,
      Placement.read_of_not_isWord hinteger hratio houtput hmem' hnumber]
  · have hsplits := halike.resolve_right hrefused
    rw [not_and_not_right] at hrefused
    have hrefused' := fun hmem => hrefused (hoptions.mem_iff.mpr hmem)
    by_cases hsplit : placement.Splits output
    · rw [Placement.read_of_splits hinteger hratio houtput hrefused hsplit,
        Placement.read_of_splits hinteger hratio houtput hrefused' (hsplits.mp hsplit),
        Arguments.withChoices_of_perm hoptions]
    · rw [Placement.read_of_not_splits hinteger hratio houtput hrefused hsplit,
        Placement.read_of_not_splits hinteger hratio houtput hrefused' (mt hsplits.mpr hsplit),
        Arguments.withChoices_of_perm hoptions]

/-- A placement that splits the words shows what one that does not never shows. -/
theorem output_ne_of_splits (hseed : .seed ∈ placement.options → IsWord number)
    (hsplits : placement.Splits output) (hsplits' : ¬ placement'.Splits output)
    (unseeded : Twister) (session : Session) :
    ((runCommandLine (placement.arguments number ratioText output) unseeded).run session).1.output ≠
      ((runCommandLine (placement'.arguments number ratioText output) unseeded).run
        session).1.output := by
  have husage : CommandLine.usage ≠ "" := by decide +kernel
  have hseed' := fun hmem => hseed (hoptions.mem_iff.mpr hmem)
  rw [(run_of_splits hinteger hratio houtput hseed hsplits unseeded session).1,
    output_of_not_splits hinteger hratio houtput hseed' hsplits' hsplits.2 unseeded session]
  exact husage

end Placements

/-! ## The main statement -/

/-- **Placements.**  Let two command lines give the same ratio, output and options, in whatever
order the options stand and wherever between the words.  They end in the same way, show the same
and leave the same files if and only if both of them have an option between the ratio and the
output or neither has, or the seed is given with a text of an integer that is taken for an
option.  One that has an option there and a seed that is understood, if any, shows the usage,
returns one and changes no file. -/
theorem runCommandLine_placements {placement placement' : Placement} {number ratioText : String}
    {output : Option String} {seed : Int} (hinteger : Numeral.integer? number = some seed)
    (hratio : IsWord ratioText) (houtput : ∀ path ∈ output, IsWord path)
    (hoptions : placement.options.Perm placement'.options) (unseeded : Twister)
    (session : Session) :
    let result :=
      (runCommandLine (placement.arguments number ratioText output) unseeded).run session
    let result' :=
      (runCommandLine (placement'.arguments number ratioText output) unseeded).run session
    (result.1.ending = result'.1.ending ∧ result.1.output = result'.1.output ∧
        result.2.files = result'.2.files ↔
      (placement.Splits output ↔ placement'.Splits output) ∨
        .seed ∈ placement.options ∧ ¬ IsWord number) ∧
    (placement.Splits output → (.seed ∈ placement.options → IsWord number) →
      result.1 = ⟨CommandLine.usage, "", .returned 1⟩ ∧ result.2.files = session.files) := by
  refine ⟨⟨fun ⟨_, hshown, _⟩ => ?_, fun halike => ?_⟩, fun hsplits hseed =>
    run_of_splits hinteger hratio houtput hseed hsplits unseeded session⟩
  · by_contra hdiffer
    rw [not_or, not_and_not_right] at hdiffer
    obtain ⟨hone, hseed⟩ := hdiffer
    by_cases hsplits : placement.Splits output
    · have hsplits' : ¬ placement'.Splits output :=
        fun hsplits' => hone ⟨fun _ => hsplits', fun _ => hsplits⟩
      exact output_ne_of_splits hinteger hratio houtput hoptions hseed hsplits hsplits' unseeded
        session hshown
    · have hsplits' : placement'.Splits output := by
        by_contra hsplits'
        exact hone ⟨(absurd · hsplits), (absurd · hsplits')⟩
      have hseed' := fun hmem => hseed (hoptions.mem_iff.mpr hmem)
      exact output_ne_of_splits hinteger hratio houtput hoptions.symm hseed' hsplits' hsplits
        unseeded session hshown.symm
  · rw [runCommandLine_eq_of_splits_iff hinteger hratio houtput hoptions halike]
    exact ⟨rfl, rfl, rfl⟩

/-- Options before the ratio, and behind the output in the other order. -/
theorem runCommandLine_placements_around :
    let result := (runCommandLine ["--seed", "3", "1.0", "out.cnf", "--multiline"]
      (.ofSeed 0)).run (.initial 0)
    let result' := (runCommandLine ["1.0", "out.cnf", "--multiline", "--seed", "3"]
      (.ofSeed 0)).run (.initial 0)
    result.1.ending = result'.1.ending ∧ result.1.output = result'.1.output ∧
      result.2.files = result'.2.files := by
  have hwords : Numeral.integer? "3" = some 3 ∧ classify "1.0" = .ok (.word "1.0") ∧
      classify "out.cnf" = .ok (.word "out.cnf") := by
    decide +kernel
  obtain ⟨hinteger, hratio, hpath⟩ := hwords
  have houtput : ∀ path ∈ some "out.cnf", IsWord path := by
    rintro path ⟨⟩
    exact hpath
  have hoptions : (Placement.mk [.seed] [] [.multiline]).options.Perm
      (Placement.mk [] [] [.multiline, .seed]).options := by decide
  have hsplits : (Placement.mk [.seed] [] [.multiline]).Splits (some "out.cnf") ↔
      (Placement.mk [] [] [.multiline, .seed]).Splits (some "out.cnf") := by
    simp [Placement.Splits]
  have hsame := (runCommandLine_placements hinteger hratio houtput hoptions (.ofSeed 0)
    (.initial 0)).1.mpr (.inl hsplits)
  have harguments : (Placement.mk [.seed] [] [.multiline]).arguments "3" "1.0" (some "out.cnf") =
      ["--seed", "3", "1.0", "out.cnf", "--multiline"] := rfl
  have harguments' : (Placement.mk [] [] [.multiline, .seed]).arguments "3" "1.0"
      (some "out.cnf") = ["1.0", "out.cnf", "--multiline", "--seed", "3"] := rfl
  rw [harguments, harguments'] at hsame
  exact hsame

/-- With the seed between the words the usage is shown, with the seed behind them the text is
written. -/
theorem runCommandLine_seed_between_ne :
    let result := (runCommandLine ["1.0", "--seed", "3", "out.cnf"] (.ofSeed 0)).run (.initial 0)
    let result' := (runCommandLine ["1.0", "out.cnf", "--seed", "3"] (.ofSeed 0)).run (.initial 0)
    (Placement.mk [] [.seed] []).arguments "3" "1.0" (some "out.cnf") =
        ["1.0", "--seed", "3", "out.cnf"] ∧
      (Placement.mk [] [] [.seed]).arguments "3" "1.0" (some "out.cnf") =
        ["1.0", "out.cnf", "--seed", "3"] ∧
      result.1.ending = .returned 1 ∧ result.1.output = CommandLine.usage ∧
      result'.1.ending = .returned 0 ∧ result'.1.output = "" := by
  have hreads : Arguments.read ["1.0", "--seed", "3", "out.cnf"] =
        .ok ⟨some "1.0", none, some 3, false, false, false, true⟩ ∧
      Arguments.read ["1.0", "out.cnf", "--seed", "3"] =
        .ok ⟨some "1.0", some "out.cnf", some 3, false, false, false, false⟩ := by
    decide +kernel
  obtain ⟨hread, hread'⟩ := hreads
  have hcounted : (Ratio.read "1.0").toOption.any (fun ratio => ¬ Ratio.TooLarge ratio) = true := by
    decide +kernel
  obtain ⟨ratio, hratio, hcounted⟩ := Except.toOption_any_eq_true_iff.mp hcounted
  have hruns := runs_runCommandLine ["1.0", "--seed", "3", "out.cnf"] (.ofSeed 0) (.initial 0)
  have hruns' := runs_runCommandLine ["1.0", "out.cnf", "--seed", "3"] (.ofSeed 0) (.initial 0)
  have hrun := (hruns.eq_of_usage (plan_of_read hread rfl _)).1
  have hasks : Asks ["1.0", "out.cnf", "--seed", "3"] _ "1.0" := ⟨hread', rfl, rfl⟩
  obtain ⟨text, -, hresult⟩ := exists_result_workFor _ (.ofSeed 0) hratio
    (of_decide_eq_true hcounted)
  have hemits := hruns'.emits (plan_of_asks hasks _) hresult
  have hzero := hemits.ending_eq_returned_zero_iff.mpr fun path hpath => by
    cases hpath
    exact ⟨_, rfl⟩
  exact ⟨rfl, rfl, by rw [hrun], by rw [hrun], hzero, hruns'.output_eq_empty hasks rfl⟩

end Session

end Clausal
