import Clausal.Proofs.CommandLine.Runs
import Clausal.Proofs.Instance.Stream
import Clausal.Proofs.Sentence.Stacking

/-!
# Seeded runs

What a run with a seed delivers is settled by the ratio, the seed and the layout alone.  In one
line it is the text of the instance that the library draws from the seed; with one clause a
line it is that text with a line feed in place of the blank behind each `^`.  For the second
the text is read and rendered again.  That cannot fail, because an instance over the usual
alphabet is the text of a conjunction of clauses (`exists_isUsual`).
-/

namespace Clausal

/-- At least one clause is asked for. -/
theorem Ratio.clauseCount_pos {ratio : Binary64} {letters count : Int}
    (hcount : Ratio.clauseCount ratio letters = .ok count) : 0 < count := by
  obtain ⟨_, -, hcount⟩ := Except.bind_eq_ok_iff.mp hcount
  obtain ⟨found, -, hfound⟩ := Except.bind_eq_ok_iff.mp hcount
  cases hfound
  exact Int.lt_of_lt_of_le Int.one_pos (Int.le_max_left 1 found)

namespace Instance

/-! ## Usual instances -/

/-- The sentence is a conjunction of as many clauses as the count, each of three literals with
names from `A` to `Z`. -/
structure IsUsual (count : Int) (sentence : Sentence) : Prop where
  isClausal : sentence.isClausal = true
  count_eq : (sentence.groupOperands.length : Int) = count
  width_eq : ∀ clause ∈ sentence.groupOperands, clause.groupOperands.length = 3
  names : ∀ literal ∈ sentence.literals, literal.name.char.isUpper = true

/-- The names of the usual alphabet. -/
theorem isUpper_of_mem_usualAlphabet {name : Letter} (hname : name.text ∈ usualAlphabet) :
    name.char.isUpper = true := by
  obtain ⟨c, hc, htext⟩ := List.mem_map.mp hname
  have hupper : "ABCDEFGHIJKLMNOPQRSTUVWXYZ".toList.all Char.isUpper = true := by decide +kernel
  have hchar : name.char = c := by
    simpa using congrArg String.toList htext.symm
  rw [hchar]
  exact List.all_eq_true.mp hupper c hc

/-- An instance over the usual alphabet is the text of a usual sentence. -/
theorem exists_isUsual {State : Type} [Source State] {count : Int} (hcount : 0 < count)
    (state : State) :
    ∃ (drawn : List (List (Literal String))) (after : State) (sentence : Sentence),
      (draw count usualAlphabet usualWidth : Draw State _).run state = (.ok drawn, after) ∧
      IsUsual count sentence ∧ sentence.inAlphabet = true ∧
      sentence.format .inline = text drawn := by
  have hnonempty : usualAlphabet ≠ [] := by decide
  have hvariables : ∀ name ∈ usualAlphabet, isVariableName name = true := by decide +kernel
  obtain ⟨number, rfl⟩ := Int.eq_ofNat_of_zero_le (Int.le_of_lt hcount)
  have hpositive : 0 < number := by omega
  have hwide : 0 < usualWidth := by decide
  obtain ⟨drawn, after, sentence, hrun, hdrawn, hclausal, halphabet, hlength, hwidth, hnames⟩ :=
    exists_sentence_of_draw hnonempty hvariables hpositive hwide state
  refine ⟨drawn, after, sentence, hrun, ⟨hclausal, by omega, hwidth, fun literal hliteral => ?_⟩,
    halphabet, hdrawn ▸ Sentence.format_of_isClausal hclausal⟩
  exact isUpper_of_mem_usualAlphabet (hnames literal hliteral)

/-! ## One clause a line -/

/-- The text with a line feed in place of the blank behind each `^`. -/
def breakLines (text : String) : String :=
  String.ofList (Text.replaceAll " ^ ".toList " ^\n".toList text.toList)

theorem breakLines_format {sentence : Sentence} (hclausal : sentence.isClausal = true) :
    breakLines (sentence.format .inline) = sentence.format .stacked := by
  have hinline : (sentence.format .inline).toList = sentence.render := String.toList_ofList
  rw [breakLines, hinline, Sentence.format, Sentence.renderStacked_of_isClausal hclausal]
  rfl

end Instance

namespace CommandLine

open Instance

variable {arguments : List String} {settings : Arguments} {ratioText : String}

/-! ## The plan of a seeded run -/

theorem plan_of_read (hread : Arguments.read arguments = .ok settings)
    (hratio : settings.ratio = some ratioText) (unseeded : Twister) :
    plan arguments unseeded =
      if settings.surplus then
        .usage (Journal.Level.requested settings.verbose settings.details)
      else .work (Journal.Level.requested settings.verbose settings.details)
        (workFor settings ratioText unseeded) := by
  simp only [plan, hread, hratio]
  cases settings.surplus <;> rfl

/-- The text that is emitted is that of the instance, or of what is read from it. -/
theorem emitted_of_draw {count : Int} {source after : Twister}
    {chosen : List (List (Literal String))} {sentence : Sentence}
    (hdraw : (draw count usualAlphabet usualWidth : Draw Twister _).run source =
      (.ok chosen, after))
    (hread : (Sentence.readClauses (text chosen)).result = .ok sentence) (multiline : Bool) :
    (emitted multiline count source).1 =
      .ok (if multiline then sentence.format .stacked else text chosen) := by
  have hstacked : (stacked (text chosen)).1 = .ok (sentence.format .stacked) := by
    simp only [stacked, Reading.reported, Reading.Mode.read, hread]
    rfl
  rw [emitted, drawn, hdraw]
  cases multiline with
  | false => rfl
  | true => exact hstacked

theorem result_workFor {count : Int} {ratio : Binary64} {seed : Int} {text : String}
    (hcount : clauseCount ratioText = .ok (count, ratio)) (hseed : settings.seed = some seed)
    (htext : (emitted settings.multiline count (.ofSeed seed)).1 = .ok text)
    (unseeded : Twister) :
    (workFor settings ratioText unseeded).result = .ok ⟨text, settings.output⟩ := by
  simp only [workFor, hcount, hseed, htext]
  rfl

end CommandLine

namespace Session

open Instance

/-- A run whose work comes to a text delivers it, unless an argument is left over or the path
cannot be written to. -/
theorem delivers_of_emitted {arguments : List String} {settings : CommandLine.Arguments}
    {ratioText text : String} {unseeded : Twister} {session after : Session} {run : Run}
    (hread : CommandLine.Arguments.read arguments = .ok settings)
    (hratio : settings.ratio = some ratioText)
    (hresult : (CommandLine.workFor settings ratioText unseeded).result =
      .ok ⟨text, settings.output⟩)
    (hrun : (runCommandLine arguments unseeded).run session = (run, after)) :
    (run.ending = .returned 0 ↔ settings.surplus = false ∧
      ∀ path, settings.output = some path →
        ∃ written, session.files.write path text = .ok written) ∧
    (run.ending = .returned 0 → Delivers ⟨text, settings.output⟩ run after.files) := by
  have hruns : Runs arguments unseeded session.files run after.files := by
    have hruns := runs_runCommandLine arguments unseeded session
    rwa [hrun] at hruns
  have hplan := CommandLine.plan_of_read hread hratio unseeded
  cases hsurplus : settings.surplus with
  | true =>
      have hending := hruns.ending_of_usage (by rw [hplan, if_pos hsurplus])
      simp [hending]
  | false =>
      have hemits := hruns.emits (by rw [hplan, if_neg (by simp [hsurplus])]) hresult
      refine ⟨?_, hemits.delivers⟩
      rw [hemits.ending_eq_returned_zero_iff]
      simp

/-! ## The main statement -/

/-- **Seeded runs.**  Let the text of a ratio ask for a number of clauses.  For every seed there
is a text in one line, which the library draws for that number from that seed, and a conjunction
of as many clauses, each of three literals named `A` to `Z`, that is read strictly both from this
text and from the one with its lines broken; the latter has as many lines.

Every command line with that ratio and that seed delivers the former text, or the latter if it
asks for lines, and returns zero, unless it holds an argument too many or a path that cannot be
written to.  Neither the other settings nor the session count for what is delivered: both texts
are fixed before any command line is looked at. -/
theorem runCommandLine_delivers {ratioText : String} {ratio : Binary64} {count : Int}
    (hratio : Ratio.read ratioText = .ok ratio)
    (hcount : Ratio.clauseCount ratio Ratio.usualLetters = .ok count) (seed : Int) :
    ∃ (single : String) (sentence : Sentence),
      (∀ session : Session, ((drawInstance (.integer count) usualAlphabet usualWidth
        (some (.ofSeed seed))).run session).1 = .ok single) ∧
      IsUsual count sentence ∧
      (Sentence.readClauses single).result = .ok sentence ∧
      (Sentence.readClauses (breakLines single)).result = .ok sentence ∧
      (((breakLines single).toList.splitOn '\n').length : Int) = count ∧
      ∀ (arguments : List String) (settings : CommandLine.Arguments),
        CommandLine.Arguments.read arguments = .ok settings → settings.ratio = some ratioText →
        settings.seed = some seed →
        ∀ (unseeded : Twister) (session after : Session) (run : Run),
          (runCommandLine arguments unseeded).run session = (run, after) →
          let text := if settings.multiline then breakLines single else single
          (run.ending = .returned 0 ↔ settings.surplus = false ∧
            ∀ path, settings.output = some path →
              ∃ written, session.files.write path text = .ok written) ∧
          (run.ending = .returned 0 → Delivers ⟨text, settings.output⟩ run after.files) := by
  have hpositive := Ratio.clauseCount_pos hcount
  have hasked : CommandLine.clauseCount ratioText = .ok (count, ratio) := by
    refine Except.bind_eq_ok_iff.mpr ⟨ratio, Except.mapError_eq_ok_iff.mpr hratio, ?_⟩
    exact Except.bind_eq_ok_iff.mpr ⟨count, Except.mapError_eq_ok_iff.mpr hcount, rfl⟩
  obtain ⟨chosen, random, sentence, hdraw, husual, halphabet, hformat⟩ :=
    exists_isUsual hpositive (Twister.ofSeed seed)
  have hclausal := husual.isClausal
  have hsingle := Sentence.readClauses_format_of_isClausal hclausal halphabet .inline
  have hlines := Sentence.readClauses_format_of_isClausal hclausal halphabet .stacked
  have hbroken := breakLines_format hclausal
  rw [hformat] at hsingle hbroken
  refine ⟨text chosen, sentence, fun session => fst_run_drawInstance_of_ok hdraw, husual, hsingle,
    hbroken ▸ hlines, ?_, ?_⟩
  · rw [hbroken, Sentence.length_splitOn_format_stacked hclausal]
    exact husual.count_eq
  · intro arguments settings hread hgiven hseed unseeded session after run hrun
    have htext := CommandLine.emitted_of_draw hdraw hsingle settings.multiline
    rw [← hbroken] at htext
    exact delivers_of_emitted hread hgiven (CommandLine.result_workFor hasked hseed htext unseeded)
      hrun

/-- With one clause a line, in a file. -/
theorem runCommandLine_delivers_file :
    ∃ (ratio : Binary64) (settings : CommandLine.Arguments) (single : String)
      (sentence : Sentence) (after : Session) (run : Run),
      Ratio.read "2.2" = .ok ratio ∧ Ratio.clauseCount ratio Ratio.usualLetters = .ok 57 ∧
      CommandLine.Arguments.read ["2.2", "hard.cnf", "--seed", "7", "--multiline"] =
        .ok settings ∧
      settings.ratio = some "2.2" ∧ settings.seed = some 7 ∧
      (runCommandLine ["2.2", "hard.cnf", "--seed", "7", "--multiline"] (.ofSeed 0)).run
        (.initial 0) = (run, after) ∧
      run.ending = .returned 0 ∧ run.output = "" ∧
      after.files.bytes "hard.cnf" = .ok (Text.Utf8.encode (breakLines single).toList) ∧
      (Sentence.readClauses (breakLines single)).result = .ok sentence ∧ IsUsual 57 sentence := by
  have hasked : ((Ratio.read "2.2").toOption.bind fun ratio =>
      (Ratio.clauseCount ratio Ratio.usualLetters).toOption) = some 57 := by
    decide +kernel
  obtain ⟨ratio, hratio, hcount⟩ : ∃ ratio, Ratio.read "2.2" = .ok ratio ∧
      Ratio.clauseCount ratio Ratio.usualLetters = .ok 57 := by
    obtain ⟨ratio, hratio, hcount⟩ := Option.bind_eq_some_iff.mp hasked
    exact ⟨ratio, Except.toOption_eq_some_iff.mp hratio, Except.toOption_eq_some_iff.mp hcount⟩
  have hsettings : CommandLine.Arguments.read
      ["2.2", "hard.cnf", "--seed", "7", "--multiline"] =
        .ok ⟨some "2.2", some "hard.cnf", some 7, true, false, false, false⟩ := by
    decide +kernel
  obtain ⟨single, sentence, -, husual, -, hread, -, hdelivers⟩ :=
    runCommandLine_delivers hratio hcount 7
  obtain ⟨⟨run, after⟩, hrun⟩ : ∃ result, (runCommandLine
      ["2.2", "hard.cnf", "--seed", "7", "--multiline"] (.ofSeed 0)).run (.initial 0) = result :=
    ⟨_, rfl⟩
  obtain ⟨hending, hdelivered⟩ := hdelivers _ _ hsettings rfl rfl _ _ _ _ hrun
  have hwritable : ∀ path, some "hard.cnf" = some path → ∃ written,
      (Session.initial 0).files.write path (breakLines single) = .ok written := by
    rintro path ⟨⟩
    exact ⟨_, rfl⟩
  have hzero := hending.mpr ⟨rfl, hwritable⟩
  obtain ⟨houtput, hfile⟩ := hdelivered hzero
  exact ⟨ratio, _, single, sentence, after, run, hratio, hcount, hsettings, rfl, rfl, hrun, hzero,
    houtput, hfile, hread, husual⟩

end Session

end Clausal
