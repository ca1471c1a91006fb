import Clausal.Proofs.Binary64.Overflow
import Clausal.Proofs.CommandLine.SeededRuns

/-!
# What the work comes to

A command line asks for work if its arguments are understood, name a ratio and leave nothing
over (`Asks`).  The work ends in one of three ways (`ComesTo`): the text of the ratio is
refused, the ratio is too large to be counted with, or the text of an instance goes out.  Once
there is a count nothing can go wrong: a draw over the usual alphabet succeeds, and what was
drawn is read strictly when its lines are to be broken.
-/

namespace Clausal

namespace CommandLine

open Instance

variable {arguments : List String} {settings : Arguments} {ratioText : String}

/-! ## The work that is asked for -/

/-- The command line asks for work with these settings on the ratio that the text names. -/
structure Asks (arguments : List String) (settings : Arguments) (ratioText : String) : Prop where
  read_eq : Arguments.read arguments = .ok settings
  ratio_eq : settings.ratio = some ratioText
  surplus_eq : settings.surplus = false

theorem plan_of_asks (hasks : Asks arguments settings ratioText) (unseeded : Twister) :
    plan arguments unseeded =
      .work (Journal.Level.requested settings.verbose settings.details)
        (workFor settings ratioText unseeded) := by
  rw [plan_of_read hasks.read_eq hasks.ratio_eq, hasks.surplus_eq, if_neg Bool.false_ne_true]

/-! ## The text of an instance -/

/-- The source that draws are taken from: that of the seed, if there is one. -/
def Arguments.source (settings : Arguments) (unseeded : Twister) : Twister :=
  match settings.seed with
  | some seed => .ofSeed seed
  | none => unseeded

/-- The texts of the instance that the library draws from a source for the number of clauses
that a ratio asks for: in one line, and with one clause a line. -/
inductive IsInstanceText (ratio : Binary64) (source : Twister) : Bool → String → Prop
  | intro {count : Int} {single : String} {sentence : Sentence}
      (hcount : Ratio.clauseCount ratio Ratio.usualLetters = .ok count)
      (hdrawn : ∀ session : Session, ((Session.drawInstance (.integer count) usualAlphabet
        usualWidth (some source)).run session).1 = .ok single)
      (husual : IsUsual count sentence)
      (hread : (Sentence.readClauses single).result = .ok sentence) (multiline : Bool) :
      IsInstanceText ratio source multiline (if multiline then breakLines single else single)

/-- Whatever the count, a text is emitted. -/
theorem exists_emitted_eq_ok {ratio : Binary64} {count : Int}
    (hcount : Ratio.clauseCount ratio Ratio.usualLetters = .ok count) (source : Twister)
    (multiline : Bool) :
    ∃ text, IsInstanceText ratio source multiline text ∧
      (emitted multiline count source).1 = .ok text := by
  obtain ⟨chosen, random, sentence, hdraw, husual, halphabet, hformat⟩ :=
    exists_isUsual (Ratio.clauseCount_pos hcount) source
  have hclausal := husual.isClausal
  have hsingle := Sentence.readClauses_format_of_isClausal hclausal halphabet .inline
  have hbroken := breakLines_format hclausal
  rw [hformat] at hsingle hbroken
  have htext := emitted_of_draw hdraw hsingle multiline
  rw [← hbroken] at htext
  refine ⟨_, .intro hcount (fun session => ?_) husual hsingle multiline, htext⟩
  exact Session.fst_run_drawInstance_of_ok hdraw

/-! ## How the work ends -/

section Result

variable {ratio : Binary64}

theorem isFinite_of_read_eq_ok (hratio : Ratio.read ratioText = .ok ratio) :
    ratio.isFinite = true := by
  rw [Ratio.read] at hratio
  split at hratio
  · cases hratio
  · split at hratio
    · next hfinite =>
        cases hratio
        exact hfinite
    · cases hratio

variable (settings : Arguments) (unseeded : Twister)

theorem result_workFor_of_noRatio {fault : Ratio.Fault}
    (hratio : Ratio.read ratioText = .error fault) :
    (workFor settings ratioText unseeded).result = .error (.ratio fault) := by
  have hasked : clauseCount ratioText = .error (.ratio fault) := by
    rw [clauseCount, hratio]
    rfl
  simp only [workFor, hasked]

theorem result_workFor_of_tooLarge (hratio : Ratio.read ratioText = .ok ratio)
    (hlarge : Ratio.TooLarge ratio) :
    (workFor settings ratioText unseeded).result = .error (.number .infinite) := by
  have hcount := Ratio.clauseCount_of_tooLarge (isFinite_of_read_eq_ok hratio) hlarge
  have hasked : clauseCount ratioText = .error (.number .infinite) := by
    simp only [clauseCount, hratio, hcount, Except.mapError, bind, Except.bind]
  simp only [workFor, hasked]

/-- Where there is a number of clauses, the text of an instance goes out. -/
theorem exists_result_workFor (hratio : Ratio.read ratioText = .ok ratio)
    (hcounted : ¬ Ratio.TooLarge ratio) :
    ∃ text, IsInstanceText ratio (settings.source unseeded) settings.multiline text ∧
      (workFor settings ratioText unseeded).result = .ok ⟨text, settings.output⟩ := by
  have hfinite := isFinite_of_read_eq_ok hratio
  obtain ⟨count, hcount⟩ := Ratio.exists_clauseCount_of_not_tooLarge hfinite hcounted
  have hasked : clauseCount ratioText = .ok (count, ratio) := by
    refine Except.bind_eq_ok_iff.mpr ⟨ratio, Except.mapError_eq_ok_iff.mpr hratio, ?_⟩
    exact Except.bind_eq_ok_iff.mpr ⟨count, Except.mapError_eq_ok_iff.mpr hcount, rfl⟩
  obtain ⟨text, htext, hemitted⟩ :=
    exists_emitted_eq_ok hcount (settings.source unseeded) settings.multiline
  have hresult : (workFor settings ratioText unseeded).result =
      (emitted settings.multiline count (settings.source unseeded)).1.map
        fun text => ⟨text, settings.output⟩ := by
    rw [workFor, hasked]
    rfl
  rw [hemitted] at hresult
  exact ⟨text, htext, hresult⟩

end Result

/-- What the work on a ratio under some settings ends with. -/
inductive ComesTo (settings : Arguments) (ratioText : String) (unseeded : Twister) :
    Except Failure Emission → Prop
  /-- The text of the ratio is refused. -/
  | noRatio {fault : Ratio.Fault} (hratio : Ratio.read ratioText = .error fault) :
      ComesTo settings ratioText unseeded (.error (.ratio fault))
  /-- There is no number of clauses. -/
  | tooLarge {ratio : Binary64} (hratio : Ratio.read ratioText = .ok ratio)
      (hlarge : Ratio.TooLarge ratio) :
      ComesTo settings ratioText unseeded (.error (.number .infinite))
  | text {ratio : Binary64} {text : String} (hratio : Ratio.read ratioText = .ok ratio)
      (hcounted : ¬ Ratio.TooLarge ratio)
      (htext : IsInstanceText ratio (settings.source unseeded) settings.multiline text) :
      ComesTo settings ratioText unseeded (.ok ⟨text, settings.output⟩)

theorem comesTo_result_workFor (settings : Arguments) (ratioText : String) (unseeded : Twister) :
    ComesTo settings ratioText unseeded (workFor settings ratioText unseeded).result := by
  cases hratio : Ratio.read ratioText with
  | error fault =>
      rw [result_workFor_of_noRatio settings unseeded hratio]
      exact .noRatio hratio
  | ok ratio =>
      by_cases hlarge : Ratio.TooLarge ratio
      · rw [result_workFor_of_tooLarge settings unseeded hratio hlarge]
        exact .tooLarge hratio hlarge
      · obtain ⟨text, htext, hresult⟩ := exists_result_workFor settings unseeded hratio hlarge
        rw [hresult]
        exact .text hratio hlarge htext

/-- There is work only where it is asked for, and it ends in one of these ways. -/
theorem exists_comesTo_of_plan_eq_work {unseeded : Twister} {level : Journal.Level} {work : Work}
    (hplan : plan arguments unseeded = .work level work) :
    ∃ settings ratioText, Asks arguments settings ratioText ∧
      ComesTo settings ratioText unseeded work.result := by
  rw [plan] at hplan
  split at hplan
  · cases hplan
  · cases hplan
  · next settings hread =>
      simp only at hplan
      split at hplan
      · next ratioText hratio hsurplus =>
          cases hplan
          exact ⟨settings, ratioText, ⟨hread, hratio, hsurplus⟩,
            comesTo_result_workFor settings ratioText unseeded⟩
      · cases hplan

end CommandLine

end Clausal
