import Clausal.Proofs.Files.Writing
import Clausal.Session

/-!
# What a run comes to

All that a run of the command line can show and do to the files, case by case: `Emits` for a
text on its way out and `Runs` for the whole.  The journal is left out of both.  It takes its
level from the command line and records from every stage, and nothing that is shown or
written depends on it.

A run that returns zero has delivered a text: as the whole output with a line feed behind it,
or as the whole of a file (`Emits.delivers`).
-/

namespace Clausal

namespace Session

variable {session : Session}

/-! ## Saving a text -/

theorem run_save_of_ok {path text : String} {after : Files}
    (hwrite : session.files.write path text = .ok after) :
    (save path text).run session = (.ok (), { session with
      files := after
      journal := session.journal.post (.fileWritten path text.length) }) := by
  simp only [save, post, StateT.run_bind, StateT.run_get, pure_bind, hwrite]
  rfl

theorem run_save_of_error {path text : String} {fault : Files.TextFault}
    (hwrite : session.files.write path text = .error fault) :
    (save path text).run session = (.error (.file fault), session) := by
  simp only [save, StateT.run_bind, StateT.run_get, pure_bind, hwrite]
  rfl

/-! ## Emitting a text -/

/-- How a text goes out: what is shown, and the files after it. -/
inductive Emits (emission : CommandLine.Emission) (files : Files) : Run → Files → Prop
  | printed (houtput : emission.output = none) :
      Emits emission files ⟨emission.text ++ "\n", "", .returned 0⟩ files
  | written {path : String} {after : Files} (houtput : emission.output = some path)
      (hwrite : files.write path emission.text = .ok after) :
      Emits emission files ⟨"", "", .returned 0⟩ after
  /-- The path cannot be written to. -/
  | unwritable {path place : String} {fault : Files.Fault} (houtput : emission.output = some path)
      (hwrite : files.write path emission.text = .error (.writing place fault)) :
      Emits emission files ⟨"", "", .returned 1⟩ files
  /-- What is given as a path cannot be one. -/
  | noPath {path : String} {fault : Files.TextFault} (houtput : emission.output = some path)
      (hwrite : files.write path emission.text = .error fault)
      (hother : ∀ place placeFault, fault ≠ .writing place placeFault) :
      Emits emission files ⟨"", "", .failed (.file fault)⟩ files

theorem emits_emit (emission : CommandLine.Emission) (session : Session) :
    Emits emission session.files ((emit emission).run session).1
      ((emit emission).run session).2.files := by
  rw [emit]
  cases houtput : emission.output with
  | none => exact .printed houtput
  | some path =>
      rw [StateT.run_bind]
      cases hwrite : session.files.write path emission.text with
      | ok after =>
          rw [run_save_of_ok hwrite]
          exact .written houtput hwrite
      | error fault =>
          rw [run_save_of_error hwrite]
          cases fault with
          | writing place placeFault => exact .unwritable houtput hwrite
          | nulInPath | reading | undecodable => exact .noPath houtput hwrite (by simp)

/-- Where a text arrives: on standard output with a line feed behind it, or in a file that
holds nothing else. -/
def Delivers (emission : CommandLine.Emission) (run : Run) (after : Files) : Prop :=
  match emission.output with
  | none => run.output = emission.text ++ "\n"
  | some path =>
    run.output = "" ∧ after.bytes path = .ok (Text.Utf8.encode emission.text.toList)

namespace Emits

variable {emission : CommandLine.Emission} {files after : Files} {run : Run}

/-- Only a path that cannot be written to is in the way of a text. -/
theorem ending_eq_returned_zero_iff (hemits : Emits emission files run after) :
    run.ending = .returned 0 ↔ ∀ path, emission.output = some path →
      ∃ written, files.write path emission.text = .ok written := by
  cases hemits with
  | printed houtput => simp [houtput]
  | written houtput hwrite => simp [houtput, hwrite]
  | unwritable houtput hwrite => simp [houtput, hwrite]
  | noPath houtput hwrite => simp [houtput, hwrite]

/-- What returns zero has delivered the text. -/
theorem delivers (hemits : Emits emission files run after) (hending : run.ending = .returned 0) :
    Delivers emission run after := by
  unfold Delivers
  cases hemits with
  | printed houtput => rw [houtput]
  | written houtput hwrite =>
      rw [houtput]
      exact ⟨rfl, Files.bytes_of_write_eq_ok hwrite⟩
  | unwritable => simp at hending
  | noPath => simp at hending

end Emits

/-! ## The whole run -/

/-- What a run shows, and the files after it. -/
inductive Runs (arguments : List String) (unseeded : Twister) (files : Files) :
    Run → Files → Prop
  | help (hplan : CommandLine.plan arguments unseeded = .help) :
      Runs arguments unseeded files ⟨CommandLine.help, "", .exited 0⟩ files
  | refused {refusal : CommandLine.Refusal}
      (hplan : CommandLine.plan arguments unseeded = .refuse refusal) :
      Runs arguments unseeded files ⟨"", CommandLine.complaint refusal, .exited 2⟩ files
  | usage {level : Journal.Level} (hplan : CommandLine.plan arguments unseeded = .usage level) :
      Runs arguments unseeded files ⟨CommandLine.usage, "", .returned 1⟩ files
  | failed {level : Journal.Level} {work : CommandLine.Work} {failure : Failure}
      (hplan : CommandLine.plan arguments unseeded = .work level work)
      (hwork : work.result = .error failure) :
      Runs arguments unseeded files ⟨"", "", .failed failure⟩ files
  | emitted {level : Journal.Level} {work : CommandLine.Work} {emission : CommandLine.Emission}
      {run : Run} {after : Files}
      (hplan : CommandLine.plan arguments unseeded = .work level work)
      (hwork : work.result = .ok emission) (hemits : Emits emission files run after) :
      Runs arguments unseeded files run after

theorem runs_runCommandLine (arguments : List String) (unseeded : Twister) (session : Session) :
    Runs arguments unseeded session.files ((runCommandLine arguments unseeded).run session).1
      ((runCommandLine arguments unseeded).run session).2.files := by
  rw [runCommandLine]
  cases hplan : CommandLine.plan arguments unseeded with
  | help => exact .help hplan
  | refuse refusal => exact .refused hplan
  | usage level => exact .usage hplan
  | work level work =>
      cases hwork : work.result with
      | error failure =>
          simp only [StateT.run_bind, hwork]
          exact .failed hplan hwork
      | ok emission =>
          simp only [StateT.run_bind, hwork]
          -- the journal alone differs when the text goes out
          exact .emitted hplan hwork (emits_emit emission { session with
            journal := ({ session.journal with level := level }).postAll work.records })

namespace Runs

variable {arguments : List String} {unseeded : Twister} {files after : Files} {run : Run}

theorem ending_of_usage {level : Journal.Level} (hruns : Runs arguments unseeded files run after)
    (husage : CommandLine.plan arguments unseeded = .usage level) :
    run.ending = .returned 1 := by
  cases hruns with
  | usage => rfl
  | help hplan | refused hplan | failed hplan | emitted hplan =>
      rw [husage] at hplan
      cases hplan

/-- A run whose work succeeds emits what comes of it. -/
theorem emits {level : Journal.Level} {work : CommandLine.Work} {emission : CommandLine.Emission}
    (hruns : Runs arguments unseeded files run after)
    (hwork : CommandLine.plan arguments unseeded = .work level work)
    (hresult : work.result = .ok emission) : Emits emission files run after := by
  cases hruns with
  | help hplan | refused hplan | usage hplan =>
      rw [hwork] at hplan
      cases hplan
  | failed hplan hfailed =>
      rw [hwork] at hplan
      cases hplan
      rw [hresult] at hfailed
      cases hfailed
  | emitted hplan hemission hemits =>
      rw [hwork] at hplan
      cases hplan
      rw [hresult] at hemission
      cases hemission
      exact hemits

end Runs

end Session

end Clausal
