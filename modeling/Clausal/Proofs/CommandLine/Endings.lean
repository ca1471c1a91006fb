import Clausal.Proofs.CommandLine.Work

/-!
# How a run ends

A caller of the command line expects a return code of zero or one, an exit before the run
proper, or a failure over a text that names no ratio (`Ending.IsForeseen`).  Two command lines
in which every argument is understood end otherwise (`Escapes`).  A ratio can be finite and its
product with the number of letters infinite; and a path can hold the character that no path
holds, which is not among the faults of writing that are turned into a return code.

There are no others: all other command lines end as foreseen, with whatever files and from
whatever source (`isForeseen_runCommandLine_iff`).
-/

namespace Clausal

namespace Files

variable {files : Files} {path : String}

theorem write_of_hasNul (hnul : hasNul path = true) (text : String) :
    files.write path text = .error .nulInPath := by
  rw [write, hnul, if_pos rfl]
  rfl

/-- What a path without that character cannot be written to for is a fault of writing. -/
theorem exists_of_write_eq_error (hnul : hasNul path = false) {text : String} {fault : TextFault}
    (hwrite : files.write path text = .error fault) :
    ∃ placeFault, fault = .writing path placeFault := by
  rw [write, hnul, if_neg Bool.false_ne_true] at hwrite
  cases hbytes : files.writeBytes path (Text.Utf8.encode text.toList) with
  | ok written =>
      rw [hbytes] at hwrite
      cases hwrite
  | error placeFault =>
      rw [hbytes] at hwrite
      cases hwrite
      exact ⟨placeFault, rfl⟩

end Files

namespace Session

open CommandLine

/-! ## Foreseen endings -/

/-- The endings that a caller expects. -/
inductive Ending.IsForeseen : Ending → Prop
  | returned {code : Nat} (hcode : code ≤ 1) : IsForeseen (.returned code)
  | exited (code : Nat) : IsForeseen (.exited code)
  /-- The text of the ratio names none. -/
  | noRatio (fault : Ratio.Fault) : IsForeseen (.failed (.ratio fault))

/-- The other failures, and the command lines that end with them. -/
inductive Escapes (arguments : List String) : Failure → Prop
  | tooLarge {settings : Arguments} {ratioText : String} {ratio : Binary64}
      (hasks : Asks arguments settings ratioText) (hratio : Ratio.read ratioText = .ok ratio)
      (hlarge : Ratio.TooLarge ratio) :
      Escapes arguments (.number .infinite)
  | nulInPath {settings : Arguments} {ratioText path : String} {ratio : Binary64}
      (hasks : Asks arguments settings ratioText) (hratio : Ratio.read ratioText = .ok ratio)
      (hcounted : ¬ Ratio.TooLarge ratio) (houtput : settings.output = some path)
      (hnul : Files.hasNul path = true) :
      Escapes arguments (.file .nulInPath)

variable {arguments : List String} {unseeded : Twister} {files after : Files} {run : Run}
  {failure : Failure}

theorem Escapes.not_isForeseen (hescapes : Escapes arguments failure) :
    ¬ (Ending.failed failure).IsForeseen := by
  cases hescapes with
  | tooLarge => exact fun hforeseen => nomatch hforeseen
  | nulInPath => exact fun hforeseen => nomatch hforeseen

/-! ## Every run -/

/-- A text goes out with a code, unless its path is none. -/
theorem Emits.isForeseen_or_nulInPath {emission : Emission}
    (hemits : Emits emission files run after) :
    run.ending.IsForeseen ∨ run.ending = .failed (.file .nulInPath) ∧
      ∃ path, emission.output = some path ∧ Files.hasNul path = true := by
  cases hemits with
  | printed => exact .inl (.returned (Nat.zero_le 1))
  | written => exact .inl (.returned (Nat.zero_le 1))
  | unwritable => exact .inl (.returned (Nat.le_refl 1))
  | @noPath path fault houtput hwrite hother =>
      cases hnul : Files.hasNul path with
      | true =>
          rw [Files.write_of_hasNul hnul] at hwrite
          cases hwrite
          exact .inr ⟨rfl, path, houtput, hnul⟩
      | false =>
          obtain ⟨placeFault, hfault⟩ := Files.exists_of_write_eq_error hnul hwrite
          exact absurd hfault (hother path placeFault)

theorem Runs.isForeseen_or_escapes (hruns : Runs arguments unseeded files run after) :
    run.ending.IsForeseen ∨ ∃ failure, Escapes arguments failure ∧
      run.ending = .failed failure := by
  cases hruns with
  | help => exact .inl (.exited 0)
  | refused => exact .inl (.exited 2)
  | usage => exact .inl (.returned (Nat.le_refl 1))
  | failed hplan hfailed =>
      obtain ⟨settings, ratioText, hasks, hcomes⟩ := exists_comesTo_of_plan_eq_work hplan
      rw [hfailed] at hcomes
      cases hcomes with
      | noRatio hratio => exact .inl (.noRatio _)
      | tooLarge hratio hlarge => exact .inr ⟨_, .tooLarge hasks hratio hlarge, rfl⟩
  | emitted hplan hemitted hemits =>
      obtain ⟨settings, ratioText, hasks, hcomes⟩ := exists_comesTo_of_plan_eq_work hplan
      rw [hemitted] at hcomes
      cases hcomes with
      | text hratio hcounted htext =>
          rcases hemits.isForeseen_or_nulInPath with hforeseen | ⟨hending, path, houtput, hnul⟩
          · exact .inl hforeseen
          · exact .inr ⟨_, .nulInPath hasks hratio hcounted houtput hnul, hending⟩

/-! ## The runs that escape -/

theorem Runs.ending_of_failed {level : Journal.Level} {work : Work}
    (hruns : Runs arguments unseeded files run after)
    (hwork : plan arguments unseeded = .work level work) (hresult : work.result = .error failure) :
    run.ending = .failed failure := by
  cases hruns with
  | help hplan | refused hplan | usage hplan =>
      rw [hwork] at hplan
      cases hplan
  | failed hplan hfailed =>
      rw [hwork] at hplan
      cases hplan
      rw [hresult] at hfailed
      cases hfailed
      rfl
  | emitted hplan hemitted =>
      rw [hwork] at hplan
      cases hplan
      rw [hresult] at hemitted
      cases hemitted

/-- A text whose path is none does not go out. -/
theorem Emits.ending_of_hasNul {emission : Emission} {path : String}
    (hemits : Emits emission files run after) (houtput : emission.output = some path)
    (hnul : Files.hasNul path = true) : run.ending = .failed (.file .nulInPath) := by
  have hwrite : files.write path emission.text = .error .nulInPath :=
    Files.write_of_hasNul hnul emission.text
  cases hemits with
  | printed hprinted =>
      rw [houtput] at hprinted
      cases hprinted
  | written hpath hwritten | unwritable hpath hwritten =>
      rw [houtput] at hpath
      cases hpath
      rw [hwrite] at hwritten
      cases hwritten
  | noPath hpath hwritten =>
      rw [houtput] at hpath
      cases hpath
      rw [hwrite] at hwritten
      cases hwritten
      rfl

theorem Escapes.ending_eq (hescapes : Escapes arguments failure)
    (hruns : Runs arguments unseeded files run after) : run.ending = .failed failure := by
  cases hescapes with
  | tooLarge hasks hratio hlarge =>
      exact hruns.ending_of_failed (plan_of_asks hasks unseeded)
        (result_workFor_of_tooLarge _ unseeded hratio hlarge)
  | nulInPath hasks hratio hcounted houtput hnul =>
      obtain ⟨text, -, hresult⟩ := exists_result_workFor _ unseeded hratio hcounted
      have hemits := hruns.emits (plan_of_asks hasks unseeded) hresult
      exact hemits.ending_of_hasNul houtput hnul

/-! ## The main statement -/

/-- **Endings.**  A run returns zero or one, exits before the run proper, or fails over a text
that names no ratio, if and only if its command line is none of two kinds: it asks for work on a
finite ratio so large that its product with the number of letters is rounded to infinity, or for
work on another whose text is to go to a path that holds the character that no path holds.  A
run of the former kind fails over the infinite number, one of the latter over the path. -/
theorem isForeseen_runCommandLine_iff (arguments : List String) (unseeded : Twister)
    (session : Session) :
    let ending := ((runCommandLine arguments unseeded).run session).1.ending
    (ending.IsForeseen ↔ ∀ failure, ¬ Escapes arguments failure) ∧
      ∀ failure, Escapes arguments failure → ending = .failed failure := by
  have hruns := runs_runCommandLine arguments unseeded session
  refine ⟨⟨fun hforeseen failure hescapes => ?_, fun hnone => ?_⟩,
    fun failure hescapes => hescapes.ending_eq hruns⟩
  · rw [hescapes.ending_eq hruns] at hforeseen
    exact hescapes.not_isForeseen hforeseen
  · rcases hruns.isForeseen_or_escapes with hforeseen | ⟨failure, hescapes, -⟩
    · exact hforeseen
    · exact absurd hescapes (hnone failure)

theorem escapes_huge_ratio : Escapes ["1e308"] (.number .infinite) := by
  have hread : Arguments.read ["1e308"] =
      .ok ⟨some "1e308", none, none, false, false, false, false⟩ := by
    decide +kernel
  have hlarge : (Ratio.read "1e308").toOption.any (fun ratio => Ratio.TooLarge ratio) = true := by
    decide +kernel
  obtain ⟨ratio, hratio, hlarge⟩ := Except.toOption_any_eq_true_iff.mp hlarge
  exact .tooLarge ⟨hread, rfl, rfl⟩ hratio (of_decide_eq_true hlarge)

theorem escapes_nul_in_path : Escapes ["1", "a\x00"] (.file .nulInPath) := by
  have hread : Arguments.read ["1", "a\x00"] =
      .ok ⟨some "1", some "a\x00", none, false, false, false, false⟩ := by
    decide +kernel
  have hcounted : (Ratio.read "1").toOption.any (fun ratio => ¬ Ratio.TooLarge ratio) = true := by
    decide +kernel
  obtain ⟨ratio, hratio, hcounted⟩ := Except.toOption_any_eq_true_iff.mp hcounted
  exact .nulInPath ⟨hread, rfl, rfl⟩ hratio (of_decide_eq_true hcounted) rfl (by decide)

/-- A ratio that is finite, and a path that is none. -/
theorem not_isForeseen_of_huge_ratio :
    let ending := ((runCommandLine ["1e308"] (.ofSeed 0)).run (.initial 0)).1.ending
    let ending' := ((runCommandLine ["1", "a\x00"] (.ofSeed 0)).run (.initial 0)).1.ending
    (Ratio.read "1e308").toOption.isSome = true ∧
      ending = .failed (.number .infinite) ∧ ¬ ending.IsForeseen ∧
      ending' = .failed (.file .nulInPath) ∧ ¬ ending'.IsForeseen := by
  have hhuge := escapes_huge_ratio.ending_eq
    (runs_runCommandLine ["1e308"] (.ofSeed 0) (.initial 0))
  have hnul := escapes_nul_in_path.ending_eq
    (runs_runCommandLine ["1", "a\x00"] (.ofSeed 0) (.initial 0))
  exact ⟨by decide +kernel, hhuge, hhuge ▸ escapes_huge_ratio.not_isForeseen, hnul,
    hnul ▸ escapes_nul_in_path.not_isForeseen⟩

end Session

end Clausal
