import Clausal.Proofs.CommandLine.Work

/-!
# All or nothing

A run that does not return zero leaves the files as they are, and what it shows is at most the
usage or the help.  No text of an instance is in them: such a text begins with a parenthesis
and, after that, a negation or the name of a letter (`exists_format_eq`), and in the
help a parenthesis is followed by a small letter.

A run that returns zero has done one of two things with the whole text of its instance.  It has
shown it with a line feed behind it, and changed no file; or it has shown nothing, and changed
the entry that the path leads to and no other.
-/

namespace Clausal

namespace Files

variable {files after : Files} {path text : String}

/-- Of two trees, the second has the text as the whole of the file that a path leads to in the
first, and agrees with it everywhere else. -/
def OnlyHolds (files : Files) (path text : String) (after : Files) : Prop :=
  ∃ place location, files.LeadsTo path place location ∧
    after.entryAt? location = some (.file (Text.Utf8.encode text.toList)) ∧
    ∀ other, other ≠ location → after.entryAt? other = files.entryAt? other

theorem onlyHolds_of_write_eq_ok (hwrite : files.write path text = .ok after) :
    files.OnlyHolds path text after := by
  rw [write] at hwrite
  split at hwrite
  · cases hwrite
  · obtain ⟨place, location, hleads, -, hentry, rfl⟩ :=
      exists_of_writeBytes_eq_ok (Except.mapError_eq_ok_iff.mp hwrite)
    have hbelow : location ≠ [] := by
      rintro rfl
      exact hentry files.entryAt?_nil
    exact ⟨place, location, hleads, files.entryAt?_put_self hbelow _,
      fun other hother => files.entryAt?_put_of_ne hother _⟩

end Files

namespace Instance

/-! ## Where an instance begins -/

/-- Whether a text begins as a literal does. -/
def opensLiteral : List Char → Bool
  | mark :: _ => mark == negationSymbol || mark.isUpper
  | [] => false

theorem opensLiteral_append {text : List Char} (hopens : opensLiteral text = true)
    (rest : List Char) : opensLiteral (text ++ rest) = true := by
  cases text with
  | nil => exact absurd hopens Bool.false_ne_true
  | cons mark more => exact hopens

theorem opensLiteral_renderOperand {literal : Literal Letter}
    (hupper : literal.name.char.isUpper = true) :
    opensLiteral (Sentence.ofLiteral literal).renderOperand = true := by
  obtain ⟨negated, name⟩ := literal
  cases negated with
  | false => exact Bool.or_eq_true_iff.mpr (.inr hupper)
  | true => rfl

/-- The text of a clause begins with a parenthesis and a literal. -/
theorem exists_renderOperand_eq {clause : Sentence} (hclause : clause.isClause = true)
    (hnames : ∀ literal ∈ clause.literals, literal.name.char.isUpper = true) :
    ∃ rest, clause.renderOperand = '(' :: rest ∧ opensLiteral rest = true := by
  obtain ⟨first, others, rfl, hliterals⟩ := Sentence.isClause_eq_true_iff.mp hclause
  obtain ⟨literal, rfl⟩ := Sentence.exists_eq_ofLiteral (hliterals first List.mem_cons_self)
  have hliteral : literal ∈ (Sentence.group .or (.ofLiteral literal) others).literals := by
    rw [Sentence.literals_group, Sentence.literals_ofLiteral]
    exact List.mem_append_left _ List.mem_cons_self
  have hopens := opensLiteral_renderOperand (hnames literal hliteral)
  exact ⟨_, rfl, opensLiteral_append (opensLiteral_append hopens _) _⟩

/-- So does that of an instance, in either layout. -/
theorem exists_format_eq {count : Int} {sentence : Sentence} (husual : IsUsual count sentence)
    (layout : Layout) :
    ∃ rest, (sentence.format layout).toList = '(' :: rest ∧ opensLiteral rest = true := by
  obtain ⟨first, others, rfl, hclauses⟩ := Sentence.isClausal_eq_true_iff.mp husual.isClausal
  obtain ⟨rest, hrender, hopens⟩ := exists_renderOperand_eq (hclauses first List.mem_cons_self)
    fun literal hliteral => husual.names literal (by
      rw [Sentence.literals_group]
      exact List.mem_append_left _ hliteral)
  have hformat : ∃ more, (Sentence.format (.group .and first others) layout).toList =
      first.renderOperand ++ more := by
    cases layout with
    | inline => exact ⟨_, String.toList_ofList⟩
    | stacked => exact ⟨_, String.toList_ofList⟩
  obtain ⟨more, hmore⟩ := hformat
  rw [hmore, hrender]
  exact ⟨rest ++ more, rfl, opensLiteral_append hopens more⟩

/-! ## Texts without an instance -/

/-- Whether something that begins no literal follows each opening parenthesis of a text. -/
def opensNoClause : List Char → Bool
  | [] => true
  | c :: rest => (c != '(' || !rest.isEmpty && !opensLiteral rest) && opensNoClause rest

theorem opensNoClause_append {text text' : List Char} (hnone : opensNoClause text = true)
    (hnone' : opensNoClause text' = true) : opensNoClause (text ++ text') = true := by
  induction text with
  | nil => exact hnone'
  | cons c rest ih =>
      rw [opensNoClause, Bool.and_eq_true] at hnone
      rw [List.cons_append, opensNoClause, Bool.and_eq_true]
      refine ⟨?_, ih hnone.2⟩
      cases rest with
      | nil =>
          have hother : c ≠ '(' := by simpa using hnone.1
          simp [hother]
      | cons mark more => exact hnone.1

theorem opensNoClause_of_append {text text' : List Char}
    (hnone : opensNoClause (text ++ text') = true) : opensNoClause text' = true := by
  induction text with
  | nil => exact hnone
  | cons c rest ih =>
      rw [List.cons_append, opensNoClause, Bool.and_eq_true] at hnone
      exact ih hnone.2

/-- The text holds that of no instance. -/
def HoldsNone (text : String) : Prop :=
  ∀ (count : Int) (sentence : Sentence) (layout : Layout), IsUsual count sentence →
    ¬ (sentence.format layout).toList <:+: text.toList

theorem holdsNone_of_opensNoClause {text : String} (hnone : opensNoClause text.toList = true) :
    HoldsNone text := by
  rintro count sentence layout husual ⟨front, back, htext⟩
  obtain ⟨rest, hformat, hopens⟩ := exists_format_eq husual layout
  rw [← htext, List.append_assoc, hformat] at hnone
  have hstart := opensNoClause_of_append hnone
  rw [List.cons_append, opensNoClause, opensLiteral_append hopens] at hstart
  simp at hstart

end Instance

namespace Session

open CommandLine Instance

/-! ## What a run without an instance shows -/

theorem opensNoClause_of_eq_ofList {text : String} {chars : List Char}
    (htext : text = String.ofList chars) (hnone : opensNoClause chars = true) :
    opensNoClause text.toList = true := by
  rwa [htext, String.toList_ofList]

theorem opensNoClause_toList_append {text text' : String}
    (hnone : opensNoClause text.toList = true) (hnone' : opensNoClause text'.toList = true) :
    opensNoClause (text ++ text').toList = true := by
  rw [String.toList_append]
  exact opensNoClause_append hnone hnone'

theorem holdsNone_empty : HoldsNone "" := holdsNone_of_opensNoClause (by decide)

theorem opensNoClause_usage : opensNoClause CommandLine.usage.toList = true := by
  apply opensNoClause_toList_append <;>
  · apply opensNoClause_of_eq_ofList
    · rfl
    · decide +kernel

theorem opensNoClause_help : opensNoClause CommandLine.help.toList = true := by
  -- line by line, from the last to the usage
  iterate 19
    apply opensNoClause_toList_append
    on_goal 2 =>
      apply opensNoClause_of_eq_ofList
      · rfl
      · decide +kernel
  exact opensNoClause_usage

variable {arguments : List String} {unseeded : Twister} {files after : Files} {run : Run}

/-! ## The two cases -/

theorem Emits.unchanged_of_ending_ne {emission : Emission}
    (hemits : Emits emission files run after) (hending : run.ending ≠ .returned 0) :
    after = files ∧ run.output = "" := by
  cases hemits with
  | printed | written => exact absurd rfl hending
  | unwritable | noPath => exact ⟨rfl, rfl⟩

theorem Runs.unchanged_of_ending_ne (hruns : Runs arguments unseeded files run after)
    (hending : run.ending ≠ .returned 0) : after = files ∧ HoldsNone run.output := by
  cases hruns with
  | help => exact ⟨rfl, holdsNone_of_opensNoClause opensNoClause_help⟩
  | refused => exact ⟨rfl, holdsNone_empty⟩
  | usage => exact ⟨rfl, holdsNone_of_opensNoClause opensNoClause_usage⟩
  | failed => exact ⟨rfl, holdsNone_empty⟩
  | emitted hplan hemitted hemits =>
      obtain ⟨hfiles, houtput⟩ := hemits.unchanged_of_ending_ne hending
      exact ⟨hfiles, houtput ▸ holdsNone_empty⟩

/-- What has become of a text that went out: it was shown with a line feed behind it, or is in
the file that the path leads to. -/
def WentOut (emission : Emission) (files : Files) (run : Run) (after : Files) : Prop :=
  match emission.output with
  | none => run.output = emission.text ++ "\n" ∧ after = files
  | some path => run.output = "" ∧ files.OnlyHolds path emission.text after

theorem Emits.wentOut {emission : Emission} (hemits : Emits emission files run after)
    (hending : run.ending = .returned 0) : WentOut emission files run after := by
  unfold WentOut
  cases hemits with
  | printed houtput =>
      rw [houtput]
      exact ⟨rfl, rfl⟩
  | written houtput hwrite =>
      rw [houtput]
      exact ⟨rfl, Files.onlyHolds_of_write_eq_ok hwrite⟩
  | unwritable => cases hending
  | noPath => cases hending

theorem Runs.wentOut (hruns : Runs arguments unseeded files run after)
    (hending : run.ending = .returned 0) :
    ∃ settings ratioText ratio text, Asks arguments settings ratioText ∧
      Ratio.read ratioText = .ok ratio ∧
      IsInstanceText ratio (settings.source unseeded) settings.multiline text ∧
      WentOut ⟨text, settings.output⟩ files run after := by
  cases hruns with
  | help => cases hending
  | refused => cases hending
  | usage => cases hending
  | failed => cases hending
  | emitted hplan hemitted hemits =>
      obtain ⟨settings, ratioText, hasks, hcomes⟩ := exists_comesTo_of_plan_eq_work hplan
      rw [hemitted] at hcomes
      cases hcomes with
      | text hratio hcounted htext =>
          exact ⟨settings, ratioText, _, _, hasks, hratio, htext, hemits.wentOut hending⟩

/-! ## The main statement -/

/-- **All or nothing.**  If a run does not return zero, the files are as before and no text of an
instance is in what it shows.  If it returns zero, its command line asks for the instance of some
ratio; the text of that instance is all of what it shows, with a line feed behind it, and the
files are as before, or it shows nothing, and the text is the whole of the file that the path
leads to while every other entry is as before. -/
theorem runCommandLine_allOrNothing (arguments : List String) (unseeded : Twister)
    (session : Session) :
    let run := ((runCommandLine arguments unseeded).run session).1
    let after := ((runCommandLine arguments unseeded).run session).2
    (run.ending ≠ .returned 0 → after.files = session.files ∧ HoldsNone run.output) ∧
      (run.ending = .returned 0 → ∃ settings ratioText ratio text,
        Asks arguments settings ratioText ∧ Ratio.read ratioText = .ok ratio ∧
        IsInstanceText ratio (settings.source unseeded) settings.multiline text ∧
        WentOut ⟨text, settings.output⟩ session.files run after.files) := by
  have hruns := runs_runCommandLine arguments unseeded session
  exact ⟨hruns.unchanged_of_ending_ne, hruns.wentOut⟩

end Session

end Clausal
