import Clausal.Proofs.CommandLine.Runs
import Clausal.Proofs.Reading.Simulation
import Clausal.Proofs.Text.Newline
import Clausal.Proofs.Text.Utf8

/-!
# Sentences in files

A text that is written to a file and read from it again comes back with its line ends folded.
As a sentence it is read from the file as it is read at once: line ends are blanks, so folding
them leaves the symbols of the text, and these decide what becomes of it
(`outcome_read_of_symbols_eq`).

Whether a path can be written to does not depend on the text, but on the tree alone
(`Writable`).
-/

namespace Clausal

/-! ## The files -/

namespace Files

variable {files written : Files} {path text : String}

/-- A path can be written to: it leads to a place where no directory is, and does not end as if
there were one. -/
def Writable (files : Files) (path : String) : Prop :=
  hasNul path = false ∧ ∃ place location, files.LeadsTo path place location ∧
    place.slashed = false ∧ files.entryAt? location ≠ some .directory

theorem writeBytes_of_leadsTo {place : Route} {location : Location}
    (hleads : files.LeadsTo path place location) (hslashed : place.slashed = false)
    (hentry : files.entryAt? location ≠ some .directory) (bytes : List UInt8) :
    files.writeBytes path bytes = .ok (files.put location (.file bytes)) := by
  obtain ⟨hroute, directory, hwalk, hstep⟩ := hleads
  rw [writeBytes, hroute]
  refine Except.bind_eq_ok_iff.mpr ⟨place, rfl, ?_⟩
  rw [hwalk]
  refine Except.bind_eq_ok_iff.mpr ⟨directory, rfl, ?_⟩
  rw [hslashed, if_neg Bool.false_ne_true, hstep]
  refine Except.bind_eq_ok_iff.mpr ⟨location, rfl, ?_⟩
  split
  · next hdirectory => exact absurd hdirectory hentry
  · rfl

theorem Writable.exists_write_eq_ok (hwritable : files.Writable path) (text : String) :
    ∃ written, files.write path text = .ok written := by
  obtain ⟨hnul, place, location, hleads, hslashed, hentry⟩ := hwritable
  refine ⟨files.put location (.file (Text.Utf8.encode text.toList)), ?_⟩
  rw [write, hnul, if_neg Bool.false_ne_true]
  exact Except.mapError_eq_ok_iff.mpr (writeBytes_of_leadsTo hleads hslashed hentry _)

/-- What is read is what was written, with its line ends folded. -/
theorem read_of_write_eq_ok (hwrite : files.write path text = .ok written) :
    written.read path = .ok (String.ofList (Text.foldNewlines text.toList)) := by
  have hnul : hasNul path = false := by
    rw [write] at hwrite
    split at hwrite
    · cases hwrite
    · next hnul => simpa using hnul
  have hbytes := bytes_of_write_eq_ok hwrite
  rw [read, hnul, if_neg Bool.false_ne_true]
  refine Except.bind_eq_ok_iff.mpr ⟨_, Except.mapError_eq_ok_iff.mpr hbytes, ?_⟩
  refine Except.bind_eq_ok_iff.mpr
    ⟨_, Except.mapError_eq_ok_iff.mpr (Text.Utf8.decode_encode _), rfl⟩

end Files

/-! ## The session -/

namespace Session

/-- Two requests to read a sentence are answered alike: with one sentence, or with faults of one
family of unreadable texts. -/
inductive AnswersAlike : Except Failure Sentence → Except Failure Sentence → Prop
  | sentence (sentence : Sentence) : AnswersAlike (.ok sentence) (.ok sentence)
  | unreadable {fault fault' : ReadError} (hkind : fault.kind = fault'.kind) :
      AnswersAlike (.error (.unreadable fault)) (.error (.unreadable fault'))

theorem answersAlike_of_outcome_eq {reading reading' : Reading Sentence}
    (houtcome : reading.outcome = reading'.outcome) :
    AnswersAlike (reading.result.mapError .unreadable)
      (reading'.result.mapError .unreadable) := by
  cases Reading.endAlike_iff_outcome_eq.mpr houtcome with
  | @value sentence hread hread' =>
      rw [hread, hread']
      exact .sentence sentence
  | fault hread hread' hkind =>
      rw [hread, hread']
      exact .unreadable hkind

/-- A text is read in the same way in every session. -/
theorem fst_run_read_text (mode : Reading.Mode) (text : String) (session : Session) :
    ((read mode (.text text)).run session).1 = (mode.read text).result.mapError .unreadable := rfl

theorem run_load_of_ok {session : Session} {path text : String}
    (hread : session.files.read path = .ok text) :
    (load path).run session = (.ok text, { session with
      journal :=
        (session.journal.post (.fileOpened path)).post (.fileRead path text.length) }) := by
  simp only [load, post, StateT.run_bind, StateT.run_modify, StateT.run_get, pure_bind, hread]
  rfl

theorem run_load_of_error {session : Session} {path : String} {fault : Files.TextFault}
    (hread : session.files.read path = .error fault) :
    (load path).run session = (.error (.file fault), { session with
      journal := session.journal.post (.fileOpened path) }) := by
  simp only [load, post, StateT.run_bind, StateT.run_modify, StateT.run_get, pure_bind, hread]
  rfl

/-- A file that can be loaded is read as its text is. -/
theorem fst_run_readSentenceFile_of_ok {session : Session} {path text : String}
    (hread : session.files.read path = .ok text) (mode : Reading.Mode) :
    ((readSentenceFile mode path).run session).1 =
      (mode.read text).result.mapError .unreadable := by
  rw [readSentenceFile, StateT.run_bind, run_load_of_ok hread]
  rfl

variable {session : Session} {path : String}

/-- **Sentences in files.**  Where a path can be written to, every text can be saved.  What is
loaded from the path after that is the text with every carriage return and line feed, and then
every carriage return, replaced by a line feed; so it is the text itself if and only if it has
no carriage return.  In either mode the file is read as the text is: as the same sentence, or
both are refused with a fault of one family. -/
theorem readSentenceFile_of_save (hwritable : session.files.Writable path) (text : String) :
    ∃ after, (save path text).run session = (.ok (), after) ∧
      ((load path).run after).1 = .ok (String.ofList (Text.replaceAll ['\r'] ['\n']
        (Text.replaceAll ['\r', '\n'] ['\n'] text.toList))) ∧
      (((load path).run after).1 = .ok text ↔ '\r' ∉ text.toList) ∧
      ∀ (mode : Reading.Mode) (other : Session),
        AnswersAlike ((readSentenceFile mode path).run after).1
          ((read mode (.text text)).run other).1 := by
  obtain ⟨written, hwrite⟩ := hwritable.exists_write_eq_ok text
  refine ⟨_, run_save_of_ok hwrite, ?_⟩
  have hread := Files.read_of_write_eq_ok hwrite
  rw [run_load_of_ok hread, ← Text.foldNewlines_eq_replaceAll]
  refine ⟨rfl, ?_, fun mode other => ?_⟩
  · rw [← Text.foldNewlines_eq_self_iff, Except.ok.injEq, ← String.toList_inj,
      String.toList_ofList]
  · rw [fst_run_readSentenceFile_of_ok hread, fst_run_read_text]
    apply answersAlike_of_outcome_eq
    apply mode.outcome_read_of_symbols_eq
    rw [String.toList_ofList, Text.symbols_foldNewlines]

/-- Over bytes that are no text, in a directory, with line ends of both kinds. -/
theorem readSentenceFile_of_save_over :
    ∃ (session after : Session), session.files.Writable "notes/a.cnf" ∧
      session.files.bytes "notes/a.cnf" = .ok [0xff] ∧
      (save "notes/a.cnf" "(A ^\r\nB) v\r~C").run session = (.ok (), after) ∧
      ((load "notes/a.cnf").run after).1 = .ok "(A ^\nB) v\n~C" ∧
      AnswersAlike ((readSentenceFile .direct "notes/a.cnf").run after).1
        ((read .direct (.text "(A ^\r\nB) v\r~C")).run session).1 ∧
      AnswersAlike ((readSentenceFile .clausal "notes/a.cnf").run after).1
        ((read .clausal (.text "(A ^\r\nB) v\r~C")).run session).1 := by
  have hentries : Files.LeadsTo ⟨[(["a.cnf", "notes"], .file [0xff]), (["notes"], .directory)]⟩
      "notes/a.cnf" ⟨["notes"], "a.cnf", false⟩ ["a.cnf", "notes"] := ⟨rfl, ["notes"], rfl, rfl⟩
  have hwritable : Files.Writable
      ⟨[(["a.cnf", "notes"], .file [0xff]), (["notes"], .directory)]⟩ "notes/a.cnf" :=
    ⟨rfl, _, _, hentries, rfl, by decide⟩
  let session : Session := { Session.initial 0 with
    files := ⟨[(["a.cnf", "notes"], .file [0xff]), (["notes"], .directory)]⟩ }
  have hsession : session.files.Writable "notes/a.cnf" := hwritable
  obtain ⟨after, hsave, hload, -, hread⟩ :=
    readSentenceFile_of_save hsession "(A ^\r\nB) v\r~C"
  exact ⟨_, after, hwritable, rfl, hsave, hload, hread .direct _, hread .clausal _⟩

end Session

end Clausal
