import Clausal.Proofs.Files.SentenceFiles

/-!
# How reading a sentence file ends

A caller who reads a file as a sentence expects one of three things: a sentence, a fault of
reading the file, or a fault of the text that was read (`IsExpected`).  These are kept apart: the
second comes exactly from paths that cannot be opened, the third exactly from texts that were
read and are no sentences.

Two kinds of paths lead elsewhere.  A path can hold the character that no path holds, and the
bytes of a file can be no text; neither is among the faults of reading a file.  There are no
others (`isExpected_readSentenceFile_iff`), whatever the tree of files and the bytes in it are.
-/

namespace Clausal

/-! ## Reading a text -/

namespace Files

variable {files : Files} {path : String}

theorem read_of_hasNul (hnul : hasNul path = true) : files.read path = .error .nulInPath := by
  rw [read, hnul, if_pos rfl]
  rfl

theorem read_of_bytes_eq_error (hnul : hasNul path = false) {fault : Fault}
    (hbytes : files.bytes path = .error fault) :
    files.read path = .error (.reading path fault) := by
  rw [read, hnul, if_neg Bool.false_ne_true, hbytes]
  rfl

theorem read_of_decode_eq_error (hnul : hasNul path = false) {bytes : List UInt8}
    (hbytes : files.bytes path = .ok bytes) {fault : Text.Utf8.Fault}
    (hdecode : Text.Utf8.decode bytes = .error fault) :
    files.read path = .error (.undecodable fault) := by
  rw [read, hnul, if_neg Bool.false_ne_true, hbytes]
  change (Text.Utf8.decode bytes).mapError TextFault.undecodable >>= _ = _
  rw [hdecode]
  rfl

theorem read_of_decode_eq_ok (hnul : hasNul path = false) {bytes : List UInt8}
    (hbytes : files.bytes path = .ok bytes) {text : List Char}
    (hdecode : Text.Utf8.decode bytes = .ok text) :
    files.read path = .ok (String.ofList (Text.foldNewlines text)) := by
  rw [read, hnul, if_neg Bool.false_ne_true, hbytes]
  change (Text.Utf8.decode bytes).mapError TextFault.undecodable >>= _ = _
  rw [hdecode]
  rfl

/-- What comes of reading the text of a file. -/
inductive Loads (files : Files) (path : String) : Except TextFault String → Prop
  | text {bytes : List UInt8} {text : List Char} (hnul : hasNul path = false)
      (hbytes : files.bytes path = .ok bytes) (hdecode : Text.Utf8.decode bytes = .ok text) :
      Loads files path (.ok (String.ofList (Text.foldNewlines text)))
  | unopened {fault : Fault} (hnul : hasNul path = false)
      (hbytes : files.bytes path = .error fault) :
      Loads files path (.error (.reading path fault))
  | nulInPath (hnul : hasNul path = true) : Loads files path (.error .nulInPath)
  | undecodable {bytes : List UInt8} {fault : Text.Utf8.Fault} (hnul : hasNul path = false)
      (hbytes : files.bytes path = .ok bytes) (hdecode : Text.Utf8.decode bytes = .error fault) :
      Loads files path (.error (.undecodable fault))

theorem loads_read (files : Files) (path : String) : Loads files path (files.read path) := by
  cases hnul : hasNul path with
  | true =>
      rw [read_of_hasNul hnul]
      exact .nulInPath hnul
  | false =>
      cases hbytes : files.bytes path with
      | error fault =>
          rw [read_of_bytes_eq_error hnul hbytes]
          exact .unopened hnul hbytes
      | ok bytes =>
          cases hdecode : Text.Utf8.decode bytes with
          | error fault =>
              rw [read_of_decode_eq_error hnul hbytes hdecode]
              exact .undecodable hnul hbytes hdecode
          | ok text =>
              rw [read_of_decode_eq_ok hnul hbytes hdecode]
              exact .text hnul hbytes hdecode

/-- The file cannot be read if and only if the path can be one and cannot be opened. -/
theorem exists_read_eq_reading_iff :
    (∃ place fault, files.read path = .error (.reading place fault)) ↔
      hasNul path = false ∧ ∃ fault, files.bytes path = .error fault := by
  constructor
  · rintro ⟨place, fault, hread⟩
    have hloads := loads_read files path
    rw [hread] at hloads
    cases hloads with
    | unopened hnul hbytes => exact ⟨hnul, fault, hbytes⟩
  · rintro ⟨hnul, fault, hbytes⟩
    exact ⟨path, fault, read_of_bytes_eq_error hnul hbytes⟩

/-- The paths that lead elsewhere, and the faults that come of them. -/
inductive Misleads (files : Files) (path : String) : TextFault → Prop
  | nulInPath (hnul : hasNul path = true) : Misleads files path .nulInPath
  | undecodable {bytes : List UInt8} {fault : Text.Utf8.Fault} (hnul : hasNul path = false)
      (hbytes : files.bytes path = .ok bytes) (hdecode : Text.Utf8.decode bytes = .error fault) :
      Misleads files path (.undecodable fault)

theorem Misleads.read_eq {fault : TextFault} (hmisleads : Misleads files path fault) :
    files.read path = .error fault := by
  cases hmisleads with
  | nulInPath hnul => exact read_of_hasNul hnul
  | undecodable hnul hbytes hdecode => exact read_of_decode_eq_error hnul hbytes hdecode

/-- What a path comes to that leads nowhere else. -/
theorem read_or_misleads (files : Files) (path : String) :
    (∃ text, files.read path = .ok text) ∨
      (∃ fault, files.read path = .error (.reading path fault)) ∨
        ∃ fault, Misleads files path fault := by
  have hloads := loads_read files path
  generalize files.read path = loaded at hloads
  cases hloads with
  | text => exact .inl ⟨_, rfl⟩
  | unopened => exact .inr (.inl ⟨_, rfl⟩)
  | nulInPath hnul => exact .inr (.inr ⟨_, .nulInPath hnul⟩)
  | undecodable hnul hbytes hdecode => exact .inr (.inr ⟨_, .undecodable hnul hbytes hdecode⟩)

end Files

/-! ## Reading a sentence -/

namespace Session

/-- What a caller who reads a file as a sentence expects. -/
inductive IsExpected : Except Failure Sentence → Prop
  | sentence (sentence : Sentence) : IsExpected (.ok sentence)
  /-- The file cannot be read. -/
  | unopened (path : String) (fault : Files.Fault) :
      IsExpected (.error (.file (.reading path fault)))
  /-- What was read is no sentence. -/
  | unreadable {fault : ReadError} (hkind : fault.kind = .missingVariable ∨
      fault.kind = .unexpectedLiteral ∨ fault.kind = .parenthesisMismatch) :
      IsExpected (.error (.unreadable fault))

variable {session : Session} {path : String}

theorem fst_run_readSentenceFile_of_error {fault : Files.TextFault}
    (hread : session.files.read path = .error fault) (mode : Reading.Mode) :
    ((readSentenceFile mode path).run session).1 = .error (.file fault) := by
  rw [readSentenceFile, StateT.run_bind, run_load_of_error hread]
  rfl

/-- A text is read as a sentence or refused with an expected fault. -/
theorem isExpected_of_read (mode : Reading.Mode) (text : String) :
    IsExpected ((mode.read text).result.mapError .unreadable) := by
  cases hread : (mode.read text).result with
  | ok sentence => exact .sentence sentence
  | error fault => exact .unreadable (Reading.Mode.kind_of_read_eq_error hread)

theorem not_isExpected_of_misleads {fault : Files.TextFault}
    (hmisleads : session.files.Misleads path fault) : ¬ IsExpected (.error (.file fault)) := by
  cases hmisleads with
  | nulInPath => exact fun hexpected => nomatch hexpected
  | undecodable => exact fun hexpected => nomatch hexpected

theorem fst_run_readSentenceFile_eq_file_iff {mode : Reading.Mode} {fault : Files.TextFault} :
    ((readSentenceFile mode path).run session).1 = .error (.file fault) ↔
      session.files.read path = .error fault := by
  cases hread : session.files.read path with
  | error fault' =>
      rw [fst_run_readSentenceFile_of_error hread, Except.error.injEq, Except.error.injEq,
        Failure.file.injEq]
  | ok text =>
      rw [fst_run_readSentenceFile_of_ok hread]
      cases (mode.read text).result <;> simp [Except.mapError]

theorem fst_run_readSentenceFile_eq_unreadable_iff {mode : Reading.Mode} {fault : ReadError} :
    ((readSentenceFile mode path).run session).1 = .error (.unreadable fault) ↔
      ∃ text, session.files.read path = .ok text ∧ (mode.read text).result = .error fault := by
  cases hread : session.files.read path with
  | error fault' => simp [fst_run_readSentenceFile_of_error hread]
  | ok text =>
      rw [fst_run_readSentenceFile_of_ok hread]
      cases hresult : (mode.read text).result <;> simp [Except.mapError, hresult]

/-- **Reading a sentence file.**  What is expected comes of a path unless the path leads
elsewhere: it holds the character that no path holds, or leads to bytes that are no text.  Then
the fault named for it comes of the path.  There is a fault of reading the file if and only if
the path can be one and cannot be opened, and a fault of its text if and only if a text was read
that is no sentence. -/
theorem isExpected_readSentenceFile_iff (mode : Reading.Mode) (path : String)
    (session : Session) :
    let result := ((readSentenceFile mode path).run session).1
    (IsExpected result ↔ ∀ fault, ¬ session.files.Misleads path fault) ∧
    (∀ fault, session.files.Misleads path fault → result = .error (.file fault)) ∧
    ((∃ place fault, result = .error (.file (.reading place fault))) ↔
      Files.hasNul path = false ∧ ∃ fault, session.files.bytes path = .error fault) ∧
    ∀ fault, result = .error (.unreadable fault) ↔
      ∃ text, session.files.read path = .ok text ∧ (mode.read text).result = .error fault := by
  refine ⟨⟨fun hexpected fault hmisleads => ?_, fun hnone => ?_⟩, fun fault hmisleads => ?_, ?_,
    fun fault => fst_run_readSentenceFile_eq_unreadable_iff⟩
  · rw [fst_run_readSentenceFile_of_error hmisleads.read_eq] at hexpected
    exact not_isExpected_of_misleads hmisleads hexpected
  · rcases session.files.read_or_misleads path with ⟨text, hread⟩ | ⟨fault, hread⟩ | ⟨fault, hfault⟩
    · rw [fst_run_readSentenceFile_of_ok hread]
      exact isExpected_of_read mode text
    · rw [fst_run_readSentenceFile_of_error hread]
      exact .unopened path fault
    · exact absurd hfault (hnone fault)
  · exact fst_run_readSentenceFile_of_error hmisleads.read_eq mode
  · simp only [fst_run_readSentenceFile_eq_file_iff]
    exact Files.exists_read_eq_reading_iff

/-- A file that holds the byte `0xff` alone, and a path that is none. -/
theorem not_isExpected_of_stray_byte :
    let session : Session := { Session.initial 0 with files := ⟨[(["a"], .file [0xff])]⟩ }
    let result := ((readSentenceFile .direct "a").run session).1
    let result' := ((readSentenceFile .direct "a\x00").run session).1
    session.files.bytes "a" = .ok [0xff] ∧
      result = .error (.file (.undecodable ⟨.startByte, 0, 0xff, 1⟩)) ∧ ¬ IsExpected result ∧
      result' = .error (.file .nulInPath) ∧ ¬ IsExpected result' := by
  intro session result result'
  have hstray : session.files.Misleads "a" (.undecodable ⟨.startByte, 0, 0xff, 1⟩) :=
    .undecodable rfl rfl rfl
  have hnul : session.files.Misleads "a\x00" .nulInPath := .nulInPath rfl
  have hresult : result = .error (.file (.undecodable ⟨.startByte, 0, 0xff, 1⟩)) :=
    fst_run_readSentenceFile_of_error hstray.read_eq .direct
  have hresult' : result' = .error (.file .nulInPath) :=
    fst_run_readSentenceFile_of_error hnul.read_eq .direct
  refine ⟨rfl, hresult, ?_, hresult', ?_⟩
  · rw [hresult]
    exact not_isExpected_of_misleads hstray
  · rw [hresult']
    exact not_isExpected_of_misleads hnul

end Session

end Clausal
