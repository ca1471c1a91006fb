import Clausal.Proofs.Files.SentenceFiles

/-!
# Requests and the journal

A caller makes requests of a session one after the other, whether or not those before were
granted.  The level of the journal decides which records are written down, and nothing else: the
answers, the files and the source of randomness are the same at every level.

The reason is in the shape of every activity that answers a request: `Indifferent`.  For given
files and a given source, what it comes to is settled before the journal is looked at, and so are
the records that it offers.  Activities keep this shape when they are composed, so a row of
requests has it, too.  Then two runs at different levels are offered the same records, and each
writes down those that reach its own level (`performAll_of_level`).
-/

namespace Clausal

namespace Journal

theorem postAll_append (journal : Journal) (first second : List Record) :
    journal.postAll (first ++ second) = (journal.postAll first).postAll second :=
  List.foldl_append

/-- At the lowest level everything is written down. -/
theorem debug_le (level : Level) : Level.debug ≤ level := Nat.zero_le level.rank

theorem written_postAll_debug (written records : List Record) :
    (postAll ⟨.debug, written⟩ records).written = written ++ records := by
  have hall : records.filter (fun record => Level.debug ≤ record.level) = records :=
    List.filter_eq_self.mpr fun record _ => decide_eq_true (debug_le record.level)
  rw [written_postAll, hall]

end Journal

namespace Session

/-! ## Requests -/

/-- What a caller can ask of a session. -/
inductive Request where
  /-- To read a value as a sentence. -/
  | read (mode : Reading.Mode) (source : Datum)
  /-- To read a file as a sentence. -/
  | readFile (mode : Reading.Mode) (path : String)
  | drawLiteral (alphabet : List String)
  | drawClause (alphabet : List String) (width : Int)
  /-- To draw an instance, from a source of its own if one is given. -/
  | drawInstance (count : Datum) (alphabet : List String) (width : Int) (own : Option Twister)
  /-- To read the text of a file. -/
  | load (path : String)
  /-- To write a text to a file. -/
  | save (path text : String)

/-- What a request is answered with. -/
inductive Answer where
  | sentence (result : Except Failure Sentence)
  | text (result : Except Failure String)
  | saved (result : Except Failure Unit)

/-- Answers a request. -/
def perform : Request → Activity Answer
  | .read mode source => .sentence <$> read mode source
  | .readFile mode path => .sentence <$> readSentenceFile mode path
  | .drawLiteral alphabet => .text <$> drawLiteral alphabet
  | .drawClause alphabet width => .text <$> drawClause alphabet width
  | .drawInstance count alphabet width own => .text <$> drawInstance count alphabet width own
  | .load path => .text <$> load path
  | .save path text => .saved <$> save path text

/-- Answers requests one after the other.  A failure is an answer like any other. -/
def performAll (requests : List Request) : Activity (List Answer) := requests.mapM perform

/-! ## Activities that do not look at the journal -/

variable {Value Result Item : Type}

/-- With given files and a given source, what an activity comes to and the records that it offers
do not depend on the journal. -/
def Indifferent (activity : Activity Value) : Prop :=
  ∀ (files : Files) (random : Twister),
    ∃ (value : Value) (files' : Files) (random' : Twister) (records : List Journal.Record),
      ∀ journal : Journal, activity.run ⟨files, journal, random⟩ =
        (value, ⟨files', journal.postAll records, random'⟩)

theorem indifferent_pure (value : Value) : Indifferent (pure value) :=
  fun files random => ⟨value, files, random, [], fun _ => rfl⟩

/-- What comes second is offered the records to a journal that has those of the first, and does
not look at them either. -/
theorem Indifferent.bind {activity : Activity Value} {next : Value → Activity Result}
    (hactivity : Indifferent activity) (hnext : ∀ value, Indifferent (next value)) :
    Indifferent (activity >>= next) := by
  intro files random
  obtain ⟨value, files', random', records, hrun⟩ := hactivity files random
  obtain ⟨result, files'', random'', more, hrest⟩ := hnext value files' random'
  refine ⟨result, files'', random'', records ++ more, fun journal => ?_⟩
  rw [StateT.run_bind, hrun journal, Journal.postAll_append]
  exact hrest (journal.postAll records)

theorem Indifferent.map {activity : Activity Value} (hactivity : Indifferent activity)
    (change : Value → Result) : Indifferent (change <$> activity) := by
  rw [map_eq_pure_bind]
  exact hactivity.bind fun value => indifferent_pure (change value)

theorem indifferent_mapM {act : Item → Activity Value} (hact : ∀ item, Indifferent (act item))
    (items : List Item) : Indifferent (items.mapM act) := by
  induction items with
  | nil => exact indifferent_pure []
  | cons item rest ih =>
      rw [List.mapM_cons]
      exact (hact item).bind fun value => ih.bind fun values => indifferent_pure (value :: values)

/-! ## The activities that answer requests -/

theorem indifferent_post (record : Journal.Record) : Indifferent (post record) :=
  fun files random => ⟨(), files, random, [record], fun _ => rfl⟩

theorem indifferent_read (mode : Reading.Mode) (source : Datum) :
    Indifferent (read mode source) :=
  fun files random => ⟨(Reading.reported mode source).1, files, random,
    (Reading.reported mode source).2, fun _ => rfl⟩

theorem indifferent_load (path : String) : Indifferent (load path) := by
  intro files random
  cases hread : files.read path with
  | error fault =>
      exact ⟨.error (.file fault), files, random, [.fileOpened path],
        fun journal => run_load_of_error hread⟩
  | ok text =>
      exact ⟨.ok text, files, random, [.fileOpened path, .fileRead path text.length],
        fun journal => run_load_of_ok hread⟩

theorem indifferent_save (path text : String) : Indifferent (save path text) := by
  intro files random
  cases hwrite : files.write path text with
  | error fault =>
      exact ⟨.error (.file fault), files, random, [], fun journal => run_save_of_error hwrite⟩
  | ok written =>
      exact ⟨.ok (), written, random, [.fileWritten path text.length],
        fun journal => run_save_of_ok hwrite⟩

theorem indifferent_readSentenceFile (mode : Reading.Mode) (path : String) :
    Indifferent (readSentenceFile mode path) := by
  refine (indifferent_load path).bind fun loaded => ?_
  cases loaded with
  | error failure => exact indifferent_pure (Except.error failure)
  | ok text => exact indifferent_read mode (.text text)

theorem indifferent_draw (draw : Instance.Draw Twister Value) :
    Indifferent (Session.draw draw) :=
  fun files random => ⟨(draw.run random).1.mapError .draw, files, (draw.run random).2, [],
    fun _ => rfl⟩

/-- What `drawInstance` does with what was drawn. -/
theorem indifferent_reportDrawn (count width : Int) (size : Nat)
    (drawn : Except Failure (List (List (Literal String)))) :
    Indifferent (match drawn with
      | .error failure => pure (.error failure)
      | .ok clauses => do
        post (.instanceDrawn count width size)
        return Except.ok (Instance.text clauses)) := by
  cases drawn with
  | error failure => exact indifferent_pure (Except.error failure)
  | ok clauses => exact (indifferent_post _).bind fun _ => indifferent_pure _

theorem indifferent_drawInstance (count : Datum) (alphabet : List String) (width : Int)
    (own : Option Twister) : Indifferent (drawInstance count alphabet width own) := by
  cases count with
  | integer count =>
      have hreport := indifferent_reportDrawn count width alphabet.length
      cases own with
      | some source => exact (indifferent_pure _).bind hreport
      | none => exact (indifferent_draw _).bind hreport
  | _ => exact indifferent_pure _

/-- Every request is answered without a look at the journal. -/
theorem indifferent_perform (request : Request) : Indifferent (perform request) := by
  cases request with
  | read mode source => exact (indifferent_read mode source).map _
  | readFile mode path => exact (indifferent_readSentenceFile mode path).map _
  | drawLiteral alphabet =>
      exact ((indifferent_draw _).bind fun literal => indifferent_pure _).map _
  | drawClause alphabet width =>
      exact ((indifferent_draw _).bind fun clause => indifferent_pure _).map _
  | drawInstance count alphabet width own =>
      exact (indifferent_drawInstance count alphabet width own).map _
  | load path => exact (indifferent_load path).map _
  | save path text => exact (indifferent_save path text).map _

/-! ## The main statement -/

/-- **The journal's level.**  Requests made from the same files and the same source at two levels
get the same answers and leave the same files and the same source.  The records written down at a
level are, in order, those among the records written down at the lowest level that reach it; and
the level stays what it is. -/
theorem performAll_of_level (requests : List Request) (files : Files) (random : Twister)
    (level other : Journal.Level) :
    let run := fun level : Journal.Level =>
      (performAll requests).run ⟨files, ⟨level, []⟩, random⟩
    (run level).1 = (run other).1 ∧
    (run level).2.files = (run other).2.files ∧
    (run level).2.random = (run other).2.random ∧
    (run level).2.journal.level = level ∧
    (run level).2.journal.written =
      (run .debug).2.journal.written.filter fun record => level ≤ record.level := by
  obtain ⟨answers, files', random', records, hrun⟩ :=
    indifferent_mapM indifferent_perform requests files random
  simp only [performAll, hrun, true_and]
  rw [Journal.level_postAll, Journal.written_postAll, Journal.written_postAll_debug,
    List.nil_append, List.nil_append]
  exact ⟨rfl, rfl⟩

end Session

end Clausal
