import Clausal.Files

/-!
# Writing and reading back

A path leads to a location in a tree: it is walked to its last name but one, and the last
name is one step more (`LeadsTo`).  Both reading and writing walk it, and differ in what they
want to find there.

The walk passes directories only, and writing puts a file where no directory is.  So a path
leads to the same location after the writing (`LeadsTo.put`), and what was written is read
from it (`bytes_of_writeBytes_eq_ok`).
-/

namespace Clausal

/-! ## Results that are no faults -/

theorem Except.bind_eq_ok_iff {Fault Value Result : Type} {first : Except Fault Value}
    {next : Value → Except Fault Result} {result : Result} :
    first >>= next = .ok result ↔ ∃ value, first = .ok value ∧ next value = .ok result := by
  cases first with
  | error fault => simp [bind, Except.bind]
  | ok value => simp [bind, Except.bind]

theorem Except.mapError_eq_ok_iff {Fault Fault' Value : Type} {change : Fault → Fault'}
    {result : Except Fault Value} {value : Value} :
    result.mapError change = .ok value ↔ result = .ok value := by
  cases result with
  | error fault =>
      change Except.error (change fault) = .ok value ↔ Except.error fault = .ok value
      simp
  | ok found =>
      change (Except.ok found : Except Fault' Value) = .ok value ↔ Except.ok found = .ok value
      simp

theorem Except.toOption_eq_some_iff {Fault Value : Type} {result : Except Fault Value}
    {value : Value} : result.toOption = some value ↔ result = .ok value := by
  cases result with
  | error fault => simp [Except.toOption]
  | ok found => simp [Except.toOption]

theorem Except.toOption_any_eq_true_iff {Fault Value : Type} {result : Except Fault Value}
    {holds : Value → Bool} : result.toOption.any holds = true ↔
      ∃ value, result = .ok value ∧ holds value = true := by
  simp only [Option.any_eq_true, Except.toOption_eq_some_iff]

namespace Files

variable {files written : Files} {path : String} {place : Route} {location changed : Location}
  {entry : Entry} {bytes : List UInt8}

/-! ## Where paths lead -/

/-- A path leads to a location by a route. -/
def LeadsTo (files : Files) (path : String) (place : Route) (location : Location) : Prop :=
  route path = .ok place ∧
    ∃ directory, files.enter [] place.way = .ok directory ∧
      step directory place.last = .ok location

theorem bytes_of_leadsTo (hleads : files.LeadsTo path place location)
    (hslashed : place.slashed = false) (hentry : files.entryAt? location = some (.file bytes)) :
    files.bytes path = .ok bytes := by
  obtain ⟨hroute, directory, hwalk, hstep⟩ := hleads
  simp only [Files.bytes, hroute, hwalk, hstep, hentry, hslashed, bind, Except.bind]
  rfl

/-- What is written is put where the path leads, if no directory is there. -/
theorem exists_of_writeBytes_eq_ok (hwrite : files.writeBytes path bytes = .ok written) :
    ∃ place location, files.LeadsTo path place location ∧ place.slashed = false ∧
      files.entryAt? location ≠ some .directory ∧ written = files.put location (.file bytes) := by
  rw [writeBytes, Except.bind_eq_ok_iff] at hwrite
  obtain ⟨place, hroute, hwrite⟩ := hwrite
  obtain ⟨directory, hwalk, hwrite⟩ := Except.bind_eq_ok_iff.mp hwrite
  cases hslashed : place.slashed with
  | true => simp [hslashed, throw, throwThe, MonadExceptOf.throw, bind, Except.bind] at hwrite
  | false =>
      rw [hslashed, if_neg Bool.false_ne_true] at hwrite
      obtain ⟨location, hstep, hput⟩ := Except.bind_eq_ok_iff.mp hwrite
      refine ⟨place, location, ⟨hroute, directory, hwalk, hstep⟩, hslashed, ?_⟩
      split at hput
      · cases hput
      · next hentry =>
          cases hput
          exact ⟨hentry, rfl⟩

/-! ## Where they lead after writing -/

/-- Where no directory is, an entry can be put without changing a walk. -/
theorem enter_put (hchanged : files.entryAt? changed ≠ some .directory)
    {directory final : Location} {names : List String}
    (hwalk : files.enter directory names = .ok final) :
    (files.put changed entry).enter directory names = .ok final := by
  induction names generalizing directory with
  | nil => exact hwalk
  | cons name rest ih =>
      rw [enter] at hwalk ⊢
      obtain ⟨location, hstep, hwalk⟩ := Except.bind_eq_ok_iff.mp hwalk
      refine Except.bind_eq_ok_iff.mpr ⟨location, hstep, ?_⟩
      split at hwalk
      · cases hwalk
      · cases hwalk
      · next hentry =>
          have hother : location ≠ changed := by
            rintro rfl
            exact hchanged hentry
          rw [entryAt?_put_of_ne files hother, hentry]
          exact ih hwalk

theorem LeadsTo.put (hleads : files.LeadsTo path place location)
    (hchanged : files.entryAt? changed ≠ some .directory) :
    (files.put changed entry).LeadsTo path place location := by
  obtain ⟨hroute, directory, hwalk, hstep⟩ := hleads
  exact ⟨hroute, directory, enter_put hchanged hwalk, hstep⟩

/-! ## Reading back -/

/-- The bytes that were written are read. -/
theorem bytes_of_writeBytes_eq_ok (hwrite : files.writeBytes path bytes = .ok written) :
    written.bytes path = .ok bytes := by
  obtain ⟨place, location, hleads, hslashed, hentry, rfl⟩ := exists_of_writeBytes_eq_ok hwrite
  have hbelow : location ≠ [] := by
    rintro rfl
    exact hentry files.entryAt?_nil
  exact bytes_of_leadsTo (hleads.put hentry) hslashed (files.entryAt?_put_self hbelow _)

/-- The file has the text that was written, and nothing else. -/
theorem bytes_of_write_eq_ok {text : String} (hwrite : files.write path text = .ok written) :
    written.bytes path = .ok (Text.Utf8.encode text.toList) := by
  rw [write] at hwrite
  split at hwrite
  · cases hwrite
  · exact bytes_of_writeBytes_eq_ok (Except.mapError_eq_ok_iff.mp hwrite)

end Files

end Clausal
