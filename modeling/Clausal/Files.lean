import Clausal.Text.Quoted
import Clausal.Text.Utf8

/-!
# Sentence files

A tree of directories and files below a working directory, and whole files of text in
it.  A path is walked from the working directory, name by name; the walk fails where a
name is missing, too long, or not a directory although names follow.  Texts are UTF-8;
any line end is read as a line feed, and nothing is changed in writing.

Locations are lists of names, the innermost first; only a location's own entry is kept
for it.
-/

namespace Clausal

/-! ## Line ends

A line may end with a line feed, with a carriage return, or with a carriage return and a
line feed right after it.  Folding makes every one of these a line feed. -/

namespace Text

/-- The text with every carriage return, and the line feed right after it, made
one line feed. -/
def foldNewlines : List Char → List Char
  | [] => []
  | '\r' :: '\n' :: rest => '\n' :: foldNewlines rest
  | c :: rest => (if c = '\r' then '\n' else c) :: foldNewlines rest

/-- Folding changes nothing where there is no carriage return. -/
theorem foldNewlines_eq_self {text : List Char} (plain : '\r' ∉ text) :
    foldNewlines text = text := by
  fun_induction foldNewlines text with
  | case1 => rfl
  | case2 rest _ => simp at plain
  | case3 c rest _ ih =>
    have different : c ≠ '\r' := fun same => plain (by simp [same])
    have restPlain : '\r' ∉ rest := fun member => plain (List.mem_cons_of_mem c member)
    simp [different, ih restPlain]

example : foldNewlines "a\r\nb\rc\n\r".toList = "a\nb\nc\n\n".toList := by decide

end Text

/-! ## Entries of a tree -/

namespace Files

/-- The names of the directories down to an entry, its own name first. -/
abbrev Location := List String

/-- What is at a location. -/
inductive Entry where
  | directory
  | file (bytes : List UInt8)
  deriving DecidableEq, Repr

/-- Why a path cannot be opened. -/
inductive Fault where
  | missing
  | notDirectory
  | isDirectory
  | nameTooLong
  deriving DecidableEq, Repr

namespace Fault

/-- The system's number of a fault. -/
def number : Fault → Nat
  | missing => 2
  | notDirectory => 20
  | isDirectory => 21
  | nameTooLong => 36

/-- The system's wording of a fault. -/
def wording : Fault → String
  | missing => "No such file or directory"
  | notDirectory => "Not a directory"
  | isDirectory => "Is a directory"
  | nameTooLong => "File name too long"

/-- A fault with the path that it is about. -/
def message (path : String) (fault : Fault) : String :=
  "[Errno " ++ toString fault.number ++ "] " ++ fault.wording ++ ": " ++ Text.quoted path

end Fault

end Files

/-- The entries below a working directory, which itself has none. -/
structure Files where
  entries : List (Files.Location × Files.Entry)

namespace Files

/-- The working directory with nothing in it. -/
def empty : Files := ⟨[]⟩

/-- What is at a location. -/
def entryAt? (files : Files) (location : Location) : Option Entry :=
  if location.isEmpty then some .directory else files.entries.lookup location

/-- The tree with an entry put at a location. -/
def put (files : Files) (location : Location) (entry : Entry) : Files :=
  ⟨(location, entry) :: files.entries.filter fun other => other.1 ≠ location⟩

@[simp] theorem entryAt?_nil (files : Files) : files.entryAt? [] = some .directory := rfl

theorem entryAt?_put_self (files : Files) {location : Location} (below : location ≠ [])
    (entry : Entry) : (files.put location entry).entryAt? location = some entry := by
  simp [entryAt?, put, below]

private theorem lookup_filter_ne {location other : Location} (different : other ≠ location)
    (entries : List (Location × Entry)) :
    (entries.filter fun kept => kept.1 ≠ location).lookup other = entries.lookup other := by
  induction entries with
  | nil => rfl
  | cons kept rest ih =>
    obtain ⟨place, entry⟩ := kept
    by_cases same : place = location
    · subst same
      have miss : (other == place) = false := beq_eq_false_iff_ne.mpr different
      simpa [List.lookup_cons, miss] using ih
    · simp only [List.filter_cons, ne_eq, same, not_false_eq_true, decide_true, if_true,
        List.lookup_cons]
      rw [← ih]

/-- Putting an entry changes no other location. -/
theorem entryAt?_put_of_ne (files : Files) {location other : Location}
    (different : other ≠ location) (entry : Entry) :
    (files.put location entry).entryAt? other = files.entryAt? other := by
  have miss : (other == location) = false := beq_eq_false_iff_ne.mpr different
  unfold entryAt? put
  rw [List.lookup_cons, miss]
  simp only [lookup_filter_ne different]

/-! ## Paths -/

/-- The greatest number of bytes of a name. -/
def nameLimit : Nat := 255

/-- The least number of bytes that is too many for a path. -/
def pathLimit : Nat := 4096

/-- The location that a name leads to from a directory. -/
def step (directory : Location) (name : String) : Except Fault Location :=
  if name = "." then .ok directory
  else if name = ".." then .ok directory.tail
  else if nameLimit < name.utf8ByteSize then .error .nameTooLong
  else .ok (name :: directory)

/-- The directory that a list of names leads to from a directory. -/
def enter (files : Files) (directory : Location) : List String → Except Fault Location
  | [] => .ok directory
  | name :: rest => do
    let location ← step directory name
    match files.entryAt? location with
    | none => throw .missing
    | some (.file _) => throw .notDirectory
    | some .directory => enter files location rest

/-- A path cut at its slashes: the names on the way to the last one, the last one, and
whether a slash follows it. -/
structure Route where
  way : List String
  last : String
  slashed : Bool

/-- A text cut at its slashes: what is before the first, and what is after each. -/
def segments : List Char → List Char × List (List Char)
  | [] => ([], [])
  | c :: rest =>
    let (first, others) := segments rest
    if c = '/' then ([], first :: others) else (c :: first, others)

/-- The route of a path, unless the path is empty or too long.  Slashes in a row count as
one. -/
def route (path : String) : Except Fault Route :=
  let (first, others) := segments path.toList
  let names := ((first :: others).filter fun name => !name.isEmpty).map String.ofList
  if path = "" then .error .missing
  else if pathLimit ≤ path.utf8ByteSize then .error .nameTooLong
  else .ok ⟨names.dropLast, names.getLast?.getD ".", path.toList.getLast? = some '/'⟩

/-! ## Bytes -/

/-- The bytes of the file that a path leads to. -/
def bytes (files : Files) (path : String) : Except Fault (List UInt8) := do
  let route ← route path
  let directory ← files.enter [] route.way
  let location ← step directory route.last
  match files.entryAt? location with
  | none => throw .missing
  | some .directory => throw .isDirectory
  | some (.file bytes) => if route.slashed then throw .notDirectory else return bytes

/-- The tree with bytes written to the file that a path leads to, in place of what it
held. -/
def writeBytes (files : Files) (path : String) (bytes : List UInt8) : Except Fault Files := do
  let route ← route path
  let directory ← files.enter [] route.way
  if route.slashed then throw .isDirectory
  let location ← step directory route.last
  match files.entryAt? location with
  | some .directory => throw .isDirectory
  | _ => return files.put location (.file bytes)

/-- The tree with the directories of a path made where they are missing.  Reading and writing
make none; this is for setting up the tree that a session starts with. -/
def makeDirectories (files : Files) (path : String) : Except Fault Files := do
  let route ← route path
  make files [] (route.way ++ [route.last])
where
  /-- Makes the directories of a list of names from a directory on. -/
  make (files : Files) (directory : Location) : List String → Except Fault Files
    | [] => .ok files
    | name :: rest => do
      let location ← step directory name
      match files.entryAt? location with
      | none => make (files.put location .directory) location rest
      | some (.file _) => throw .notDirectory
      | some .directory => make files location rest

/-! ## Texts -/

/-- Why a text cannot be read or written. -/
inductive TextFault where
  /-- The path holds a character that no path holds. -/
  | nulInPath
  | reading (path : String) (fault : Fault)
  | writing (path : String) (fault : Fault)
  | undecodable (fault : Text.Utf8.Fault)
  deriving DecidableEq, Repr

/-- The wording of a fault. -/
def TextFault.message : TextFault → String
  | .nulInPath => "embedded null byte"
  | .reading path fault => "Error reading file " ++ path ++ ": " ++ fault.message path
  | .writing path fault => "IO Error writing file " ++ path ++ ": " ++ fault.message path
  | .undecodable fault => fault.message

/-- Whether a path holds the character that no path holds. -/
def hasNul (path : String) : Bool := path.toList.contains '\x00'

/-- The text of the file that a path leads to, with every line end a line feed. -/
def read (files : Files) (path : String) : Except TextFault String := do
  if hasNul path then throw .nulInPath
  let bytes ← (files.bytes path).mapError (.reading path)
  let text ← (Text.Utf8.decode bytes).mapError .undecodable
  return String.ofList (Text.foldNewlines text)

/-- The tree with a text written to the file that a path leads to. -/
def write (files : Files) (path text : String) : Except TextFault Files := do
  if hasNul path then throw .nulInPath
  (files.writeBytes path (Text.Utf8.encode text.toList)).mapError (.writing path)

end Files

end Clausal
