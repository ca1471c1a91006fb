import Clausal.Text.Quoted

/-!
# Options

The options of the command line, and what each argument is by its looks alone.  Options
have long spellings and some a short one; a long spelling may be cut short as long as one
option only begins like that, and takes a value after an equals sign; short spellings may
be run together, and an equals sign after the first of them does not count.  An argument
that looks like a negative number or holds a space is a word, and so is everything after
a bare double hyphen.
-/

namespace Clausal

namespace CommandLine

/-- The options that take no value. -/
inductive Flag where
  | help
  | multiline
  | verbose
  | details
  deriving DecidableEq, Repr

/-- The options. -/
inductive Named where
  | flag (flag : Flag)
  | seed
  deriving DecidableEq, Repr

/-- The spellings of the options. -/
def spellings : List (String × Named) :=
  [("-h", .flag .help), ("--help", .flag .help), ("--seed", .seed),
   ("--multiline", .flag .multiline), ("-v", .flag .verbose), ("--verbose", .flag .verbose),
   ("--debug", .flag .details)]

/-- All spellings of an option, as a fault names it. -/
def Named.title (option : Named) : String :=
  "/".intercalate ((spellings.filter fun entry => entry.2 = option).map Prod.fst)

/-- Why a command line is refused. -/
inductive Refusal where
  | ambiguous (argument : String) (candidates : List String)
  | valueIgnored (flag : Flag) (value : String)
  | valueMissing
  | seedNotInteger (value : String)
  deriving DecidableEq, Repr

/-- The wording of a refusal. -/
def Refusal.message : Refusal → String
  | ambiguous argument candidates =>
    "ambiguous option: " ++ argument ++ " could match " ++ ", ".intercalate candidates
  | valueIgnored flag value =>
    "argument " ++ (Named.flag flag).title ++ ": ignored explicit argument " ++ Text.quoted value
  | valueMissing => "argument " ++ Named.seed.title ++ ": expected one argument"
  | seedNotInteger value =>
    "argument " ++ Named.seed.title ++ ": invalid int value: " ++ Text.quoted value

/-- What comes with an option in the same argument. -/
inductive Attached where
  | nothing
  /-- A value after an equals sign. -/
  | value (text : String)
  /-- More letters after a short spelling, perhaps with an equals sign between. -/
  | letters (text : List Char)
  deriving DecidableEq, Repr

/-- What an argument is by its looks. -/
inductive Item where
  | word (text : String)
  | separator
  | option (option : Named) (attached : Attached)
  | unknown
  deriving DecidableEq, Repr

/-- Whether a text consists of a hyphen and a number of digits, perhaps with a point before
some of them, and perhaps of a line feed after that. -/
def looksNegative (text : List Char) : Bool :=
  let isDigit := fun c => (Text.digitValue? c).isSome
  match text with
  | '-' :: body =>
    let body := if body.getLast? = some '\n' then body.dropLast else body
    match body.dropWhile isDigit with
    | [] => !body.isEmpty
    | '.' :: fraction => !fraction.isEmpty && fraction.all isDigit
    | _ => false
  | _ => false

/-- The text before the first equals sign, and the text after it if there is one. -/
def cutAtEquals (text : List Char) : List Char × Option (List Char) :=
  match text.dropWhile (· ≠ '=') with
  | [] => (text, none)
  | _ :: value => (text.takeWhile (· ≠ '='), some value)

/-- What a value after an equals sign is, by the spelling before the sign: a short spelling
takes it for more letters, unless there are none. -/
def attachedValue (name value : List Char) : Attached :=
  if name.length = 2 ∧ value ≠ [] then .letters value else .value (String.ofList value)

/-- The options that an argument that spells none in full may stand for, with the spelling
and what comes with it. -/
def candidates (argument : List Char) : List (String × Item) :=
  match argument with
  | '-' :: '-' :: _ =>
    let (name, value) := cutAtEquals argument
    let attached := match value with
      | some value => .value (String.ofList value)
      | none => .nothing
    (spellings.filter fun entry => name.isPrefixOf entry.1.toList).map fun entry =>
      (entry.1, .option entry.2 attached)
  | '-' :: letter :: more =>
    (spellings.filter fun entry => entry.1.toList = ['-', letter]).map fun entry =>
      (entry.1, .option entry.2 (.letters more))
  | _ => []

/-- What an argument before any bare double hyphen is. -/
def classify (argument : String) : Except Refusal Item :=
  let chars := argument.toList
  let (name, value) := cutAtEquals chars
  if chars.head? ≠ some '-' then .ok (.word argument)
  else
    match spellings.lookup argument, value, spellings.lookup (String.ofList name) with
    | some option, _, _ => .ok (.option option .nothing)
    | none, some value, some option => .ok (.option option (attachedValue name value))
    | none, _, _ =>
      if chars.length = 1 then .ok (.word argument)
      else
        match candidates chars with
        | [(_, item)] => .ok item
        | [] => .ok (if looksNegative chars || chars.contains ' ' then .word argument else .unknown)
        | several => .error (.ambiguous argument (several.map Prod.fst))

/-- What the arguments are. -/
def itemize : List String → Except Refusal (List Item)
  | [] => .ok []
  | argument :: rest =>
    if argument = "--" then .ok (.separator :: rest.map .word)
    else do
      let item ← classify argument
      let items ← itemize rest
      return item :: items

end CommandLine

end Clausal
