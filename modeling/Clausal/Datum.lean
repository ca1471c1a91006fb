import Clausal.Decimal.Notation
import Clausal.Text.Quoted

/-!
# Untyped values

Some requests come with a value that need not be what is asked for.  Such a value is
quoted in the refusal, in the form that is defined here.
-/

namespace Clausal

/-- A value of any type. -/
inductive Datum where
  | nothing
  | boolean (value : Bool)
  | integer (value : Int)
  | real (value : Binary64)
  | text (value : String)
  | list (items : List Datum)
  | table (entries : List (String × Datum))
  deriving Inhabited

namespace Datum

mutual

/-- The form in which a value is quoted. -/
def shown : Datum → String
  | nothing => "None"
  | boolean value => if value then "True" else "False"
  | integer value => toString value
  | real value => value.text
  | text value => Text.quoted value
  | list items => "[" ++ ", ".intercalate (shownItems items) ++ "]"
  | table entries => "\x7b" ++ ", ".intercalate (shownEntries entries) ++ "\x7d"

/-- The forms of the items of a list. -/
def shownItems : List Datum → List String
  | [] => []
  | item :: rest => item.shown :: shownItems rest

/-- The forms of the entries of a table. -/
def shownEntries : List (String × Datum) → List String
  | [] => []
  | (key, value) :: rest => (Text.quoted key ++ ": " ++ value.shown) :: shownEntries rest

end

/-- The name of a value's type. -/
def typeName : Datum → String
  | nothing => "NoneType"
  | boolean _ => "bool"
  | integer _ => "int"
  | real _ => "float"
  | text _ => "str"
  | list _ => "list"
  | table _ => "dict"

end Datum

end Clausal
