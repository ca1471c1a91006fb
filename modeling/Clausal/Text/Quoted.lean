import Clausal.Text.Printable

/-!
# Quoted texts

A quoted text stands between two equal quotation marks: apostrophes, unless the
text holds an apostrophe and no double quote.  The mark in use and the backslash
are escaped, line feed, carriage return and tab have short escapes, and any other
character that is not printable is written by its code point in two, four or
eight hexadecimal digits, whichever is the least that suffices.
-/

namespace Clausal.Text

/-- The last `width` hexadecimal digits of a number, in lower case. -/
def hexDigits : Nat → Nat → List Char
  | 0, _ => []
  | width + 1, n => hexDigits width (n / 16) ++ [Nat.digitChar (n % 16)]

/-- The escape of a character by its code point. -/
def codePointEscape (c : Char) : List Char :=
  if c.toNat < 0x100 then '\\' :: 'x' :: hexDigits 2 c.toNat
  else if c.toNat < 0x10000 then '\\' :: 'u' :: hexDigits 4 c.toNat
  else '\\' :: 'U' :: hexDigits 8 c.toNat

/-- What stands for a character between the given quotation marks. -/
def quotedChar (mark c : Char) : List Char :=
  if c = mark ∨ c = '\\' then ['\\', c]
  else if c = '\n' then ['\\', 'n']
  else if c = '\r' then ['\\', 'r']
  else if c = '\t' then ['\\', 't']
  else if isPrintable c then [c]
  else codePointEscape c

/-- The quotation mark around a text. -/
def quotationMark (text : List Char) : Char :=
  if '\x27' ∈ text ∧ '"' ∉ text then '"' else '\x27'

/-- The characters of a text between quotation marks. -/
def quotedChars (text : List Char) : List Char :=
  let mark := quotationMark text
  mark :: (text.flatMap (quotedChar mark) ++ [mark])

/-- A text between quotation marks, with what cannot be shown escaped. -/
def quoted (text : String) : String :=
  String.ofList (quotedChars text.toList)

example : quoted "a" = "'a'" := by decide +kernel

example : quoted "it's" = "\"it's\"" := by decide +kernel

example : quoted "'\"\n\u00ad\u2028" = "'\\'\"\\n\\xad\\u2028'" := by decide +kernel

end Clausal.Text
