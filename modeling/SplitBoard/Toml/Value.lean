/-!
# TOML values

What a TOML document can say. Of floats and dates only the kind is kept, because nothing here asks
for more.

A `Reader` takes a value off the beginning of a text and gives what is left, or refuses.
-/

namespace SplitBoard.Toml

/-- A value. The entries of a table have different keys, and their order means nothing. -/
inductive Value where
  | string (text : String)
  | integer (n : Int)
  | float
  | boolean (b : Bool)
  | dateTime
  | array (items : List Value)
  | table (entries : List (String × Value))

/-- The entries of a table. -/
abbrev Entries := List (String × Value)

/-- Takes something off the beginning of a text. -/
abbrev Reader (α : Type) := List Char → Option (α × List Char)

/-- A blank inside a line. -/
def isSpace (c : Char) : Bool :=
  c = ' ' || c = '\t'

/-- The text without the blanks it begins with. -/
def skipSpaces (text : List Char) : List Char :=
  text.dropWhile isSpace

/-- A character that is neither a control character nor ASCII's last code, or is a tab. -/
def isVisible (c : Char) : Bool :=
  c = '\t' || (0x20 ≤ c.toNat && c.toNat ≠ 0x7F)

/-- The text behind the end of a line, if it begins with one. -/
def lineEnd? : List Char → Option (List Char)
  | '\n' :: rest => some rest
  | '\r' :: '\n' :: rest => some rest
  | _ => none

/-- The text behind a comment, if it begins with one. The end of the line is no part of it. -/
def skipComment : List Char → List Char
  | '#' :: rest => rest.dropWhile isVisible
  | text => text

/-- The text behind blanks, a comment and the end of the line. The end of the text will also do. -/
def restOfLine? (text : List Char) : Option (List Char) :=
  match skipComment (skipSpaces text) with
  | [] => some []
  | rest => lineEnd? rest

/-- How deep arrays, inline tables and dotted keys may go. -/
def depthLimit : Nat := 79

end SplitBoard.Toml
