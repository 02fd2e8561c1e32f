import SplitBoard.Toml.Number
import SplitBoard.Toml.Table
import SplitBoard.Toml.Text

/-!
# TOML arrays and inline tables

Values inside values. The items of an array may stand on lines of their own, with comments, and a
comma may follow the last; an inline table is one line and has no such comma.
-/

namespace SplitBoard.Toml

/-- The text behind blanks, line ends and comments. A comment goes on to the end of its line. -/
def skipFiller (inComment : Bool) : List Char → List Char
  | '\n' :: rest => skipFiller false rest
  | '\r' :: '\n' :: rest => skipFiller false rest
  | c :: rest =>
    if inComment then
      if isVisible c then skipFiller true rest else c :: rest
    else if isSpace c then skipFiller false rest
    else if c = '#' then skipFiller true rest
    else c :: rest
  | [] => []

/-- The items of an array up to its closing bracket. The bound, a text that is at least as long as
the one to read, bounds the items. -/
def arrayItems (item : Reader Value) : (bound : List Char) → Reader (List Value)
  | [], _ => none
  | _ :: bound, text =>
    match skipFiller false text with
    | ']' :: rest => some ([], rest)
    | text => do
      let (value, rest) ← item text
      match skipFiller false rest with
      | ',' :: rest =>
        let (values, rest) ← arrayItems item bound rest
        return (value :: values, rest)
      | ']' :: rest => return ([value], rest)
      | _ => none

/-- A path of keys, an equals sign, and what follows the blanks behind it. -/
def keyAndEquals (text : List Char) : Option (List String × List Char) := do
  let (path, rest) ← keyPath text
  let rest ← expect '=' rest
  return (path, skipSpaces rest)

/-- Give the last key of a path a value in the table that the keys before it lead to. -/
def defineAt (draft : Draft) (path : List String) (value : Value) : Option Draft := do
  draft.define path.dropLast (← path.getLast?) value

/-- The entries of an inline table up to its closing brace, added to a draft. The bound, a text that
is at least as long as the one to read, bounds the entries. -/
def inlineEntries (item : Reader Value) : (bound : List Char) → Draft → Reader Draft
  | [], _, _ => none
  | _ :: bound, draft, text => do
    let (path, text) ← keyAndEquals text
    let (value, rest) ← item text
    let draft ← defineAt draft path value
    match skipSpaces rest with
    | ',' :: rest => inlineEntries item bound draft rest
    | '\x7d' :: rest => return (draft, rest)
    | _ => none

/-- A value, in which arrays and inline tables go at most so deep. -/
def valueWithin : (depth : Nat) → Reader Value
  | 0 => plain
  | depth + 1 => fun text =>
    match text with
    | '[' :: rest => do
      let (items, rest) ← arrayItems (valueWithin depth) rest rest
      return (.array items, rest)
    | '\x7b' :: rest =>
      match skipSpaces rest with
      | '\x7d' :: rest => some (.table [], rest)
      | _ => do
        let (draft, rest) ← inlineEntries (valueWithin depth) rest {} rest
        return (.table (finishEntries draft.entries), rest)
    | _ => plain text
where
  plain (text : List Char) : Option (Value × List Char) :=
    match text with
    | '"' :: _ => (string text).map fun (s, rest) => (.string s, rest)
    | '\'' :: _ => (string text).map fun (s, rest) => (.string s, rest)
    | _ => scalar text

/-- A value that does not go too deep. -/
def value : Reader Value :=
  valueWithin depthLimit

end SplitBoard.Toml
