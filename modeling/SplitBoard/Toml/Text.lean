import SplitBoard.Text.Numeral
import SplitBoard.Toml.Value

/-!
# TOML strings and keys

Strings stand between double quotes, where a backslash begins an escape, or between single quotes,
where nothing does. Three quotes instead of one let a string go over several lines: a line end right
behind the opening quotes is dropped, and a backslash at the end of a line joins it to the next
text. Up to two quotes may stand inside such a string, also right before the closing ones.

A key is a string of one line or a bare word; dots between keys make a path.
-/

namespace SplitBoard.Toml

/-- The character with a code point, if there is one. -/
def charOf? (n : Nat) : Option Char :=
  if n.isValidChar then some (Char.ofNat n) else none

/-- The character written by exactly so many hexadecimal digits. -/
def codePoint? (count : Nat) (text : List Char) : Option (Char × List Char) := do
  let digits := text.take count
  if digits.length = count then
    return (← charOf? (← Text.digits? 16 0 digits), text.drop count)
  else none

/-- The character that an escape stands for, from behind its backslash. -/
def escaped? : List Char → Option (Char × List Char)
  | 'b' :: rest => some (Char.ofNat 0x08, rest)
  | 't' :: rest => some ('\t', rest)
  | 'n' :: rest => some ('\n', rest)
  | 'f' :: rest => some (Char.ofNat 0x0C, rest)
  | 'r' :: rest => some ('\r', rest)
  | '"' :: rest => some ('"', rest)
  | '\\' :: rest => some ('\\', rest)
  | 'u' :: rest => codePoint? 4 rest
  | 'U' :: rest => codePoint? 8 rest
  | _ => none

/-- The text behind line ends and blanks. -/
def skipBlankLines : List Char → List Char
  | '\n' :: rest => skipBlankLines rest
  | '\r' :: '\n' :: rest => skipBlankLines rest
  | c :: rest => if isSpace c then skipBlankLines rest else c :: rest
  | [] => []

/-- The text that goes on after a backslash at the end of a line, if that is what stands here. -/
def joinedLine? (text : List Char) : Option (List Char) :=
  (lineEnd? (skipSpaces text)).map skipBlankLines

/-- The rest of a string of one line, behind its opening quote. The bound, a text that is at least
as long as the one to read, bounds the characters. -/
def lineString (quote : Char) (escapes : Bool) :
    (bound found : List Char) → Reader String
  | [], _, _ => none
  | _ :: _, _, [] => none
  | _ :: bound, found, c :: rest =>
    if c = quote then some (String.ofList found.reverse, rest)
    else if c = '\\' ∧ escapes then do
      let (e, rest) ← escaped? rest
      lineString quote escapes bound (e :: found) rest
    else if isVisible c then lineString quote escapes bound (c :: found) rest
    else none

/-- The rest of a string of several lines, behind its opening quotes. The bound, a text that is at
least as long as the one to read, bounds the characters. -/
def blockString (quote : Char) (escapes : Bool) :
    (bound found : List Char) → Reader String
  | [], _, _ => none
  | _ :: _, _, [] => none
  | _ :: bound, found, c :: rest =>
    if c = quote then
      let quotes := (c :: rest).takeWhile (· = quote)
      let after := (c :: rest).dropWhile (· = quote)
      if quotes.length < 3 then blockString quote escapes bound (quotes ++ found) after
      else if quotes.length ≤ 5 then
        some (String.ofList (found.reverse ++ quotes.drop 3), after)
      else none
    else if c = '\\' ∧ escapes then
      match joinedLine? rest with
      | some rest => blockString quote escapes bound found rest
      | none => do
        let (e, rest) ← escaped? rest
        blockString quote escapes bound (e :: found) rest
    else
      match lineEnd? (c :: rest) with
      | some rest => blockString quote escapes bound ('\n' :: found) rest
      | none =>
        if isVisible c then blockString quote escapes bound (c :: found) rest else none

/-- The text without the line end it begins with, if it does. -/
def dropLineEnd (text : List Char) : List Char :=
  (lineEnd? text).getD text

/-- A string. -/
def string : Reader String
  | '"' :: '"' :: '"' :: rest => blockString '"' true rest [] (dropLineEnd rest)
  | '\'' :: '\'' :: '\'' :: rest => blockString '\'' false rest [] (dropLineEnd rest)
  | '"' :: rest => lineString '"' true rest [] rest
  | '\'' :: rest => lineString '\'' false rest [] rest
  | _ => none

/-! ## Keys -/

/-- A character of a bare key. -/
def isBare (c : Char) : Bool :=
  c.isAlphanum || c = '_' || c = '-'

/-- A key that needs no quotes. -/
def IsBareKey (key : String) : Prop :=
  key.toList ≠ [] ∧ ∀ c ∈ key.toList, isBare c

instance (key : String) : Decidable (IsBareKey key) :=
  decidable_of_iff (key.toList ≠ [] ∧ key.toList.all isBare) (by simp [IsBareKey])

/-- One key. -/
def simpleKey : Reader String
  | '"' :: rest => lineString '"' true rest [] rest
  | '\'' :: rest => lineString '\'' false rest [] rest
  | text =>
    let bare := text.takeWhile isBare
    if bare.isEmpty then none else some (String.ofList bare, text.dropWhile isBare)

/-- Keys with dots between them and blanks around them. Fuel bounds the keys. -/
def keysFrom : (fuel : Nat) → Reader (List String)
  | 0, _ => none
  | fuel + 1, text => do
    let (key, rest) ← simpleKey (skipSpaces text)
    match skipSpaces rest with
    | '.' :: more =>
      let (keys, rest) ← keysFrom fuel more
      return (key :: keys, rest)
    | rest => return ([key], rest)

/-- A path of keys that is not too long. -/
def keyPath : Reader (List String) :=
  keysFrom depthLimit

end SplitBoard.Toml
