import SplitBoard.Side
import SplitBoard.Text.Numeral

/-!
# Arguments

What the words of a command line ask for. Words are read from left to right, and **the first one
that is wrong, or asks for help, decides**. Options may stand before or after what they apply to; an
option's value is the next word or follows an equals sign, and a value that begins with a dash has
to follow one. Behind a word of two dashes nothing is an option. No option may be given twice.

Two options belong to all commands and may stand before the command, or behind it, or both, in which
case the later one counts.
-/

namespace SplitBoard.Cli

/-- What to do. -/
inductive Command where
  /-- Show what is to know about an image. -/
  | inspect (image : String) (base : UInt16)
  /-- Compute the check value of a part of a file. -/
  | crc (file : String) (offset : Nat) (length : Option Nat)
  /-- Update a half. -/
  | flash (image : String) (side : Side) (dryRun : Bool) (base : UInt16)
  /-- Show the frames for a color. -/
  | ledPreview (color : String) (brightness : UInt8)
  /-- Print the profile. -/
  | profile
  deriving DecidableEq, Repr

/-- What a command line asks for. -/
inductive Invocation where
  | run (profile : Option String) (verbose : Bool) (command : Command)
  | help
  /-- The command line makes no sense. -/
  | misuse
  deriving DecidableEq, Repr

/-! ## Values -/

/-- An address, decimal or, behind `0x`, hexadecimal. -/
def address? (text : String) : Option UInt16 :=
  let n := match text.toList with
    | '0' :: 'x' :: digits => Text.numeralBelow? 16 0x10000 digits
    | '0' :: 'X' :: digits => Text.numeralBelow? 16 0x10000 digits
    | digits => Text.numeralBelow? 10 0x10000 digits
  n.map UInt16.ofNat

/-- A number of bytes. -/
def size? (text : String) : Option Nat :=
  Text.numeralBelow? 10 UInt64.size text.toList

/-- A brightness. It is read as a number with a sign, so zero may have a minus. -/
def brightness? (text : String) : Option UInt8 :=
  let n := match text.toList with
    | '-' :: c :: digits => if c = '+' then none else Text.numeralBelow? 10 1 (c :: digits)
    | digits => Text.numeralBelow? 10 0x100 digits
  n.map UInt8.ofNat

/-- A side. -/
def side? (text : String) : Option Side :=
  if text = "left" then some .left else if text = "right" then some .right else none

/-- A path, which must not be empty. -/
def path? (text : String) : Option String :=
  if text = "" then none else some text

/-! ## Words -/

/-- The options of a command: those with a value, those without, and whether it takes a path. -/
structure Grammar where
  valued : List String
  flags : List String
  takesPath : Bool

/-- What a word turned out to be. -/
inductive Token where
  | value (option text : String)
  | flag (option : String)
  | path (text : String)
  | help
  | wrong
  deriving DecidableEq, Repr

/-- Whether a word can only be an option, or the mark behind which there are none. -/
def isDashed (word : String) : Bool :=
  word.startsWith "-" && word ≠ "-"

/-- The letters of a word with one dash. -/
def shortTokens : List Char → List Token
  | [] => []
  | 'v' :: rest => .flag "verbose" :: shortTokens rest
  | 'h' :: rest => .help :: shortTokens rest
  | _ :: _ => [.wrong]

/-- The name of a word with two dashes, and the value behind its equals sign. -/
def longParts (word : List Char) : String × Option String :=
  let name := word.takeWhile (· ≠ '=')
  match word.drop name.length with
  | [] => (String.ofList name, none)
  | _ :: value => (String.ofList name, some (String.ofList value))

/-- The token of a word with two dashes, if it does not need the next word. -/
def longToken? (grammar : Grammar) (word : List Char) : Option Token :=
  let (name, attached) := longParts word
  match attached with
  | some value => if name ∈ grammar.valued then some (.value name value) else some .wrong
  | none =>
    if name ∈ grammar.valued then none
    else if name ∈ grammar.flags then some (.flag name)
    else if name = "help" then some .help
    else some .wrong

/-- The tokens of the words of a command, up to the first word that is wrong. `paths` is the number
of paths that may still come. -/
def tokens (grammar : Grammar) (paths : Nat) : List String → List Token
  | [] => []
  | word :: rest =>
    match word.toList with
    | ['-', '-'] =>
      rest.take paths |>.map Token.path |>.append (if paths < rest.length then [.wrong] else [])
    | '-' :: '-' :: long =>
      match longToken? grammar long with
      | some token => token :: tokens grammar paths rest
      | none =>
        match rest with
        | [] => [.wrong]
        | value :: rest =>
          if isDashed value then [.wrong]
          else .value (longParts long).1 value :: tokens grammar paths rest
    | '-' :: c :: letters => shortTokens (c :: letters) ++ tokens grammar paths rest
    | _ =>
      match paths with
      | 0 => [.wrong]
      | paths + 1 => .path word :: tokens grammar paths rest

/-! ## Commands -/

/-- What a command was given. -/
structure Given where
  path : Option String := none
  values : List (String × String) := []
  flags : List String := []

/-- Whether a text will do as the value of an option. -/
def isValueFor (option text : String) : Bool :=
  match option with
  | "profile" => (path? text).isSome
  | "base" => (address? text).isSome
  | "offset" => (size? text).isSome
  | "length" => (size? text).isSome
  | "side" => (side? text).isSome
  | "brightness" => (brightness? text).isSome
  | _ => true

/-- How reading tokens ends: with what was given, or earlier. -/
inductive Gathered where
  | given (given : Given)
  | help
  | misuse

/-- Gather what tokens give. -/
def gather (given : Given) : List Token → Gathered
  | [] => .given given
  | .wrong :: _ => .misuse
  | .help :: _ => .help
  | .path text :: rest =>
    match path? text with
    | some path => gather { given with path := some path } rest
    | none => .misuse
  | .flag option :: rest =>
    if option ∈ given.flags then .misuse
    else gather { given with flags := option :: given.flags } rest
  | .value option text :: rest =>
    if (given.values.lookup option).isSome then .misuse
    else if isValueFor option text then
      gather { given with values := (option, text) :: given.values } rest
    else .misuse

namespace Given

/-- The value of an option. -/
def value? (given : Given) (option : String) : Option String :=
  given.values.lookup option

/-- Whether an option was given. -/
def has (given : Given) (option : String) : Bool :=
  given.flags.contains option

/-- The base address, which may be left out. -/
def base (given : Given) : UInt16 :=
  ((given.value? "base").bind address?).getD 0

end Given

/-- The options that belong to every command. -/
def commonValued : List String := ["profile"]

/-- The options without value that belong to every command. -/
def commonFlags : List String := ["verbose"]

/-- The names of the commands. -/
inductive CommandName where
  | inspect
  | crc
  | flash
  | ledPreview
  | profile
  deriving DecidableEq, Repr

namespace CommandName

/-- The command that a word names. -/
def ofWord? (word : String) : Option CommandName :=
  match word with
  | "inspect" => some inspect
  | "crc" => some crc
  | "flash" => some flash
  | "led-preview" => some ledPreview
  | "profile" => some profile
  | _ => none

/-- What may follow a command. -/
def grammar : CommandName → Grammar
  | inspect => ⟨"base" :: commonValued, commonFlags, true⟩
  | crc => ⟨"offset" :: "length" :: commonValued, commonFlags, true⟩
  | flash => ⟨"side" :: "base" :: commonValued, "dry-run" :: commonFlags, true⟩
  | ledPreview => ⟨"color" :: "brightness" :: commonValued, commonFlags, false⟩
  | profile => ⟨commonValued, commonFlags, false⟩

/-- The command with what it was given, unless something is missing. -/
def command? (name : CommandName) (given : Given) : Option Command :=
  match name with
  | inspect => given.path.map fun image => .inspect image given.base
  | crc => given.path.map fun file =>
      .crc file (((given.value? "offset").bind size?).getD 0) ((given.value? "length").bind size?)
  | flash => do
    let image ← given.path
    let side ← (given.value? "side").bind side?
    return .flash image side (given.has "dry-run") given.base
  | ledPreview =>
    some (.ledPreview ((given.value? "color").getD "FFFFFF")
      (((given.value? "brightness").bind brightness?).getD 255))
  | profile => some .profile

/-- What a command asks for, given the words behind it and what was given before it. The options of
the whole command line are checked last. -/
def invocation (name : CommandName) (words : List String) (before : List Token) : Invocation :=
  let grammar := name.grammar
  match gather {} (tokens grammar (if grammar.takesPath then 1 else 0) words) with
  | .help => .help
  | .misuse => .misuse
  | .given inner =>
    match gather {} before, name.command? inner with
    | .given outer, some command =>
      .run ((inner.value? "profile").or (outer.value? "profile"))
        (inner.has "verbose" || outer.has "verbose") command
    | _, _ => .misuse

end CommandName

/-- What help about a row of commands comes to: there are no commands within commands. -/
def helpAbout : List String → Invocation
  | [] => .help
  | [word] => if (CommandName.ofWord? word).isSome ∨ word = "help" then .help else .misuse
  | _ => .misuse

/-- Read the words up to the command. `checked` are the tokens so far that were found good, in
order, and `pending` is one whose turn comes later. -/
def beforeCommand (checked : List Token) (pending : List Token) : List String → Invocation
  | [] => .misuse
  | word :: rest =>
    match word.toList with
    | '-' :: '-' :: long =>
      match longToken? ⟨commonValued, commonFlags, false⟩ long with
      | some token =>
        match gather {} (checked ++ pending ++ [token]) with
        | .given _ => beforeCommand (checked ++ pending ++ [token]) [] rest
        | .help => .help
        | .misuse => .misuse
      | none =>
        match rest with
        | [] => .misuse
        | value :: rest =>
          match gather {} (checked ++ pending) with
          | .given _ =>
            if isDashed value then .misuse
            else beforeCommand (checked ++ pending) [.value (longParts long).1 value] rest
          | .help => .help
          | .misuse => .misuse
    | '-' :: c :: letters =>
      match gather {} (checked ++ pending ++ shortTokens (c :: letters)) with
      | .given _ => beforeCommand (checked ++ pending ++ shortTokens (c :: letters)) [] rest
      | .help => .help
      | .misuse => .misuse
    | _ =>
      if word = "help" then helpAbout rest
      else
        match CommandName.ofWord? word with
        | some name => name.invocation rest (checked ++ pending)
        | none => .misuse

/-- What a command line asks for. -/
def Invocation.ofWords (words : List String) : Invocation :=
  beforeCommand [] [] words

end SplitBoard.Cli
