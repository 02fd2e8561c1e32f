import SplitBoard.Dialogue

/-!
# Reading files

The one thing that the command line wants of the world outside is the bytes of files. `Folder` is a
world that consists of a working directory with some files in it.
-/

namespace SplitBoard.Cli

/-- Why a file could not be read. -/
inductive ReadFault where
  | notFound
  | permissionDenied
  | notDirectory
  | isDirectory
  | nameTooLong
  /-- Anything else, as the system words it. -/
  | other (message : String)
  deriving DecidableEq

/-- The wording of a fault. -/
def ReadFault.message : ReadFault → String
  | notFound => "No such file or directory (os error 2)"
  | permissionDenied => "Permission denied (os error 13)"
  | notDirectory => "Not a directory (os error 20)"
  | isDirectory => "Is a directory (os error 21)"
  | nameTooLong => "File name too long (os error 36)"
  | other message => message

/-- The files as something to talk to: one asks for the bytes behind a path. -/
def fileVocabulary : Vocabulary := ⟨String, fun _ => Except ReadFault (Array UInt8)⟩

/-- Work that reads files and ends with a result. -/
abbrev Reading (α : Type) : Type := Dialogue fileVocabulary α

/-- The bytes of a file. -/
def readFile (path : String) : Reading (Except ReadFault (Array UInt8)) :=
  Dialogue.say (V := fileVocabulary) path

/-- The names that a path is made of. -/
def pathNames (path : String) : List String :=
  path.splitOn "/"

/-- The part of a file's name behind its last dot, unless the name only begins with that dot. -/
def extension? (path : String) : Option String :=
  let name := (pathNames path).getLast?.getD ""
  match (name.splitOn ".").reverse with
  | last :: before :: more =>
    if name = ".." ∨ (before = "" ∧ more = []) then none else some last
  | _ => none

/-- Bytes that a name in a path can have. -/
def longestName : Nat := 255

/-- Bytes that a path can have. -/
def longestPath : Nat := 4095

/-- A working directory with files in it, by their paths. -/
structure Folder where
  files : List (String × Array UInt8)

namespace Folder

/-- The file that a row of names leads to. -/
def fileAt? (folder : Folder) (names : List String) : Option (Array UInt8) :=
  (folder.files.find? fun file => pathNames file.1 = names).map (·.2)

/-- Whether a row of names leads to a directory, because a file lies below it. -/
def isDirectory (folder : Folder) (names : List String) : Bool :=
  names.isEmpty || folder.files.any fun file =>
    names.isPrefixOf (pathNames file.1) && names.length < (pathNames file.1).length

/-- Follow the names of a path through the directories around the working directory. There are only
directories on the way up, and nothing is found on the way down. -/
def outside : List String → ReadFault
  | [] => .isDirectory
  | name :: rest =>
    if name = "" ∨ name = "." ∨ name = ".." then outside rest
    else if longestName < name.utf8ByteSize then .nameTooLong
    else .notFound

/-- Follow the names of a path from a directory on. -/
def follow (folder : Folder) (here : List String) :
    List String → Except ReadFault (Array UInt8)
  | [] => .error .isDirectory
  | name :: rest =>
    if name = "" ∨ name = "." then folder.follow here rest
    else if name = ".." then
      if here = [] then .error (outside rest) else folder.follow here.dropLast rest
    else if longestName < name.utf8ByteSize then .error .nameTooLong
    else
      match folder.fileAt? (here ++ [name]) with
      | some bytes => if rest = [] then .ok bytes else .error .notDirectory
      | none =>
        if folder.isDirectory (here ++ [name]) then folder.follow (here ++ [name]) rest
        else .error .notFound

/-- The bytes behind a path. -/
def read (folder : Folder) (path : String) : Except ReadFault (Array UInt8) :=
  if longestPath < path.utf8ByteSize then .error .nameTooLong
  else if path.startsWith "/" then .error (outside (pathNames path))
  else folder.follow [] (pathNames path)

/-- The directory as the whole world. -/
def partner : Partner fileVocabulary Folder :=
  fun path folder => (folder.read path, folder)

end Folder
end SplitBoard.Cli
