import TapeMachine.Text.Utf8

/-! The files that a program can be read from: a flat directory of files and empty
directories, and the paths that lead to them.
-/

namespace TapeMachine

/-- Why a file cannot be read as text. -/
inductive FileError where
  | notFound
  | notADirectory
  | isADirectory
  | notUtf8
  /-- A failure that only the file system itself can explain. -/
  | other (message : String)
deriving DecidableEq, Inhabited

def FileError.message : FileError → String
  | .notFound => "No such file or directory (os error 2)"
  | .notADirectory => "Not a directory (os error 20)"
  | .isADirectory => "Is a directory (os error 21)"
  | .notUtf8 => "stream did not contain valid UTF-8"
  | .other message => message

inductive Entry where
  | file (content : List UInt8)
  | directory
deriving DecidableEq, Inhabited

/-- The entries of the working directory by name. -/
structure Files where
  entries : List (String × Entry)
deriving DecidableEq, Inhabited

namespace Files

/-- Where a path has led so far. Nothing is known of the directories around the working
directory, and they are taken to be empty.
-/
inductive Place where
  | outside
  | top
  | entry (entry : Entry)
deriving DecidableEq, Inhabited

/-- Follows one name of a path. -/
def follow (files : Files) (place : Place) (name : String) : Except FileError Place :=
  match place with
  | .entry (.file _) => .error .notADirectory
  | .entry .directory =>
      if name = "" ∨ name = "." then .ok place
      else if name = ".." then .ok .top
      else .error .notFound
  | .outside =>
      if name = "" ∨ name = "." ∨ name = ".." then .ok place else .error .notFound
  | .top =>
      if name = "" ∨ name = "." then .ok place
      else if name = ".." then .ok .outside
      else
        match files.entries.lookup name with
        | some entry => .ok (.entry entry)
        | none => .error .notFound

/-- The names between the slashes of a path. -/
def names (path : List Char) : List (List Char) :=
  path.foldr
    (fun c found =>
      match found with
      | [] => [[c]]
      | name :: rest => if c = '/' then [] :: name :: rest else (c :: name) :: rest)
    [[]]

/-- The place that a path leads to. -/
def resolve (files : Files) (path : String) : Except FileError Place :=
  if path.isEmpty then
    .error .notFound
  else
    let first := if path.toList.head? = some '/' then Place.outside else Place.top
    ((names path.toList).map String.ofList).foldlM files.follow first

/-- The content of the file that a path leads to. -/
def read (files : Files) (path : String) : Except FileError (List UInt8) :=
  match files.resolve path with
  | .ok (.entry (.file content)) => .ok content
  | .ok _ => .error .isADirectory
  | .error error => .error error

end Files

end TapeMachine
