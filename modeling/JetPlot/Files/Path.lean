/-!
# File paths

A path leads to a file in steps, from the root of all directories if it begins
with a slash, otherwise from the current directory. Empty steps and single points
lead nowhere. The extension of a path belongs to the last step; a point at the
beginning of a name starts no extension.
-/

namespace JetPlot.Files

/-- A step of a path. -/
inductive PathStep
  /-- Into the directory, or to the file, of the given name. -/
  | into (name : String)
  /-- Out of the directory. -/
  | up
  deriving DecidableEq

/-- How a path ends. -/
inductive Ending
  /-- With the last step. -/
  | bare
  /-- With a slash behind the last step. -/
  | slash
  /-- With a single point behind the last step. -/
  | point
  deriving DecidableEq

/-- A path as it is written. -/
structure Path where
  /-- The written form. -/
  text : String
  deriving DecidableEq

namespace Path

/-- The parts of a text between slashes. -/
def parts : List Char → List (List Char)
  | [] => [[]]
  | '/' :: cs => [] :: parts cs
  | c :: cs =>
    match parts cs with
    | [] => [[c]]
    | part :: rest => (c :: part) :: rest

/-- The parts of a path that are not empty. -/
def names (p : Path) : List (List Char) := (parts p.text.toList).filter (· ≠ [])

/-- Whether a path begins at the root of all directories. -/
def isAbsolute (p : Path) : Bool := p.text.toList.head? = some '/'

/-- The step that a part of a path stands for. -/
def stepOf? (part : List Char) : Option PathStep :=
  if part = ['.'] then none
  else if part = ['.', '.'] then some .up
  else some (.into (String.ofList part))

/-- The steps of a path. -/
def steps (p : Path) : List PathStep := p.names.filterMap stepOf?

/-- How a path ends. -/
def ending (p : Path) : Ending :=
  if p.names.getLast? = some ['.'] then .point
  else if p.text.toList.getLast? = some '/' then .slash
  else .bare

/-- The name that a path ends with. -/
def name? (p : Path) : Option String :=
  match p.steps.getLast? with
  | some (.into name) => some name
  | _ => none

/-- The extension of a name: what follows the last point, unless the point is the
    first character. -/
def extensionOf? (name : List Char) : Option (List Char) :=
  let extension := name.reverse.takeWhile (· ≠ '.')
  if extension.length + 1 < name.length then some extension.reverse else none

/-- The extension of a path. -/
def extension? (p : Path) : Option String :=
  p.name?.bind fun name => (extensionOf? name.toList).map String.ofList

end Path

end JetPlot.Files
