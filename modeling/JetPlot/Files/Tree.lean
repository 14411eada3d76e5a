import JetPlot.Files.Path

/-!
# File trees

A tree holds files and directories. A file is found at its location, the names on
the way to it from the root. The directories on the way to a file exist without
further notice; others are listed. Reading and writing walk along a path and fail
where there is no directory to walk through (`Tree.walk`). Nothing but writing
changes the content of a file.

Directories are made one after the other. Where one cannot be made, those made
before it stay (`Attempt`).
-/

namespace JetPlot.Files

/-- The names on the way from the root to a file or a directory. -/
abbrev Location := List String

/-- Why a file cannot be used. -/
inductive Fault
  /-- There is nothing at the path. -/
  | notFound
  /-- The path leads through a file. -/
  | notDirectory
  /-- There is a directory at the path. -/
  | isDirectory
  /-- There is something at the path already. -/
  | alreadyExists
  /-- The content of the file is no text. -/
  | notText
  deriving DecidableEq

/-- The fault in words. -/
def Fault.text : Fault → String
  | notFound => "No such file or directory (os error 2)"
  | notDirectory => "Not a directory (os error 20)"
  | isDirectory => "Is a directory (os error 21)"
  | alreadyExists => "File exists (os error 17)"
  | notText => "stream did not contain valid UTF-8"

/-- A tree of files and directories. -/
structure Tree where
  /-- The files with their contents. -/
  files : List (Location × ByteArray)
  /-- Directories that exist, whether there is a file in them or not. -/
  directories : List Location
  /-- The current directory, which exists as well. -/
  current : Location

namespace Tree

/-- The content of the file at a location. -/
def content? (t : Tree) (l : Location) : Option ByteArray := t.files.lookup l

/-- Whether there is a directory at a location. -/
def isDirectory (t : Tree) (l : Location) : Bool :=
  (t.current :: t.directories).any (fun d => l.isPrefixOf d) ||
    t.files.any fun file => l.isPrefixOf file.1 && l ≠ file.1

/-- The tree with the given content of the file at a location. -/
def put (t : Tree) (l : Location) (content : ByteArray) : Tree :=
  { t with files := (l, content) :: t.files.filter fun file => file.1 ≠ l }

/-- Walks along some steps, through directories only. -/
def walk (t : Tree) (l : Location) : List PathStep → Except Fault Location
  | [] => .ok l
  | .up :: rest => t.walk l.dropLast rest
  | .into name :: rest =>
    let next := l ++ [name]
    if t.isDirectory next then t.walk next rest
    else if (t.content? next).isSome then .error .notDirectory
    else .error .notFound

/-- Where a path begins. -/
def start (t : Tree) (p : Path) : Location := if p.isAbsolute then [] else t.current

/-- Where a path leads to if everything on the way exists. The last name need not
    exist. A path without a last name leads to a directory. -/
def target (t : Tree) (p : Path) : Except Fault Location :=
  match p.steps.getLast? with
  | none => if p.text = "" then .error .notFound else .error .isDirectory
  | some .up => do
    let _ ← t.walk (t.start p) p.steps
    .error .isDirectory
  | some (.into name) => return (← t.walk (t.start p) p.steps.dropLast) ++ [name]

/-- The content of the file at a path. -/
def read (t : Tree) (p : Path) : Except Fault ByteArray := do
  let l ← t.target p
  match t.content? l with
  | some content => if p.ending = .bare then .ok content else .error .notDirectory
  | none => if t.isDirectory l then .error .isDirectory else .error .notFound

/-- The text in the file at a path. -/
def readText (t : Tree) (p : Path) : Except Fault String := do
  match String.fromUTF8? (← t.read p) with
  | some text => .ok text
  | none => .error .notText

/-- Whether there is a file at a path. -/
def isFile (t : Tree) (p : Path) : Bool := (t.read p).isOk

/-- Writes a file, which may exist already. -/
def write (t : Tree) (p : Path) (content : ByteArray) : Except Fault Tree := do
  let l ← t.target p
  if t.isDirectory l then .error .isDirectory
  else
    match p.ending with
    | .bare => .ok (t.put l content)
    | .slash => .error .isDirectory
    | .point => if (t.content? l).isSome then .error .notDirectory else .error .notFound

/-- Writes a text to a file. -/
def writeText (t : Tree) (p : Path) (text : String) : Except Fault Tree := t.write p text.toUTF8

/-- Makes the directory that a step leads to, from the directory that the steps before
    it lead to. -/
def makeDirectory (t : Tree) (l : Location) (before : List PathStep) (last : PathStep) :
    Except Fault Tree := do
  let l ← t.walk l before
  match last with
  | .up => .error .alreadyExists
  | .into name =>
    let next := l ++ [name]
    if t.isDirectory next || (t.content? next).isSome then .error .alreadyExists
    else .ok { t with directories := next :: t.directories }

/-- Makes the directory that a step leads to, unless it is there already. -/
def ensureDirectory (t : Tree) (l : Location) (before : List PathStep) (last : PathStep) :
    Except Fault Tree :=
  match t.makeDirectory l before last with
  | .ok made => .ok made
  | .error fault => if (t.walk l (before ++ [last])).isOk then .ok t else .error fault

end Tree

/-- What comes of changing a tree in several steps. Where a step fails, what was done
    before it stays. -/
structure Attempt (ε : Type) where
  /-- The tree afterwards. -/
  left : Tree
  /-- Whether all steps succeeded. -/
  result : Except ε Unit

namespace Attempt

variable {ε ε' : Type}

/-- No step at all. -/
def none (t : Tree) : Attempt ε := ⟨t, .ok ()⟩

/-- A first step that fails. -/
def refused (t : Tree) (fault : ε) : Attempt ε := ⟨t, .error fault⟩

/-- A further step. If it fails, it does nothing. -/
def andThen (a : Attempt ε) (step : Tree → Except ε Tree) : Attempt ε :=
  match a.result with
  | .error _ => a
  | .ok () =>
    match step a.left with
    | .ok t => none t
    | .error fault => refused a.left fault

/-- The same attempt with other faults. -/
def mapError (a : Attempt ε) (f : ε → ε') : Attempt ε' := ⟨a.left, a.result.mapError f⟩

/-- The tree after all steps, if they succeeded. -/
def tree (a : Attempt ε) : Except ε Tree := a.result.map fun () => a.left

end Attempt

namespace Tree

/-- Makes the directories that some steps, the last one first, lead through. Those
    on the way to a directory are only made if it cannot be made at once. -/
def ensureDirectories (t : Tree) (l : Location) : (backward : List PathStep) → Attempt Fault
  | [] => .none t
  | last :: before =>
    match t.ensureDirectory l before.reverse last with
    | .ok made => .none made
    | .error .notFound =>
      (t.ensureDirectories l before).andThen fun made => made.ensureDirectory l before.reverse last
    | .error fault => .refused t fault

/-- Tries to make the directories on the way to a file. -/
def attemptParents (t : Tree) (p : Path) : Attempt Fault :=
  t.ensureDirectories (t.start p) (p.steps.dropLast).reverse

/-- Makes the directories on the way to a file. -/
def ensureParents (t : Tree) (p : Path) : Except Fault Tree := (t.attemptParents p).tree

end Tree

end JetPlot.Files
