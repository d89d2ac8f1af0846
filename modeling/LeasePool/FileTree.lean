import LeasePool.Assoc
import LeasePool.Path

/-!
A small file system: a tree of directories and plain files, and a working directory in it. Paths are
followed step by step, so that a missing step, a plain file in the middle and a name that is too
long differ. A change is made at the spot that a path leads to, and the directories above it are put
together again from the way that led there.
-/
namespace LeasePool

/-- What stands at a place. -/
inductive FileNode where
  | file (text : String)
  | directory (entries : List (String × FileNode))

/-- Why a file operation failed. -/
inductive FileError where
  | invalidInput | invalidFilename | notFound | notADirectory | isADirectory | alreadyExists
deriving DecidableEq, Repr

def FileError.name : FileError → String
  | invalidInput => "InvalidInput"
  | invalidFilename => "InvalidFilename"
  | notFound => "NotFound"
  | notADirectory => "NotADirectory"
  | isADirectory => "IsADirectory"
  | alreadyExists => "AlreadyExists"

/-- The most bytes of a name. -/
def maxNameLength : Nat := 255

/-- The most bytes of a path. -/
def maxPathLength : Nat := 4095

namespace FileNode

def isDirectory : FileNode → Bool
  | file _ => false
  | directory _ => true

/-- What has the given name in a directory. -/
def entry? (n : FileNode) (name : String) : Except FileError (Option FileNode) :=
  match n with
  | file _ => .error .notADirectory
  | directory entries =>
    if name.utf8ByteSize ≤ maxNameLength then .ok (Assoc.get? name entries)
    else .error .invalidFilename

/-- Puts a node into a directory. -/
def put (n : FileNode) (name : String) (entry : FileNode) : FileNode :=
  match n with
  | file text => file text
  | directory entries => directory (Assoc.put name entry entries)

end FileNode

/-- A place in a tree: what stands there, and the directories above it, nearest first, each with the
name that was taken in it. -/
structure Spot where
  node : FileNode
  above : List (FileNode × String)

namespace Spot

/-- The spot of a name in the directory at a spot. -/
def down (s : Spot) (name : String) (entry : FileNode) : Spot := ⟨entry, (s.node, name) :: s.above⟩

/-- The directory above. The one at the top is above itself. -/
def up (s : Spot) : Spot :=
  match s.above with
  | [] => s
  | (directory, _) :: above => ⟨directory, above⟩

/-- The whole tree. -/
def top (s : Spot) : FileNode :=
  s.above.foldl (fun entry (directory, name) => directory.put name entry) s.node

/-- One step, which only a directory can take. -/
def step (s : Spot) (c : Path.Component) : Except FileError Spot :=
  match s.node, c with
  | .file _, _ => .error .notADirectory
  | .directory _, .root => .ok ⟨s.top, []⟩
  | .directory _, .here => .ok s
  | .directory _, .up => .ok s.up
  | .directory _, .name name => do
    match ← s.node.entry? name with
    | some entry => .ok (s.down name entry)
    | none => .error .notFound

end Spot

structure FileTree where
  top : FileNode
  /-- The names of the directories from the top down to the working directory. -/
  working : List String

namespace FileTree

/-- A tree with an empty working directory. -/
def empty : FileTree := ⟨.directory [("work", .directory [])], ["work"]⟩

/-- The tree around a spot. -/
def around (t : FileTree) (s : Spot) : FileTree := { t with top := s.top }

/-- The spot that steps lead to from the working directory. -/
def follow (t : FileTree) (steps : List Path.Component) : Except FileError Spot :=
  (t.working.map Path.Component.name ++ steps).foldlM Spot.step ⟨t.top, []⟩

/-- The steps of a path, if it can be followed at all. -/
def steps (path : String) : Except FileError (List Path.Component) :=
  if path.contains '\x00' then .error .invalidInput
  else if path.utf8ByteSize > maxPathLength then .error .invalidFilename
  else if path = "" then .error .notFound
  else .ok (Path.steps path)

/-- The spot that a path leads to. A path that ends in a slash leads to directories only. -/
def find (t : FileTree) (path : String) : Except FileError Spot := do
  let s ← t.follow (← steps path)
  if path.endsWith "/" && !s.node.isDirectory then .error .notADirectory else .ok s

/-- The spot of the directory that a path takes its last step in, and that step. -/
def approach (t : FileTree) (path : String) : Except FileError (Spot × Path.Component) := do
  let steps ← steps path
  let s ← t.follow steps.dropLast
  if s.node.isDirectory then .ok (s, steps.getLast?.getD .here) else .error .notADirectory

def isDirectory (t : FileTree) (path : String) : Bool :=
  match t.find path with
  | .ok s => s.node.isDirectory
  | .error _ => false

/-- Makes one directory. -/
def makeDirectory (t : FileTree) (path : String) : Except FileError FileTree := do
  let (s, last) ← t.approach path
  match last with
  | .name name =>
    match ← s.node.entry? name with
    | none => .ok (t.around (s.down name (.directory [])))
    | some _ => .error .alreadyExists
  | .root | .here | .up => .error .alreadyExists

/-- Makes the first of the directories; when what is above it is missing, the others first. -/
def makeAbove (t : FileTree) : List String → Except FileError FileTree
  | [] => .ok t
  | path :: above =>
    let settle (t : FileTree) (e : FileError) : Except FileError FileTree :=
      if t.isDirectory path then .ok t else .error e
    match t.makeDirectory path with
    | .ok t => .ok t
    | .error .notFound =>
      match t.makeAbove above with
      | .error e => .error e
      | .ok t =>
        match t.makeDirectory path with
        | .ok t => .ok t
        | .error e => settle t e
    | .error e => settle t e

/-- Makes the last of the directories, each of which is above the next, and those that it needs. -/
def makeDirectories (t : FileTree) (paths : List String) : Except FileError FileTree :=
  t.makeAbove paths.reverse

/-- Writes a file, which is made when only its last step is missing. A path that ends in a slash or
a dot names a directory, whatever stands there. -/
def write (t : FileTree) (path text : String) : Except FileError FileTree := do
  let (s, last) ← t.approach path
  match last with
  | .name name =>
    if path.endsWith "/" then .error .isADirectory
    else match ← s.node.entry? name with
      | some (.directory _) => .error .isADirectory
      | some (.file _) | none => .ok (t.around (s.down name (.file text)))
  | .root | .here | .up => .error .isADirectory

/-- The text of a plain file. -/
def text? (t : FileTree) (path : String) : Option String :=
  match t.find path with
  | .ok ⟨.file text, _⟩ => some text
  | _ => none

/-- Prepares a log file: makes its directory and empties the file. -/
def prepareLog (t : FileTree) (path : String) : Except FileError FileTree :=
  match Path.fileName? path with
  | none => .error .invalidInput
  | some _ => do
    let t ← t.makeDirectories (Path.beginnings path).dropLast
    t.write path ""

end FileTree

end LeasePool
