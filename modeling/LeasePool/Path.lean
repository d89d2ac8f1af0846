/-!
File paths as text. Two paths are the same when they have the same components: repeated slashes, a
slash at the end, and dots after the first component do not count. Following a path is stricter: a
dot is a step of its own, which only a directory can take.
-/
namespace LeasePool

namespace Path

inductive Component where
  | root
  | here
  | up
  | name (s : String)
deriving DecidableEq, Repr

/-- The texts between slashes. -/
def segments (path : String) : List String :=
  (path.toList.splitOn '/').map String.ofList

/-- The component that a segment after the first stands for. -/
def component? (segment : String) : Option Component :=
  if segment = "" ∨ segment = "." then none
  else if segment = ".." then some .up
  else some (.name segment)

def components (path : String) : List Component :=
  match segments path with
  | [] => []
  | first :: rest =>
    let head : List Component :=
      if first = "" then (if rest.isEmpty then [] else [.root])
      else if first = "." then [.here]
      else (component? first).toList
    head ++ rest.filterMap component?

/-- Whether two texts name the same path. -/
def same (a b : String) : Bool := components a == components b

/-- The last component, when it is a name. -/
def fileName? (path : String) : Option String :=
  match (components path).getLast? with
  | some (.name s) => some s
  | _ => none

/-- The steps in which a path is followed. Repeated slashes do not count. -/
def steps (path : String) : List Component :=
  let step? (segment : String) : Option Component :=
    if segment = "" then none
    else if segment = "." then some .here
    else if segment = ".." then some .up
    else some (.name segment)
  (if path.startsWith "/" then [.root] else []) ++ (segments path).filterMap step?

/-- The beginnings of a path that end in a component other than the root, the shortest first. The
last one is the path itself, less slashes and dots at its end. -/
def beginnings (path : String) : List String :=
  let segments := segments path
  let ends (n : Nat) (segment : String) : Bool := segment != "" && (n == 0 || segment != ".")
  segments.zipIdx.filterMap fun (segment, n) =>
    if ends n segment then some ("/".intercalate (segments.take (n + 1))) else none

/-- A path below a directory; an absolute path stays as it is. -/
def join (directory path : String) : String :=
  if path.startsWith "/" then path
  else if directory = "" ∨ directory.endsWith "/" then directory ++ path
  else directory ++ "/" ++ path

end Path

end LeasePool
