import ApiTypes.FileAccess
import ApiTypes.FilePath
import ApiTypes.Text.Utf8

/-!
# A tree of files

A model of a file system: files and directories by their places below a root, and a working
directory from which paths are taken. A component leads into a directory, `..` out of it, and the
root lies in itself.

## Main definitions

* `FileTree` — files, directories and the working directory
* `FileTree.locate?` — the place that a path leads to
* `FileTree.read?`, `FileTree.createDirectories?`, `FileTree.write?`
* `FileTree.files` — the files below the working directory
-/

namespace ApiTypes

/-- The names on the way from the root to a place. -/
abbrev FileTree.Location := List String

/-- What is at a place. -/
inductive FileTree.Node where
  | directory
  | file (bytes : List UInt8)
deriving DecidableEq, Repr

/-- Files and directories by their places, and the working directory. The root is always a
directory. -/
structure FileTree where
  nodes : List (FileTree.Location × FileTree.Node)
  here : FileTree.Location
deriving Repr

namespace FileTree

/-- What is at a place, if anything is. -/
def node? (tree : FileTree) (location : Location) : Option Node :=
  if location = [] then some .directory else tree.nodes.lookup location

/-- Puts a node at a place, instead of what was there. -/
def put (tree : FileTree) (location : Location) (node : Node) : FileTree :=
  { tree with nodes := (location, node) :: tree.nodes.filter (·.1 != location) }

/-- Whether the component can be a name. -/
def isName (component : List Char) : Bool :=
  !component.contains '\x00'

/-- Where a component leads from a directory. -/
def step (location : Location) (component : List Char) : Location :=
  if FilePath.isSilent component then location
  else if component = ['.', '.'] then location.dropLast
  else location ++ [String.ofList component]

/-- The place where a path starts. -/
def start (tree : FileTree) (path : String) : Location :=
  if FilePath.isAbsolute path then [] else tree.here

/-- Follows components from a directory; all but the last must lead to directories. -/
def walk (tree : FileTree) (location : Location) : List (List Char) → Option Location
  | [] => some location
  | [last] => if isName last then some (step location last) else none
  | component :: rest =>
    let next := step location component
    if tree.node? next = some .directory then walk tree next rest else none

/-- The place that a path leads to, whether or not something is there. -/
def locate? (tree : FileTree) (path : String) : Option Location :=
  if path = "" then none else walk tree (tree.start path) (FilePath.components path)

/-- The bytes of a file. -/
def read? (tree : FileTree) (path : String) : Option (List UInt8) :=
  match (tree.locate? path).bind tree.node? with
  | some (.file bytes) => some bytes
  | _ => none

/-- The tree with a text in a file; a directory cannot be written over. -/
def write? (tree : FileTree) (path text : String) : Option FileTree := do
  let location ← tree.locate? path
  match tree.node? location with
  | some .directory => none
  | _ => return tree.put location (.file (Utf8.encode text.toList))

/-- The tree with the directories on the way along the components. -/
def makeWay (tree : FileTree) (location : Location) : List (List Char) → Option FileTree
  | [] => some tree
  | component :: rest =>
    let next := step location component
    match tree.node? next with
    | some .directory => makeWay tree next rest
    | some (.file _) => none
    | none => if isName component then makeWay (tree.put next .directory) next rest else none

/-- The tree with a directory and those that it lies in. -/
def createDirectories? (tree : FileTree) (path : String) : Option FileTree :=
  tree.makeWay (tree.start path) (FilePath.components path)

/-- The tree in which the working directory holds the given files and nothing else. It lies one
step below the root. -/
def ofFiles (files : List (String × List UInt8)) : FileTree :=
  files.foldl (fun tree (path, bytes) =>
    let tree := (((FilePath.parent? path).bind tree.createDirectories?).getD tree)
    match tree.locate? path with
    | some location => tree.put location (.file bytes)
    | none => tree) ⟨[(["."], .directory)], ["."]⟩

/-- The files below the working directory by their paths, in the order of the paths. -/
def files (tree : FileTree) : List (String × List UInt8) :=
  let below := tree.nodes.filterMap fun (location, node) =>
    match node with
    | .file bytes =>
      if tree.here.isPrefixOf location then
        some ("/".intercalate (location.drop tree.here.length), bytes)
      else none
    | .directory => none
  below.mergeSort fun a b => decide (a.1 ≤ b.1)

/-- Puts a changed tree in place, and says whether there is one. -/
def update (change : FileTree → Option FileTree) : StateM FileTree Bool := do
  match change (← get) with
  | some tree =>
    set tree
    return true
  | none => return false

instance : FileAccess (StateM FileTree) where
  read path := return (← get).read? path
  createDirectories path := update (·.createDirectories? path)
  write path text := update (·.write? path text)

end FileTree

end ApiTypes
