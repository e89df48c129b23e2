import ApiTypes.Text.Split

/-!
# Paths of files

A path is a text whose components stand between slashes. Empty components, and `.` after the
first, say nothing.

## Main definitions

* `FilePath.parent?` — the path of the directory that a path lies in
* `FilePath.extension?` — what follows the last point of the last component
* `FilePath.resolve` — a path taken from a directory
-/

namespace ApiTypes.FilePath

/-- The components between the slashes of a path. -/
def components (path : String) : List (List Char) :=
  Text.splitWhere (· == '/') path.toList

/-- Whether a component after the first says nothing. -/
def isSilent (component : List Char) : Bool :=
  component == [] || component == ['.']

/-- The components without those at the end that say nothing. -/
def trimSilent (components : List (List Char)) : List (List Char) :=
  (components.reverse.dropWhile isSilent).reverse

/-- The components without the last one that says something, if there is one. -/
def dropLast? (components : List (List Char)) : Option (List (List Char)) :=
  match trimSilent components with
  | [] => none
  | spoken => some (trimSilent spoken.dropLast)

/-- The text of components. -/
def join (components : List (List Char)) : String :=
  String.ofList (List.intercalate ['/'] components)

/-- Whether the path starts at the root. -/
def isAbsolute (path : String) : Bool :=
  path.toList.head? == some '/'

/-- The path of the directory that the path lies in: the empty path for a path of one component,
and nothing for the root and the empty path. -/
def parent? (path : String) : Option String :=
  match components path with
  | [] => none
  | first :: rest =>
    match dropLast? rest with
    | some [] => some (if first = [] then "/" else String.ofList first)
    | some kept => some (join (first :: kept))
    | none => if first = [] then none else some ""

/-- What follows the last point of the last component, unless nothing stands before that point or
the component is `..`. -/
def extension? (path : String) : Option String :=
  match (trimSilent (components path)).getLast? with
  | none => none
  | some name =>
    let after := (name.reverse.takeWhile (· != '.')).reverse
    let before := (name.reverse.dropWhile (· != '.')).drop 1
    if before = [] ∨ name = ['.', '.'] then none else some (String.ofList after)

/-- The path taken from a directory. An absolute path stays as it is. -/
def resolve (directory path : String) : String :=
  if isAbsolute path ∨ directory = "" then path
  else if directory.toList.getLast? = some '/' then directory ++ path
  else directory ++ "/" ++ path

end ApiTypes.FilePath
