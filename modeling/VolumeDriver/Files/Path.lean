import VolumeDriver.Text.Cut
set_option autoImplicit false

/-! # Paths as text

A path is a text of names between slashes. Repeated slashes, a slash at the end and the name `.`, but
for a leading one, say nothing. Nothing here looks at files: `a/..` is not `.`, for `a` may be a link. -/

namespace VolumeDriver.Path

/-- The names of a path without what says nothing at its end. -/
def names (path : String) : List (List Char) :=
  dropSilent (Cut.splitAll '/' path.toList).reverse
where
  /-- Names in reverse, without those at the path's end that say nothing, put in order. -/
  dropSilent : List (List Char) → List (List Char)
    | [] => []
    | [first] => [first]
    | last :: rest => if last = [] ∨ last = ['.'] then dropSilent rest else (last :: rest).reverse

/-- Names put together to a path. -/
def ofNames : List (List Char) → String
  | [] => ""
  | [[]] => "/"
  | ns => String.ofList (['/'].intercalate ns)

/-- Whether the path begins at the root. -/
def isAbsolute (path : String) : Bool :=
  path.toList.head? = some '/'

/-- The last name, unless it is the root, `.` or `..`. -/
def fileName? (path : String) : Option String :=
  match (names path).getLast? with
  | some name =>
    if name = [] ∨ name = ['.'] ∨ name = ['.', '.'] then none else some (String.ofList name)
  | none => none

/-- The path without its last name; empty if it has no other. -/
def parent (path : String) : String :=
  match (names path).dropLast with
  | [] => ""
  | ns =>
    match names.dropSilent ns.reverse with
    | [[]] => if isAbsolute path then "/" else ""
    | ns => ofNames ns

/-- The path of `name` in a directory. -/
def join (directory name : String) : String :=
  if isAbsolute name ∨ directory = "" then name
  else if directory.toList.getLast? = some '/' then directory ++ name
  else directory ++ "/" ++ name

/-- The path with its last name replaced. -/
def withFileName (path name : String) : String :=
  match fileName? path with
  | some _ => join (parent path) name
  | none => join path name

end VolumeDriver.Path
