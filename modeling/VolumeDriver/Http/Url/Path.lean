import VolumeDriver.Http.Percent
import VolumeDriver.Text.Cut
set_option autoImplicit false

/-! # The paths of URLs

A path is a list of names after slashes. While one is read, the names `.` and `..` are followed, and
what may not stand in a name is percent-encoded. The name of a drive, a letter with a colon, is never
left. -/

namespace VolumeDriver.Http.UrlPath

/-! ## Names -/

/-- Whether a name says to stay where one is. -/
def isStay (name : List Char) : Bool :=
  [['.'], ['%', '2', 'e']].contains (name.map Char.toLower)

/-- Whether a name says to go back. -/
def isBack (name : List Char) : Bool :=
  [['.', '.'], ['%', '2', 'e', '.'], ['.', '%', '2', 'e'],
    ['%', '2', 'e', '%', '2', 'e']].contains (name.map Char.toLower)

/-- Whether a name is that of a drive. A bar may stand for the colon. -/
def isDrive : List Char → Bool
  | [c, mark] => c.isAlpha && (mark = ':' || mark = '|')
  | _ => false

/-- Whether a name begins with that of a drive. -/
def beginsWithDrive (name : List Char) : Bool :=
  isDrive (name.takeWhile (· ≠ '\\'))

/-! ## Following names -/

/-- Where going back leads. The names that have been passed stand in reverse. -/
def back : List (List Char) → List (List Char)
  | [] => []
  | name :: passed => if beginsWithDrive name then name :: passed else passed

/-- How a name is passed; in a path of files, one that leads to a drive is written with a colon. -/
def pass (ofFiles : Bool) (passed : List (List Char)) (name : List Char) : List (List Char) :=
  match passed, name with
  | [], [c, _] => if ofFiles && isDrive name then [[c, ':']] else [name]
  | _, _ => name :: passed

/-- Follows names from those that have been passed. Where the last name only stays or goes back, the path
    ends in a slash. -/
def follow (ofFiles : Bool) (passed : List (List Char)) :
    List (List Char) → List (List Char)
  | [] => passed
  | name :: names =>
    let last := names.isEmpty
    if isStay name then follow ofFiles (if last then [] :: passed else passed) names
    else if isBack name then
      follow ofFiles (if last then [] :: back passed else back passed) names
    else follow ofFiles (pass ofFiles passed name) names

/-- Whether names lead to a drive, which is on no other host. -/
def leadsToDrive (names : List (List Char)) : Bool :=
  names.head?.any isDrive

/-! ## Reading -/

/-- The names that a text leads to. -/
def names (ofFiles : Bool) (s : List Char) : List (List Char) :=
  (follow ofFiles [] ((Cut.splitAll '/' s).map (Percent.encode Percent.staysInPath))).reverse

/-- Names as they are written. -/
def written (names : List (List Char)) : List Char :=
  names.flatMap fun name => '/' :: name

/-- A text without a slash at its beginning. -/
def dropSlash : List Char → List Char
  | '/' :: s => s
  | s => s

end VolumeDriver.Http.UrlPath
