import VolumeDriver.Text.Blank
import VolumeDriver.Text.Cut
set_option autoImplicit false

/-! # The mount table

The kernel lists its mounts one a line: source, mount point, file system type and more, between blanks.
Blanks and backslashes inside the first two are written as a backslash and three octal digits.
`MountTable.line` writes an entry as the kernel does and `MountTable.parse` reads a table; lines with
fewer than three words are passed over.

Of several mounts at one directory the last one is on top and hides the others. -/

namespace VolumeDriver

/-- A mount: its source, where it is mounted, and the type. -/
structure MountEntry where
  /-- a device, or address and path of an export -/
  source : String
  /-- the directory that the source is mounted at -/
  target : String
  fsType : String
  deriving DecidableEq, Repr

/-- Whether the mount is one of an export. -/
def MountEntry.isNfs (e : MountEntry) : Bool :=
  Cut.startsWith e.fsType "nfs"

namespace MountTable

/-- The characters that are written as escapes, in the order in which they are read back. The backslash
    comes last, for its escape may be followed by the digits of another one. -/
def escapes : List (Char × List Char) :=
  [(' ', ['\\', '0', '4', '0']), ('\t', ['\\', '0', '1', '1']), ('\n', ['\\', '0', '1', '2']),
   ('\\', ['\\', '1', '3', '4'])]

/-- One character of a field as it is written, with the `escapes`. -/
def escapeChar (c : Char) : List Char :=
  match escapes.find? fun e => e.1 = c with
  | some e => e.2
  | none => [c]

/-- A field as it is written, by `escapeChar`. -/
def escape (field : List Char) : List Char :=
  field.flatMap escapeChar

/-- A field as it is meant: each of the `escapes` replaced everywhere, one after the other. -/
def unescape (field : List Char) : List Char :=
  escapes.foldl (fun field e => Cut.replaceAll e.2 [e.1] field) field

/-- The `MountEntry` that a line spells. -/
def parseLine? (line : List Char) : Option MountEntry :=
  match Blank.words line with
  | source :: target :: fsType :: _ =>
    some ⟨String.ofList (unescape source), String.ofList (unescape target), String.ofList fsType⟩
  | _ => none

/-- The entries of a table, by `parseLine?`. -/
def parse (text : List Char) : List MountEntry :=
  (Blank.lines text).filterMap parseLine?

/-- An entry with its mount options as the kernel writes it, without the end of the line. -/
def line (e : MountEntry) (options : List Char) : List Char :=
  [' '].intercalate
    [escape e.source.toList, escape e.target.toList, e.fsType.toList, options, ['0'], ['0']]

/-! ## What is mounted where -/

/-- A directory without the slashes at its end. -/
def directory (path : String) : String :=
  String.ofList (Cut.dropEnd '/' path.toList)

/-- The mount on top at a directory: the last in the table, whatever slashes are at the ends
    (`directory`). -/
def top? (table : List MountEntry) (path : String) : Option MountEntry :=
  table.reverse.find? fun e => directory e.target = directory path

end MountTable

end VolumeDriver
