import VolumeDriver.Text.Mark
set_option autoImplicit false

/-! # Names in two directions

Where a name has letters that are written from right to left, its labels must not change their meaning with
the direction of the text around them (`keepsName`): a label begins with a letter, and holds only characters
that keep their place under the direction of that letter. The tables are data of the character database;
what is in none of them is a letter that is written from left to right. -/

namespace VolumeDriver.Domain

/-- How a character behaves in a line. -/
inductive Direction
  | leftToRight
  | rightToLeft
  | arabicLetter
  | arabicNumber
  | europeanNumber
  /-- separators, terminators, symbols and characters without a place -/
  | other
  | nonspacing
  deriving DecidableEq, Repr

namespace Direction

/-- Letters of scripts that are written from right to left. -/
def rightToLeftLetters : CodeTable := CodeTable.read [
  "5BE-5F4 7C0-7F5 7FA-85E 10800-1091B 10920-10B35 10B40-10CFF 10D40-10D4F 10D6F-10D8F 10E80-10EB1",
  "10F00-10F27 10F70-10FF6 1E800-1E95F"]

/-- Letters of Arabic and its relatives. -/
def arabicLetters : CodeTable := CodeTable.read [
  "608 60B 60D 61B-64A 66D-6D5 6E5-6E6 6EE-6EF 6FA-7B1 860-8C9 FBB2-FBC2 FE73 10D00-10D23",
  "10EC2-10EC7 10F30-10F59 1EC71-1ED3D"]

/-- Digits of Arabic. -/
def arabicNumbers : CodeTable := CodeTable.read [
  "660-669 66B-66C 10D30-10D39 10E60-10E7E"]

/-- European digits. -/
def europeanNumbers : CodeTable := CodeTable.read [
  "30-39 6F0-6F9 102E1-102FB"]

/-- Signs before and between European digits. -/
def europeanSeparators : CodeTable := CodeTable.read [
  "2B 2D 2212"]

/-- Separators between digits. -/
def commonSeparators : CodeTable := CodeTable.read [
  "2C 2E-2F 3A 60C 2044"]

/-- Signs after European digits. -/
def europeanTerminators : CodeTable := CodeTable.read [
  "23-25 A2-A5 B0-B1 58F 609-60A 66A 9F2-9F3 9FB AF1 BF9 E3F 17DB 2030-2032 20A0-20C1 212E 2213",
  "A838-A839 11FDD-11FE0 1E2FF"]

/-- Other characters without a direction. -/
def neutrals : CodeTable := CodeTable.read [
  "21-22 26-2A 3B-60 7B-7E A1 A6-AE B6-D7 F7 2B9-2BA 2C2-2CF 2D2-2ED 2EF-2FF 375 3F6 58A-58E",
  "606-607 60E-60F 6DE 6E9 7F6-7F9 BF3-BF8 BFA C78-C7E F3A-F3D 1390-1399 1400 169B-169C 17F0-180A",
  "1940-1945 19DE-19FF 2010-2027 2035-2043 2045-205E 2104-2129 213A-214D 218A-2211 2214-2335",
  "237B-2394 2396-26AB 26AD-27FF 2900-2BFF 2CE5-2CEA 2CF9-2CFF 2E00-3004 3008-3020 3030 3037",
  "303D-303F 30A0 30FB 31C0-31E5 4DC0-4DFF A490-A4C6 A60D-A60F A673-A67F A700-A721 A788 A828-A82B",
  "A874-A877 AB6A-AB6B FBC3-FE46 10101 10140-1018C 10190-101A0 1091F 10B39-10B3F 10D6E 10ED0-10ED8",
  "11052-11065 11660-1166C 11FD5-11FDC 11FE1-11FF1 16FE2 1CC00-1CEF0 1D1E9-1D245 1D300-1D356",
  "1EEF0-1F12F 1F16D-1F16F 1F1AD 1F260-1FBFA"]

/-- Characters that have no place in a line. -/
def placeless : CodeTable := CodeTable.read [
  "0-8 E-1B 7F 200C-200D"]

/-- Marks that behave like letters. -/
def letterMarks : CodeTable := CodeTable.read ["CBF CC6 11A07-11A08 11C3F"]

/-- How a character behaves. -/
def of (n : Nat) : Direction :=
  if Mark.isNonspacing n then
    if letterMarks.contains n then leftToRight else nonspacing
  else if rightToLeftLetters.contains n then rightToLeft
  else if arabicLetters.contains n then arabicLetter
  else if arabicNumbers.contains n then arabicNumber
  else if europeanNumbers.contains n then europeanNumber
  else if [europeanSeparators, commonSeparators, europeanTerminators, neutrals, placeless].any
      fun t => t.contains n then other
  else leftToRight

/-- Whether a character makes a name one with letters from right to left. -/
def isBackward (d : Direction) : Bool :=
  d = rightToLeft || d = arabicLetter || d = arabicNumber

/-- Whether characters with some directions may be a label under letters from right to left. -/
def isBackwardLabel (ds : List Direction) : Bool :=
  let last := (ds.reverse.dropWhile (· = nonspacing)).head?
  ds.all (· ≠ leftToRight) &&
    [some rightToLeft, some arabicLetter, some europeanNumber, some arabicNumber].contains last &&
    !(ds.contains europeanNumber && ds.contains arabicNumber)

/-- Whether characters with some directions may be a label under letters from left to right. -/
def isForwardLabel (ds : List Direction) : Bool :=
  let last := (ds.reverse.dropWhile (· = nonspacing)).head?
  ds.all (fun d => !isBackward d) && [some leftToRight, some europeanNumber].contains last

/-- Whether a label keeps its meaning in either direction. -/
def keepsLabel (label : List Nat) : Bool :=
  let ds := label.map of
  match ds with
  | [] => true
  | leftToRight :: _ => isForwardLabel ds
  | rightToLeft :: _ | arabicLetter :: _ => isBackwardLabel ds
  | _ => false

/-- Whether the labels of a name keep their meaning, which matters only in a name with letters from right
    to left. -/
def keepsName (labels : List (List Nat)) : Bool :=
  !(labels.any fun label => label.any fun n => isBackward (of n)) || labels.all keepsLabel

end Direction

end VolumeDriver.Domain
