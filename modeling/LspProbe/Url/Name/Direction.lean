import LspProbe.Text.Mark

/-!
# The direction of labels

A name with characters that run from right to left is only clear if each of its labels keeps to
one direction. Data of Unicode 17, for the characters that names may contain.
-/

namespace LspProbe.Url.Name

/-- How a character runs. -/
inductive Direction where
  | leftToRight
  | rightToLeft
  | arabicNumber
  | europeanNumber
  | neutral
  | mark
  deriving DecidableEq, Repr

/-- Characters that do not run from left to right: 1 for right to left, 2 for Arabic and 3 for
European numbers, 4 for neutral ones. -/
def directions : Text.Table := .ofText
  "0-8=4 E-1B=4 21-2F=4 30-39=3 3A-60=4 7B-D7=4 F7=4 2B9-2BA=4 2C2-2CF=4 2D2-2ED=4 2EF-2FF=4 375=4
   3F6=4 58A-58F=4 5BE=1 5C0=1 5C3=1 5C6=1 5D0-5F4=1 606-607=4 608=1 609-60A=4 60B=1 60C=4 60D=1
   60E-60F=4 61B-64A=1 660-669=2 66A=4 66B-66C=2 66D-66F=1 671-6D5=1 6DE=4 6E5-6E6=1 6E9=4
   6EE-6EF=1 6F0-6F9=3 6FA-710=1 712-72F=1 74D-7A5=1 7B1-7EA=1 7F4-7F5=1 7F6-7F9=4 7FA=1 7FE-815=1
   81A=1 824=1 828=1 830-858=1 85E-88F=1 8A0-8C9=1 9F2-9F3=4 9FB=4 AF1=4 BF3-BFA=4 C78-C7E=4 E3F=4
   F3A-F3D=4 1390-1399=4 1400=4 169B-169C=4 17DB=4 17F0-180A=4 1940-1945=4 19DE-19FF=4 200C-20C1=4
   2104-214D=4 218A-2335=4 237B-2394=4 2396-26AB=4 26AD-27FF=4 2900-2BFF=4 2CE5-2CEA=4 2CF9-2CFF=4
   2E00-3004=4 3008-3020=4 3030=4 3037=4 303D-303F=4 30A0=4 30FB=4 31C0-31E5=4 4DC0-4DFF=4
   A490-A4C6=4 A60D-A60F=4 A673=4 A67E-A67F=4 A700-A721=4 A788=4 A828-A82B=4 A838-A839=4
   A874-A877=4 AB6A-AB6B=4 FBB2-FBC2=1 FBC3-FDFF=4 FE45-FE46=4 FE73=1 10101=4 10140-1018C=4
   10190-101A0=4 102E1-102FB=3 10800-1091B=1 1091F=4 10920-10A00=1 10A10-10A35=1 10A40-10AE4=1
   10AEB-10B35=1 10B39-10B3F=4 10B40-10D23=1 10D30-10D39=2 10D40-10D4F=1 10D6E=4 10D6F-10D8F=1
   10E60-10E7E=2 10E80-10EA9=1 10EAD-10EC7=1 10ED0-10ED8=4 10F00-10F45=1 10F51-10F81=1
   10F86-10FF6=1 11052-11065=4 11660-1166C=4 11FD5-11FF1=4 16FE2=4 1CC00-1CEF0=4 1D1E9-1D241=4
   1D245=4 1D300-1D356=4 1E2FF=4 1E800-1E8CF=1 1E922-1E943=1 1E94B-1ED3D=1 1EEF0-1F12F=4
   1F16D-1F16F=4 1F1AD=4 1F260-1FBFA=4"

/-- Marks that run like the letter before them although they take no space. -/
def letterMarks : List Nat := [0xCBF, 0xCC6, 0x11A07, 0x11A08, 0x11C3F]

def directionOf (c : Char) : Direction :=
  if Text.isNonspacing c then if letterMarks.contains c.toNat then .leftToRight else .mark
  else
    match directions.values? c with
    | some [1] => .rightToLeft
    | some [2] => .arabicNumber
    | some [3] => .europeanNumber
    | some [4] => .neutral
    | _ => .leftToRight

/-- Whether a character makes its name one that has to be clear about directions. -/
def runsBack (c : Char) : Bool :=
  if c.toNat < 0x590 then false
  else [Direction.rightToLeft, .arabicNumber].contains (directionOf c)

/-- What a label that starts from the left may contain, and what may end it. -/
def leftMiddle : List Direction := [.leftToRight, .europeanNumber, .neutral, .mark]

def leftEnd : List Direction := [.leftToRight, .europeanNumber]

/-- What a label that starts from the right may contain, and what may end it. -/
def rightMiddle : List Direction :=
  [.rightToLeft, .arabicNumber, .europeanNumber, .neutral, .mark]

def rightEnd : List Direction := [.rightToLeft, .arabicNumber, .europeanNumber]

/-- The directions of a label without the marks at its end. -/
def trimMarks (ds : List Direction) : List Direction :=
  (ds.reverse.dropWhile (· = .mark)).reverse

/-- Whether a label keeps to one direction. Numbers of a label that runs from the right are of one
kind. -/
def keepsDirection (label : List Char) : Bool :=
  match label.map directionOf with
  | [] => true
  | .leftToRight :: rest =>
    (trimMarks rest).all leftMiddle.contains
      && (((trimMarks rest).getLast?).map leftEnd.contains).getD true
  | .rightToLeft :: rest =>
    (trimMarks rest).all rightMiddle.contains
      && (((trimMarks rest).getLast?).map rightEnd.contains).getD true
      && !(rest.contains .arabicNumber && rest.contains .europeanNumber)
  | _ :: _ => false

end LspProbe.Url.Name
