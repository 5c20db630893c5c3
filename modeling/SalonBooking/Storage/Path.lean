import SalonBooking.Text.NameBytes
import SalonBooking.Text.Percent

/-!
# Paths

A path leads from the root of a file tree or from its working directory, step
by step.  A step is a name, or `..` for the directory above.  The steps are
kept from the last one back, so that the path to the directory of a file is the
rest of the list.

A location is where a path ends: the names from the root, the last one first.
Names are bytes there, so different paths may end at one location without `..`.

* `locationFrom_child`: a name added to a path is a name added to its location.
-/

namespace SalonBooking

/-- The name of a file or directory in bytes. -/
abbrev FileName := List UInt8

/-- The place of a file or directory: the names on the way from the root, the last one first. -/
abbrev Location := List FileName

/-- A way through a file tree, its steps from the last one back. -/
structure Path where
  isAbsolute : Bool
  steps : List String
  deriving DecidableEq, Repr

namespace Path

/-- The step to the directory above. -/
def up : String := ".."

/-- The path that a text writes.  Empty steps and steps `.` lead nowhere and are left out. -/
def ofText (s : String) : Path where
  isAbsolute := s.toList.head? == some '/'
  steps := ((s.splitOn "/").filter fun step => step != "" && step != ".").reverse

/-- The path with a step added at its end. -/
def child (p : Path) (step : String) : Path :=
  { p with steps := step :: p.steps }

/-- The path without its last step. -/
def parent (p : Path) : Path :=
  { p with steps := p.steps.tail }

/-- A path as text; that of no step from the working directory is `.`. -/
def text (p : Path) : String :=
  let relative := "/".intercalate p.steps.reverse
  if p.isAbsolute then "/" ++ relative else if p.steps.isEmpty then "." else relative

/-- The location that a step leads to. -/
def advance (step : String) (here : Location) : Location :=
  if step = up then here.tail else Text.nameBytes step :: here

/-- The location of a path, whatever is there. -/
def locationFrom (workingDirectory : Location) (p : Path) : Location :=
  p.steps.foldr advance (if p.isAbsolute then [] else workingDirectory)

theorem locationFrom_child (workingDirectory : Location) (p : Path) {name : String}
    (h : name ≠ up) :
    (p.child name).locationFrom workingDirectory =
      Text.nameBytes name :: p.locationFrom workingDirectory := by
  rw [locationFrom, child, List.foldr_cons, advance, if_neg h]
  rfl

end Path

/-- The path in bytes that leads from the root to a location. -/
def Location.bytes (here : Location) : List UInt8 :=
  let slash := '/'.toUInt8
  slash :: [slash].intercalate here.reverse

/-- The address of a location, for a browser on the same machine. -/
def Location.address (here : Location) : String :=
  "file://" ++ Text.percentEncode here.bytes

end SalonBooking
