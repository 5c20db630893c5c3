import SalonBooking.Storage.FileTree

/-!
# Faults of the file system

What a file tree allows the system may still refuse: a permission is missing, a
disk is full or cannot be read.  What it refuses may depend on anything, and a
refused operation changes nothing.  Writing may also be broken off halfway, and
then the file is there with the first bytes of its content.

A path that is not handed to the system at all meets no fault.
-/

namespace SalonBooking

/-- How a file is kept from being written. -/
inductive WriteFault where
  | refused (reason : String)
  /-- Only so many bytes of the content are written. -/
  | brokenOff (written : Nat) (reason : String)

/-- The faults that operations on a file tree meet, by the tree and the path.  To look is to ask
whether something is there and what it is. -/
structure FileFaults where
  looking : FileTree → Path → Option String := fun _ _ => none
  reading : FileTree → Path → Option String := fun _ _ => none
  writing : FileTree → Path → Option WriteFault := fun _ _ => none
  deleting : FileTree → Path → Option String := fun _ _ => none
  makingDirectory : FileTree → Path → Option String := fun _ _ => none

namespace FileFaults

/-- What comes of an operation on a path where it meets a fault, if it does. -/
def meet {α : Type} (fault : Option String) (p : Path) (result : Except FileError α) :
    Except FileError α :=
  match fault with
  | none => result
  | some reason => if p.obstacle? = none then .error (.fault reason) else result

@[simp] theorem meet_none {α : Type} (p : Path) (result : Except FileError α) :
    meet none p result = result := rfl

section
variable (faults : FileFaults) (t : FileTree) (p : Path)

/-! ## Files -/

/-- Whether there is something at the end of a path. -/
def exists? : Except FileError Bool :=
  meet (faults.looking t p) p (t.exists? p)

/-- The text of the file at the end of a path. -/
def readText : Except FileError String :=
  meet (faults.reading t p) p (t.readText p)

/-- The tree with the file at the end of a path removed. -/
def delete : Except FileError FileTree :=
  meet (faults.deleting t p) p (t.delete p)

/-- What comes of writing a file, given the tree with the file and the result in that case. -/
def finish (written : Except FileError FileTree) (result : Except FileError Unit) :
    Except FileError Unit × FileTree :=
  match written with
  | .ok after => (result, after)
  | .error e => (.error e, t)

/-- Writing a file at the end of a path. -/
def write (content : ByteArray) : Except FileError Unit × FileTree :=
  match faults.writing t p with
  | none => finish t (t.write p content) (.ok ())
  | some (.refused reason) => finish t (meet (some reason) p (t.write p content)) (.ok ())
  | some (.brokenOff written reason) =>
    finish t (t.write p (content.extract 0 written)) (.error (.fault reason))

/-! ## Directories -/

/-- The tree with a directory made at the end of a path. -/
def makeDirectory : Except FileError FileTree :=
  meet (faults.makingDirectory t p) p (t.makeDirectory p)

/-- Whether a path ends at a directory. -/
def isDirectory : Except FileError Bool :=
  meet (faults.looking t p) p (.ok (t.isDirectory p))

/-- The outcome of making a directory that failed: no failure if there already is one. -/
def unlessDirectory (e : FileError) : Except FileError Unit × FileTree :=
  (match faults.isDirectory t p with
    | .ok true => .ok ()
    | .ok false => .error e
    | .error cause => .error cause, t)

end

/-- The tree with a directory at the end of some steps, those above it included where they are
missing.  The directories made before a failure stay. -/
def makeDirectoriesAlong (faults : FileFaults) (t : FileTree) (isAbsolute : Bool) :
    List String → Except FileError Unit × FileTree
  | [] =>
    match faults.makeDirectory t ⟨isAbsolute, []⟩ with
    | .ok made => (.ok (), made)
    | .error e => faults.unlessDirectory t ⟨isAbsolute, []⟩ e
  | step :: above =>
    match faults.makeDirectory t ⟨isAbsolute, step :: above⟩ with
    | .ok made => (.ok (), made)
    | .error .notFound =>
      match faults.makeDirectoriesAlong t isAbsolute above with
      | (.error e, part) => (.error e, part)
      | (.ok (), part) =>
        match faults.makeDirectory part ⟨isAbsolute, step :: above⟩ with
        | .ok made => (.ok (), made)
        | .error e => faults.unlessDirectory part ⟨isAbsolute, step :: above⟩ e
    | .error e => faults.unlessDirectory t ⟨isAbsolute, step :: above⟩ e

/-- The tree with a directory at the end of a path, those above it included. -/
def makeDirectories (faults : FileFaults) (t : FileTree) (p : Path) :
    Except FileError Unit × FileTree :=
  faults.makeDirectoriesAlong t p.isAbsolute p.steps

end FileFaults

end SalonBooking
