import SalonBooking.Data.Assoc
import SalonBooking.Storage.Path
import SalonBooking.Text.Lines

/-!
# File trees

A file tree says for each location whether a file or a directory is there.
Whatever is there lies in a directory, and the root is one; the type holds this
as an invariant, so a tree has no unreachable entries.

Paths are followed from the first step on.  Every step but the last must lead
to a directory, and the first that does not decides the error.

* `find?_put_self`, `find?_put_of_ne`: what a put does to the entries.
* `find?_remove_self`, `find?_remove_of_ne`: what a removal does to them.
* `locate_eq_ok`: a path that can be followed ends at its location.
-/

namespace SalonBooking

/-- What is at a location. -/
inductive Entry where
  | file (content : ByteArray)
  | directory

instance : DecidableEq Entry
  | .directory, .directory => isTrue rfl
  | .directory, .file _ => isFalse nofun
  | .file _, .directory => isFalse nofun
  | .file a, .file b =>
    match ByteArray.instDecidableEq a b with
    | isTrue h => isTrue (h ▸ rfl)
    | isFalse h => isFalse fun e => h (Entry.file.inj e)

/-- Why an operation on a file tree is refused. -/
inductive FileError where
  | notFound
  | notADirectory
  | isADirectory
  | alreadyExists
  | nameTooLong
  | nullCharacter
  | unencodable
  | notText
  /-- The system refuses the operation or breaks it off. -/
  | fault (reason : String)
  deriving DecidableEq, Repr

/-- Whether an error is that of a value, be it a path or stored bytes, and not of the files. -/
def FileError.isUnusableValue : FileError → Bool
  | .nullCharacter | .unencodable | .notText => true
  | _ => false

/-- What is at a location, given the entries below the root. -/
def entryAt (entries : Assoc Location Entry) : Location → Option Entry
  | [] => some .directory
  | name :: above => entries.get? (name :: above)

/-- A tree of files and directories, and the directory from which relative paths lead. -/
structure FileTree where
  entries : Assoc Location Entry
  workingDirectory : Location
  isDirectory_above : ∀ name above, entryAt entries (name :: above) ≠ none →
    entryAt entries above = some .directory
  isDirectory_workingDirectory : entryAt entries workingDirectory = some .directory

/-- The most bytes that a name may have. -/
def maxNameBytes : Nat := 255

/-- The bytes that the text of a path must stay below. -/
def pathByteLimit : Nat := 4096

/-- Why a path is not even handed to the system, if it is not: a null character would end it, and a
surrogate may have no bytes. -/
def Path.obstacle? (p : Path) : Option FileError :=
  if p.steps.any fun step => step.toList.contains '\x00' then some .nullCharacter
  else if p.steps.all Text.hasNameBytes then none
  else some .unencodable

namespace FileTree

/-- What is at a location. -/
def find? (t : FileTree) (here : Location) : Option Entry :=
  entryAt t.entries here

theorem find?_above {t : FileTree} {name : FileName} {above : Location}
    (h : t.find? (name :: above) ≠ none) : t.find? above = some .directory :=
  t.isDirectory_above name above h

/-! ## Making trees -/

/-- The tree of nothing but the root. -/
def root : FileTree where
  entries := []
  workingDirectory := []
  isDirectory_above _ _ h := absurd rfl h
  isDirectory_workingDirectory := rfl

/-- The tree with another working directory, if there is a directory. -/
def enter (t : FileTree) (here : Location) : FileTree :=
  if h : t.find? here = some .directory then
    { t with workingDirectory := here, isDirectory_workingDirectory := h }
  else t

/-- The entries after a put, location by location. -/
theorem entryAt_set (entries : Assoc Location Entry) (name : FileName) (above here : Location)
    (e : Entry) :
    entryAt (entries.set (name :: above) e) here =
      if here = name :: above then some e else entryAt entries here := by
  cases here with
  | nil => simp [entryAt]
  | cons other rest =>
    by_cases h : other :: rest = name :: above
    · rw [if_pos h, h]
      exact Assoc.get?_set_self _ _ _
    · rw [if_neg h]
      exact Assoc.get?_set_of_ne h e entries

/-- The tree with an entry put into a directory.  A directory is not replaced by a file. -/
def put (t : FileTree) (name : FileName) (above : Location) (e : Entry)
    (hdir : t.find? above = some .directory)
    (hkeep : t.find? (name :: above) = some .directory → e = .directory) : FileTree :=
  have hstays : ∀ here, t.find? here = some .directory →
      entryAt (t.entries.set (name :: above) e) here = some .directory := by
    intro here hhere
    rw [entryAt_set]
    by_cases h : here = name :: above
    · rw [if_pos h, hkeep (h ▸ hhere)]
    · rw [if_neg h]
      exact hhere
  { t with
    entries := t.entries.set (name :: above) e
    isDirectory_above := by
      intro other rest h
      rw [entryAt_set] at h
      by_cases heq : other :: rest = name :: above
      · obtain ⟨-, rfl⟩ := List.cons.inj heq
        exact hstays _ hdir
      · rw [if_neg heq] at h
        exact hstays _ (t.isDirectory_above other rest h)
    isDirectory_workingDirectory := hstays _ t.isDirectory_workingDirectory }

theorem find?_put (t : FileTree) (name : FileName) (above : Location) (e : Entry)
    (hdir : t.find? above = some .directory)
    (hkeep : t.find? (name :: above) = some .directory → e = .directory) (here : Location) :
    (t.put name above e hdir hkeep).find? here =
      if here = name :: above then some e else t.find? here :=
  entryAt_set t.entries name above here e

/-- The entries after a removal, location by location. -/
theorem entryAt_erase (entries : Assoc Location Entry) (name : FileName) (above here : Location) :
    entryAt (entries.erase (name :: above)) here =
      if here = name :: above then none else entryAt entries here := by
  cases here with
  | nil => simp [entryAt]
  | cons other rest =>
    by_cases h : other :: rest = name :: above
    · rw [if_pos h, h]
      exact Assoc.get?_erase_self _ _
    · rw [if_neg h]
      exact Assoc.get?_erase_of_ne h entries

/-- The tree without what is at a location that is no directory. -/
def remove (t : FileTree) (name : FileName) (above : Location)
    (hfile : t.find? (name :: above) ≠ some .directory) : FileTree :=
  have hstays : ∀ here, t.find? here = some .directory →
      entryAt (t.entries.erase (name :: above)) here = some .directory := by
    intro here hhere
    rw [entryAt_erase, if_neg]
    · exact hhere
    · intro h
      exact hfile (h ▸ hhere)
  { t with
    entries := t.entries.erase (name :: above)
    isDirectory_above := by
      intro other rest h
      rw [entryAt_erase] at h
      by_cases heq : other :: rest = name :: above
      · rw [if_pos heq] at h
        exact absurd rfl h
      · rw [if_neg heq] at h
        exact hstays _ (t.isDirectory_above other rest h)
    isDirectory_workingDirectory := hstays _ t.isDirectory_workingDirectory }

theorem find?_remove (t : FileTree) (name : FileName) (above : Location)
    (hfile : t.find? (name :: above) ≠ some .directory) (here : Location) :
    (t.remove name above hfile).find? here =
      if here = name :: above then none else t.find? here :=
  entryAt_erase t.entries name above here

/-! ## Following paths -/

/-- The location that a step leads to from a location that must be a directory. -/
def follow (t : FileTree) (step : String) (here : Location) : Except FileError Location :=
  match t.find? here with
  | none => .error .notFound
  | some (.file _) => .error .notADirectory
  | some .directory =>
    if step ≠ Path.up ∧ maxNameBytes < (Text.nameBytes step).length then .error .nameTooLong
    else .ok (Path.advance step here)

/-- The location that some steps lead to, each but the last through a directory. -/
def walk (t : FileTree) (start : Location) : List String → Except FileError Location
  | [] => .ok start
  | step :: above =>
    match t.walk start above with
    | .ok here => t.follow step here
    | .error e => .error e

/-- The location of a path, where there may be nothing yet. -/
def locate (t : FileTree) (p : Path) : Except FileError Location :=
  match p.obstacle? with
  | some e => .error e
  | none =>
    if pathByteLimit ≤ (Text.nameBytes p.text).length then .error .nameTooLong
    else t.walk (if p.isAbsolute then [] else t.workingDirectory) p.steps

theorem follow_eq_ok {t : FileTree} {step : String} {here there : Location}
    (h : t.follow step here = .ok there) :
    t.find? here = some .directory ∧ there = Path.advance step here := by
  unfold follow at h
  split at h
  · cases h
  · cases h
  · rename_i hdir
    split at h
    · cases h
    · exact ⟨hdir, (Except.ok.inj h).symm⟩

theorem walk_eq_ok {t : FileTree} {start there : Location} {steps : List String}
    (h : t.walk start steps = .ok there) : there = steps.foldr Path.advance start := by
  induction steps generalizing there with
  | nil => exact (Except.ok.inj h).symm
  | cons step above ih =>
    rw [walk] at h
    split at h
    · rename_i here hwalk
      rw [(follow_eq_ok h).2, ih hwalk]
      rfl
    · cases h

/-- A path that can be followed ends at its location. -/
theorem locate_eq_ok {t : FileTree} {p : Path} {there : Location} (h : t.locate p = .ok there) :
    there = p.locationFrom t.workingDirectory := by
  unfold locate at h
  split at h
  · cases h
  · split at h
    · cases h
    · exact walk_eq_ok h

/-- Whether there is something at the end of a path.  A path that leads nowhere has nothing at
its end; for one with too long a name there is no answer. -/
def exists? (t : FileTree) (p : Path) : Except FileError Bool :=
  match t.locate p with
  | .ok here => .ok (t.find? here).isSome
  | .error .nameTooLong => .error .nameTooLong
  | .error _ => .ok false

/-- Whether a path ends at a directory. -/
def isDirectory (t : FileTree) (p : Path) : Bool :=
  match t.locate p with
  | .ok here => t.find? here = some .directory
  | .error _ => false

/-! ## Files -/

/-- The bytes of the file at the end of a path. -/
def read (t : FileTree) (p : Path) : Except FileError ByteArray := do
  match t.find? (← t.locate p) with
  | none => .error .notFound
  | some .directory => .error .isADirectory
  | some (.file content) => .ok content

/-- The text of the file at the end of a path, its line ends written as `\n`. -/
def readText (t : FileTree) (p : Path) : Except FileError String := do
  match String.fromUTF8? (← t.read p) with
  | some text => .ok (Text.unifyLineEnds (Text.ofPlain text))
  | none => .error .notText

/-- The tree with a file written at a location. -/
def writeAt (t : FileTree) (content : ByteArray) : Location → Except FileError FileTree
  | [] => .error .isADirectory
  | name :: above =>
    if hfile : t.find? (name :: above) = some .directory then .error .isADirectory
    else if hdir : t.find? above = some .directory then
      .ok (t.put name above (.file content) hdir fun h => absurd h hfile)
    else .error .notFound

/-- The tree with a file written at the end of a path, in place of one that is there. -/
def write (t : FileTree) (p : Path) (content : ByteArray) : Except FileError FileTree :=
  match t.locate p with
  | .ok here => t.writeAt content here
  | .error e => .error e

/-- The tree with the file at a location removed. -/
def removeAt (t : FileTree) : Location → Except FileError FileTree
  | [] => .error .isADirectory
  | name :: above =>
    match h : t.find? (name :: above) with
    | none => .error .notFound
    | some .directory => .error .isADirectory
    | some (.file _) => .ok (t.remove name above (by simp [h]))

/-- The tree with the file at the end of a path removed. -/
def delete (t : FileTree) (p : Path) : Except FileError FileTree :=
  match t.locate p with
  | .ok here => t.removeAt here
  | .error e => .error e

/-! ## Directories -/

/-- The tree with a directory made at a location where there is nothing. -/
def makeDirectoryAt (t : FileTree) : Location → Except FileError FileTree
  | [] => .error .alreadyExists
  | name :: above =>
    if t.find? (name :: above) ≠ none then .error .alreadyExists
    else if hdir : t.find? above = some .directory then
      .ok (t.put name above .directory hdir fun _ => rfl)
    else .error .notFound

/-- The tree with a directory made at the end of a path. -/
def makeDirectory (t : FileTree) (p : Path) : Except FileError FileTree :=
  match t.locate p with
  | .ok here => t.makeDirectoryAt here
  | .error e => .error e

end FileTree

end SalonBooking
