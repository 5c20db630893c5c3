import SalonBooking.Storage.FileTree

/-!
# Written files and made directories

What writing a file and making directories leaves in a file tree: the file is
read as it was written, the directories are there, and making them again changes
nothing.

No operation that adds to a tree takes a directory away, so every path that
could be followed still can be (`KeepsDirectories.locate`).
-/

namespace SalonBooking.FileTree

variable {t after : FileTree} {p : Path}

/-! ## Kept directories -/

/-- A tree has the directories of another one, and is seen from the same place. -/
structure KeepsDirectories (t after : FileTree) : Prop where
  workingDirectory : after.workingDirectory = t.workingDirectory
  directory : ∀ here, t.find? here = some .directory → after.find? here = some .directory

theorem KeepsDirectories.refl (t : FileTree) : KeepsDirectories t t := ⟨rfl, fun _ h => h⟩

theorem KeepsDirectories.trans {made : FileTree} (h : KeepsDirectories t made)
    (h' : KeepsDirectories made after) : KeepsDirectories t after where
  workingDirectory := h'.workingDirectory.trans h.workingDirectory
  directory here hhere := h'.directory here (h.directory here hhere)

theorem keepsDirectories_put (t : FileTree) (name : FileName) (above : Location) (e : Entry)
    (hdir : t.find? above = some .directory)
    (hkeep : t.find? (name :: above) = some .directory → e = .directory) :
    KeepsDirectories t (t.put name above e hdir hkeep) where
  workingDirectory := rfl
  directory here hhere := by
    rw [find?_put]
    split
    · rename_i heq
      rw [hkeep (heq ▸ hhere)]
    · exact hhere

/-- A step that can be taken can still be taken. -/
theorem KeepsDirectories.follow (h : KeepsDirectories t after) {step : String}
    {here there : Location} (hfollow : t.follow step here = .ok there) :
    after.follow step here = .ok there := by
  have hdir := (follow_eq_ok hfollow).1
  rw [FileTree.follow, hdir] at hfollow
  rw [FileTree.follow, h.directory here hdir]
  exact hfollow

theorem KeepsDirectories.walk (h : KeepsDirectories t after) {start there : Location}
    {steps : List String} (hwalk : t.walk start steps = .ok there) :
    after.walk start steps = .ok there := by
  induction steps generalizing there with
  | nil => exact hwalk
  | cons step above ih =>
    rw [FileTree.walk] at hwalk ⊢
    split at hwalk
    · rename_i here hhere
      rw [ih hhere]
      exact h.follow hwalk
    · cases hwalk

/-- A path that can be followed can still be followed, to the same place. -/
theorem KeepsDirectories.locate (h : KeepsDirectories t after) {here : Location}
    (hlocate : t.locate p = .ok here) : after.locate p = .ok here := by
  unfold FileTree.locate at hlocate ⊢
  split at hlocate
  · cases hlocate
  · split at hlocate
    · cases hlocate
    · rename_i hlong
      rw [if_neg hlong, h.workingDirectory]
      exact h.walk hlocate

/-- A path ends at a directory if it can be followed to one. -/
theorem isDirectory_iff :
    t.isDirectory p = true ↔ ∃ here, t.locate p = .ok here ∧ t.find? here = some .directory := by
  rw [isDirectory]
  cases t.locate p <;> simp

theorem KeepsDirectories.isDirectory (h : KeepsDirectories t after)
    (hdir : t.isDirectory p = true) : after.isDirectory p = true := by
  obtain ⟨here, hlocate, hhere⟩ := isDirectory_iff.mp hdir
  exact isDirectory_iff.mpr ⟨here, h.locate hlocate, h.directory here hhere⟩

/-! ## Files -/

/-- A file that is written is there, and no directory is lost. -/
theorem writeAt_eq_ok {content : ByteArray} {here : Location}
    (h : t.writeAt content here = .ok after) :
    KeepsDirectories t after ∧ after.find? here = some (.file content) := by
  unfold writeAt at h
  split at h
  · cases h
  · split at h
    · cases h
    · split at h
      · obtain rfl := Except.ok.inj h
        exact ⟨keepsDirectories_put .., by rw [find?_put, if_pos rfl]⟩
      · cases h

theorem write_eq_ok {content : ByteArray} (h : t.write p content = .ok after) :
    ∃ here, t.locate p = .ok here ∧ t.writeAt content here = .ok after := by
  unfold write at h
  split at h
  · exact ⟨_, ‹_›, h⟩
  · cases h

theorem keepsDirectories_of_write {content : ByteArray} (h : t.write p content = .ok after) :
    KeepsDirectories t after := by
  obtain ⟨here, -, hwrite⟩ := write_eq_ok h
  exact (writeAt_eq_ok hwrite).1

theorem read_eq_ok {content : ByteArray} :
    t.read p = .ok content ↔
      ∃ here, t.locate p = .ok here ∧ t.find? here = some (.file content) := by
  unfold read
  cases hlocate : t.locate p with
  | error e => simp [bind, Except.bind]
  | ok here =>
    cases hfound : t.find? here with
    | none => simp [bind, Except.bind, hfound]
    | some e => cases e <;> simp [bind, Except.bind, hfound]

/-- A file that is written is read as it was written. -/
theorem read_write {content : ByteArray} (h : t.write p content = .ok after) :
    after.read p = .ok content := by
  obtain ⟨here, hlocate, hwrite⟩ := write_eq_ok h
  obtain ⟨hkeeps, hfile⟩ := writeAt_eq_ok hwrite
  exact read_eq_ok.mpr ⟨here, hkeeps.locate hlocate, hfile⟩

/-- A file that can be read can be written. -/
theorem exists_write {old : ByteArray} (h : t.read p = .ok old) (content : ByteArray) :
    ∃ after, t.write p content = .ok after := by
  obtain ⟨here, hlocate, hfile⟩ := read_eq_ok.mp h
  rw [write, hlocate]
  cases here with
  | nil => cases hfile
  | cons name above =>
    have hnot : t.find? (name :: above) ≠ some .directory := by simp [hfile]
    have hdir : t.find? above = some .directory := by
      refine @find?_above t name above ?_
      rw [hfile]
      exact Option.some_ne_none _
    simp only [writeAt, hnot, hdir, dite_true, dite_false]
    exact ⟨_, rfl⟩

/-! ## Directories -/

theorem isDirectory_of_makeDirectory (h : t.makeDirectory p = .ok after) :
    after.isDirectory p = true := by
  unfold makeDirectory at h
  split at h
  · rename_i here hlocate
    unfold makeDirectoryAt at h
    split at h
    · cases h
    · split at h
      · cases h
      · split at h
        · obtain rfl := Except.ok.inj h
          refine isDirectory_iff.mpr ⟨_, (keepsDirectories_put ..).locate hlocate, ?_⟩
          rw [find?_put, if_pos rfl]
        · cases h
  · cases h

theorem makeDirectory_of_isDirectory (h : t.isDirectory p = true) :
    t.makeDirectory p = .error .alreadyExists := by
  obtain ⟨here, hlocate, hdir⟩ := isDirectory_iff.mp h
  rw [makeDirectory, hlocate]
  cases here with
  | nil => rfl
  | cons name above =>
    have hthere : t.find? (name :: above) ≠ none := by simp [hdir]
    exact if_pos hthere

end SalonBooking.FileTree
