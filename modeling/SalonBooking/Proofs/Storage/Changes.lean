import SalonBooking.Proofs.Storage.FileTree

/-!
# What an operation changes in a file tree

Writing and deleting change what is at the end of their path and nothing else.
Making a directory puts one where there is nothing, so it touches no file
(`MakesDirectories`); where the one above is there already, it does not fail for
want of it (`makeDirectory_child_ne_notFound`).
-/

namespace SalonBooking

/-- A name has at least as many bytes as code points. -/
theorem Text.length_le_length_nameBytes (s : String) :
    Text.length s ≤ (Text.nameBytes s).length := by
  have hcode (n : Nat) : 1 ≤ (Text.codeBytes n).length := by
    rw [Text.codeBytes]
    split
    · exact Nat.le_refl 1
    · rw [String.length_utf8EncodeChar]
      exact (Char.ofNat n).utf8Size_pos
  have hcodes (codes : List Nat) : codes.length ≤ (codes.flatMap Text.codeBytes).length := by
    induction codes with
    | nil => exact Nat.zero_le _
    | cons n rest ih =>
      have hfirst := hcode n
      rw [List.flatMap_cons, List.length_append, List.length_cons]
      omega
  exact hcodes (Text.codes s)

namespace FileTree

variable {t made after : FileTree} {p : Path} {here : Location}

/-- No obstacle of a path is that it leads nowhere. -/
theorem obstacle?_ne_notFound : p.obstacle? ≠ some .notFound := by
  rw [Path.obstacle?]
  split
  · nofun
  · split <;> nofun

/-- The bytes of the file at a location, if there is one. -/
def fileAt? (t : FileTree) (here : Location) : Option ByteArray :=
  match t.find? here with
  | some (.file content) => some content
  | _ => none

/-- What is at the end of a path, if it can be followed. -/
def atEnd? (t : FileTree) (p : Path) : Option Entry :=
  match t.locate p with
  | .ok here => t.find? here
  | .error _ => none

theorem fileAt?_congr (h : after.find? here = t.find? here) :
    after.fileAt? here = t.fileAt? here := by
  rw [fileAt?, fileAt?, h]

theorem atEnd?_of_locate (h : t.locate p = .ok here) : t.atEnd? p = t.find? here := by
  rw [atEnd?, h]

theorem atEnd?_of_error {e : FileError} (h : t.locate p = .error e) : t.atEnd? p = none := by
  rw [atEnd?, h]

/-- Where there is something, the path can be followed. -/
theorem exists_locate_of_atEnd? {entry : Entry} (h : t.atEnd? p = some entry) :
    ∃ here, t.locate p = .ok here ∧ t.find? here = some entry := by
  cases hlocate : t.locate p with
  | error e =>
    rw [atEnd?_of_error hlocate] at h
    cases h
  | ok here => exact ⟨here, rfl, atEnd?_of_locate hlocate ▸ h⟩

/-! ## One location -/

theorem find?_writeAt {content : ByteArray} {place : Location}
    (h : t.writeAt content place = .ok after) (hne : here ≠ place) :
    after.find? here = t.find? here := by
  unfold writeAt at h
  split at h
  · cases h
  · split at h
    · cases h
    · split at h
      · obtain rfl := Except.ok.inj h
        rw [find?_put, if_neg hne]
      · cases h

/-- Writing a file changes nothing elsewhere. -/
theorem find?_write {content : ByteArray} (h : t.write p content = .ok after)
    (hne : here ≠ p.locationFrom t.workingDirectory) : after.find? here = t.find? here := by
  obtain ⟨place, hlocate, hwrite⟩ := write_eq_ok h
  exact find?_writeAt hwrite (locate_eq_ok hlocate ▸ hne)

/-- A written file is at the end of its path. -/
theorem fileAt?_write {content : ByteArray} (h : t.write p content = .ok after) :
    after.fileAt? (p.locationFrom t.workingDirectory) = some content := by
  obtain ⟨place, hlocate, hwrite⟩ := write_eq_ok h
  rw [← locate_eq_ok hlocate, fileAt?, (writeAt_eq_ok hwrite).2]

theorem removeAt_eq_ok {place : Location} (h : t.removeAt place = .ok after) :
    KeepsDirectories t after ∧
      ∀ here, after.find? here = if here = place then none else t.find? here := by
  unfold removeAt at h
  split at h
  · cases h
  · split at h
    · cases h
    · cases h
    · rename_i name above _ content hfile
      obtain rfl := Except.ok.inj h
      refine ⟨⟨rfl, fun here hdir => ?_⟩, fun here => find?_remove ..⟩
      rw [find?_remove, if_neg, hdir]
      rintro rfl
      simp [hfile] at hdir

/-- Deleting takes away what is at the end of the path, and nothing else. -/
theorem delete_eq_ok (h : t.delete p = .ok after) :
    KeepsDirectories t after ∧ ∀ here, after.find? here =
      if here = p.locationFrom t.workingDirectory then none else t.find? here := by
  unfold delete at h
  split at h
  · rename_i hlocate
    rw [← locate_eq_ok hlocate]
    exact removeAt_eq_ok h
  · cases h

/-- A file that is there can be deleted. -/
theorem exists_delete {content : ByteArray} (h : t.atEnd? p = some (.file content)) :
    ∃ after, t.delete p = .ok after := by
  obtain ⟨place, hlocate, hfile⟩ := exists_locate_of_atEnd? h
  rw [delete, hlocate]
  cases place with
  | nil => cases hfile
  | cons name above =>
    simp only [removeAt]
    split
    · rename_i hnone
      rw [hnone] at hfile
      cases hfile
    · rename_i hdir
      rw [hdir] at hfile
      cases hfile
    · exact ⟨_, rfl⟩

/-- A directory is not deleted. -/
theorem delete_of_directory (h : t.atEnd? p = some .directory) :
    t.delete p = .error .isADirectory := by
  obtain ⟨place, hlocate, hdir⟩ := exists_locate_of_atEnd? h
  rw [delete, hlocate]
  cases place with
  | nil => rfl
  | cons name above =>
    simp only [removeAt]
    split
    · rename_i hnone
      rw [hnone] at hdir
      cases hdir
    · rfl
    · rename_i hfile
      rw [hfile] at hdir
      cases hdir

/-- A file that has been deleted is not there any more, and its path can still be followed. -/
theorem find?_delete (h : t.delete p = .ok after) (hlocate : t.locate p = .ok here) :
    after.locate p = .ok here ∧ after.find? here = none := by
  obtain ⟨hkeeps, hfind⟩ := delete_eq_ok h
  exact ⟨hkeeps.locate hlocate, by rw [hfind, if_pos (locate_eq_ok hlocate)]⟩

/-! ## Made directories -/

/-- All that has changed is that there are directories where there was nothing. -/
structure MakesDirectories (t after : FileTree) : Prop where
  workingDirectory : after.workingDirectory = t.workingDirectory
  entry : ∀ here, after.find? here = t.find? here ∨
    t.find? here = none ∧ after.find? here = some .directory

namespace MakesDirectories

theorem refl (t : FileTree) : MakesDirectories t t := ⟨rfl, fun _ => Or.inl rfl⟩

theorem trans (h : MakesDirectories t made) (h' : MakesDirectories made after) :
    MakesDirectories t after where
  workingDirectory := h'.workingDirectory.trans h.workingDirectory
  entry here := by
    rcases h'.entry here with hsame | ⟨hnone, hdir⟩
    · rw [hsame]
      exact h.entry here
    · rcases h.entry here with hsame | ⟨-, hmade⟩
      · exact Or.inr ⟨hsame ▸ hnone, hdir⟩
      · rw [hmade] at hnone
        cases hnone

theorem keepsDirectories (h : MakesDirectories t after) : KeepsDirectories t after where
  workingDirectory := h.workingDirectory
  directory here hdir := by
    rcases h.entry here with hsame | ⟨hnone, -⟩
    · rw [hsame, hdir]
    · rw [hdir] at hnone
      cases hnone

/-- No file is touched. -/
theorem fileAt? (h : MakesDirectories t after) (here : Location) :
    after.fileAt? here = t.fileAt? here := by
  rcases h.entry here with hsame | ⟨hnone, hdir⟩
  · exact fileAt?_congr hsame
  · rw [FileTree.fileAt?, FileTree.fileAt?, hnone, hdir]

end MakesDirectories

theorem makeDirectoryAt_eq_ok {place : Location} (h : t.makeDirectoryAt place = .ok after) :
    after.workingDirectory = t.workingDirectory ∧ t.find? place = none ∧
      ∀ here, after.find? here = if here = place then some .directory else t.find? here := by
  unfold makeDirectoryAt at h
  split at h
  · cases h
  · split at h
    · cases h
    · rename_i hnone
      split at h
      · obtain rfl := Except.ok.inj h
        exact ⟨rfl, by simpa using hnone, fun here => find?_put ..⟩
      · cases h

/-- A directory is made at the end of the path, where there was nothing. -/
theorem makeDirectory_eq_ok (h : t.makeDirectory p = .ok after) :
    MakesDirectories t after ∧ ∀ here, here ≠ p.locationFrom t.workingDirectory →
      after.find? here = t.find? here := by
  unfold makeDirectory at h
  split at h
  · rename_i hlocate
    obtain ⟨hworking, hnone, hfind⟩ := makeDirectoryAt_eq_ok h
    refine ⟨⟨hworking, fun here => ?_⟩, fun here hne => ?_⟩
    · rw [hfind]
      split
      · rename_i heq
        exact Or.inr ⟨heq ▸ hnone, rfl⟩
      · exact Or.inl rfl
    · rw [hfind, if_neg (locate_eq_ok hlocate ▸ hne)]
  · cases h

/-! ## Directories one below the other -/

/-- A directory is there, and the steps of its path lead there.  Unlike `isDirectory` this leaves
open whether the path itself is short enough to be followed. -/
def LeadsToDirectory (t : FileTree) (p : Path) : Prop :=
  ∃ here, t.walk (if p.isAbsolute then [] else t.workingDirectory) p.steps = .ok here ∧
    t.find? here = some .directory

theorem obstacle?_of_locate (h : t.locate p = .ok here) : p.obstacle? = none := by
  unfold locate at h
  split at h
  · cases h
  · assumption

theorem obstacle?_child {name : String} (hp : p.obstacle? = none) (hnull : '\x00' ∉ name.toList)
    (hname : Text.hasNameBytes name = true) : (p.child name).obstacle? = none := by
  have hnull' : name.toList.contains '\x00' = false := by
    rw [Bool.eq_false_iff, Ne, List.contains_iff_mem]
    exact hnull
  rw [Path.obstacle?] at hp ⊢
  rw [Path.child, List.any_cons, List.all_cons, hnull', hname, Bool.false_or, Bool.true_and]
  exact hp

theorem walk_of_locate (h : t.locate p = .ok here) :
    t.walk (if p.isAbsolute then [] else t.workingDirectory) p.steps = .ok here := by
  unfold locate at h
  split at h
  · cases h
  · split at h
    · cases h
    · exact h

theorem walk_child {name : String}
    (h : t.walk (if p.isAbsolute then [] else t.workingDirectory) p.steps = .ok here) :
    t.walk (if (p.child name).isAbsolute then [] else t.workingDirectory) (p.child name).steps =
      t.follow name here := by
  rw [Path.child, walk, h]

/-- A path whose child can be followed leads to a directory. -/
theorem leadsToDirectory_of_walk_child {name : String}
    (h : t.walk (if p.isAbsolute then [] else t.workingDirectory) (name :: p.steps) = .ok here) :
    t.LeadsToDirectory p := by
  rw [walk] at h
  split at h
  · rename_i above habove
    exact ⟨above, habove, (follow_eq_ok h).1⟩
  · cases h

/-- So does a path whose grandchild can be followed. -/
theorem leadsToDirectory_of_locate {outer inner : String}
    (h : t.locate ((p.child outer).child inner) = .ok here) : t.LeadsToDirectory p := by
  obtain ⟨above, hwalk, -⟩ : t.LeadsToDirectory (p.child outer) :=
    leadsToDirectory_of_walk_child (walk_of_locate h)
  exact leadsToDirectory_of_walk_child hwalk

/-- Below a directory that is there, making one does not fail for want of one above. -/
theorem makeDirectory_child_ne_notFound {name : String} (h : t.LeadsToDirectory p)
    (hname : name ≠ Path.up) : t.makeDirectory (p.child name) ≠ .error .notFound := by
  obtain ⟨above, hwalk, hdir⟩ := h
  have hadvance : Path.advance name above = Text.nameBytes name :: above := if_neg hname
  have hlocate : (∃ e, t.locate (p.child name) = .error e ∧ e ≠ .notFound) ∨
      t.locate (p.child name) = .ok (Text.nameBytes name :: above) := by
    unfold locate
    split
    · rename_i e hobstacle
      exact Or.inl ⟨e, rfl, fun heq => obstacle?_ne_notFound (heq ▸ hobstacle)⟩
    · split
      · exact Or.inl ⟨_, rfl, nofun⟩
      · rw [walk_child hwalk, follow, hdir]
        dsimp only
        split
        · exact Or.inl ⟨_, rfl, nofun⟩
        · exact Or.inr (by rw [hadvance])
  unfold makeDirectory
  rcases hlocate with ⟨e, herror, hne⟩ | hok
  · rw [herror]
    exact fun h => hne (Except.error.inj h)
  · rw [hok]
    simp only [makeDirectoryAt, hdir, dite_true]
    intro h
    split at h <;> cases h

/-! ## Names that are too long -/

/-- A name of more characters than a name may have bytes cannot be followed from a directory that is
there, even to see that there is nothing. -/
theorem locate_child_of_long {name : String} (hlocate : t.locate p = .ok here)
    (hdir : t.find? here = some .directory) (hname : (p.child name).obstacle? = none)
    (hup : name ≠ Path.up) (hlong : maxNameBytes < Text.length name) :
    t.locate (p.child name) = .error .nameTooLong := by
  have hbytes : maxNameBytes < (Text.nameBytes name).length :=
    Nat.lt_of_lt_of_le hlong (Text.length_le_length_nameBytes name)
  have hwalk := walk_of_locate hlocate
  rw [locate, hname]
  dsimp only
  split
  · rfl
  · rw [walk_child hwalk, follow, hdir, if_pos ⟨hup, hbytes⟩]

end FileTree

end SalonBooking
