import SalonBooking.Proofs.Storage.Changes
import SalonBooking.Storage.FileFaults

/-!
# Operations that may meet faults

An operation that succeeds in spite of possible faults has met none, so it does
what the tree allows.  One that fails changes nothing, with two exceptions:
writing that is broken off leaves a part of the file (`write_cases`), and the
directories made before a failure stay (`makesDirectories`).
-/

namespace SalonBooking.FileFaults

variable {faults : FileFaults} {t after : FileTree} {p : Path} {here : Location}

/-! ## One operation -/

section
variable {α : Type} {fault : Option String} {result : Except FileError α}

theorem meet_eq_ok {a : α} (h : meet fault p result = .ok a) : result = .ok a := by
  unfold meet at h
  split at h
  · exact h
  · split at h
    · cases h
    · exact h

/-- An operation fails by a fault, or fails as it would without one. -/
theorem meet_eq_error {e : FileError} (h : meet fault p result = .error e) :
    (p.obstacle? = none ∧ ∃ reason ∈ fault, e = .fault reason) ∨ result = .error e := by
  unfold meet at h
  split at h
  · exact Or.inr h
  · rename_i reason
    split at h
    · exact Or.inl ⟨‹_›, reason, rfl, (Except.error.inj h).symm⟩
    · exact Or.inr h

theorem meet_some (h : p.obstacle? = none) (reason : String) (result : Except FileError α) :
    meet (some reason) p result = .error (.fault reason) := if_pos h

/-- A path that is not handed to the system meets no fault. -/
theorem meet_of_obstacle (h : p.obstacle? ≠ none) : meet fault p result = result := by
  cases fault with
  | none => rfl
  | some reason => exact if_neg h

end

/-! ## Looking -/

/-- Nobody can tell whether there is something at the end of a path: a name on the way is too long,
or the system refuses to look. -/
def Hides (faults : FileFaults) (t : FileTree) (p : Path) : Prop :=
  t.locate p = .error .nameTooLong ∨ p.obstacle? = none ∧ ∃ reason, faults.looking t p = some reason

/-- Otherwise it can be told. -/
theorem exists?_of_not_hides (h : ¬ faults.Hides t p) :
    faults.exists? t p = .ok (t.atEnd? p).isSome := by
  rw [Hides, not_or] at h
  obtain ⟨hshort, hlook⟩ := h
  have hunmet : faults.exists? t p = t.exists? p := by
    rw [exists?]
    by_cases hobstacle : p.obstacle? = none
    · rw [Option.eq_none_iff_forall_ne_some.mpr
          fun reason hfault => hlook ⟨hobstacle, reason, hfault⟩,
        meet_none]
    · exact meet_of_obstacle hobstacle
  rw [hunmet, FileTree.exists?]
  cases hlocate : t.locate p with
  | ok here => rw [FileTree.atEnd?_of_locate hlocate]
  | error e =>
    rw [FileTree.atEnd?_of_error hlocate]
    rw [hlocate] at hshort
    cases e <;> first | rfl | exact absurd rfl hshort

theorem exists?_of_hides (h : faults.Hides t p) : ∃ e, faults.exists? t p = .error e ∧
    (e = .nameTooLong ∨ ∃ reason, e = .fault reason) := by
  rcases h with hlong | ⟨hobstacle, reason, hfault⟩
  · cases hexists : faults.exists? t p with
    | error e =>
      rcases meet_eq_error hexists with ⟨-, reason, -, rfl⟩ | he
      · exact ⟨_, rfl, Or.inr ⟨reason, rfl⟩⟩
      · rw [FileTree.exists?, hlong] at he
        exact ⟨e, rfl, Or.inl (Except.error.inj he).symm⟩
    | ok found =>
      have hfound := meet_eq_ok hexists
      rw [FileTree.exists?, hlong] at hfound
      cases hfound
  · exact ⟨_, by rw [exists?, hfault, meet_some hobstacle], Or.inr ⟨reason, rfl⟩⟩

/-! ## Writing -/

/-- Writing fails and changes nothing, or is broken off after some bytes, or writes the content. -/
theorem write_cases (faults : FileFaults) (t : FileTree) (p : Path) (content : ByteArray) :
    (∃ e, faults.write t p content = (.error e, t)) ∨
    (∃ written reason after, faults.writing t p = some (.brokenOff written reason) ∧
      faults.write t p content = (.error (.fault reason), after) ∧
      t.write p (content.extract 0 written) = .ok after) ∨
    ∃ after, faults.write t p content = (.ok (), after) ∧ t.write p content = .ok after := by
  rw [write]
  split
  · cases hwrite : t.write p content with
    | error e => exact Or.inl ⟨e, rfl⟩
    | ok after => exact Or.inr (Or.inr ⟨after, rfl, rfl⟩)
  · rename_i reason _
    cases hmet : meet (some reason) p (t.write p content) with
    | error e => exact Or.inl ⟨e, rfl⟩
    | ok after => exact Or.inr (Or.inr ⟨after, rfl, meet_eq_ok hmet⟩)
  · rename_i written reason hfault
    cases hwrite : t.write p (content.extract 0 written) with
    | error e => exact Or.inl ⟨e, rfl⟩
    | ok after => exact Or.inr (Or.inl ⟨written, reason, after, hfault, rfl, hwrite⟩)

theorem write_eq_ok {content : ByteArray} (h : faults.write t p content = (.ok (), after)) :
    t.write p content = .ok after := by
  rcases faults.write_cases t p content with
    ⟨_, hfailed⟩ | ⟨_, _, _, -, hbroken, -⟩ | ⟨_, hdone, hwrite⟩
  · cases h.symm.trans hfailed
  · cases h.symm.trans hbroken
  · cases h.symm.trans hdone
    exact hwrite

/-- Without faults a file is written where that is possible. -/
theorem write_of_ok {content : ByteArray} (hnone : faults.writing t p = none)
    (h : t.write p content = .ok after) : faults.write t p content = (.ok (), after) := by
  rw [write, hnone, h]
  rfl

/-! ## Making directories -/

theorem isDirectory_of_makeDirectory (h : faults.makeDirectory t p = .ok after) :
    after.isDirectory p = true :=
  FileTree.isDirectory_of_makeDirectory (meet_eq_ok h)

theorem isDirectory_of_unlessDirectory {e : FileError}
    (h : faults.unlessDirectory t p e = (.ok (), after)) : after.isDirectory p = true := by
  obtain ⟨hresult, rfl⟩ := Prod.mk.inj h
  split at hresult
  · rename_i hfound
    exact Except.ok.inj (meet_eq_ok hfound)
  · cases hresult
  · cases hresult

/-- Directories that are made are there. -/
theorem isDirectory_of_makeDirectories (h : faults.makeDirectories t p = (.ok (), after)) :
    after.isDirectory p = true := by
  obtain ⟨isAbsolute, steps⟩ := p
  unfold makeDirectories at h
  cases steps with
  | nil =>
    rw [makeDirectoriesAlong] at h
    split at h
    · rename_i made hmade
      obtain ⟨-, rfl⟩ := Prod.mk.inj h
      exact isDirectory_of_makeDirectory hmade
    · exact isDirectory_of_unlessDirectory h
  | cons step above =>
    rw [makeDirectoriesAlong] at h
    split at h
    · rename_i made hmade
      obtain ⟨-, rfl⟩ := Prod.mk.inj h
      exact isDirectory_of_makeDirectory hmade
    · split at h
      · cases (Prod.mk.inj h).1
      · split at h
        · rename_i made hmade
          obtain ⟨-, rfl⟩ := Prod.mk.inj h
          exact isDirectory_of_makeDirectory hmade
        · exact isDirectory_of_unlessDirectory h
    · exact isDirectory_of_unlessDirectory h

/-- A directory that is there is not made again. -/
theorem makeDirectories_of_isDirectory (h : t.isDirectory p = true) :
    makeDirectories {} t p = (.ok (), t) := by
  have hthere := FileTree.makeDirectory_of_isDirectory h
  obtain ⟨isAbsolute, steps⟩ := p
  rw [makeDirectories]
  cases steps <;>
    simp only [makeDirectoriesAlong, makeDirectory, unlessDirectory, isDirectory, meet_none, hthere,
      h]

/-- Whatever comes of it, making directories only makes directories. -/
theorem makesDirectories_along (faults : FileFaults) (t : FileTree) (isAbsolute : Bool)
    (steps : List String) :
    t.MakesDirectories (faults.makeDirectoriesAlong t isAbsolute steps).2 := by
  have hmakes {t made : FileTree} {p : Path} (h : faults.makeDirectory t p = .ok made) :
      t.MakesDirectories made := (FileTree.makeDirectory_eq_ok (meet_eq_ok h)).1
  induction steps with
  | nil =>
    rw [makeDirectoriesAlong]
    split
    · exact hmakes ‹_›
    · exact .refl t
  | cons step above ih =>
    rw [makeDirectoriesAlong]
    split
    · exact hmakes ‹_›
    · split
      · rename_i part habove
        rw [habove] at ih
        exact ih
      · rename_i part habove
        rw [habove] at ih
        split
        · exact ih.trans (hmakes ‹_›)
        · exact ih
    · exact .refl t

theorem makesDirectories (faults : FileFaults) (t : FileTree) (p : Path) :
    t.MakesDirectories (faults.makeDirectories t p).2 :=
  faults.makesDirectories_along t p.isAbsolute p.steps

/-- Below a directory that is there, no other directory is made than the one that is asked for. -/
theorem find?_makeDirectories_child {name : String} (h : t.LeadsToDirectory p)
    (hname : name ≠ Path.up)
    (hne : here ≠ Text.nameBytes name :: p.locationFrom t.workingDirectory) :
    (faults.makeDirectories t (p.child name)).2.find? here = t.find? here := by
  have hnotFound : faults.makeDirectory t ⟨p.isAbsolute, name :: p.steps⟩ ≠ .error .notFound := by
    intro hmissing
    rcases meet_eq_error hmissing with ⟨-, _, -, hfault⟩ | hmissing
    · cases hfault
    · exact FileTree.makeDirectory_child_ne_notFound h hname hmissing
  show (faults.makeDirectoriesAlong t p.isAbsolute (name :: p.steps)).2.find? here = _
  rw [makeDirectoriesAlong]
  split
  · rename_i hmade
    refine (FileTree.makeDirectory_eq_ok (meet_eq_ok hmade)).2 here ?_
    rw [← Path.locationFrom_child _ _ hname] at hne
    exact hne
  · rename_i hmissing
    exact absurd hmissing hnotFound
  · rfl

end SalonBooking.FileFaults
