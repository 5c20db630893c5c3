import SalonBooking.Proofs.Publish.Bucket
import SalonBooking.Proofs.Publish.Directory
import SalonBooking.Proofs.Storage.Changes
import SalonBooking.Proofs.Text.NameBytes

/-!
# Calls stay in the directory of pages

A call about a page that is kept in a directory touches one file at most, the one
that its ids name.  Ids that could name anything else are refused before anything
is touched.

`DirectoryStep` says what a call can come to.  What one call keeps is told case by
case from there, and a run of calls keeps it by induction.
-/

namespace SalonBooking

/-! ## Publishing and withdrawing at a path -/

/-- Without faults it can be told what is at the end of a path that can be followed. -/
theorem FileFaults.not_hides {t : FileTree} {path : Path} {here : Location}
    (h : t.locate path = .ok here) : ¬ FileFaults.Hides {} t path := by
  rintro (hlong | ⟨-, _, hfault⟩)
  · cases h.symm.trans hlong
  · cases hfault

namespace FileTree

variable {t after : FileTree} {faults : FileFaults} {path : Path} {html : String}

/-- Publishing fails and at most makes directories; it is broken off after some bytes of the page;
it finds the page; or it makes the directories and writes the page. -/
theorem publish_cases (t : FileTree) (faults : FileFaults) (path : Path) (html : String) :
    (∃ e after, t.publish faults path html = (.error e, after) ∧ (∀ id, e ≠ .invalidSegment id) ∧
      (after = t ∨ after = (faults.makeDirectories t path.parent).2)) ∨
    (∃ e written reason after, t.publish faults path html = (.error e, after) ∧
      (∀ id, e ≠ .invalidSegment id) ∧
      faults.writing (faults.makeDirectories t path.parent).2 path =
        some (.brokenOff written reason) ∧
      (faults.makeDirectories t path.parent).2.write path
        ((Text.utf8 html).extract 0 written) = .ok after) ∨
    (t.publish faults path html = (.ok true, t) ∧
      ∃ content, t.atEnd? path = some (.file content)) ∨
    ∃ after, t.publish faults path html = (.ok false, after) ∧
      (faults.makeDirectories t path.parent).2.write path (Text.utf8 html) = .ok after := by
  have hcause (e : FileError) (id : String) : writeError path e ≠ .invalidSegment id := by
    rw [writeError]
    split <;> nofun
  rw [publish]
  cases hholds : t.holdsPage faults path html with
  | error e => exact Or.inl ⟨_, t, rfl, fun _ h => (by cases h), Or.inl rfl⟩
  | ok found =>
    cases found with
    | true =>
      obtain ⟨stored, hread⟩ := exists_read_of_holdsPage hholds
      obtain ⟨here, hlocate, hfile⟩ := read_eq_ok.mp hread
      exact Or.inr (Or.inr (Or.inl ⟨rfl, _, (atEnd?_of_locate hlocate).trans hfile⟩))
    | false =>
      simp only [writePage]
      cases hmade : faults.makeDirectories t path.parent with
      | mk made part =>
        cases made with
        | error e => exact Or.inl ⟨_, part, rfl, hcause e, Or.inr rfl⟩
        | ok _ =>
          rcases faults.write_cases part path (Text.utf8 html) with ⟨e, hwrite⟩ |
            ⟨written, reason, after, hfault, hbroken, hwrite⟩ | ⟨after, hdone, hwrite⟩
          · exact Or.inl ⟨_, part, by simp only [hwrite], hcause e, Or.inr rfl⟩
          · exact Or.inr (Or.inl ⟨writeError path (.fault reason), written, reason, after,
              by simp only [hbroken], hcause _, hfault, hwrite⟩)
          · exact Or.inr (Or.inr (Or.inr ⟨after, by simp only [hdone], hwrite⟩))

/-- The system keeps the page at the end of a path from being withdrawn: nobody can tell what is
there, a directory is in its place, or it is a file that is not to be deleted. -/
def IsHeld (t : FileTree) (faults : FileFaults) (path : Path) : Prop :=
  faults.Hides t path ∨ t.atEnd? path = some .directory ∨
    (∃ content, t.atEnd? path = some (.file content)) ∧ faults.deleting t path ≠ none

/-- Without faults a file is not held. -/
theorem not_isHeld {content : ByteArray} (h : t.atEnd? path = some (.file content)) :
    ¬ t.IsHeld {} path := by
  obtain ⟨here, hlocate, -⟩ := exists_locate_of_atEnd? h
  rintro (hhidden | hdir | ⟨-, hfault⟩)
  · exact FileFaults.not_hides hlocate hhidden
  · cases h.symm.trans hdir
  · exact hfault rfl

/-- Withdrawing fails where the page is held; it finds nothing; or it deletes a file. -/
theorem withdraw_cases (t : FileTree) (faults : FileFaults) (path : Path) :
    (∃ e, t.withdraw faults path = (.error e, t) ∧ (∀ id, e ≠ .invalidSegment id) ∧
      t.IsHeld faults path) ∨
    (t.withdraw faults path = (.ok false, t) ∧ t.atEnd? path = none ∧ ¬ faults.Hides t path) ∨
    ∃ after content, t.withdraw faults path = (.ok true, after) ∧ t.delete path = .ok after ∧
      t.atEnd? path = some (.file content) ∧ ¬ t.IsHeld faults path := by
  rw [withdraw]
  by_cases hhides : faults.Hides t path
  · obtain ⟨e, hexists, -⟩ := FileFaults.exists?_of_hides hhides
    exact Or.inl ⟨.unusable e, by rw [hexists], fun _ h => (by cases h), Or.inl hhides⟩
  · rw [FileFaults.exists?_of_not_hides hhides]
    cases hend : t.atEnd? path with
    | none => exact Or.inr (Or.inl ⟨rfl, rfl, hhides⟩)
    | some entry =>
      cases entry with
      | directory =>
        obtain ⟨e, hdelete⟩ : ∃ e, faults.delete t path = .error e := by
          cases hdelete : faults.delete t path with
          | error e => exact ⟨e, rfl⟩
          | ok after =>
            cases (delete_of_directory hend).symm.trans (FileFaults.meet_eq_ok hdelete)
        refine Or.inl ⟨.notDeleted path e, ?_, fun _ h => (by cases h), Or.inr (Or.inl hend)⟩
        simp only [Option.isSome_some, hdelete]
      | file content =>
        obtain ⟨after, hdelete⟩ := exists_delete hend
        obtain ⟨here, hlocate, -⟩ := exists_locate_of_atEnd? hend
        cases hfault : faults.deleting t path with
        | none =>
          refine Or.inr (Or.inr ⟨after, content, ?_, hdelete, rfl, ?_⟩)
          · simp only [Option.isSome_some, FileFaults.delete, hfault, FileFaults.meet_none, hdelete]
          · rintro (hhidden | hdir | ⟨-, hheld⟩)
            · exact hhides hhidden
            · cases hend.symm.trans hdir
            · exact hheld hfault
        | some reason =>
          have hheld : t.IsHeld faults path :=
            Or.inr (Or.inr ⟨⟨content, hend⟩, by rw [hfault]; exact Option.some_ne_none _⟩)
          refine Or.inl ⟨.notDeleted path (.fault reason), ?_, fun _ h => (by cases h), hheld⟩
          simp only [Option.isSome_some, FileFaults.delete, hfault,
            FileFaults.meet_some (obstacle?_of_locate hlocate)]

end FileTree

/-! ## Calls -/

/-- Whether an id can be the name of a directory or file. -/
def CanBeName (id : String) : Prop :=
  id ≠ "" ∧ id ≠ "." ∧ id ≠ ".." ∧ '/' ∉ id.toList ∧ '\\' ∉ id.toList

theorem isSegment_iff {id : String} : isSegment id = true ↔ CanBeName id := by
  simp [isSegment, CanBeName, Path.up, and_assoc]

theorem Settings.pagePath?_of_named (settings : Settings) {storeId formId : String}
    (hstore : CanBeName storeId) (hform : CanBeName formId) :
    settings.pagePath? storeId formId = .ok (settings.pagePath storeId formId) := by
  rw [pagePath?, isSegment_iff.mpr hstore, isSegment_iff.mpr hform]
  rfl

theorem Settings.pagePath?_of_not_named (settings : Settings) {storeId formId : String}
    (h : ¬ (CanBeName storeId ∧ CanBeName formId)) :
    ∃ id, settings.pagePath? storeId formId = .error (.invalidSegment id) := by
  rw [pagePath?]
  by_cases hstore : isSegment storeId = true
  · have hform : isSegment formId = false := Bool.eq_false_iff.mpr fun hform =>
      h ⟨isSegment_iff.mp hstore, isSegment_iff.mp hform⟩
    exact ⟨formId, by rw [hstore, hform]; rfl⟩
  · rw [Bool.not_eq_true] at hstore
    exact ⟨storeId, by rw [hstore]; rfl⟩

/-- A call about the page of a form, with the settings and the faults that it meets.  The settings
are such that pages are kept in a directory. -/
structure DirectoryCall (formsDirectory : Path) where
  settings : Settings
  faults : FileFaults
  storeId : String
  formId : String
  action : PageAction
  inDirectory : settings.target = .directory
  sameDirectory : settings.formsDirectory = formsDirectory

namespace DirectoryCall

variable {formsDirectory : Path}

/-- The answer to a call, and the storage after it. -/
def perform (call : DirectoryCall formsDirectory) (storage : Storage) : Outcome PageAnswer :=
  match call.action with
  | .publish html =>
    let (result, after) :=
      call.settings.publish ⟨{}, call.faults⟩ call.storeId call.formId html storage
    (result.map .published, after)
  | .withdraw =>
    let (result, after) := call.settings.withdraw ⟨{}, call.faults⟩ call.storeId call.formId storage
    (result.map .withdrawn, after)

/-- The storage after some calls. -/
def run (storage : Storage) (calls : List (DirectoryCall formsDirectory)) : Storage :=
  calls.foldl (fun storage call => (call.perform storage).2) storage

/-- Both ids of a call can be names. -/
def IsNamed (call : DirectoryCall formsDirectory) : Prop :=
  CanBeName call.storeId ∧ CanBeName call.formId

/-- The page of a call, if it publishes one, has bytes; it is hashed before anything else. -/
def HasBytes (call : DirectoryCall formsDirectory) : Prop :=
  ∀ html ∈ call.action.page?, Text.isWritable html = true

/-- The path of the page that a call is about. -/
def path (call : DirectoryCall formsDirectory) : Path :=
  (formsDirectory.child call.storeId).child (call.formId ++ ".html")

/-- The place of the page that a call is about: the file `<form>.html` in the directory `<store>` of
the directory of pages. -/
def place (call : DirectoryCall formsDirectory) (workingDirectory : Location) : Location :=
  Text.nameBytes (call.formId ++ ".html") :: Text.nameBytes call.storeId ::
    formsDirectory.locationFrom workingDirectory

/-- Two calls are about the same form. -/
def SameForm (call other : DirectoryCall formsDirectory) : Prop :=
  call.storeId = other.storeId ∧ call.formId = other.formId

/-- Two calls are about forms whose names have the same bytes. -/
def SameBytes (call other : DirectoryCall formsDirectory) : Prop :=
  Text.nameBytes call.storeId = Text.nameBytes other.storeId ∧
    Text.nameBytes (call.formId ++ ".html") = Text.nameBytes (other.formId ++ ".html")

/-- Both ids of a call are characters. -/
def IsPlain (call : DirectoryCall formsDirectory) : Prop :=
  Text.IsPlain call.storeId ∧ Text.IsPlain call.formId

/-- The system breaks off the writing of a page, if it comes to that. -/
def IsBrokenOff (call : DirectoryCall formsDirectory) : Prop :=
  ∃ t p written reason, call.faults.writing t p = some (.brokenOff written reason)

end DirectoryCall

/-- What a call can come to: its result and the file tree after it. -/
inductive DirectoryStep {formsDirectory : Path} (call : DirectoryCall formsDirectory)
    (t : FileTree) : Except PublishError PageAnswer → FileTree → Prop
  /-- The page has no bytes. -/
  | unwritable (bytes : ¬ call.HasBytes) : DirectoryStep call t (.error .unwritable) t
  /-- An id cannot be a name. -/
  | refused {id : String} (bytes : call.HasBytes) (unnamed : ¬ call.IsNamed) :
    DirectoryStep call t (.error (.invalidSegment id)) t
  /-- The page is not published; directories may have been made for it. -/
  | unpublished {html : String} {e : PublishError} {after : FileTree}
      (action : call.action = .publish html) (bytes : call.HasBytes) (named : call.IsNamed)
      (cause : ∀ id, e ≠ .invalidSegment id)
      (made : after = t ∨ after = (call.faults.makeDirectories t call.path.parent).2) :
    DirectoryStep call t (.error e) after
  /-- Only a part of the page is written. -/
  | brokenOff {html : String} {e : PublishError} {written : Nat} {after : FileTree}
      (action : call.action = .publish html) (bytes : call.HasBytes) (named : call.IsNamed)
      (cause : ∀ id, e ≠ .invalidSegment id) (broken : call.IsBrokenOff)
      (write : (call.faults.makeDirectories t call.path.parent).2.write call.path
        ((Text.utf8 html).extract 0 written) = .ok after) :
    DirectoryStep call t (.error e) after
  /-- The page is there already. -/
  | kept {html : String} {publication : Publication} {content : ByteArray}
      (action : call.action = .publish html) (named : call.IsNamed)
      (file : t.atEnd? call.path = some (.file content)) :
    DirectoryStep call t (.ok (.published publication)) t
  /-- The page is written. -/
  | written {html : String} {publication : Publication} {after : FileTree}
      (action : call.action = .publish html) (named : call.IsNamed)
      (write : (call.faults.makeDirectories t call.path.parent).2.write call.path
        (Text.utf8 html) = .ok after) :
    DirectoryStep call t (.ok (.published publication)) after
  /-- The page cannot be withdrawn. -/
  | undeleted {e : PublishError} (action : call.action = .withdraw) (named : call.IsNamed)
      (cause : ∀ id, e ≠ .invalidSegment id) (held : t.IsHeld call.faults call.path) :
    DirectoryStep call t (.error e) t
  /-- There is no page to withdraw. -/
  | absent (action : call.action = .withdraw) (named : call.IsNamed)
      (nothing : t.atEnd? call.path = none) (seen : ¬ call.faults.Hides t call.path) :
    DirectoryStep call t (.ok (.withdrawn false)) t
  /-- The page is withdrawn. -/
  | withdrawn {after : FileTree} {content : ByteArray} (action : call.action = .withdraw)
      (named : call.IsNamed) (file : t.atEnd? call.path = some (.file content))
      (free : ¬ t.IsHeld call.faults call.path) (delete : t.delete call.path = .ok after) :
    DirectoryStep call t (.ok (.withdrawn true)) after

namespace DirectoryCall

variable {formsDirectory : Path} {call : DirectoryCall formsDirectory} {storage : Storage}

theorem pagePath?_of_named (h : call.IsNamed) :
    call.settings.pagePath? call.storeId call.formId = .ok call.path := by
  rw [call.settings.pagePath?_of_named h.1 h.2, Settings.pagePath, call.sameDirectory]
  rfl

/-- A call that publishes no page has none without bytes. -/
theorem hasBytes_of_withdraw (h : call.action = .withdraw) : call.HasBytes := by
  simp [HasBytes, h, PageAction.page?]

theorem hasBytes_publish {html : String} (h : call.action = .publish html) :
    call.HasBytes ↔ Text.isWritable html = true := by
  simp [HasBytes, h, PageAction.page?]

/-- A page without bytes is refused, and nothing is touched. -/
theorem perform_of_not_hasBytes (h : ¬ call.HasBytes) (storage : Storage) :
    call.perform storage = (.error .unwritable, storage) := by
  cases haction : call.action with
  | withdraw => exact absurd (hasBytes_of_withdraw haction) h
  | publish html =>
    have hbytes : Text.isWritable html = false :=
      Bool.eq_false_iff.mpr (mt (hasBytes_publish haction).mpr h)
    simp only [perform, haction, Settings.publish, hbytes, Bool.not_false, if_true]
    rfl

/-- Ids that cannot be names are refused, and nothing is touched. -/
theorem perform_of_not_named (hbytes : call.HasBytes) (h : ¬ call.IsNamed) (storage : Storage) :
    ∃ id, call.perform storage = (.error (.invalidSegment id), storage) := by
  have htarget := call.inDirectory
  obtain ⟨id, hrefused⟩ := call.settings.pagePath?_of_not_named h
  refine ⟨id, ?_⟩
  cases haction : call.action with
  | publish html =>
    rw [hasBytes_publish haction] at hbytes
    simp only [perform, haction, Settings.publish, hbytes, Bool.not_true, Bool.false_eq_true,
      if_false, htarget, Settings.publishFile, hrefused]
    rfl
  | withdraw =>
    simp only [perform, haction, Settings.withdraw, htarget, Settings.withdrawFile, hrefused]
    rfl

/-- A call takes one of the steps. -/
theorem directoryStep (call : DirectoryCall formsDirectory) (storage : Storage) :
    DirectoryStep call storage.files (call.perform storage).1 (call.perform storage).2.files := by
  have htarget := call.inDirectory
  by_cases hbytes : call.HasBytes
  · by_cases hnamed : call.IsNamed
    · cases haction : call.action with
      | publish html =>
        have hwritable := (hasBytes_publish haction).mp hbytes
        simp only [perform, haction, Settings.publish, hwritable, Bool.not_true, Bool.false_eq_true,
          if_false, htarget, Settings.publishFile, pagePath?_of_named hnamed]
        rcases storage.files.publish_cases call.faults call.path html with
          ⟨e, after, heq, hcause, hmade⟩ | ⟨e, n, reason, after, heq, hcause, hfault, hwrite⟩ |
          ⟨heq, content, hfile⟩ | ⟨after, heq, hwrite⟩
        · simp only [heq]
          exact .unpublished haction hbytes hnamed hcause hmade
        · simp only [heq]
          exact .brokenOff haction hbytes hnamed hcause ⟨_, _, n, reason, hfault⟩ hwrite
        · simp only [heq]
          exact .kept haction hnamed hfile
        · simp only [heq]
          exact .written haction hnamed hwrite
      | withdraw =>
        simp only [perform, haction, Settings.withdraw, htarget, Settings.withdrawFile,
          pagePath?_of_named hnamed]
        rcases storage.files.withdraw_cases call.faults call.path with
          ⟨e, heq, hcause, hheld⟩ | ⟨heq, hnothing, hseen⟩ |
          ⟨after, content, heq, hdelete, hfile, hfree⟩
        · simp only [heq]
          exact .undeleted haction hnamed hcause hheld
        · simp only [heq]
          exact .absent haction hnamed hnothing hseen
        · simp only [heq]
          exact .withdrawn haction hnamed hfile hfree hdelete
    · obtain ⟨id, heq⟩ := perform_of_not_named hbytes hnamed storage
      rw [heq]
      exact .refused hbytes hnamed
  · rw [perform_of_not_hasBytes hbytes]
    exact .unwritable hbytes

/-- The name of a file does not lead to the directory above, whatever the form is. -/
theorem fileName_ne_up (call : DirectoryCall formsDirectory) :
    call.formId ++ ".html" ≠ Path.up := by
  intro heq
  have hlength := congrArg String.length heq
  have hending : ".html".length = 5 := by decide
  have hup : Path.up.length = 2 := by decide
  rw [String.length_append] at hlength
  omega

/-- The file of a call is that of its form, in the directory of its store. -/
theorem locationFrom_path (h : call.IsNamed) (workingDirectory : Location) :
    call.path.locationFrom workingDirectory = call.place workingDirectory := by
  have hstore : call.storeId ≠ Path.up := h.1.2.2.1
  rw [path, Path.locationFrom_child _ _ call.fileName_ne_up, Path.locationFrom_child _ _ hstore,
    place]

/-- Ids have the same file exactly if their names have the same bytes. -/
theorem place_eq_iff {other : DirectoryCall formsDirectory} {workingDirectory : Location} :
    call.place workingDirectory = other.place workingDirectory ↔ call.SameBytes other := by
  simp only [place, List.cons.injEq, and_true, SameBytes]
  exact and_comm

/-- Among ids that are characters these are the same ids. -/
theorem SameBytes.sameForm {other : DirectoryCall formsDirectory} (h : call.SameBytes other)
    (hplain : call.IsPlain) (hother : other.IsPlain) : call.SameForm other :=
  ⟨Text.eq_of_nameBytes hplain.1 hother.1 h.1,
    (String.append_left_inj _).mp (Text.eq_of_nameBytes (hplain.2.append (by decide +kernel))
      (hother.2.append (by decide +kernel)) h.2)⟩

end DirectoryCall

/-! ## What one call keeps -/

namespace DirectoryStep

variable {formsDirectory : Path} {call : DirectoryCall formsDirectory} {t after : FileTree}
  {result : Except PublishError PageAnswer} {here : Location}

/-- No directory is taken away. -/
theorem keepsDirectories (h : DirectoryStep call t result after) :
    FileTree.KeepsDirectories t after := by
  have hmakes := (call.faults.makesDirectories t call.path.parent).keepsDirectories
  cases h with
  | unwritable | refused | kept | undeleted | absent => exact .refl t
  | unpublished _ _ _ _ made =>
    rcases made with rfl | rfl
    · exact .refl _
    · exact hmakes
  | brokenOff _ _ _ _ _ write | written _ _ write =>
    exact hmakes.trans (FileTree.keepsDirectories_of_write write)
  | withdrawn _ _ _ _ delete => exact (FileTree.delete_eq_ok delete).1

/-- Elsewhere than in the place of its page a call leaves what was there, or what is there once the
directories above the page are made. -/
theorem find?_elsewhere (h : DirectoryStep call t result after)
    (hne : call.IsNamed → here ≠ call.place t.workingDirectory) :
    after.find? here = t.find? here ∨ call.IsNamed ∧
      after.find? here = (call.faults.makeDirectories t call.path.parent).2.find? here := by
  have hwritten {content : ByteArray} (named : call.IsNamed)
      (write : (call.faults.makeDirectories t call.path.parent).2.write call.path content =
        .ok after) :
      after.find? here = (call.faults.makeDirectories t call.path.parent).2.find? here := by
    have helsewhere := hne named
    rw [← DirectoryCall.locationFrom_path named,
      ← (call.faults.makesDirectories t call.path.parent).workingDirectory] at helsewhere
    exact FileTree.find?_write write helsewhere
  cases h with
  | unwritable | refused | kept | undeleted | absent => exact Or.inl rfl
  | unpublished _ _ named _ made =>
    rcases made with rfl | rfl
    · exact Or.inl rfl
    · exact Or.inr ⟨named, rfl⟩
  | brokenOff _ _ named _ _ write | written _ named write =>
    exact Or.inr ⟨named, hwritten named write⟩
  | withdrawn _ named _ _ delete =>
    have helsewhere := hne named
    rw [← DirectoryCall.locationFrom_path named] at helsewhere
    exact Or.inl (by rw [(FileTree.delete_eq_ok delete).2, if_neg helsewhere])

/-- No file is touched but the one that the ids name. -/
theorem fileAt?_of_ne (h : DirectoryStep call t result after)
    (hne : call.IsNamed → here ≠ call.place t.workingDirectory) :
    after.fileAt? here = t.fileAt? here := by
  rcases h.find?_elsewhere hne with hsame | ⟨-, hmade⟩
  · exact FileTree.fileAt?_congr hsame
  · rw [FileTree.fileAt?_congr hmade, (call.faults.makesDirectories t call.path.parent).fileAt?]

/-- A call that fails touches no file at all, unless the writing of its page is broken off: then its
file holds the beginning of the page. -/
theorem fileAt?_of_error {e : PublishError} (h : DirectoryStep call t (.error e) after)
    (here : Location) : after.fileAt? here = t.fileAt? here ∨ call.IsBrokenOff ∧
      ∃ html written, call.action = .publish html ∧
        after.fileAt? here = some ((Text.utf8 html).extract 0 written) := by
  have hmakes := call.faults.makesDirectories t call.path.parent
  cases h with
  | unwritable | refused | undeleted => exact Or.inl rfl
  | unpublished _ _ _ _ made =>
    rcases made with rfl | rfl
    · exact Or.inl rfl
    · exact Or.inl (hmakes.fileAt? here)
  | @brokenOff html _ written _ action _ named _ broken write =>
    by_cases hplace : here = call.path.locationFrom
        (call.faults.makeDirectories t call.path.parent).2.workingDirectory
    · exact Or.inr ⟨broken, html, written, action, hplace ▸ FileTree.fileAt?_write write⟩
    · exact Or.inl (by
        rw [FileTree.fileAt?_congr (FileTree.find?_write write hplace), hmakes.fileAt?])

/-- A call is refused exactly if an id cannot be a name, once its page has been hashed. -/
theorem refused_iff (h : DirectoryStep call t result after) :
    (∃ id, result = .error (.invalidSegment id)) ↔ call.HasBytes ∧ ¬ call.IsNamed := by
  cases h with
  | unwritable bytes => exact iff_of_false nofun fun hrefused => bytes hrefused.1
  | refused bytes unnamed => exact iff_of_true ⟨_, rfl⟩ ⟨bytes, unnamed⟩
  | unpublished _ _ named cause | brokenOff _ _ named cause | undeleted _ named cause =>
    refine iff_of_false ?_ fun hrefused => hrefused.2 named
    rintro ⟨id, hid⟩
    exact cause id (Except.error.inj hid)
  | kept _ named | written _ named | absent _ named | withdrawn _ named =>
    exact iff_of_false nofun fun hrefused => hrefused.2 named

/-- Withdrawing finds a page exactly if there is a file, and nothing holds it. -/
theorem found_iff (h : DirectoryStep call t result after) :
    result = .ok (.withdrawn true) ↔ call.action = .withdraw ∧ call.IsNamed ∧
      (∃ content, t.atEnd? call.path = some (.file content)) ∧
        ¬ t.IsHeld call.faults call.path := by
  cases h with
  | unwritable bytes =>
    exact iff_of_false nofun fun hfound => bytes (DirectoryCall.hasBytes_of_withdraw hfound.1)
  | refused _ unnamed => exact iff_of_false nofun fun hfound => unnamed hfound.2.1
  | unpublished action | brokenOff action | kept action | written action =>
    rw [action]
    exact iff_of_false nofun nofun
  | undeleted _ _ _ held => exact iff_of_false nofun fun hfound => hfound.2.2.2 held
  | absent _ _ nothing =>
    rw [nothing]
    exact iff_of_false nofun fun hfound => nomatch hfound.2.2.1
  | withdrawn action named file free =>
    exact iff_of_true rfl ⟨action, named, ⟨_, file⟩, free⟩

/-- A page that was found is gone. -/
theorem gone (h : DirectoryStep call t (.ok (.withdrawn true)) after) :
    after.find? (call.place t.workingDirectory) = none := by
  cases h with
  | withdrawn _ named _ _ delete =>
    rw [(FileTree.delete_eq_ok delete).2, if_pos (DirectoryCall.locationFrom_path named _).symm]

/-- The path of a page that was found can still be followed: nobody takes directories away. -/
theorem locate_withdrawn (h : DirectoryStep call t (.ok (.withdrawn true)) after)
    (hlocate : t.locate call.path = .ok here) :
    after.locate call.path = .ok here ∧ after.find? here = none := by
  cases h with
  | withdrawn _ _ _ _ delete => exact FileTree.find?_delete delete hlocate

/-- Withdrawing finds no page exactly if there is nothing, and that can be told. -/
theorem absent_iff (h : DirectoryStep call t result after) :
    result = .ok (.withdrawn false) ↔ call.action = .withdraw ∧ call.IsNamed ∧
      t.atEnd? call.path = none ∧ ¬ call.faults.Hides t call.path := by
  cases h with
  | unwritable bytes =>
    exact iff_of_false nofun fun habsent => bytes (DirectoryCall.hasBytes_of_withdraw habsent.1)
  | refused _ unnamed => exact iff_of_false nofun fun habsent => unnamed habsent.2.1
  | unpublished action | brokenOff action | kept action | written action =>
    rw [action]
    exact iff_of_false nofun nofun
  | undeleted _ _ _ held =>
    refine iff_of_false nofun ?_
    rintro ⟨-, -, hnone, hseen⟩
    rcases held with hhidden | hdir | ⟨⟨content, hfile⟩, -⟩
    · exact hseen hhidden
    · cases hnone.symm.trans hdir
    · cases hnone.symm.trans hfile
  | absent action named nothing seen => exact iff_of_true rfl ⟨action, named, nothing, seen⟩
  | withdrawn _ _ file =>
    rw [file]
    exact iff_of_false nofun nofun

/-- Where the directory of pages is there, nothing is changed but the file that the ids name and the
directory of the store. -/
theorem find?_of_ne (h : DirectoryStep call t result after)
    (hforms : t.LeadsToDirectory formsDirectory) (hfile : here ≠ call.place t.workingDirectory)
    (hstore : here ≠
      Text.nameBytes call.storeId :: formsDirectory.locationFrom t.workingDirectory) :
    after.find? here = t.find? here := by
  rcases h.find?_elsewhere fun _ => hfile with hsame | ⟨named, hmade⟩
  · exact hsame
  · exact hmade.trans (FileFaults.find?_makeDirectories_child hforms named.1.2.2.1 hstore)

/-- A call leaves what is at the end of the path of another file, if that can be followed. -/
theorem locate_of_ne (h : DirectoryStep call t result after) {mine : DirectoryCall formsDirectory}
    (hnamed : mine.IsNamed) (hlocate : t.locate mine.path = .ok here)
    (hother : ¬ mine.SameBytes call) :
    after.locate mine.path = .ok here ∧ after.find? here = t.find? here := by
  have hplace : here = mine.place t.workingDirectory := by
    rw [← DirectoryCall.locationFrom_path hnamed]
    exact FileTree.locate_eq_ok hlocate
  refine ⟨h.keepsDirectories.locate hlocate, h.find?_of_ne
    (FileTree.leadsToDirectory_of_locate hlocate) ?_ ?_⟩
  · rw [hplace]
    exact mt DirectoryCall.place_eq_iff.mp hother
  · -- A file lies one level below the directory of a store.
    intro heq
    have hlength := congrArg List.length (hplace.symm.trans heq)
    simp [DirectoryCall.place] at hlength

end DirectoryStep

namespace DirectoryCall

variable {formsDirectory : Path} {call : DirectoryCall formsDirectory} {storage : Storage}

/-- A call is refused exactly if one of its ids cannot be a name, once its page has been hashed;
what is refused touches nothing.  Otherwise it touches the file that its ids name, and no file if it
fails, but that a part of the page stays if the system breaks its writing off.  Withdrawing answers
whether there was a file, unless the page is held or nobody can tell. -/
structure IsContained (call : DirectoryCall formsDirectory) (storage : Storage) : Prop where
  refused : (∃ id, (call.perform storage).1 = .error (.invalidSegment id)) ↔
    call.HasBytes ∧ ¬ call.IsNamed
  untouched : ¬ call.HasBytes ∨ ¬ call.IsNamed → (call.perform storage).2 = storage
  elsewhere : ∀ here, here ≠ call.place storage.files.workingDirectory →
    (call.perform storage).2.files.fileAt? here = storage.files.fileAt? here
  failed : ∀ e, (call.perform storage).1 = .error e → ∀ here,
    (call.perform storage).2.files.fileAt? here = storage.files.fileAt? here ∨
      call.IsBrokenOff ∧ ∃ html written, call.action = .publish html ∧
        (call.perform storage).2.files.fileAt? here =
          some ((Text.utf8 html).extract 0 written)
  found : (call.perform storage).1 = .ok (.withdrawn true) ↔
    call.action = .withdraw ∧ call.IsNamed ∧
      (∃ content, storage.files.atEnd? call.path = some (.file content)) ∧
      ¬ storage.files.IsHeld call.faults call.path
  gone : (call.perform storage).1 = .ok (.withdrawn true) →
    (call.perform storage).2.files.find? (call.place storage.files.workingDirectory) = none
  absent : (call.perform storage).1 = .ok (.withdrawn false) ↔
    call.action = .withdraw ∧ call.IsNamed ∧ storage.files.atEnd? call.path = none ∧
      ¬ call.faults.Hides storage.files call.path

/-- What is refused touches nothing. -/
theorem perform_of_refused (h : ¬ call.HasBytes ∨ ¬ call.IsNamed) :
    (call.perform storage).2 = storage := by
  by_cases hbytes : call.HasBytes
  · obtain ⟨id, heq⟩ := perform_of_not_named hbytes (h.resolve_left (not_not_intro hbytes)) storage
    rw [heq]
  · rw [perform_of_not_hasBytes hbytes]

/-- A call stays in its place. -/
theorem isContained (call : DirectoryCall formsDirectory) (storage : Storage) :
    call.IsContained storage where
  refused := (call.directoryStep storage).refused_iff
  untouched := perform_of_refused
  elsewhere _ hne := (call.directoryStep storage).fileAt?_of_ne fun _ => hne
  failed e he := by
    have hstep := call.directoryStep storage
    rw [he] at hstep
    exact hstep.fileAt?_of_error
  found := (call.directoryStep storage).found_iff
  gone hfound := by
    have hstep := call.directoryStep storage
    rw [hfound] at hstep
    exact hstep.gone
  absent := (call.directoryStep storage).absent_iff

/-! ## What a run of calls keeps -/

theorem run_cons (storage : Storage) (call : DirectoryCall formsDirectory)
    (rest : List (DirectoryCall formsDirectory)) :
    run storage (call :: rest) = run (call.perform storage).2 rest := rfl

/-- A run of calls touches no file but those that the ids of its calls name. -/
theorem fileAt?_run {calls : List (DirectoryCall formsDirectory)} {here : Location}
    (h : ∀ call ∈ calls, call.IsNamed → here ≠ call.place storage.files.workingDirectory) :
    (run storage calls).files.fileAt? here = storage.files.fileAt? here := by
  induction calls generalizing storage with
  | nil => rfl
  | cons call rest ih =>
    have hstep := call.directoryStep storage
    rw [run_cons, ih, hstep.fileAt?_of_ne (h call List.mem_cons_self)]
    rw [hstep.keepsDirectories.workingDirectory]
    exact fun other hother => h other (List.mem_cons_of_mem call hother)

/-- Calls about other files leave what is at the end of a path that can be followed. -/
theorem locate_run {calls : List (DirectoryCall formsDirectory)} {here : Location}
    (hnamed : call.IsNamed) (hlocate : storage.files.locate call.path = .ok here)
    (hothers : ∀ other ∈ calls, ¬ call.SameBytes other) :
    (run storage calls).files.locate call.path = .ok here ∧
      (run storage calls).files.find? here = storage.files.find? here := by
  induction calls generalizing storage with
  | nil => exact ⟨hlocate, rfl⟩
  | cons other rest ih =>
    obtain ⟨hlocate', hfind⟩ := (other.directoryStep storage).locate_of_ne hnamed hlocate
      (hothers other List.mem_cons_self)
    obtain ⟨hlast, hsame⟩ := ih hlocate' fun c hc => hothers c (List.mem_cons_of_mem other hc)
    exact ⟨hlast, hsame.trans hfind⟩

/-- After a page has been published its file is there. -/
theorem exists_locate_of_published {answer : PageAnswer} {html : String}
    (haction : call.action = .publish html) (hok : (call.perform storage).1 = .ok answer) :
    call.IsNamed ∧ ∃ here content, (call.perform storage).2.files.locate call.path = .ok here ∧
      (call.perform storage).2.files.find? here = some (.file content) := by
  have hstep := call.directoryStep storage
  rw [hok] at hstep
  generalize (call.perform storage).2.files = after at hstep
  cases hstep with
  | kept _ named file =>
    obtain ⟨here, hlocate, hfile⟩ := FileTree.exists_locate_of_atEnd? file
    exact ⟨named, here, _, hlocate, hfile⟩
  | written _ named write =>
    obtain ⟨here, hlocate, hfile⟩ := FileTree.read_eq_ok.mp (FileTree.read_write write)
    exact ⟨named, here, _, hlocate, hfile⟩
  | absent action | withdrawn action =>
    rw [haction] at action
    cases action

/-- Once a page has been published it can be withdrawn once if that meets no faults, whatever is
done about other files in the meantime. -/
def IsWithdrawnOnce (call : DirectoryCall formsDirectory) (storage : Storage) : Prop :=
  ∀ html answer, call.action = .publish html → (call.perform storage).1 = .ok answer →
    ∀ first second : DirectoryCall formsDirectory, first.action = .withdraw →
      second.action = .withdraw → first.SameForm call → second.SameForm call →
      first.faults = {} → second.faults = {} →
      ∀ between later : List (DirectoryCall formsDirectory),
        (∀ other ∈ between ++ later, ¬ call.SameBytes other) →
        let published := run (call.perform storage).2 between
        let left := run (first.perform published).2 later
        (first.perform published).1 = .ok (.withdrawn true) ∧
          (second.perform left).1 = .ok (.withdrawn false)

theorem SameForm.path_eq {other : DirectoryCall formsDirectory} (h : call.SameForm other) :
    call.path = other.path := by
  rw [path, path, h.1, h.2]

theorem SameForm.isNamed {other : DirectoryCall formsDirectory} (h : call.SameForm other)
    (hnamed : other.IsNamed) : call.IsNamed := by
  rw [IsNamed, h.1, h.2]
  exact hnamed

theorem isWithdrawnOnce (call : DirectoryCall formsDirectory) (storage : Storage) :
    call.IsWithdrawnOnce storage := by
  intro html answer haction hok first second hfirst hsecond hfirstForm hsecondForm hfirstFaults
    hsecondFaults between later hothers published left
  obtain ⟨hnamed, here, content, hlocate, hfile⟩ := exists_locate_of_published haction hok
  obtain ⟨hlocate', hfile'⟩ := locate_run hnamed hlocate fun other hother =>
    hothers other (List.mem_append_left later hother)
  rw [hfile] at hfile'
  rw [← hfirstForm.path_eq] at hlocate'
  have hend := (FileTree.atEnd?_of_locate hlocate').trans hfile'
  have hfound : (first.perform published).1 = .ok (.withdrawn true) :=
    (first.directoryStep published).found_iff.mpr ⟨hfirst, hfirstForm.isNamed hnamed,
      ⟨content, hend⟩, by rw [hfirstFaults]; exact FileTree.not_isHeld hend⟩
  refine ⟨hfound, ?_⟩
  have hgone : (first.perform published).2.files.locate first.path = .ok here ∧
      (first.perform published).2.files.find? here = none := by
    have hstep := first.directoryStep published
    rw [hfound] at hstep
    exact hstep.locate_withdrawn hlocate'
  rw [hfirstForm.path_eq] at hgone
  obtain ⟨hlast, hnone⟩ := locate_run hnamed hgone.1 fun other hother =>
    hothers other (List.mem_append_right between hother)
  rw [hgone.2] at hnone
  rw [← hsecondForm.path_eq] at hlast
  refine (second.directoryStep left).absent_iff.mpr ⟨hsecond, hsecondForm.isNamed hnamed,
    (FileTree.atEnd?_of_locate hlast).trans hnone, ?_⟩
  rw [hsecondFaults]
  exact FileFaults.not_hides hlast

end DirectoryCall

/-- Whatever the calls, the files and the faults are, each call stays in its place, forms have the
same place exactly if their names have the same bytes, and different ones of characters never, a run
of calls touches no file outside the places of its calls, and what was published can be withdrawn
once. -/
theorem directory_contained (formsDirectory : Path) :
    (∀ (call : DirectoryCall formsDirectory) (storage : Storage), call.IsContained storage) ∧
    (∀ (call other : DirectoryCall formsDirectory) (workingDirectory : Location),
      (call.place workingDirectory = other.place workingDirectory ↔ call.SameBytes other) ∧
      (call.SameBytes other → call.IsPlain → other.IsPlain → call.SameForm other)) ∧
    (∀ (storage : Storage) (calls : List (DirectoryCall formsDirectory)) (here : Location),
      (∀ call ∈ calls, call.IsNamed → here ≠ call.place storage.files.workingDirectory) →
        (DirectoryCall.run storage calls).files.fileAt? here = storage.files.fileAt? here) ∧
    ∀ (call : DirectoryCall formsDirectory) (storage : Storage), call.IsWithdrawnOnce storage :=
  ⟨DirectoryCall.isContained,
    fun _ _ _ => ⟨DirectoryCall.place_eq_iff, DirectoryCall.SameBytes.sameForm⟩,
    fun _ _ _ => DirectoryCall.fileAt?_run, DirectoryCall.isWithdrawnOnce⟩

/-- A call about a form whose page is kept in the directory `forms`. -/
def callHere (storeId formId : String) (action : PageAction) :
    DirectoryCall formsHere.formsDirectory where
  settings := formsHere
  faults := {}
  storeId := storeId
  formId := formId
  action := action
  inDirectory := by decide +kernel
  sameDirectory := rfl

/-- The storage in which the page of the form `f` of the store `s` has been published, and after it
that of another form. -/
def twoPages : Storage :=
  DirectoryCall.run ((callHere "s" "f" (.publish "x")).perform sampleStart).2
    [callHere "s" "g" (.publish "y")]

/-- Leaving the directory of pages is refused, and one of two published pages is withdrawn once. -/
theorem directory_contained_twoPages :
    ((callHere ".." "f" .withdraw).perform twoPages).2 = twoPages ∧
      ((callHere "s" "f" .withdraw).perform twoPages).1 = .ok (.withdrawn true) ∧
      ((callHere "s" "f" .withdraw).perform
        ((callHere "s" "f" .withdraw).perform twoPages).2).1 = .ok (.withdrawn false) := by
  obtain ⟨hcontained, -, -, honce⟩ := directory_contained formsHere.formsDirectory
  have hunnamed : ¬ (callHere ".." "f" .withdraw).IsNamed := fun hnamed => hnamed.1.2.2.1 rfl
  have hdone : ((callHere "s" "f" (.publish "x")).perform sampleStart).1.isOk = true := by
    decide +kernel
  obtain ⟨answer, hok⟩ : ∃ answer,
      ((callHere "s" "f" (.publish "x")).perform sampleStart).1 = .ok answer := by
    cases hresult : ((callHere "s" "f" (.publish "x")).perform sampleStart).1 with
    | error e =>
      rw [hresult] at hdone
      cases hdone
    | ok answer => exact ⟨answer, rfl⟩
  have hbytes : Text.nameBytes ("f" ++ ".html") ≠ Text.nameBytes ("g" ++ ".html") := by
    decide +kernel
  have hother : ∀ other ∈ [callHere "s" "g" (.publish "y")] ++ [],
      ¬ (callHere "s" "f" (.publish "x")).SameBytes other := by
    simpa [callHere, DirectoryCall.SameBytes] using hbytes
  exact ⟨(hcontained _ _).untouched (Or.inr hunnamed), honce _ _ "x" answer rfl hok
    (callHere "s" "f" .withdraw) (callHere "s" "f" .withdraw) rfl rfl ⟨rfl, rfl⟩ ⟨rfl, rfl⟩
    rfl rfl [callHere "s" "g" (.publish "y")] [] hother⟩

section
variable {formsDirectory : Path} {files : FileTree} {storage : Storage}
  {call : DirectoryCall formsDirectory} {here : Location}

/-- Where its store has a directory, a page whose name is too long cannot be looked at. -/
theorem DirectoryCall.locate_path_of_long
    (hlocate : files.locate (formsDirectory.child call.storeId) = .ok here)
    (hdir : files.find? here = some .directory) (hpath : call.path.obstacle? = none)
    (hlong : maxNameBytes < Text.length (call.formId ++ ".html")) :
    files.locate call.path = .error .nameTooLong :=
  FileTree.locate_child_of_long hlocate hdir hpath call.fileName_ne_up hlong

/-- Nor can it be withdrawn, not even to learn that there is none. -/
theorem DirectoryCall.perform_withdraw_of_long (haction : call.action = .withdraw)
    (hnamed : call.IsNamed) (hfaults : call.faults = {})
    (hlocate : storage.files.locate (formsDirectory.child call.storeId) = .ok here)
    (hdir : storage.files.find? here = some .directory) (hpath : call.path.obstacle? = none)
    (hlong : maxNameBytes < Text.length (call.formId ++ ".html")) :
    (call.perform storage).1 = .error (.unusable .nameTooLong) := by
  have hlocate' := DirectoryCall.locate_path_of_long hlocate hdir hpath hlong
  simp only [perform, haction, Settings.withdraw, call.inDirectory, Settings.withdrawFile,
    pagePath?_of_named hnamed, FileTree.withdraw, FileFaults.exists?, FileFaults.meet_none,
    FileTree.exists?, hlocate', hfaults]
  rfl

end

/-- An id of so many letters. -/
def letters (n : Nat) : String := String.ofList (List.replicate n 'x')

theorem eq_of_mem_letters {n : Nat} {c : Char} (h : c ∈ (letters n).toList) : c = 'x' := by
  rw [letters, String.toList_ofList] at h
  exact List.eq_of_mem_replicate h

theorem not_mem_fileName {n : Nat} {c : Char} (hletter : c ≠ 'x') (hending : c ∉ ".html".toList) :
    c ∉ (letters n ++ ".html").toList := by
  rw [String.toList_append, List.mem_append, not_or]
  exact ⟨mt eq_of_mem_letters hletter, hending⟩

theorem nameBytes_letters (n : Nat) :
    Text.nameBytes (letters n ++ ".html") =
      List.replicate n 120 ++ ".html".toList.flatMap String.utf8EncodeChar := by
  have hletter : String.utf8EncodeChar 'x' = [120] := by decide
  rw [Text.nameBytes_of_not_mem (not_mem_fileName (by decide) (by decide)), String.toList_append,
    List.flatMap_append, letters, String.toList_ofList, List.flatMap_replicate, hletter,
    List.flatten_replicate_singleton]

theorem length_letters (n : Nat) : Text.length (letters n ++ ".html") = n + 5 := by
  have hmark : Text.mark ∉ (letters n ++ ".html").toList :=
    not_mem_fileName (by decide) (by decide)
  rw [Text.length, Text.codes_eq_unspell, Text.unspell_of_not_mem hmark, List.length_map,
    String.toList_append, List.length_append, letters, String.toList_ofList, List.length_replicate]
  rfl

theorem canBeName_letters (n : Nat) (h : n ≠ 0) : CanBeName (letters n) := by
  have hmem : 'x' ∈ (letters n).toList := by simp [letters, h]
  have hne {s : String} (hs : 'x' ∉ s.toList) : letters n ≠ s := by
    rintro rfl
    exact hs hmem
  exact ⟨hne (by decide), hne (by decide), hne (by decide), mt eq_of_mem_letters (by decide),
    mt eq_of_mem_letters (by decide)⟩

/-- Withdrawing the page of a form whose id is too long for the name of a file. -/
def withdrawLong : DirectoryCall formsHere.formsDirectory :=
  callHere "s" (letters 300) .withdraw

theorem obstacle?_withdrawLong : withdrawLong.path.obstacle? = none :=
  FileTree.obstacle?_child (by decide +kernel) (not_mem_fileName (by decide) (by decide))
    (Text.hasNameBytes_of_not_mem (not_mem_fileName (by decide) (by decide)))

/-- Withdrawing a page of a form whose id is the letter `あ`, or three surrogates with its bytes. -/
def withdrawSpelled (surrogates : Bool) : DirectoryCall formsHere.formsDirectory :=
  callHere "s" (if surrogates then Text.ofCodes [0xDCE3, 0xDC81, 0xDC82] else "あ") .withdraw

/-- Withdrawing a page whose name is too long fails, though there is nothing at its place; and
different forms, both with good names, have one place. -/
theorem directory_not_contained :
    twoPages.files.find? (withdrawLong.place twoPages.files.workingDirectory) = none ∧
      (withdrawLong.perform twoPages).1 = .error (.unusable .nameTooLong) ∧
      (withdrawSpelled true).IsNamed ∧ (withdrawSpelled false).IsNamed ∧
      ¬ (withdrawSpelled true).SameForm (withdrawSpelled false) ∧
      (withdrawSpelled true).place twoPages.files.workingDirectory =
        (withdrawSpelled false).place twoPages.files.workingDirectory := by
  have hnamed : withdrawLong.IsNamed :=
    ⟨isSegment_iff.mp (by decide +kernel), canBeName_letters 300 (by decide)⟩
  have hlocate : twoPages.files.locate (formsHere.formsDirectory.child "s") =
      .ok [Text.nameBytes "s", Text.nameBytes "forms"] := by
    decide +kernel
  have hlong : maxNameBytes < Text.length (letters 300 ++ ".html") := by
    rw [length_letters, maxNameBytes]
    decide
  have hnothing : twoPages.files.find? (withdrawLong.place twoPages.files.workingDirectory) =
      none := by
    rw [DirectoryCall.place, withdrawLong, callHere, nameBytes_letters]
    decide +kernel
  have hlocated := DirectoryCall.perform_withdraw_of_long rfl hnamed rfl hlocate
    (by decide +kernel) obstacle?_withdrawLong hlong
  have hspelled (surrogates : Bool) : (withdrawSpelled surrogates).IsNamed := by
    cases surrogates <;>
      exact ⟨isSegment_iff.mp (by decide +kernel), isSegment_iff.mp (by decide +kernel)⟩
  refine ⟨hnothing, hlocated, hspelled true, hspelled false, ?_, by decide +kernel⟩
  rintro ⟨-, hforms⟩
  revert hforms
  decide +kernel

end SalonBooking
