import SalonBooking.Proofs.Storage.FileFaults
import SalonBooking.Proofs.Text.Lines
import SalonBooking.Publish.Publisher

/-!
# Pages in a directory

A page that is published into a directory is written as it is, but what is there
is read with unified line ends before it is compared.  So a page with a `\r` is
never found unchanged and is written every time, and a page without one passes
for unchanged where the same page lies with other line ends.  Apart from `\r`
the file holds the page and publishing it again changes nothing.
-/

namespace SalonBooking

namespace FileTree

variable {t after : FileTree} {faults : FileFaults} {path : Path} {html : String}

/-- What is read at the end of a path, in bytes, if there is a text. -/
def textsAt (t : FileTree) (path : Path) : List ByteArray :=
  match t.readText path with
  | .ok text => [Text.utf8 text]
  | .error _ => []

/-- A text is read with unified line ends. -/
theorem readText_of_read {stored : String} (h : t.read path = .ok stored.toUTF8) :
    t.readText path = .ok (Text.unifyLineEnds (Text.ofPlain stored)) := by
  simp only [readText, h, bind, Except.bind, Text.fromUTF8?_toUTF8]

/-- What is read as a text is the bytes of one. -/
theorem exists_read_of_readText {text : String} (h : t.readText path = .ok text) :
    ∃ stored : String, t.read path = .ok stored.toUTF8 := by
  unfold readText at h
  cases hread : t.read path with
  | error e =>
    rw [hread] at h
    cases h
  | ok content =>
    rw [hread] at h
    cases hdecoded : String.fromUTF8? content with
    | none =>
      simp only [bind, Except.bind, hdecoded] at h
      cases h
    | some stored => exact ⟨stored, by rw [Text.toUTF8_of_fromUTF8? hdecoded]⟩

/-- A file that holds a text is taken for a page if its text with unified line ends has the hash of
the page. -/
theorem holdsPage_of_read {stored : String} (h : t.read path = .ok stored.toUTF8) :
    t.holdsPage {} path html =
      .ok (Sha256.hash (Text.unifyLineEnds stored).toUTF8 == contentHash html) := by
  obtain ⟨here, hlocate, hfile⟩ := read_eq_ok.mp h
  have hexists : t.exists? path = .ok true := by
    rw [exists?, hlocate]
    simp [hfile]
  simp only [holdsPage, FileFaults.exists?, FileFaults.readText, FileFaults.meet_none, hexists,
    readText_of_read h, contentHash, Text.utf8_unifyLineEnds_ofPlain]

/-- What is found in spite of possible faults is found without them. -/
theorem holdsPage_eq_ok {found : Bool} (h : t.holdsPage faults path html = .ok found) :
    t.holdsPage {} path html = .ok found := by
  simp only [holdsPage, FileFaults.exists?, FileFaults.readText, FileFaults.meet_none] at h ⊢
  split at h
  · cases h
  · rename_i habsent
    rw [FileFaults.meet_eq_ok habsent]
    exact h
  · rename_i hexists
    rw [FileFaults.meet_eq_ok hexists]
    split at h
    · cases h
    · rename_i hread
      rw [FileFaults.meet_eq_ok hread]
      exact h

/-- What is taken for a page is a file that holds a text. -/
theorem exists_read_of_holdsPage (h : t.holdsPage faults path html = .ok true) :
    ∃ stored : String, t.read path = .ok stored.toUTF8 := by
  unfold holdsPage at h
  split at h
  · cases h
  · cases h
  · split at h
    · cases h
    · exact exists_read_of_readText (FileFaults.meet_eq_ok ‹_›)

theorem writePage_eq_ok (h : t.writePage faults path html = (.ok (), after)) :
    ∃ made : FileTree, made.isDirectory path.parent = true ∧
      made.write path (Text.utf8 html) = .ok after := by
  unfold writePage at h
  split at h
  · cases (Prod.mk.inj h).1
  · rename_i made hmade
    split at h
    · cases (Prod.mk.inj h).1
    · rename_i hwrite
      exact ⟨made, FileFaults.isDirectory_of_makeDirectories hmade,
        FileFaults.write_eq_ok ((Prod.mk.inj h).2 ▸ hwrite)⟩

/-- Publishing finds a text with the hash of the page, or writes the page into its directory. -/
theorem publish_eq_ok {unchanged : Bool} (h : t.publish faults path html = (.ok unchanged, after)) :
    (unchanged = true ∧ after = t ∧ ∃ stored : String, t.read path = .ok stored.toUTF8 ∧
      Sha256.hash (Text.unifyLineEnds stored).toUTF8 = contentHash html) ∨
    unchanged = false ∧ ∃ made : FileTree, made.isDirectory path.parent = true ∧
      made.write path (Text.utf8 html) = .ok after := by
  unfold publish at h
  split at h
  · cases (Prod.mk.inj h).1
  · rename_i hholds
    obtain ⟨hunchanged, rfl⟩ := Prod.mk.inj h
    obtain ⟨stored, hread⟩ := exists_read_of_holdsPage hholds
    have hholds := holdsPage_eq_ok hholds
    rw [holdsPage_of_read hread] at hholds
    exact Or.inl ⟨(Except.ok.inj hunchanged).symm, rfl, stored, hread,
      beq_iff_eq.mp (Except.ok.inj hholds)⟩
  · split at h
    · cases (Prod.mk.inj h).1
    · rename_i written hwrite
      obtain ⟨hunchanged, rfl⟩ := Prod.mk.inj h
      exact Or.inr ⟨(Except.ok.inj hunchanged).symm, writePage_eq_ok hwrite⟩

theorem publish_of_same {stored : String} (h : t.read path = .ok stored.toUTF8)
    (hsame : Sha256.hash (Text.unifyLineEnds stored).toUTF8 = contentHash html) :
    t.publish {} path html = (.ok true, t) := by
  rw [publish, holdsPage_of_read h, beq_iff_eq.mpr hsame]

/-- A page that differs from what can be read is written. -/
theorem publish_of_different {stored : String} (h : t.read path = .ok stored.toUTF8)
    (hdirectory : t.isDirectory path.parent = true)
    (hdifferent : Sha256.hash (Text.unifyLineEnds stored).toUTF8 ≠ contentHash html) :
    ∃ after, t.publish {} path html = (.ok false, after) := by
  obtain ⟨after, hwrite⟩ := exists_write h (Text.utf8 html)
  rw [publish, holdsPage_of_read h, beq_false_of_ne hdifferent, writePage,
    FileFaults.makeDirectories_of_isDirectory hdirectory]
  have hwritten : FileFaults.write {} t path (Text.utf8 html) = (.ok (), after) :=
    FileFaults.write_of_ok rfl hwrite
  simp only [hwritten]
  exact ⟨after, rfl⟩

/-- Hashes that tell texts apart tell whether a text with unified line ends is the page. -/
theorem hash_eq_contentHash {messages : List ByteArray} (h : Sha256.NoCollision messages)
    {stored : String} (hstored : (Text.unifyLineEnds stored).toUTF8 ∈ messages)
    (hhtml : Text.utf8 html ∈ messages) :
    Sha256.hash (Text.unifyLineEnds stored).toUTF8 = contentHash html ↔
      Text.unifyLineEnds stored = Text.plain html := by
  constructor
  · intro hsame
    exact String.toByteArray_inj.mp (h _ hstored _ hhtml hsame)
  · intro hsame
    rw [hsame]
    rfl

/-- What the file of a published page holds: the page itself, or the same page with other line ends
that was found there.  Published once more, it is found unchanged unless there is a `\r` in it. -/
theorem publish_faithful {unchanged : Bool}
    (h : t.publish faults path html = (.ok unchanged, after))
    (hcollision : Sha256.NoCollision
      (t.textsAt path ++ [Text.utf8 html, (Text.unifyLineEnds (Text.plain html)).toUTF8])) :
    ∃ stored : String, after.read path = .ok stored.toUTF8 ∧
      (stored = Text.plain html ∨ unchanged = true ∧ '\r' ∈ stored.toList ∧
        Text.unifyLineEnds stored = Text.plain html) ∧
      (unchanged = true → after = t) ∧
      ∃ again last, after.publish {} path html = (.ok again, last) ∧
        (again = true ↔ '\r' ∉ (Text.plain html).toList) ∧ (again = true → last = after) := by
  rcases publish_eq_ok h with ⟨hunchanged, rfl, stored, hread, hhash⟩ |
    ⟨hunchanged, made, hdirectory, hwrite⟩
  · have hsame : Text.unifyLineEnds stored = Text.plain html := by
      refine (hash_eq_contentHash hcollision ?_ (by simp)).mp hhash
      rw [textsAt, readText_of_read hread]
      simp [Text.utf8_unifyLineEnds_ofPlain]
    have hreturn : '\r' ∉ (Text.plain html).toList := by
      rw [← hsame]
      exact Text.notMem_unifyLineEnds stored
    refine ⟨stored, hread, ?_, fun _ => rfl, true, after, publish_of_same hread hhash,
      iff_of_true rfl hreturn, fun _ => rfl⟩
    by_cases hends : '\r' ∈ stored.toList
    · exact Or.inr ⟨hunchanged, hends, hsame⟩
    · exact Or.inl ((Text.unifyLineEnds_eq_self.mpr hends).symm.trans hsame)
  · have hread : after.read path = .ok (Text.plain html).toUTF8 := read_write hwrite
    have hsame_iff : Sha256.hash (Text.unifyLineEnds (Text.plain html)).toUTF8 = contentHash html ↔
        '\r' ∉ (Text.plain html).toList :=
      (hash_eq_contentHash hcollision (by simp) (by simp)).trans Text.unifyLineEnds_eq_self
    refine ⟨Text.plain html, hread, Or.inl rfl, by simp [hunchanged], ?_⟩
    by_cases hhash : Sha256.hash (Text.unifyLineEnds (Text.plain html)).toUTF8 = contentHash html
    · exact ⟨true, after, publish_of_same hread hhash, iff_of_true rfl (hsame_iff.mp hhash),
        fun _ => rfl⟩
    · have hkept : after.isDirectory path.parent = true :=
        (keepsDirectories_of_write hwrite).isDirectory hdirectory
      obtain ⟨last, hlast⟩ := publish_of_different hread hkept hhash
      exact ⟨false, last, hlast, iff_of_false Bool.false_ne_true (mt hsame_iff.mpr hhash),
        fun hfalse => absurd hfalse Bool.false_ne_true⟩

end FileTree

namespace Settings

variable {settings : Settings} {faults : Faults} {storeId formId html : String}
  {storage after : Storage}

theorem eq_of_pagePath? {path : Path} (h : settings.pagePath? storeId formId = .ok path) :
    path = settings.pagePath storeId formId := by
  unfold pagePath? at h
  split at h
  · cases h
  · split at h
    · cases h
    · exact (Except.ok.inj h).symm

/-- A page that is published into a directory has bytes, its ids can be names, and it is published
at its path. -/
theorem publish_directory_eq_ok (htarget : settings.target = .directory)
    {publication : Publication}
    (h : settings.publish faults storeId formId html storage = (.ok publication, after)) :
    Text.isWritable html = true ∧
      settings.pagePath? storeId formId = .ok (settings.pagePath storeId formId) ∧
      storage.files.publish faults.files (settings.pagePath storeId formId) html =
        (.ok publication.unchanged, after.files) := by
  unfold publish at h
  split at h
  · cases (Prod.mk.inj h).1
  · rename_i hwritable
    simp only [htarget] at h
    unfold publishFile at h
    split at h
    · cases (Prod.mk.inj h).1
    · rename_i path hpath
      obtain rfl := eq_of_pagePath? hpath
      split at h
      · cases (Prod.mk.inj h).1
      · rename_i unchanged files hpublish
        obtain ⟨hresult, rfl⟩ := Prod.mk.inj h
        obtain rfl := Except.ok.inj hresult
        exact ⟨by simpa using hwritable, hpath, hpublish⟩

/-- A page that has bytes and whose ids can be names is published if that is possible at its
path. -/
theorem publish_directory (faults : Faults) (htarget : settings.target = .directory)
    (hwritable : Text.isWritable html = true)
    (hpath : settings.pagePath? storeId formId = .ok (settings.pagePath storeId formId))
    {unchanged : Bool} {files : FileTree}
    (h : storage.files.publish faults.files (settings.pagePath storeId formId) html =
      (.ok unchanged, files)) :
    ∃ publication after, settings.publish faults storeId formId html storage =
      (.ok publication, after) ∧ publication.unchanged = unchanged ∧ after.files = files := by
  simp only [publish, hwritable, Bool.not_true, Bool.false_eq_true, if_false, htarget, publishFile,
    hpath, h]
  exact ⟨_, _, rfl, rfl, rfl⟩

end Settings

/-- After a page has been published into a directory its file holds the page in bytes, unless it was
found unchanged: then nothing was written, and the file may hold the page with `\r` in its line
ends.  Publishing it at once again, with no fault of the files, succeeds, and finds it unchanged and
writes nothing exactly if there is no `\r` in the page. -/
theorem directory_faithful {settings : Settings} (htarget : settings.target = .directory)
    {faults : Faults} {again : StoreFaults} {storeId formId html : String}
    {storage after : Storage} {publication : Publication}
    (hok : settings.publish faults storeId formId html storage = (.ok publication, after))
    (hcollision : Sha256.NoCollision (storage.files.textsAt (settings.pagePath storeId formId) ++
      [Text.utf8 html, (Text.unifyLineEnds (Text.plain html)).toUTF8])) :
    (∃ stored : String,
      after.files.read (settings.pagePath storeId formId) = .ok stored.toUTF8 ∧
      (stored.toUTF8 = Text.utf8 html ∨ publication.unchanged = true ∧ '\r' ∈ stored.toList ∧
        Text.unifyLineEnds stored = Text.plain html)) ∧
    (publication.unchanged = true → after.files = storage.files) ∧
    ∃ second last, settings.publish { store := again } storeId formId html after =
      (.ok second, last) ∧
      (second.unchanged = true ↔ '\r' ∉ (Text.plain html).toList) ∧
      (second.unchanged = true → last.files = after.files) := by
  obtain ⟨hwritable, hpath, hpublish⟩ := Settings.publish_directory_eq_ok htarget hok
  obtain ⟨stored, hread, hstored, hunchanged, found, files, hagain, hfound, hkept⟩ :=
    FileTree.publish_faithful hpublish hcollision
  obtain ⟨second, last, hsecond, rfl, rfl⟩ :=
    Settings.publish_directory ⟨again, {}⟩ htarget hwritable hpath hagain
  refine ⟨⟨stored, hread, hstored.imp_left ?_⟩, hunchanged, second, last, hsecond, hfound, hkept⟩
  rintro rfl
  rfl

/-- Settings under which pages are published into the directory `forms`. -/
def formsHere : Settings :=
  { Settings.ofEnvironment [] with formsDirectory := ⟨false, ["forms"]⟩ }

/-- Publishing a page of the form `f` of the store `s`. -/
def publishHere (html : String) (storage : Storage) : Outcome Publication :=
  formsHere.publish {} "s" "f" html storage

/-- The storage in which one page has been published and nothing else. -/
def storageWith (html : String) : Storage :=
  (publishHere html ⟨FileTree.root, [], [], []⟩).2

/-- A page with `\r` is written over the same page with other line ends, and is not found unchanged
afterwards. -/
theorem directory_faithful_return :
    ∃ publication after, publishHere "a\rb" (storageWith "a\r\nb") = (.ok publication, after) ∧
      after.files.read (formsHere.pagePath "s" "f") = .ok (Text.utf8 "a\rb") ∧
      ∃ second last, publishHere "a\rb" after = (.ok second, last) ∧ second.unchanged = false := by
  obtain ⟨publication, after, hok⟩ : ∃ publication after,
      publishHere "a\rb" (storageWith "a\r\nb") = (.ok publication, after) := by
    have hsome : (publishHere "a\rb" (storageWith "a\r\nb")).1.isOk = true := by decide +kernel
    generalize publishHere "a\rb" (storageWith "a\r\nb") = outcome at hsome
    obtain ⟨_ | publication, after⟩ := outcome
    · cases hsome
    · exact ⟨publication, after, rfl⟩
  have hcollision : Sha256.NoCollision
      ((storageWith "a\r\nb").files.textsAt (formsHere.pagePath "s" "f") ++
        [Text.utf8 "a\rb", (Text.unifyLineEnds (Text.plain "a\rb")).toUTF8]) := by
    have hdiffer : Sha256.hash "a\nb".toUTF8 ≠ Sha256.hash "a\rb".toUTF8 := by decide +kernel
    have htexts : (storageWith "a\r\nb").files.textsAt (formsHere.pagePath "s" "f") ++
        [Text.utf8 "a\rb", (Text.unifyLineEnds (Text.plain "a\rb")).toUTF8] =
        ["a\nb".toUTF8, "a\rb".toUTF8, "a\nb".toUTF8] := by decide +kernel
    rw [htexts]
    exact Sha256.noCollision_of_ne hdiffer (by simp)
  have hreturn : '\r' ∈ (Text.plain "a\rb").toList := by decide +kernel
  obtain ⟨⟨stored, hread, hstored⟩, -, second, last, hsecond, hfound, -⟩ :=
    directory_faithful (by decide +kernel) hok hcollision
  refine ⟨publication, after, hok, ?_, second, last, hsecond, ?_⟩
  · rcases hstored with hsame | ⟨-, -, hsame⟩
    · rw [hread, hsame]
    · rw [← hsame] at hreturn
      exact absurd hreturn (Text.notMem_unifyLineEnds stored)
  · exact Bool.eq_false_iff.mpr fun htrue => hfound.mp htrue hreturn

/-- Whether a page is found unchanged where another one was published before, and what is in its
file then. -/
def publishAfter (before html : String) : Option Bool × Option ByteArray :=
  let (result, after) := publishHere html (storageWith before)
  (result.toOption.map Publication.unchanged,
    (after.files.read (formsHere.pagePath "s" "f")).toOption)

/-- A page that was published is not found unchanged if there is a `\r` in it, and a page that was
not published is if the other one differs in its line ends; then its file holds the other. -/
theorem directory_not_faithful :
    (publishAfter "a\rb" "a\rb").1 = some false ∧
      publishAfter "a\r\nb" "a\nb" = (some true, some (Text.utf8 "a\r\nb")) := by
  decide +kernel

end SalonBooking
