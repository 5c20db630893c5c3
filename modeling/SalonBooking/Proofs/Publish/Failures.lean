import SalonBooking.Proofs.Form.Refused
import SalonBooking.Proofs.Page.Readable
import SalonBooking.Proofs.Publish.Containment
import SalonBooking.Proofs.Service.Endpoint
import SalonBooking.Service.Answer

/-!
# Failures of the storage

An operation on the storage that fails is to say so by an error that is told to
the one who asked.  A directory of pages keeps two failures to itself: nobody
looks whether a page is there, because a name is too long or the system refuses
it, and what is in the place of a page is not read, because it is a directory or
the system refuses it.  A bucket keeps to itself that there is no client for it,
if that is no error of a value; withdrawing tells that too if it is an error of the
library.

The service answers with a report, a JSON body of status 200, 400 or 500,
exactly where the error of the storage is told, the error of the configuration
has a text, and the report can be written.

* `FileTree.escapes_publish_iff`, `FileTree.escapes_withdraw_iff`: the errors that
  are not told, at a path.
* `Settings.escapes_publish_iff`, `Settings.escapes_withdraw_iff`: under all settings.
* `failures_reported_iff`: and what the service then answers.
* `failures_not_reported`: a directory in the place of a page.
-/

namespace SalonBooking

/-- A result is an error that is not told to the one who asked. -/
def Escapes {α : Type} (result : Except PublishError α) : Prop :=
  ∃ e, result = .error e ∧ e.isReported = false

@[simp] theorem escapes_ok {α : Type} (a : α) : ¬ Escapes (.ok a : Except PublishError α) := by
  rintro ⟨e, h, -⟩
  cases h

@[simp] theorem escapes_error_iff {α : Type} {e : PublishError} :
    Escapes (.error e : Except PublishError α) ↔ e.isReported = false :=
  ⟨fun ⟨_, h, he⟩ => Except.error.inj h ▸ he, fun he => ⟨e, rfl, he⟩⟩

/-! ## Pages in a directory -/

namespace FileTree

variable {t : FileTree} {faults : FileFaults} {path : Path}

/-- What is in the place of a page is not read: it is a directory, or a file that the system refuses
to read. -/
def IsUnreadable (t : FileTree) (faults : FileFaults) (path : Path) : Prop :=
  t.atEnd? path = some .directory ∨
    (∃ content, t.atEnd? path = some (.file content)) ∧
      ∃ reason, faults.reading t path = some reason

/-- What hides the end of a path is not told. -/
theorem isReported_of_hides (h : faults.Hides t path) :
    ∃ e, faults.exists? t path = .error e ∧ (PublishError.unusable e).isReported = false := by
  obtain ⟨e, hexists, rfl | ⟨reason, rfl⟩⟩ := FileFaults.exists?_of_hides h <;>
    exact ⟨_, hexists, rfl⟩

/-- Reading what is at the end of a path fails in a way that is not told exactly where it is
unreadable. -/
theorem readText_escapes_iff {entry : Entry} (h : t.atEnd? path = some entry) :
    (∃ e, faults.readText t path = .error e ∧ (PublishError.unusable e).isReported = false) ↔
      t.IsUnreadable faults path := by
  obtain ⟨here, hlocate, hfound⟩ := exists_locate_of_atEnd? h
  have hobstacle := obstacle?_of_locate hlocate
  cases hfault : faults.reading t path with
  | some reason =>
    refine iff_of_true ⟨.fault reason, ?_, rfl⟩ ?_
    · rw [FileFaults.readText, hfault, FileFaults.meet_some hobstacle]
    · cases entry with
      | directory => exact Or.inl h
      | file content => exact Or.inr ⟨⟨content, h⟩, reason, hfault⟩
  | none =>
    cases entry with
    | directory =>
      refine iff_of_true ⟨.isADirectory, ?_, rfl⟩ (Or.inl h)
      simp [FileFaults.readText, hfault, readText, read, bind, Except.bind, hlocate, hfound]
    | file content =>
      have hreadable : ¬ t.IsUnreadable faults path := by
        rintro (hdir | ⟨-, reason, hrefused⟩)
        · cases h.symm.trans hdir
        · cases hfault.symm.trans hrefused
      refine iff_of_false ?_ hreadable
      rintro ⟨e, hread, hunreported⟩
      cases hdecoded : String.fromUTF8? content with
      | none =>
        simp [FileFaults.readText, hfault, readText, read, bind, Except.bind, hlocate, hfound,
          hdecoded] at hread
        subst hread
        cases hunreported
      | some text =>
        simp [FileFaults.readText, hfault, readText, read, bind, Except.bind, hlocate, hfound,
          hdecoded] at hread

/-- Looking for a page fails in a way that is not told exactly where its place is hidden or
unreadable. -/
theorem holdsPage_escapes_iff (html : String) :
    (∃ e, t.holdsPage faults path html = .error e ∧
      (PublishError.unusable e).isReported = false) ↔
      faults.Hides t path ∨ t.IsUnreadable faults path := by
  by_cases hhides : faults.Hides t path
  · obtain ⟨e, hexists, hunreported⟩ := isReported_of_hides hhides
    exact iff_of_true ⟨e, by rw [holdsPage, hexists], hunreported⟩ (Or.inl hhides)
  · have hexists := FileFaults.exists?_of_not_hides hhides
    rw [or_iff_right hhides]
    cases hend : t.atEnd? path with
    | none =>
      rw [hend] at hexists
      refine iff_of_false ?_ (by simp [IsUnreadable, hend])
      simp [holdsPage, hexists]
    | some entry =>
      rw [hend] at hexists
      rw [← readText_escapes_iff hend, holdsPage, hexists]
      simp only [Option.isSome_some]
      cases faults.readText t path <;> simp

/-- Every failure to write a page is told. -/
theorem isReported_writeError (path : Path) (e : FileError) :
    (writeError path e).isReported = true := by
  rw [writeError]
  split
  · assumption
  · rfl

theorem escapes_publish_iff (html : String) :
    Escapes (t.publish faults path html).1 ↔
      faults.Hides t path ∨ t.IsUnreadable faults path := by
  rw [← holdsPage_escapes_iff html, publish]
  cases hholds : t.holdsPage faults path html with
  | error e => simp
  | ok found =>
    cases found with
    | true => simp
    | false =>
      simp only [writePage]
      cases hmade : faults.makeDirectories t path.parent with
      | mk made part =>
        cases made with
        | error e => simp [isReported_writeError]
        | ok _ =>
          cases hwrite : faults.write part path (Text.utf8 html) with
          | mk result after => cases result <;> simp [hwrite, isReported_writeError]

theorem escapes_withdraw_iff : Escapes (t.withdraw faults path).1 ↔ faults.Hides t path := by
  by_cases hhides : faults.Hides t path
  · obtain ⟨e, hexists, hunreported⟩ := isReported_of_hides hhides
    exact iff_of_true ⟨.unusable e, by rw [withdraw, hexists], hunreported⟩ hhides
  · refine iff_of_false ?_ hhides
    rw [withdraw, FileFaults.exists?_of_not_hides hhides]
    cases t.atEnd? path with
    | none => exact escapes_ok false
    | some entry =>
      simp only [Option.isSome_some]
      cases faults.delete t path <;> simp [PublishError.isReported]

end FileTree

/-! ## Pages in a bucket -/

namespace ObjectStore

variable (objects : ObjectStore) {faults : StoreFaults} (address : ObjectAddress)

theorem escapes_publish_iff (html : String) :
    Escapes (objects.publish faults address html).result ↔
      ∃ fault, faults.client = some fault ∧ fault.isValue = false := by
  rw [publish]
  cases faults.client with
  | some fault => simp [PublishError.isReported]
  | none =>
    simp only [reduceCtorEq, false_and, exists_false, iff_false]
    split
    · simp [PublishError.isReported]
    · split
      · simp
      · split
        · simp [PublishError.isReported]
        · simp

theorem escapes_withdraw_iff :
    Escapes (objects.withdraw faults address).result ↔
      ∃ fault, faults.client = some fault ∧ fault.isValue = false ∧ fault.isLibrary = false := by
  rw [withdraw]
  cases faults.client with
  | some fault => cases h : fault.isLibrary <;> simp [withdrawError, h, PublishError.isReported]
  | none =>
    simp only [reduceCtorEq, false_and, exists_false, iff_false]
    split
    · simp [PublishError.isReported]
    · simp

end ObjectStore

/-! ## Either target -/

namespace Settings

/-- Why publishing a page may fail without telling. -/
inductive PublishEscapes (settings : Settings) (faults : Faults) (storeId formId : String)
    (files : FileTree) : Prop
  /-- Nobody can tell whether the page is there. -/
  | hidden (target : settings.target = .directory) (store : CanBeName storeId)
    (form : CanBeName formId) (h : faults.files.Hides files (settings.pagePath storeId formId))
  /-- What is in its place is not read. -/
  | unreadable (target : settings.target = .directory) (store : CanBeName storeId)
    (form : CanBeName formId)
    (h : files.IsUnreadable faults.files (settings.pagePath storeId formId))
  /-- There is no client, and that is no error of a value. -/
  | noClient {fault : ClientFault} (target : settings.target = .bucket)
    (bucket : settings.bucket.isSome = true) (h : faults.store.client = some fault)
    (value : fault.isValue = false)

/-- Why withdrawing a page may fail without telling. -/
inductive WithdrawEscapes (settings : Settings) (faults : Faults) (storeId formId : String)
    (files : FileTree) : Prop
  /-- Nobody can tell whether the page is there. -/
  | hidden (target : settings.target = .directory) (store : CanBeName storeId)
    (form : CanBeName formId) (h : faults.files.Hides files (settings.pagePath storeId formId))
  /-- There is no client, and that is an error neither of a value nor of the library. -/
  | noClient {fault : ClientFault} (target : settings.target = .bucket)
    (bucket : settings.bucket.isSome = true) (h : faults.store.client = some fault)
    (value : fault.isValue = false) (library : fault.isLibrary = false)

variable (settings : Settings) (storeId formId : String) (storage : Storage)

section
variable (faults : FileFaults)

theorem escapes_publishFile_iff (html : String) :
    Escapes (settings.publishFile faults storeId formId html storage).1 ↔
      CanBeName storeId ∧ CanBeName formId ∧
        (faults.Hides storage.files (settings.pagePath storeId formId) ∨
          storage.files.IsUnreadable faults (settings.pagePath storeId formId)) := by
  by_cases hnamed : CanBeName storeId ∧ CanBeName formId
  · rw [and_iff_right hnamed.1, and_iff_right hnamed.2,
      ← FileTree.escapes_publish_iff html, publishFile,
      settings.pagePath?_of_named hnamed.1 hnamed.2]
    dsimp only
    cases storage.files.publish faults (settings.pagePath storeId formId) html with
    | mk result files => cases result <;> simp
  · obtain ⟨id, hrefused⟩ := settings.pagePath?_of_not_named hnamed
    rw [publishFile, hrefused]
    simp [PublishError.isReported, ← and_assoc, hnamed]

theorem escapes_withdrawFile_iff :
    Escapes (settings.withdrawFile faults storeId formId storage).1 ↔
      CanBeName storeId ∧ CanBeName formId ∧
        faults.Hides storage.files (settings.pagePath storeId formId) := by
  by_cases hnamed : CanBeName storeId ∧ CanBeName formId
  · rw [and_iff_right hnamed.1, and_iff_right hnamed.2, ← FileTree.escapes_withdraw_iff,
      withdrawFile, settings.pagePath?_of_named hnamed.1 hnamed.2]
    dsimp only
    cases storage.files.withdraw faults (settings.pagePath storeId formId) with
    | mk result files =>
      cases result with
      | error e => simp
      | ok found => cases found <;> simp
  · obtain ⟨id, hrefused⟩ := settings.pagePath?_of_not_named hnamed
    rw [withdrawFile, hrefused]
    simp [PublishError.isReported, ← and_assoc, hnamed]

end

section
variable (faults : StoreFaults)

theorem escapes_publishObject_iff (html : String) :
    Escapes (settings.publishObject faults storeId formId html storage).1 ↔
      settings.bucket.isSome = true ∧
        ∃ fault, faults.client = some fault ∧ fault.isValue = false := by
  rw [publishObject, pageAddress?]
  cases settings.bucket with
  | none => simp [PublishError.isReported]
  | some bucket =>
    rw [← storage.objects.escapes_publish_iff ⟨bucket, settings.objectKey storeId formId⟩ html]
    dsimp only
    cases (storage.objects.publish faults ⟨bucket, settings.objectKey storeId formId⟩
        html).result <;> simp

theorem escapes_withdrawObject_iff :
    Escapes (settings.withdrawObject faults storeId formId storage).1 ↔
      settings.bucket.isSome = true ∧
        ∃ fault, faults.client = some fault ∧ fault.isValue = false ∧ fault.isLibrary = false := by
  rw [withdrawObject, pageAddress?]
  cases settings.bucket with
  | none => simp [PublishError.isReported]
  | some bucket =>
    rw [← storage.objects.escapes_withdraw_iff ⟨bucket, settings.objectKey storeId formId⟩]
    dsimp only
    cases (storage.objects.withdraw faults ⟨bucket, settings.objectKey storeId formId⟩).result <;>
      simp

end

variable (faults : Faults)

/-- Publishing fails without telling where a page has bytes, but there is a reason. -/
theorem escapes_publish_iff (html : String) :
    Escapes (settings.publish faults storeId formId html storage).1 ↔
      Text.isWritable html = true ∧
        settings.PublishEscapes faults storeId formId storage.files := by
  rw [publish]
  cases hbytes : Text.isWritable html with
  | false => simp [PublishError.isReported]
  | true =>
    simp only [Bool.not_true, Bool.false_eq_true, if_false, true_and]
    cases htarget : settings.target with
    | bucket =>
      simp only [escapes_publishObject_iff]
      constructor
      · rintro ⟨hbucket, fault, hfault, hvalue⟩
        exact .noClient htarget hbucket hfault hvalue
      · rintro (⟨target⟩ | ⟨target⟩ | ⟨-, hbucket, hfault, hvalue⟩)
        · cases htarget.symm.trans target
        · cases htarget.symm.trans target
        · exact ⟨hbucket, _, hfault, hvalue⟩
    | directory =>
      simp only [escapes_publishFile_iff]
      constructor
      · rintro ⟨hstore, hform, hhidden | hunreadable⟩
        · exact .hidden htarget hstore hform hhidden
        · exact .unreadable htarget hstore hform hunreadable
      · rintro (⟨-, hstore, hform, hhidden⟩ | ⟨-, hstore, hform, hunreadable⟩ | ⟨target⟩)
        · exact ⟨hstore, hform, Or.inl hhidden⟩
        · exact ⟨hstore, hform, Or.inr hunreadable⟩
        · cases htarget.symm.trans target

theorem escapes_withdraw_iff :
    Escapes (settings.withdraw faults storeId formId storage).1 ↔
      settings.WithdrawEscapes faults storeId formId storage.files := by
  rw [withdraw]
  cases htarget : settings.target with
  | bucket =>
    simp only [escapes_withdrawObject_iff]
    constructor
    · rintro ⟨hbucket, fault, hfault, hvalue, hlibrary⟩
      exact .noClient htarget hbucket hfault hvalue hlibrary
    · rintro (⟨target⟩ | ⟨-, hbucket, hfault, hvalue, hlibrary⟩)
      · cases htarget.symm.trans target
      · exact ⟨hbucket, _, hfault, hvalue, hlibrary⟩
  | directory =>
    simp only [escapes_withdrawFile_iff]
    constructor
    · rintro ⟨hstore, hform, hhidden⟩
      exact .hidden htarget hstore hform hhidden
    · rintro (⟨-, hstore, hform, hhidden⟩ | ⟨target⟩)
      · exact ⟨hstore, hform, hhidden⟩
      · cases htarget.symm.trans target

end Settings

/-! ## What the service answers -/

namespace Reply

/-- The answers that are promised for publishing and withdrawing. -/
def IsReport : Reply → Prop
  | .json status _ => status = 200 ∨ status = 400 ∨ status = 500
  | _ => False

/-- A reply reports unless something happens, and then it is that of an unexpected failure. -/
def ReportsUnless (reply : Reply) (exception : Prop) : Prop :=
  reply.IsReport ∧ ¬ exception ∨ reply = failed ∧ exception

theorem not_isReport_failed : ¬ failed.IsReport := id

theorem ReportsUnless.isReport_iff {reply : Reply} {exception : Prop}
    (h : reply.ReportsUnless exception) : reply.IsReport ↔ ¬ exception := by
  rcases h with ⟨hreport, hnot⟩ | ⟨rfl, hfails⟩
  · exact iff_of_true hreport hnot
  · exact iff_of_false not_isReport_failed (not_not_intro hfails)

/-- What is sent reports unless the reply does not or cannot be written. -/
theorem ReportsUnless.sent {reply : Reply} {exception : Prop} (h : reply.ReportsUnless exception)
    (limits : Limits) :
    (reply.sent limits).ReportsUnless (exception ∨ reply.isWritable limits = false) := by
  rw [Reply.sent]
  rcases h with ⟨hreport, hnot⟩ | ⟨rfl, hfails⟩
  · cases hwritable : reply.isWritable limits with
    | true => exact .inl ⟨hreport, by simpa using hnot⟩
    | false => exact .inr ⟨rfl, .inr rfl⟩
  · exact .inr ⟨rfl, .inl hfails⟩

theorem reportsUnless_badPublish (e : PublishError) :
    (badPublish e).ReportsUnless (e.isReported = false) := by
  rw [badPublish]
  cases he : e.isReported with
  | true => exact .inl ⟨.inr (.inr rfl), nofun⟩
  | false => exact .inr ⟨rfl, rfl⟩

theorem reportsUnless_badConfig (e : ConfigError) :
    (badConfig e).ReportsUnless (e.message? = none) := by
  rw [badConfig]
  cases e.message? with
  | none => exact .inr ⟨rfl, rfl⟩
  | some message => exact .inl ⟨.inr (.inl rfl), nofun⟩

end Reply

section
variable (settings : Settings) (faults : Faults) (storeId formId : String) (storage : Storage)

theorem reportsUnless_withdrawAnswer :
    (withdrawAnswer settings faults storeId formId storage).1.ReportsUnless
      (settings.WithdrawEscapes faults storeId formId storage.files) := by
  rw [← settings.escapes_withdraw_iff, withdrawAnswer]
  cases settings.withdraw faults storeId formId storage with
  | mk result after =>
    cases result with
    | ok deleted => exact .inl ⟨.inl rfl, escapes_ok _⟩
    | error e =>
      rw [escapes_error_iff]
      exact Reply.reportsUnless_badPublish e

theorem reportsUnless_publishAnswer (limits : Limits) (config : Json) :
    (PublishRequest.answer limits ⟨config, storeId⟩ settings faults formId storage).1.ReportsUnless
      ((∃ e, normalize limits (.value config) = .error e ∧ e.message? = none) ∨
        ∃ html, generate limits (.value config) formId storeId = .ok html ∧
          Text.isWritable html = true ∧
          settings.PublishEscapes faults storeId formId storage.files) := by
  simp only [← settings.escapes_publish_iff storeId formId storage faults]
  rw [PublishRequest.answer]
  cases hconfig : normalize limits (.value config) with
  | error e =>
    have hgenerate : generate limits (.value config) formId storeId = .error (.config e) := by
      rw [generate, generateFor, hconfig]
    simpa [hgenerate, Reply.badPage] using Reply.reportsUnless_badConfig e
  | ok form =>
    obtain ⟨html, hhtml⟩ := exists_generate hconfig formId storeId
    simp only [hhtml, Except.ok.injEq, reduceCtorEq, false_and, exists_false, false_or,
      exists_eq_left']
    cases settings.publish faults storeId formId html storage with
    | mk result after =>
      cases result with
      | ok publication => exact .inl ⟨.inl rfl, escapes_ok _⟩
      | error e =>
        rw [escapes_error_iff]
        exact Reply.reportsUnless_badPublish e

end

/-- Publishing and withdrawing fail without telling for the reasons above and no other, and both
endpoints report unless that happens, the configuration is given up or stopped at an integer, or the
report cannot be written. -/
theorem failures_reported_iff (service : Service) (faults : Faults) (storeId formId : String)
    (storage : Storage) :
    (∀ html, Escapes (service.settings.publish faults storeId formId html storage).1 ↔
      Text.isWritable html = true ∧
        service.settings.PublishEscapes faults storeId formId storage.files) ∧
    (Escapes (service.settings.withdraw faults storeId formId storage).1 ↔
      service.settings.WithdrawEscapes faults storeId formId storage.files) ∧
    (∀ (request : Request) (clock : Moment) (config : Json),
      service.framework.read request = .ok (.publish formId ⟨config, storeId⟩) →
      (service.answer request faults clock storage).1.ReportsUnless
        ((((Source.value config).IsGivenUp service.limits ∨
            (Source.value config).HoldsTooLong service.limits) ∨
          ∃ html, generate service.limits (.value config) formId storeId = .ok html ∧
            Text.isWritable html = true ∧
            service.settings.PublishEscapes faults storeId formId storage.files) ∨
          (PublishRequest.answer service.limits ⟨config, storeId⟩ service.settings faults formId
            storage).1.isWritable service.limits = false)) ∧
    ∀ (request : Request) (clock : Moment),
      service.framework.read request = .ok (.withdraw storeId formId) →
      (service.answer request faults clock storage).1.ReportsUnless
        (service.settings.WithdrawEscapes faults storeId formId storage.files ∨
          (withdrawAnswer service.settings faults storeId formId storage).1.isWritable
            service.limits = false) := by
  refine ⟨service.settings.escapes_publish_iff storeId formId storage faults,
    service.settings.escapes_withdraw_iff storeId formId storage faults, ?publish, ?withdraw⟩
  case publish =>
    intro request clock config hread
    rw [Service.answer_of_read hread, ← untold_iff]
    exact (reportsUnless_publishAnswer service.settings faults storeId formId storage service.limits
      config).sent service.limits
  case withdraw =>
    intro request clock hread
    rw [Service.answer_of_read hread]
    exact (reportsUnless_withdrawAnswer service.settings faults storeId formId storage).sent
      service.limits

/-- A storage with a directory in the place of a page. -/
def occupied : Storage where
  files := (FileFaults.makeDirectories {} .root (formsHere.pagePath "s" "f")).2
  objects := []
  calls := []
  log := []

/-- A service by which pages are published into the directory `forms`. -/
def serviceHere : Service where
  limits := .standard
  framework := .standard .standard
  settings := formsHere
  zone := .tokyo

theorem requestDay_inRange : 1 ≤ 739257 ∧ 739257 ≤ lastOrdinal := by decide

/-- Some time at which requests come. -/
def requestTime : Moment := ⟨⟨⟨739257, requestDay_inRange⟩, 0, microsPerDay_pos⟩, none⟩

/-- A request to publish the page of the form `f` of the store `s` without a configuration. -/
def publishNothing : Request :=
  ⟨"POST", Endpoint.deployPath "f", [], .value (.obj [("store_id", .str "s")])⟩

/-- A request to withdraw the page of the form `f` of the store `s`. -/
def withdrawPage : Request :=
  ⟨"DELETE", Endpoint.deployPath "f", [("store_id", "s")], .absent⟩

theorem read_publishNothing :
    serviceHere.framework.read publishNothing = .ok (.publish "f" ⟨.null, "s"⟩) := by
  have hfind : Endpoint.find publishNothing.method publishNothing.path = .ok (.publish "f") :=
    (Endpoint.find_deployPath (by decide) (by decide)).1
  exact Framework.read_standard hfind

theorem read_withdrawPage :
    serviceHere.framework.read withdrawPage = .ok (.withdraw "s" "f") := by
  have hfind : Endpoint.find withdrawPage.method withdrawPage.path = .ok (.withdraw "f") :=
    (Endpoint.find_deployPath (by decide) (by decide)).2
  exact Framework.read_standard hfind

theorem canBeName_short : CanBeName "s" ∧ CanBeName "f" :=
  ⟨isSegment_iff.mp (by decide +kernel), isSegment_iff.mp (by decide +kernel)⟩

/-- The directory in the place of the page can be looked at. -/
theorem not_withdrawEscapes_occupied :
    ¬ formsHere.WithdrawEscapes {} "s" "f" occupied.files := by
  rintro (⟨-, -, -, hlong | ⟨-, _, hfault⟩⟩ | ⟨-, -, hfault, -, -⟩)
  · exact absurd hlong (by decide +kernel)
  · cases hfault
  · cases hfault

/-- What is no object is neither given up nor stopped at an integer, and has no page. -/
theorem nothing_to_publish (limits : Limits) :
    ¬ (Source.value .null).IsGivenUp limits ∧ ¬ (Source.value .null).HoldsTooLong limits ∧
      generate limits (.value .null) "f" "s" = .error (.config (.notAnObject "NoneType")) := by
  have hread : normalize limits (.value .null) = .error (.notAnObject "NoneType") := rfl
  refine ⟨fun hdeep => ?_, fun hlong => ?_, ?_⟩
  · rw [normalize_eq_tooDeep_iff.mpr hdeep] at hread
    cases hread
  · rw [normalize_eq_integerTooLong_iff.mpr hlong] at hread
    cases hread
  · rw [generate, generateFor, hread]

/-- With a directory in the place of its page a form is not published, and that is not told; that it
is not withdrawn is told, and so is that there is nothing to publish. -/
theorem failures_reported_occupied :
    Escapes (formsHere.publish {} "s" "f" "x" occupied).1 ∧
      ¬ Escapes (formsHere.withdraw {} "s" "f" occupied).1 ∧
      (serviceHere.answer publishNothing {} requestTime occupied).1.IsReport ∧
      (serviceHere.answer withdrawPage {} requestTime occupied).1.IsReport := by
  obtain ⟨hpublish, hwithdraw, hposted, hdeleted⟩ :=
    failures_reported_iff serviceHere {} "s" "f" occupied
  obtain ⟨hstore, hform⟩ := canBeName_short
  have hdirectory : formsHere.PublishEscapes {} "s" "f" occupied.files :=
    .unreadable (by decide +kernel) hstore hform (.inl (by decide +kernel))
  obtain ⟨hdeep, hlong, hnothing⟩ := nothing_to_publish .standard
  refine ⟨(hpublish "x").mpr ⟨by decide +kernel, hdirectory⟩,
    mt hwithdraw.mp not_withdrawEscapes_occupied,
    (hposted publishNothing requestTime .null read_publishNothing).isReport_iff.mpr ?_,
    (hdeleted withdrawPage requestTime read_withdrawPage).isReport_iff.mpr ?_⟩
  · rintro (((hgivenUp | hstopped) | ⟨html, hhtml, -⟩) | hunwritable)
    · exact hdeep hgivenUp
    · exact hlong hstopped
    · cases hnothing.symm.trans hhtml
    · exact absurd hunwritable (by decide +kernel)
  · rintro (hescapes | hunwritable)
    · exact not_withdrawEscapes_occupied hescapes
    · exact absurd hunwritable (by decide +kernel)

/-- Settings under which pages are published into the bucket `forms`. -/
def bucketHere : Settings :=
  .ofEnvironment [("DEPLOY_TARGET", "s3"), ("FORMS_BUCKET_NAME", "forms")]

/-- The environment names a profile that there is none of. -/
def noProfile : Faults where
  store := { client := some ⟨"The config profile (x) could not be found", true, false⟩ }

/-- A directory in the place of a page, too long a name and a profile that does not exist are met
before anything is tried whose failure is told. -/
theorem failures_not_reported :
    Escapes (formsHere.publish {} "s" "f" "x" occupied).1 ∧
      Escapes (formsHere.withdraw {} "s" (letters 300) occupied).1 ∧
      (withdrawAnswer formsHere {} "s" (letters 300) occupied).1 = .failed ∧
      Escapes (bucketHere.publish noProfile "s" "f" "x" sampleStart).1 := by
  obtain ⟨hstore, hform⟩ := canBeName_short
  have hdirectory : formsHere.PublishEscapes {} "s" "f" occupied.files :=
    .unreadable (by decide +kernel) hstore hform (.inl (by decide +kernel))
  have hpath : occupied.files.locate withdrawLong.path = .error .nameTooLong := by
    have hlocate : occupied.files.locate (formsHere.formsDirectory.child "s") =
        .ok [Text.nameBytes "s", Text.nameBytes "forms"] := by
      decide +kernel
    have hlong : maxNameBytes < Text.length (letters 300 ++ ".html") := by
      rw [length_letters, maxNameBytes]
      decide
    exact DirectoryCall.locate_path_of_long hlocate (by decide +kernel) obstacle?_withdrawLong hlong
  have htooLong : formsHere.WithdrawEscapes {} "s" (letters 300) occupied.files :=
    .hidden (by decide +kernel) hstore (canBeName_letters 300 (by decide)) (.inl hpath)
  have hclient : bucketHere.PublishEscapes noProfile "s" "f" sampleStart.files :=
    .noClient (by decide +kernel) (by decide +kernel) rfl rfl
  have hwritable : Text.isWritable "x" = true := by decide +kernel
  refine ⟨(formsHere.escapes_publish_iff "s" "f" occupied {} "x").mpr ⟨hwritable, hdirectory⟩,
    (formsHere.escapes_withdraw_iff "s" (letters 300) occupied {}).mpr htooLong, ?_,
    (bucketHere.escapes_publish_iff "s" "f" sampleStart noProfile "x").mpr ⟨hwritable, hclient⟩⟩
  rcases reportsUnless_withdrawAnswer formsHere {} "s" (letters 300) occupied with
    ⟨-, hnot⟩ | ⟨hfailed, -⟩
  · exact absurd htooLong hnot
  · exact hfailed

end SalonBooking
