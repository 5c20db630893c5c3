import Mathlib.Data.List.Induction
import SalonBooking.Publish.Publisher

/-!
# Pages in a bucket

Whatever calls publish pages into buckets and withdraw them, under whatever
environments and with whatever faults, the buckets hold what the calls that
succeeded have left there.

A call does one of four things (`BucketStep`): it fails, it keeps the page that
is there, it puts a page, or it removes one.  `BucketCall.bucketStep` says this
of every call, and what a step keeps of the history of calls is told case by
case (`ShowsHistory.step`).  That no put is needed is decided by the metadata of
the object that is there; they stand for its body, since every body was put
together with its own hash.
-/

namespace SalonBooking

/-- What is asked about the page of a form. -/
inductive PageAction where
  | publish (html : String)
  | withdraw
  deriving DecidableEq, Repr

/-- The page that is there once an action has succeeded. -/
def PageAction.page? : PageAction → Option String
  | .publish html => some html
  | .withdraw => none

/-- What is answered to an action that succeeds. -/
inductive PageAnswer where
  | published (publication : Publication)
  | withdrawn (found : Bool)
  deriving DecidableEq, Repr

/-- The address that a request is about. -/
def StoreCall.address? : StoreCall → Option ObjectAddress
  | .connect _ _ => none
  | .head address => some address
  | .put address _ => some address
  | .delete address => some address

/-- Whether a request puts an object. -/
def StoreCall.isPut : StoreCall → Bool
  | .put _ _ => true
  | _ => false

/-- A call about the page of a form, with the environment and the faults that it meets.  The
environment is one in which pages are published into a bucket. -/
structure BucketCall where
  environment : Environment
  faults : StoreFaults
  storeId : String
  formId : String
  action : PageAction
  inBucket : (Settings.ofEnvironment environment).target = .bucket

namespace BucketCall

/-- The settings that a call meets. -/
def settings (call : BucketCall) : Settings :=
  .ofEnvironment call.environment

/-- The address of the page that a call is about, if a bucket is named. -/
def address? (call : BucketCall) : Option ObjectAddress :=
  (call.settings.pageAddress? call.storeId call.formId).toOption

/-- The answer to a call, and the storage after it. -/
def perform (call : BucketCall) (storage : Storage) : Outcome PageAnswer :=
  match call.action with
  | .publish html =>
    let (result, after) :=
      call.settings.publish ⟨call.faults, {}⟩ call.storeId call.formId html storage
    (result.map .published, after)
  | .withdraw =>
    let (result, after) :=
      call.settings.withdraw ⟨call.faults, {}⟩ call.storeId call.formId storage
    (result.map .withdrawn, after)

/-- The requests that a call makes. -/
def requests (call : BucketCall) (storage : Storage) : List StoreCall :=
  (call.perform storage).2.calls.drop storage.calls.length

end BucketCall

/-- A call that has been made, and its result. -/
structure Performed where
  call : BucketCall
  result : Except PublishError PageAnswer

/-- Whether a call about an address has succeeded. -/
def Performed.succeededAt (address : ObjectAddress) (past : Performed) : Bool :=
  past.result.isOk && past.call.address? == some address

/-- The storage after some calls. -/
def Storage.run (storage : Storage) (calls : List BucketCall) : Storage :=
  calls.foldl (fun storage call => (call.perform storage).2) storage

/-- The calls with their results. -/
def Storage.history (storage : Storage) : List BucketCall → List Performed
  | [] => []
  | call :: rest => ⟨call, (call.perform storage).1⟩ :: (call.perform storage).2.history rest

/-- The page that was published last at an address and not withdrawn since: the page of the last
call about it that succeeded. -/
def lastPage? (history : List Performed) (address : ObjectAddress) : Option String :=
  (history.filter (Performed.succeededAt address)).getLast?.bind (·.call.action.page?)

/-! ## What is to be shown -/

/-- The objects are what a history has left: each carries the hash of its body, and at each address
there is the last page in bytes. -/
structure ShowsHistory (history : List Performed) (objects : ObjectStore) : Prop where
  digest : ∀ address object, objects.get? address = some object →
    object.metadata.get? digestKey = some (Sha256.hash object.body)
  page : ∀ address,
    (objects.get? address).map StoredObject.body = (lastPage? history address).map Text.utf8

/-- A call does its own work and nothing else: it changes nothing if it fails and nothing elsewhere,
asks for nothing elsewhere, and puts a page exactly if it is not the one that is there. -/
structure BucketCall.IsFaithful (call : BucketCall) (storage : Storage) : Prop where
  failed : ∀ e, (call.perform storage).1 = .error e →
    (call.perform storage).2.objects = storage.objects
  elsewhere : ∀ other, call.address? ≠ some other →
    (call.perform storage).2.objects.get? other = storage.objects.get? other
  requests : ∀ request ∈ call.requests storage, ∀ address ∈ request.address?,
    call.address? = some address
  unchanged : ∀ html publication, call.action = .publish html →
    (call.perform storage).1 = .ok (.published publication) →
    ∃ address, call.address? = some address ∧
      (publication.unchanged = true ↔
        (storage.objects.get? address).map StoredObject.body = some (Text.utf8 html)) ∧
      (publication.unchanged = true ↔ ∀ request ∈ call.requests storage, request.isPut = false)

/-- A store says that there is no object only if there is none. -/
def BucketCall.HeadIsHonest (call : BucketCall) (storage : Storage) : Prop :=
  ∀ address, .head address ∈ call.requests storage → ∀ fault ∈ call.faults.head,
    fault.meansAbsent = true → storage.objects.get? address = none

/-- The store is honest about absence in each of some calls. -/
def Storage.HeadsAreHonest (storage : Storage) : List BucketCall → Prop
  | [] => True
  | call :: rest => call.HeadIsHonest storage ∧ (call.perform storage).2.HeadsAreHonest rest

/-! ## One step -/

/-- What a call can come to: its result, the objects after it, and the requests that it made. -/
inductive BucketStep (call : BucketCall) (objects : ObjectStore) :
    Except PublishError PageAnswer → ObjectStore → List StoreCall → Prop
  /-- The call fails. -/
  | failed {e : PublishError} {made : List StoreCall}
      (own : ∀ request ∈ made, ∀ address ∈ request.address?, call.address? = some address) :
      BucketStep call objects (.error e) objects made
  /-- The hash of the page is there. -/
  | kept {html : String} {address : ObjectAddress} {publication : Publication} {region : String}
      {endpoint : Option String} (action : call.action = .publish html)
      (own : call.address? = some address) (unchanged : publication.unchanged = true)
      (digest : objects.digest? call.faults address = .ok (some (contentHash html))) :
      BucketStep call objects (.ok (.published publication)) objects
        [.connect region endpoint, .head address]
  /-- The hash of the page is not there, and the page is put. -/
  | put {html : String} {address : ObjectAddress} {publication : Publication} {region : String}
      {endpoint stored : Option String} {after : ObjectStore} (action : call.action = .publish html)
      (own : call.address? = some address) (unchanged : publication.unchanged = false)
      (digest : objects.digest? call.faults address = .ok stored)
      (differs : stored ≠ some (contentHash html))
      (put : objects.put call.faults address (pageObject html) = .ok after) :
      BucketStep call objects (.ok (.published publication)) after
        [.connect region endpoint, .head address, .put address (pageObject html)]
  /-- The page is removed. -/
  | withdrawn {address : ObjectAddress} {region : String} {endpoint : Option String}
      {after : ObjectStore} (action : call.action = .withdraw) (own : call.address? = some address)
      (delete : objects.delete call.faults address = .ok after) :
      BucketStep call objects (.ok (.withdrawn true)) after
        [.connect region endpoint, .delete address]

namespace BucketStep

variable {call : BucketCall} {objects after : ObjectStore} {made : List StoreCall}
  {result : Except PublishError PageAnswer}

/-- A step asks for nothing at another address. -/
theorem own (h : BucketStep call objects result after made) :
    ∀ request ∈ made, ∀ address ∈ request.address?, call.address? = some address := by
  cases h with
  | failed own => exact own
  | kept _ own => simp [StoreCall.address?, own]
  | put _ own => simp [StoreCall.address?, own]
  | withdrawn _ own => simp [StoreCall.address?, own]

/-- A step that fails changes nothing. -/
theorem objects_of_error {e : PublishError} (h : BucketStep call objects (.error e) after made) :
    after = objects := by
  cases h
  rfl

/-- A step changes nothing at another address. -/
theorem get?_of_ne (h : BucketStep call objects result after made) {other : ObjectAddress}
    (hother : call.address? ≠ some other) : after.get? other = objects.get? other := by
  cases h with
  | failed | kept => rfl
  | put _ own _ _ _ put =>
    rw [ObjectStore.get?_put put, if_neg]
    rintro rfl
    exact hother own
  | withdrawn _ own delete =>
    rw [ObjectStore.get?_delete delete, if_neg]
    rintro rfl
    exact hother own

end BucketStep

namespace ObjectStore

variable {objects : ObjectStore} {faults : StoreFaults} {address : ObjectAddress}

/-- Publishing at an address fails, finds the hash of the page, or puts the page. -/
theorem publish_cases (objects : ObjectStore) (faults : StoreFaults) (address : ObjectAddress)
    (html : String) :
    (∃ e made, objects.publish faults address html = ⟨.error e, objects, made⟩ ∧
      ∀ request ∈ made, request.address? = some address) ∨
    (objects.digest? faults address = .ok (some (contentHash html)) ∧
      objects.publish faults address html = ⟨.ok true, objects, [.head address]⟩) ∨
    ∃ stored after, objects.digest? faults address = .ok stored ∧
      stored ≠ some (contentHash html) ∧
      objects.put faults address (pageObject html) = .ok after ∧
      objects.publish faults address html =
        ⟨.ok false, after, [.head address, .put address (pageObject html)]⟩ := by
  rw [publish]
  split
  · exact Or.inl ⟨_, [], rfl, nofun⟩
  · split
    · exact Or.inl ⟨_, _, rfl, by simp [StoreCall.address?]⟩
    · rename_i stored hstored
      split
      · rename_i hsame
        exact Or.inr (Or.inl ⟨by rw [hstored, hsame], rfl⟩)
      · rename_i hdiffers
        split
        · exact Or.inl ⟨_, _, rfl, by simp [StoreCall.address?]⟩
        · rename_i after hput
          exact Or.inr (Or.inr ⟨stored, after, hstored, hdiffers, hput, rfl⟩)

/-- Withdrawing fails or removes the object. -/
theorem withdraw_cases (objects : ObjectStore) (faults : StoreFaults) (address : ObjectAddress) :
    (∃ e made, objects.withdraw faults address = ⟨.error e, objects, made⟩ ∧
      ∀ request ∈ made, request.address? = some address) ∨
    ∃ after, objects.delete faults address = .ok after ∧
      objects.withdraw faults address = ⟨.ok (), after, [.delete address]⟩ := by
  rw [withdraw]
  split
  · exact Or.inl ⟨_, [], rfl, nofun⟩
  · split
    · exact Or.inl ⟨_, _, rfl, by simp [StoreCall.address?]⟩
    · rename_i after hdelete
      exact Or.inr ⟨after, hdelete, rfl⟩

/-- The hash that is told is that of the object, or none if the store says that there is none. -/
theorem digest?_eq_ok {stored : Option String} (h : objects.digest? faults address = .ok stored) :
    stored = (objects.get? address).bind (·.metadata.get? digestKey) ∨
      stored = none ∧ ∃ fault ∈ faults.head, fault.meansAbsent = true := by
  unfold digest? head at h
  cases hfault : faults.head with
  | some fault =>
    rw [hfault] at h
    dsimp only at h
    split at h
    · rename_i habsent
      exact Or.inr ⟨(Except.ok.inj h).symm, fault, rfl, habsent⟩
    · cases h
  | none =>
    rw [hfault] at h
    dsimp only at h
    cases hobject : objects.get? address with
    | some object =>
      rw [hobject] at h
      exact Or.inl (Except.ok.inj h).symm
    | none =>
      rw [hobject] at h
      exact Or.inl (Except.ok.inj h).symm

end ObjectStore

namespace BucketCall

variable {call : BucketCall} {storage : Storage}

/-- Whoever connects and then asks for the address of a call only, asks for nothing else. -/
theorem own_of_forall {address : ObjectAddress} (hown : call.address? = some address)
    {made : List StoreCall} (hmade : ∀ request ∈ made, request.address? = some address)
    (region : String) (endpoint : Option String) :
    ∀ request ∈ .connect region endpoint :: made, ∀ other ∈ request.address?,
      call.address? = some other := by
  intro request hmem other hother
  rcases List.mem_cons.mp hmem with rfl | hmem
  · simp [StoreCall.address?] at hother
  · rw [hown, ← hmade request hmem]
    exact hother

/-- A call takes one of the four steps, and its requests go behind those made before. -/
theorem exists_bucketStep (call : BucketCall) (storage : Storage) :
    ∃ made, (call.perform storage).2.calls = storage.calls ++ made ∧
      BucketStep call storage.objects (call.perform storage).1 (call.perform storage).2.objects
        made := by
  have hbucket : call.settings.target = .bucket := call.inBucket
  have hnone {e : PublishError} :
      BucketStep call storage.objects (.error e) storage.objects [] := .failed (by simp)
  have haddress : call.address? =
    (call.settings.pageAddress? call.storeId call.formId).toOption := rfl
  cases haction : call.action with
  | publish html =>
    simp only [perform, haction, Settings.publish, hbucket, Settings.publishObject]
    by_cases hwritable : Text.isWritable html = true
    · simp only [hwritable, Bool.not_true, Bool.false_eq_true, if_false]
      cases hnamed : call.settings.pageAddress? call.storeId call.formId with
      | error e => exact ⟨[], (List.append_nil _).symm, hnone⟩
      | ok address =>
        have hown : call.address? = some address := by rw [haddress, hnamed]; rfl
        dsimp only
        rcases storage.objects.publish_cases call.faults address html with
          ⟨e, made, heq, hmade⟩ | ⟨hdigest, heq⟩ | ⟨stored, after, hdigest, hdiffers, hput, heq⟩
        · rw [heq]
          exact ⟨_, rfl, .failed (own_of_forall hown hmade _ _)⟩
        · rw [heq]
          exact ⟨_, rfl, .kept haction hown rfl hdigest⟩
        · rw [heq]
          exact ⟨_, rfl, .put haction hown rfl hdigest hdiffers hput⟩
    · simp only [hwritable, Bool.not_false, if_true]
      exact ⟨[], (List.append_nil _).symm, hnone⟩
  | withdraw =>
    simp only [perform, haction, Settings.withdraw, hbucket, Settings.withdrawObject]
    cases hnamed : call.settings.pageAddress? call.storeId call.formId with
    | error e => exact ⟨[], (List.append_nil _).symm, hnone⟩
    | ok address =>
      have hown : call.address? = some address := by rw [haddress, hnamed]; rfl
      dsimp only
      rcases storage.objects.withdraw_cases call.faults address with
        ⟨e, made, heq, hmade⟩ | ⟨after, hdelete, heq⟩
      · rw [heq]
        exact ⟨_, rfl, .failed (own_of_forall hown hmade _ _)⟩
      · rw [heq]
        exact ⟨_, rfl, .withdrawn haction hown hdelete⟩

theorem bucketStep (call : BucketCall) (storage : Storage) :
    BucketStep call storage.objects (call.perform storage).1 (call.perform storage).2.objects
      (call.requests storage) := by
  obtain ⟨made, hcalls, hstep⟩ := call.exists_bucketStep storage
  rw [requests, hcalls, List.drop_left]
  exact hstep

end BucketCall

/-! ## Histories -/

namespace Storage

theorem run_concat (storage : Storage) (done : List BucketCall) (call : BucketCall) :
    storage.run (done ++ [call]) = (call.perform (storage.run done)).2 :=
  List.foldl_append

theorem history_concat (storage : Storage) (done : List BucketCall) (call : BucketCall) :
    storage.history (done ++ [call]) =
      storage.history done ++ [⟨call, (call.perform (storage.run done)).1⟩] := by
  induction done generalizing storage with
  | nil => rfl
  | cons first rest ih =>
    rw [List.cons_append, history, ih]
    rfl

/-- A history is one of the calls that were made. -/
theorem mem_of_mem_history {storage : Storage} {calls : List BucketCall} {past : Performed}
    (h : past ∈ storage.history calls) : past.call ∈ calls := by
  induction calls generalizing storage with
  | nil => simp [history] at h
  | cons call rest ih =>
    rcases List.mem_cons.mp h with rfl | h
    · exact List.mem_cons_self
    · exact List.mem_cons_of_mem _ (ih h)

/-- A store that is honest in a run of calls is honest at each point of it. -/
theorem HeadsAreHonest.of_append {storage : Storage} {done todo : List BucketCall}
    (h : storage.HeadsAreHonest (done ++ todo)) : (storage.run done).HeadsAreHonest todo := by
  induction done generalizing storage with
  | nil => exact h
  | cons call rest ih => exact ih h.2

end Storage

variable {history : List Performed} {past : Performed} {address : ObjectAddress} {html : String}

/-- Only a call about the address that succeeds changes the last page. -/
theorem lastPage?_concat (history : List Performed) (past : Performed) (address : ObjectAddress) :
    lastPage? (history ++ [past]) address =
      if past.succeededAt address then past.call.action.page? else lastPage? history address := by
  rw [lastPage?, List.filter_append]
  by_cases hsucceeded : past.succeededAt address = true
  · rw [List.filter_cons_of_pos hsucceeded, if_pos hsucceeded, List.filter_nil,
      List.getLast?_concat, Option.bind_some]
  · rw [List.filter_cons_of_neg hsucceeded, if_neg hsucceeded, List.filter_nil, List.append_nil,
      lastPage?]

/-- A page that is there was published. -/
theorem exists_of_lastPage? (h : lastPage? history address = some html) :
    ∃ past ∈ history, html ∈ past.call.action.page? := by
  obtain ⟨past, hlast, hpage⟩ := Option.bind_eq_some_iff.mp h
  exact ⟨past, (List.mem_filter.mp (List.mem_of_getLast? hlast)).1, hpage⟩

/-! ## What the objects show -/

/-- No page of a history is taken for another one by its hash. -/
def TellsApart (history : List Performed) (html : String) : Prop :=
  ∀ past ∈ history, ∀ old ∈ past.call.action.page?,
    contentHash old = contentHash html → Text.utf8 old = Text.utf8 html

namespace ShowsHistory

variable {objects after : ObjectStore} {call : BucketCall}

/-- The metadata carry the hash of a page exactly if the body is that page. -/
theorem digest_iff (h : ShowsHistory history objects) (hapart : TellsApart history html) :
    (objects.get? address).bind (·.metadata.get? digestKey) = some (contentHash html) ↔
      (objects.get? address).map StoredObject.body = some (Text.utf8 html) := by
  have hpage := h.page address
  cases hobject : objects.get? address with
  | none => simp
  | some object =>
    rw [hobject, Option.map_some] at hpage
    obtain ⟨old, hold, hbody⟩ := Option.map_eq_some_iff.mp hpage.symm
    obtain ⟨past, hpast, hin⟩ := exists_of_lastPage? hold
    rw [Option.bind_some, Option.map_some, h.digest address object hobject, ← hbody,
      Option.some_inj, Option.some_inj]
    exact ⟨hapart past hpast old hin, congrArg Sha256.hash⟩

/-- The hash of a page is told only where the page is. -/
theorem body_of_digest? (h : ShowsHistory history objects) (hapart : TellsApart history html)
    {faults : StoreFaults}
    (hdigest : objects.digest? faults address = .ok (some (contentHash html))) :
    (objects.get? address).map StoredObject.body = some (Text.utf8 html) := by
  rcases ObjectStore.digest?_eq_ok hdigest with hstored | ⟨hnone, -⟩
  · exact (h.digest_iff hapart).mp hstored.symm
  · cases hnone

/-- Calls that fail leave what is shown. -/
theorem failed (h : ShowsHistory history objects) (e : PublishError) :
    ShowsHistory (history ++ [⟨call, .error e⟩]) objects where
  digest := h.digest
  page other := by
    rw [lastPage?_concat]
    exact h.page other

/-- A call that succeeds at its address leaves what is shown elsewhere. -/
theorem lastPage?_succeeded (hown : call.address? = some address) (answer : PageAnswer)
    (other : ObjectAddress) :
    lastPage? (history ++ [⟨call, .ok answer⟩]) other =
      if other = address then call.action.page? else lastPage? history other := by
  have hat : Performed.succeededAt other ⟨call, .ok answer⟩ = true ↔ other = address := by
    rw [Performed.succeededAt, hown, Except.isOk, Except.toBool, Bool.true_and, beq_iff_eq,
      Option.some_inj]
    exact eq_comm
  rw [lastPage?_concat]
  by_cases hother : other = address
  · rw [if_pos (hat.mpr hother), if_pos hother]
  · rw [if_neg (mt hat.mp hother), if_neg hother]

/-- What is shown before a call and the step that it takes make what is shown after it. -/
theorem step {result : Except PublishError PageAnswer} {made : List StoreCall}
    (h : ShowsHistory history objects) (hstep : BucketStep call objects result after made)
    (hapart : ∀ html ∈ call.action.page?, TellsApart history html) :
    ShowsHistory (history ++ [⟨call, result⟩]) after := by
  cases hstep with
  | failed => exact h.failed _
  | @kept html address _ _ _ action own _ digest =>
    refine ⟨h.digest, fun other => ?_⟩
    rw [lastPage?_succeeded own, action]
    split
    · rename_i hother
      have hapart : TellsApart history html := hapart html (by rw [action]; rfl)
      rw [hother, h.body_of_digest? hapart digest]
      rfl
    · exact h.page other
  | @put html address _ _ _ _ _ action own _ _ _ put =>
    have hget := ObjectStore.get?_put put
    refine ⟨fun other object hobject => ?_, fun other => ?_⟩
    · rw [hget other] at hobject
      split at hobject
      · obtain rfl := Option.some.inj hobject
        rfl
      · exact h.digest other object hobject
    · rw [lastPage?_succeeded own, action, hget other]
      split
      · rfl
      · exact h.page other
  | @withdrawn address _ _ _ action own delete =>
    have hget := ObjectStore.get?_delete delete
    refine ⟨fun other object hobject => ?_, fun other => ?_⟩
    · rw [hget other] at hobject
      split at hobject
      · cases hobject
      · exact h.digest other object hobject
    · rw [lastPage?_succeeded own, action, hget other]
      split
      · rfl
      · exact h.page other

/-- Where the objects show a history, a page is found unchanged exactly if it is there, and put
exactly if it is not. -/
theorem unchanged_iff {publication : Publication} {made : List StoreCall}
    (h : ShowsHistory history objects) (haction : call.action = .publish html)
    (hstep : BucketStep call objects (.ok (.published publication)) after made)
    (hhonest : ∀ address, .head address ∈ made → ∀ fault ∈ call.faults.head,
      fault.meansAbsent = true → objects.get? address = none)
    (hapart : TellsApart history html) :
    ∃ address, call.address? = some address ∧
      (publication.unchanged = true ↔
        (objects.get? address).map StoredObject.body = some (Text.utf8 html)) ∧
      (publication.unchanged = true ↔ ∀ request ∈ made, request.isPut = false) := by
  cases hstep with
  | @kept _ address _ _ _ action own unchanged digest =>
    obtain rfl : html = _ := by simpa [haction] using action
    have hbody := h.body_of_digest? hapart digest
    exact ⟨address, own, iff_of_true unchanged hbody,
      iff_of_true unchanged (by simp [StoreCall.isPut])⟩
  | @put _ address _ _ _ stored _ action own unchanged digest differs =>
    obtain rfl : html = _ := by simpa [haction] using action
    have hchanged : ¬publication.unchanged = true := by rw [unchanged]; exact Bool.false_ne_true
    refine ⟨address, own, iff_of_false hchanged fun hbody => ?_,
      iff_of_false hchanged (by simp [StoreCall.isPut])⟩
    -- A store that denies what it has would have a page put that is there already.
    rcases ObjectStore.digest?_eq_ok digest with hstored | ⟨-, fault, hfault, habsent⟩
    · exact differs (hstored.trans ((h.digest_iff hapart).mpr hbody))
    · rw [hhonest address (by simp) fault hfault habsent] at hbody
      cases hbody

/-- Where the objects show a history, a call does its own work and nothing else. -/
theorem isFaithful {storage : Storage} (h : ShowsHistory history storage.objects)
    (hhonest : call.HeadIsHonest storage)
    (hapart : ∀ html ∈ call.action.page?, TellsApart history html) : call.IsFaithful storage where
  failed e he := by
    have hstep := call.bucketStep storage
    rw [he] at hstep
    exact hstep.objects_of_error
  elsewhere other hother := (call.bucketStep storage).get?_of_ne hother
  requests := (call.bucketStep storage).own
  unchanged html publication haction hresult := by
    have hstep := call.bucketStep storage
    rw [hresult] at hstep
    exact h.unchanged_iff haction hstep hhonest (hapart html (by rw [haction]; rfl))

end ShowsHistory

/-- The pages that are published in some calls, in bytes. -/
def publishedPages (calls : List BucketCall) : List ByteArray :=
  (calls.filterMap (·.action.page?)).map Text.utf8

/-- Where hashes tell the pages of a run apart, they tell the next page from those of the past. -/
theorem tellsApart_of_noCollision {calls done rest : List BucketCall} {call : BucketCall}
    (hcollision : Sha256.NoCollision (publishedPages calls)) (hsplit : calls = done ++ call :: rest)
    (start : Storage) : ∀ html ∈ call.action.page?, TellsApart (start.history done) html := by
  intro html hhtml past hpast old hold
  have hmem {other : BucketCall} (hother : other ∈ calls) {page : String}
      (hpage : page ∈ other.action.page?) : Text.utf8 page ∈ publishedPages calls :=
    List.mem_map_of_mem (List.mem_filterMap.mpr ⟨other, hother, hpage⟩)
  refine hcollision _ (hmem ?_ hold) _ (hmem ?_ hhtml)
  · rw [hsplit]
    exact List.mem_append_left _ (Storage.mem_of_mem_history hpast)
  · simp [hsplit]

/-- What some calls leave in empty buckets is what their history says. -/
theorem showsHistory_run {start : Storage} (hempty : start.objects = []) {calls : List BucketCall}
    (hcollision : Sha256.NoCollision (publishedPages calls)) {done todo : List BucketCall}
    (hsplit : calls = done ++ todo) :
    ShowsHistory (start.history done) (start.run done).objects := by
  induction done using List.reverseRecOn generalizing todo with
  | nil =>
    rw [show (start.run []).objects = [] from hempty]
    exact ⟨fun _ _ h => (Option.some_ne_none _ h.symm).elim, fun _ => rfl⟩
  | append_singleton before call ih =>
    have hsplit' : calls = before ++ call :: todo := by simp [hsplit]
    rw [Storage.history_concat, Storage.run_concat]
    exact (ih hsplit').step (call.bucketStep _) (tellsApart_of_noCollision hcollision hsplit' _)

/-- At every point of a run of calls that starts with empty buckets, the objects are what the calls
so far have left, and the next call does its own work and nothing else. -/
theorem bucket_faithful {start : Storage} (hempty : start.objects = [])
    {calls : List BucketCall} (hhonest : start.HeadsAreHonest calls)
    (hcollision : Sha256.NoCollision (publishedPages calls)) {done todo : List BucketCall}
    (hsplit : calls = done ++ todo) :
    ShowsHistory (start.history done) (start.run done).objects ∧
      ∀ call ∈ todo.head?, call.IsFaithful (start.run done) := by
  have hshows := showsHistory_run hempty hcollision hsplit
  refine ⟨hshows, fun call hcall => ?_⟩
  obtain ⟨rest, rfl⟩ := List.head?_eq_some_iff.mp hcall
  have hnext : (start.run done).HeadsAreHonest (call :: rest) := by
    rw [hsplit] at hhonest
    exact hhonest.of_append
  exact hshows.isFaithful hnext.1 (tellsApart_of_noCollision hcollision hsplit _)

/-- A call about the form `f` of the store `s`, whose page goes into the bucket `forms`. -/
def sampleCall (faults : StoreFaults) (action : PageAction) (isProduction : Bool) : BucketCall where
  environment := [("DEPLOY_TARGET", " S3 "), ("FORMS_BUCKET_NAME", "forms"),
    ("APP_ENV", if isProduction then "production" else "local")]
  faults := faults
  storeId := "s"
  formId := "f"
  action := action
  inBucket := by cases isProduction <;> decide +kernel

/-- A page is published when it is put the second time, is there the third time, and is withdrawn;
another page goes elsewhere in the meantime, and then to the same place. -/
def sampleCalls : List BucketCall := [
  sampleCall { put := some (.library "An unspecified error occurred") } (.publish "a") false,
  sampleCall {} (.publish "a") false,
  sampleCall {} (.publish "a") false,
  sampleCall {} (.publish "b") true,
  sampleCall {} .withdraw false,
  sampleCall { head := some (.refused "NoSuchKey" "") } (.publish "b") false]

/-- Where the samples go if they are not in production. -/
def sampleAddress : ObjectAddress := ⟨"forms", "staging/forms/s/f/config/current.html"⟩

/-- Nothing has been published. -/
def sampleStart : Storage := ⟨FileTree.root, [], [], []⟩

theorem bucket_faithful_sampleCalls :
    sampleStart.HeadsAreHonest sampleCalls ∧
      Sha256.NoCollision (publishedPages sampleCalls) ∧
      ((sampleStart.run sampleCalls).objects.get? sampleAddress).map StoredObject.body =
        some (Text.utf8 "b") ∧
      (sampleCall {} (.publish "a") false).IsFaithful (sampleStart.run (sampleCalls.take 2)) := by
  have hhonest : sampleStart.HeadsAreHonest sampleCalls := by
    refine ⟨?_, ?_, ?_, ?_, ?_, ?_, trivial⟩
    iterate 5 exact fun _ _ fault hfault => nomatch hfault
    intro address hhead fault hfault habsent
    have hown := (BucketCall.bucketStep _ _).own _ hhead address rfl
    obtain rfl : sampleAddress = address := by
      refine Option.some.inj (Eq.trans ?_ hown)
      decide +kernel
    refine Option.isNone_iff_eq_none.mp ?_
    decide +kernel
  have hcollision : Sha256.NoCollision (publishedPages sampleCalls) := by
    have hdiffer : contentHash "a" ≠ contentHash "b" := by decide +kernel
    refine Sha256.noCollision_of_ne hdiffer ?_
    simp [publishedPages, sampleCalls, sampleCall, PageAction.page?]
  have hall :=
    (bucket_faithful rfl hhonest hcollision (List.append_nil _).symm).1.page sampleAddress
  have hlast : lastPage? (sampleStart.history sampleCalls) sampleAddress = some "b" := by
    decide +kernel
  rw [hlast] at hall
  refine ⟨hhonest, hcollision, hall, ?_⟩
  exact (bucket_faithful rfl hhonest hcollision (List.take_append_drop 2 sampleCalls).symm).2 _ rfl

end SalonBooking
