import SalonBooking.Proofs.Publish.Bucket
import SalonBooking.Proofs.Text.Split

/-!
# Pages of different forms in one bucket

The key of a page puts the ids of the store and of the form side by side with a
slash between them, and both may have slashes of their own.  So the keys of two
forms are the same exactly if the ids make the same text when they are joined;
ids without slashes never do.

Where the keys differ, neither form can tell that there is the other one: leave
out the calls about one of them, and the calls about the other meet the same
answers, make the same requests and leave the same object
(`bucket_isolated`).  What carries this is that a call looks at the object of
its own address only (`BucketCall.perform_congr`) and changes no other one
(`BucketStep.get?_of_ne`).
-/

namespace SalonBooking

/-! ## Keys -/

/-- The keys of two pages are the same exactly if their ids are the same when they are joined. -/
theorem Settings.objectKey_inj (settings : Settings) {storeId formId storeId' formId' : String} :
    settings.objectKey storeId formId = settings.objectKey storeId' formId' ↔
      storeId ++ "/" ++ formId = storeId' ++ "/" ++ formId' := by
  simp only [objectKey, String.append_assoc, String.append_right_inj]
  simp only [← String.append_assoc, String.append_left_inj]

theorem toList_joined (storeId formId : String) :
    (storeId ++ "/" ++ formId).toList = storeId.toList ++ '/' :: formId.toList := by
  simp only [String.toList_append, List.append_assoc]
  rfl

/-- Ids without slashes, of the stores or of the forms, are not confused when they are joined. -/
theorem eq_of_joined {storeId formId storeId' formId' : String}
    (hslash : '/' ∉ storeId.toList ∧ '/' ∉ storeId'.toList ∨
      '/' ∉ formId.toList ∧ '/' ∉ formId'.toList)
    (heq : storeId ++ "/" ++ formId = storeId' ++ "/" ++ formId') :
    storeId = storeId' ∧ formId = formId' := by
  have hlist := congrArg String.toList heq
  rw [toList_joined, toList_joined] at hlist
  rcases hslash with ⟨h, h'⟩ | ⟨h, h'⟩
  · obtain ⟨hstore, hform⟩ := Text.append_separator_inj h h' hlist
    exact ⟨String.toList_inj.mp hstore, String.toList_inj.mp hform⟩
  · obtain ⟨hstore, hform⟩ := Text.append_separator_inj_right h h' hlist
    exact ⟨String.toList_inj.mp hstore, String.toList_inj.mp hform⟩

/-! ## What a call looks at -/

namespace ObjectStore

variable {objects other : ObjectStore} {address : ObjectAddress}

/-- Publishing at an address looks at the object of this address only. -/
theorem publish_congr (h : objects.get? address = other.get? address) (faults : StoreFaults)
    (html : String) :
    (objects.publish faults address html).result = (other.publish faults address html).result ∧
    (objects.publish faults address html).calls = (other.publish faults address html).calls ∧
    (objects.publish faults address html).objects.get? address =
      (other.publish faults address html).objects.get? address := by
  have hdigest : objects.digest? faults address = other.digest? faults address := by
    simp only [digest?, head, h]
  simp only [publish, hdigest]
  split
  · exact ⟨rfl, rfl, h⟩
  · split
    · exact ⟨rfl, rfl, h⟩
    · split
      · exact ⟨rfl, rfl, h⟩
      · cases hput : faults.put with
        | some fault => simp only [put, hput, h, and_self]
        | none => simp only [put, hput, Assoc.get?_set_self, and_self]

/-- So does withdrawing. -/
theorem withdraw_congr (h : objects.get? address = other.get? address) (faults : StoreFaults) :
    (objects.withdraw faults address).result = (other.withdraw faults address).result ∧
    (objects.withdraw faults address).calls = (other.withdraw faults address).calls ∧
    (objects.withdraw faults address).objects.get? address =
      (other.withdraw faults address).objects.get? address := by
  simp only [withdraw]
  split
  · exact ⟨rfl, rfl, h⟩
  · cases hdelete : faults.delete with
    | some fault => simp only [delete, hdelete, h, and_self]
    | none => simp only [delete, hdelete, Assoc.get?_erase_self, and_self]

end ObjectStore

namespace BucketCall

/-- What is answered to a call, what it asks for and what it leaves at its address depend on the
object of this address only. -/
theorem perform_congr {call : BucketCall} {storage other : Storage}
    (h : ∀ address ∈ call.address?, storage.objects.get? address = other.objects.get? address) :
    (call.perform storage).1 = (call.perform other).1 ∧
    call.requests storage = call.requests other ∧
    ∀ address ∈ call.address?, (call.perform storage).2.objects.get? address =
      (call.perform other).2.objects.get? address := by
  have hbucket : call.settings.target = .bucket := call.inBucket
  have haddress : call.address? =
    (call.settings.pageAddress? call.storeId call.formId).toOption := rfl
  cases haction : call.action with
  | publish html =>
    simp only [requests, perform, haction, Settings.publish, hbucket, Settings.publishObject]
    by_cases hwritable : Text.isWritable html = true
    · simp only [hwritable, Bool.not_true, Bool.false_eq_true, if_false]
      cases hnamed : call.settings.pageAddress? call.storeId call.formId with
      | error e =>
        simp only [List.drop_length, true_and]
        exact h
      | ok address =>
        have hown : call.address? = some address := by rw [haddress, hnamed]; rfl
        obtain ⟨hresult, hcalls, hobject⟩ := ObjectStore.publish_congr
          (h address (by rw [hown]; rfl)) call.faults html
        simp only [hown, Option.mem_def, Option.some.injEq, forall_eq']
        rw [hresult]
        split <;>
          simp only [Storage.note, Storage.settle, List.drop_left, hcalls, hobject, and_self]
    · simp only [hwritable, Bool.not_false, if_true, List.drop_length, true_and]
      exact h
  | withdraw =>
    simp only [requests, perform, haction, Settings.withdraw, hbucket, Settings.withdrawObject]
    cases hnamed : call.settings.pageAddress? call.storeId call.formId with
    | error e =>
      simp only [List.drop_length, true_and]
      exact h
    | ok address =>
      have hown : call.address? = some address := by rw [haddress, hnamed]; rfl
      obtain ⟨hresult, hcalls, hobject⟩ := ObjectStore.withdraw_congr
        (h address (by rw [hown]; rfl)) call.faults
      simp only [hown, Option.mem_def, Option.some.injEq, forall_eq']
      rw [hresult]
      split <;>
        simp only [Storage.note, Storage.settle, List.drop_left, hcalls, hobject, and_self]

/-- Whether a call is about the form of a store. -/
def isAbout (storeId formId : String) (call : BucketCall) : Bool :=
  call.storeId == storeId && call.formId == formId

theorem isAbout_iff {storeId formId : String} {call : BucketCall} :
    call.isAbout storeId formId = true ↔ call.storeId = storeId ∧ call.formId = formId := by
  simp [isAbout]

/-- A call about a form goes to the address of its page. -/
theorem address?_of_isAbout {call : BucketCall} {environment : Environment}
    (henvironment : call.environment = environment) {bucket storeId formId : String}
    (hbucket : (Settings.ofEnvironment environment).bucket = some bucket)
    (habout : call.isAbout storeId formId = true) : call.address? =
      some ⟨bucket, (Settings.ofEnvironment environment).objectKey storeId formId⟩ := by
  obtain ⟨hstore, hform⟩ := isAbout_iff.mp habout
  simp only [address?, settings, Settings.pageAddress?, henvironment, hbucket, hstore, hform]
  rfl

end BucketCall

/-! ## What a run of calls can tell -/

/-- Stores have the same objects, apart from the one at an address. -/
def AgreeElsewhere (address : ObjectAddress) (objects other : ObjectStore) : Prop :=
  ∀ elsewhere, elsewhere ≠ address → objects.get? elsewhere = other.get? elsewhere

/-- A call keeps stores in agreement elsewhere, whatever address it is about. -/
theorem AgreeElsewhere.perform {address : ObjectAddress} {storage other : Storage}
    (h : AgreeElsewhere address storage.objects other.objects) (call : BucketCall) :
    AgreeElsewhere address (call.perform storage).2.objects (call.perform other).2.objects := by
  intro elsewhere hne
  by_cases hown : call.address? = some elsewhere
  · have hobject : ∀ own ∈ call.address?, storage.objects.get? own = other.objects.get? own := by
      intro own hmem
      rw [hown] at hmem
      exact Option.some.inj hmem ▸ h elsewhere hne
    exact (BucketCall.perform_congr hobject).2.2 elsewhere hown
  · rw [(call.bucketStep storage).get?_of_ne hown, (call.bucketStep other).get?_of_ne hown]
    exact h elsewhere hne

/-- A call about an address changes nothing elsewhere. -/
theorem AgreeElsewhere.perform_left {address : ObjectAddress} {storage : Storage}
    {other : ObjectStore} (h : AgreeElsewhere address storage.objects other) {call : BucketCall}
    (hown : call.address? = some address) :
    AgreeElsewhere address (call.perform storage).2.objects other := by
  intro elsewhere hne
  rw [(call.bucketStep storage).get?_of_ne (by simpa [hown] using hne.symm)]
  exact h elsewhere hne

/-- A call with its result and the requests that it made. -/
structure Dealing where
  call : BucketCall
  result : Except PublishError PageAnswer
  requests : List StoreCall

/-- The calls with their results and requests. -/
def Storage.dealings (storage : Storage) : List BucketCall → List Dealing
  | [] => []
  | call :: rest =>
    ⟨call, (call.perform storage).1, call.requests storage⟩ ::
      (call.perform storage).2.dealings rest

/-- The dealings that are about the form of a store. -/
def dealingsAbout (storeId formId : String) (dealings : List Dealing) : List Dealing :=
  dealings.filter (·.call.isAbout storeId formId)

/-- The calls that are not about the form of a store. -/
def callsWithout (storeId formId : String) (calls : List BucketCall) : List BucketCall :=
  calls.filter fun call => !call.isAbout storeId formId

theorem dealingsAbout_cons (storeId formId : String) (storage : Storage) (call : BucketCall)
    (rest : List BucketCall) :
    dealingsAbout storeId formId (storage.dealings (call :: rest)) =
      (if call.isAbout storeId formId then
        [⟨call, (call.perform storage).1, call.requests storage⟩] else []) ++
        dealingsAbout storeId formId ((call.perform storage).2.dealings rest) := by
  rw [dealingsAbout, Storage.dealings, List.filter_cons]
  split <;> rfl

/-- Leaving out the calls about one address keeps the stores in agreement elsewhere, and it keeps
the dealings about a form whose page is elsewhere.  The induction is on the calls; what carries it
is the agreement. -/
theorem AgreeElsewhere.run {address : ObjectAddress} {storeId formId storeId' formId' : String}
    {storage other : Storage} {calls : List BucketCall}
    (h : AgreeElsewhere address storage.objects other.objects)
    (hthere : ∀ call ∈ calls, call.isAbout storeId' formId' = true → call.address? = some address)
    (helsewhere : ∀ call ∈ calls, call.isAbout storeId formId = true →
      call.address? ≠ some address) :
    AgreeElsewhere address (storage.run calls).objects
      (other.run (callsWithout storeId' formId' calls)).objects ∧
    dealingsAbout storeId formId (storage.dealings calls) =
      dealingsAbout storeId formId (other.dealings (callsWithout storeId' formId' calls)) := by
  induction calls generalizing storage other with
  | nil => exact ⟨h, rfl⟩
  | cons call rest ih =>
    have hrest {next last : Storage} (hnext : AgreeElsewhere address next.objects last.objects) :=
      ih hnext (fun c hc => hthere c (List.mem_cons_of_mem call hc))
        (fun c hc => helsewhere c (List.mem_cons_of_mem call hc))
    by_cases hleft : call.isAbout storeId' formId' = true
    · have hown := hthere call List.mem_cons_self hleft
      have hnot : call.isAbout storeId formId = false := Bool.eq_false_iff.mpr fun habout =>
        helsewhere call List.mem_cons_self habout hown
      have hwithout : callsWithout storeId' formId' (call :: rest) =
          callsWithout storeId' formId' rest := List.filter_cons_of_neg (by simp [hleft])
      obtain ⟨hobjects, hdealings⟩ := hrest (h.perform_left hown)
      rw [hwithout, dealingsAbout_cons, hnot, hdealings]
      exact ⟨hobjects, rfl⟩
    · have hwithout : callsWithout storeId' formId' (call :: rest) =
          call :: callsWithout storeId' formId' rest := List.filter_cons_of_pos (by simp [hleft])
      obtain ⟨hobjects, hdealings⟩ := hrest (h.perform call)
      rw [hwithout, dealingsAbout_cons, dealingsAbout_cons, hdealings]
      refine ⟨hobjects, ?_⟩
      by_cases habout : call.isAbout storeId formId = true
      · have hne := helsewhere call List.mem_cons_self habout
        have hobject : ∀ own ∈ call.address?,
            storage.objects.get? own = other.objects.get? own := by
          intro own hmem
          exact h own fun heq => hne (heq ▸ hmem)
        obtain ⟨hresult, hrequests, -⟩ := BucketCall.perform_congr hobject
        rw [hresult, hrequests]
      · simp only [habout, Bool.false_eq_true, if_false]

/-- Under one environment the pages of two forms have the same key exactly if the ids of store and
form make the same text when they are joined, which ids without slashes never do.  Where the keys
differ no call about one of the forms can be noticed by the other: with the calls about the one or
without them, the calls about the other meet the same answers and make the same requests, and its
object is the same in the end. -/
theorem bucket_isolated {environment : Environment} {bucket : String}
    (hbucket : (Settings.ofEnvironment environment).bucket = some bucket)
    {calls : List BucketCall} (henvironment : ∀ call ∈ calls, call.environment = environment)
    (start : Storage) {storeId formId storeId' formId' : String}
    (hdifferent : (storeId, formId) ≠ (storeId', formId')) :
    let key := (Settings.ofEnvironment environment).objectKey
    let without := callsWithout storeId' formId' calls
    (key storeId formId = key storeId' formId' ↔
      storeId ++ "/" ++ formId = storeId' ++ "/" ++ formId') ∧
    ('/' ∉ storeId.toList ∧ '/' ∉ storeId'.toList ∨ '/' ∉ formId.toList ∧ '/' ∉ formId'.toList →
      key storeId formId ≠ key storeId' formId') ∧
    (key storeId formId ≠ key storeId' formId' →
      (start.run calls).objects.get? ⟨bucket, key storeId formId⟩ =
        (start.run without).objects.get? ⟨bucket, key storeId formId⟩ ∧
      dealingsAbout storeId formId (start.dealings calls) =
        dealingsAbout storeId formId (start.dealings without)) := by
  intro key without
  have hinj : key storeId formId = key storeId' formId' ↔
      storeId ++ "/" ++ formId = storeId' ++ "/" ++ formId' := Settings.objectKey_inj _
  refine ⟨hinj, fun hslash heq => ?_, fun hkeys => ?_⟩
  · obtain ⟨rfl, rfl⟩ := eq_of_joined hslash (hinj.mp heq)
    exact hdifferent rfl
  · have haddress : (⟨bucket, key storeId formId⟩ : ObjectAddress) ≠
        ⟨bucket, key storeId' formId'⟩ := by simpa using hkeys
    have hagree : AgreeElsewhere ⟨bucket, key storeId' formId'⟩ start.objects start.objects :=
      fun _ _ => rfl
    obtain ⟨hobjects, hdealings⟩ := hagree.run
      (fun call hcall => BucketCall.address?_of_isAbout (henvironment call hcall) hbucket)
      (fun call hcall habout => by
        rw [BucketCall.address?_of_isAbout (henvironment call hcall) hbucket habout]
        exact mt Option.some.inj haddress)
    exact ⟨hobjects _ haddress, hdealings⟩

/-- An environment in which pages go into the bucket `forms`. -/
def sharedBucket : Environment := [("DEPLOY_TARGET", "s3"), ("FORMS_BUCKET_NAME", "forms")]

/-- A call about a form whose page goes there. -/
def sharedCall (storeId formId : String) (action : PageAction) : BucketCall where
  environment := sharedBucket
  faults := {}
  storeId := storeId
  formId := formId
  action := action
  inBucket := by decide +kernel

/-- What is stored for the form `b` of the store `a`. -/
def Storage.sharedPage? (storage : Storage) : Option ByteArray :=
  (storage.objects.get? ⟨"forms", "staging/forms/a/b/config/current.html"⟩).map StoredObject.body

/-- Two forms of one store, one with a slash in its id, are published in turn, and the second one is
withdrawn. -/
def sharedCalls : List BucketCall := [sharedCall "a" "b" (.publish "x"),
  sharedCall "a" "b/c" (.publish "y"), sharedCall "a" "b" (.publish "x"),
  sharedCall "a" "b/c" .withdraw]

/-- The page of the first form stays, and it is found unchanged when it is published again. -/
theorem bucket_isolated_sharedCalls :
    (∀ call ∈ sharedCalls, call.environment = sharedBucket) ∧
      (sampleStart.run sharedCalls).sharedPage? = some (Text.utf8 "x") ∧
      (dealingsAbout "a" "b" (sampleStart.dealings sharedCalls)).map (·.requests.length) =
        [3, 2] := by
  have henvironment : ∀ call ∈ sharedCalls, call.environment = sharedBucket := by
    simp [sharedCalls, sharedCall]
  have hbucket : (Settings.ofEnvironment sharedBucket).bucket = some "forms" := by decide +kernel
  obtain ⟨-, hslash, hisolated⟩ := bucket_isolated hbucket henvironment sampleStart
    (by decide : ("a", "b") ≠ ("a", "b/c"))
  obtain ⟨hobject, hdealings⟩ := hisolated (hslash (Or.inl (by decide)))
  refine ⟨henvironment, ?_, ?_⟩
  · have hkey : (Settings.ofEnvironment sharedBucket).objectKey "a" "b" =
        "staging/forms/a/b/config/current.html" := by decide +kernel
    rw [hkey] at hobject
    rw [Storage.sharedPage?, hobject]
    decide +kernel
  · rw [hdealings]
    decide +kernel

/-- The form `c` of the store `a/b` is published. -/
def slashedPage : Storage := sampleStart.run [sharedCall "a/b" "c" (.publish "x")]

/-- Ids with slashes can make the same key.  Then a page is taken for unchanged because the form of
another store has it, and that one is replaced and withdrawn by calls about the first. -/
theorem bucket_not_isolated :
    (Settings.ofEnvironment sharedBucket).objectKey "a/b" "c" =
        (Settings.ofEnvironment sharedBucket).objectKey "a" "b/c" ∧
      ((sharedCall "a" "b/c" (.publish "x")).requests slashedPage).any StoreCall.isPut = false ∧
      ((sharedCall "a" "b/c" (.publish "y")).perform slashedPage).2.objects.map (·.2.body) =
        [Text.utf8 "y"] ∧
      ((sharedCall "a" "b/c" .withdraw).perform slashedPage).2.objects.isEmpty = true := by
  decide +kernel

end SalonBooking
