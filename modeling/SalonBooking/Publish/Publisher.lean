import SalonBooking.Json.Display
import SalonBooking.Publish.Bucket
import SalonBooking.Publish.Directory

/-!
# Publishing and withdrawing pages

Publishing puts a page where the settings say, and withdrawing takes it away
again.  Both report what they did in a line of the log; one that fails reports
nothing.  Withdrawing a page that is not there is no failure: for a directory
the answer is no, for a bucket it is not known.
-/

namespace SalonBooking

/-- Where pages are kept, with the dealings and reports so far. -/
structure Storage where
  files : FileTree
  objects : ObjectStore
  calls : List StoreCall
  log : List String

/-- The faults that an operation on the storage may meet. -/
structure Faults where
  store : StoreFaults := {}
  files : FileFaults := {}

/-- What an operation on the storage answers, and the storage after it. -/
abbrev Outcome (α : Type) := Except PublishError α × Storage

namespace Storage

/-- The storage with one more line in the log. -/
def note (storage : Storage) (line : String) : Storage :=
  { storage with log := storage.log ++ [line] }

/-- The storage after dealings with the object store. -/
def settle {α : Type} (storage : Storage) (settings : Settings) (exchange : Exchange α) :
    Storage :=
  { storage with
    objects := exchange.objects
    calls := storage.calls ++ .connect settings.region settings.endpoint :: exchange.calls }

end Storage

/-- The beginning of a line of the log. -/
def logHead (action place storeId formId : String) : String :=
  "[deployer." ++ action ++ "] " ++ place ++ " store=" ++ storeId ++ " form=" ++ formId

/-- How the log says whether a page was there before. -/
def unchangedText (unchanged : Bool) : String :=
  " unchanged=" ++ (Json.bool unchanged).display

/-! ## Directory -/

/-- The report of a page published into a directory. -/
def Settings.filePublication (settings : Settings) (storeId formId html : String) (path : Path)
    (files : FileTree) (unchanged : Bool) : Publication where
  url := settings.publicUrl (storeId ++ "/" ++ formId ++ ".html")
    (path.locationFrom files.workingDirectory).address
  storageUrl := path.text
  environment := "local"
  contentHash := contentHash html
  unchanged := unchanged

/-- Publishing a page into the directory of pages. -/
def Settings.publishFile (settings : Settings) (faults : FileFaults)
    (storeId formId html : String) (storage : Storage) : Outcome Publication :=
  match settings.pagePath? storeId formId with
  | .error e => (.error e, storage)
  | .ok path =>
    match storage.files.publish faults path html with
    | (.error e, files) => (.error e, { storage with files })
    | (.ok unchanged, files) =>
      (.ok (settings.filePublication storeId formId html path files unchanged),
        { storage with files }.note
          (logHead "deploy_form" "local" storeId formId ++ unchangedText unchanged ++
            " path=" ++ path.text))

/-- Withdrawing a page from the directory of pages. -/
def Settings.withdrawFile (settings : Settings) (faults : FileFaults)
    (storeId formId : String) (storage : Storage) : Outcome Bool :=
  match settings.pagePath? storeId formId with
  | .error e => (.error e, storage)
  | .ok path =>
    match storage.files.withdraw faults path with
    | (.error e, files) => (.error e, { storage with files })
    | (.ok false, files) => (.ok false, { storage with files })
    | (.ok true, files) =>
      (.ok true, { storage with files }.note
        (logHead "delete_form" "local" storeId formId ++ " path=" ++ path.text))

/-! ## Bucket -/

/-- The address of a form's page in the bucket. -/
def Settings.pageAddress? (settings : Settings) (storeId formId : String) :
    Except PublishError ObjectAddress :=
  match settings.bucket with
  | some bucket => .ok ⟨bucket, settings.objectKey storeId formId⟩
  | none => .error .noBucket

/-- The report of a page published into a bucket. -/
def Settings.objectPublication (settings : Settings) (html : String) (address : ObjectAddress)
    (unchanged : Bool) : Publication where
  url := settings.publicUrl address.key (settings.objectUrl address)
  storageUrl := settings.objectUrl address
  environment := settings.stage.name
  contentHash := contentHash html
  unchanged := unchanged

/-- Publishing a page into the bucket. -/
def Settings.publishObject (settings : Settings) (faults : StoreFaults)
    (storeId formId html : String) (storage : Storage) : Outcome Publication :=
  match settings.pageAddress? storeId formId with
  | .error e => (.error e, storage)
  | .ok address =>
    let exchange := storage.objects.publish faults address html
    let after := storage.settle settings exchange
    match exchange.result with
    | .error e => (.error e, after)
    | .ok unchanged =>
      (.ok (settings.objectPublication html address unchanged),
        after.note (logHead "deploy_form" "s3" storeId formId ++ unchangedText unchanged ++
          " key=" ++ address.key))

/-- Withdrawing a page from the bucket. -/
def Settings.withdrawObject (settings : Settings) (faults : StoreFaults)
    (storeId formId : String) (storage : Storage) : Outcome Bool :=
  match settings.pageAddress? storeId formId with
  | .error e => (.error e, storage)
  | .ok address =>
    let exchange := storage.objects.withdraw faults address
    let after := storage.settle settings exchange
    match exchange.result with
    | .error e => (.error e, after)
    | .ok () =>
      (.ok true, after.note (logHead "delete_form" "s3" storeId formId ++ " key=" ++ address.key))

/-! ## Either target -/

/-- Publishing the page of a form.  A page is hashed before anything else, so one that cannot be
written is refused whatever the settings are. -/
def Settings.publish (settings : Settings) (faults : Faults)
    (storeId formId html : String) (storage : Storage) : Outcome Publication :=
  if !Text.isWritable html then (.error .unwritable, storage)
  else
    match settings.target with
    | .bucket => settings.publishObject faults.store storeId formId html storage
    | .directory => settings.publishFile faults.files storeId formId html storage

/-- Withdrawing the page of a form; the answer is whether there was one, as far as that is
known. -/
def Settings.withdraw (settings : Settings) (faults : Faults) (storeId formId : String)
    (storage : Storage) : Outcome Bool :=
  match settings.target with
  | .bucket => settings.withdrawObject faults.store storeId formId storage
  | .directory => settings.withdrawFile faults.files storeId formId storage

end SalonBooking
