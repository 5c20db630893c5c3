import SalonBooking.Json.Basic
import SalonBooking.Publish.Settings
import SalonBooking.Storage.FileTree
import SalonBooking.Text.Quoted

/-!
# Publications

What publishing a page reports when it succeeds, and why it fails.

A failure of the storage itself is reported with the place it happened at.  A
form or store whose id cannot be the name of a directory or file is refused
before anything is touched, and so is a page with a surrogate in it, which has no
bytes.  What is already stored at the place of a page may be unusable, and there
may be no client for the bucket; that is passed on as the file tree or the
library of clients tells it.
-/

namespace SalonBooking

/-- A page that is published. -/
structure Publication where
  url : String
  storageUrl : String
  environment : String
  contentHash : String
  unchanged : Bool
  deriving DecidableEq, Repr

namespace Publication

/-- The members of a publication as JSON. -/
def members (p : Publication) : List (String × Json) :=
  [("url", .str p.url), ("storage_url", .str p.storageUrl), ("environment", .str p.environment),
    ("content_hash", .str p.contentHash), ("unchanged", .bool p.unchanged)]

/-- A publication as JSON. -/
def toJson (p : Publication) : Json :=
  .obj p.members

end Publication

/-- Why a page is not published or not withdrawn. -/
inductive PublishError where
  | unwritable
  | invalidSegment (segment : String)
  | noBucket
  | noClient (cause : ClientFault)
  | notWritten (path : Path) (cause : FileError)
  | notDeleted (path : Path) (cause : FileError)
  | notUploaded (address : ObjectAddress) (request : StoreRequest) (cause : StoreFault)
  | notRemoved (address : ObjectAddress) (cause : StoreFault)
  | unusable (cause : FileError)
  deriving DecidableEq, Repr

namespace PublishError

/-- The address of an object in messages. -/
def objectText (address : ObjectAddress) : String :=
  "s3://" ++ address.bucket ++ "/" ++ address.key

/-- The text of an error; a page that cannot be written and what is unusable have no text of their
own. -/
def message? : PublishError → Option String
  | .unwritable => none
  | .invalidSegment segment => some ("invalid path segment " ++ Text.quoted segment)
  | .noBucket => some "FORMS_BUCKET_NAME must be set when DEPLOY_TARGET=s3"
  | .noClient cause => some cause.reason
  | .notWritten path _ => some ("could not write " ++ path.text)
  | .notDeleted path _ => some ("could not delete " ++ path.text)
  | .notUploaded address request cause =>
    some ("upload to " ++ objectText address ++ " failed: " ++ cause.message request)
  | .notRemoved address cause =>
    some ("delete of " ++ objectText address ++ " failed: " ++ cause.message .delete)
  | .unusable _ => none

/-- Whether an error is told to the one who asked.  That is so for every error but those by which
a stored page cannot be looked at and a client not be made; unusable values are told in both
cases. -/
def isReported : PublishError → Bool
  | .unusable cause => cause.isUnusableValue
  | .noClient cause => cause.isValue
  | _ => true

end PublishError

end SalonBooking
