import SalonBooking.Digest.Sha256
import SalonBooking.Publish.Publication
import SalonBooking.Storage.FileFaults

/-!
# Publishing into a directory

The page of a form is the file `<form>.html` in the directory `<store>` of the
directory of pages.  A page that is there already with the same content, up to
line ends, is left alone.
-/

namespace SalonBooking

/-- Whether an id can be the name of a directory or file. -/
def isSegment (id : String) : Bool :=
  !id.isEmpty && id != "." && id != Path.up &&
    !id.toList.contains '/' && !id.toList.contains '\\'

/-- The path of a form's page, if the ids can be names; the store's id is looked at first. -/
def Settings.pagePath? (settings : Settings) (storeId formId : String) :
    Except PublishError Path :=
  if !isSegment storeId then .error (.invalidSegment storeId)
  else if !isSegment formId then .error (.invalidSegment formId)
  else .ok (settings.pagePath storeId formId)

namespace FileTree

variable (t : FileTree) (faults : FileFaults) (path : Path)

/-- Whether a page with the same content is at the end of a path. -/
def holdsPage (html : String) : Except FileError Bool :=
  match faults.exists? t path with
  | .error e => .error e
  | .ok false => .ok false
  | .ok true =>
    match faults.readText t path with
    | .error e => .error e
    | .ok text => .ok (contentHash text == contentHash html)

/-- The error of a page that cannot be written. -/
def writeError (cause : FileError) : PublishError :=
  if cause.isUnusableValue then .unusable cause else .notWritten path cause

/-- The tree with a page written at the end of a path, and the directories that takes. -/
def writePage (html : String) : Except PublishError Unit × FileTree :=
  match faults.makeDirectories t path.parent with
  | (.error e, made) => (.error (writeError path e), made)
  | (.ok (), made) =>
    match faults.write made path (Text.utf8 html) with
    | (.error e, after) => (.error (writeError path e), after)
    | (.ok (), written) => (.ok (), written)

/-- The tree with a page published at the end of a path, and whether it was there before. -/
def publish (html : String) : Except PublishError Bool × FileTree :=
  match t.holdsPage faults path html with
  | .error e => (.error (.unusable e), t)
  | .ok true => (.ok true, t)
  | .ok false =>
    match t.writePage faults path html with
    | (.error e, after) => (.error e, after)
    | (.ok (), after) => (.ok false, after)

/-- The tree with the page at the end of a path withdrawn, and whether there was one. -/
def withdraw : Except PublishError Bool × FileTree :=
  match faults.exists? t path with
  | .error e => (.error (.unusable e), t)
  | .ok false => (.ok false, t)
  | .ok true =>
    match faults.delete t path with
    | .error e => (.error (.notDeleted path e), t)
    | .ok after => (.ok true, after)

end FileTree

end SalonBooking
