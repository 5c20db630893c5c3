import SalonBooking.Digest.Sha256
import SalonBooking.Publish.Publication

/-!
# Publishing into a bucket

The page of a form is an object whose metadata carry the hash of the page.  The
metadata of the object that is there decide whether the page has changed; an
unchanged page is not put again.

Whoever reads the result can tell which requests were made and in which order,
the one that failed included.  Without a client none is made.
-/

namespace SalonBooking

/-- The name under which the metadata carry the hash of the page. -/
def digestKey : String := "content-sha256"

/-- The content type of a page. -/
def pageContentType : String := "text/html; charset=utf-8"

/-- How long a page may be kept by those who pass it on. -/
def pageCacheControl : String := "max-age=3600"

/-- A page as an object. -/
def pageObject (html : String) : StoredObject where
  body := Text.utf8 html
  contentType := pageContentType
  cacheControl := pageCacheControl
  metadata := [(digestKey, contentHash html)]

/-- A step of the dealings with an object store. -/
inductive StoreCall where
  | connect (region : String) (endpoint : Option String)
  | head (address : ObjectAddress)
  | put (address : ObjectAddress) (object : StoredObject)
  | delete (address : ObjectAddress)

/-- What comes of dealings with an object store. -/
structure Exchange (α : Type) where
  result : Except PublishError α
  objects : ObjectStore
  calls : List StoreCall

namespace ObjectStore

/-- The hash that the metadata of an object carry, if there is such an object. -/
def digest? (objects : ObjectStore) (faults : StoreFaults) (address : ObjectAddress) :
    Except StoreFault (Option String) :=
  match objects.head faults address with
  | .ok metadata => .ok (metadata.get? digestKey)
  | .error fault => if fault.meansAbsent then .ok none else .error fault

/-- Publishing a page at an address; the result tells whether it was there before. -/
def publish (objects : ObjectStore) (faults : StoreFaults) (address : ObjectAddress)
    (html : String) : Exchange Bool :=
  match faults.client with
  | some fault => ⟨.error (.noClient fault), objects, []⟩
  | none =>
    match objects.digest? faults address with
    | .error fault => ⟨.error (.notUploaded address .head fault), objects, [.head address]⟩
    | .ok digest =>
      if digest = some (contentHash html) then ⟨.ok true, objects, [.head address]⟩
      else
        let calls := [.head address, .put address (pageObject html)]
        match objects.put faults address (pageObject html) with
        | .error fault => ⟨.error (.notUploaded address .put fault), objects, calls⟩
        | .ok after => ⟨.ok false, after, calls⟩

/-- The error of a page that is not withdrawn for want of a client.  Unlike publishing, withdrawing
tells an error of the library as one of the removal. -/
def withdrawError (address : ObjectAddress) (fault : ClientFault) : PublishError :=
  if fault.isLibrary then .notRemoved address (.library fault.reason) else .noClient fault

/-- Withdrawing the page of an address, whether or not there is one. -/
def withdraw (objects : ObjectStore) (faults : StoreFaults) (address : ObjectAddress) :
    Exchange Unit :=
  match faults.client with
  | some fault => ⟨.error (withdrawError address fault), objects, []⟩
  | none =>
    match objects.delete faults address with
    | .error fault => ⟨.error (.notRemoved address fault), objects, [.delete address]⟩
    | .ok after => ⟨.ok (), after, [.delete address]⟩

end ObjectStore

end SalonBooking
