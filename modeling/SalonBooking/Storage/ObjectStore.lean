import SalonBooking.Data.Assoc

/-!
# Object stores

An object store keeps objects in buckets, each under a key.  Asking for an
object's metadata, putting an object and deleting one may each be answered by a
fault.  A request that is answered by a fault changes nothing.  Before anything
is asked a client has to be made, and that may fail as well.

* `get?_put`: what a put that succeeds does to the objects.
* `get?_delete`: what a deletion that succeeds does to them.
-/

namespace SalonBooking

/-- Where an object is kept. -/
structure ObjectAddress where
  bucket : String
  key : String
  deriving DecidableEq, Repr

/-- An object as it is kept. -/
structure StoredObject where
  body : ByteArray
  contentType : String
  cacheControl : String
  metadata : Assoc String String

/-- What an object store can be asked. -/
inductive StoreRequest where
  | head
  | put
  | delete
  deriving DecidableEq, Repr

/-- The name under which an object store knows a request. -/
def StoreRequest.name : StoreRequest → String
  | .head => "HeadObject"
  | .put => "PutObject"
  | .delete => "DeleteObject"

/-- Why a request is not fulfilled: the store refuses it, or it does not get there. -/
inductive StoreFault where
  | refused (code reason : String)
  | library (reason : String)
  deriving DecidableEq, Repr

namespace StoreFault

/-- The text of a fault in answer to a request. -/
def message (request : StoreRequest) : StoreFault → String
  | .refused code reason =>
    "An error occurred (" ++ code ++ ") when calling the " ++ request.name ++ " operation: " ++
      reason
  | .library reason => reason

/-- The codes by which a store says that there is no such object. -/
def absenceCodes : List String := ["404", "NoSuchKey", "NotFound"]

/-- Whether a fault says that there is no such object. -/
def meansAbsent : StoreFault → Bool
  | .refused code _ => absenceCodes.contains code
  | .library _ => false

/-- The answer of a store that has no such object. -/
def absent : StoreFault := .refused "404" "Not Found"

end StoreFault

/-- Why there is no client for an object store.  A profile that does not exist is an error of the
library that makes clients, an endpoint that is no address one of a value, and a region that is no
name both. -/
structure ClientFault where
  reason : String
  isLibrary : Bool
  isValue : Bool
  deriving DecidableEq, Repr

/-- The faults that keep a client from being made, or answer the requests of one kind or another. -/
structure StoreFaults where
  client : Option ClientFault := none
  head : Option StoreFault := none
  put : Option StoreFault := none
  delete : Option StoreFault := none
  deriving DecidableEq, Repr

/-- The objects of all buckets. -/
abbrev ObjectStore := Assoc ObjectAddress StoredObject

namespace ObjectStore

/-- The metadata of an object. -/
def head (objects : ObjectStore) (faults : StoreFaults) (address : ObjectAddress) :
    Except StoreFault (Assoc String String) :=
  match faults.head with
  | some fault => .error fault
  | none =>
    match objects.get? address with
    | some object => .ok object.metadata
    | none => .error .absent

/-- The store with an object put at an address. -/
def put (objects : ObjectStore) (faults : StoreFaults) (address : ObjectAddress)
    (object : StoredObject) : Except StoreFault ObjectStore :=
  match faults.put with
  | some fault => .error fault
  | none => .ok (objects.set address object)

/-- The store without the object of an address, if it had one. -/
def delete (objects : ObjectStore) (faults : StoreFaults) (address : ObjectAddress) :
    Except StoreFault ObjectStore :=
  match faults.delete with
  | some fault => .error fault
  | none => .ok (objects.erase address)

theorem get?_put {objects after : ObjectStore} {faults : StoreFaults} {address : ObjectAddress}
    {object : StoredObject} (h : objects.put faults address object = .ok after)
    (other : ObjectAddress) :
    after.get? other = if other = address then some object else objects.get? other := by
  unfold put at h
  split at h
  · cases h
  · obtain rfl := Except.ok.inj h
    split
    · rename_i heq
      rw [heq, Assoc.get?_set_self]
    · rename_i hne
      rw [Assoc.get?_set_of_ne hne]

theorem get?_delete {objects after : ObjectStore} {faults : StoreFaults}
    {address : ObjectAddress} (h : objects.delete faults address = .ok after)
    (other : ObjectAddress) :
    after.get? other = if other = address then none else objects.get? other := by
  unfold delete at h
  split at h
  · cases h
  · obtain rfl := Except.ok.inj h
    split
    · rename_i heq
      rw [heq, Assoc.get?_erase_self]
    · rename_i hne
      rw [Assoc.get?_erase_of_ne hne]

end ObjectStore

end SalonBooking
