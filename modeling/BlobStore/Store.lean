import BlobStore.Key
import BlobStore.Upload

/-!
# Stores

A store keeps blobs under one scope of a bucket. Keys are logical: `Store.objectKey` says which
object a key means. Reading, writing, linking and deleting one blob is one call or one upload;
deleting by prefix and listing are clients of their own, since they take as many calls as there
are pages.
-/

namespace BlobStore

/-- Under which scope a store keeps its blobs, and with which access rule it writes them. -/
structure Store where
  scope : String
  acl : Option String
  deriving DecidableEq, Inhabited, Repr

namespace Store

/-- A store that writes without an access rule if the given one is empty. -/
def new (scope acl : String) : Store := ⟨scope, if acl = "" then none else some acl⟩

/-- The name of the driver that all stores share. -/
def name : String := "S3"

/-- How much an upload reads at a time: 32 MiB. -/
def partSize : Nat := 32 * 1024 * 1024

/-- The most keys that a page holds. -/
def pageSize : Nat := 1000

/-- The longest time for which a link can hold: seven days. -/
def maxExpiry : Span := .ofSecs (7 * 24 * 3600)

/-- The object that a logical key means, or the stem of a listing. -/
def physicalKey (s : Store) (key : String) : String := Key.join s.scope key

/-- The object that a logical key means; the root is none. -/
def objectKey (s : Store) (key : String) : Except StoreError String :=
  if s.physicalKey key = "" then .error (.badKey key) else .ok (s.physicalKey key)

/-- The seconds for which a link over the span holds, narrowed to 32 bits: a second that has begun
counts. -/
def linkSecs (span : Span) : UInt32 := (min span.ceilSecs maxExpiry.secs).toUInt32

/-- The whole seconds for which a link holds. -/
def expirySecs (span : Span) : Except StoreError Nat :=
  if span.isZero ∨ maxExpiry < span then .error (.badExpiry span) else .ok (linkSecs span).toNat

variable {β : Type} [Backend β]

/-! ## One blob -/

def download (s : Store) (key : String) (b : β) : Except StoreError Source × β :=
  match s.objectKey key with
  | .error e => (.error e, b)
  | .ok object => Backend.answer (.get object) b

def link (s : Store) (use : LinkUse) (key : String) (span : Span) (b : β) :
    Except StoreError String × β :=
  match s.objectKey key, expirySecs span with
  | .error e, _ | .ok _, .error e => (.error e, b)
  | .ok object, .ok secs => Backend.answer (.presign use object secs) b

def delete (s : Store) (key : String) (b : β) : Except StoreError Unit × β :=
  match s.objectKey key with
  | .error e => (.error e, b)
  | .ok object => Backend.answer (.delete object) b

/-- Uploads a source; nothing comes back while the source is not ready. -/
def upload (s : Store) (key : String) (source : Source) (b : β) :
    Option (Except StoreError Unit) × β :=
  match s.objectKey key with
  | .error e => (some (.error e), b)
  | .ok object =>
    let (u, b) := Upload.toEnd object s.acl partSize source b
    match u.phase with
    | .finished result => (some (result.map fun _ => ()), b)
    | _ => (none, b)

def ping (b : β) : Except StoreError Unit × β := Backend.answer .check b

/-- Whether any object lies under the key. -/
def contains (s : Store) (key : String) (b : β) : Except StoreError Bool × β :=
  let (reply, b) := Backend.answer (.list (s.physicalKey key) none 1) b
  (reply.map fun page => !page.keys.isEmpty, b)

/-! ## Deleting by prefix -/

/-- Deletes page after page, always from the start, until a page is empty. -/
structure Purge where
  stem : String
  /-- The keys of the page at hand that are still to be deleted. -/
  rest : List String
  ended : Option (Except StoreError Unit)

namespace Purge

def step (p : Purge) : Step Purge (Except StoreError Unit) :=
  match p.ended, p.rest with
  | some result, _ => .done result
  | none, [] =>
    .ask (.list p.stem none pageSize) fun
      | .error e => { p with ended := some (.error e) }
      | .ok page => if page.keys = [] then { p with ended := some (.ok ()) }
        else { p with rest := page.keys }
  | none, key :: rest =>
    .ask (.delete key) fun
      | .error e => { p with ended := some (.error e) }
      | .ok _ => { p with rest }

instance : Client Purge (Except StoreError Unit) := ⟨step⟩

end Purge

/-- The client that deletes every blob whose key starts with the given one. -/
def purge (s : Store) (key : String) : Purge := ⟨s.physicalKey key, [], none⟩

/-! ## Listing -/

/-- Asks for page after page, each from behind the one before. -/
structure Listing where
  stem : String
  perPage : Nat
  token : Option String
  found : List String
  ended : Option (Except StoreError Unit)

namespace Listing

def step (l : Listing) : Step Listing (Except StoreError (List String)) :=
  match l.ended with
  | some result => .done (result.map fun _ => l.found)
  | none =>
    .ask (.list l.stem l.token l.perPage) fun
      | .error e => { l with ended := some (.error e) }
      | .ok page =>
        let found := l.found ++ page.keys
        match page.token, page.truncated with
        | some token, true => { l with found, token := some token }
        | _, _ => { l with found, ended := some (.ok ()) }

instance : Client Listing (Except StoreError (List String)) := ⟨step⟩

end Listing

/-- The client that lists every object key that starts with `stem`, `limit` keys a page. Here keys
are those of the bucket: the scope plays no part. -/
def listing (stem : String) (limit : Nat) : Listing :=
  ⟨.ofList (stem.toList.dropWhile (· = '/')), if limit = 0 then pageSize else min limit pageSize,
    none, [], none⟩

end Store

end BlobStore
