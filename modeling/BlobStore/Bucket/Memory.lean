import BlobStore.Bucket.Link
import BlobStore.SortedMap

/-!
# A bucket in memory

Objects by key, uploads that are still open, and a few counters. It keeps the rules of a real
bucket: keys are listed in order and page by page, an upload in parts becomes an object only when
it is completed, and deleting what is not there is no error. Faults can be switched on.

`Bucket.objects` is the view of it as a finite map.
-/

namespace BlobStore

structure StoredObject where
  data : ByteArray
  acl : Option String
  deriving Inhabited

instance : DecidableEq StoredObject := fun x y =>
  have := ByteArray.decEq x.data y.data
  decidable_of_iff (x.data = y.data ∧ x.acl = y.acl) (by cases x; cases y; simp)

/-- An upload in parts that is still open; a part that is sent again replaces the earlier one. -/
structure PendingUpload where
  key : String
  acl : Option String
  parts : SortedMap Nat ByteArray

/-- A bucket in memory. -/
structure Bucket where
  name : String
  objects : SortedMap String StoredObject
  pending : SortedMap String PendingUpload
  /-- How many uploads were ever opened. -/
  created : Nat
  aborted : Nat
  /-- How many pages were asked for. -/
  listed : Nat
  /-- Numbers of parts that fail. -/
  failingParts : List Nat
  /-- A failing part drops its whole upload. -/
  dropsOnFailure : Bool
  /-- Which page request fails, counted from one. -/
  failingPage : Option Nat
  unreachable : Bool

namespace Bucket

/-- A new bucket: no objects, no uploads, no faults. -/
def new (name : String) : Bucket :=
  ⟨name, .empty, .empty, 0, 0, 0, [], false, none, false⟩

/-! ## Switching faults on -/

def failPart (b : Bucket) (number : Nat) : Bucket :=
  { b with failingParts := number :: b.failingParts }

def dropOnFailure (b : Bucket) : Bucket := { b with dropsOnFailure := true }

def failPage (b : Bucket) (n : Nat) : Bucket := { b with failingPage := some n }

def setUnreachable (b : Bucket) (value : Bool) : Bucket := { b with unreachable := value }

/-! ## Objects -/

def store (b : Bucket) (key : String) (object : StoredObject) : Bucket :=
  { b with objects := b.objects.insert key object }

def get (b : Bucket) (key : String) : Except StoreError Source :=
  match b.objects.get? key with
  | some object => .ok (.ofBytes object.data)
  | none => .error (.notFound key)

def delete (b : Bucket) (key : String) : Bucket := { b with objects := b.objects.erase key }

/-! ## Uploads in parts -/

/-- The id of the `n`-th upload. -/
def uploadId (n : Nat) : String := "upload-" ++ Text.decimal n

/-- The mark of a part. -/
def partEtag (upload : String) (number : Nat) : String :=
  "\"" ++ upload ++ "-" ++ Text.decimal number ++ "\""

def create (b : Bucket) (key : String) (acl : Option String) : String × Bucket :=
  let id := uploadId (b.created + 1)
  (id, { b with created := b.created + 1, pending := b.pending.insert id ⟨key, acl, .empty⟩ })

/-- The bucket without an open upload, counted as aborted if it was there. -/
def dropUpload (b : Bucket) (upload : String) : Bucket :=
  if b.pending.contains upload then
    { b with pending := b.pending.erase upload, aborted := b.aborted + 1 }
  else b

/-- The upload is not open, or not for this key. -/
def noSuchUpload (title : String) : StoreError := .http title 404 "NoSuchUpload"

def part (b : Bucket) (key upload : String) (number : Nat) (data : ByteArray) :
    Except StoreError CompletedPart × Bucket :=
  if number ∈ b.failingParts then
    (.error (.http Title.part 500 "InternalError"),
      if b.dropsOnFailure then b.dropUpload upload else b)
  else
    match b.pending.get? upload with
    | some entry =>
      if entry.key = key then
        (.ok ⟨number, partEtag upload number⟩,
          { b with
            pending := b.pending.insert upload
              { entry with parts := entry.parts.insert number data } })
      else (.error (noSuchUpload Title.part), b)
    | none => (.error (noSuchUpload Title.part), b)

/-- Joins the listed parts; their numbers have to ascend from one on, and each has to be there. -/
def joinParts (parts : SortedMap Nat ByteArray) :
    (last : Nat) → (joined : ByteArray) → List CompletedPart → Except StoreError ByteArray
  | _, joined, [] => .ok joined
  | last, joined, part :: rest =>
    if part.number ≤ last then .error (.http Title.complete 400 "InvalidPartOrder")
    else
      match parts.get? part.number with
      | none => .error (.http Title.complete 400 "InvalidPart")
      | some data => joinParts parts part.number (joined ++ data) rest

/-- Closes an upload. The upload is gone afterwards, whatever comes of it. -/
def complete (b : Bucket) (key upload : String) (parts : List CompletedPart) :
    Except StoreError Unit × Bucket :=
  match b.pending.get? upload with
  | none => (.error (noSuchUpload Title.complete), b)
  | some entry =>
    let b := { b with pending := b.pending.erase upload }
    if entry.key = key then
      match joinParts entry.parts 0 .empty parts with
      | .error e => (.error e, b)
      | .ok data => (.ok (), b.store key ⟨data, entry.acl⟩)
    else (.error (noSuchUpload Title.complete), b)

def abort (b : Bucket) (upload : String) : Except StoreError Unit × Bucket :=
  if b.pending.contains upload then (.ok (), b.dropUpload upload)
  else (.error (noSuchUpload Title.abort), b)

/-! ## Listing -/

/-- The stem is how the key begins. -/
def startsWith (stem key : String) : Bool := stem.toList.isPrefixOf key.toList

/-- The run of keys that start with `stem`, from the stem or from behind the token on. It ends at
the first key that does not start so. -/
def matching (b : Bucket) (stem : String) (token : Option String) : List String :=
  let onward := b.objects.keys.dropWhile fun key =>
    match token with
    | some token => key ≤ token
    | none => key < stem
  onward.takeWhile (startsWith stem)

def page (b : Bucket) (stem : String) (token : Option String) (max : Nat) : Page :=
  let max := if max = 0 then 1000 else max
  let found := b.matching stem token
  let keys := found.take max
  let truncated := max < found.length
  ⟨keys, truncated, if truncated then keys.getLast? else none⟩

def list (b : Bucket) (stem : String) (token : Option String) (max : Nat) :
    Except StoreError Page × Bucket :=
  let b := { b with listed := b.listed + 1 }
  if b.failingPage = some b.listed then
    (.error (.transport Title.list "connection reset by peer"), b)
  else (.ok (b.page stem token max), b)

/-! ## Replies -/

def presign (b : Bucket) (use : LinkUse) (key : String) (secs : Nat) : Except StoreError String :=
  (memoryLink b.name use key secs).mapError fun fault => .signing key fault.message

def check (b : Bucket) : Except StoreError Unit :=
  if b.unreachable then .error (.unreachable b.name "bucket unreachable") else .ok ()

def answer : (c : Call) → Bucket → c.Reply × Bucket
  | .get key, b => (b.get key, b)
  | .put key data acl, b => (.ok (), b.store key ⟨data, acl⟩)
  | .create key acl, b => let (id, b) := b.create key acl; (.ok id, b)
  | .part key upload number data, b => b.part key upload number data
  | .complete key upload parts, b => b.complete key upload parts
  | .abort _ upload, b => b.abort upload
  | .delete key, b => (.ok (), b.delete key)
  | .list stem token max, b => b.list stem token max
  | .presign use key secs, b => (b.presign use key secs, b)
  | .check, b => (b.check, b)

instance : Backend Bucket := ⟨name, answer⟩

/-- Puts one byte at each of `count` keys, numbered behind the stem in at least `width` digits. -/
def fill (b : Bucket) (stem : String) (count width : Nat) : Bucket :=
  (List.range count).foldl
    (fun b i => b.store (stem ++ .ofList (Text.padded 10 width i)) ⟨⟨#[120]⟩, none⟩) b

end Bucket

end BlobStore
