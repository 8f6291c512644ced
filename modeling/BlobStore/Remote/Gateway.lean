import BlobStore.Bucket.Call
import BlobStore.Text.Repaired

/-!
# Buckets behind a client

A bucket that is not at hand is reached through a client. What it is asked it turns into requests,
and it hands back what came of them: a status with a body, an id, a page, or the text of a failure of
its own. `Gateway` is any such client. A store asks it for what its calls need, and reads the replies
off what it hands back, for the most part by the status alone.
-/

namespace BlobStore

/-- What a client can be asked. -/
inductive Ask where
  | download (key : String)
  | put (key : String) (data : ByteArray) (contentType : String) (acl : Option String)
  /-- Open an upload in parts. -/
  | initiate (key contentType : String) (acl : Option String)
  | putPart (data : ByteArray) (key : String) (number : Nat) (upload contentType : String)
  /-- Close an upload: its object is the listed parts in turn. -/
  | finish (key upload : String) (parts : List CompletedPart)
  | giveUp (key upload : String)
  | remove (key : String)
  | page (stem : String) (token : Option String) (max : Nat)

namespace Ask

/-- What a client hands back that has not failed; a number is the status of a response. -/
abbrev Answer : Ask → Type
  | download .. => Nat × Source
  | put .. => Nat × ByteArray
  | initiate .. => String
  | putPart .. => CompletedPart
  | finish .. => Nat × ByteArray
  | giveUp .. => Unit
  | remove .. => Nat × ByteArray
  | page .. => Page × Nat

abbrev Reply (a : Ask) : Type := Except String a.Answer

end Ask

/-- The client of a bucket. -/
class Gateway (γ : Type) where
  bucket : γ → String
  ask : (a : Ask) → γ → a.Reply × γ
  /-- A link is signed without a request. -/
  presign : LinkUse → (key : String) → (secs : Nat) → γ → Except String String

/-- How content that is written is described. -/
def octets : String := "application/octet-stream"

namespace Gateway

/-! ## What is handed back -/

def isSuccess (status : Nat) : Bool := 200 ≤ status && status < 300

/-- The error of a call whose client failed. -/
def transport {α : Type} (title : String) : Except String α → Except StoreError α
  | .ok a => .ok a
  | .error cause => .error (.transport title cause)

def getReply (key : String) : Nat × Source → Except StoreError Source
  | (status, source) =>
    if isSuccess status then .ok source
    else if status = 404 then .error (.notFound key)
    else .error (.http Title.get status "")

/-- The reply of a call that is judged by the status; a body that came with another one is shown. -/
def statusReply (title : String) (accepts : Nat → Bool) : Nat × ByteArray → Except StoreError Unit
  | (status, body) =>
    if accepts status then .ok () else .error (.http title status (Text.repaired body))

def listReply : Page × Nat → Except StoreError Page
  | (page, status) => if isSuccess status then .ok page else .error (.http Title.list status "")

/-! ## Calls -/

variable {γ α : Type} [Gateway γ]

/-- Asks the client, and reads the reply off what it hands back. -/
def call (title : String) (a : Ask) (read : a.Answer → Except StoreError α) (g : γ) :
    Except StoreError α × γ :=
  let (reply, g) := ask a g
  ((transport title reply).bind read, g)

def list (stem : String) (token : Option String) (max : Nat) (g : γ) : Except StoreError Page × γ :=
  call Title.list (.page stem token max) listReply g

/-- The bucket can be reached if a page of one key can be listed. -/
def check (g : γ) : Except StoreError Unit × γ :=
  let name := bucket g
  let (page, g) := list "" none 1 g
  (match page with
    | .ok _ => .ok ()
    | .error e => .error (.unreachable name e.message), g)

def answer : (c : Call) → γ → c.Reply × γ
  | .get key, g => call Title.get (.download key) (getReply key) g
  | .put key data acl, g => call Title.put (.put key data octets acl) (statusReply Title.put isSuccess) g
  | .create key acl, g => call Title.create (.initiate key octets acl) .ok g
  | .part key upload number data, g => call Title.part (.putPart data key number upload octets) .ok g
  | .complete key upload parts, g =>
    call Title.complete (.finish key upload parts) (statusReply Title.complete isSuccess) g
  | .abort key upload, g => call Title.abort (.giveUp key upload) .ok g
  | .delete key, g =>
    call Title.delete (.remove key)
      (statusReply Title.delete fun status => isSuccess status || status = 404) g
  | .list stem token max, g => list stem token max g
  | .presign use key secs, g => ((presign use key secs g).mapError (.signing key), g)
  | .check, g => check g

instance (priority := low) : Backend γ := ⟨bucket, answer⟩

end Gateway

end BlobStore
