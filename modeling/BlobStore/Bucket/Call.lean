import BlobStore.Error
import BlobStore.Source

/-!
# Calls to a bucket

A store needs few things of a bucket, and asks for each by one call. `Call.Answer` is what the
bucket gives back when it does as asked; otherwise it gives an error. Anything that replies to
calls is a `Backend`: a bucket in memory, one behind an endpoint, one that plays a script.
-/

namespace BlobStore

/-- A part that the bucket has taken in, with the mark that it gave it. -/
structure CompletedPart where
  number : Nat
  etag : String
  deriving DecidableEq, Inhabited, Repr

/-- One page of a listing. -/
structure Page where
  keys : List String
  truncated : Bool
  token : Option String
  deriving DecidableEq, Inhabited, Repr

/-- What a link is for. -/
inductive LinkUse where
  | download
  | upload
  deriving DecidableEq, Inhabited, Repr

def LinkUse.method : LinkUse → String
  | .download => "GET"
  | .upload => "PUT"

/-- What a bucket can be asked. -/
inductive Call where
  | get (key : String)
  /-- Store a whole object. -/
  | put (key : String) (data : ByteArray) (acl : Option String)
  /-- Open an upload in parts. -/
  | create (key : String) (acl : Option String)
  | part (key upload : String) (number : Nat) (data : ByteArray)
  /-- Close an upload: its object is the listed parts in turn. -/
  | complete (key upload : String) (parts : List CompletedPart)
  | abort (key upload : String)
  | delete (key : String)
  /-- The keys that start with `stem`, from behind `token` on, at most `max` of them. -/
  | list (stem : String) (token : Option String) (max : Nat)
  | presign (use : LinkUse) (key : String) (secs : Nat)
  | check

namespace Call

/-- What comes back from a bucket that does as asked. -/
abbrev Answer : Call → Type
  | get .. => Source
  | put .. => Unit
  | create .. => String
  | part .. => CompletedPart
  | complete .. => Unit
  | abort .. => Unit
  | delete .. => Unit
  | list .. => Page
  | presign .. => String
  | check => Unit

abbrev Reply (c : Call) : Type := Except StoreError c.Answer

end Call

/-! ## What an error says was going on -/

namespace Title

def get : String := "get object"
def put : String := "put object"
def create : String := "create multipart upload"
def part : String := "upload part"
def complete : String := "complete multipart upload"
def abort : String := "abort multipart upload"
def delete : String := "delete object"
def list : String := "list objects"

end Title

/-- Anything that replies to calls, and may change by it. -/
class Backend (β : Type) where
  name : β → String
  answer : (c : Call) → β → c.Reply × β

end BlobStore
