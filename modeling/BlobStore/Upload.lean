import BlobStore.Client

/-!
# Uploads

A source that ends within its first piece is stored by one put. A longer one is sent in parts:
open an upload, send piece after piece, complete it. While a part is on its way the next piece is
read, so at most two pieces are held at a time. An upload that was opened and cannot be completed
is aborted, so that no object appears and nothing stays open.

`Upload` is the client that does this; its states say how far it is and what is left of the
source.
-/

namespace BlobStore

/-- How far an upload is. -/
inductive UploadPhase where
  /-- The whole source is in `data`; put it. -/
  | putting (data : ByteArray)
  /-- The source fills its first piece; open an upload in parts. -/
  | creating (first : ByteArray)
  /-- Send `data` behind the parts `sent`, which hold `size` bytes. -/
  | sending (id : String) (sent : Array CompletedPart) (size : Nat) (data : ByteArray)
  | completing (id : String) (sent : Array CompletedPart) (size : Nat)
  | aborting (id : String) (reason : StoreError)
  | finished (result : Except StoreError Nat)
  /-- The source is not ready and never will be; `id` is the upload that is open. -/
  | stalled (id : Option String)

structure Upload where
  key : String
  acl : Option String
  partSize : Nat
  phase : UploadPhase
  /-- What is left of the source. -/
  source : Source

/-- What an upload comes to: a result, or waiting for its source with an upload open or not. -/
inductive UploadOutcome where
  | finished (result : Except StoreError Nat)
  | stalled (id : Option String)

namespace Upload

/-- An upload that has read its first piece. -/
def start (key : String) (acl : Option String) (partSize : Nat) (source : Source) : Upload :=
  match source.take partSize with
  | .taken first rest =>
    ⟨key, acl, partSize, if first.size < partSize then .putting first else .creating first, rest⟩
  | .failed text rest => ⟨key, acl, partSize, .finished (.error (.source text)), rest⟩
  | .stalled rest => ⟨key, acl, partSize, .stalled none, rest⟩

/-- The upload after the reply to a part, for which the next piece was read meanwhile. Of two
failures that of the part counts. -/
def afterPart (u : Upload) (id : String) (sent : Array CompletedPart) (size : Nat)
    (reply : Except StoreError CompletedPart) : Upload :=
  match u.source.take u.partSize, reply with
  | .stalled rest, _ => { u with phase := .stalled id, source := rest }
  | .taken _ rest, .error e | .failed _ rest, .error e =>
    { u with phase := .aborting id e, source := rest }
  | .failed text rest, .ok _ => { u with phase := .aborting id (.source text), source := rest }
  | .taken data rest, .ok part =>
    { u with
      phase :=
        if data.size = 0 then .completing id (sent.push part) size
        else .sending id (sent.push part) size data
      source := rest }

def step (u : Upload) : Step Upload UploadOutcome :=
  match u.phase with
  | .putting data =>
    .ask (.put u.key data u.acl) fun reply =>
      { u with phase := .finished (reply.map fun _ => data.size) }
  | .creating first =>
    .ask (.create u.key u.acl) fun
      | .ok id => { u with phase := .sending id #[] 0 first }
      | .error e => { u with phase := .finished (.error e) }
  | .sending id sent size data =>
    .ask (.part u.key id (sent.size + 1) data) (u.afterPart id sent (size + data.size))
  | .completing id sent size =>
    .ask (.complete u.key id sent.toList) fun
      | .ok _ => { u with phase := .finished (.ok size) }
      | .error e => { u with phase := .aborting id e }
  | .aborting id reason =>
    .ask (.abort u.key id) fun _ => { u with phase := .finished (.error reason) }
  | .finished result => .done (.finished result)
  | .stalled id => .done (.stalled id)

instance : Client Upload UploadOutcome := ⟨step⟩

/-- More calls than an upload from the source can make: its parts hold a byte each, but for the
first, and there are three calls besides. -/
def callLimit (source : Source) : Nat := source.left + 6

variable {β : Type} [Backend β]

/-- Uploads a source. -/
def toEnd (key : String) (acl : Option String) (partSize : Nat) (source : Source) (b : β) :
    Upload × β :=
  Client.run (callLimit source) (start key acl partSize source) b

/-- Gives an upload up where it stands. An upload in parts that is open is aborted, if there is
anyone left to do it. -/
def drop (u : Upload) (abortable : Bool) (b : β) : β :=
  match u.phase with
  | .stalled (some id) => if abortable then (Backend.answer (.abort u.key id) b).2 else b
  | _ => b

end Upload

end BlobStore
