import BlobStore.Bucket.Call

/-!
# A bucket that plays a script

For each kind of call there is a queue of cues. A cue says what to reply in place of the bucket
behind, or to pass the call on to it; when a queue is empty every call is passed on.
-/

namespace BlobStore

/-- What to reply in place of the bucket; nothing means that the bucket is to reply. -/
abbrev Cue (α : Type) := Option (Except StoreError α)

/-- The cues that are left, by kind of call. -/
structure Script where
  get : List (Cue Source) := []
  put : List (Cue Unit) := []
  create : List (Cue String) := []
  part : List (Cue CompletedPart) := []
  complete : List (Cue Unit) := []
  abort : List (Cue Unit) := []
  delete : List (Cue Unit) := []
  list : List (Cue Page) := []
  presignGet : List (Cue String) := []
  presignPut : List (Cue String) := []
  check : List (Cue Unit) := []
  deriving Inhabited

namespace Script

/-- The first cue of a queue; an empty queue passes. -/
def cue {α : Type} (queue : List (Cue α)) : Cue α := queue.head?.join

/-- The cue for a call, and the script after it. -/
def next (s : Script) : (c : Call) → Cue c.Answer × Script
  | .get .. => (cue s.get, { s with get := s.get.tail })
  | .put .. => (cue s.put, { s with put := s.put.tail })
  | .create .. => (cue s.create, { s with create := s.create.tail })
  | .part .. => (cue s.part, { s with part := s.part.tail })
  | .complete .. => (cue s.complete, { s with complete := s.complete.tail })
  | .abort .. => (cue s.abort, { s with abort := s.abort.tail })
  | .delete .. => (cue s.delete, { s with delete := s.delete.tail })
  | .list .. => (cue s.list, { s with list := s.list.tail })
  | .presign .download .. => (cue s.presignGet, { s with presignGet := s.presignGet.tail })
  | .presign .upload .. => (cue s.presignPut, { s with presignPut := s.presignPut.tail })
  | .check => (cue s.check, { s with check := s.check.tail })

end Script

/-- A backend behind a script. -/
structure Scripted (β : Type) where
  inner : β
  script : Script

instance {β : Type} [Backend β] : Backend (Scripted β) where
  name s := Backend.name s.inner
  answer c s :=
    match s.script.next c with
    | (some reply, script) => (reply, { s with script })
    | (none, script) =>
      let (reply, inner) := Backend.answer c s.inner
      (reply, ⟨inner, script⟩)

end BlobStore
