import BlobStore.Bucket.Call

/-!
# A bucket that keeps a record

Every call is written down before it is passed on, so that what an operation asks for can be read
off.
-/

namespace BlobStore

/-- A backend with the calls it got, the latest first. -/
structure Recorded (β : Type) where
  inner : β
  log : List Call

namespace Recorded

variable {β : Type}

/-- Nothing recorded yet. -/
def start (inner : β) : Recorded β := ⟨inner, []⟩

/-- The calls in the order in which they came. -/
def calls (r : Recorded β) : List Call := r.log.reverse

instance [Backend β] : Backend (Recorded β) where
  name r := Backend.name r.inner
  answer c r :=
    let (reply, inner) := Backend.answer c r.inner
    (reply, ⟨inner, c :: r.log⟩)

theorem calls_answer [Backend β] (c : Call) (r : Recorded β) :
    calls (Backend.answer c r).2 = r.calls ++ [c] := by
  simp [Backend.answer, calls]

end Recorded

end BlobStore
