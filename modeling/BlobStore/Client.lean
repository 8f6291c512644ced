import BlobStore.Bucket.Call

/-!
# Clients of a bucket

A client asks one call after another and looks at each reply before it goes on. It is given by its
states: each either asks a call, and knows which state follows on which reply, or has the result.
Several clients can share a bucket, one call of one of them at a time.
-/

namespace BlobStore

/-- What a client does in a state. -/
inductive Step (σ α : Type) where
  | ask (c : Call) (next : c.Reply → σ)
  | done (result : α)

/-- Clients whose states are `σ` and whose result is an `α`. -/
class Client (σ : Type) (α : outParam Type) where
  step : σ → Step σ α

namespace Client

variable {σ α β : Type} [Client σ α] [Backend β]

/-- The result, once the client is done. -/
def result? (s : σ) : Option α :=
  match step s with
  | .ask .. => none
  | .done result => some result

/-- The next call of the client, replied to by the backend. A client that is done stays so. -/
def advance (s : σ) (b : β) : σ × β :=
  match step s with
  | .ask c next =>
    let (reply, b) := Backend.answer c b
    (next reply, b)
  | .done _ => (s, b)

/-- Client and backend after at most `calls` further calls. -/
def run : (calls : Nat) → σ → β → σ × β
  | 0, s, b => (s, b)
  | calls + 1, s, b =>
    match step s with
    | .ask c next =>
      let (reply, b) := Backend.answer c b
      run calls (next reply) b
    | .done _ => (s, b)

/-! ## Facts about runs -/

theorem run_of_done {s : σ} {a : α} (h : step s = .done a) (calls : Nat) (b : β) :
    run calls s b = (s, b) := by
  cases calls <;> simp [run, h]

theorem run_of_ask {s : σ} {c : Call} {next : c.Reply → σ} (h : step s = .ask c next)
    (calls : Nat) (b : β) :
    run (calls + 1) s b = run calls (next (Backend.answer c b).1) (Backend.answer c b).2 := by
  simp [run, h]

end Client

end BlobStore
