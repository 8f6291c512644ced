import Mathlib
import BlobStore.Proofs.Client

/-!
# Clients that share a backend

Several clients of one kind work on one backend, call by call in any order, and others make calls of
their own in between. A list of moves is one such order, so what holds after every list of moves
holds at every moment, however the calls are mixed.

What every call of the backend keeps, every move keeps (`run_keeps`).
-/

namespace BlobStore

/-- Who makes the next call: one of the clients, or someone else. -/
inductive Move (ι : Type) where
  | turn (i : ι)
  | other (c : Call)

namespace Move

variable {ι : Type} [DecidableEq ι]

def IsTurn (i : ι) : Move ι → Bool
  | turn j => i = j
  | other _ => false

end Move

/-- How many of the moves are those of the client. -/
def turns {ι : Type} [DecidableEq ι] (i : ι) (moves : List (Move ι)) : Nat :=
  moves.countP (Move.IsTurn i)

/-- Clients at work on one backend. -/
structure Shared (ι σ β : Type) where
  clients : ι → σ
  backend : β

namespace Shared

variable {ι σ α β : Type} [DecidableEq ι] [Client σ α] [Backend β]

/-- One move. A client that is done stays so. -/
def move (w : Shared ι σ β) : Move ι → Shared ι σ β
  | .turn i =>
    let (s, b) := Client.advance (w.clients i) w.backend
    ⟨Function.update w.clients i s, b⟩
  | .other c => ⟨w.clients, (Backend.answer c w.backend).2⟩

/-- What the moves lead to, one after another. -/
def run (w : Shared ι σ β) (moves : List (Move ι)) : Shared ι σ β := moves.foldl move w

variable {w : Shared ι σ β} {moves : List (Move ι)} {i : ι}

@[simp] theorem run_concat (m : Move ι) : w.run (moves ++ [m]) = (w.run moves).move m := by
  rw [run, run, List.foldl_append, List.foldl_cons, List.foldl_nil]

theorem backend_turn :
    (w.move (.turn i)).backend = (Client.advance (w.clients i) w.backend).2 := rfl

theorem clients_turn_self :
    (w.move (.turn i)).clients i = (Client.advance (w.clients i) w.backend).1 :=
  Function.update_self ..

theorem clients_turn_of_ne {j : ι} (h : j ≠ i) : (w.move (.turn i)).clients j = w.clients j :=
  Function.update_of_ne h ..

theorem advance_keeps {P : β → Prop} (hP : ∀ c b, P b → P (Backend.answer c b).2) (s : σ) {b : β}
    (hb : P b) : P (Client.advance s b).2 := by
  unfold Client.advance
  split
  · exact hP _ _ hb
  · exact hb

theorem move_keeps {P : β → Prop} (hP : ∀ c b, P b → P (Backend.answer c b).2) (m : Move ι)
    (hw : P w.backend) : P (w.move m).backend := by
  cases m with
  | turn i => exact advance_keeps hP (w.clients i) hw
  | other c => exact hP c _ hw

/-- **What every call keeps holds at every moment.** -/
theorem run_keeps {P : β → Prop} (hP : ∀ c b, P b → P (Backend.answer c b).2) (hw : P w.backend)
    (moves : List (Move ι)) : P (w.run moves).backend := by
  induction moves using List.reverseRecOn with
  | nil => exact hw
  | append_singleton moves m ih =>
    rw [run_concat]
    exact move_keeps hP m ih

end Shared

/-! ## Turns -/

section turns

variable {ι : Type} [DecidableEq ι] {i : ι} {moves : List (Move ι)}

theorem turns_concat_turn_self : turns i (moves ++ [.turn i]) = turns i moves + 1 := by
  simp [turns, Move.IsTurn]

theorem turns_concat_turn_of_ne {j : ι} (h : j ≠ i) :
    turns j (moves ++ [.turn i]) = turns j moves := by
  simp [turns, Move.IsTurn, h]

theorem turns_concat_other (c : Call) : turns i (moves ++ [.other c]) = turns i moves := by
  simp [turns, Move.IsTurn]

end turns

end BlobStore
