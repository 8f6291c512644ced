import Mathlib
import BlobStore.Client

/-!
# Runs of a client

A run is told twice. `Client.Finishes` is told by the exchanges alone, so that it covers every
sequence of replies; `Backend.Plays` says that a backend gives just these replies. `ends_iff` puts
the two together: what a client comes to at a backend is a run of exchanges that the backend plays.
`Client.Reaches` tells of the states on the way in the same terms.
-/

namespace BlobStore

/-- A call with the reply that it got. -/
abbrev Exchange := (c : Call) × c.Reply

/-- If the step asks a call, then this holds of the call and of what follows on the replies. -/
def Step.Asks {σ α : Type} (P : (c : Call) → (c.Reply → σ) → Prop) : Step σ α → Prop
  | ask c next => P c next
  | done _ => True

theorem Step.Asks.mono {σ α : Type} {P P' : (c : Call) → (c.Reply → σ) → Prop} {s : Step σ α}
    (hs : s.Asks P) (h : ∀ c next, P c next → P' c next) : s.Asks P' := by
  cases s with
  | ask c next => exact h c next hs
  | done a => trivial

namespace Backend

variable {β : Type} [Backend β]

/-- The backend gives the replies of these exchanges when it gets their calls in turn. -/
def Plays : β → List Exchange → β → Prop
  | b, [], b' => b = b'
  | b, e :: es, b' => (answer e.1 b).1 = e.2 ∧ Plays (answer e.1 b).2 es b'

@[simp] theorem plays_nil (b b' : β) : Plays b [] b' ↔ b = b' := Iff.rfl

@[simp] theorem plays_cons (b b' : β) (c : Call) (reply : c.Reply) (es : List Exchange) :
    Plays b (⟨c, reply⟩ :: es) b' ↔ (answer c b).1 = reply ∧ Plays (answer c b).2 es b' := Iff.rfl

end Backend

namespace Client

open Backend (Plays)

variable {σ α β : Type} [Client σ α] [Backend β]

/-- **Runs by exchanges**: the client makes these calls in turn, and comes to the result on these
replies. Nothing is asked of the replies. -/
inductive Finishes : σ → List Exchange → α → Prop
  | done {s : σ} {a : α} (h : step s = .done a) : Finishes s [] a
  | ask {s : σ} {c : Call} {next : c.Reply → σ} {es : List Exchange} {a : α}
    (h : step s = .ask c next) (reply : c.Reply) (rest : Finishes (next reply) es a) :
    Finishes s (⟨c, reply⟩ :: es) a

theorem finishes_of_done {s : σ} {a : α} (h : step s = .done a) (es : List Exchange) (a' : α) :
    Finishes s es a' ↔ es = [] ∧ a' = a := by
  constructor
  · intro hrun
    cases hrun with
    | done h' => exact ⟨rfl, (Step.done.inj (h.symm.trans h')).symm⟩
    | ask h' => cases h.symm.trans h'
  · rintro ⟨rfl, rfl⟩
    exact .done h

theorem finishes_of_ask {s : σ} {c : Call} {next : c.Reply → σ} (h : step s = .ask c next)
    (es : List Exchange) (a : α) :
    Finishes s es a ↔ ∃ reply es', es = ⟨c, reply⟩ :: es' ∧ Finishes (next reply) es' a := by
  constructor
  · intro hrun
    cases hrun with
    | done h' => cases h.symm.trans h'
    | ask h' reply rest =>
      obtain ⟨rfl, heq⟩ := Step.ask.inj (h.symm.trans h')
      obtain rfl := eq_of_heq heq
      exact ⟨reply, _, rfl, rest⟩
  · rintro ⟨reply, es', rfl, rest⟩
    exact .ask h reply rest

/-- **On the way**: the client is in the state `s'` when these exchanges are behind it. Nothing is
asked of the replies. -/
inductive Reaches : σ → List Exchange → σ → Prop
  | here (s : σ) : Reaches s [] s
  | ask {s s' : σ} {c : Call} {next : c.Reply → σ} {es : List Exchange} (h : step s = .ask c next)
    (reply : c.Reply) (rest : Reaches (next reply) es s') : Reaches s (⟨c, reply⟩ :: es) s'

theorem Reaches.keeps {I : List Exchange → σ → Prop}
    (hstep : ∀ es s, I es s →
      (step s).Asks fun c next => ∀ reply, I (es ++ [⟨c, reply⟩]) (next reply))
    {s s' : σ} {es : List Exchange} (hreach : Reaches s es s') {before : List Exchange}
    (hs : I before s) : I (before ++ es) s' := by
  induction hreach generalizing before with
  | here => rwa [List.append_nil]
  | ask h reply rest ih =>
    have hasks := hstep before _ hs
    rw [h] at hasks
    rw [List.append_cons]
    exact ih (hasks reply)

/-- Where a client is after some calls to a backend. -/
theorem exists_reaches (s : σ) (calls : Nat) (b : β) :
    ∃ es, Reaches s es (run calls s b).1 ∧ Plays b es (run calls s b).2 := by
  induction calls generalizing s b with
  | zero => exact ⟨[], .here s, rfl⟩
  | succ calls ih =>
    cases h : step s with
    | done a =>
      rw [run_of_done h]
      exact ⟨[], .here s, rfl⟩
    | ask c next =>
      rw [run_of_ask h]
      obtain ⟨es, hes, hplays⟩ := ih (next (Backend.answer c b).1) (Backend.answer c b).2
      exact ⟨⟨c, _⟩ :: es, .ask h _ hes, rfl, hplays⟩

/-- The client comes to the result at the backend, which is `b'` then. -/
def Ends (s : σ) (b : β) (a : α) (b' : β) : Prop :=
  ∃ calls, result? (run calls s b).1 = some a ∧ (run calls s b).2 = b'

theorem result?_eq_some {s : σ} {a : α} : result? s = some a ↔ step s = .done a := by
  unfold result?
  cases step s <;> simp

theorem Finishes.run {s : σ} {es : List Exchange} {a : α} (h : Finishes s es a) {b b' : β}
    (hplays : Plays b es b') {calls : Nat} (hcalls : es.length ≤ calls) :
    step (run calls s b).1 = .done a ∧ (run calls s b).2 = b' := by
  induction h generalizing b calls with
  | done h => exact ⟨by rw [run_of_done h]; exact h, by rw [run_of_done h]; exact hplays⟩
  | ask h reply rest ih =>
    rw [Backend.plays_cons] at hplays
    obtain ⟨rfl, hplays⟩ := hplays
    obtain ⟨calls, rfl⟩ : ∃ n, calls = n + 1 := ⟨calls - 1, by simp at hcalls; omega⟩
    rw [run_of_ask h]
    exact ih hplays (by simpa using hcalls)

/-- **What a client comes to at a backend** is a run of exchanges that the backend plays. -/
theorem ends_iff {s : σ} {b b' : β} {a : α} :
    Ends s b a b' ↔ ∃ es, Finishes s es a ∧ Plays b es b' := by
  constructor
  · rintro ⟨calls, hresult, rfl⟩
    induction calls generalizing s b with
    | zero => exact ⟨[], .done (result?_eq_some.mp hresult), rfl⟩
    | succ calls ih =>
      cases h : step s with
      | done a' =>
        rw [run_of_done h] at hresult ⊢
        exact ⟨[], .done (result?_eq_some.mp hresult), rfl⟩
      | ask c next =>
        rw [run_of_ask h] at hresult ⊢
        obtain ⟨es, hes, hplays⟩ := ih hresult
        exact ⟨⟨c, _⟩ :: es, .ask h _ hes, rfl, hplays⟩
  · rintro ⟨es, hes, hplays⟩
    obtain ⟨hdone, hb⟩ := hes.run hplays le_rfl
    exact ⟨es.length, result?_eq_some.mpr hdone, hb⟩

theorem ends_of_done {s : σ} {a : α} (h : step s = .done a) (b : β) : Ends s b a b :=
  ⟨0, result?_eq_some.mpr h, rfl⟩

theorem ends_of_ask {s : σ} {c : Call} {next : c.Reply → σ} (h : step s = .ask c next) {b b' : β}
    {a : α} (hends : Ends (next (Backend.answer c b).1) (Backend.answer c b).2 a b') :
    Ends s b a b' := by
  obtain ⟨calls, hresult, hb⟩ := hends
  exact ⟨calls + 1, by rw [run_of_ask h]; exact hresult, by rw [run_of_ask h]; exact hb⟩

theorem Ends.unique {s : σ} {b b₁ b₂ : β} {a₁ a₂ : α} (h₁ : Ends s b a₁ b₁)
    (h₂ : Ends s b a₂ b₂) : a₁ = a₂ ∧ b₁ = b₂ := by
  obtain ⟨es₁, hrun₁, hplays₁⟩ := ends_iff.mp h₁
  obtain ⟨es₂, hrun₂, hplays₂⟩ := ends_iff.mp h₂
  obtain ⟨hdone₁, rfl⟩ := hrun₁.run hplays₁ (Nat.le_max_left es₁.length es₂.length)
  obtain ⟨hdone₂, rfl⟩ := hrun₂.run hplays₂ (Nat.le_max_right es₁.length es₂.length)
  exact ⟨Step.done.inj (hdone₁.symm.trans hdone₂), rfl⟩

theorem advance_of_ask {s : σ} {c : Call} {next : c.Reply → σ} (h : step s = .ask c next) (b : β) :
    advance s b = (next (Backend.answer c b).1, (Backend.answer c b).2) := by
  simp only [advance, h]

theorem advance_of_done {s : σ} {a : α} (h : step s = .done a) (b : β) : advance s b = (s, b) := by
  simp only [advance, h]

/-- What the states of a client keep, whatever the backend replies, holds along a run; so what they
say of the next call holds of every call. -/
theorem Finishes.forall_calls {I : σ → Prop} {P : Call → Prop}
    (hstep : ∀ s, I s → (step s).Asks fun c next => P c ∧ ∀ b : β, I (next (Backend.answer c b).1))
    {s : σ} {es : List Exchange} {a : α} (hrun : Finishes s es a) (hs : I s) {b b' : β}
    (hplays : Plays b es b') : ∀ e ∈ es, P e.1 := by
  induction hrun generalizing b with
  | done => exact List.forall_mem_nil _
  | @ask s c next es a h reply rest ih =>
    have hasks := hstep s hs
    rw [h] at hasks
    obtain ⟨hcall, hnext⟩ := hasks
    rw [Backend.plays_cons] at hplays
    obtain ⟨rfl, hplays⟩ := hplays
    exact List.forall_mem_cons.mpr ⟨hcall, ih (hnext b) hplays⟩

theorem Finishes.keeps {I : σ → Prop} {P : Call → Prop} {Q : Exchange → Prop}
    (hstep : ∀ s, I s → (step s).Asks fun c next => P c ∧ ∀ reply, Q ⟨c, reply⟩ → I (next reply))
    {s : σ} {es : List Exchange} {a : α} (hrun : Finishes s es a) (hs : I s) (hes : ∀ e ∈ es, Q e) :
    (∀ e ∈ es, P e.1) ∧ ∃ s', I s' ∧ step s' = .done a := by
  induction hrun with
  | done h => exact ⟨List.forall_mem_nil _, _, hs, h⟩
  | @ask s c next es a h reply rest ih =>
    have hasks := hstep s hs
    rw [h] at hasks
    obtain ⟨hcall, hnext⟩ := hasks
    obtain ⟨hfirst, hrest⟩ := List.forall_mem_cons.mp hes
    obtain ⟨hcalls, hlast⟩ := ih (hnext reply hfirst) hrest
    exact ⟨List.forall_mem_cons.mpr ⟨hcall, hcalls⟩, hlast⟩

theorem Finishes.keeps_all {I : σ → Prop} {P : Call → Prop}
    (hstep : ∀ s, I s → (step s).Asks fun c next => P c ∧ ∀ reply, I (next reply)) {s : σ}
    {es : List Exchange} {a : α} (hrun : Finishes s es a) (hs : I s) :
    (∀ e ∈ es, P e.1) ∧ ∃ s', I s' ∧ step s' = .done a :=
  hrun.keeps (Q := fun _ => True)
    (fun s hs => (hstep s hs).mono fun _ _ hnext => ⟨hnext.1, fun reply _ => hnext.2 reply⟩) hs
    fun _ _ => trivial

theorem run_keeps {I : σ → Prop}
    (hstep : ∀ s, I s → (step s).Asks fun _ next => ∀ reply, I (next reply)) {s : σ} (hs : I s)
    (calls : Nat) (b : β) : I (run calls s b).1 := by
  induction calls generalizing s b with
  | zero => exact hs
  | succ calls ih =>
    have hasks := hstep s hs
    cases h : step s with
    | done a => rwa [run_of_done h]
    | ask c next =>
      rw [h] at hasks
      rw [run_of_ask h]
      exact ih (hasks _) _

/-- A client that comes nearer to its result with each reply, whatever the reply, has its result
after as many calls as it was away. -/
theorem exists_finishes (rank : σ → Nat)
    (hrank : ∀ s, (step s).Asks fun _ next => ∀ reply, rank (next reply) < rank s) (s : σ) (b : β) :
    ∃ es a b', Finishes s es a ∧ Plays b es b' ∧ es.length ≤ rank s := by
  -- by how far away the client is
  induction hn : rank s using Nat.strong_induction_on generalizing s b with
  | _ n ih =>
    have hasks := hrank s
    cases h : step s with
    | done a => exact ⟨[], a, b, .done h, rfl, Nat.zero_le _⟩
    | ask c next =>
      rw [h] at hasks
      have hlt := hasks (Backend.answer c b).1
      obtain ⟨es, a, b', hes, hplays, hlen⟩ := ih _ (hn ▸ hlt) _ (Backend.answer c b).2 rfl
      refine ⟨⟨c, _⟩ :: es, a, b', .ask h _ hes, ⟨rfl, hplays⟩, ?_⟩
      rw [List.length_cons]
      omega

end Client

end BlobStore
