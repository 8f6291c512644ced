import Mathlib
import BlobStore.Proofs.Upload.Atomic
import BlobStore.Store

/-!
# Operations of a store

All that a store can be asked, as one type, so that statements can be about any operation and about
any sequence of operations. An operation that takes many calls is served when its client has its
result.

`Store.Talks` tells the operations by the exchanges with the bucket alone, and `serves_iff` says
that a store responds as it does after exchanges that its bucket plays.
-/

namespace BlobStore

/-- What a store can be asked. -/
inductive Operation where
  | upload (key : String) (source : Source)
  | download (key : String)
  | delete (key : String)
  | contains (key : String)
  /-- Delete every blob whose key starts with the given one. -/
  | purge (key : String)
  | list (stem : String) (limit : Nat)
  | link (use : LinkUse) (key : String) (span : Span)
  | ping

/-- What comes back. From an upload nothing does while its source is not ready. -/
abbrev Operation.Response : Operation → Type
  | upload .. => Option (Except StoreError Unit)
  | download .. => Except StoreError Source
  | delete .. => Except StoreError Unit
  | contains .. => Except StoreError Bool
  | purge .. => Except StoreError Unit
  | list .. => Except StoreError (List String)
  | link .. => Except StoreError String
  | ping => Except StoreError Unit

/-- The source of an upload gives bytes as long as there are any. -/
def Operation.Flows : Operation → Prop
  | upload _ source => source.Flows
  | _ => True

abbrev Service := (r : Operation) × r.Response

namespace Store

open Backend (Plays)
open Client (Finishes)

variable {β : Type} [Backend β]

/-- The store responds like this at the backend, which is `b'` then. -/
def Serves (s : Store) (b : β) : (r : Operation) → r.Response → β → Prop
  | .upload key source, a, b' => s.upload key source b = (a, b')
  | .download key, a, b' => s.download key b = (a, b')
  | .delete key, a, b' => s.delete key b = (a, b')
  | .contains key, a, b' => s.contains key b = (a, b')
  | .purge key, a, b' => Client.Ends (s.purge key) b a b'
  | .list stem limit, a, b' => Client.Ends (listing stem limit) b a b'
  | .link use key span, a, b' => s.link use key span b = (a, b')
  | .ping, a, b' => ping b = (a, b')

/-- The store responds like this to the operations in turn. -/
def Runs (s : Store) : β → List Service → β → Prop
  | b, [], b' => b = b'
  | b, e :: es, b' => ∃ m, s.Serves b e.1 e.2 m ∧ Runs s m es b'

theorem Serves.unique {s : Store} {b b₁ b₂ : β} {r : Operation} {a₁ a₂ : r.Response}
    (h₁ : s.Serves b r a₁ b₁) (h₂ : s.Serves b r a₂ b₂) : a₁ = a₂ ∧ b₁ = b₂ := by
  cases r with
  | upload key source => exact Prod.mk.inj (h₁.symm.trans h₂)
  | download key => exact Prod.mk.inj (h₁.symm.trans h₂)
  | delete key => exact Prod.mk.inj (h₁.symm.trans h₂)
  | contains key => exact Prod.mk.inj (h₁.symm.trans h₂)
  | purge key => exact Client.Ends.unique h₁ h₂
  | list stem limit => exact Client.Ends.unique h₁ h₂
  | link use key span => exact Prod.mk.inj (h₁.symm.trans h₂)
  | ping => exact Prod.mk.inj (h₁.symm.trans h₂)

/-! ## Operations by exchanges -/

/-- The store makes these calls in turn for the operation, and responds like this to the replies. -/
def Talks (s : Store) : (r : Operation) → List Exchange → r.Response → Prop
  | .upload key source, es, a =>
    match s.objectKey key with
    | .error e => es = [] ∧ a = some (.error e)
    | .ok object => ∃ o : UploadOutcome,
      Finishes (Upload.start object s.acl partSize source) es o ∧
        a = o.result?.map fun result => result.map fun _ => ()
  | .download key, es, a =>
    match s.objectKey key with
    | .error e => es = [] ∧ a = .error e
    | .ok object => es = [⟨.get object, a⟩]
  | .delete key, es, a =>
    match s.objectKey key with
    | .error e => es = [] ∧ a = .error e
    | .ok object => es = [⟨.delete object, a⟩]
  | .contains key, es, a => ∃ reply : Except StoreError Page,
    es = [⟨.list (s.physicalKey key) none 1, reply⟩] ∧ a = reply.map fun page => !page.keys.isEmpty
  | .purge key, es, a => Finishes (s.purge key) es a
  | .list stem limit, es, a => Finishes (listing stem limit) es a
  | .link use key span, es, a =>
    match s.objectKey key, expirySecs span with
    | .error e, _ | .ok _, .error e => es = [] ∧ a = .error e
    | .ok object, .ok secs => es = [⟨.presign use object secs, a⟩]
  | .ping, es, a => es = [⟨.check, a⟩]

theorem plays_single {b b' : β} {c : Call} {reply : c.Reply} :
    Plays b [⟨c, reply⟩] b' ↔ Backend.answer c b = (reply, b') := by
  rw [Backend.plays_cons, Backend.plays_nil, Prod.ext_iff]

theorem upload_eq {s : Store} {key object : String} (h : s.objectKey key = .ok object)
    (source : Source) (b : β) : s.upload key source b =
      ((Upload.toEnd object s.acl partSize source b).1.phase.result?.map fun result =>
        result.map fun _ => (), (Upload.toEnd object s.acl partSize source b).2) := by
  rw [upload, h]
  dsimp only
  cases (Upload.toEnd object s.acl partSize source b).1.phase <;> rfl

theorem upload_eq_iff {s : Store} {key object : String} (h : s.objectKey key = .ok object)
    (source : Source) {b b' : β} {a : Option (Except StoreError Unit)} :
    s.upload key source b = (a, b') ↔ ∃ es, s.Talks (.upload key source) es a ∧ Plays b es b' := by
  obtain ⟨es, o, hrun, hplays, hdone⟩ := Upload.exists_finishes_toEnd object s.acl partSize source b
  have hresult : (Upload.toEnd object s.acl partSize source b).1.phase.result? = o.result? := by
    rw [Upload.step_eq_done] at hdone
    rw [hdone]
    cases o <;> rfl
  rw [upload_eq h, hresult, Prod.mk.injEq]
  simp only [Talks, h]
  constructor
  · rintro ⟨rfl, rfl⟩
    exact ⟨es, ⟨o, hrun, rfl⟩, hplays⟩
  · rintro ⟨es', ⟨o', hrun', rfl⟩, hplays'⟩
    obtain ⟨rfl, rfl⟩ := (Client.ends_iff.mpr ⟨es, hrun, hplays⟩).unique
      (Client.ends_iff.mpr ⟨es', hrun', hplays'⟩)
    exact ⟨rfl, rfl⟩

/-- **A store responds after exchanges that its bucket plays.** -/
theorem serves_iff {s : Store} {b b' : β} {r : Operation} {a : r.Response} :
    s.Serves b r a b' ↔ ∃ es, s.Talks r es a ∧ Plays b es b' := by
  have silent : ∀ {α : Type} {a a' : α},
      (a', b) = (a, b') ↔ ∃ es : List Exchange, (es = [] ∧ a = a') ∧ Plays b es b' := by
    intro α a a'
    rw [Prod.mk.injEq]
    constructor
    · rintro ⟨rfl, rfl⟩
      exact ⟨[], ⟨rfl, rfl⟩, rfl⟩
    · rintro ⟨_, ⟨rfl, rfl⟩, hb⟩
      exact ⟨rfl, hb⟩
  have single : ∀ {c : Call} {reply : c.Reply}, Backend.answer c b = (reply, b') ↔
      ∃ es : List Exchange, es = [⟨c, reply⟩] ∧ Plays b es b' := by
    intro c reply
    rw [exists_eq_left, plays_single]
  cases r with
  | upload key source =>
    cases h : s.objectKey key with
    | error e => simp only [Serves, upload, Talks, h, silent]
    | ok object => exact upload_eq_iff h source
  | download key =>
    cases h : s.objectKey key with
    | error e => simp only [Serves, download, Talks, h, silent]
    | ok object => simp only [Serves, download, Talks, h, single]
  | delete key =>
    cases h : s.objectKey key with
    | error e => simp only [Serves, delete, Talks, h, silent]
    | ok object => simp only [Serves, delete, Talks, h, single]
  | contains key =>
    simp only [Serves, contains, Talks, Prod.mk.injEq]
    constructor
    · rintro ⟨rfl, rfl⟩
      exact ⟨_, ⟨_, rfl, rfl⟩, rfl, rfl⟩
    · rintro ⟨_, ⟨reply, rfl, rfl⟩, hplays⟩
      rw [plays_single] at hplays
      rw [hplays]
      exact ⟨rfl, rfl⟩
  | purge key => exact Client.ends_iff
  | list stem limit => exact Client.ends_iff
  | link use key span =>
    cases h : s.objectKey key with
    | error e => simp only [Serves, link, Talks, h, silent]
    | ok object =>
      cases hsecs : expirySecs span with
      | error e => simp only [Serves, link, Talks, h, hsecs, silent]
      | ok secs => simp only [Serves, link, Talks, h, hsecs, single]
  | ping => exact single

/-! ## Uploads to a bucket in memory -/

theorem partSize_pos : 0 < partSize := by decide

/-- An upload of the store, with its source known by what it holds. -/
def task (s : Store) (object : String) (source : Source) : Upload.Task :=
  ⟨object, s.acl, partSize, source.content, source.ending⟩

theorem upload_eq_verdict {s : Store} {key object : String} (h : s.objectKey key = .ok object)
    {source : Source} (hflows : source.Flows) {b : Bucket} (hb : b.Numbered) :
    s.upload key source b =
      (((s.task object source).verdict b.failingParts).map fun result => result.map fun _ => (),
        (s.task object source).after b) := by
  obtain ⟨hresult, hafter⟩ := Upload.toEnd_eq (t := s.task object source) partSize_pos hflows.holds
    hb.get?_nextId
  rw [upload_eq h, ← hresult, ← hafter]
  rfl

end Store

end BlobStore
