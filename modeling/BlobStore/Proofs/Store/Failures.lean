import Mathlib
import BlobStore.Proofs.Store.Operations

/-!
# What an error does to an operation

A client fails fast if an error ends it: from then on it makes at most calls of one kind, which clean
up, and its result is a failure. All clients of a store do, so an operation that is a success got no
error, and behind an error there are only calls that abort an upload. `talks_surfaces` says this of
all operations at any backend, together with which calls an operation makes and where an error of it
comes from.
-/

namespace BlobStore

namespace Client

variable {σ α β : Type} [Client σ α] [Backend β]

/-- An error reply leads to a broken state. No reply leads out of one, the calls made in one are the
last ones, and what comes of one is a failure. -/
structure FailsFast (Broken : σ → Prop) (Last : Call → Prop) (Failure : α → Prop) : Prop where
  breaks : ∀ s, (step s).Asks fun _ next => ∀ e, Broken (next (.error e))
  stays : ∀ s, Broken s → (step s).Asks fun c next => Last c ∧ ∀ reply, Broken (next reply)
  fails : ∀ s a, Broken s → step s = .done a → Failure a

namespace FailsFast

variable {Broken : σ → Prop} {Last : Call → Prop} {Failure : α → Prop} {s : σ} {a : α}
  {es : List Exchange}

theorem of_broken (h : FailsFast Broken Last Failure) (hrun : Finishes s es a) (hs : Broken s) :
    (∀ e ∈ es, Last e.1) ∧ Failure a := by
  obtain ⟨hcalls, s', hs', hdone⟩ := hrun.keeps_all h.stays hs
  exact ⟨hcalls, h.fails s' a hs' hdone⟩

theorem pairwise (h : FailsFast Broken Last Failure) (hrun : Finishes s es a) :
    es.Pairwise fun e e' => e.2.isOk = true ∨ Last e'.1 := by
  induction hrun with
  | done => exact .nil
  | @ask s c next es a hstep reply rest ih =>
    refine List.pairwise_cons.mpr ⟨fun e' he' => ?_, ih⟩
    cases reply with
    | ok answer => exact .inl rfl
    | error e =>
      have hbroken := h.breaks s
      rw [hstep] at hbroken
      exact .inr ((h.of_broken rest (hbroken e)).1 e' he')

theorem fails_of_error (h : FailsFast Broken Last Failure) (hrun : Finishes s es a)
    (herror : ¬ ∀ e ∈ es, e.2.isOk = true) : Failure a := by
  induction hrun with
  | done => exact absurd (List.forall_mem_nil _) herror
  | @ask s c next es a hstep reply rest ih =>
    cases reply with
    | ok answer => exact ih fun hall => herror (List.forall_mem_cons.mpr ⟨rfl, hall⟩)
    | error e =>
      have hbroken := h.breaks s
      rw [hstep] at hbroken
      exact (h.of_broken rest (hbroken e)).2

theorem ok_of_unfinished (h : FailsFast Broken (fun _ => False) Failure) {I : σ → Prop}
    {P : Call → Prop} (hstep : ∀ s, I s → (step s).Asks fun c next => P c ∧ ∀ reply, I (next reply))
    (hs : I s) {calls : Nat} {b : β} (hrun : result? (run calls s b).1 = none) :
    ∃ es, es.length = calls ∧ Backend.Plays b es (run calls s b).2 ∧
      ∀ e ∈ es, P e.1 ∧ e.2.isOk = true := by
  induction calls generalizing s b with
  | zero => exact ⟨[], rfl, rfl, List.forall_mem_nil _⟩
  | succ calls ih =>
    have hasks := hstep s hs
    cases hask : step s with
    | done a =>
      rw [run_of_done hask, result?_eq_some.mpr hask] at hrun
      cases hrun
    | ask c next =>
      rw [hask] at hasks
      rw [run_of_ask hask] at hrun ⊢
      obtain ⟨es, hlength, hplays, hes⟩ := ih (hasks.2 _) hrun
      refine ⟨⟨c, (Backend.answer c b).1⟩ :: es, by rw [List.length_cons, hlength], ⟨rfl, hplays⟩,
        List.forall_mem_cons.mpr ⟨⟨hasks.1, ?_⟩, hes⟩⟩
      dsimp only
      cases hreply : (Backend.answer c b).1 with
      | ok answer => rfl
      | error e =>
        -- the next state would be broken, and hence done
        have hbroken := h.breaks s
        rw [hask] at hbroken
        have hnext := h.stays _ (hbroken e)
        cases hdone : step (next (.error e)) with
        | ask c' next' =>
          rw [hdone] at hnext
          exact hnext.1.elim
        | done a =>
          rw [hreply, run_of_done hdone, result?_eq_some.mpr hdone] at hrun
          cases hrun

end FailsFast

end Client

/-! ## Uploads -/

/-- The error that the upload has met. -/
def UploadPhase.error? : UploadPhase → Option StoreError
  | aborting _ e | finished (.error e) => some e
  | _ => none

def UploadPhase.IsStalled : UploadPhase → Prop
  | stalled _ => True
  | _ => False

/-- The call is one of an upload to the object. -/
def Call.Uploads (object : String) : Call → Prop
  | put key .. | create key _ | part key .. | complete key .. | abort key _ => key = object
  | _ => False

/-- The call gives an upload up. -/
def Call.IsAbort : Call → Prop
  | abort .. => True
  | _ => False

/-- The backend says only to a download that there is no object. -/
def Exchange.IsHonest (e : Exchange) : Prop :=
  ∀ k, e.2 = .error (.notFound k) → ∃ key, e.1 = .get key

namespace Upload

theorem uploads_step (u : Upload) : (Client.step u).Asks fun c _ => c.Uploads u.key := by
  obtain ⟨key, acl, partSize, phase, source⟩ := u
  cases phase <;> trivial

/-- An upload is broken once it has met an error or its source is not ready. -/
def IsBroken (u : Upload) : Prop := u.phase.error?.isSome = true ∨ u.phase.IsStalled

theorem isBroken_afterPart (u : Upload) (id : String) (sent : Array CompletedPart) (size : Nat)
    (e : StoreError) : (u.afterPart id sent size (.error e)).IsBroken := by
  unfold afterPart
  cases u.source.take u.partSize with
  | taken data rest => exact .inl rfl
  | failed text rest => exact .inl rfl
  | stalled rest => exact .inr trivial

theorem failsFast : Client.FailsFast IsBroken Call.IsAbort
    fun o : UploadOutcome => ∀ n, o ≠ .finished (.ok n) where
  breaks u := by
    obtain ⟨key, acl, partSize, phase, source⟩ := u
    cases phase with
    | putting data => exact fun _ => .inl rfl
    | creating first => exact fun _ => .inl rfl
    | sending id sent size data => exact isBroken_afterPart _ id sent (size + data.size)
    | completing id sent size => exact fun _ => .inl rfl
    | aborting id reason => exact fun _ => .inl rfl
    | finished result => trivial
    | stalled id => trivial
  stays u hu := by
    obtain ⟨key, acl, partSize, phase, source⟩ := u
    cases phase with
    | aborting id reason => exact ⟨trivial, fun _ => .inl rfl⟩
    | finished result => trivial
    | stalled id => trivial
    | putting | creating | sending | completing => exact hu.elim nofun nofun
  fails u o hu hdone n ho := by
    rw [ho, step_eq_done] at hdone
    obtain hu | hu := hu <;> rw [hdone] at hu <;> cases hu

/-- What an upload to the object keeps; `last` is how its source ends. -/
structure IsSound (object : String) (last : SourceEnd) (u : Upload) : Prop where
  key : u.key = object
  ending : u.source.ending = last
  stalled : u.phase.IsStalled → last = .stalled

theorem isSound_start (object : String) (acl : Option String) (partSize : Nat) (source : Source) :
    (start object acl partSize source).IsSound object source.ending := by
  have hending := source.ending_of_take partSize
  unfold start
  cases htake : source.take partSize with
  | taken first rest =>
    rw [htake] at hending
    refine ⟨rfl, hending, fun h => ?_⟩
    dsimp only at h
    split at h <;> exact h.elim
  | failed text rest =>
    rw [htake] at hending
    exact ⟨rfl, hending, nofun⟩
  | stalled rest =>
    rw [htake] at hending
    exact ⟨rfl, hending.1, fun _ => hending.2⟩

theorem isSound_afterPart {u : Upload} {object : String} {last : SourceEnd}
    (hu : u.IsSound object last) (id : String) (sent : Array CompletedPart) (size : Nat)
    (reply : Except StoreError CompletedPart) : (u.afterPart id sent size reply).IsSound object last := by
  have hending := u.source.ending_of_take u.partSize
  rw [hu.ending] at hending
  unfold afterPart
  cases htake : u.source.take u.partSize with
  | taken data rest =>
    rw [htake] at hending
    cases reply with
    | error e => exact ⟨hu.key, hending, nofun⟩
    | ok part =>
      refine ⟨hu.key, hending, fun h => ?_⟩
      dsimp only at h
      split at h <;> exact h.elim
  | failed text rest =>
    rw [htake] at hending
    cases reply <;> exact ⟨hu.key, hending, nofun⟩
  | stalled rest =>
    rw [htake] at hending
    exact ⟨hu.key, hending.1, fun _ => hending.2⟩

theorem isSound_step {object : String} {last : SourceEnd} (u : Upload)
    (hu : u.IsSound object last) : (Client.step u).Asks fun c next =>
      c.Uploads object ∧ ∀ reply, (next reply).IsSound object last := by
  have hcall := uploads_step u
  rw [hu.key] at hcall
  obtain ⟨key, acl, partSize, phase, source⟩ := u
  cases phase with
  | putting data => exact ⟨hcall, fun _ => ⟨hu.key, hu.ending, nofun⟩⟩
  | creating first =>
    exact ⟨hcall, fun reply => by cases reply <;> exact ⟨hu.key, hu.ending, nofun⟩⟩
  | sending id sent size data => exact ⟨hcall, isSound_afterPart hu id sent (size + data.size)⟩
  | completing id sent size =>
    exact ⟨hcall, fun reply => by cases reply <;> exact ⟨hu.key, hu.ending, nofun⟩⟩
  | aborting id reason => exact ⟨hcall, fun _ => ⟨hu.key, hu.ending, nofun⟩⟩
  | finished result => trivial
  | stalled id => trivial

theorem reply_of_error_afterPart {u : Upload} {id : String} {sent : Array CompletedPart} {size : Nat}
    {reply : Except StoreError CompletedPart} {k : String}
    (h : (u.afterPart id sent size reply).phase.error? = some (.notFound k)) :
    reply = .error (.notFound k) := by
  unfold afterPart at h
  cases htake : u.source.take u.partSize with
  | taken data rest =>
    rw [htake] at h
    cases reply with
    | error e =>
      cases h
      rfl
    | ok part =>
      dsimp only at h
      split at h <;> cases h
  | failed text rest =>
    rw [htake] at h
    cases reply with
    | error e =>
      cases h
      rfl
    | ok part => cases h
  | stalled rest =>
    rw [htake] at h
    cases h

theorem error_start (object : String) (acl : Option String) (partSize : Nat) (source : Source)
    (k : String) : (start object acl partSize source).phase.error? ≠ some (.notFound k) := by
  unfold start
  cases source.take partSize with
  | taken first rest =>
    dsimp only
    split <;> nofun
  | failed text rest => nofun
  | stalled rest => nofun

theorem error_step (u : Upload) (hu : ∀ k, u.phase.error? ≠ some (.notFound k)) :
    (Client.step u).Asks fun c next => ∀ reply : c.Reply, (∀ k, reply ≠ .error (.notFound k)) →
      ∀ k, (next reply).phase.error? ≠ some (.notFound k) := by
  obtain ⟨key, acl, partSize, phase, source⟩ := u
  cases phase with
  | putting data =>
    intro reply hreply k hk
    cases reply with
    | error e => exact hreply k (by cases hk; rfl)
    | ok _ => cases hk
  | creating first =>
    intro reply hreply k hk
    cases reply with
    | error e => exact hreply k (by cases hk; rfl)
    | ok id => cases hk
  | sending id sent size data =>
    exact fun reply hreply k hk => hreply k (reply_of_error_afterPart hk)
  | completing id sent size =>
    intro reply hreply k hk
    cases reply with
    | error e => exact hreply k (by cases hk; rfl)
    | ok _ => cases hk
  | aborting id reason => exact fun _ _ => hu
  | finished result => trivial
  | stalled id => trivial

end Upload

/-! ## Deleting by prefix and listing -/

namespace Store

theorem Purge.failsFast : Client.FailsFast (fun p : Purge => ∃ e, p.ended = some (.error e))
    (fun _ => False) (fun a : Except StoreError Unit => ∃ e, a = .error e) where
  breaks p := by
    obtain ⟨stem, rest, ended⟩ := p
    cases ended with
    | some result => trivial
    | none => cases rest <;> exact fun e => ⟨e, rfl⟩
  stays p hp := by
    obtain ⟨stem, rest, ended⟩ := p
    obtain ⟨e, rfl⟩ := hp
    trivial
  fails p a hp hdone := by
    obtain ⟨stem, rest, ended⟩ := p
    obtain ⟨e, rfl⟩ := hp
    exact ⟨e, (Step.done.inj hdone).symm⟩

theorem Listing.failsFast : Client.FailsFast (fun l : Listing => ∃ e, l.ended = some (.error e))
    (fun _ => False) (fun a : Except StoreError (List String) => ∃ e, a = .error e) where
  breaks l := by
    obtain ⟨stem, perPage, token, found, ended⟩ := l
    cases ended with
    | some result => trivial
    | none => exact fun e => ⟨e, rfl⟩
  stays l hl := by
    obtain ⟨stem, perPage, token, found, ended⟩ := l
    obtain ⟨e, rfl⟩ := hl
    trivial
  fails l a hl hdone := by
    obtain ⟨stem, perPage, token, found, ended⟩ := l
    obtain ⟨e, rfl⟩ := hl
    exact ⟨e, (Step.done.inj hdone).symm⟩

theorem Purge.calls_step (stem : String) (p : Purge) (hp : p.stem = stem) :
    (Client.step p).Asks fun c next =>
      (c = .list stem none pageSize ∨ ∃ key, c = .delete key) ∧ ∀ reply, (next reply).stem = stem := by
  obtain ⟨stem, rest, ended⟩ := p
  obtain rfl := hp
  cases ended with
  | some result => trivial
  | none =>
    cases rest with
    | nil =>
      refine ⟨.inl rfl, fun reply => ?_⟩
      cases reply with
      | error e => rfl
      | ok page =>
        dsimp only
        split <;> rfl
    | cons key rest => exact ⟨.inr ⟨key, rfl⟩, fun reply => by cases reply <;> rfl⟩

theorem Purge.error_step (p : Purge) (hp : ∀ k, p.ended ≠ some (.error (.notFound k))) :
    (Client.step p).Asks fun c next => ∀ reply : c.Reply, (∀ k, reply ≠ .error (.notFound k)) →
      ∀ k, (next reply).ended ≠ some (.error (.notFound k)) := by
  obtain ⟨stem, rest, ended⟩ := p
  cases ended with
  | some result => trivial
  | none =>
    cases rest with
    | nil =>
      intro reply hreply k
      cases reply with
      | error e => exact fun hk => hreply k (by cases hk; rfl)
      | ok page =>
        dsimp only
        split <;> nofun
    | cons key rest =>
      intro reply hreply k
      cases reply with
      | error e => exact fun hk => hreply k (by cases hk; rfl)
      | ok _ => nofun

theorem Purge.ended_of_done {p : Purge} {a : Except StoreError Unit} (h : Client.step p = .done a) :
    p.ended = some a := by
  obtain ⟨stem, rest, ended⟩ := p
  cases ended with
  | some result => exact congrArg some (Step.done.inj h)
  | none => cases rest <;> cases h

theorem Listing.ended_of_done {l : Listing} {e : StoreError} (h : Client.step l = .done (.error e)) :
    l.ended = some (.error e) := by
  obtain ⟨stem, perPage, token, found, ended⟩ := l
  cases ended with
  | some result =>
    cases result with
    | error e' => exact congrArg some (by cases h; rfl)
    | ok _ => cases h
  | none => cases h

theorem Listing.calls_step (l : Listing) :
    (Client.step l).Asks fun c _ => ∃ stem token max, c = .list stem token max := by
  obtain ⟨stem, perPage, token, found, ended⟩ := l
  cases ended with
  | some result => trivial
  | none => exact ⟨_, _, _, rfl⟩

theorem Listing.error_step (l : Listing) (hl : ∀ k, l.ended ≠ some (.error (.notFound k))) :
    (Client.step l).Asks fun c next => ∀ reply : c.Reply, (∀ k, reply ≠ .error (.notFound k)) →
      ∀ k, (next reply).ended ≠ some (.error (.notFound k)) := by
  obtain ⟨stem, perPage, token, found, ended⟩ := l
  cases ended with
  | some result => trivial
  | none =>
    intro reply hreply k
    cases reply with
    | error e => exact fun hk => hreply k (by cases hk; rfl)
    | ok page =>
      dsimp only
      split <;> nofun

end Store

/-! ## Operations -/

/-- What comes of an operation, without what it gives back; nothing if an upload waits. -/
def Operation.verdict : (r : Operation) → r.Response → Option (Except StoreError Unit)
  | upload .., a => a
  | download .., a => some (a.map fun _ => ())
  | delete .., a => some a
  | contains .., a => some (a.map fun _ => ())
  | purge .., a => some a
  | list .., a => some (a.map fun _ => ())
  | link .., a => some (a.map fun _ => ())
  | ping, a => some a

namespace Store

open Client (Finishes)

/-- The calls that an operation can make. -/
def Makes (s : Store) : Operation → Call → Prop
  | .upload key _, c => ∃ object, s.objectKey key = .ok object ∧ c.Uploads object
  | .download key, c => ∃ object, s.objectKey key = .ok object ∧ c = .get object
  | .delete key, c => ∃ object, s.objectKey key = .ok object ∧ c = .delete object
  | .contains key, c => c = .list (s.physicalKey key) none 1
  | .purge key, c => c = .list (s.physicalKey key) none pageSize ∨ ∃ object, c = .delete object
  | .list .., c => ∃ stem token max, c = .list stem token max
  | .link use .., c => ∃ object secs, c = .presign use object secs
  | .ping, c => c = .check

/-- **What errors do to an operation.** -/
structure Surfaces (s : Store) (r : Operation) (es : List Exchange) (a : r.Response) : Prop where
  calls : ∀ e ∈ es, s.Makes r e.1
  /-- A success got no error. -/
  ok : r.verdict a = some (.ok ()) → ∀ e ∈ es, e.2.isOk = true
  /-- Behind an error there are only calls that give an upload up. -/
  last : es.Pairwise fun e e' => e.2.isOk = true ∨ e'.1.IsAbort
  /-- Only an upload whose source is never ready does not respond. -/
  waiting : r.verdict a = none → ∃ key source, r = .upload key source ∧ source.ending = .stalled
  /-- That there is no object is the response to a download alone. -/
  missing : (∀ e ∈ es, e.IsHonest) → ∀ k, r.verdict a = some (.error (.notFound k)) ↔
    ∃ key object, r = .download key ∧ es = [⟨.get object, .error (.notFound k)⟩]

variable {s : Store} {r : Operation} {es : List Exchange} {a : r.Response}

theorem surfaces_nil {e : StoreError} (hverdict : r.verdict a = some (.error e))
    (hmissing : ∀ k, e ≠ .notFound k) : s.Surfaces r [] a where
  calls := List.forall_mem_nil _
  ok _ := List.forall_mem_nil _
  last := .nil
  waiting h := by
    rw [hverdict] at h
    cases h
  missing _ k := by
    rw [hverdict]
    constructor
    · intro h
      cases h
      exact absurd rfl (hmissing k)
    · rintro ⟨key, object, -, h⟩
      cases h

theorem surfaces_single {c : Call} {reply : c.Reply} (hcall : s.Makes r c)
    (hverdict : r.verdict a = some (reply.map fun _ => ()))
    (hget : ∀ object, c = .get object → ∃ key, r = .download key) :
    s.Surfaces r [⟨c, reply⟩] a where
  calls := List.forall_mem_singleton.mpr hcall
  ok h := by
    rw [hverdict] at h
    refine List.forall_mem_singleton.mpr ?_
    cases reply with
    | error e => cases h
    | ok answer => rfl
  last := List.pairwise_singleton ..
  waiting h := by
    rw [hverdict] at h
    cases h
  missing hhonest k := by
    rw [hverdict]
    constructor
    · intro h
      cases reply with
      | ok answer => cases h
      | error e =>
        cases h
        obtain ⟨object, rfl⟩ := hhonest _ (List.mem_singleton_self _) k rfl
        obtain ⟨key, rfl⟩ := hget object rfl
        exact ⟨key, object, rfl, rfl⟩
    · rintro ⟨key, object, -, h⟩
      cases h
      rfl

/-- A client that fails fast, as an operation; in the states `I` it has met no download that found
nothing. -/
theorem surfaces_client {σ α : Type} [Client σ α] {Broken I : σ → Prop} {Last : Call → Prop}
    {Failure : α → Prop} (hfast : Client.FailsFast Broken Last Failure)
    (hlast : ∀ c, Last c → c.IsAbort) {st : σ} {result : α} (hrun : Finishes st es result)
    (hcalls : ∀ e ∈ es, s.Makes r e.1) (hok : r.verdict a = some (.ok ()) → ¬ Failure result)
    (hwaiting : r.verdict a = none → ∃ key source, r = .upload key source ∧ source.ending = .stalled)
    (hstep : ∀ st, I st → (Client.step st).Asks fun c next => ∀ reply : c.Reply,
      (∀ k, reply ≠ .error (.notFound k)) → I (next reply)) (hstart : I st)
    (hdone : ∀ st k, I st → Client.step st = .done result →
      r.verdict a ≠ some (.error (.notFound k)))
    (hget : ∀ object, ¬ s.Makes r (.get object)) : s.Surfaces r es a where
  calls := hcalls
  ok h := by
    by_contra herror
    exact hok h (hfast.fails_of_error hrun herror)
  last := (hfast.pairwise hrun).imp fun h => h.imp_right (hlast _)
  waiting := hwaiting
  missing hhonest k := by
    constructor
    · intro h
      obtain ⟨-, st', hst', hend⟩ := hrun.keeps (P := fun _ => True)
        (Q := fun e => ∀ k, e.2 ≠ .error (.notFound k))
        (fun st hst => (hstep st hst).mono fun _ _ hnext => ⟨trivial, hnext⟩) hstart
        (fun e he k hk => by
          obtain ⟨object, hobject⟩ := hhonest e he k hk
          exact hget object (hobject ▸ hcalls e he))
      exact absurd h (hdone st' k hst' hend)
    · rintro ⟨key, object, rfl, rfl⟩
      exact absurd (hcalls _ (List.mem_singleton_self _)) (hget object)

theorem objectKey_ne_notFound {key : String} {e : StoreError} (h : s.objectKey key = .error e)
    (k : String) : e ≠ .notFound k := by
  unfold objectKey at h
  split at h <;> cases h
  nofun

theorem expirySecs_ne_notFound {span : Span} {e : StoreError} (h : expirySecs span = .error e)
    (k : String) : e ≠ .notFound k := by
  unfold expirySecs at h
  split at h <;> cases h
  nofun

theorem surfaces_upload {key object : String} {source : Source} {o : UploadOutcome}
    (hkey : s.objectKey key = .ok object)
    (hrun : Finishes (Upload.start object s.acl partSize source) es o) :
    s.Surfaces (.upload key source) es (o.result?.map fun result => result.map fun _ => ()) := by
  obtain ⟨hcalls, u, hu, hdone⟩ := hrun.keeps_all Upload.isSound_step
    (Upload.isSound_start object s.acl partSize source)
  rw [Upload.step_eq_done] at hdone
  refine surfaces_client Upload.failsFast (fun _ h => h) hrun
    (fun e he => ⟨object, hkey, hcalls e he⟩) (fun hok hfailure => ?ok) (fun hwaits => ?waiting)
    Upload.error_step (Upload.error_start object s.acl partSize source)
    (fun u' k hu' hdone' hmissing => ?missing) (fun _ ⟨_, _, hget⟩ => hget)
  case ok =>
    cases o with
    | stalled id => cases hok
    | finished result =>
      cases result with
      | error e => cases hok
      | ok n => exact hfailure n rfl
  case waiting =>
    cases o with
    | stalled id => exact ⟨key, source, rfl, hu.stalled (by rw [hdone]; trivial)⟩
    | finished result => cases hwaits
  case missing =>
    rw [Upload.step_eq_done] at hdone'
    cases o with
    | stalled id => cases hmissing
    | finished result =>
      cases result with
      | error e =>
        cases hmissing
        exact hu' k (by rw [hdone']; rfl)
      | ok n => cases hmissing

theorem surfaces_purge {key : String} {a : Except StoreError Unit} (hrun : Finishes (s.purge key) es a) :
    s.Surfaces (.purge key) es a := by
  refine surfaces_client Purge.failsFast nofun hrun
    (hrun.keeps_all (Purge.calls_step (s.physicalKey key)) rfl).1 (fun hok ⟨e, hfailure⟩ => ?_) nofun
    Purge.error_step nofun (fun p k hp hdone hmissing => ?_) nofun
  · rw [hfailure] at hok
    cases hok
  · obtain rfl := Option.some.inj hmissing
    exact hp k (Purge.ended_of_done hdone)

theorem surfaces_list {stem : String} {limit : Nat} {a : Except StoreError (List String)}
    (hrun : Finishes (listing stem limit) es a) : s.Surfaces (.list stem limit) es a := by
  refine surfaces_client Listing.failsFast nofun hrun
    (hrun.keeps_all (I := fun _ => True) (fun l _ =>
      (Listing.calls_step l).mono fun _ _ hcall => ⟨hcall, fun _ => trivial⟩) trivial).1
    (fun hok ⟨e, hfailure⟩ => ?_) nofun Listing.error_step nofun
    (fun l k hl hdone hmissing => ?_) nofun
  · rw [hfailure] at hok
    cases hok
  · cases a with
    | ok keys => cases hmissing
    | error e =>
      cases hmissing
      exact hl k (Listing.ended_of_done hdone)

theorem talks_surfaces (h : s.Talks r es a) : s.Surfaces r es a := by
  cases r with
  | upload key source =>
    simp only [Talks] at h
    cases hkey : s.objectKey key with
    | error e =>
      rw [hkey] at h
      obtain ⟨rfl, rfl⟩ := h
      exact surfaces_nil rfl (objectKey_ne_notFound hkey)
    | ok object =>
      rw [hkey] at h
      obtain ⟨o, hrun, rfl⟩ := h
      exact surfaces_upload hkey hrun
  | download key =>
    simp only [Talks] at h
    cases hkey : s.objectKey key with
    | error e =>
      rw [hkey] at h
      obtain ⟨rfl, rfl⟩ := h
      exact surfaces_nil rfl (objectKey_ne_notFound hkey)
    | ok object =>
      rw [hkey] at h
      obtain rfl := h
      exact surfaces_single ⟨object, hkey, rfl⟩ rfl fun _ _ => ⟨key, rfl⟩
  | delete key =>
    simp only [Talks] at h
    cases hkey : s.objectKey key with
    | error e =>
      rw [hkey] at h
      obtain ⟨rfl, rfl⟩ := h
      exact surfaces_nil rfl (objectKey_ne_notFound hkey)
    | ok object =>
      rw [hkey] at h
      obtain rfl := h
      exact surfaces_single ⟨object, hkey, rfl⟩ (by cases a <;> rfl) fun _ hc => by cases hc
  | contains key =>
    obtain ⟨reply, rfl, rfl⟩ := h
    exact surfaces_single rfl (by cases reply <;> rfl) fun _ hc => by cases hc
  | purge key => exact surfaces_purge h
  | list stem limit => exact surfaces_list h
  | link use key span =>
    simp only [Talks] at h
    cases hkey : s.objectKey key with
    | error e =>
      rw [hkey] at h
      obtain ⟨rfl, rfl⟩ := h
      exact surfaces_nil rfl (objectKey_ne_notFound hkey)
    | ok object =>
      cases hsecs : expirySecs span with
      | error e =>
        rw [hkey, hsecs] at h
        obtain ⟨rfl, rfl⟩ := h
        exact surfaces_nil rfl (expirySecs_ne_notFound hsecs)
      | ok secs =>
        rw [hkey, hsecs] at h
        obtain rfl := h
        exact surfaces_single ⟨object, secs, rfl⟩ rfl fun _ hc => by cases hc
  | ping =>
    obtain rfl := h
    exact surfaces_single rfl (by cases a <;> rfl) fun _ hc => by cases hc

/-! ## Operations without an end -/

variable {β : Type} [Backend β] {b b' : β}

/-- The operation has made so many calls at the backend, which is `b'` then, and is to make more. -/
def GoesOn (s : Store) (b : β) (calls : Nat) : Operation → β → Prop
  | .purge key, b' => Client.result? (Client.run calls (s.purge key) b).1 = none ∧
    (Client.run calls (s.purge key) b).2 = b'
  | .list stem limit, b' => Client.result? (Client.run calls (listing stem limit) b).1 = none ∧
    (Client.run calls (listing stem limit) b).2 = b'
  | _, _ => False

theorem serves_or_goesOn (s : Store) (b : β) (r : Operation) :
    (∃ a b', s.Serves b r a b') ∨ ∀ calls, ∃ b', s.GoesOn b calls r b' := by
  have client : ∀ {σ α : Type} [Client σ α] (st : σ), (∃ a b', Client.Ends st b a b') ∨
      ∀ calls, ∃ b', Client.result? (Client.run calls st b).1 = none ∧
        (Client.run calls st b).2 = b' := by
    intro σ α _ st
    by_cases h : ∀ calls, Client.result? (Client.run calls st b).1 = none
    · exact .inr fun calls => ⟨_, h calls, rfl⟩
    · obtain ⟨calls, hcalls⟩ := not_forall.mp h
      obtain ⟨a, ha⟩ := Option.ne_none_iff_exists'.mp hcalls
      exact .inl ⟨a, _, calls, ha, rfl⟩
  cases r with
  | purge key => exact client (s.purge key)
  | list stem limit => exact client (listing stem limit)
  | upload | download | delete | contains | link | ping => exact .inl ⟨_, _, Prod.mk.eta.symm⟩

theorem GoesOn.exists_plays {calls : Nat} (h : s.GoesOn b calls r b') :
    ∃ es, es.length = calls ∧ Backend.Plays b es b' ∧ ∀ e ∈ es, s.Makes r e.1 ∧ e.2.isOk = true := by
  cases r with
  | purge key =>
    obtain ⟨hrun, rfl⟩ := h
    exact Purge.failsFast.ok_of_unfinished (Purge.calls_step (s.physicalKey key)) rfl hrun
  | list stem limit =>
    obtain ⟨hrun, rfl⟩ := h
    exact Listing.failsFast.ok_of_unfinished (I := fun _ => True) (fun l _ =>
      (Listing.calls_step l).mono fun _ _ hcall => ⟨hcall, fun _ => trivial⟩) trivial hrun
  | upload | download | delete | contains | link | ping => exact h.elim

theorem GoesOn.not_presign {calls : Nat} {c : Call} (h : s.GoesOn b calls r b') (hc : s.Makes r c) :
    ¬ ∃ use key secs, c = .presign use key secs := by
  rintro ⟨use, key, secs, rfl⟩
  cases r with
  | purge key => obtain hc | ⟨_, hc⟩ := hc <;> cases hc
  | list stem limit => obtain ⟨_, _, _, hc⟩ := hc; cases hc
  | upload | download | delete | contains | link | ping => exact h.elim

end Store

end BlobStore
