import Mathlib
import BlobStore.Proofs.Remote.Traffic
import BlobStore.Proofs.Store.Failures

/-!
# Failures of an endpoint

`Settles` says what the requests of one call have to do with its reply: a call that does as asked has
one request, which is accepted in the end, and only a part that is refused has another one sent behind
it, which gives the upload up. With what an error does to an operation this gives `failures_surface`:
whatever client the bucket is reached with, no failure of the endpoint is taken for a success.
-/

namespace BlobStore

/-- The response is as good as a success for the call: what is to be deleted may be missing. -/
def Call.Accepts (c : Call) (x : Transaction) : Prop :=
  x.2.IsSuccess ∨
    (∃ key, c = .delete key) ∧ x.1.method = .delete ∧ ∃ r, x.2 = .answered r ∧ r.status = 404

/-- The response to a download says that there is no object. -/
def Transaction.Misses (x : Transaction) : Prop :=
  x.1.method = .get ∧ ∃ r, x.2 = .answered r ∧ r.status = 404

variable {γ : Type} [Gateway γ]

namespace Wire

open Backend (Plays)

/-- The request gives an upload to the object up. -/
def GivesUp (w : Wire γ) (g : γ) (object : String) (x : Transaction) : Prop :=
  x.1.method = .delete ∧ ∃ id, w.request g (.giveUp object id) = some x.1

/-- **What the settled transactions of a call say** about its reply. -/
structure Settles (w : Wire γ) (g : γ) (c : Call) (ts : List Transaction) (reply : c.Reply) :
    Prop where
  accepted : reply.isOk = true → ∀ x ∈ ts, c.Accepts x
  last : ts.Pairwise fun x y => c.Accepts x ∨ ∃ key, c.Uploads key ∧ w.GivesUp g key y
  abort : c.IsAbort → ∀ x ∈ ts, ∃ key, c.Uploads key ∧ w.GivesUp g key x
  missing : ∀ k, reply = .error (.notFound k) ↔ c = .get k ∧ ∃ x, ts = [x] ∧ x.Misses
  sends : reply.isOk = true → (∃ use key secs, c = .presign use key secs) ∨ ts.length = 1

variable {w : Wire γ} {g g' : γ} {c : Call} {reply : c.Reply}

theorem settles_nil (herror : reply.isOk = false) (hmissing : ∀ k, reply ≠ .error (.notFound k)) :
    w.Settles g c [] reply where
  accepted _ := List.forall_mem_nil _
  last := .nil
  abort _ := List.forall_mem_nil _
  missing k := by simp [hmissing k]
  sends h := by
    rw [herror] at h
    cases h

theorem settles_single {x : Transaction} (haccepts : reply.isOk = true → c.Accepts x)
    (habort : c.IsAbort → ∃ key, c.Uploads key ∧ w.GivesUp g key x)
    (hmissing : ∀ k, reply = .error (.notFound k) ↔ c = .get k ∧ x.Misses) :
    w.Settles g c [x] reply where
  accepted h := List.forall_mem_singleton.mpr (haccepts h)
  last := List.pairwise_singleton ..
  abort h := List.forall_mem_singleton.mpr (habort h)
  missing k := by simp [hmissing k]
  sends _ := .inr rfl

end Wire

/-! ## What calls read off what is handed back -/

namespace Gateway

variable {α β : Type} {title : String}

theorem transport_bind_eq_notFound {reply : Except String α} {read : α → Except StoreError β}
    {k : String} : (transport title reply).bind read = .error (.notFound k) ↔
      ∃ a, reply = .ok a ∧ read a = .error (.notFound k) := by
  cases reply <;> simp [transport, Except.bind]

theorem eq_ok_of_isOk {ε : Type} {x : Except ε α} (h : x.isOk = true) : ∃ a, x = .ok a := by
  cases x with
  | error e => cases h
  | ok a => exact ⟨a, rfl⟩

theorem statusReply_eq_ok {accepts : Nat → Bool} {answer : Nat × ByteArray}
    (h : statusReply title accepts answer = .ok ()) : accepts answer.1 = true := by
  obtain ⟨status, body⟩ := answer
  by_contra hnot
  rw [statusReply, if_neg hnot] at h
  cases h

theorem statusReply_ne_notFound (accepts : Nat → Bool) (answer : Nat × ByteArray) (k : String) :
    statusReply title accepts answer ≠ .error (.notFound k) := by
  intro h
  simp only [statusReply] at h
  split at h <;> cases h

theorem listReply_eq_ok {answer : Page × Nat} {page : Page} (h : listReply answer = .ok page) :
    isSuccess answer.2 = true := by
  obtain ⟨page', status⟩ := answer
  by_contra hnot
  rw [listReply, if_neg hnot] at h
  cases h

theorem listReply_ne_notFound (answer : Page × Nat) (k : String) :
    listReply answer ≠ .error (.notFound k) := by
  intro h
  simp only [listReply] at h
  split at h <;> cases h

/-- Which calls read their reply off what is handed back for something else than a part: they fail
with the client, are a success by the response alone, and only a download finds nothing. -/
structure Judges (c : Call) (a : Ask) (read : a.Reply → c.Reply) : Prop where
  fault : ∀ cause, (read (.error cause)).isOk = false
  accepts : ∀ d reply, a.Reads d reply → (read reply).isOk = true →
    d.IsSuccess ∨ (∃ key, c = .delete key) ∧ ∃ r, d = .answered r ∧ r.status = 404
  missing : ∀ d reply k, a.Reads d reply → (read reply = .error (.notFound k) ↔
    c = .get k ∧ ∃ r, d = .answered r ∧ r.status = 404)
  missing_fault : ∀ cause k, read (.error cause) ≠ .error (.notFound k)

theorem judges_of_ne {c : Call} {a : Ask} {read : a.Reply → c.Reply} (hc : ∀ k, c ≠ .get k)
    (hfault : ∀ cause, (read (.error cause)).isOk = false)
    (hmissing : ∀ reply k, read reply ≠ .error (.notFound k))
    (haccepts : ∀ d reply, a.Reads d reply → (read reply).isOk = true →
      d.IsSuccess ∨ (∃ key, c = .delete key) ∧ ∃ r, d = .answered r ∧ r.status = 404) :
    Judges c a read where
  fault := hfault
  accepts := haccepts
  missing _ reply k _ := iff_of_false (hmissing reply k) fun h => hc k h.1
  missing_fault _ k := hmissing _ k

theorem not_isInterim_of_status {r : Response} (h : r.status = 404) : r.isInterim = false := by
  simp [Response.isInterim, h]

theorem judges_get (key : String) : Judges (.get key) (.download key) fun reply =>
    (transport Title.get reply).bind (getReply key) where
  fault _ := rfl
  accepts d reply hreads hok := by
    obtain ⟨source, hsource⟩ := eq_ok_of_isOk hok
    obtain ⟨⟨status, x⟩, rfl, hread⟩ := transport_bind_eq_ok.mp hsource
    obtain ⟨r, hr, -, rfl⟩ := hreads.sound _ _ rfl
    refine .inl (hr.isSuccess ?_)
    by_contra hnot
    have hnot' : ¬ isSuccess r.status = true := hnot
    simp only [getReply, if_neg hnot'] at hread
    split at hread <;> cases hread
  missing d reply k hreads := by
    rw [transport_bind_eq_notFound]
    constructor
    · rintro ⟨⟨status, x⟩, rfl, hread⟩
      obtain ⟨r, hr, -, rfl⟩ := hreads.sound _ _ rfl
      simp only [getReply] at hread
      split at hread
      · cases hread
      · split at hread
        · next hstatus =>
          cases hread
          exact ⟨rfl, r, hr.1, hstatus⟩
        · cases hread
    · rintro ⟨hk, r, rfl, hstatus⟩
      cases hk
      obtain ⟨x, hx⟩ := hreads.complete r ⟨rfl, not_isInterim_of_status hstatus⟩ trivial
      exact ⟨_, hx, by simp [getReply, isSuccess, hstatus]⟩
  missing_fault _ _ := nofun

theorem exists_of_statusReply {accepts : Nat → Bool} {enough : Response → Prop} {d : Delivery}
    {reply : Except String (Nat × ByteArray)} (hreads : HandsStatus enough d reply)
    (hok : ((transport title reply).bind (statusReply title accepts)).isOk = true) :
    ∃ r, d.Brings r ∧ accepts r.status = true := by
  obtain ⟨_, hdone⟩ := eq_ok_of_isOk hok
  obtain ⟨⟨status, x⟩, rfl, hread⟩ := transport_bind_eq_ok.mp hdone
  obtain ⟨r, hr, -, rfl⟩ := hreads.sound _ _ rfl
  exact ⟨r, hr, statusReply_eq_ok hread⟩

theorem transport_statusReply_ne_notFound (accepts : Nat → Bool) (reply : Except String (Nat × ByteArray))
    (k : String) :
    (transport title reply).bind (statusReply title accepts) ≠ .error (.notFound k) := fun h =>
  have ⟨_, _, hread⟩ := transport_bind_eq_notFound.mp h
  statusReply_ne_notFound _ _ _ hread

theorem transport_ok_ne_notFound (reply : Except String α) (k : String) :
    (transport title reply).bind .ok ≠ .error (.notFound k) := fun h => by
  obtain ⟨_, _, hread⟩ := transport_bind_eq_notFound.mp h
  cases hread

theorem judges_put (key : String) (data : ByteArray) (contentType : String) (acl : Option String) :
    Judges (.put key data acl) (.put key data contentType acl) fun reply =>
      (transport Title.put reply).bind (statusReply Title.put isSuccess) := by
  refine judges_of_ne nofun (fun _ => rfl) (transport_statusReply_ne_notFound _) fun d reply h hok => ?_
  obtain ⟨r, hr, hsuccess⟩ := exists_of_statusReply h hok
  exact .inl (hr.isSuccess hsuccess)

theorem judges_create (key contentType : String) (acl : Option String) :
    Judges (.create key acl) (.initiate key contentType acl) fun reply =>
      (transport Title.create reply).bind .ok := by
  refine judges_of_ne nofun (fun _ => rfl) transport_ok_ne_notFound fun d reply h hok => .inl ?_
  obtain ⟨id, hid⟩ := eq_ok_of_isOk hok
  obtain ⟨id', hid', -⟩ := transport_bind_eq_ok.mp hid
  exact h id' hid'

theorem judges_complete (key id : String) (parts : List CompletedPart) :
    Judges (.complete key id parts) (.finish key id parts) fun reply =>
      (transport Title.complete reply).bind (statusReply Title.complete isSuccess) := by
  refine judges_of_ne nofun (fun _ => rfl) (transport_statusReply_ne_notFound _) fun d reply h hok => ?_
  obtain ⟨r, hr, hsuccess⟩ := exists_of_statusReply h hok
  exact .inl (hr.isSuccess hsuccess)

theorem judges_abort (key id : String) : Judges (.abort key id) (.giveUp key id) fun reply =>
    (transport Title.abort reply).bind .ok := by
  refine judges_of_ne nofun (fun _ => rfl) transport_ok_ne_notFound fun d reply h hok => .inl ?_
  obtain ⟨_, hdone⟩ := eq_ok_of_isOk hok
  obtain ⟨_, hdone', -⟩ := transport_bind_eq_ok.mp hdone
  exact h hdone'

theorem judges_delete (key : String) : Judges (.delete key) (.remove key) fun reply =>
    (transport Title.delete reply).bind
      (statusReply Title.delete fun status => isSuccess status || status = 404) := by
  refine judges_of_ne nofun (fun _ => rfl) (transport_statusReply_ne_notFound _) fun d reply h hok => ?_
  obtain ⟨r, hr, haccepts⟩ := exists_of_statusReply h hok
  obtain hsuccess | hstatus := (Bool.or_eq_true ..).mp haccepts
  · exact .inl (hr.isSuccess hsuccess)
  · exact .inr ⟨⟨key, rfl⟩, r, hr.1, of_decide_eq_true hstatus⟩

theorem exists_of_listReply {stem : String} {token : Option String} {max : Nat} {d : Delivery}
    {reply : Except String (Page × Nat)} (hreads : (Ask.page stem token max).Reads d reply)
    (hok : ((transport Title.list reply).bind listReply).isOk = true) : d.IsSuccess := by
  obtain ⟨page, hpage⟩ := eq_ok_of_isOk hok
  obtain ⟨⟨page', status⟩, rfl, hread⟩ := transport_bind_eq_ok.mp hpage
  obtain ⟨r, hr, rfl⟩ := hreads _ _ rfl
  exact hr.isSuccess (listReply_eq_ok hread)

theorem judges_list (stem : String) (token : Option String) (max : Nat) :
    Judges (.list stem token max) (.page stem token max) fun reply =>
      (transport Title.list reply).bind listReply := by
  refine judges_of_ne nofun (fun _ => rfl) (fun reply k h => ?_)
    fun d reply h hok => .inl (exists_of_listReply h hok)
  obtain ⟨_, _, hread⟩ := transport_bind_eq_notFound.mp h
  exact listReply_ne_notFound _ _ hread

theorem judges_check (name : String) : Judges .check (.page "" none 1) fun reply =>
    match (transport Title.list reply).bind listReply with
    | .ok _ => .ok ()
    | .error e => .error (.unreachable name e.message) := by
  refine judges_of_ne nofun (fun _ => rfl) (fun reply k h => ?_) fun d reply h hok => .inl ?_
  · split at h <;> cases h
  · refine exists_of_listReply h ?_
    split at hok
    · next hpage => rw [hpage]; rfl
    · cases hok

end Gateway

namespace Wire

open Backend (Plays)
open Gateway (Judges transport)

variable {w : Wire γ} {g g' : γ} {c : Call} {reply : c.Reply}

/-- What was sent for a call settles its reply. -/
def Settled (w : Wire γ) (g : γ) (c : Call) (xs : List Sending) (answer : c.Reply × γ) : Prop :=
  (∀ x ∈ xs, x.Tried w.retries) ∧ w.After g (xs.flatMap Sending.transactions) answer.2 ∧
    w.Settles g c (xs.map Sending.settled) answer.1

theorem settled_of_judges (w : Wire γ) (g : γ) {a : Ask} {read : a.Reply → c.Reply}
    (hread : Judges c a read) (ha : ¬ a.IsPart) (hget : ∀ k, c = .get k → a.method = .get)
    (hdelete : ∀ k, c = .delete k → a.method = .delete)
    (habort : c.IsAbort → ∃ key id, c.Uploads key ∧ a = .giveUp key id) :
    ∃ xs, w.Settled g c xs (read (Gateway.ask a g).1, (Gateway.ask a g).2) := by
  obtain ⟨xs, htried, hafter, hsends⟩ := w.exists_sends a g
  refine ⟨xs, htried, hafter, ?_⟩
  obtain ⟨-, rfl, cause, hcause⟩ | ⟨x, hrequest, rfl, hreply⟩ := hsends.cases_of_not_isPart ha
  · rw [hcause]
    exact settles_nil (hread.fault cause) (hread.missing_fault cause)
  · have hmethod : x.request.method = a.method := w.method hrequest
    refine settles_single (fun hok => ?_) (fun h => ?_) fun k => ?_
    · obtain hsuccess | ⟨⟨key, hc⟩, hstatus⟩ := hread.accepts _ _ hreply hok
      · exact .inl hsuccess
      · exact .inr ⟨⟨key, hc⟩, hmethod.trans (hdelete key hc), hstatus⟩
    · obtain ⟨key, id, hcall, rfl⟩ := habort h
      exact ⟨key, hcall, hmethod, id, hrequest⟩
    · rw [hread.missing _ _ _ hreply]
      exact and_congr_right fun hc => ⟨fun h => ⟨hmethod.trans (hget k hc), h⟩, fun h => h.2⟩

theorem settles_presign (use : LinkUse) (key : String) (secs : Nat) (reply : Except String String) :
    w.Settles g (.presign use key secs) [] (reply.mapError (.signing key)) where
  accepted _ := List.forall_mem_nil _
  last := .nil
  abort := nofun
  missing k := by
    refine iff_of_false (fun h => ?_) fun h => by cases h.1
    cases reply <;> cases h
  sends _ := .inl ⟨use, key, secs, rfl⟩

theorem settles_part_error {key id : String} {number : Nat} {data : ByteArray}
    {ts : List Transaction} {during cause : String}
    (hlast : ts.Pairwise fun _ y => w.GivesUp g key y) :
    w.Settles g (.part key id number data) ts (.error (.transport during cause)) where
  accepted := nofun
  last := hlast.imp fun h => .inr ⟨key, rfl, h⟩
  abort := nofun
  missing k := iff_of_false nofun fun h => by cases h.1
  sends := nofun

theorem settled_part (w : Wire γ) (g : γ) (key id : String) (number : Nat) (data : ByteArray) :
    ∃ xs, w.Settled g (.part key id number data) xs (Backend.answer (.part key id number data) g) := by
  obtain ⟨xs, htried, hafter, hsends⟩ := w.exists_sends (.putPart data key number id octets) g
  refine ⟨xs, htried, hafter, ?_⟩
  have hreply : (Backend.answer (.part key id number data) g).1 =
      (transport Title.part (Gateway.ask (.putPart data key number id octets) g).1).bind .ok := rfl
  rw [hreply]
  generalize (Gateway.ask (.putPart data key number id octets) g).1 = reply at hsends
  cases hsends with
  | unwritten => exact settles_part_error .nil
  | sent _ x hrequest _ hreads =>
    cases reply with
    | error cause => exact settles_part_error (List.pairwise_singleton ..)
    | ok part =>
      refine settles_single (fun _ => .inl ?_) (fun h => h.elim) fun k =>
        iff_of_false nofun fun h => by cases h.1
      by_contra hnot
      obtain ⟨cause, hcause⟩ := hreads.2 fun r hr => hnot (hr.isSuccess (hreads.1 r hr).1)
      cases hcause
  | refused _ _ _ _ _ x hrequest r hr hrefused ys gaveUp hys cause =>
    -- the client gives the upload up by itself
    obtain ⟨-, rfl, -⟩ | ⟨y, hy, rfl, -⟩ := hys.cases_of_not_isPart not_false
    · exact settles_part_error (List.pairwise_singleton ..)
    · exact settles_part_error (List.pairwise_pair.mpr ⟨w.method hy, id, hy⟩)

theorem exists_settled (w : Wire γ) (c : Call) (g : γ) : ∃ xs, w.Settled g c xs (Backend.answer c g) := by
  cases c with
  | get key =>
    exact w.settled_of_judges g (Gateway.judges_get key) not_false (fun _ _ => rfl) nofun nofun
  | put key data acl =>
    exact w.settled_of_judges g (Gateway.judges_put key data octets acl) not_false nofun nofun nofun
  | create key acl =>
    exact w.settled_of_judges g (Gateway.judges_create key octets acl) not_false nofun nofun nofun
  | part key id number data => exact w.settled_part g key id number data
  | complete key id parts =>
    exact w.settled_of_judges g (Gateway.judges_complete key id parts) not_false nofun nofun nofun
  | abort key id =>
    exact w.settled_of_judges g (Gateway.judges_abort key id) not_false nofun nofun
      fun _ => ⟨key, id, rfl, rfl⟩
  | delete key =>
    exact w.settled_of_judges g (Gateway.judges_delete key) not_false nofun (fun _ _ => rfl) nofun
  | list stem token max =>
    exact w.settled_of_judges g (Gateway.judges_list stem token max) not_false nofun nofun nofun
  | presign use key secs =>
    exact ⟨[], List.forall_mem_nil _, .refl g, settles_presign use key secs _⟩
  | check =>
    exact w.settled_of_judges g (Gateway.judges_check (Gateway.bucket g)) not_false nofun nofun nofun

theorem GivesUp.congr (hrequest : w.request g' = w.request g) : w.GivesUp g' = w.GivesUp g := by
  funext object x
  rw [GivesUp, GivesUp, hrequest]

theorem Settles.congr {ts : List Transaction} (hrequest : w.request g' = w.request g)
    (h : w.Settles g' c ts reply) : w.Settles g c ts reply where
  accepted := h.accepted
  last := GivesUp.congr hrequest ▸ h.last
  abort := GivesUp.congr hrequest ▸ h.abort
  missing := h.missing
  sends := h.sends

theorem exists_records (w : Wire γ) {es : List Exchange} (h : Plays g es g') :
    ∃ rs : List (Exchange × List Sending), rs.map Prod.fst = es ∧
      w.After g ((rs.flatMap Prod.snd).flatMap Sending.transactions) g' ∧
      ∀ x ∈ rs, (∀ y ∈ x.2, y.Tried w.retries) ∧
        w.Settles g x.1.1 (x.2.map Sending.settled) x.1.2 := by
  induction es generalizing g with
  | nil =>
    obtain rfl := h
    exact ⟨[], rfl, .refl g, List.forall_mem_nil _⟩
  | cons e es ih =>
    obtain ⟨c, reply⟩ := e
    obtain ⟨hreply, hplays⟩ := h
    obtain ⟨xs, htried, hafter, hsettles⟩ := w.exists_settled c g
    obtain ⟨rs, rfl, hrest, hrs⟩ := ih hplays
    refine ⟨(⟨c, reply⟩, xs) :: rs, rfl, ?_, List.forall_mem_cons.mpr ⟨⟨htried, ?_⟩, ?_⟩⟩
    · rw [List.flatMap_cons, List.flatMap_append]
      exact hafter.trans hrest
    · have hreply' : (Backend.answer c g).1 = reply := hreply
      rwa [hreply'] at hsettles
    · exact fun x hx => ⟨(hrs x hx).1, (hrs x hx).2.congr hafter.request⟩

end Wire

/-! ## Operations -/

/-- The operation deletes objects. -/
def Operation.Deletes : Operation → Prop
  | delete _ | purge _ => True
  | _ => False

/-- The response is as good as a success for the operation: an object that is to be deleted may be
missing. -/
def Operation.Accepts (r : Operation) (x : Transaction) : Prop :=
  x.2.IsSuccess ∨
    r.Deletes ∧ x.1.method = .delete ∧ ∃ response, x.2 = .answered response ∧ response.status = 404

namespace Store

open Wire (Settles)

/-- The request gives the upload of the operation up. -/
def GivesUp (s : Store) (w : Wire γ) (g : γ) (r : Operation) (x : Transaction) : Prop :=
  ∃ key source object, r = .upload key source ∧ s.objectKey key = .ok object ∧ w.GivesUp g object x

variable {s : Store} {r : Operation} {a : r.Response} {c : Call} {x : Transaction} {w : Wire γ} {g : γ}

theorem accepts_of_makes (hmakes : s.Makes r c) (h : c.Accepts x) : r.Accepts x := by
  obtain h | ⟨⟨key, rfl⟩, hdelete⟩ := h
  · exact .inl h
  · refine .inr ⟨?_, hdelete⟩
    cases r with
    | delete key => trivial
    | purge key => trivial
    | upload key source => exact hmakes.choose_spec.2.elim
    | download key => cases hmakes.choose_spec.2
    | contains key => cases hmakes
    | list stem limit => obtain ⟨_, _, _, h⟩ := hmakes; cases h
    | link use key span => obtain ⟨_, _, h⟩ := hmakes; cases h
    | ping => cases hmakes

theorem givesUp_of_makes (hmakes : s.Makes r c) {object : String} (hcall : c.Uploads object)
    (h : w.GivesUp g object x) : s.GivesUp w g r x := by
  cases r with
  | upload key source =>
    obtain ⟨object', hkey, hcall'⟩ := hmakes
    have heq : object' = object := by
      cases c <;> first | exact hcall'.symm.trans hcall | exact hcall.elim
    exact ⟨key, source, object, rfl, heq ▸ hkey, h⟩
  | download key => obtain ⟨_, _, rfl⟩ := hmakes; exact hcall.elim
  | delete key => obtain ⟨_, _, rfl⟩ := hmakes; exact hcall.elim
  | contains key => obtain rfl := hmakes; exact hcall.elim
  | purge key => obtain rfl | ⟨_, rfl⟩ := hmakes <;> exact hcall.elim
  | list stem limit => obtain ⟨_, _, _, rfl⟩ := hmakes; exact hcall.elim
  | link use key span => obtain ⟨_, _, rfl⟩ := hmakes; exact hcall.elim
  | ping => obtain rfl := hmakes; exact hcall.elim

/-- **What the responses of the endpoint have to do with what comes of an operation.** -/
structure Heeds (s : Store) (w : Wire γ) (g : γ) (r : Operation) (ts : List Transaction)
    (verdict : Option (Except StoreError Unit)) : Prop where
  /-- A success has all its requests accepted. -/
  ok : verdict = some (.ok ()) → ∀ x ∈ ts, r.Accepts x
  /-- A request that is not accepted makes the operation fail, unless it is an upload that waits for
  its source for ever. -/
  failed : (∃ x ∈ ts, ¬ r.Accepts x) → (∃ e, verdict = some (.error e)) ∨
    verdict = none ∧ ∃ key source, r = .upload key source ∧ source.ending = .stalled
  /-- Behind a request that is not accepted there are only requests that give an upload up. -/
  last : ts.Pairwise fun x y => r.Accepts x ∨ s.GivesUp w g r y
  /-- That there is no object is said by downloads alone, and by them if the response says so. -/
  missing : ∀ k, verdict = some (.error (.notFound k)) ↔
    ∃ key, r = .download key ∧ s.objectKey key = .ok k ∧ ∃ x, ts = [x] ∧ x.Misses

theorem isHonest_of_settles {e : Exchange} {ts : List Transaction} (h : w.Settles g e.1 ts e.2) :
    e.IsHonest :=
  fun k hk => ⟨k, ((h.missing k).mp hk).1⟩

theorem missing_of_talks {rs : List (Exchange × List Transaction)}
    (hrs : ∀ x ∈ rs, w.Settles g x.1.1 x.2 x.1.2) (h : s.Talks r (rs.map Prod.fst) a) (k : String) :
    r.verdict a = some (.error (.notFound k)) ↔
      ∃ key, r = .download key ∧ s.objectKey key = .ok k ∧
        ∃ x, rs.flatMap Prod.snd = [x] ∧ x.Misses := by
  constructor
  · intro hverdict
    have hsurfaces := talks_surfaces h
    have hhonest : ∀ e ∈ rs.map Prod.fst, e.IsHonest := by
      intro e he
      obtain ⟨record, hrecord, rfl⟩ := List.mem_map.mp he
      exact isHonest_of_settles (hrs record hrecord)
    obtain ⟨key, object, rfl, hes⟩ := (hsurfaces.missing hhonest k).mp hverdict
    obtain ⟨⟨e, ts⟩, rfl, he⟩ := List.map_eq_singleton_iff.mp hes
    obtain rfl : e = _ := he
    obtain ⟨hk, x, rfl, hx⟩ := ((hrs _ (List.mem_singleton_self _)).missing k).mp rfl
    obtain ⟨object', hkey, hobject⟩ := hsurfaces.calls _ (List.mem_singleton_self _)
    cases hk
    cases hobject
    exact ⟨key, rfl, hkey, x, rfl, hx⟩
  · rintro ⟨key, rfl, hkey, x, hts, hx⟩
    simp only [Talks, hkey] at h
    obtain ⟨⟨e, ts⟩, rfl, he⟩ := List.map_eq_singleton_iff.mp h
    obtain rfl : e = _ := he
    rw [List.flatMap_singleton] at hts
    have ha : a = .error (.notFound k) :=
      ((hrs _ (List.mem_singleton_self _)).missing k).mpr ⟨rfl, x, hts, hx⟩
    rw [ha]
    rfl

theorem heeds_of_talks {rs : List (Exchange × List Transaction)}
    (hrs : ∀ x ∈ rs, w.Settles g x.1.1 x.2 x.1.2) (htalks : s.Talks r (rs.map Prod.fst) a) :
    s.Heeds w g r (rs.flatMap Prod.snd) (r.verdict a) := by
  have h := talks_surfaces htalks
  have hmakes : ∀ x ∈ rs, s.Makes r x.1.1 := fun x hx => h.calls _ (List.mem_map_of_mem hx)
  have hok : r.verdict a = some (.ok ()) → ∀ x ∈ rs.flatMap Prod.snd, r.Accepts x := by
    intro hverdict x hx
    obtain ⟨record, hrecord, hx⟩ := List.mem_flatMap.mp hx
    exact accepts_of_makes (hmakes record hrecord) ((hrs record hrecord).accepted
      (h.ok hverdict _ (List.mem_map_of_mem hrecord)) x hx)
  refine ⟨hok, ?failed, ?last, missing_of_talks hrs htalks⟩
  case failed =>
    rintro ⟨x, hx, hnot⟩
    cases hverdict : r.verdict a with
    | none => exact .inr ⟨rfl, h.waiting hverdict⟩
    | some result =>
      cases result with
      | error e => exact .inl ⟨e, rfl⟩
      | ok _ => exact absurd (hok hverdict x hx) hnot
  case last =>
    refine List.pairwise_flatMap.mpr ⟨fun record hrecord => ?_, ?_⟩
    · refine (hrs record hrecord).last.imp fun {x y} hxy => ?_
      obtain hx | ⟨key, hcall, hy⟩ := hxy
      · exact .inl (accepts_of_makes (hmakes record hrecord) hx)
      · exact .inr (givesUp_of_makes (hmakes record hrecord) hcall hy)
    · refine (List.pairwise_map.mp h.last).imp_of_mem fun {r₁ r₂} h₁ h₂ hpair x hx y hy => ?_
      obtain hfirst | habort := hpair
      · exact .inl (accepts_of_makes (hmakes r₁ h₁) ((hrs r₁ h₁).accepted hfirst x hx))
      · obtain ⟨key, hcall, hgives⟩ := (hrs r₂ h₂).abort habort y hy
        exact .inr (givesUp_of_makes (hmakes r₂ h₂) hcall hgives)

theorem exists_heeds (w : Wire γ) {g' : γ} (h : s.Serves g r a g') :
    ∃ xs : List Sending, w.log g' = w.log g ++ xs.flatMap Sending.transactions ∧
      (∀ x ∈ xs, x.Tried w.retries) ∧ s.Heeds w g r (xs.map Sending.settled) (r.verdict a) := by
  obtain ⟨es, htalks, hplays⟩ := serves_iff.mp h
  obtain ⟨rs, rfl, hafter, hrs⟩ := w.exists_records hplays
  refine ⟨rs.flatMap Prod.snd, hafter.log, fun x hx => ?_, ?_⟩
  · obtain ⟨record, hrecord, hx⟩ := List.mem_flatMap.mp hx
    exact (hrs record hrecord).1 x hx
  · have hheeds : s.Heeds w g r
        ((rs.map fun x => (x.1, x.2.map Sending.settled)).flatMap Prod.snd) (r.verdict a) :=
      heeds_of_talks (List.forall_mem_map.mpr fun x hx => (hrs x hx).2) (by rwa [List.map_map])
    rwa [List.flatMap_map, ← List.map_flatMap] at hheeds

/-- A page of one key. -/
def onePage : Response :=
  ⟨200, ("<R><Name>logs</Name><Contents><Key>ci/job/1</Key><LastModified>now</LastModified>" ++
    "<Size>1</Size></Contents></R>").toUTF8, 0, none⟩

end Store

end BlobStore
