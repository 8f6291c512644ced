import Mathlib
import BlobStore.Proofs.Remote.Traffic
import BlobStore.Proofs.Text.Digits
import BlobStore.Proofs.Upload.Conversation

/-!
# Uploads to an endpoint

What an upload in parts sends once it is open, by any client that sends each request once.
`UploadRequests.Traffic` lists the forms: either all parts and then the request that completes the
upload are taken, or the last request gives the upload up. `Wire.exists_traffic` reads this off the
conversation between the upload and the bucket, in which a part that is refused is followed by two
requests that give the upload up, one of them by the client itself. `Wire.no_upload_left_open` tells it
by what the log shows: methods, addresses and bodies.
-/

namespace BlobStore

open Backend (Plays)

/-! ## The forms -/

/-- The parts that were taken with these responses, numbered from one, with their marks. -/
def partsOf (answers : List Response) : List CompletedPart :=
  answers.mapIdx fun i r => ⟨i + 1, r.etag.getD ""⟩

theorem partsOf_concat (answers : List Response) (r : Response) :
    partsOf (answers ++ [r]) = partsOf answers ++ [⟨answers.length + 1, r.etag.getD ""⟩] := by
  simp [partsOf, List.mapIdx_append]

@[simp] theorem length_partsOf (answers : List Response) : (partsOf answers).length = answers.length := by
  simp [partsOf]

/-- The requests of one upload: those with its pieces, those that complete it from some parts, and the
one that gives it up. -/
structure UploadRequests where
  part : Nat → Request
  complete : List CompletedPart → Request
  giveUp : Request

namespace UploadRequests

variable (q : UploadRequests) (t : Upload.Task)

/-- The first parts, each taken with its response. -/
def taken (answers : List Response) : List Transaction :=
  answers.mapIdx fun i r => (q.part i, .answered r)

theorem taken_concat (answers : List Response) (r : Response) :
    q.taken (answers ++ [r]) = q.taken answers ++ [(q.part answers.length, .answered r)] := by
  simp [taken, List.mapIdx_append]

/-- **What stops an upload** of which the first parts were taken. -/
inductive Stops (answers : List Response) : List Transaction → StoreError → Prop
  /-- The source fails. -/
  | source {text : String} (hend : t.ending = .failing text) (hcount : answers.length = t.count) :
    Stops answers [] (.source text)
  /-- There is no response to a part. -/
  | lost (hcount : answers.length < t.count) (d : Delivery) (hd : d.IsLost) (e : StoreError) :
    Stops answers [(q.part answers.length, d)] e
  /-- A part is refused; the client itself gives the upload up, whatever comes of it. -/
  | refused (hcount : answers.length < t.count) (r : Response) (hr : r.isSuccess = false)
    (d : Delivery) (e : StoreError) :
    Stops answers [(q.part answers.length, .answered r), (q.giveUp, d)] e
  /-- The response to the last request does not say that the upload is complete, or is cut. -/
  | incomplete (hend : t.ending = .finished) (hcount : answers.length = t.count) (d : Delivery)
    (hd : ¬ d.IsWhole) (e : StoreError) : Stops answers [(q.complete (partsOf answers), d)] e

/-- **The forms of the traffic** of an upload in parts, behind the request that opened it. -/
inductive Traffic : List Transaction → Except StoreError Nat → Prop
  | completed (answers : List Response) (hall : ∀ r ∈ answers, r.isSuccess = true)
    (hend : t.ending = .finished) (hcount : answers.length = t.count) (d : Delivery) (hd : d.IsWhole) :
    Traffic (q.taken answers ++ [(q.complete (partsOf answers), d)]) (.ok t.data.size)
  | abandoned (answers : List Response) (hall : ∀ r ∈ answers, r.isSuccess = true)
    {stop : List Transaction} {e : StoreError} (hstop : q.Stops t answers stop e) (d : Delivery) :
    Traffic (q.taken answers ++ stop ++ [(q.giveUp, d)]) (.error e)

end UploadRequests

variable {γ : Type} [Gateway γ]

/-- These are the requests with which the client carries the upload `id` on. -/
structure UploadRequests.Of (q : UploadRequests) (w : Wire γ) (g : γ) (t : Upload.Task) (id : String) :
    Prop where
  part : ∀ i, w.request g (.putPart (t.piece i) t.key (i + 1) id octets) = some (q.part i)
  complete : ∀ parts, w.request g (.finish t.key id parts) = some (q.complete parts)
  giveUp : w.request g (.giveUp t.key id) = some q.giveUp

namespace Wire

variable {w : Wire γ} {g g' : γ} {q : UploadRequests} {t : Upload.Task} {id : String}
  {ts : List Transaction}

theorem After.of (h : w.After g ts g') (hq : q.Of w g t id) : q.Of w g' t id where
  part i := by rw [h.request, hq.part]
  complete parts := by rw [h.request, hq.complete]
  giveUp := by rw [h.request, hq.giveUp]

/-! ## Calls of an upload -/

section calls

variable (honce : w.SendsOnce)
include honce

theorem exists_of_created {key : String} {acl : Option String}
    (h : (Backend.answer (.create key acl) g).1 = .ok id) :
    ∃ request r, w.request g (.initiate key octets acl) = some request ∧ r.isSuccess = true ∧
      w.After g [(request, .answered r)] (Backend.answer (.create key acl) g).2 := by
  obtain ⟨xs, hafter, hsends⟩ := honce.exists_sends (.initiate key octets acl) g
  have hreply : (Gateway.transport Title.create (Gateway.ask (.initiate key octets acl) g).1).bind .ok =
    .ok id := h
  obtain ⟨-, -, cause, hcause⟩ | ⟨x, hrequest, rfl, hreads⟩ := hsends.cases_of_not_isPart not_false
  · rw [hcause] at hreply
    cases hreply
  · obtain ⟨id', hid, -⟩ := Gateway.transport_bind_eq_ok.mp hreply
    obtain ⟨r, hd, hr⟩ := hreads id' hid
    refine ⟨x.request, r, hrequest, hr, ?_⟩
    rw [← hd]
    exact hafter

theorem part_cases (hq : q.Of w g t id) (i : Nat) :
    let c : Call := .part t.key id (i + 1) (t.piece i)
    (∃ r, r.isSuccess = true ∧ (Backend.answer c g).1 = .ok ⟨i + 1, r.etag.getD ""⟩ ∧
      w.After g [(q.part i, .answered r)] (Backend.answer c g).2) ∨
    (∃ d e, d.IsLost ∧ (Backend.answer c g).1 = .error e ∧
      w.After g [(q.part i, d)] (Backend.answer c g).2) ∨
    ∃ r d e, r.isSuccess = false ∧ (Backend.answer c g).1 = .error e ∧
      w.After g [(q.part i, .answered r), (q.giveUp, d)] (Backend.answer c g).2 := by
  intro c
  obtain ⟨xs, hafter, hsends⟩ := honce.exists_sends (.putPart (t.piece i) t.key (i + 1) id octets) g
  obtain ⟨reply, hreply⟩ :
    ∃ reply, (Gateway.ask (.putPart (t.piece i) t.key (i + 1) id octets) g).1 = reply := ⟨_, rfl⟩
  have hanswer : (Backend.answer c g).1 = (Gateway.transport Title.part reply).bind .ok := by
    rw [← hreply]
    rfl
  rw [hreply] at hsends
  rw [hanswer]
  cases hsends with
  | unwritten _ hrequest =>
    rw [hq.part] at hrequest
    cases hrequest
  | sent _ x hrequest _ hreads =>
    rw [Option.some.inj ((hq.part i).symm.trans hrequest)]
    by_cases hlost : x.last.IsLost
    · obtain ⟨cause, rfl⟩ := hreads.2 hlost
      exact .inr (.inl ⟨x.last, _, hlost, rfl, hafter⟩)
    · obtain ⟨r, hr⟩ : ∃ r, x.last.Brings r := by simpa [Delivery.IsLost] using hlost
      obtain ⟨hsuccess, rfl⟩ := hreads.1 r hr
      refine .inl ⟨r, hsuccess, rfl, ?_⟩
      rw [← hr.1]
      exact hafter
  | refused _ _ _ _ _ x hrequest r hr hrefused ys gaveUp hys cause =>
    rw [Option.some.inj ((hq.part i).symm.trans hrequest)]
    obtain ⟨hnone, -⟩ | ⟨y, hy, rfl, -⟩ := hys.cases_of_not_isPart not_false
    · rw [hq.giveUp] at hnone
      cases hnone
    · rw [Option.some.inj (hq.giveUp.symm.trans hy)]
      refine .inr (.inr ⟨r, y.last, _, hrefused, rfl, ?_⟩)
      rw [← hr.1]
      exact hafter

theorem complete_cases (hq : q.Of w g t id) (parts : List CompletedPart) :
    let c : Call := .complete t.key id parts
    ∃ d, w.After g [(q.complete parts, d)] (Backend.answer c g).2 ∧
      ((d.IsWhole ∧ (Backend.answer c g).1 = .ok ()) ∨
        (¬ d.IsWhole ∧ ∃ e, (Backend.answer c g).1 = .error e)) := by
  intro c
  obtain ⟨d, hafter, hreads⟩ := honce.exists_reads (hq.complete parts) not_false
  have hanswer : (Backend.answer c g).1 = (Gateway.transport Title.complete
      (Gateway.ask (.finish t.key id parts) g).1).bind
        (Gateway.statusReply Title.complete Gateway.isSuccess) := rfl
  refine ⟨d, hafter, ?_⟩
  rw [hanswer]
  by_cases hwhole : d.IsWhole
  · have ⟨r, hd, hr, hcut⟩ := hwhole
    obtain ⟨body, hreply⟩ := hreads.complete r (hd ▸ Delivery.brings_of_isSuccess hr) hcut
    have hstatus : Gateway.isSuccess r.status = true := hr
    rw [hreply]
    exact .inl ⟨hwhole, if_pos hstatus⟩
  · refine .inr ⟨hwhole, ?_⟩
    cases hreply : (Gateway.ask (.finish t.key id parts) g).1 with
    | error cause => exact ⟨_, rfl⟩
    | ok answer =>
      obtain ⟨r, hr, hcut, hstatus⟩ := hreads.sound _ _ hreply
      have hnot : ¬ Gateway.isSuccess answer.1 = true := fun hsuccess => by
        rw [← hstatus] at hsuccess
        exact hwhole ⟨r, hr.1, hsuccess, hcut⟩
      exact ⟨_, if_neg hnot⟩

theorem after_giveUp (hq : q.Of w g t id) :
    ∃ d, w.After g [(q.giveUp, d)] (Backend.answer (.abort t.key id) g).2 := by
  obtain ⟨d, hafter, -⟩ := honce.exists_reads hq.giveUp not_false
  exact ⟨d, hafter⟩

/-! ## The traffic of a conversation -/

theorem plays_sends (hq : q.Of w g t id) {marks : List CompletedPart} {es : List Exchange}
    (h : Plays g (t.sends id marks ++ es) g') :
    ∃ answers g₁, (∀ r ∈ answers, r.isSuccess = true) ∧ marks = partsOf answers ∧
      w.After g (q.taken answers) g₁ ∧ Plays g₁ es g' := by
  induction marks using List.reverseRecOn generalizing es with
  | nil => exact ⟨[], g, List.forall_mem_nil _, rfl, .refl g, h⟩
  | append_singleton marks mark ih =>
    have hsplit : t.sends id (marks ++ [mark]) =
        t.sends id marks ++ [⟨.part t.key id (marks.length + 1) (t.piece marks.length), .ok mark⟩] :=
      List.tail_eq_of_cons_eq (t.opened_append_part id marks mark)
    rw [hsplit, List.append_assoc] at h
    obtain ⟨answers, g₁, hall, rfl, hafter, hreply, hplays⟩ := ih h
    rw [length_partsOf] at hreply hplays
    obtain ⟨r, hr, hanswer, hafter'⟩ | ⟨d, e, -, hanswer, -⟩ | ⟨r, d, e, -, hanswer, -⟩ :=
      part_cases honce (hafter.of hq) answers.length
    · obtain rfl := Except.ok.inj (hanswer.symm.trans hreply)
      refine ⟨answers ++ [r], _, ?_, (partsOf_concat answers r).symm, ?_, hplays⟩
      · simpa [or_imp, forall_and] using ⟨hall, hr⟩
      · rw [q.taken_concat]
        exact hafter.trans hafter'
    · cases hanswer.symm.trans hreply
    · cases hanswer.symm.trans hreply

theorem plays_abort (hq : q.Of w g t id) {reply : Except StoreError Unit}
    (h : Plays g [⟨.abort t.key id, reply⟩] g') : ∃ d, w.After g [(q.giveUp, d)] g' := by
  obtain ⟨-, rfl⟩ := h
  exact after_giveUp honce hq

/-- **The traffic of an upload that is open** has one of the forms. -/
theorem traffic_of_opened (hq : q.Of w g t id) {es es' : List Exchange}
    {result : Except StoreError Nat} (hconv : Upload.Conversation t es' (.finished result))
    (hopen : es' = ⟨.create t.key t.acl, .ok id⟩ :: es) (hplays : Plays g es g') :
    ∃ ts, w.After g ts g' ∧ q.Traffic t ts result := by
  have behind : ∀ {id' : String} {marks : List CompletedPart} {tail : List Exchange},
      t.opened id' marks ++ tail = ⟨.create t.key t.acl, .ok id⟩ :: es →
        id' = id ∧ es = t.sends id marks ++ tail := by
    intro id' marks tail h
    obtain ⟨hid, htail⟩ := List.cons.inj h
    obtain rfl : id' = id := by simpa using hid
    exact ⟨rfl, htail.symm⟩
  cases hconv with
  | unread => cases hopen
  | put => cases hopen
  | refused => cases hopen
  | completed hsize hend id' marks hcount =>
    obtain ⟨rfl, rfl⟩ := behind hopen
    obtain ⟨answers, g₁, hall, rfl, hafter, hreply, rfl⟩ := plays_sends honce hq hplays
    rw [length_partsOf] at hcount
    obtain ⟨d, hafter', ⟨hwhole, -⟩ | ⟨-, e, hanswer⟩⟩ :=
      complete_cases honce (hafter.of hq) (partsOf answers)
    · exact ⟨_, hafter.trans hafter', .completed answers hall hend hcount d hwhole⟩
    · cases hanswer.symm.trans hreply
  | partRefused hsize id' marks hcount hstall e reply =>
    obtain ⟨rfl, rfl⟩ := behind hopen
    obtain ⟨answers, g₁, hall, rfl, hafter, hreply, hplays⟩ := plays_sends honce hq hplays
    rw [length_partsOf] at hcount hreply hplays
    obtain ⟨r, -, hanswer, -⟩ | ⟨d, e', hlost, -, hafter'⟩ | ⟨r, d, e', hr, -, hafter'⟩ :=
      part_cases honce (hafter.of hq) answers.length
    · cases hanswer.symm.trans hreply
    · obtain ⟨d', hlast⟩ := plays_abort honce ((hafter.trans hafter').of hq) hplays
      exact ⟨_, (hafter.trans hafter').trans hlast, .abandoned answers hall (.lost hcount d hlost e) d'⟩
    · obtain ⟨d', hlast⟩ := plays_abort honce ((hafter.trans hafter').of hq) hplays
      exact ⟨_, (hafter.trans hafter').trans hlast,
        .abandoned answers hall (.refused hcount r hr d e) d'⟩
  | sourceFailed hsize hend id' marks hcount reply =>
    obtain ⟨rfl, rfl⟩ := behind hopen
    obtain ⟨answers, g₁, hall, rfl, hafter, hplays⟩ := plays_sends honce hq hplays
    rw [length_partsOf] at hcount
    obtain ⟨d, hlast⟩ := plays_abort honce (hafter.of hq) hplays
    have htraffic : q.Traffic t (q.taken answers ++ [] ++ _) _ :=
      .abandoned answers hall (.source hend hcount) d
    rw [List.append_nil] at htraffic
    exact ⟨_, hafter.trans hlast, htraffic⟩
  | completeRefused hsize hend id' marks hcount e reply =>
    obtain ⟨rfl, rfl⟩ := behind hopen
    obtain ⟨answers, g₁, hall, rfl, hafter, hreply, hplays⟩ := plays_sends honce hq hplays
    rw [length_partsOf] at hcount
    obtain ⟨d, hafter', ⟨-, hanswer⟩ | ⟨hwhole, -⟩⟩ :=
      complete_cases honce (hafter.of hq) (partsOf answers)
    · cases hanswer.symm.trans hreply
    · obtain ⟨d', hlast⟩ := plays_abort honce ((hafter.trans hafter').of hq) hplays
      exact ⟨_, (hafter.trans hafter').trans hlast,
        .abandoned answers hall (.incomplete hend hcount d hwhole e) d'⟩

end calls

/-- **What an upload sends**: at most one put, if the source ends or fails within its first piece; else
first a request that opens an upload in parts, and behind it one of the forms if it was opened. -/
inductive Uploads (w : Wire γ) (g : γ) (t : Upload.Task) :
    List Transaction → Except StoreError Nat → Prop
  | whole (hsize : t.data.size < t.partSize) (ts : List Transaction)
    (hts : ∀ x ∈ ts, x.1.method = .put) (result : Except StoreError Nat) : Uploads w g t ts result
  | unopened (hsize : t.partSize ≤ t.data.size) (e : StoreError)
    (hreply : (Backend.answer (.create t.key t.acl) g).1 = .error e) (ts : List Transaction)
    (hafter : w.After g ts (Backend.answer (.create t.key t.acl) g).2) : Uploads w g t ts (.error e)
  | opened (hsize : t.partSize ≤ t.data.size) (id : String)
    (hreply : (Backend.answer (.create t.key t.acl) g).1 = .ok id) (request : Request) (r : Response)
    (hrequest : w.request g (.initiate t.key octets t.acl) = some request) (hr : r.isSuccess = true)
    (hafter : w.After g [(request, .answered r)] (Backend.answer (.create t.key t.acl) g).2)
    (q : UploadRequests) (hq : q.Of w g t id) (rest : List Transaction)
    (result : Except StoreError Nat) (htraffic : q.Traffic t rest result) :
    Uploads w g t ((request, .answered r) :: rest) result

theorem exists_requests {request : Request}
    (h : w.request g (.initiate t.key octets t.acl) = some request) (id : String) :
    ∃ q : UploadRequests, q.Of w g t id := by
  have hwritten := w.written h
  choose part hpart using fun i => hwritten (.putPart (t.piece i) t.key (i + 1) id octets) rfl
  choose complete hcomplete using fun parts => hwritten (.finish t.key id parts) rfl
  obtain ⟨giveUp, hgiveUp⟩ := hwritten (.giveUp t.key id) rfl
  exact ⟨⟨part, complete, giveUp⟩, hpart, hcomplete, hgiveUp⟩

theorem uploads_of_created (honce : w.SendsOnce) (hsize : t.partSize ≤ t.data.size)
    {es : List Exchange} {result : Except StoreError Nat}
    (hconv : Upload.Conversation t (⟨.create t.key t.acl, .ok id⟩ :: es) (.finished result))
    (hplays : Plays g (⟨.create t.key t.acl, .ok id⟩ :: es) g') :
    ∃ ts, w.After g ts g' ∧ w.Uploads g t ts result := by
  obtain ⟨hreply, hplays⟩ := hplays
  obtain ⟨request, r, hrequest, hr, hafter⟩ := exists_of_created honce hreply
  obtain ⟨q, hq⟩ := exists_requests hrequest id
  obtain ⟨rest, hrest, htraffic⟩ := traffic_of_opened honce (hafter.of hq) hconv rfl hplays
  exact ⟨_, hafter.trans hrest,
    .opened hsize id hreply request r hrequest hr hafter q hq rest result htraffic⟩

theorem uploads_of_plays (honce : w.SendsOnce) {es : List Exchange} {result : Except StoreError Nat}
    (hconv : Upload.Conversation t es (.finished result)) (hplays : Plays g es g') :
    ∃ ts, w.After g ts g' ∧ w.Uploads g t ts result := by
  cases hconv with
  | unread hsize => exact ⟨[], hplays ▸ .refl g, .whole hsize [] (List.forall_mem_nil _) _⟩
  | put hsize =>
    obtain ⟨xs, hafter, hsends⟩ := honce.exists_sends (.put t.key t.data octets t.acl) g
    refine ⟨_, hplays.2 ▸ hafter, .whole hsize _ (List.forall_mem_map.mpr fun x hx => ?_) _⟩
    obtain ⟨-, rfl, -⟩ | ⟨y, hrequest, rfl, -⟩ := hsends.cases_of_not_isPart not_false
    · cases hx
    · rw [List.mem_singleton.mp hx]
      exact w.method hrequest
  | refused hsize e =>
    obtain ⟨xs, hafter, -⟩ := honce.exists_sends (.initiate t.key octets t.acl) g
    exact ⟨_, hplays.2 ▸ hafter, .unopened hsize e hplays.1 _ hafter⟩
  | completed hsize hend id marks hcount =>
    exact uploads_of_created honce hsize (.completed hsize hend id marks hcount) hplays
  | partRefused hsize id marks hcount hstall e reply =>
    exact uploads_of_created honce hsize (.partRefused hsize id marks hcount hstall e reply) hplays
  | sourceFailed hsize hend id marks hcount reply =>
    exact uploads_of_created honce hsize (.sourceFailed hsize hend id marks hcount reply) hplays
  | completeRefused hsize hend id marks hcount e reply =>
    exact uploads_of_created honce hsize (.completeRefused hsize hend id marks hcount e reply) hplays

theorem exists_uploads (honce : w.SendsOnce) (g : γ) (hpos : 0 < t.partSize) {source : Source}
    (hsource : source.Holds t.data t.ending) (hstall : t.ending ≠ .stalled) :
    ∃ result ts, (Upload.toEnd t.key t.acl t.partSize source g).1.phase = .finished result ∧
      w.After g ts (Upload.toEnd t.key t.acl t.partSize source g).2 ∧ w.Uploads g t ts result := by
  obtain ⟨es, o, hrun, hplays, hdone⟩ :=
    Upload.exists_finishes_toEnd t.key t.acl t.partSize source g
  have hconv := Upload.conversation_of_finishes hpos hsource hrun
  rw [Upload.step_eq_done] at hdone
  cases o with
  | finished result =>
    obtain ⟨ts, hafter, huploads⟩ := uploads_of_plays honce hconv hplays
    exact ⟨result, ts, hdone, hafter, huploads⟩
  | stalled open? =>
    cases hconv with
    | waiting _ hend => exact absurd hend hstall
    | waitingOpen _ hend => exact absurd hend hstall

end Wire

/-! ## What the log shows -/

/-- The request goes to the address with the query behind it. -/
structure Request.IsAt (u : Url) (query : String) (r : Request) : Prop where
  path : r.url.path = u.path
  text : r.url.text = u.text ++ '?' :: query.toList
  query : u.query = none → u.fragment = none → r.url.query = some query.toList

theorem Request.isAt_of_eq {u : Url} {query : String} {r : Request}
    (h : r.url = u.addQuery query.toList) : r.IsAt u query where
  path := by rw [h, Url.path_addQuery]
  text := by rw [h, Url.text_addQuery]
  query hquery hfragment := by rw [h, Url.query_addQuery hquery hfragment]

/-- An id in which every character stands for itself in an address. -/
def IsPlainId (id : String) : Prop := ∀ c ∈ id.toList, Url.inSignedQuery c = true

instance (id : String) : Decidable (IsPlainId id) := List.decidableBAll ..

/-- The request sends a part of the upload `id` to the object at the address. -/
structure IsPart (u : Url) (id : String) (number : Nat) (data : ByteArray) (r : Request) : Prop where
  method : r.method = .put
  place : r.IsAt u ("partNumber=" ++ toString number ++ "&uploadId=" ++ id)
  body : r.body = data

/-- The request completes the upload from the parts. -/
structure IsCompletion (u : Url) (id : String) (parts : List CompletedPart) (r : Request) : Prop where
  method : r.method = .post
  place : r.IsAt u ("uploadId=" ++ id)
  body : r.body =
    ("<CompleteMultipartUpload>" ++ partList parts ++ "</CompleteMultipartUpload>").toUTF8

/-- The request gives the upload up. -/
structure IsGivingUp (u : Url) (id : String) (r : Request) : Prop where
  method : r.method = .delete
  place : r.IsAt u ("uploadId=" ++ id)

def puts (ts : List Transaction) : List Transaction := ts.filter fun x => x.1.method = .put

/-- **What an upload leaves in the log** behind the request that opened it. -/
structure Leaves (u : Url) (id : String) (t : Upload.Task) (ts : List Transaction)
    (result : Except StoreError Nat) : Prop where
  /-- The parts are numbered from one, without a gap, and hold the bytes of the source in turn. -/
  parts : ∀ i x, (puts ts)[i]? = some x →
    IsPart u id (i + 1) (t.data.extract (i * t.partSize) ((i + 1) * t.partSize)) x.1
  joined : ((puts ts).map (·.1.body)).foldl (· ++ ·) .empty =
    t.data.extract 0 ((puts ts).length * t.partSize)
  /-- An upload is completed only when all parts are taken, from their numbers with the marks that the
  responses to them gave. -/
  completion : ∀ x ∈ ts, x.1.method = .post → ∃ answers : List Response,
    (puts ts).map (·.2) = answers.map .answered ∧ (∀ r ∈ answers, r.isSuccess = true) ∧
      IsCompletion u id (partsOf answers) x.1
  others : ∀ x ∈ ts, x.1.method = .put ∨ x.1.method = .post ∨ IsGivingUp u id x.1
  /-- Either all was taken, or the last request gives the upload up. -/
  ends : (result = .ok t.data.size ∧ t.ending = .finished ∧ (∀ x ∈ ts, x.2.IsSuccess) ∧
      ((puts ts).map (·.1.body)).foldl (· ++ ·) .empty = t.data ∧
      ∃ x, ts.getLast? = some x ∧ x.1.method = .post) ∨
    ((∃ e, result = .error e) ∧ ∃ x, ts.getLast? = some x ∧ IsGivingUp u id x.1)

namespace UploadRequests

/-- The requests are what they are to be. -/
structure Shown (q : UploadRequests) (u : Url) (t : Upload.Task) (id : String) : Prop where
  part : ∀ i, IsPart u id (i + 1) (t.piece i) (q.part i)
  complete : ∀ parts, IsCompletion u id parts (q.complete parts)
  giveUp : IsGivingUp u id q.giveUp

variable {q : UploadRequests} {u : Url} {t : Upload.Task} {id : String} {ts us : List Transaction}
  {result : Except StoreError Nat}

theorem puts_append (ts us : List Transaction) : puts (ts ++ us) = puts ts ++ puts us :=
  List.filter_append ..

theorem puts_cons_of_eq {x : Transaction} (h : x.1.method = .put) : puts (x :: ts) = x :: puts ts :=
  List.filter_cons_of_pos (by simpa using h)

theorem puts_cons_of_ne {x : Transaction} (h : x.1.method ≠ .put) : puts (x :: ts) = puts ts :=
  List.filter_cons_of_neg (by simpa using h)

theorem map_fst_taken (q : UploadRequests) (answers : List Response) :
    (q.taken answers).map Prod.fst = (List.range answers.length).map q.part := by
  refine List.ext_getElem (by simp [taken]) fun i _ _ => ?_
  simp [taken]

theorem map_snd_taken (q : UploadRequests) (answers : List Response) :
    (q.taken answers).map Prod.snd = answers.map .answered := by
  refine List.ext_getElem (by simp [taken]) fun i _ _ => ?_
  simp [taken]

namespace Shown

variable (h : q.Shown u t id)
include h

theorem puts_taken (answers : List Response) : puts (q.taken answers) = q.taken answers := by
  refine List.filter_eq_self.mpr fun x hx => ?_
  obtain ⟨i, _, rfl⟩ := List.mem_mapIdx.mp hx
  simpa using (h.part i).method

theorem puts_complete (parts : List CompletedPart) (d : Delivery) :
    puts ((q.complete parts, d) :: ts) = puts ts :=
  puts_cons_of_ne (by rw [(h.complete parts).method]; decide)

theorem puts_giveUp (d : Delivery) : puts ((q.giveUp, d) :: ts) = puts ts :=
  puts_cons_of_ne (by rw [h.giveUp.method]; decide)

theorem puts_part (i : Nat) (d : Delivery) : puts ((q.part i, d) :: ts) = (q.part i, d) :: puts ts :=
  puts_cons_of_eq (h.part i).method

theorem foldl_bodies (n : Nat) :
    (((List.range n).map q.part).map (·.body)).foldl (· ++ ·) .empty = t.joined n := by
  induction n with
  | zero => rfl
  | succ n ih =>
    rw [List.range_succ, List.map_append, List.map_append, List.foldl_append, ih]
    exact congrArg (t.joined n ++ ·) (h.part n).body

theorem parts_of_eq {n : Nat} (hputs : (puts ts).map Prod.fst = (List.range n).map q.part) :
    (∀ i x, (puts ts)[i]? = some x → IsPart u id (i + 1) (t.piece i) x.1) ∧
      ((puts ts).map (·.1.body)).foldl (· ++ ·) .empty = t.joined n ∧ (puts ts).length = n := by
  have hlength : (puts ts).length = n := by simpa using congrArg List.length hputs
  refine ⟨fun i x hx => ?_, ?_, hlength⟩
  · have hrequest : ((puts ts).map Prod.fst)[i]? = some x.1 := by rw [List.getElem?_map, hx]; rfl
    rw [hputs, List.getElem?_map, Option.map_eq_some_iff] at hrequest
    obtain ⟨j, hj, hpart⟩ := hrequest
    obtain ⟨_, rfl⟩ := List.getElem?_eq_some_iff.mp hj
    rw [← hpart, List.getElem_range]
    exact h.part i
  · have hbodies : (puts ts).map (·.1.body) = ((List.range n).map q.part).map (·.body) := by
      rw [← hputs, List.map_map]
      rfl
    rw [hbodies, h.foldl_bodies]

theorem leaves {answers : List Response} (hall : ∀ r ∈ answers, r.isSuccess = true)
    {more : List Transaction}
    (hputs : puts more = [] ∨ ∃ d, puts more = [(q.part answers.length, d)])
    (hmore : ∀ x ∈ more, x.1 = q.part answers.length ∨
      (puts more = [] ∧ x.1 = q.complete (partsOf answers)) ∨ x.1 = q.giveUp)
    (hends : (result = .ok t.data.size ∧ t.ending = .finished ∧
        (∀ x ∈ q.taken answers ++ more, x.2.IsSuccess) ∧ puts more = [] ∧
        t.joined answers.length = t.data ∧ ∃ x, more.getLast? = some x ∧ x.1.method = .post) ∨
      ((∃ e, result = .error e) ∧ ∃ x, more.getLast? = some x ∧ x.1 = q.giveUp)) :
    Leaves u id t (q.taken answers ++ more) result := by
  have hsplit : puts (q.taken answers ++ more) = q.taken answers ++ puts more := by
    rw [puts_append, h.puts_taken]
  have hlast : ∀ {x}, more.getLast? = some x → (q.taken answers ++ more).getLast? = some x :=
    fun hx => by rw [List.getLast?_append, hx, Option.some_or]
  obtain ⟨n, hnumbers⟩ :
      ∃ n, (puts (q.taken answers ++ more)).map Prod.fst = (List.range n).map q.part := by
    obtain hnone | ⟨d, hone⟩ := hputs
    · exact ⟨answers.length, by rw [hsplit, hnone, List.append_nil, map_fst_taken]⟩
    · refine ⟨answers.length + 1, ?_⟩
      rw [hsplit, hone, List.map_append, map_fst_taken, List.range_succ, List.map_append]
      rfl
  obtain ⟨hparts, hjoined, hlength⟩ := h.parts_of_eq hnumbers
  refine ⟨hparts, ?joined, ?completion, ?others, ?ends⟩
  case joined => rw [hjoined, hlength, Upload.Task.joined_eq]
  case completion =>
    intro x hx hpost
    have hne : ∀ i, x.1 ≠ q.part i := fun i heq => by
      rw [heq, (h.part i).method] at hpost
      cases hpost
    obtain hx | hx := List.mem_append.mp hx
    · obtain ⟨i, _, rfl⟩ := List.mem_mapIdx.mp hx
      exact absurd rfl (hne i)
    · obtain hpart | ⟨hnone, hcomplete⟩ | hgiveUp := hmore x hx
      · exact absurd hpart (hne _)
      · refine ⟨answers, ?_, hall, hcomplete ▸ h.complete _⟩
        rw [hsplit, hnone, List.append_nil, map_snd_taken]
      · rw [hgiveUp, h.giveUp.method] at hpost
        cases hpost
  case others =>
    intro x hx
    obtain hx | hx := List.mem_append.mp hx
    · obtain ⟨i, _, rfl⟩ := List.mem_mapIdx.mp hx
      exact .inl (h.part i).method
    · obtain hpart | ⟨-, hcomplete⟩ | hgiveUp := hmore x hx
      · exact .inl (hpart ▸ (h.part _).method)
      · exact .inr (.inl (hcomplete ▸ (h.complete _).method))
      · exact .inr (.inr (hgiveUp ▸ h.giveUp))
  case ends =>
    obtain ⟨hok, hend, hsuccess, hnone, hdata, x, hx, hpost⟩ | ⟨herror, x, hx, hgiveUp⟩ := hends
    · have hcount : n = answers.length := by
        rw [hsplit, hnone, List.append_nil] at hlength
        rw [← hlength]
        simp [taken]
      exact .inl ⟨hok, hend, hsuccess, by rw [hjoined, hcount, hdata], x, hlast hx, hpost⟩
    · exact .inr ⟨herror, x, hlast hx, hgiveUp ▸ h.giveUp⟩

theorem leaves_of_traffic (hpos : 0 < t.partSize) (htraffic : q.Traffic t ts result) :
    Leaves u id t ts result := by
  cases htraffic with
  | completed answers hall hend hcount d hd =>
    refine h.leaves hall (.inl (h.puts_complete _ d)) ?_ (.inl ⟨rfl, hend, ?_, h.puts_complete _ d,
      hcount ▸ Upload.Task.joined_count hend hpos, _, rfl, (h.complete _).method⟩)
    · simp only [List.mem_singleton, forall_eq]
      exact .inr (.inl ⟨h.puts_complete _ d, trivial⟩)
    · intro x hx
      obtain hx | hx := List.mem_append.mp hx
      · obtain ⟨i, hi, rfl⟩ := List.mem_mapIdx.mp hx
        exact ⟨_, rfl, hall _ (List.getElem_mem hi)⟩
      · rw [List.mem_singleton.mp hx]
        exact hd.isSuccess
  | abandoned answers hall hstop d' =>
    rw [List.append_assoc]
    cases hstop with
    | source hend hcount =>
      exact h.leaves hall (.inl (h.puts_giveUp d')) (by simp) (.inr ⟨⟨_, rfl⟩, _, rfl, rfl⟩)
    | lost hcount d hd e =>
      have hputs : puts [(q.part answers.length, d), (q.giveUp, d')] = [(q.part answers.length, d)] := by
        rw [h.puts_part, h.puts_giveUp]
        rfl
      exact h.leaves hall (.inr ⟨d, hputs⟩) (by simp) (.inr ⟨⟨_, rfl⟩, _, rfl, rfl⟩)
    | refused hcount r hr d e =>
      have hputs : puts [(q.part answers.length, .answered r), (q.giveUp, d), (q.giveUp, d')] =
          [(q.part answers.length, .answered r)] := by
        rw [h.puts_part, h.puts_giveUp, h.puts_giveUp]
        rfl
      exact h.leaves hall (.inr ⟨_, hputs⟩) (by simp) (.inr ⟨⟨_, rfl⟩, _, rfl, rfl⟩)
    | incomplete hend hcount d hd e =>
      have hputs : puts [(q.complete (partsOf answers), d), (q.giveUp, d')] = [] := by
        rw [h.puts_complete, h.puts_giveUp]
        rfl
      refine h.leaves hall (.inl hputs) ?_ (.inr ⟨⟨_, rfl⟩, _, rfl, rfl⟩)
      rw [List.singleton_append, hputs]
      simp

end Shown

end UploadRequests

/-! ### Plain queries -/

theorem isPlainQuery_of_isPlainId {id : String} (hid : IsPlainId id) : Url.IsPlainQuery id.toList := by
  intro c hc
  simp [Url.isQueryPlain, hid c hc]

theorem isPlainQuery_decimal (n : Nat) : Url.IsPlainQuery (toString n).toList := by
  intro c hc
  have hdigits : (toString n).toList = Text.digits 10 n := String.toList_ofList
  rw [hdigits] at hc
  have hdigit : Text.isDecimalDigit c = true := Text.isDecimalDigit_of_mem_digits hc
  have hslash : c ≠ '/' := by
    rintro rfl
    exact absurd hdigit (by decide)
  simp [Url.isQueryPlain, Url.inSignedQuery, Url.inSignedPath, hdigit, hslash]

theorem isPlainQuery_append {a b : String} (ha : Url.IsPlainQuery a.toList)
    (hb : Url.IsPlainQuery b.toList) : Url.IsPlainQuery (a ++ b).toList := by
  rw [String.toList_append]
  exact List.forall_mem_append.mpr ⟨ha, hb⟩

theorem isPlainQuery_upload {id : String} (hid : IsPlainId id) :
    Url.IsPlainQuery ("uploadId=" ++ id).toList :=
  isPlainQuery_append (List.all_eq_true.mp (by decide)) (isPlainQuery_of_isPlainId hid)

theorem isPlainQuery_part {id : String} (hid : IsPlainId id) (number : Nat) :
    Url.IsPlainQuery ("partNumber=" ++ toString number ++ "&uploadId=" ++ id).toList := by
  have hname : Url.IsPlainQuery "partNumber=".toList := List.all_eq_true.mp (by decide)
  have hupload : Url.IsPlainQuery "&uploadId=".toList := List.all_eq_true.mp (by decide)
  exact isPlainQuery_append (isPlainQuery_append
    (isPlainQuery_append hname (isPlainQuery_decimal number)) hupload) (isPlainQuery_of_isPlainId hid)

namespace Wire

variable {w : Wire γ} {g : γ} {q : UploadRequests} {t : Upload.Task} {id : String}

theorem shown_of {u : Url} (hu : ∀ a query r, w.request g a = some r → a.target? = some (t.key, query) →
      (∀ q ∈ query, Url.IsPlainQuery q.toList) → r.url = query.elim u fun q => u.addQuery q.toList)
    (hq : q.Of w g t id) (hid : IsPlainId id) : q.Shown u t id := by
  have place : ∀ {a r query}, w.request g a = some r → a.target? = some (t.key, some query) →
      Url.IsPlainQuery query.toList → r.IsAt u query := fun hr htarget hplain =>
    Request.isAt_of_eq (hu _ _ _ hr htarget (by simpa using hplain))
  exact ⟨fun i => ⟨w.method (hq.part i), place (hq.part i) rfl (isPlainQuery_part hid _),
      w.body (hq.part i)⟩,
    fun parts => ⟨w.method (hq.complete parts), place (hq.complete parts) rfl (isPlainQuery_upload hid),
      w.body (hq.complete parts)⟩,
    w.method hq.giveUp, place hq.giveUp rfl (isPlainQuery_upload hid)⟩

/-- **No upload is left open, and a success means that all was taken**, by any client that sends each
request once. An upload is opened by the first request, if the source has a whole piece, or not at all.
If it is opened, with a plain id, the parts that are sent to the object are numbered from one and hold
the bytes of the source in turn. Then either all of them were taken and so was the last request, which
completes the upload from their numbers and marks, or the result is an error and the last request gives
the upload up. -/
theorem no_upload_left_open (w : Wire γ) (honce : w.SendsOnce) (g : γ) (key : String)
    (acl : Option String) (partSize : Nat) (source : Source) (hpos : 0 < partSize)
    (hflows : source.Flows) (hstall : source.ending ≠ .stalled) :
    let t : Upload.Task := ⟨key, acl, partSize, source.content, source.ending⟩
    ∃ result ts, (Upload.toEnd key acl partSize source g).1.phase = .finished result ∧
      w.log (Upload.toEnd key acl partSize source g).2 = w.log g ++ ts ∧
      (source.content.size < partSize → ∀ x ∈ ts, x.1.method = .put) ∧
      ∀ id, partSize ≤ source.content.size → (Backend.answer (.create key acl) g).1 = .ok id →
        IsPlainId id → ∃ u first rest, ts = first :: rest ∧
          (∀ r, w.request g (.download key) = some r → r.url = u) ∧
          first.1.method = .post ∧ first.1.IsAt u "uploads" ∧ first.2.IsSuccess ∧
          Leaves u id t rest result := by
  intro t
  obtain ⟨result, ts, hdone, hafter, huploads⟩ :=
    exists_uploads (t := t) honce g hpos hflows.holds hstall
  refine ⟨result, ts, hdone, hafter.log, fun hsize => ?_, fun id hsize hcreated hid => ?_⟩
  · cases huploads with
    | whole _ _ hts => exact hts
    | unopened hle => exact absurd hsize (Nat.not_lt.mpr hle)
    | opened hle => exact absurd hsize (Nat.not_lt.mpr hle)
  · cases huploads with
    | whole hlt => exact absurd hsize (Nat.not_le.mpr hlt)
    | unopened _ e hreply => cases hcreated.symm.trans hreply
    | opened _ id' hreply request r hrequest hr _ q hq rest _ htraffic =>
      obtain rfl := Except.ok.inj (hcreated.symm.trans hreply)
      obtain ⟨u, hu⟩ := w.url g key
      have hopens : Url.IsPlainQuery "uploads".toList := List.all_eq_true.mp (by decide)
      exact ⟨u, _, rest, rfl, fun r hr => hu _ none r hr rfl nofun, w.method hrequest,
        Request.isAt_of_eq (hu _ _ _ hrequest rfl (by simpa using hopens)), ⟨r, rfl, hr⟩,
        (shown_of hu hq hid).leaves_of_traffic hpos htraffic⟩

end Wire

namespace RemoteBucket

/-- The response that opens the upload `u1`. -/
def opened : Response :=
  ⟨200, "<R><Bucket>logs</Bucket><Key>log</Key><UploadId>u1</UploadId></R>".toUTF8, 0, none⟩

/-- Two bytes are taken as one part, and then the connection is closed. -/
theorem no_upload_left_open_dropped :
    let b := ofDeliveries [.answered opened, .answered ⟨200, .empty, 0, some "e1"⟩, .dropped]
    let source := Source.ofBytes "ab".toUTF8
    wire.SendsOnce ∧ 0 < 2 ∧ source.Flows ∧ source.ending ≠ .stalled ∧ 2 ≤ source.content.size ∧
      (Backend.answer (.create "log" none) b).1 = .ok "u1" ∧ IsPlainId "u1" ∧
      ∃ result u first rest, wire.log (Upload.toEnd "log" none 2 source b).2 = first :: rest ∧
        Leaves u "u1" ⟨"log", none, 2, source.content, source.ending⟩ rest result ∧
        rest.map (fun x => (x.1.method, x.1.body)) =
          [(.put, "ab".toUTF8),
            (.post, ("<CompleteMultipartUpload><Part><PartNumber>1</PartNumber><ETag>e1</ETag></Part>" ++
              "</CompleteMultipartUpload>").toUTF8),
            (.delete, .empty)] := by
  intro b source
  have hcreated : (Backend.answer (.create "log" none) b).1 = .ok "u1" := by decide +kernel
  refine ⟨sendsOnce_wire, by decide, by decide, by decide, by decide, hcreated, by decide, ?_⟩
  obtain ⟨result, ts, -, hlog, -, hopens⟩ := Wire.no_upload_left_open wire sendsOnce_wire b "log" none 2
    source (by decide) (by decide) (by decide)
  obtain ⟨u, first, rest, rfl, -, -, -, -, hleaves⟩ := hopens "u1" (by decide) hcreated (by decide)
  have hempty : wire.log b = [] := rfl
  rw [hempty, List.nil_append] at hlog
  refine ⟨result, u, first, rest, hlog, hleaves, ?_⟩
  have hrest : (wire.log (Upload.toEnd "log" none 2 source b).2).tail = rest := by rw [hlog]; rfl
  rw [← hrest]
  decide +kernel

end RemoteBucket

end BlobStore
