import Mathlib
import BlobStore.Proofs.Remote.Uploads
import BlobStore.Proofs.Upload.Atomic

/-!
# Whether an upload is complete

An upload to a bucket behind an endpoint is complete if the response to its last request says so by
its status. What the document in the response says is not looked at.
-/

namespace BlobStore.RemoteBucket

open Backend (Plays)

section requests

variable (b : RemoteBucket) (t : Upload.Task) (partUrl : Nat → Url) (uploadUrl : Url)

/-- The request that sends the `i`-th piece. -/
def partRequest (i : Nat) : Request := b.request .put (partUrl (i + 1)) (t.piece i) octets none

/-- The request that completes an upload from these parts. -/
def completeRequest (parts : List CompletedPart) : Request :=
  b.request .post uploadUrl (Document.completion parts).toUTF8 "application/xml" none

/-- The request that gives an upload up. -/
def abortRequest : Request := b.request .delete uploadUrl .empty "text/plain" none

/-- The first parts, each taken with its response. -/
def taken (answers : List Response) : List Transaction :=
  answers.mapIdx fun i r => (b.partRequest t partUrl i, .answered r)

/-- The requests of an upload to these addresses. -/
def uploadRequests : UploadRequests :=
  ⟨b.partRequest t partUrl, b.completeRequest uploadUrl, b.abortRequest uploadUrl⟩

end requests

variable {b b' : RemoteBucket} {t : Upload.Task} {key id : String} {acl : Option String}

/-- The request opened the upload `id`. -/
def Opens (id : String) (x : Transaction) : Prop :=
  x.1.method = .post ∧ ∃ r, x.2 = .answered r ∧ r.isSuccess = true ∧ createReply r = .ok id

instance (id : String) : DecidablePred (Opens id)
  | (_, .refused) | (_, .dropped) => isFalse (by simp [Opens])
  | (request, .answered r) =>
    decidable_of_iff (request.method = .post ∧ r.isSuccess = true ∧ createReply r = .ok id)
      (by simp [Opens])

theorem exists_opens {ts : List Transaction} (hlog : b.endpoint.log = []) (hafter : b' = b.after ts)
    (h : ∃ x ∈ b'.endpoint.log.getLast?, Opens id x) :
    ∃ first rest, ts = first :: rest ∧ Opens id first := by
  obtain ⟨x, hx, hopens⟩ := h
  rw [hafter, after, hlog, List.append_nil, List.getLast?_reverse] at hx
  obtain ⟨rest, rfl⟩ := List.head?_eq_some_iff.mp hx
  exact ⟨x, rest, rfl, hopens⟩

theorem exists_urls {u : Url} (h : b.site.objectUrl key "?uploads".toList = .ok u) (id : String) :
    (∃ partUrl : Nat → Url, ∀ n, b.site.objectUrl key (partQuery id n) = .ok (partUrl n)) ∧
      ∃ uploadUrl, b.site.objectUrl key (uploadQuery id) = .ok uploadUrl :=
  ⟨Classical.axiomOfChoice fun n => exists_address h (partQuery_eq id n),
    exists_address h (uploadQuery_eq id)⟩

theorem eq_uploadRequests {q : UploadRequests} (hq : q.Of wire b t id) {partUrl : Nat → Url}
    {uploadUrl : Url} (hpart : ∀ n, b.site.objectUrl t.key (partQuery id n) = .ok (partUrl n))
    (hupload : b.site.objectUrl t.key (uploadQuery id) = .ok uploadUrl) :
    q = b.uploadRequests t partUrl uploadUrl := by
  have written : ∀ {a r u}, b.request? a = some r → b.address a = .ok u → r = b.requestFor a u := by
    intro a r u hr hu
    obtain ⟨u', hu', rfl, -⟩ := request?_eq_some.mp hr
    rw [Except.ok.inj (hu'.symm.trans hu)]
  obtain ⟨part, complete, giveUp⟩ := q
  have hparts : part = b.partRequest t partUrl := funext fun i => written (hq.part i) (hpart (i + 1))
  have hcomplete : complete = b.completeRequest uploadUrl :=
    funext fun parts => written (hq.complete parts) hupload
  have hgiveUp : giveUp = b.abortRequest uploadUrl := written hq.giveUp hupload
  rw [hparts, hcomplete, hgiveUp, uploadRequests]

/-! ## The bucket after a run -/

theorem exists_after_answer (b : RemoteBucket) (c : Call) :
    ∃ ts, (Backend.answer c b).2 = b.after ts := by
  rw [snd_answer]
  cases c.ask? with
  | none => exact ⟨[], rfl⟩
  | some a => exact exists_after_ask b a

theorem exists_after_of_plays {es : List Exchange} (h : Plays b es b') : ∃ ts, b' = b.after ts := by
  induction es generalizing b with
  | nil => exact ⟨[], h.symm⟩
  | cons e es ih =>
    obtain ⟨ts, hts⟩ := exists_after_answer b e.1
    obtain ⟨us, rfl⟩ := ih h.2
    exact ⟨ts ++ us, by rw [hts, after_after]⟩

theorem log_after (b : RemoteBucket) (ts : List Transaction) :
    wire.log (b.after ts) = wire.log b ++ ts := by
  simp [wire, after]

theorem eq_of_after {ts us : List Transaction} (h : wire.After b us (b.after ts)) : us = ts :=
  List.append_cancel_left (h.log.symm.trans (log_after b ts))

theorem create_of_opens {first : Transaction} {rest : List Transaction}
    (hafter : wire.After b (first :: rest) (Backend.answer (.create key acl) b).2)
    (hopens : Opens id first) : (Backend.answer (.create key acl) b).1 = .ok id := by
  have hanswer : Backend.answer (.create key acl) b =
      ((Gateway.transport Title.create
        ((b.send (.initiate key octets acl)).1.mapError ClientFault.message)).bind .ok,
        (b.send (.initiate key octets acl)).2) := rfl
  obtain ⟨fault, -, hlost⟩ | ⟨request, d, -, hsent⟩ := exchange_cases b (.initiate key octets acl)
  · rw [hanswer, send, hlost] at hafter
    cases List.self_eq_append_right.mp hafter.log
  · rw [hanswer, send, hsent] at hafter
    obtain ⟨rfl, rfl⟩ := List.cons.inj (eq_of_after hafter)
    obtain ⟨-, r, hd : d = .answered r, hr, hid⟩ := hopens
    have hreply : ((responseOf d).bind (read · (.initiate key octets acl))).mapError
        ClientFault.message = .ok id :=
      responseOf_bind_eq_ok.mpr ⟨r, hd ▸ Delivery.brings_of_isSuccess hr, hid⟩
    rw [hanswer, send, hsent, hreply]
    rfl

/-- The response says that the request was successful, and its document that it failed. -/
def saysBoth : Delivery → Bool
  | .answered r => r.isSuccess && match (String.fromUTF8? r.content).bind Xml.parse? with
    | some (.element name _) => name = "Error".toList
    | _ => false
  | _ => false

/-- The response to a request that started well and then failed. -/
def failedLate : Response := ⟨200, "<Error><Code>InternalError</Code></Error>".toUTF8, 0, none⟩

/-- **Whether an upload is complete is judged by the status alone.** If an upload was opened and all
its parts were taken, the next request completes it. It is the last one, and the upload a success, if
its response has a successful status and comes whole, whatever it says; otherwise the upload is given
up and fails. -/
theorem completion_judged_by_status (b : RemoteBucket) (key : String) (acl : Option String)
    (partSize : Nat) (source : Source) (hpos : 0 < partSize) (hflows : source.Flows)
    (hend : source.ending = .finished) :
    let t : Upload.Task := ⟨key, acl, partSize, source.content, source.ending⟩
    ∃ result ts, (Upload.toEnd key acl partSize source b).1.phase = .finished result ∧
      (Upload.toEnd key acl partSize source b).2 = b.after ts ∧
      ∀ first rest id, ts = first :: rest → Opens id first →
        (∀ x ∈ rest, x.1.method = .put → x.2.IsSuccess) →
        ∃ partUrl uploadUrl answers d more,
          (∀ n, b.site.objectUrl key (partQuery id n) = .ok (partUrl n)) ∧
          b.site.objectUrl key (uploadQuery id) = .ok uploadUrl ∧
          answers.length = t.count ∧
          rest = b.taken t partUrl answers ++
            (b.completeRequest uploadUrl (partsOf answers), d) :: more ∧
          (d.IsWhole → result = .ok source.content.size ∧ more = []) ∧
          (¬ d.IsWhole → (∃ e, result = .error e) ∧ ∃ d', more = [(b.abortRequest uploadUrl, d')]) := by
  intro t
  obtain ⟨result, us, hdone, hafter, huploads⟩ := Wire.exists_uploads (t := t) sendsOnce_wire b hpos
    hflows.holds (by simp [t, hend])
  obtain ⟨es, -, -, hplays, -⟩ := Upload.exists_finishes_toEnd key acl partSize source b
  obtain ⟨ts, hts⟩ := exists_after_of_plays hplays
  obtain rfl : us = ts := eq_of_after (hts ▸ hafter)
  refine ⟨result, us, hdone, hts, fun first rest id hus hopens htaken => ?_⟩
  cases huploads with
  | whole _ _ hputs =>
    have hput : first.1.method = .put := hputs first (hus ▸ List.mem_cons_self)
    cases hput.symm.trans hopens.1
  | unopened _ e hreply _ hcreated =>
    cases hreply.symm.trans (create_of_opens (hus ▸ hcreated) hopens)
  | opened _ id' hreply request r hrequest _ hcreated q hq rest' _ htraffic =>
    obtain ⟨rfl, rfl⟩ := List.cons.inj hus
    obtain rfl := Except.ok.inj (hreply.symm.trans (create_of_opens hcreated hopens))
    obtain ⟨u, hu, -⟩ := request?_eq_some.mp hrequest
    obtain ⟨⟨partUrl, hpart⟩, uploadUrl, hupload⟩ := exists_urls hu id'
    obtain rfl := eq_uploadRequests hq hpart hupload
    refine ⟨partUrl, uploadUrl, ?_⟩
    cases htraffic with
    | completed answers hall _ hcount d hd =>
      exact ⟨answers, d, [], hpart, hupload, hcount, rfl, fun _ => ⟨rfl, rfl⟩,
        fun hnot => absurd hd hnot⟩
    | abandoned answers hall hstop d' =>
      cases hstop with
      | source hfail => simp [t, hend] at hfail
      | lost hcount d hd =>
        exact absurd (htaken (b.partRequest t partUrl answers.length, d) (by simp [uploadRequests]) rfl)
          hd.not_isSuccess
      | refused hcount r hr d =>
        obtain ⟨r', hr', hsuccess⟩ := htaken (b.partRequest t partUrl answers.length, .answered r)
          (by simp [uploadRequests]) rfl
        obtain rfl := Delivery.answered.inj hr'
        rw [hr] at hsuccess
        cases hsuccess
      | incomplete _ hcount d hd =>
        exact ⟨answers, d, [(b.abortRequest uploadUrl, d')], hpart, hupload, hcount,
          List.append_assoc .., fun hwhole => absurd hwhole hd, fun _ => ⟨⟨_, rfl⟩, d', rfl⟩⟩

/-- Two bytes are taken as one part, and the upload is said to be complete and to have failed. -/
theorem completion_judged_by_status_late_failure :
    let b := ofDeliveries
      [.answered opened, .answered ⟨200, .empty, 0, some "e1"⟩, .answered failedLate]
    let source := Source.ofBytes "ab".toUTF8
    let t : Upload.Task := ⟨"log", none, 2, source.content, .finished⟩
    0 < 2 ∧ source.Flows ∧ source.ending = .finished ∧
      ∃ result ts first rest, (Upload.toEnd "log" none 2 source b).2 = b.after ts ∧
        ts = first :: rest ∧ Opens "u1" first ∧ (∀ x ∈ rest, x.1.method = .put → x.2.IsSuccess) ∧
        (Upload.toEnd "log" none 2 source b).1.phase = .finished result ∧
        ∃ partUrl uploadUrl answers d more,
          rest = b.taken t partUrl answers ++
            (b.completeRequest uploadUrl (partsOf answers), d) :: more ∧
          (d.IsWhole → result = .ok 2 ∧ more = []) := by
  intro b source t
  refine ⟨by decide, by decide, rfl, ?_⟩
  obtain ⟨result, ts, hdone, hafter, hrest⟩ :=
    completion_judged_by_status b "log" none 2 source (by decide) (by decide) rfl
  have hopened : ∃ x ∈ (Upload.toEnd "log" none 2 source b).2.endpoint.log.getLast?, Opens "u1" x := by
    decide +kernel
  obtain ⟨first, rest, rfl, hopens⟩ := exists_opens rfl hafter hopened
  have htaken : ∀ x ∈ (Upload.toEnd "log" none 2 source b).2.endpoint.log,
      x.1.method = .put → x.2.IsSuccess := by
    decide +kernel
  have hparts : ∀ x ∈ rest, x.1.method = .put → x.2.IsSuccess := by
    intro x hx
    refine htaken x ?_
    rw [hafter]
    simp [after, hx]
  obtain ⟨partUrl, uploadUrl, answers, d, more, -, -, -, hform, hwhole, -⟩ :=
    hrest first rest "u1" rfl hopens hparts
  exact ⟨result, _, first, rest, hafter, rfl, hopens, hparts, hdone, partUrl, uploadUrl, answers, d,
    more, hform, hwhole⟩

/-- The failure of the last request is not seen: the upload is a success, and is not given up. -/
theorem late_failure_taken_for_success :
    let b := ofDeliveries
      [.answered opened, .answered ⟨200, .empty, 0, some "e1"⟩, .answered failedLate]
    let run := Upload.toEnd "log" none 2 (.ofBytes "ab".toUTF8) b
    run.1.phase = .finished (.ok 2) ∧ run.2.endpoint.log.map (·.1.method) = [.post, .put, .post] ∧
      (∃ x ∈ run.2.endpoint.log.getLast?, Opens "u1" x) ∧
      (∃ x ∈ run.2.endpoint.log.head?, saysBoth x.2 = true) := by
  refine ⟨UploadPhase.result?_eq_some.mp ?_, ?_, ?_, ?_⟩
  all_goals decide +kernel

end BlobStore.RemoteBucket
