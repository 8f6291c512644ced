import Mathlib
import BlobStore.Proofs.Url.Query
import BlobStore.Remote.Exchange
import BlobStore.Remote.Gateway

/-!
# What a client sends

A client is known by what can be seen from outside: the requests that it sends, with what was
delivered for each, and what it hands back. `Wire` collects what is relied on. What is asked is one
request, of a known method, address and body, or none if it cannot be written; while there is no
response the request may be sent again a number of times; what is handed back comes from the response
(`Ask.Reads`); and behind a part that is refused the client gives the upload up by itself (`Sends`).
How the client goes about it is its own affair.
-/

namespace BlobStore

/-- A request with what came of it. -/
abbrev Transaction := Request × Delivery

namespace Delivery

/-- A response came, and its status says that the request was successful. -/
def IsSuccess (d : Delivery) : Prop := ∃ r, d = .answered r ∧ r.isSuccess = true

instance : DecidablePred IsSuccess
  | .refused | .dropped => isFalse (by simp [IsSuccess])
  | .answered r => decidable_of_iff (r.isSuccess = true) (by simp [IsSuccess])

/-- Besides, all of its body came. -/
def IsWhole (d : Delivery) : Prop := ∃ r, d = .answered r ∧ r.isSuccess = true ∧ r.isCut = false

/-- The response came. A mere announcement of one does not count. -/
def Brings (d : Delivery) (r : Response) : Prop := d = .answered r ∧ r.isInterim = false

/-- No response came. -/
def IsLost (d : Delivery) : Prop := ∀ r, ¬ d.Brings r

theorem IsWhole.isSuccess {d : Delivery} (h : d.IsWhole) : d.IsSuccess :=
  have ⟨r, hd, hr, _⟩ := h
  ⟨r, hd, hr⟩

theorem not_isInterim_of_isSuccess {r : Response} (h : r.isSuccess = true) : r.isInterim = false := by
  simp only [Response.isSuccess, Bool.and_eq_true, decide_eq_true_eq] at h
  simp [Response.isInterim, h.1]

theorem brings_of_isSuccess {r : Response} (h : r.isSuccess = true) : Brings (.answered r) r :=
  ⟨rfl, not_isInterim_of_isSuccess h⟩

theorem Brings.isSuccess {d : Delivery} {r : Response} (h : d.Brings r) (hr : r.isSuccess = true) :
    d.IsSuccess := ⟨r, h.1, hr⟩

theorem Brings.unique {d : Delivery} {r r' : Response} (h : d.Brings r) (h' : d.Brings r') : r = r' :=
  Delivery.answered.inj (h.1.symm.trans h'.1)

theorem IsLost.not_isSuccess {d : Delivery} (h : d.IsLost) : ¬ d.IsSuccess := by
  rintro ⟨r, rfl, hr⟩
  exact h r (brings_of_isSuccess hr)

end Delivery

/-- A request with what came of it each time that it was sent. -/
structure Sending where
  request : Request
  /-- What came of it before it was sent again. -/
  lost : List Delivery
  last : Delivery

namespace Sending

def transactions (x : Sending) : List Transaction := (x.lost ++ [x.last]).map (x.request, ·)

/-- The transaction that counts. -/
def settled (x : Sending) : Transaction := (x.request, x.last)

/-- The request was sent again only while there was no response, and only so many times. -/
structure Tried (retries : Nat) (x : Sending) : Prop where
  few : x.lost.length ≤ retries
  lost : ∀ d ∈ x.lost, d.IsLost

theorem transactions_of_once {x : Sending} (h : x.Tried 0) : x.transactions = [x.settled] := by
  rw [transactions, List.eq_nil_of_length_eq_zero (Nat.le_zero.mp h.few)]
  rfl

theorem flatMap_transactions_of_once {xs : List Sending} (h : ∀ x ∈ xs, x.Tried 0) :
    xs.flatMap transactions = xs.map settled := by
  rw [List.flatMap_congr fun x hx => transactions_of_once (h x hx), ← List.map_eq_flatMap]

end Sending

/-! ## Requests -/

/-- The parts of an upload as a document lists them: each by its number and its mark. -/
def partList : List CompletedPart → String
  | [] => ""
  | part :: parts =>
    "<Part><PartNumber>" ++ toString part.number ++ "</PartNumber><ETag>" ++ part.etag ++
      "</ETag></Part>" ++ partList parts

namespace Ask

def method : Ask → Method
  | download .. | page .. => .get
  | put .. | putPart .. => .put
  | initiate .. | finish .. => .post
  | giveUp .. | remove .. => .delete

def body : Ask → ByteArray
  | put _ data .. | putPart data .. => data
  | finish _ _ parts =>
    ("<CompleteMultipartUpload>" ++ partList parts ++ "</CompleteMultipartUpload>").toUTF8
  | _ => .empty

/-- The object that is asked about, and what stands behind a question mark in its address, if there
is one. -/
def target? : Ask → Option (String × Option String)
  | download key | put key .. | remove key => some (key, none)
  | initiate key .. => some (key, some "uploads")
  | putPart _ key number upload _ =>
    some (key, some ("partNumber=" ++ toString number ++ "&uploadId=" ++ upload))
  | finish key upload _ | giveUp key upload => some (key, some ("uploadId=" ++ upload))
  | page .. => none

/-- It sends a part of an upload. -/
def IsPart : Ask → Prop
  | putPart .. => True
  | _ => False

/-- It concerns an open upload to the object. -/
def Continues (key : String) : Ask → Prop
  | putPart _ object .. | finish object .. | giveUp object _ => object = key
  | _ => False

end Ask

/-! ## What is handed back -/

/-- The status of the response is handed back once `enough` of it came, and else a failure. -/
structure HandsStatus {α : Type} (enough : Response → Prop) (d : Delivery)
    (reply : Except String (Nat × α)) : Prop where
  complete : ∀ r, d.Brings r → enough r → ∃ a, reply = .ok (r.status, a)
  sound : ∀ status a, reply = .ok (status, a) → ∃ r, d.Brings r ∧ enough r ∧ r.status = status

/-- **What is handed back for what came of a request.** The status of a response is handed back as
soon as there is one, or when all of it has come; an id, the end of an upload or the mark of a part
only if the status says that the request was successful. -/
def Ask.Reads (d : Delivery) : (a : Ask) → a.Reply → Prop
  | .download _, reply => HandsStatus (fun _ => True) d reply
  | .put .., reply => HandsStatus (fun _ => True) d reply
  | .initiate .., reply => ∀ id, reply = .ok id → d.IsSuccess
  | .putPart _ _ number .., reply =>
    (∀ r, d.Brings r → r.isSuccess = true ∧ reply = .ok ⟨number, r.etag.getD ""⟩) ∧
      (d.IsLost → ∃ cause, reply = .error cause)
  | .finish .., reply => HandsStatus (fun r => r.isCut = false) d reply
  | .giveUp .., reply => reply = .ok () → d.IsSuccess
  | .remove .., reply => HandsStatus (fun r => r.isCut = false) d reply
  | .page .., reply => ∀ page status, reply = .ok (page, status) → ∃ r, d.Brings r ∧ r.status = status

/-- **What is sent for what is asked**, with what is handed back. A part that is refused is a failure,
and behind it the upload is given up, whatever comes of that. -/
inductive Sends (request : Ask → Option Request) : (a : Ask) → List Sending → a.Reply → Prop
  | unwritten (a : Ask) (hrequest : request a = none) (cause : String) :
    Sends request a [] (.error cause)
  | sent (a : Ask) (x : Sending) (hrequest : request a = some x.request) (reply : a.Reply)
    (hreply : a.Reads x.last reply) : Sends request a [x] reply
  | refused (data : ByteArray) (key : String) (number : Nat) (upload contentType : String) (x : Sending)
    (hrequest : request (.putPart data key number upload contentType) = some x.request) (r : Response)
    (hr : x.last.Brings r) (hrefused : r.isSuccess = false) (ys : List Sending)
    (gaveUp : Except String Unit) (hys : Sends request (.giveUp key upload) ys gaveUp)
    (cause : String) :
    Sends request (.putPart data key number upload contentType) (x :: ys) (.error cause)

/-- What asks for something else than a part is one request, or none if it cannot be written. -/
theorem Sends.cases_of_not_isPart {request : Ask → Option Request} {a : Ask} {xs : List Sending}
    {reply : a.Reply} (h : Sends request a xs reply) (ha : ¬ a.IsPart) :
    (request a = none ∧ xs = [] ∧ ∃ cause, reply = .error cause) ∨
      ∃ x, request a = some x.request ∧ xs = [x] ∧ a.Reads x.last reply := by
  cases h with
  | unwritten _ hrequest cause => exact .inl ⟨hrequest, rfl, cause, rfl⟩
  | sent _ x hrequest _ hreads => exact .inr ⟨x, hrequest, rfl, hreads⟩
  | refused => exact absurd trivial ha

/-! ## Clients -/

/-- **What is known of a client.** -/
structure Wire (γ : Type) [Gateway γ] where
  /-- What was sent so far. -/
  log : γ → List Transaction
  /-- The request for what is asked, if it can be written. -/
  request : γ → Ask → Option Request
  /-- How many times a request is sent again while there is no response. -/
  retries : Nat
  sends : ∀ a g, ∃ xs : List Sending, (∀ x ∈ xs, x.Tried retries) ∧
    log (Gateway.ask a g).2 = log g ++ xs.flatMap Sending.transactions ∧
    Sends (request g) a xs (Gateway.ask a g).1
  /-- How requests are written does not change. -/
  stays : ∀ a g, request (Gateway.ask a g).2 = request g
  method : ∀ {g a r}, request g a = some r → r.method = a.method
  body : ∀ {g a r}, request g a = some r → r.body = a.body
  /-- All that concerns an object goes to its address, with a query behind that is left as it is. -/
  url : ∀ g key, ∃ u : Url, ∀ a query r, request g a = some r → a.target? = some (key, query) →
    (∀ q ∈ query, Url.IsPlainQuery q.toList) → r.url = query.elim u fun q => u.addQuery q.toList
  /-- Where an upload can be opened, it can be carried on. -/
  written : ∀ {g key contentType acl r}, request g (.initiate key contentType acl) = some r →
    ∀ a : Ask, a.Continues key → ∃ r', request g a = some r'

namespace Wire

variable {γ : Type} [Gateway γ] (w : Wire γ)

/-- Each request is sent once, whatever comes of it. -/
def SendsOnce : Prop := w.retries = 0

/-- The client after these transactions. -/
structure After (g : γ) (ts : List Transaction) (g' : γ) : Prop where
  log : w.log g' = w.log g ++ ts
  request : w.request g' = w.request g

variable {w} {g g' g'' : γ} {ts us : List Transaction}

theorem After.refl (g : γ) : w.After g [] g := ⟨(List.append_nil _).symm, rfl⟩

theorem After.trans (h : w.After g ts g') (h' : w.After g' us g'') : w.After g (ts ++ us) g'' where
  log := by rw [h'.log, h.log, List.append_assoc]
  request := h'.request.trans h.request

theorem exists_sends (w : Wire γ) (a : Ask) (g : γ) : ∃ xs : List Sending,
    (∀ x ∈ xs, x.Tried w.retries) ∧
      w.After g (xs.flatMap Sending.transactions) (Gateway.ask a g).2 ∧
      Sends (w.request g) a xs (Gateway.ask a g).1 :=
  have ⟨xs, htried, hlog, hsends⟩ := w.sends a g
  ⟨xs, htried, ⟨hlog, w.stays a g⟩, hsends⟩

theorem SendsOnce.exists_sends (h : w.SendsOnce) (a : Ask) (g : γ) : ∃ xs : List Sending,
    w.After g (xs.map Sending.settled) (Gateway.ask a g).2 ∧
      Sends (w.request g) a xs (Gateway.ask a g).1 := by
  obtain ⟨xs, htried, hafter, hsends⟩ := w.exists_sends a g
  rw [h] at htried
  rw [Sending.flatMap_transactions_of_once htried] at hafter
  exact ⟨xs, hafter, hsends⟩

theorem SendsOnce.exists_reads (h : w.SendsOnce) {a : Ask} {r : Request}
    (hr : w.request g a = some r) (ha : ¬ a.IsPart) :
    ∃ d, w.After g [(r, d)] (Gateway.ask a g).2 ∧ a.Reads d (Gateway.ask a g).1 := by
  obtain ⟨xs, hafter, hsends⟩ := h.exists_sends a g
  obtain ⟨hnone, -⟩ | ⟨x, hx, rfl, hreads⟩ := hsends.cases_of_not_isPart ha
  · rw [hr] at hnone
    cases hnone
  · rw [Option.some.inj (hr.symm.trans hx)]
    exact ⟨x.last, hafter, hreads⟩

end Wire

/-! ## Calls -/

/-- What a client is asked for a call. -/
def Call.ask? : Call → Option Ask
  | get key => some (.download key)
  | put key data acl => some (.put key data octets acl)
  | create key acl => some (.initiate key octets acl)
  | part key upload number data => some (.putPart data key number upload octets)
  | complete key upload parts => some (.finish key upload parts)
  | abort key upload => some (.giveUp key upload)
  | delete key => some (.remove key)
  | list stem token max => some (.page stem token max)
  | presign .. => none
  | check => some (.page "" none 1)

theorem snd_answer {γ : Type} [Gateway γ] (c : Call) (g : γ) :
    (Backend.answer c g).2 = c.ask?.elim g fun a => (Gateway.ask a g).2 := by
  cases c <;> rfl

theorem Gateway.transport_bind_eq_ok {α β : Type} {title : String} {reply : Except String α}
    {read : α → Except StoreError β} {x : β} :
    (transport title reply).bind read = .ok x ↔ ∃ a, reply = .ok a ∧ read a = .ok x := by
  cases reply <;> simp [transport, Except.bind]

end BlobStore
