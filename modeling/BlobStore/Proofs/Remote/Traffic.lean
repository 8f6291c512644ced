import Mathlib
import BlobStore.Proofs.Remote.Wire
import BlobStore.Remote.Bucket

/-!
# What a remote bucket sends

A bucket behind an endpoint changes by nothing but what it sends. `RemoteBucket.after` is the bucket
after some transactions, and `exchange_cases` says that one exchange is a single transaction, or none
if its request cannot be written. Whether it can depends on the address and the headers alone, so what
was sent once can be sent again. With what is read off a response this makes the bucket one of the
clients that send each request once: `RemoteBucket.wire`.
-/

namespace BlobStore

/-! ## Addresses of one object -/

namespace Site

theorem not_le_space_of_mem_encode {text : List Char} {c : Char}
    (hc : c ∈ Url.encode Url.inSignedPath text) : ¬ c ≤ ' ' := by
  have hall : ∀ c ∈ Url.encode Url.inSignedPath text, ¬ c ≤ ' ' :=
    Url.forall_mem_encode (fun c _ hkeep => (Url.inSignedPath_cases hkeep).1) (by decide) (by decide)
  exact hall c hc

theorem not_le_space_of_mem_pathOfKey {key : String} {c : Char} (hc : c ∈ pathOfKey key) :
    ¬ c ≤ ' ' := by
  obtain rfl | hc := List.mem_cons.mp hc
  · decide
  · exact not_le_space_of_mem_encode hc

theorem objectUrl_query {site : Site} {key : String} {query : List Char} {u' : Url}
    (h : site.objectUrl key ('?' :: query) = .ok u') :
    ∃ u, site.objectUrl key [] = .ok u ∧
      (∀ query, ∃ u', site.objectUrl key ('?' :: query) = .ok u') ∧
      ∀ query, Url.IsPlainQuery query → site.objectUrl key ('?' :: query) = .ok (u.addQuery query) := by
  have hlast : ∀ c ∈ (site.base ++ pathOfKey key).getLast?, ¬ c ≤ ' ' := by
    intro c hc
    rw [List.getLast?_append_of_ne_nil _ (show pathOfKey key ≠ [] from List.cons_ne_nil _ _)] at hc
    exact not_le_space_of_mem_pathOfKey (List.mem_of_getLast? hc)
  obtain ⟨u, hplain, hany, hquery⟩ := Url.parse_append_query site.scheme hlast h
  refine ⟨u, ?_, fun query => ?_, hquery⟩
  · rwa [objectUrl, List.append_nil]
  · obtain ⟨u', hu', -⟩ := hany query
    exact ⟨u', hu'⟩

end Site

namespace RemoteBucket

/-! ## The bucket after some transactions -/

variable (b : RemoteBucket)

/-- The bucket after these transactions. -/
def after (ts : List Transaction) : RemoteBucket :=
  { b with endpoint := { b.endpoint with log := ts.reverse ++ b.endpoint.log } }

@[simp] theorem after_after (ts us : List Transaction) : (b.after ts).after us = b.after (ts ++ us) := by
  simp [after]

/-- A bucket at an endpoint that delivers these in turn. -/
def ofDeliveries (deliveries : List Delivery) : RemoteBucket :=
  ⟨⟨.http, "[::1]:9000".toList, "logs", "us-east-1", true, none⟩, .ofList deliveries, default⟩

/-! ## Requests -/

/-- The headers of a request with this access rule can be written and, where there are keys, be
signed. -/
structure Signs (acl : Option String) : Prop where
  host : Header.checkValue b.site.fullHost = .ok ()
  token : Header.checkValue ((b.site.keys.bind (·.token)).getD "").toList = .ok ()
  signed : ∀ keys, b.site.keys = some keys →
    Header.checkSignable b.site.fullHost = .ok () ∧
    Header.checkSignable ((b.site.keys.bind (·.token)).getD "").toList = .ok () ∧
    Header.checkSignable (acl.getD "").toList = .ok () ∧
    Header.checkValue (b.site.credential keys b.stamp).toList = .ok ()

variable {b} {b' : RemoteBucket} {a : Ask} {acl : Option String} {key id : String}

theorem Signs.none (h : b.Signs acl) : b.Signs none :=
  ⟨h.host, h.token, fun keys hkeys =>
    have ⟨hhost, htoken, _, hcredential⟩ := h.signed keys hkeys
    ⟨hhost, htoken, rfl, hcredential⟩⟩

theorem bind_eq_ok {ε α β : Type} {x : Except ε α} {f : α → Except ε β} {r : β} :
    x >>= f = .ok r ↔ ∃ a, x = .ok a ∧ f a = .ok r := by
  cases x <;> simp [bind, Except.bind]

theorem mapError_eq_ok {ε ε' α : Type} {f : ε → ε'} {x : Except ε α} {a : α} :
    x.mapError f = .ok a ↔ x = .ok a := by
  cases x <;> simp [Except.mapError]

theorem prepare_eq_ok_iff {request : Request} : b.prepare a = .ok request ↔
    ∃ u, b.address a = .ok u ∧ request = b.requestFor a u ∧ b.Signs request.acl := by
  simp only [prepare, bind_eq_ok, mapError_eq_ok]
  cases hkeys : b.site.keys with
  | none =>
    constructor
    · rintro ⟨_, hhost, _, htoken, u, hu, heq⟩
      obtain rfl := Except.ok.inj heq
      exact ⟨u, hu, rfl, hhost, by rwa [hkeys], by simp [hkeys]⟩
    · rintro ⟨u, hu, rfl, hsigns⟩
      have htoken := hsigns.token
      rw [hkeys] at htoken
      exact ⟨(), hsigns.host, (), htoken, u, hu, rfl⟩
  | some keys =>
    simp only [bind_eq_ok]
    constructor
    · rintro ⟨_, hhost, _, htoken, u, hu, _, hshost, _, hstoken, _, hsacl, _, hcredential, heq⟩
      obtain rfl := Except.ok.inj heq
      refine ⟨u, hu, rfl, hhost, by rwa [hkeys], fun keys' hkeys' => ?_⟩
      obtain rfl := Option.some.inj (hkeys.symm.trans hkeys')
      exact ⟨hshost, by rwa [hkeys], hsacl, hcredential⟩
    · rintro ⟨u, hu, rfl, hsigns⟩
      obtain ⟨hshost, hstoken, hsacl, hcredential⟩ := hsigns.signed keys hkeys
      have htoken := hsigns.token
      rw [hkeys] at htoken hstoken
      exact ⟨(), hsigns.host, (), htoken, u, hu, (), hshost, (), hstoken, (), hsacl, (), hcredential,
        rfl⟩

theorem toList_mark_append {query field : String} (h : query.toList = '?' :: field.toList)
    (rest : String) : (query ++ rest).toList = '?' :: (field ++ rest).toList := by
  rw [String.toList_append, h, String.toList_append, List.cons_append]

theorem uploadQuery_eq (id : String) : uploadQuery id = '?' :: ("uploadId=" ++ id).toList :=
  toList_mark_append rfl id

theorem partQuery_eq (id : String) (number : Nat) : partQuery id number =
    '?' :: ("partNumber=" ++ toString number ++ "&uploadId=" ++ id).toList :=
  toList_mark_append (toList_mark_append (toList_mark_append rfl _) _) id

theorem address_eq {query : Option String} (h : a.target? = some (key, query)) :
    b.address a = b.site.objectUrl key (query.elim [] fun q => '?' :: q.toList) := by
  cases a with
  | page => cases h
  | download | put | remove =>
    obtain ⟨rfl, rfl⟩ := Prod.mk.inj (Option.some.inj h)
    rfl
  | initiate =>
    obtain ⟨rfl, rfl⟩ := Prod.mk.inj (Option.some.inj h)
    rfl
  | putPart =>
    obtain ⟨rfl, rfl⟩ := Prod.mk.inj (Option.some.inj h)
    exact congrArg (b.site.objectUrl _) (partQuery_eq ..)
  | finish | giveUp =>
    obtain ⟨rfl, rfl⟩ := Prod.mk.inj (Option.some.inj h)
    exact congrArg (b.site.objectUrl _) (uploadQuery_eq _)

theorem url_requestFor (a : Ask) (u : Url) : (b.requestFor a u).url = u := by
  cases a <;> rfl

theorem method_requestFor (a : Ask) (u : Url) : (b.requestFor a u).method = a.method := by
  cases a <;> rfl

theorem completion_eq (parts : List CompletedPart) : Document.completion parts =
    "<CompleteMultipartUpload>" ++ partList parts ++ "</CompleteMultipartUpload>" := by
  have hlist : ∀ parts : List CompletedPart, String.join (parts.map fun part =>
      "<Part><PartNumber>" ++ Text.decimal part.number ++ "</PartNumber><ETag>" ++ part.etag ++
        "</ETag></Part>") = partList parts := by
    intro parts
    induction parts with
    | nil => rfl
    | cons part parts ih => rw [List.map_cons, String.join_cons, ih]; rfl
  rw [← hlist]
  rfl

theorem body_requestFor (a : Ask) (u : Url) : (b.requestFor a u).body = a.body := by
  cases a with
  | finish key upload parts => exact congrArg String.toUTF8 (completion_eq parts)
  | _ => rfl

theorem exchange_cases (b : RemoteBucket) (a : Ask) :
    (∃ fault, b.prepare a = .error fault ∧ b.exchange a = (.error fault, b)) ∨
      ∃ request delivery, b.prepare a = .ok request ∧
        b.exchange a = (responseOf delivery, b.after [(request, delivery)]) := by
  cases h : b.prepare a with
  | error fault => exact .inl ⟨fault, rfl, by rw [exchange, h]⟩
  | ok request => exact .inr ⟨request, _, rfl, by rw [exchange, h]; rfl⟩

/-! ## Responses -/

theorem responseOf_eq_ok {d : Delivery} {r : Response} : responseOf d = .ok r ↔ d.Brings r := by
  cases d with
  | refused | dropped => exact iff_of_false nofun fun h => by cases h.1
  | answered r' =>
    cases hinterim : r'.isInterim with
    | true =>
      refine iff_of_false (by simp [responseOf, hinterim]) ?_
      rintro ⟨h, hnot⟩
      obtain rfl := Delivery.answered.inj h
      rw [hinterim] at hnot
      cases hnot
    | false =>
      simp only [responseOf, hinterim, Bool.false_eq_true, if_false, Except.ok.injEq, Delivery.Brings,
        Delivery.answered.injEq]
      exact ⟨fun h => ⟨h, h ▸ hinterim⟩, fun h => h.1⟩

theorem isLost_of_responseOf {d : Delivery} {fault : ClientFault} (h : responseOf d = .error fault) :
    d.IsLost := fun r hr => by
  rw [responseOf_eq_ok.mpr hr] at h
  cases h

theorem responseOf_bind_eq_ok {α : Type} {d : Delivery} {f : Response → Except ClientFault α} {x : α} :
    ((responseOf d).bind f).mapError ClientFault.message = .ok x ↔ ∃ r, d.Brings r ∧ f r = .ok x := by
  rw [mapError_eq_ok]
  constructor
  · intro h
    obtain ⟨r, hd, hr⟩ := bind_eq_ok.mp h
    exact ⟨r, responseOf_eq_ok.mp hd, hr⟩
  · rintro ⟨r, hr, hx⟩
    rw [responseOf_eq_ok.mpr hr]
    exact hx

theorem wholeBody_eq_ok {r : Response} {body : ByteArray} :
    wholeBody r = .ok body ↔ r.isCut = false ∧ r.content = body := by
  unfold wholeBody
  cases r.isCut <;> simp

theorem isSuccess_of_createReply {r : Response} (hinterim : r.isInterim = false)
    (h : createReply r = .ok id) : r.isSuccess = true := by
  obtain ⟨body, hbody, h⟩ := bind_eq_ok.mp h
  obtain ⟨-, rfl⟩ := wholeBody_eq_ok.mp hbody
  dsimp only at h
  split at h
  · cases h
  next hlt =>
  by_contra hsuccess
  have hbare : r.isBare = true := by
    simp only [Response.isSuccess, Response.isInterim, Bool.and_eq_true, decide_eq_true_eq,
      Bool.and_eq_false_iff, decide_eq_false_iff_not, not_and, not_lt] at hsuccess hinterim
    have : r.status = 101 := by omega
    simp [Response.isBare, this]
  have hempty : Document.uploadId? .empty = none := by decide
  simp [Response.content, hbare, hempty] at h

theorem isSuccess_of_abortReply {r : Response} (h : abortReply r = .ok ()) : r.isSuccess = true := by
  obtain ⟨body, -, hstatus⟩ := bind_eq_ok.mp h
  by_contra hsuccess
  rw [Bool.not_eq_true] at hsuccess
  rw [hsuccess] at hstatus
  cases hstatus

theorem handsStatus {α : Type} {enough : Response → Prop} {f : Response → Except ClientFault (Nat × α)}
    (hok : ∀ r, enough r → ∃ x, f r = .ok (r.status, x))
    (hof : ∀ r x, f r = .ok x → enough r ∧ r.status = x.1) (d : Delivery) :
    HandsStatus enough d (((responseOf d).bind f).mapError ClientFault.message) where
  complete r hr henough :=
    have ⟨x, hx⟩ := hok r henough
    ⟨x, responseOf_bind_eq_ok.mpr ⟨r, hr, hx⟩⟩
  sound _ _ h :=
    have ⟨r, hr, hx⟩ := responseOf_bind_eq_ok.mp h
    ⟨r, hr, hof r _ hx⟩

theorem handsStatus_whole (d : Delivery) : HandsStatus (fun r => r.isCut = false) d
    (((responseOf d).bind fun r => (wholeBody r).map (r.status, ·)).mapError ClientFault.message) := by
  refine handsStatus (fun r hcut => ⟨r.content, ?_⟩) (fun r x h => ?_) d
  · rw [wholeBody_eq_ok.mpr ⟨hcut, rfl⟩]
    rfl
  · cases hbody : wholeBody r with
    | error fault =>
      rw [hbody] at h
      cases h
    | ok body =>
      rw [hbody] at h
      obtain rfl := Except.ok.inj h
      exact ⟨(wholeBody_eq_ok.mp hbody).1, rfl⟩

theorem reads_read (d : Delivery) {a : Ask} (ha : ¬ a.IsPart) :
    a.Reads d (((responseOf d).bind (read · a)).mapError ClientFault.message) := by
  cases a with
  | download key =>
    exact handsStatus (fun r _ => ⟨_, rfl⟩) (fun r x h => ⟨trivial, by cases h; rfl⟩) d
  | put key data contentType acl =>
    exact handsStatus (fun r _ => ⟨_, rfl⟩) (fun r x h => ⟨trivial, by cases h; rfl⟩) d
  | initiate key contentType acl =>
    intro id h
    obtain ⟨r, hr, hid⟩ := responseOf_bind_eq_ok.mp h
    exact hr.isSuccess (isSuccess_of_createReply hr.2 hid)
  | putPart data key number upload contentType => exact absurd trivial ha
  | finish key upload parts => exact handsStatus_whole d
  | giveUp key upload =>
    intro h
    obtain ⟨r, hr, hdone⟩ := responseOf_bind_eq_ok.mp h
    exact hr.isSuccess (isSuccess_of_abortReply hdone)
  | remove key => exact handsStatus_whole d
  | page stem token max =>
    intro page status h
    obtain ⟨r, hr, hpage⟩ := responseOf_bind_eq_ok.mp h
    refine ⟨r, hr, ?_⟩
    obtain ⟨body, -, hpage⟩ := bind_eq_ok.mp hpage
    split at hpage <;> cases hpage
    rfl

theorem presign_eq_ok {use : LinkUse} {secs : Nat} {text : String} :
    (Backend.answer (.presign use key secs) b).1 = .ok text ↔
      b.site.link b.stamp key secs = .ok text :=
  mapError_eq_ok.trans mapError_eq_ok

/-! ## The bucket as a client -/

/-- The request for what is asked, if it can be written. -/
def request? (b : RemoteBucket) (a : Ask) : Option Request := (b.prepare a).toOption

theorem request?_eq_some {r : Request} : b.request? a = some r ↔
    ∃ u, b.address a = .ok u ∧ r = b.requestFor a u ∧ b.Signs r.acl := by
  rw [← prepare_eq_ok_iff, request?]
  cases b.prepare a <;> simp [Except.toOption]

theorem request?_eq_none {fault : ClientFault} (h : b.prepare a = .error fault) :
    b.request? a = none := by
  rw [request?, h]
  rfl

theorem request?_after (ts : List Transaction) : (b.after ts).request? = b.request? := rfl

/-- What was asked was sent, and the reply is as it is to be. -/
def Sent (b : RemoteBucket) (a : Ask) (reply : Except ClientFault a.Answer × RemoteBucket) : Prop :=
  ∃ ts : List Transaction, reply.2 = b.after ts ∧
    Sends b.request? a (ts.map fun x => ⟨x.1, [], x.2⟩) (reply.1.mapError ClientFault.message)

theorem sent_send (b : RemoteBucket) {a : Ask} (ha : ¬ a.IsPart) : b.Sent a (b.send a) := by
  obtain ⟨fault, hfault, hlost⟩ | ⟨request, d, hrequest, hsent⟩ := exchange_cases b a
  · rw [send, hlost]
    exact ⟨[], rfl, .unwritten a (request?_eq_none hfault) _⟩
  · rw [send, hsent]
    refine ⟨_, rfl, .sent a ⟨request, [], d⟩ ?_ _ (reads_read d ha)⟩
    rw [request?, hrequest]
    rfl

theorem sent_sendPart (b : RemoteBucket) (data : ByteArray) (key : String) (number : Nat)
    (upload contentType : String) : b.Sent (.putPart data key number upload contentType)
      (b.sendPart data key number upload contentType) := by
  obtain ⟨fault, hfault, hlost⟩ | ⟨request, d, hrequest, hsent⟩ :=
    exchange_cases b (.putPart data key number upload contentType)
  · rw [sendPart, hlost]
    exact ⟨[], rfl, .unwritten _ (request?_eq_none hfault) _⟩
  have hwritten : b.request? (.putPart data key number upload contentType) = some request := by
    rw [request?, hrequest]
    rfl
  rw [sendPart, hsent]
  cases hresponse : responseOf d with
  | error fault =>
    have hlost := isLost_of_responseOf hresponse
    exact ⟨_, rfl, .sent _ ⟨request, [], d⟩ hwritten _ ⟨fun r hr => absurd hr (hlost r),
      fun _ => ⟨_, rfl⟩⟩⟩
  | ok r =>
    have hr := responseOf_eq_ok.mp hresponse
    cases hsuccess : r.isSuccess with
    | true =>
      simp only [hsuccess, if_true]
      refine ⟨_, rfl, .sent _ ⟨request, [], d⟩ hwritten _ ⟨fun r' hr' => ?_, fun h => absurd hr (h r)⟩⟩
      obtain rfl := hr.unique hr'
      exact ⟨hsuccess, by rw [partReply, if_pos hsuccess]; rfl⟩
    | false =>
      simp only [hsuccess, Bool.false_eq_true, if_false]
      obtain ⟨ts, hafter, hsends⟩ := sent_send (b.after [(request, d)]) (a := .giveUp key upload) not_false
      refine ⟨(request, d) :: ts, hafter.trans (after_after ..), ?_⟩
      have hfailed : ∃ fault, (((b.after [(request, d)]).send (.giveUp key upload)).1.bind fun _ =>
          partReply number r) = .error fault := by
        cases ((b.after [(request, d)]).send (.giveUp key upload)).1 with
        | error fault => exact ⟨fault, rfl⟩
        | ok _ => exact ⟨_, by rw [Except.bind, partReply, hsuccess]; rfl⟩
      obtain ⟨fault, hfault⟩ := hfailed
      rw [hfault]
      exact .refused data key number upload contentType ⟨request, [], d⟩ hwritten r hr hsuccess _ _
        hsends _

theorem sent_ask (b : RemoteBucket) (a : Ask) : b.Sent a (ask a b) := by
  cases a with
  | putPart data key number upload contentType => exact sent_sendPart b data key number upload contentType
  | _ => exact sent_send b not_false

theorem exists_after_ask (b : RemoteBucket) (a : Ask) : ∃ ts, (Gateway.ask a b).2 = b.after ts :=
  have ⟨ts, hafter, _⟩ := sent_ask b a
  ⟨ts, hafter⟩

theorem exists_url (b : RemoteBucket) (key : String) : ∃ u : Url, ∀ a query r, b.request? a = some r →
    a.target? = some (key, query) → (∀ q ∈ query, Url.IsPlainQuery q.toList) →
      r.url = query.elim u fun q => u.addQuery q.toList := by
  by_cases h : ∃ u, b.site.objectUrl key [] = .ok u
  · obtain ⟨u, hu⟩ := h
    refine ⟨u, fun a query r hr htarget hplain => ?_⟩
    obtain ⟨u', haddress, rfl, -⟩ := request?_eq_some.mp hr
    rw [address_eq htarget] at haddress
    rw [url_requestFor]
    cases query with
    | none => exact Except.ok.inj (haddress.symm.trans hu)
    | some q =>
      obtain ⟨u₀, hu₀, -, hquery⟩ := Site.objectUrl_query haddress
      obtain rfl := Except.ok.inj (hu.symm.trans hu₀)
      exact Except.ok.inj (haddress.symm.trans (hquery _ (hplain q rfl)))
  · -- without an address of the object nothing is sent to it
    refine ⟨default, fun a query r hr htarget _ => ?_⟩
    obtain ⟨u', haddress, -⟩ := request?_eq_some.mp hr
    rw [address_eq htarget] at haddress
    cases query with
    | none => exact absurd ⟨u', haddress⟩ h
    | some q =>
      obtain ⟨u, hu, -⟩ := Site.objectUrl_query haddress
      exact absurd ⟨u, hu⟩ h

theorem exists_address {u : Url} (h : b.site.objectUrl key "?uploads".toList = .ok u) {query : List Char}
    {q : List Char} (hquery : query = '?' :: q) : ∃ u', b.site.objectUrl key query = .ok u' := by
  have hopens : b.site.objectUrl key ('?' :: "uploads".toList) = .ok u := h
  obtain ⟨-, -, hany, -⟩ := Site.objectUrl_query hopens
  rw [hquery]
  exact hany q

theorem target_of_continues (h : a.Continues key) :
    ∃ query, a.target? = some (key, some query) ∧ ∀ u, (b.requestFor a u).acl = none := by
  cases a with
  | putPart | finish | giveUp =>
    obtain rfl := h
    exact ⟨_, rfl, fun _ => rfl⟩
  | _ => exact h.elim

theorem written_of_initiate {contentType : String} {r : Request}
    (h : b.request? (.initiate key contentType acl) = some r) (ha : a.Continues key) :
    ∃ r', b.request? a = some r' := by
  obtain ⟨u, hu, rfl, hsigns⟩ := request?_eq_some.mp h
  obtain ⟨query, htarget, hacl⟩ := target_of_continues (b := b) ha
  obtain ⟨u', hu'⟩ := exists_address hu (rfl : '?' :: query.toList = _)
  have hnone : b.Signs (b.requestFor a u').acl := by
    rw [hacl]
    exact hsigns.none
  exact ⟨_, request?_eq_some.mpr ⟨u', (address_eq htarget).trans hu', rfl, hnone⟩⟩

/-- **A bucket behind an endpoint is a client** that sends each request once. -/
def wire : Wire RemoteBucket where
  log b := b.endpoint.log.reverse
  request := request?
  retries := 0
  sends a b := by
    obtain ⟨ts, hafter, hsends⟩ := sent_ask b a
    refine ⟨_, ?_, ?_, hsends⟩
    · intro x hx
      obtain ⟨t, -, rfl⟩ := List.mem_map.mp hx
      exact ⟨Nat.le_refl 0, List.forall_mem_nil _⟩
    · have hlog : (Gateway.ask a b).2 = b.after ts := hafter
      simp [hlog, after, Sending.transactions, List.flatMap_map]
  stays a b := by
    obtain ⟨ts, hafter⟩ := exists_after_ask b a
    rw [hafter, request?_after]
  method h := by
    obtain ⟨u, -, rfl, -⟩ := request?_eq_some.mp h
    exact method_requestFor _ u
  body h := by
    obtain ⟨u, -, rfl, -⟩ := request?_eq_some.mp h
    exact body_requestFor _ u
  url := exists_url
  written h _ ha := written_of_initiate h ha

theorem sendsOnce_wire : wire.SendsOnce := rfl

end RemoteBucket

end BlobStore
