import BlobStore.Remote.Document
import BlobStore.Remote.Exchange
import BlobStore.Remote.Gateway
import BlobStore.Remote.Link

/-!
# A bucket behind an endpoint

A client that sends one request for what it is asked, once, and reads what it hands back off the
response: the status, a header, or the document in the body. A connection that fails is a fault of
its own. If a part is not taken in, the client gives the upload up by itself.
-/

namespace BlobStore

structure RemoteBucket where
  site : Site
  endpoint : Endpoint
  /-- What links are signed with. -/
  stamp : Stamp

namespace RemoteBucket

def connect (s : S3Settings) (endpoint : Endpoint) (stamp : Stamp) :
    Except ConfigFault RemoteBucket :=
  (Site.ofSettings s).map fun site => ⟨site, endpoint, stamp⟩

/-! ## Requests -/

/-- The query that names an upload. -/
def uploadQuery (upload : String) : List Char := ("?uploadId=" ++ upload).toList

/-- The query that names a part of an upload. -/
def partQuery (upload : String) (number : Nat) : List Char :=
  ("?partNumber=" ++ Text.decimal number ++ "&uploadId=" ++ upload).toList

/-- The address that a request is sent to. -/
def address (b : RemoteBucket) : Ask → Except Url.Fault Url
  | .download key | .put key .. | .remove key => b.site.objectUrl key []
  | .initiate key .. => b.site.objectUrl key "?uploads".toList
  | .putPart _ key number upload _ => b.site.objectUrl key (partQuery upload number)
  | .finish key upload _ | .giveUp key upload => b.site.objectUrl key (uploadQuery upload)
  | .page stem token max => b.site.pageUrl stem token max

/-- The request to an address, signed if there are keys. -/
def request (b : RemoteBucket) (method : Method) (url : Url) (body : ByteArray)
    (contentType acl : Option String) : Request :=
  { method, url, body, contentType, acl
    token := b.site.keys.bind (·.token)
    signer := b.site.keys.map (·.access) }

/-- The request for what is asked. -/
def requestFor (b : RemoteBucket) (a : Ask) (url : Url) : Request :=
  match a with
  | .download _ | .page .. => b.request .get url .empty none none
  | .put _ data contentType acl => b.request .put url data contentType acl
  | .initiate _ contentType acl => b.request .post url .empty contentType acl
  | .putPart data _ _ _ contentType => b.request .put url data contentType none
  | .finish _ _ parts => b.request .post url (Document.completion parts).toUTF8 "application/xml" none
  | .giveUp .. | .remove _ => b.request .delete url .empty "text/plain" none

/-- The request for what is asked, if its headers can be written and, where there are keys, be
signed. Host and token are looked at before the address, and the signature is the last header. -/
def prepare (b : RemoteBucket) (a : Ask) : Except ClientFault Request := do
  Header.checkValue b.site.fullHost
  let token := (b.site.keys.bind (·.token)).getD ""
  Header.checkValue token.toList
  let request := b.requestFor a (← (b.address a).mapError .badAddress)
  if let some keys := b.site.keys then
    Header.checkSignable b.site.fullHost
    Header.checkSignable token.toList
    Header.checkSignable (request.acl.getD "").toList
    Header.checkValue (b.site.credential keys b.stamp).toList
  return request

/-! ## Responses -/

/-- The response that a delivery is. If it is only announced, the connection ends without one. -/
def responseOf : Delivery → Except ClientFault Response
  | .refused => .error .noConnection
  | .dropped => .error .connectionLost
  | .answered r => if r.isInterim then .error .connectionLost else .ok r

/-- The response to a request, if it can be sent and there is one. -/
def exchange (b : RemoteBucket) (a : Ask) : Except ClientFault Response × RemoteBucket :=
  match b.prepare a with
  | .error fault => (.error fault, b)
  | .ok request =>
    let (delivery, endpoint) := b.endpoint.send request
    (responseOf delivery, { b with endpoint })

/-- The body of a response, if all of it has come. -/
def wholeBody (r : Response) : Except ClientFault ByteArray :=
  if r.isCut then .error .connectionLost else .ok r.content

/-- The failure that a response shows; `body` is what stands for its body. -/
def failure (r : Response) (body : ByteArray) : ClientFault :=
  match String.fromUTF8? body with
  | some content => .failed r.status content
  | none => .badText

/-- The mark in the header of a response, which stands for its body where something was written. -/
def mark (r : Response) : String := r.etag.getD ""

/-- What a download gives: the body as it comes, which may be cut. -/
def bodySource (r : Response) : Source :=
  ⟨[r.content], none, if r.isCut then .failing ClientFault.connectionLost.message else .finished⟩

def createReply (r : Response) : Except ClientFault String := do
  let body ← wholeBody r
  if 300 ≤ r.status then throw (failure r body)
  match Document.uploadId? body with
  | some id => return id
  | none => throw .badDocument

def partReply (number : Nat) (r : Response) : Except ClientFault CompletedPart :=
  if r.isSuccess then .ok ⟨number, mark r⟩ else .error (failure r (mark r).toUTF8)

def abortReply (r : Response) : Except ClientFault Unit := do
  let body ← wholeBody r
  if !r.isSuccess then throw (failure r body)

/-- The page in a response, whatever its status. -/
def pageReply (r : Response) : Except ClientFault (Page × Nat) := do
  let body ← wholeBody r
  match Document.page? body with
  | some page => return (page, r.status)
  | none => throw .badDocument

/-- What is handed back for a response. -/
def read (r : Response) : (a : Ask) → Except ClientFault a.Answer
  | .download _ => .ok (r.status, bodySource r)
  | .put .. => .ok (r.status, (mark r).toUTF8)
  | .initiate .. => createReply r
  | .putPart _ _ number _ _ => partReply number r
  | .finish .. => (wholeBody r).map (r.status, ·)
  | .giveUp .. => abortReply r
  | .remove .. => (wholeBody r).map (r.status, ·)
  | .page .. => pageReply r

/-- Asks by one request. -/
def send (a : Ask) (b : RemoteBucket) : Except ClientFault a.Answer × RemoteBucket :=
  let (r, b) := b.exchange a
  (r.bind (read · a), b)

/-- Sends a part. If it is not taken in the upload is given up first, and if that fails too, this is
the failure that counts. -/
def sendPart (data : ByteArray) (key : String) (number : Nat) (upload contentType : String)
    (b : RemoteBucket) : Except ClientFault CompletedPart × RemoteBucket :=
  let (r, b) := b.exchange (.putPart data key number upload contentType)
  match r with
  | .error fault => (.error fault, b)
  | .ok r =>
    if r.isSuccess then (partReply number r, b)
    else
      let (gaveUp, b) := b.send (.giveUp key upload)
      (gaveUp.bind fun _ => partReply number r, b)

def ask : (a : Ask) → RemoteBucket → Except ClientFault a.Answer × RemoteBucket
  | .putPart data key number upload contentType, b => b.sendPart data key number upload contentType
  | a, b => b.send a

instance : Gateway RemoteBucket where
  bucket b := b.site.bucket
  ask a b := let (reply, b) := b.ask a; (reply.mapError ClientFault.message, b)
  presign _ key secs b := (b.site.link b.stamp key secs).mapError ClientFault.message

end RemoteBucket

end BlobStore
