import BlobStore.Url.Basic

/-!
# Requests and responses

An endpoint gets one request after another and delivers something for each: a response, or no more
than a closed connection, or not even that. What it will deliver is given beforehand, as a sequence
without end; the requests that came in are kept with what was delivered for them.
-/

namespace BlobStore

inductive Method where
  | get
  | put
  | post
  | delete
  deriving DecidableEq, Inhabited, Repr

def Method.name : Method → String
  | get => "GET"
  | put => "PUT"
  | post => "POST"
  | delete => "DELETE"

structure Request where
  method : Method
  url : Url
  body : ByteArray
  contentType : Option String
  /-- The access rule for the object that is written. -/
  acl : Option String
  /-- The session token that goes with the signature. -/
  token : Option String
  /-- The access key that signed the request. -/
  signer : Option String
  deriving Inhabited

structure Response where
  status : Nat
  /-- The bytes that come, and how many more were announced. -/
  body : ByteArray
  missing : Nat
  etag : Option String
  deriving Inhabited

namespace Response

/-- A request was successful if the status says so. -/
def isSuccess (r : Response) : Bool := 200 ≤ r.status && r.status < 300

/-- An announcement that a response is yet to come; a client passes over it. -/
def isInterim (r : Response) : Bool := r.status < 200 && r.status ≠ 101

/-- Some responses never have a body. -/
def isBare (r : Response) : Bool := r.status = 101 || r.status = 204 || r.status = 304

/-- The bytes that come. -/
def content (r : Response) : ByteArray := if r.isBare then .empty else r.body

/-- The body ends before all of it has come. -/
def isCut (r : Response) : Bool := !r.isBare && 0 < r.missing

end Response

/-- What comes of a request. -/
inductive Delivery where
  /-- There is no connection; the request is never seen. -/
  | refused
  /-- The connection is closed without a response. -/
  | dropped
  | answered (response : Response)
  deriving Inhabited

structure Endpoint where
  /-- What the request with the given number gets, counted from zero. -/
  deliver : Nat → Delivery
  /-- Each request with what it got, the latest first. -/
  log : List (Request × Delivery)

namespace Endpoint

/-- An endpoint that was not asked anything yet. -/
def start (deliver : Nat → Delivery) : Endpoint := ⟨deliver, []⟩

/-- Nobody listens. -/
def closed : Endpoint := start fun _ => .refused

def unexpected : Response := ⟨500, "unexpected request".toUTF8, 0, none⟩

/-- An endpoint that delivers the list in turn, and then says that it expects no more. -/
def ofList (deliveries : List Delivery) : Endpoint :=
  start fun n => deliveries[n]?.getD (.answered unexpected)

def send (e : Endpoint) (request : Request) : Delivery × Endpoint :=
  let delivery := e.deliver e.log.length
  (delivery, { e with log := (request, delivery) :: e.log })

/-- The requests that were seen, in order. -/
def received (e : Endpoint) : List Request :=
  e.log.reverse.filterMap fun (request, delivery) =>
    match delivery with
    | .refused => none
    | _ => some request

end Endpoint

end BlobStore
