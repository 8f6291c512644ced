import BlobStore.Text.Digits
import BlobStore.Url.Fault

/-!
# Faults of a client

Why a client of an endpoint has nothing to show for a request.
-/

namespace BlobStore

inductive ClientFault where
  | noConnection
  /-- The connection was closed before the whole response had come. -/
  | connectionLost
  | badAddress (fault : Url.Fault)
  /-- A text that no header can hold. -/
  | badHeader
  /-- A header outside ASCII, which cannot be signed. -/
  | foreignHeader
  /-- The body is not the document that was expected. -/
  | badDocument
  | badText
  | failed (status : Nat) (content : String)
  | longExpiry (secs : Nat)
  | noKeys
  deriving DecidableEq, Inhabited, Repr

def ClientFault.message : ClientFault → String
  | noConnection => "io: connection refused"
  | connectionLost => "io: connection closed"
  | badAddress fault => "url parse: " ++ fault.message
  | badHeader => "invalid header value: failed to parse header value"
  | foreignHeader => "reqwest: failed to convert header to a str"
  | badDocument => "io: unexpected document"
  | badText => "io: the body is no text"
  | failed status content =>
    "Got HTTP " ++ Text.decimal status ++ " with content '" ++ content ++ "'"
  | longExpiry secs =>
    "Max expiration for presigned URLs is one week, or 604.800 seconds, got " ++
      Text.decimal secs ++ " instead"
  | noKeys => "no access key to sign with"

end BlobStore
