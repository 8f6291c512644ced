import BlobStore.Remote.Header
import BlobStore.Remote.Site

/-!
# Signed links

A link to an object of a remote bucket, which anyone can use for a while. The query of the link says
who signed it, when, and for how long it holds; a signature over all this comes last. The moment and
the signature are given with a `Stamp`.
-/

namespace BlobStore

/-- The day and the moment of a signature, and the signature. -/
structure Stamp where
  day : String
  moment : String
  signature : String
  deriving DecidableEq, Inhabited, Repr

namespace Site

/-- The longest time for which a link can be signed, in seconds. -/
def maxLinkSecs : Nat := 604800

/-- What is signed with: the key, and the day and the place where it counts. -/
def credential (s : Site) (keys : AccessKeys) (stamp : Stamp) : String :=
  keys.access ++ "/" ++ stamp.day ++ "/" ++ s.region ++ "/s3/aws4_request"

/-- The query of a link, without the signature. -/
def linkQuery (s : Site) (keys : AccessKeys) (stamp : Stamp) (secs : Nat) : List Char :=
  let value (text : String) : List Char := Url.encode Url.inSignedQuery text.toList
  "?X-Amz-Algorithm=AWS4-HMAC-SHA256&X-Amz-Credential=".toList ++ value (s.credential keys stamp) ++
    "&X-Amz-Date=".toList ++ stamp.moment.toList ++
    "&X-Amz-Expires=".toList ++ Text.digits 10 secs ++
    "&X-Amz-SignedHeaders=host".toList ++
    match keys.token with
    | some token => "&X-Amz-Security-Token=".toList ++ value token
    | none => []

/-- The text holds the part. -/
def mentions (part : List Char) : List Char → Bool
  | [] => part.isEmpty
  | c :: rest => part.isPrefixOf (c :: rest) || mentions part rest

/-- The endpoint names the usual port of its scheme, which an address leaves out. -/
def namesUsualPort (s : Site) : Bool :=
  match s.scheme.port? with
  | some port => mentions (':' :: Text.digits 10 port) s.host
  | none => false

/-- The text of a link. An endpoint that names the usual port keeps it. -/
def linkText (s : Site) (u : Url) : List Char :=
  if s.namesUsualPort && u.port.isNone then
    u.scheme.name.toList ++ "://".toList ++ s.fullHost ++ u.target
  else u.text

/-- The link to an object that holds for the given seconds. Of what is signed only the host is not
written with escapes. -/
def link (s : Site) (stamp : Stamp) (key : String) (secs : Nat) : Except ClientFault String := do
  if maxLinkSecs < secs then throw (.longExpiry secs)
  let keys ← match s.keys with
    | some keys => pure keys
    | none => throw .noKeys
  let object ← (s.objectUrl key []).mapError .badAddress
  let behindScheme := object.text.drop (s.scheme.name.length + 3)
  let u ← (Url.parse s.scheme (behindScheme ++ s.linkQuery keys stamp secs)).mapError .badAddress
  Header.checkValue s.fullHost
  Header.checkSignable s.fullHost
  return .ofList (s.linkText u ++ "&X-Amz-Signature=".toList ++ stamp.signature.toList)

end Site

end BlobStore
