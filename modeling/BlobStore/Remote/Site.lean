import BlobStore.Settings.S3
import BlobStore.Url.Basic

/-!
# Where a remote bucket is

The addresses of a bucket behind an endpoint and of the objects in it. The bucket is named either by
the first name of the path or by the host. In the path of an object only the characters that every
address may hold stand for themselves, so that no key is mistaken for a query or another path.
-/

namespace BlobStore

/-- What requests are signed with. -/
structure AccessKeys where
  access : String
  secret : String
  token : Option String
  deriving DecidableEq, Inhabited, Repr

structure Site where
  scheme : Scheme
  /-- What stands behind the scheme of the endpoint. -/
  host : List Char
  bucket : String
  region : String
  pathStyle : Bool
  keys : Option AccessKeys
  deriving DecidableEq, Inhabited, Repr

namespace Site

/-- Scheme and host of an endpoint; without a scheme it is a secure one. -/
def splitEndpoint (url : List Char) : Scheme × List Char :=
  match S3Settings.splitScheme url with
  | some (scheme, rest) => (if scheme = "http".toList then .http else .https, rest)
  | none => (.https, url)

/-- The keys of settings; if they name none, requests are not signed. -/
def keysOf (s : S3Settings) : Option AccessKeys :=
  if s.accessKey = "" ∧ s.secretKey = "" then none
  else some ⟨s.accessKey, s.secretKey, if s.sessionToken = "" then none else some s.sessionToken⟩

/-- The site that settings describe, if they make sense. -/
def ofSettings (s : S3Settings) : Except ConfigFault Site := do
  s.check
  let (scheme, host) := splitEndpoint s.endpointUrl.toList
  return ⟨scheme, host, s.bucket, s.region, s.pathStyle, keysOf s⟩

/-- The host that requests are sent to, with whatever stands behind it. -/
def fullHost (s : Site) : List Char :=
  if s.pathStyle then s.host else s.bucket.toList ++ '.' :: s.host

/-- What stands behind the scheme in the address of the bucket. -/
def base (s : Site) : List Char :=
  s.fullHost ++ if s.pathStyle then '/' :: s.bucket.toList else []

/-- A key as a path: one slash in front of it is not part of it. -/
def pathOfKey (key : String) : List Char :=
  let path := match key.toList with
    | '/' :: rest => rest
    | key => key
  '/' :: Url.encode Url.inSignedPath path

/-- The address of an object, with a query as it stands. -/
def objectUrl (s : Site) (key : String) (query : List Char) : Except Url.Fault Url :=
  Url.parse s.scheme (s.base ++ pathOfKey key ++ query)

/-- The address of a page of the keys that start with `stem`. -/
def pageUrl (s : Site) (stem : String) (token : Option String) (max : Nat) :
    Except Url.Fault Url := do
  let u ← s.objectUrl "/" []
  let u := u.addField "prefix".toList stem.toList
  let u := u.addField "list-type".toList ['2']
  let u := match token with
    | some token => u.addField "continuation-token".toList token.toList
    | none => u
  return u.addField "max-keys".toList (Text.digits 10 max)

end Site

end BlobStore
