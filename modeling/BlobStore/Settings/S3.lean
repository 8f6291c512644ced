import BlobStore.Error
import BlobStore.Json.Record
import BlobStore.Text.Blank

/-!
# Settings of a remote store

Where the bucket is, how to get in, and under which scope and access rule to write. Settings that
`check` lets pass say which bucket is meant, and whether to speak to it in the clear or not.
-/

namespace BlobStore

structure S3Settings where
  bucket : String
  scope : String
  /-- Address of the endpoint; if it is empty, the region has one. -/
  endpoint : String
  region : String
  accessKey : String
  secretKey : String
  sessionToken : String
  acl : String
  /-- The bucket is the first name of the path, and no part of the host. -/
  pathStyle : Bool
  deriving DecidableEq, Inhabited, Repr

namespace S3Settings

def defaultRegion : String := "us-east-1"

/-- Settings in which everything that can be left out is left out. -/
def ofBucket (bucket : String) : S3Settings :=
  ⟨bucket, "", "", defaultRegion, "", "", "", "", false⟩

/-! ## The address of the endpoint -/

/-- The text before the first `://` and the text behind it. -/
def splitScheme : List Char → Option (List Char × List Char)
  | ':' :: '/' :: '/' :: rest => some ([], rest)
  | c :: rest => (splitScheme rest).map fun (scheme, rest) => (c :: scheme, rest)
  | [] => none

/-- The address to which requests go. -/
def endpointUrl (s : S3Settings) : String :=
  if s.endpoint = "" then "https://s3." ++ s.region ++ ".amazonaws.com"
  else
    let bare := Text.trimEnd (· = '/') s.endpoint.toList
    .ofList <|
      if (splitScheme s.endpoint.toList).isSome then bare else "http://".toList ++ bare

/-- The schemes that an endpoint may have. -/
def schemes : List (List Char) := ["http".toList, "https".toList]

/-- The settings make sense: there is a bucket, and the scheme of the endpoint is known. -/
def check (s : S3Settings) : Except ConfigFault Unit :=
  if Text.trim s.bucket.toList = [] then .error .bucketMissing
  else
    match splitScheme s.endpoint.toList with
    | some (scheme, _) =>
      if scheme ∈ schemes then .ok () else .error (.unknownScheme (.ofList scheme))
    | none => .ok ()

/-! ## Reading -/

/-- The parts of the settings, in the order in which an array lists them. -/
def parts : List (Json.Part S3Settings) :=
  [(Json.Part.ofText "bucket" fun v s => { s with bucket := v }).require,
   .ofText "prefix" fun v s => { s with scope := v },
   .ofText "endpoint" fun v s => { s with endpoint := v },
   .ofText "region" fun v s => { s with region := v },
   .ofText "access_key_id" fun v s => { s with accessKey := v },
   .ofText "secret_access_key" fun v s => { s with secretKey := v },
   .ofText "session_token" fun v s => { s with sessionToken := v },
   .ofText "acl" fun v s => { s with acl := v },
   .ofFlag "force_path_style" fun v s => { s with pathStyle := v }]

def ofJson : Json → Except Json.Mismatch S3Settings :=
  Json.readRecord "S3Config" parts (ofBucket "")

end S3Settings

end BlobStore
