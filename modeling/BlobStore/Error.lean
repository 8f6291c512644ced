import BlobStore.Span
import BlobStore.Text.Quoted

/-!
# Errors

Why an operation of a store failed, and the one place where each cause gets its wording.
-/

namespace BlobStore

/-- What is wrong with a configuration. -/
inductive ConfigFault where
  | bucketMissing
  | unknownScheme (scheme : String)
  | notBoolean (variableName text : String)
  | other (text : String)
  deriving DecidableEq, Inhabited, Repr

def ConfigFault.message : ConfigFault → String
  | .bucketMissing => "bucket is required"
  | .unknownScheme scheme => "unsupported endpoint scheme: " ++ scheme
  | .notBoolean name text => name ++ " is not a boolean: " ++ text
  | .other text => text

/-- Why an operation of a store failed. -/
inductive StoreError where
  /-- There is no object to download. -/
  | notFound (key : String)
  /-- The endpoint could not be talked to. -/
  | transport (during cause : String)
  /-- The endpoint answered, and refused. -/
  | http (during : String) (status : Nat) (body : String)
  /-- The readiness check failed. -/
  | unreachable (bucket cause : String)
  /-- No link could be signed. -/
  | signing (key cause : String)
  /-- A link cannot last that long, or no time at all. -/
  | badExpiry (span : Span)
  /-- The key names no object. -/
  | badKey (key : String)
  /-- The source of an upload failed. -/
  | source (cause : String)
  | config (fault : ConfigFault)
  deriving DecidableEq, Inhabited, Repr

namespace StoreError

def message : StoreError → String
  | notFound key => "object not found: " ++ key
  | transport during cause => during ++ " failed: " ++ cause
  | http during status body =>
    during ++ " failed with HTTP " ++ Text.decimal status ++ ": " ++ body
  | unreachable bucket cause => "bucket " ++ bucket ++ " is not reachable: " ++ cause
  | signing key cause => "failed to presign " ++ key ++ ": " ++ cause
  | badExpiry span => "invalid link expiry " ++ span.text ++ ", expected 1s..=7d"
  | badKey key => "invalid object key " ++ Text.quote key
  | source cause => "failed to read upload source: " ++ cause
  | config fault => "invalid store configuration: " ++ fault.message

def isNotFound : StoreError → Bool
  | notFound _ => true
  | _ => false

/-- The text of what lies behind the error, where it was passed on from elsewhere. -/
def cause? : StoreError → Option String
  | transport _ cause | unreachable _ cause | signing _ cause | source cause => some cause
  | _ => none

end StoreError

end BlobStore
