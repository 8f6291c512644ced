import BlobStore.Bucket.Call
import BlobStore.Remote.Xml

/-!
# Documents of an endpoint

What an endpoint says when an upload is opened and when keys are listed, and what it is told when an
upload is to be completed.
-/

namespace BlobStore.Document

/-- The id of an upload that was opened. -/
def uploadId? (data : ByteArray) : Option String := do
  let root ← Xml.parse? (← String.fromUTF8? data)
  let _ ← root.field? "Bucket"
  let _ ← root.field? "Key"
  root.field? "UploadId"

/-- A number that fits into 64 bits. -/
def isSize (text : String) : Bool :=
  let ds := text.toList
  ds ≠ [] && ds.all Text.isDecimalDigit && Text.decimalValue ds < Nat.pow 2 64

/-- The key of an entry in a page; an entry says more, which has to make sense too. -/
def entryKey? (entry : Xml) : Option String := do
  let key ← entry.field? "Key"
  let _ ← entry.field? "LastModified"
  let size ← entry.field? "Size"
  if isSize size then return key else none

def flag? (text : String) : Option Bool :=
  if text = "true" then some true else if text = "false" then some false else none

/-- A page of keys; a page that does not say whether it is cut short is not. -/
def page? (data : ByteArray) : Option Page := do
  let root ← Xml.parse? (← String.fromUTF8? data)
  let _ ← root.field? "Name"
  let keys ← (root.childrenNamed "Contents").mapM entryKey?
  let truncated ← match root.childrenNamed "IsTruncated" with
    | [] => some false
    | [child] => flag? child.content
    | _ => none
  return ⟨keys, truncated, root.field? "NextContinuationToken"⟩

/-- What completes an upload: its parts in turn, each with its mark as it was given. -/
def completion (parts : List CompletedPart) : String :=
  let one (part : CompletedPart) : String :=
    "<Part><PartNumber>" ++ Text.decimal part.number ++ "</PartNumber><ETag>" ++ part.etag ++
      "</ETag></Part>"
  "<CompleteMultipartUpload>" ++ String.join (parts.map one) ++ "</CompleteMultipartUpload>"

end BlobStore.Document
