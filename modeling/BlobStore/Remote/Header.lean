import BlobStore.Remote.Fault

/-!
# Values of headers

What a text has to be so that it can stand in the header of a request, and what more is asked of it
if the request is signed.
-/

namespace BlobStore.Header

/-- A value is one line: a tab is the only control character in it. -/
def isValue (text : List Char) : Bool := text.all fun c => c = '\t' || 32 ≤ c.toNat && c.toNat ≠ 127

/-- Only values in ASCII can be signed. -/
def isSignable (text : List Char) : Bool := isValue text && text.all (·.toNat < 128)

/-- Refuses a text that is no value. -/
def checkValue (text : List Char) : Except ClientFault Unit :=
  if isValue text then .ok () else .error .badHeader

/-- Refuses a value that cannot be signed. -/
def checkSignable (text : List Char) : Except ClientFault Unit :=
  if isSignable text then .ok () else .error .foreignHeader

end BlobStore.Header
