import BlobStore.Url.Address
import BlobStore.Url.Domain.Basic
import BlobStore.Url.Percent

/-!
# Hosts

A host of a web address is a domain name or an internet address; any other address
keeps its host as it is written. Both may be an address of eight groups in brackets.
-/

namespace BlobStore.Url

/-- The text between brackets, if the text is one. -/
def bracketed? (text : List Char) : Option (Except Fault (List Char)) :=
  match text with
  | '[' :: rest =>
    some <| if text.getLast? = some ']' then (parseGroups rest.dropLast).map groupsText
      else .error .badGroups
  | _ => none

/-- The host of an address that is not a web address. -/
def plainHost (text : List Char) : Except Fault (List Char) :=
  match bracketed? text with
  | some host => host
  | none => if text.any isHostBreaker then .error .badHostCharacter else .ok (encode inHost text)

/-- The domain name that the bytes of a host spell. -/
def domain (bytes : List UInt8) : Except Fault (List Char) :=
  match (String.fromUTF8? ⟨bytes.toArray⟩).bind fun text => Domain.written? text.toList with
  | some name => .ok name
  | none => .error .badDomain

/-- The host of a web address. -/
def webHost (text : List Char) : Except Fault (List Char) :=
  match bracketed? text with
  | some host => host
  | none => do
    let name ← domain (decode text)
    if name = [] then throw .emptyHost
    if endsInNumber name then return dottedText (← parseDotted name)
    return name

end BlobStore.Url
