import BlobStore.Text.Normal
import BlobStore.Text.Pieces
import BlobStore.Url.Domain.Direction
import BlobStore.Url.Domain.Joining
import BlobStore.Url.Punycode

/-!
# Domain names

The labels of a domain name are parted by full stops. A name is folded and brought to normal form,
and then written in ASCII: a label that has other characters is coded and marked as coded. A label
that comes coded has to stand for one that would be coded like this.
-/

namespace BlobStore.Url

/-- Characters that a host of any kind of address refuses. -/
def isHostBreaker (c : Char) : Bool :=
  c.toNat = 0 || "\t\n\r #/:<>?@[\\]^|".toList.contains c

/-- Characters that a domain name refuses. -/
def isDomainBreaker (c : Char) : Bool :=
  isHostBreaker c || c = '%' || c.toNat < 32 || c.toNat = 127

namespace Domain

/-- The mark of a coded label. -/
def codeMark : List Char := "xn--".toList

/-- More characters are not coded, and more digits not decoded. -/
def maxCoded : Nat := 1000

def maxDigits : Nat := 2000

def isAscii (text : List Char) : Bool := text.all (·.toNat < 128)

/-- A label as it is meant, and as it is written in ASCII. -/
structure Label where
  meant : List Char
  written : List Char
  deriving DecidableEq, Inhabited, Repr

namespace Label

/-- What is asked of a label, however it is written. -/
def isSound (meant : List Char) : Bool :=
  !meant.any isDomainBreaker && !meant.head?.any Text.isMark && joinersHavePlace [] meant &&
    (isAscii meant || meant.length ≤ maxCoded)

/-- Folding and normal form leave the text as it is. -/
def isSettled (meant : List Char) : Bool :=
  meant.all (fun c => foldCharacter c = some [c]) && Text.normal meant = meant

/-- The label that is coded by some digits. -/
def decode? (code : List Char) : Option Label := do
  if !isAscii code || code.getLast?.all (· = '-') || maxDigits < code.length then none
  let meant ← depunycode? code
  if isSettled meant && !meant.contains '.' && isSound meant then
    some ⟨meant, codeMark ++ code⟩
  else none

/-- Reads a label that is folded and in normal form. -/
def read? (text : List Char) : Option Label :=
  if codeMark.isPrefixOf text then decode? (text.drop codeMark.length)
  else if !isSound text then none
  else some ⟨text, if isAscii text then text else codeMark ++ punycode text⟩

end Label

/-- The labels of a domain name. If one of them is written to the left, all have to keep together.
-/
def labels? (text : List Char) : Option (List Label) := do
  let folded ← text.mapM foldCharacter
  let labels ← (Text.pieces '.' (Text.normal folded.flatten)).mapM Label.read?
  if labels.any (·.meant.any isLeftward) && !labels.all (keepsTogether ·.meant) then none
  return labels

/-- A domain name in ASCII. -/
def written? (text : List Char) : Option (List Char) :=
  (labels? text).map fun labels => ['.'].intercalate (labels.map (·.written))

end Domain

end BlobStore.Url
