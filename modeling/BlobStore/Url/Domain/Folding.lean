import BlobStore.Text.Unprintable
import BlobStore.Url.Domain.Forms
import BlobStore.Url.Domain.Letters

/-!
# Folding of domain names

Domain names that look or read alike are one name. So each character is folded: a capital letter to
a small one, another form of a letter to the plain one, a character without a picture to nothing.
Characters that could be taken for something else are refused. The rules are those of Unicode
Technical Standard 46 (version 18) without the transitional ones.
-/

namespace BlobStore.Url.Domain

/-- Left out of a name. -/
def dropped : Text.Ranges :=
  [(0xad, 0xad), (0x34f, 0x34f), (0x115f, 0x1160), (0x17b4, 0x17b5), (0x180b, 0x180f),
   (0x200b, 0x200b), (0x2060, 0x2064), (0x206a, 0x206f), (0x3164, 0x3164), (0xfe00, 0xfe0f),
   (0xfeff, 0xfeff), (0xffa0, 0xffa0), (0x1bca0, 0x1bca3), (0x1d173, 0x1d17a), (0xe0100, 0xe01ef)]

/-- Refused though they have a picture: signs that stand for a full stop with something else, signs
that tell how an ideograph is put together, and a few that mean nothing. -/
def refused : Text.Ranges :=
  [(0x2024, 0x2026), (0x2488, 0x249b), (0x2ff0, 0x2fff), (0x31ef, 0x31ef), (0x33c2, 0x33c2),
   (0x33c7, 0x33c7), (0x33d8, 0x33d8), (0xfe12, 0xfe12), (0xfe19, 0xfe19), (0xfe30, 0xfe30),
   (0xfe52, 0xfe52), (0xfffc, 0xfffd), (0x1f100, 0x1f100)]

/-- Taken as they are, though they are not shown by themselves yet: what version 18 has added. -/
def recent : Text.Ranges :=
  [(0x5c8, 0x5c8), (0xb53, 0xb54), (0x1ade, 0x1adf), (0x1aec, 0x1af0), (0x20c2, 0x20c4),
   (0x2e60, 0x2e63), (0x10ed9, 0x10eee), (0x10ef0, 0x10ef9), (0x11b0a, 0x11b0a), (0x11df0, 0x11df1),
   (0x1246f, 0x1246f), (0x12550, 0x12686), (0x18cd6, 0x18cda), (0x18d1f, 0x18d20),
   (0x18e00, 0x191d2), (0x1b124, 0x1b128), (0x1b168, 0x1b168), (0x1ced2, 0x1ced4),
   (0x1cedd, 0x1cedf), (0x1cef1, 0x1cefd), (0x1d127, 0x1d128), (0x1d1eb, 0x1d1ff),
   (0x1d250, 0x1d281), (0x1db00, 0x1db1c), (0x1df1f, 0x1df24), (0x1df2b, 0x1df96),
   (0x1f6d9, 0x1f6d9), (0x1f7da, 0x1f7db), (0x1f7f1, 0x1f7f1), (0x1fa8b, 0x1fa8d),
   (0x1facc, 0x1facc), (0x1fadd, 0x1fadd), (0x1faeb, 0x1faeb), (0x1faf9, 0x1fafa),
   (0x3d000, 0x3fc3f)]

/-- The joiners have no picture, but the letters beside them change theirs. -/
def isJoiner (c : Char) : Bool := c = '\u200c' || c = '\u200d'

/-- What a character outside ASCII is folded to, if the tables say so. -/
def folded? (c : Char) : Option (List Char) :=
  let n := c.toNat
  let entry := if n < 0xf900 then letters.find? n else forms.find? n
  entry.map fun e => e.values.map fun value => .ofNat (value + (n - e.first))

/-- No name holds a character that leaves no mark, and none that is refused for another reason. -/
def isRefused (c : Char) : Bool :=
  refused.contains c || (Text.isUnprintable c && !isJoiner c && !recent.contains c)

/-- What a character is folded to; nothing if no name may hold it. -/
def foldCharacter (c : Char) : Option (List Char) :=
  if c.toNat < 128 then some [c.toLower]
  else if dropped.contains c then some []
  else match folded? c with
    | some plain => some plain
    | none => if isRefused c then none else some [c]

end BlobStore.Url.Domain
