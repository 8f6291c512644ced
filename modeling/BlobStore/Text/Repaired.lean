/-!
# Text from bytes that may be damaged

Bytes are read as UTF-8. Where they are not well-formed, each longest beginning of a character, or
else the single byte, is shown as one replacement character, and reading goes on behind it.
-/

namespace BlobStore.Text

def replacement : Char := '\ufffd'

/-- A character of which the first bytes were read: its bits so far, how many bytes are still to
come, and between which values the next one has to lie. -/
structure Begun where
  bits : Nat
  missing : Nat
  low : UInt8
  high : UInt8

/-- What a first byte begins: a whole character, a longer one, or nothing. -/
def begin (b : UInt8) : Option (Char ⊕ Begun) :=
  if b < 0x80 then some (.inl (.ofNat b.toNat))
  else if b < 0xc2 then none
  else if b < 0xe0 then some (.inr ⟨b.toNat - 0xc0, 1, 0x80, 0xbf⟩)
  else if b < 0xf0 then
    let low := if b = 0xe0 then 0xa0 else 0x80
    some (.inr ⟨b.toNat - 0xe0, 2, low, if b = 0xed then 0x9f else 0xbf⟩)
  else if b < 0xf5 then
    let low := if b = 0xf0 then 0x90 else 0x80
    some (.inr ⟨b.toNat - 0xf0, 3, low, if b = 0xf4 then 0x8f else 0xbf⟩)
  else none

/-- What was read before the bytes that follow: characters, and perhaps one that is begun. -/
def repairFrom : Option Begun → List UInt8 → List Char
  | none, [] => []
  | some _, [] => [replacement]
  | begun, b :: rest =>
    let fresh (_ : Unit) : List Char :=
      match begin b with
      | some (.inl c) => c :: repairFrom none rest
      | some (.inr begun) => repairFrom (some begun) rest
      | none => replacement :: repairFrom none rest
    match begun with
    | none => fresh ()
    | some begun =>
      if begun.low ≤ b ∧ b ≤ begun.high then
        let bits := begun.bits * 64 + (b.toNat - 0x80)
        if begun.missing = 1 then .ofNat bits :: repairFrom none rest
        else repairFrom (some ⟨bits, begun.missing - 1, 0x80, 0xbf⟩) rest
      else replacement :: fresh ()

/-- The text of some bytes, damaged places replaced. -/
def repaired (data : ByteArray) : String := .ofList (repairFrom none data.toList)

end BlobStore.Text
