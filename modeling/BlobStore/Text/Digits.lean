/-!
# Numbers in digits

The digits of a number in a base, most significant first and without leading zeros; zero is `0`.
-/

namespace BlobStore.Text

/-- The digits of `n` to a base, as characters `0` to `9` and `a` to `z`. -/
def digits (base n : Nat) : List Char := Nat.toDigits base n

def decimal (n : Nat) : String := .ofList (digits 10 n)

/-- The digits of `n` padded with zeros on the left to at least the given width. -/
def padded (base width n : Nat) : List Char :=
  let ds := digits base n
  List.replicate (width - ds.length) '0' ++ ds

/-- The value of a character as a digit of the base, if it is one. -/
def digitValue? (base : Nat) (c : Char) : Option Nat :=
  let v :=
    if '0' ≤ c ∧ c ≤ '9' then c.toNat - '0'.toNat
    else if 'a' ≤ c ∧ c ≤ 'z' then c.toNat - 'a'.toNat + 10
    else if 'A' ≤ c ∧ c ≤ 'Z' then c.toNat - 'A'.toNat + 10
    else base
  if v < base then some v else none

def isDecimalDigit (c : Char) : Bool := '0' ≤ c && c ≤ '9'

/-- The number that the characters spell in the base, counting on from `start`. -/
def valueFrom (base : Nat) (start : Nat) (ds : List Char) : Nat :=
  ds.foldl (fun n c => n * base + (digitValue? base c).getD 0) start

/-- The number that decimal digits spell. -/
def decimalValue (ds : List Char) : Nat := valueFrom 10 0 ds

end BlobStore.Text
