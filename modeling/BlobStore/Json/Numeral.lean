import BlobStore.Json.Basic
import BlobStore.Text.Digits

/-!
# Numerals

A numeral as it is spelled, and the number it is taken for. Whole numbers that fit into 64 bits,
with or without sign, are exact. Any other numeral becomes a floating-point number from its
leading digits, as many as fit into 64 bits, and a power of ten; one that is too large is no
number.
-/

namespace BlobStore.Json

/-- The spelling of a number: sign, digits before the point, digits behind it, sign and digits of
the exponent. -/
structure Numeral where
  negative : Bool
  whole : List Char
  fraction : List Char
  exponent : Option (Bool × List Char)
  deriving DecidableEq, Inhabited, Repr

namespace Numeral

def wordLimit : Nat := Nat.pow 2 64

/-- The digits behind `start` as far as the number stays within 64 bits, and the digits left over.
-/
def absorb : (start : Nat) → List Char → Nat × List Char
  | n, [] => (n, [])
  | n, d :: ds =>
    let next := Text.valueFrom 10 n [d]
    if next < wordLimit then absorb next ds else (n, d :: ds)

/-- A power of ten as a floating-point number. -/
def powerOfTen (k : Nat) : Float := .ofScientific 1 false k

/-- `x · 10 ^ e`, or nothing if that is too large. A far negative exponent is taken in steps of
308. -/
def scale : (steps : Nat) → Float → Int → Option Float
  | 0, x, _ => some x
  | steps + 1, x, e =>
    if e.natAbs ≤ 308 then
      if 0 ≤ e then
        let y := x * powerOfTen e.natAbs
        if y.isInf then none else some y
      else some (x / powerOfTen e.natAbs)
    else if x == 0 then some x
    else if 0 ≤ e then none
    else scale steps (x / powerOfTen 308) (e + 308)

/-- The largest exponent that is counted at all. -/
def exponentLimit : Nat := Nat.pow 2 31

/-- The magnitude as a floating-point number. Digits before the point that do not fit move the
point; digits behind it that do not fit are dropped. -/
def magnitude? (n : Numeral) : Option Float :=
  let (m, extra) := absorb 0 n.whole
  let (m, dropped) := absorb m n.fraction
  let e : Int := extra.length - (n.fraction.length - dropped.length)
  let x := (UInt64.ofNat m).toFloat
  match n.exponent with
  | none => scale 8 x e
  | some (negative, ds) =>
    let k := Text.decimalValue ds
    if k < exponentLimit then scale 8 x (if negative then e - k else e + k)
    else if negative ∨ m = 0 then some 0
    else none

/-- The number that the numeral is taken for. -/
def value? (n : Numeral) : Option Json :=
  let m := Text.decimalValue n.whole
  let signed (x : Float) : Float := if n.negative then -x else x
  if n.fraction = [] ∧ n.exponent = none ∧ !n.negative ∧ m < wordLimit then some (.int m)
  else if n.fraction = [] ∧ n.exponent = none ∧ n.negative ∧ 0 < m ∧ m ≤ Nat.pow 2 63 then
    some (.int (-m))
  else n.magnitude?.map fun x => .float (signed x)

end Numeral

end BlobStore.Json
