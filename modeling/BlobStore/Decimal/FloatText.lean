import BlobStore.Decimal.Shortest

/-!
# Floating-point numbers as text

A number is written with the fewest digits that read back. Numbers from `0.00001` up to below
`10 ^ 16` are written positionally and always with a point; all others have one digit before the
point and an exponent with its sign.
-/

namespace BlobStore.Decimal

/-- The parts of a finite number: its sign bit, and its magnitude as a binary number. -/
def ofFloat (x : Float) : Bool × Binary :=
  let bits := x.toBits.toNat
  let exponent : Nat := bits / Nat.pow 2 52 % Nat.pow 2 11
  let fraction : Nat := bits % Nat.pow 2 52
  (Nat.pow 2 63 ≤ bits,
    if exponent = 0 then ⟨fraction, -1074, false⟩
    else ⟨fraction + Nat.pow 2 52, (exponent : Int) - 1075, fraction = 0 && exponent ≠ 1⟩)

/-- Digits `ds` of which the first stands for `10 ^ e`, with a point. -/
def positional (ds : List Char) (e : Int) : List Char :=
  if e < 0 then '0' :: '.' :: (List.replicate (-e - 1).toNat '0' ++ ds)
  else
    let whole := e.toNat + 1
    let fraction := ds.drop whole
    ds.take whole ++ List.replicate (whole - ds.length) '0' ++ '.' ::
      if fraction = [] then ['0'] else fraction

/-- Digits of which the first stands for `10 ^ e`, with an exponent. -/
def scientific (ds : List Char) (e : Int) : List Char :=
  let point := if ds.length = 1 then [] else '.' :: ds.drop 1
  ds.take 1 ++ point ++ 'e' :: (if e < 0 then '-' else '+') :: Text.digits 10 e.natAbs

/-- The text of a finite number. -/
def floatText (x : Float) : List Char :=
  let (negative, b) := ofFloat x
  let sign := if negative then ['-'] else []
  if b.m = 0 then sign ++ "0.0".toList
  else
    let d := shortest b
    let all := Text.digits 10 d.digits
    let e := all.length - 1 + d.scale
    let ds := (all.reverse.dropWhile (· = '0')).reverse
    sign ++ if -5 ≤ e ∧ e < 16 then positional ds e else scientific ds e

end BlobStore.Decimal
