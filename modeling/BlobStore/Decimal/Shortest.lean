import BlobStore.Text.Digits

/-!
# The shortest decimal of a binary number

A binary number `m · 2 ^ q` stands for all reals that round to it. Its shortest decimal is the one
with the fewest digits among them, and of those the one nearest to the number. The search goes
through one, two, three digits and so on; with a given number of digits only the two neighbours of
the number on that decimal grid can be hit.
-/

namespace BlobStore.Decimal

/-- A binary number, whether the binary numbers below it lie twice as close as those above. -/
structure Binary where
  m : Nat
  q : Int
  closeBelow : Bool

/-- A decimal `digits · 10 ^ scale`. -/
structure Scaled where
  digits : Nat
  scale : Int
  deriving DecidableEq, Inhabited, Repr

/-- `2 ^ e` or `10 ^ e` as a factor of a numerator: one if the exponent is negative. -/
def up (base : Nat) (e : Int) : Nat := base.pow e.toNat

/-- Whether `c · 10 ^ p` is less than `x · 2 ^ (q - 2)`. -/
def lessThan (c : Nat) (p : Int) (x : Nat) (q : Int) : Bool :=
  c * up 10 p * up 2 (2 - q) < x * up 2 (q - 2) * up 10 (-p)

/-- The same the other way round. -/
def greaterThan (c : Nat) (p : Int) (x : Nat) (q : Int) : Bool :=
  x * up 2 (q - 2) * up 10 (-p) < c * up 10 p * up 2 (2 - q)

/-- Whether the decimal `c · 10 ^ p` rounds to the number: an end of the interval does if `m` is
even. -/
def roundsTo (b : Binary) (c : Nat) (p : Int) : Bool :=
  let low := 4 * b.m - if b.closeBelow then 1 else 2
  let high := 4 * b.m + 2
  if b.m % 2 = 0 then !lessThan c p low b.q && !greaterThan c p high b.q
  else greaterThan c p low b.q && lessThan c p high b.q

/-- The exponent of ten of the first digit. -/
def leading (b : Binary) : Int :=
  let n := b.m * up 2 b.q * Nat.pow 10 350 / up 2 (-b.q)
  (Text.digits 10 n).length - 351

/-- The largest multiple of `10 ^ p` that is not above the number. -/
def below (b : Binary) (p : Int) : Nat :=
  b.m * up 2 b.q * up 10 (-p) / (up 2 (-b.q) * up 10 p)

/-- Whether the number is nearer to the upper of two neighbours on a grid; in the middle, whether
the lower one is odd. -/
def nearerAbove (b : Binary) (c : Nat) (p : Int) : Bool :=
  let twice := 2 * c + 1
  let left := twice * up 10 p * up 2 (-b.q)
  let right := 2 * b.m * up 2 b.q * up 10 (-p)
  left < right || (left = right && c % 2 = 1)

/-- The decimal with `n` digits that rounds to the number, if there is one. -/
def withDigits? (b : Binary) (n : Nat) : Option Scaled :=
  let p := leading b - n + 1
  let c := below b p
  match roundsTo b c p, roundsTo b (c + 1) p with
  | true, true => some ⟨if nearerAbove b c p then c + 1 else c, p⟩
  | true, false => some ⟨c, p⟩
  | false, true => some ⟨c + 1, p⟩
  | false, false => none

/-- The shortest decimal of a positive number; seventeen digits are always enough for a number of 53
bits. -/
def shortest (b : Binary) : Scaled :=
  ((List.range 17).findSome? fun i => withDigits? b (i + 1)).getD
    ⟨below b (leading b - 16), leading b - 16⟩

end BlobStore.Decimal
