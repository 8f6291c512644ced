import BlobStore.Text.Digits

/-!
# Spans of time

A length of time in whole nanoseconds, the seconds in it as they are counted in words, and how it is
shown in a message.
-/

namespace BlobStore

/-- A length of time. -/
structure Span where
  nanos : Nat
  deriving DecidableEq, Inhabited, Repr

namespace Span

def nanosPerSecond : Nat := 1000000000

/-- Seconds and nanoseconds together. -/
def ofParts (secs nanos : Nat) : Span := ⟨secs * nanosPerSecond + nanos⟩

def ofSecs (secs : Nat) : Span := ofParts secs 0

instance : LE Span := ⟨fun a b => a.nanos ≤ b.nanos⟩
instance : LT Span := ⟨fun a b => a.nanos < b.nanos⟩
instance (a b : Span) : Decidable (a ≤ b) := inferInstanceAs (Decidable (a.nanos ≤ b.nanos))
instance (a b : Span) : Decidable (a < b) := inferInstanceAs (Decidable (a.nanos < b.nanos))

def isZero (s : Span) : Bool := s.nanos = 0

/-- The whole seconds in the span, in the 64 bits that they are counted in. -/
def secs (s : Span) : UInt64 := .ofNat (s.nanos / nanosPerSecond)

/-- The nanoseconds behind the last whole second. -/
def subsecNanos (s : Span) : UInt32 := .ofNat (s.nanos % nanosPerSecond)

/-- The whole seconds in the span, and one more if it does not end with the last of them. -/
def ceilSecs (s : Span) : UInt64 := s.secs + if 0 < s.subsecNanos then 1 else 0

/-- A count of a unit with as many decimals as it needs: `places` digits of the unit come from the
nanoseconds, and zeros at the end are dropped. -/
def inUnit (s : Span) (places : Nat) : List Char :=
  let one := Nat.pow 10 places
  let fraction := (Text.padded 10 places (s.nanos % one)).reverse.dropWhile (· = '0')
  Text.digits 10 (s.nanos / one) ++
    if s.nanos % one = 0 then [] else '.' :: fraction.reverse

/-- The span in the largest of `s`, `ms`, `µs` and `ns` that it fills. -/
def text (s : Span) : String :=
  .ofList <|
    if 1000000000 ≤ s.nanos then s.inUnit 9 ++ ['s']
    else if 1000000 ≤ s.nanos then s.inUnit 6 ++ ['m', 's']
    else if 1000 ≤ s.nanos then s.inUnit 3 ++ ['µ', 's']
    else s.inUnit 0 ++ ['n', 's']

end Span

end BlobStore
