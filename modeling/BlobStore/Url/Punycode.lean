/-!
# Names in ASCII

A name with characters outside ASCII is written with ASCII alone: its ASCII characters, then a
hyphen, then the other characters coded as the steps of a counter over positions and code points. A
step is a number of several digits, the least significant first; how much a digit counts depends on
its place and on a bias that follows the steps before.
-/

namespace BlobStore.Url

/-- The bias after a step: how many digits the next step is expected to need. -/
def adaptBias (delta points : Nat) (first : Bool) : Nat :=
  let delta := if first then delta / 700 else delta / 2
  let delta := delta + delta / points
  let rec shrink : (fuel delta k : Nat) → Nat
    | 0, delta, k => k + 36 * delta / (delta + 38)
    | fuel + 1, delta, k =>
      if 455 < delta then shrink fuel (delta / 35) (k + 36) else k + 36 * delta / (delta + 38)
  shrink delta delta 0

/-- A digit below the threshold of its place ends the step. Places go up by 36. -/
def threshold (bias place : Nat) : Nat :=
  if place ≤ bias then 1 else if bias + 26 ≤ place then 26 else place - bias

def stepDigit (d : Nat) : Char := if d < 26 then .ofNat (97 + d) else .ofNat (22 + d)

def stepDigitValue? (c : Char) : Option Nat :=
  if 'a' ≤ c ∧ c ≤ 'z' then some (c.toNat - 97)
  else if '0' ≤ c ∧ c ≤ '9' then some (c.toNat - 22)
  else none

/-! ## Writing -/

/-- The digits of one step, least significant first. -/
def stepDigits (bias : Nat) : (fuel q place : Nat) → List Char
  | 0, _, _ => []
  | fuel + 1, q, place =>
    let t := threshold bias place
    if q < t then [stepDigit q]
    else stepDigit (t + (q - t) % (36 - t)) ::
      stepDigits bias fuel ((q - t) / (36 - t)) (place + 36)

/-- The state between two characters: next code point, counter, bias and how many are written. -/
structure Coder where
  next : Nat
  delta : Nat
  bias : Nat
  written : Nat
  first : Bool
  out : List Char

/-- Passes one character of the name while those with the code point `point` are written. -/
def passCharacter (point : Nat) (s : Coder) (c : Char) : Coder :=
  if c.toNat < point then { s with delta := s.delta + 1 }
  else if c.toNat = point then
    { s with
      delta := 0
      bias := adaptBias s.delta (s.written + 1) s.first
      written := s.written + 1
      first := false
      out := s.out ++ stepDigits s.bias (s.delta + 1) s.delta 36 }
  else s

/-- Writes the characters of one code point after another, in ascending order. -/
def writePoints (name : List Char) : (points : List Nat) → Coder → Coder
  | [], s => s
  | point :: points, s =>
    let s := { s with delta := s.delta + (point - s.next) * (s.written + 1) }
    let s := name.foldl (passCharacter point) s
    writePoints name points { s with delta := s.delta + 1, next := point + 1 }

/-- The coded form of a name, without a mark in front. -/
def punycode (name : List Char) : List Char :=
  let basic := name.filter (·.toNat < 128)
  let points := ((name.filter (128 ≤ ·.toNat)).map Char.toNat).mergeSort.eraseDups
  let start := if basic = [] then [] else basic ++ ['-']
  (writePoints name points ⟨128, 0, 72, basic.length, true, start⟩).out

/-! ## Reading -/

/-- The state between two digits. The counter goes through the positions of the name, once for each
code point; `begun` is where it stood when the step began. -/
structure Decoder where
  next : Nat
  counter : Nat
  begun : Nat
  /-- Place and weight of the next digit. -/
  place : Nat
  weight : Nat
  bias : Nat
  name : List Char

namespace Decoder

/-- Nothing is read yet but the ASCII characters of the name. -/
def start (basic : List Char) : Decoder := ⟨128, 0, 0, 36, 1, 72, basic⟩

/-- Puts in the character that the counter has come to. -/
def putIn (s : Decoder) : Option Decoder :=
  let count := s.name.length + 1
  let point := s.next + s.counter / count
  let position := s.counter % count
  if point.isValidChar then
    some
      { next := point
        counter := position + 1
        begun := position + 1
        place := 36
        weight := 1
        bias := adaptBias (s.counter - s.begun) count (s.begun = 0)
        name := s.name.insertIdx position (.ofNat point) }
  else none

/-- Reads one digit; counters and weights have 32 bits. -/
def read (s : Decoder) (c : Char) : Option Decoder := do
  let d ← stepDigitValue? c
  let counter := s.counter + d * s.weight
  if Nat.pow 2 32 ≤ counter then none
  let t := threshold s.bias s.place
  if d < t then putIn { s with counter }
  else
    let weight := s.weight * (36 - t)
    if Nat.pow 2 32 ≤ weight then none
    return { s with counter, weight, place := s.place + 36 }

/-- The name, if no step is left half read. -/
def finish? (s : Decoder) : Option (List Char) := if s.place = 36 then some s.name else none

end Decoder

/-- The name that a coded form in small letters stands for. -/
def depunycode? (code : List Char) : Option (List Char) :=
  let steps := (code.reverse.takeWhile (· ≠ '-')).reverse
  let before := code.take (code.length - steps.length)
  if before = ['-'] then none
  else (steps.foldlM Decoder.read (.start before.dropLast)).bind Decoder.finish?

end BlobStore.Url
