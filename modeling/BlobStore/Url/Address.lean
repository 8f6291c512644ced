import BlobStore.Url.Fault
import BlobStore.Text.Digits
import BlobStore.Text.Pieces

/-!
# Numeric hosts

Internet addresses as they are written in a host: four numbers with dots, each in decimal, octal or
hexadecimal and the last one filling up what is left, or eight groups of hexadecimal digits with
colons, of which one run of zeros may be left out.
-/

namespace BlobStore.Url

open Text (digits digitValue? isDecimalDigit pieces valueFrom)

/-! ## Four bytes -/

/-- One number of a dotted address, if it is one: `0x` marks hexadecimal and `0` octal digits. -/
def dottedNumber? (text : List Char) : Option Nat :=
  let (base, ds) : Nat × List Char :=
    match text with
    | '0' :: 'x' :: rest | '0' :: 'X' :: rest => (16, rest)
    | '0' :: d :: rest => (8, d :: rest)
    | _ => (10, text)
  if text = [] then none
  else if ds.all fun d => (digitValue? base d).isSome then some (valueFrom base 0 ds)
  else none

/-- The pieces between dots; a dot at the very end does not count. -/
def labels (text : List Char) : List (List Char) :=
  let parts := pieces '.' text
  if parts.getLast? = some [] then parts.dropLast else parts

/-- Whether a host is to be read as a number. -/
def endsInNumber (host : List Char) : Bool :=
  match (labels host).getLast? with
  | none => false
  | some last => (last ≠ [] && last.all isDecimalDigit) || (dottedNumber? last).isSome

/-- The address of a dotted host as one number of four bytes. -/
def parseDotted (host : List Char) : Except Fault Nat :=
  let numbers := ((labels host).mapM dottedNumber?).getD []
  let firsts := numbers.dropLast
  match numbers.getLast? with
  | some last =>
    if numbers.length ≤ 4 ∧ last < Nat.pow 256 (4 - firsts.length) ∧ firsts.all (· < 256) then
      .ok (last + (firsts.mapIdx fun i n => n * Nat.pow 256 (3 - i)).foldl (· + ·) 0)
    else .error .badDotted
  | none => .error .badDotted

def dottedText (n : Nat) : List Char :=
  ['.'].intercalate ([n / Nat.pow 256 3, n / Nat.pow 256 2 % 256, n / 256 % 256, n % 256].map (digits 10))

/-! ## Eight groups -/

/-- A dotted tail of an address of groups: four decimal numbers below 256 without leading zeros. -/
def dottedTail? (text : List Char) : Option (List Nat) :=
  let parts := pieces '.' text
  let byte? (part : List Char) : Option Nat :=
    let n := valueFrom 10 0 part
    let short := part.length = 1 ∨ part.head? ≠ some '0'
    if part ≠ [] ∧ part.all isDecimalDigit ∧ n < 256 ∧ short then some n else none
  match parts.mapM byte? with
  | some [a, b, c, d] => some [a * 256 + b, c * 256 + d]
  | _ => none

/-- Reads groups behind those already read; `gap` is where zeros were left out. -/
def readGroups : (fuel : Nat) → List Char → (groups : List Nat) → (gap : Option Nat) →
    Option (List Nat × Option Nat)
  | _, [], groups, gap => some (groups, gap)
  | 0, _, _, _ => none
  | fuel + 1, c :: rest, groups, gap =>
    if groups.length = 8 then none
    else if c = ':' then
      if gap.isSome then none
      else readGroups fuel rest (groups ++ [0]) (some (groups.length + 1))
    else
      let isHex := fun d => (digitValue? 16 d).isSome
      let ds := ((c :: rest).take 4).takeWhile isHex
      let value := valueFrom 16 0 ds
      match (c :: rest).drop ds.length with
      | [] => some (groups ++ [value], gap)
      | '.' :: _ =>
        if ds = [] ∨ 6 < groups.length then none
        else (dottedTail? (c :: rest)).map fun tail => (groups ++ tail, gap)
      | ':' :: after => if after = [] then none else readGroups fuel after (groups ++ [value]) gap
      | _ => none

/-- The eight groups of an address between brackets. -/
def parseGroups (text : List Char) : Except Fault (List Nat) :=
  let read :=
    match text with
    | ':' :: ':' :: rest => readGroups text.length rest [0] (some 1)
    | ':' :: _ => none
    | [_] | [] => none
    | _ => readGroups text.length text [] none
  match read with
  | some (groups, some gap) =>
    .ok (groups.take gap ++ List.replicate (8 - groups.length) 0 ++ groups.drop gap)
  | some (groups, none) => if groups.length = 8 then .ok groups else .error .badGroups
  | none => .error .badGroups

/-- How many zeros the list starts with. -/
def zeros (groups : List Nat) : Nat := (groups.takeWhile (· = 0)).length

/-- Where the first of the longest runs of zeros starts, and its length. -/
def longestGap (groups : List Nat) : Nat × Nat :=
  (List.range groups.length).foldl
    (fun best i => if best.2 < zeros (groups.drop i) then (i, zeros (groups.drop i)) else best)
    (0, 0)

/-- The groups between brackets, the longest run of at least two zeros left out. -/
def groupsText (groups : List Nat) : List Char :=
  let write (part : List Nat) : List Char := [':'].intercalate (part.map (digits 16))
  let (start, count) := longestGap groups
  let inner :=
    if count < 2 then write groups
    else write (groups.take start) ++ [':', ':'] ++ write (groups.drop (start + count))
  '[' :: inner ++ [']']

end BlobStore.Url
