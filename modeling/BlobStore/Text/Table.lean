import BlobStore.Text.Digits
import BlobStore.Text.Pieces

/-!
# Tables of code points

A property of many characters, written down as words with blanks between them. A word says which
code points it is about and what is noted for them: `300-314:e6` is about a run of code points,
`100-12e/2:101` about every second one of a run, `132:69,6a` about a single one, for which two
numbers are noted. All numbers are hexadecimal, but for the one behind the slash.
-/

namespace BlobStore.Text

/-- What is noted for the code points from `first` to `last`, `step` by `step`. -/
structure TableEntry where
  first : Nat
  last : Nat
  step : Nat
  values : List Nat
  deriving DecidableEq, Inhabited, Repr

namespace TableEntry

def covers (e : TableEntry) (n : Nat) : Bool :=
  e.first ≤ n && n ≤ e.last && (n - e.first) % e.step = 0

/-- The entry that a word stands for. -/
def ofWord (word : List Char) : TableEntry :=
  let number (text : List Char) : Nat := valueFrom 16 0 text
  let (run, values) := word.span (· ≠ ':')
  let (ends, step) := run.span (· ≠ '/')
  let (first, last) := ends.span (· ≠ '-')
  { first := number first
    last := if last = [] then number first else number (last.drop 1)
    step := if step = [] then 1 else decimalValue (step.drop 1)
    values := (pieces ',' (values.drop 1)).map number }

end TableEntry

abbrev Table := List TableEntry

namespace Table

/-- The table that is written in the given lines. -/
def ofRows (rows : List String) : Table :=
  rows.flatMap fun row => (pieces ' ' row.toList).map TableEntry.ofWord

/-- What the table says of a code point. -/
def find? (t : Table) (n : Nat) : Option TableEntry := List.find? (·.covers n) t

end Table

end BlobStore.Text
