/-!
# Ranges of code points

A property of characters, written down as the code points that have it.
-/

namespace BlobStore.Text

/-- Code points from the first number to the second, both included, for each pair. -/
abbrev Ranges := List (Nat × Nat)

def Ranges.contains (r : Ranges) (c : Char) : Bool :=
  r.any fun e => e.1 ≤ c.toNat && c.toNat ≤ e.2

end BlobStore.Text
