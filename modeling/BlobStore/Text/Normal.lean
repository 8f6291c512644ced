import BlobStore.Text.Composite
import BlobStore.Text.MarkClass

/-!
# Texts in normal form

Two texts that differ only in how composite characters are spelled, and in the order of marks that
do not touch each other, have the same normal form: Unicode normalization form C. Composites are
taken apart, the marks behind each character are put in the order of their classes, and then
whatever has a composite is put together again.
-/

namespace BlobStore.Text

/-- A character taken apart into `depth` levels of parts; no composite has more than three. -/
def takeApart : (depth : Nat) → Char → List Char
  | 0, c => [c]
  | depth + 1, c =>
    match parts? c with
    | some (a, b) => takeApart depth a ++ [b]
    | none => [c]

/-- Puts a character in front of a text in order: a mark goes behind those of lower classes. -/
def insertMark (c : Char) : List Char → List Char
  | [] => [c]
  | d :: rest =>
    if 0 < markClass d ∧ markClass d < markClass c then d :: insertMark c rest else c :: d :: rest

/-- The text with the marks behind each character in the order of their classes. -/
def orderMarks (text : List Char) : List Char := text.foldr insertMark []

/-- Puts a text in order together. `base` is the last character that marks can be set on, and
`marks` are those behind it that have no composite with it. -/
def putTogether : (base : Option Char) → (marks : List Char) → List Char → List Char
  | base, marks, [] => base.toList ++ marks
  | base, marks, c :: rest =>
    -- a mark between the two of the same class, or any at all before another base, is in the way
    let free := marks.getLast?.all fun m => markClass m < markClass c
    match if free then base.bind (composite? · c) else none with
    | some joined => putTogether (some joined) marks rest
    | none =>
      if markClass c = 0 then base.toList ++ marks ++ putTogether (some c) [] rest
      else putTogether base (marks ++ [c]) rest

/-- The normal form of a text. -/
def normal (text : List Char) : List Char :=
  putTogether none [] (orderMarks (text.flatMap (takeApart 3)))

end BlobStore.Text
