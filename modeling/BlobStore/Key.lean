import BlobStore.Text.Pieces

/-!
# Object keys

A key is a path: names parted by `/`. Empty names and `.` say nothing, `..` takes back the name
before it and nothing at the root. A store keeps all its blobs under one scope, and the object of a
logical key is found by walking the scope and then the key.

`split` and `glue` pass between a text and its pieces; `walk` follows pieces from a place.
-/

namespace BlobStore.Key

/-- A stretch of a path between two slashes. -/
abbrev Piece := List Char

/-- The pieces of a text: one more than it has slashes. -/
def split (text : List Char) : List Piece := Text.pieces '/' text

/-- The text of the given pieces, with one slash between two of them. -/
def glue (pieces : List Piece) : List Char := ['/'].intercalate pieces

/-- Pieces that leave the place as it is. -/
def isIdle (piece : Piece) : Bool := piece = [] || piece = ['.']

/-- The piece that goes back by one name. -/
def isClimb (piece : Piece) : Bool := piece = ['.', '.']

/-- Pieces that are kept in a walked path. -/
def isName (piece : Piece) : Bool := !isIdle piece && !isClimb piece

/-- The place one piece further on. At the root there is nothing to go back from. -/
def walkPiece (place : List Piece) (piece : Piece) : List Piece :=
  if isIdle piece then place else if isClimb piece then place.dropLast else place ++ [piece]

/-- The place reached from `place` by following the pieces in turn. -/
def walk (place pieces : List Piece) : List Piece := pieces.foldl walkPiece place

/-- The names that a text stands for, seen from the root. -/
def names (text : List Char) : List Piece := walk [] (split text)

/-- The object key of a logical key under a scope: the names of both, without outer slashes. -/
def join (scope key : String) : String :=
  .ofList (glue (names (scope.toList ++ '/' :: key.toList)))

/-- A text is in normal form if it is the way its names are written. -/
def IsNormal (text : String) : Prop := ∃ place, (∀ p ∈ place, isName p) ∧ '/' ∉ place.flatten ∧
  text.toList = glue place

/-! ## Facts about splitting -/

theorem split_ne_nil (text : List Char) : split text ≠ [] := Text.pieces_ne_nil text

theorem split_append_slash (a b : List Char) : split (a ++ '/' :: b) = split a ++ split b :=
  Text.pieces_append_cons a b

theorem split_slash (rest : List Char) : split ('/' :: rest) = [] :: split rest :=
  split_append_slash [] rest

theorem not_mem_of_mem_split {text : List Char} {p : Piece} (h : p ∈ split text) : '/' ∉ p :=
  Text.not_mem_of_mem_pieces h

theorem glue_split (text : List Char) : glue (split text) = text := Text.intercalate_pieces text

theorem names_append_slash (a b : List Char) :
    names (a ++ '/' :: b) = walk (names a) (split b) := by
  simp [names, walk, split_append_slash, List.foldl_append]

end BlobStore.Key
