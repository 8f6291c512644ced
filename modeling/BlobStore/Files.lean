import BlobStore.Key

/-!
# Files and folders

A tree of files. A path starts at the root if a slash comes first, and else at the working folder.
It is followed name by name, and every name but the last has to be that of a folder; `.` and an
empty name stay where they are, `..` goes back. A file or a folder can be made only in a folder that
is there.

`Files.find?` is the view of the tree as a map from places.
-/

namespace BlobStore

/-- The names on the way from the root. -/
abbrev Place := List (List Char)

/-- What stands at a place. -/
inductive FileEntry where
  | folder
  | file (content : ByteArray)
  deriving Inhabited

instance : DecidableEq FileEntry
  | .folder, .folder => isTrue rfl
  | .file a, .file b =>
    have := ByteArray.decEq a b
    decidable_of_iff (a = b) (by simp)
  | .folder, .file _ | .file _, .folder => isFalse nofun

/-- What was made, the latest first. Nothing is ever taken away. -/
structure Files where
  made : List (Place × FileEntry)

namespace Files

/-- The working folder. It stands in the root under a name that no path can spell. -/
def home : Place := [[]]

/-- The folders that are there without being made. -/
def given : List Place := [[], home]

/-- Nothing is made yet. -/
def empty : Files := ⟨[]⟩

/-- What stands at a place. -/
def find? (fs : Files) (place : Place) : Option FileEntry :=
  if place ∈ given then some .folder else fs.made.lookup place

def put (fs : Files) (place : Place) (entry : FileEntry) : Files := ⟨(place, entry) :: fs.made⟩

theorem find?_put {fs : Files} {place : Place} (h : place ∉ given) (entry : FileEntry)
    (place' : Place) :
    (fs.put place entry).find? place' = if place' = place then some entry else fs.find? place' := by
  unfold find? put
  by_cases he : place' = place
  · subst he
    simp [h]
  · have : (place' == place) = false := beq_false_of_ne he
    simp [List.lookup_cons, he, this]

/-! ## Following paths -/

/-- The longest name that a file can have, in bytes, and the longest path. -/
def maxName : Nat := 255

def maxPath : Nat := 4095

def isFileName (name : List Char) : Bool :=
  !name.contains '\x00' && (String.ofList name).utf8ByteSize ≤ maxName

/-- The place that a path means, seen from a folder. Nothing needs to stand there, unless the path
goes on behind it. -/
def follow (fs : Files) (place : Place) : List Key.Piece → Option Place
  | [] => some place
  | piece :: rest =>
    if fs.find? place = some .folder then
      if Key.isName piece && !isFileName piece then none
      else fs.follow (Key.walkPiece place piece) rest
    else none

/-- Where a path starts, if it is one. -/
def start? (path : String) : Option Place :=
  if path = "" ∨ maxPath < path.utf8ByteSize then none
  else if path.toList.head? = some '/' then some []
  else some home

def locate (fs : Files) (path : String) : Option Place := do
  fs.follow (← start? path) (Key.split path.toList)

/-- What a path leads to. -/
def at? (fs : Files) (path : String) : Option FileEntry := (fs.locate path).bind fs.find?

def contains (fs : Files) (path : String) : Bool := (fs.at? path).isSome

/-! ## Reading and writing -/

def read? (fs : Files) (path : String) : Option ByteArray :=
  match fs.at? path with
  | some (.file content) => some content
  | _ => none

/-- The content of a file that is text. -/
def readText? (fs : Files) (path : String) : Option String :=
  (fs.read? path).bind String.fromUTF8?

/-- The tree with a file written at a path. -/
def write? (fs : Files) (path : String) (content : ByteArray) : Option Files := do
  let place ← fs.locate path
  if fs.find? place = some .folder then none
  else return fs.put place (.file content)

/-- The tree with a folder at a path, where nothing stood before. Slashes may follow its name. -/
def makeFolder? (fs : Files) (path : String) : Option Files := do
  let pieces := ((Key.split path.toList).reverse.dropWhile (· = [])).reverse
  let place ← fs.follow (← start? path) pieces
  if pieces.getLast?.any Key.isName && (fs.find? place).isNone then fs.put place .folder else none

end Files

end BlobStore
