import BlobStore.Json.Numeral
import BlobStore.SortedMap

/-!
# JSON documents

What a text spells before anything is judged: numerals as they are spelled, members in the order of
the text and perhaps twice, and strings that may name half a character. Parts of a document that
nobody asks for need not make sense beyond that; `Doc.value?` makes a value of one that does.
-/

namespace BlobStore.Json

inductive Doc where
  | null
  | bool (value : Bool)
  | number (numeral : Numeral)
  /-- A string; nothing if it names half of a surrogate pair. -/
  | str (text : Option String)
  | arr (items : List Doc)
  | obj (members : List (Option String × Doc))
  deriving Inhabited

namespace Doc

/-- How deep a document may be nested. -/
def maxDepth : Nat := 127

mutual

/-- The value of a document that is nested at most `room` deep. -/
def value? (room : Nat) : Doc → Option Json
  | null => some .null
  | bool value => some (.bool value)
  | number numeral => numeral.value?
  | str text => text.map .str
  | arr items => if room = 0 then none else (values? (room - 1) items).map .arr
  | obj members =>
    if room = 0 then none else (members? (room - 1) [] members).map .obj

def values? (room : Nat) : List Doc → Option (List Json)
  | [] => some []
  | item :: items => do
    let first ← value? room item
    let rest ← values? room items
    return first :: rest

/-- Members in the order of their names; of two with the same name the later one stands. -/
def members? (room : Nat) (before : List (String × Json)) :
    List (Option String × Doc) → Option (List (String × Json))
  | [] => some before
  | (name, item) :: members => do
    let name ← name
    let value ← value? room item
    members? room (SortedMap.place name value before) members

end

/-- The parts of a record that are known by name. A record is written as an object, in which no
known name may come twice and others are passed over, or as an array of the first parts in turn.
-/
def record? (names : List String) : Doc → Option (List (String × Doc))
  | arr items => if items.length ≤ names.length then some (names.zip items) else none
  | obj members => do
    let named ← members.mapM fun (name, item) => name.map (·, item)
    let known := named.filter fun e => names.contains e.1
    if (known.map (·.1)).Nodup then some known else none
  | _ => none

end Doc

end BlobStore.Json
