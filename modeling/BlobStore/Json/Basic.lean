/-!
# JSON values

A value as it is worked with: whole numbers apart from floating-point ones, and the members of an
object in the order in which they are written. A value that was read has them in the order of their
names, no name twice.
-/

namespace BlobStore

inductive Json where
  | null
  | bool (value : Bool)
  | int (value : Int)
  | float (value : Float)
  | str (text : String)
  | arr (items : List Json)
  | obj (members : List (String × Json))
  deriving Inhabited

namespace Json

/-- The value of a member of an object. -/
def get? (j : Json) (name : String) : Option Json :=
  match j with
  | obj members => members.lookup name
  | _ => none

end Json

end BlobStore
