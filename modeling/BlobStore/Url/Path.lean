import BlobStore.Key
import BlobStore.Url.Percent

/-!
# The path of an address

How the text after the host becomes a path: segments are escaped, `.` and `..` segments are
resolved (also when their dots are written `%2e`), and a segment that names a drive, such as `C:`,
is never taken back. In a web address a backslash counts as a slash.
-/

namespace BlobStore.Url

/-- A letter and a colon or a bar, alone or before a backslash. -/
def isDrive : List Char → Bool
  | a :: b :: rest => isLetter a && (b = ':' || b = '|') && rest.head?.all (· = '\\')
  | _ => false

/-- A segment with `%2e` read as a dot. -/
def plainDots : List Char → List Char
  | '%' :: '2' :: 'e' :: rest => '.' :: plainDots rest
  | '%' :: '2' :: 'E' :: rest => '.' :: plainDots rest
  | c :: rest => c :: plainDots rest
  | [] => []

/-- The folders behind so far, after one more segment that ends in a slash. -/
def enter (folders : List (List Char)) (segment : List Char) : List (List Char) :=
  if plainDots segment = ['.', '.'] then
    if (folders.getLast?.map isDrive).getD false then folders else folders.dropLast
  else if plainDots segment = ['.'] then folders
  else folders ++ [segment]

/-- The path through folders to a last segment. -/
def assemble (folders : List (List Char)) (last : List Char) : List Char :=
  '/' :: (folders.flatMap (· ++ ['/']) ++ last)

/-- The path of segments, of which all but the last end in a slash. -/
def resolve (folders : List (List Char)) : List (List Char) → List Char
  | [] => assemble folders []
  | [last] =>
    if plainDots last = ['.', '.'] ∨ plainDots last = ['.'] then assemble (enter folders last) []
    else assemble folders last
  | segment :: rest => resolve (enter folders segment) rest

/-- The path that a text behind the first slash stands for. -/
def pathOf (web : Bool) (text : List Char) : List Char :=
  let text := if web then text.map fun c => if c = '\\' then '/' else c else text
  resolve [] ((Key.split text).map (encode inPath))

/-- Tabs and line breaks are no part of an address. -/
def dropBreaks (text : List Char) : List Char :=
  text.filter fun c => c ≠ '\t' && c ≠ '\n' && c ≠ '\r'

end BlobStore.Url
