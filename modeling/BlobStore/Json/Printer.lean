import BlobStore.Decimal.FloatText
import BlobStore.Json.Basic

/-!
# Writing JSON

Two ways to write a value: on one line without space, and with one item or member a line, indented
by two spaces for every level. Strings are escaped only where the grammar wants it.
-/

namespace BlobStore.Json

/-- One character of a string. -/
def escapeChar (c : Char) : List Char :=
  if c = '"' then ['\\', '"']
  else if c = '\\' then ['\\', '\\']
  else if ' ' ≤ c then [c]
  else if c = '\n' then ['\\', 'n']
  else if c = '\r' then ['\\', 'r']
  else if c = '\t' then ['\\', 't']
  else if c.toNat = 8 then ['\\', 'b']
  else if c.toNat = 12 then ['\\', 'f']
  else '\\' :: 'u' :: Text.padded 16 4 c.toNat

/-- A string with its quotes. -/
def stringText (text : String) : List Char := '"' :: (text.toList.flatMap escapeChar ++ ['"'])

def intText (n : Int) : List Char :=
  if n < 0 then '-' :: Text.digits 10 n.natAbs else Text.digits 10 n.natAbs

/-! ## On one line -/

mutual

def compact : Json → List Char
  | null => "null".toList
  | bool true => "true".toList
  | bool false => "false".toList
  | int n => intText n
  | float x => Decimal.floatText x
  | str text => stringText text
  | arr items => '[' :: compactItems items
  | obj members => '{' :: compactMembers members

/-- Items and the closing bracket. -/
def compactItems : List Json → List Char
  | [] => [']']
  | [item] => compact item ++ [']']
  | item :: items => compact item ++ ',' :: compactItems items

/-- Members and the closing brace. -/
def compactMembers : List (String × Json) → List Char
  | [] => ['}']
  | [(name, item)] => stringText name ++ ':' :: (compact item ++ ['}'])
  | (name, item) :: members =>
    stringText name ++ ':' :: (compact item ++ ',' :: compactMembers members)

end

/-- The value on one line. -/
def line (j : Json) : String := .ofList j.compact

/-! ## Indented -/

/-- A line break and the indentation of a level. -/
def newLine (level : Nat) : List Char := '\n' :: List.replicate (2 * level) ' '

mutual

/-- The value at a level; what it holds is one level further in. -/
def indented (level : Nat) : Json → List Char
  | null => "null".toList
  | bool true => "true".toList
  | bool false => "false".toList
  | int n => intText n
  | float x => Decimal.floatText x
  | str text => stringText text
  | arr [] => "[]".toList
  | arr (item :: items) =>
    '[' :: (newLine (level + 1) ++ indented (level + 1) item ++ indentedItems level items)
  | obj [] => ['{', '}']
  | obj ((name, item) :: members) =>
    '{' :: (newLine (level + 1) ++ stringText name ++ ':' :: ' ' ::
      (indented (level + 1) item ++ indentedMembers level members))

/-- Further items and the closing bracket. -/
def indentedItems (level : Nat) : List Json → List Char
  | [] => newLine level ++ [']']
  | item :: items =>
    ',' :: (newLine (level + 1) ++ indented (level + 1) item ++ indentedItems level items)

/-- Further members and the closing brace. -/
def indentedMembers (level : Nat) : List (String × Json) → List Char
  | [] => newLine level ++ ['}']
  | (name, item) :: members =>
    ',' :: (newLine (level + 1) ++ stringText name ++ ':' :: ' ' ::
      (indented (level + 1) item ++ indentedMembers level members))

end

/-- The value with one item or member a line. -/
def pretty (j : Json) : String := .ofList (j.indented 0)

end BlobStore.Json
