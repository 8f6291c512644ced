import BlobStore.Json.Printer
import BlobStore.Text.Quoted

/-!
# Records in JSON

A record has named parts, some of which may be left out. It is written as an object, of which
members that are no parts are passed over, or as an array of its first parts in the order in which
they are declared. `Json.readRecord` says what is wrong with any other value.
-/

namespace BlobStore.Json

/-- Why a value is not what was wanted. -/
inductive Mismatch where
  | kind (found : Json) (wanted : String)
  | missing (part : String)
  /-- An array of the wrong length. -/
  | length (count : Nat) (wanted : String)
  deriving Inhabited

/-- A value as a message shows it: scalars in full, others by their kind. -/
def summary : Json → String
  | null => "null"
  | bool true => "boolean `true`"
  | bool false => "boolean `false`"
  | int n => "integer `" ++ .ofList (intText n) ++ "`"
  | float x => "floating point `" ++ .ofList (Decimal.floatText x) ++ "`"
  | str text => "string " ++ Text.quote text
  | arr _ => "sequence"
  | obj _ => "map"

def Mismatch.message : Mismatch → String
  | kind found wanted => "invalid type: " ++ found.summary ++ ", expected " ++ wanted
  | missing part => "missing field `" ++ part ++ "`"
  | length count wanted =>
    "invalid length " ++ Text.decimal count ++ ", expected " ++ wanted

def text : Json → Except Mismatch String
  | str text => .ok text
  | j => .error (.kind j "a string")

def flag : Json → Except Mismatch Bool
  | bool value => .ok value
  | j => .error (.kind j "a boolean")

/-- A part of a record that is an `α`: its name, and how a value becomes this part. -/
structure Part (α : Type) where
  name : String
  required : Bool
  put : Json → α → Except Mismatch α

namespace Part

variable {α : Type}

def ofText (name : String) (set : String → α → α) : Part α :=
  ⟨name, false, fun j a => j.text.map (set · a)⟩

def ofFlag (name : String) (set : Bool → α → α) : Part α :=
  ⟨name, false, fun j a => j.flag.map (set · a)⟩

/-- The same part, which may not be left out. -/
def require (p : Part α) : Part α := { p with required := true }

end Part

/-- How messages name a kind of record. -/
def recordName (title : String) : String := "struct " ++ title

/-- How messages name a record with all its parts. -/
def recordOf (title : String) (parts : Nat) : String :=
  recordName title ++ " with " ++ Text.decimal parts ++ " elements"

/-- Puts the members of an object into a record, in the order in which they come. -/
def putMembers {α : Type} (parts : List (Part α)) : List (String × Json) → α → Except Mismatch α
  | [], a => .ok a
  | (name, value) :: members, a =>
    match parts.find? (·.name = name) with
    | some part => do putMembers parts members (← part.put value a)
    | none => putMembers parts members a

/-- Puts the items of an array into the parts of a record in turn. -/
def putItems {α : Type} (title : String) (count : Nat) :
    (seen : Nat) → List (Part α) → List Json → α → Except Mismatch α
  | _, [], [], a => .ok a
  | seen, [], extra, _ => .error (.length (seen + extra.length) "fewer elements in array")
  | seen, part :: parts, [], a =>
    if part.required then .error (.length seen (recordOf title count))
    else putItems title count (seen + 1) parts [] a
  | seen, part :: parts, value :: values, a => do
    putItems title count (seen + 1) parts values (← part.put value a)

/-- Reads a record; parts that are left out are those of `start`. -/
def readRecord {α : Type} (title : String) (parts : List (Part α)) (start : α) :
    Json → Except Mismatch α
  | obj members => do
    let a ← putMembers parts members start
    match parts.find? fun part => part.required && (members.lookup part.name).isNone with
    | some part => .error (.missing part.name)
    | none => return a
  | arr items => putItems title parts.length 0 parts items start
  | j => .error (.kind j (recordName title))

end BlobStore.Json
