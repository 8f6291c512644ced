import BlobStore.Error
import BlobStore.Json.Record
import BlobStore.SortedMap

/-!
# Registries of stores

A registry opens stores by the name of a driver and keeps them under ids, together with what was
last found wrong under each id. An instance that was opened goes on to exist when another one
takes its id: whoever has its handle can still use it.

Every change of a table is a section of its own (`place`, `withdraw`, `setError`, `clearError`);
creating and removing are made of these.
-/

namespace BlobStore

/-- Why a driver could not open a store. -/
inductive OpenError where
  | badOptions (why : Json.Mismatch)
  | store (e : StoreError)
  | other (text : String)
  deriving Inhabited

def OpenError.message : OpenError → String
  | badOptions why => "配置解析失败: " ++ why.message
  | store e => e.message
  | other text => text

/-- Why a registry did not do as asked. -/
inductive RegistryError where
  | unknownDriver (name : String)
  | unknownStore (id : String)
  | opening (e : OpenError)
  deriving Inhabited

def RegistryError.message : RegistryError → String
  | unknownDriver name => "Store driver not found: " ++ name
  | unknownStore id => "Store not found: " ++ id
  | opening e => e.message

/-- Opens a store from its options. -/
abbrev Driver (ι : Type) := Json → Except OpenError ι

/-- Instances that can be asked whether they are ready. -/
class Pinged (ι : Type) where
  ping : ι → Except StoreError Unit × ι

/-- The number of an instance, in the order in which they were opened. -/
abbrev Handle := Nat

/-- A registry of instances that are `ι`. -/
structure Registry (ι : Type) where
  drivers : SortedMap String (Driver ι)
  stores : SortedMap String Handle
  errors : SortedMap String String
  opened : List ι

namespace Registry

variable {ι : Type}

def empty : Registry ι := ⟨.empty, .empty, .empty, []⟩

def register (r : Registry ι) (name : String) (driver : Driver ι) : Registry ι :=
  { r with drivers := r.drivers.insert name driver }

/-! ## Looking up -/

/-- The instance under an id. -/
def get? (r : Registry ι) (id : String) : Option Handle := r.stores.get? id

/-- What was last found wrong under an id. -/
def error? (r : Registry ι) (id : String) : Option String := r.errors.get? id

/-- The ids with a store, ascending. -/
def ids (r : Registry ι) : List String := r.stores.keys

/-- The names of the drivers, ascending. -/
def driverNames (r : Registry ι) : List String := r.drivers.keys

/-! ## Sections -/

/-- The registry with one more instance, and its handle. -/
def enroll (r : Registry ι) (fresh : ι) : Handle × Registry ι :=
  (r.opened.length, { r with opened := r.opened ++ [fresh] })

def place (r : Registry ι) (id : String) (h : Handle) : Registry ι :=
  { r with stores := r.stores.insert id h }

def withdraw (r : Registry ι) (id : String) : Registry ι :=
  { r with stores := r.stores.erase id }

def setError (r : Registry ι) (id text : String) : Registry ι :=
  { r with errors := r.errors.insert id text }

def clearError (r : Registry ι) (id : String) : Registry ι :=
  { r with errors := r.errors.erase id }

/-- Keeps under an id whether its store was found ready. -/
def judge (r : Registry ι) (id : String) : Except StoreError Unit → Registry ι
  | .ok _ => r.clearError id
  | .error e => r.setError id e.message

section lookups

variable (r : Registry ι) (id id' : String)

@[simp] theorem get?_place (h : Handle) :
    (r.place id h).get? id' = if id' = id then some h else r.get? id' :=
  SortedMap.get?_insert ..

@[simp] theorem get?_withdraw : (r.withdraw id).get? id' = if id' = id then none else r.get? id' :=
  SortedMap.get?_erase ..

@[simp] theorem error?_setError (text : String) :
    (r.setError id text).error? id' = if id' = id then some text else r.error? id' :=
  SortedMap.get?_insert ..

@[simp] theorem error?_clearError :
    (r.clearError id).error? id' = if id' = id then none else r.error? id' :=
  SortedMap.get?_erase ..

end lookups

/-! ## Creating, removing, using -/

/-- Opens a store and puts it under an id, also if it is not ready. -/
def create [Pinged ι] (r : Registry ι) (id driver : String) (options : Json) :
    Except RegistryError Handle × Registry ι :=
  match r.drivers.get? driver with
  | none => (.error (.unknownDriver driver), r)
  | some load =>
    match load options with
    | .error e => (.error (.opening e), r.setError id e.message)
    | .ok fresh =>
      let (ready, fresh) := Pinged.ping fresh
      let (h, r) := r.enroll fresh
      (.ok h, (r.place id h).judge id ready)

/-- Takes the store away from an id; its instance is given back. -/
def remove (r : Registry ι) (id : String) : Except RegistryError Handle × Registry ι :=
  match r.get? id with
  | none => (.error (.unknownStore id), r)
  | some h => (.ok h, (r.withdraw id).clearError id)

def instance? (r : Registry ι) (h : Handle) : Option ι := r.opened[h]?

/-- Lets an instance do something, if there is one with the handle. -/
def use {α : Type} (r : Registry ι) (h : Handle) (act : ι → α × ι) : Option α × Registry ι :=
  match r.instance? h with
  | none => (none, r)
  | some i =>
    let (a, i) := act i
    (some a, { r with opened := r.opened.set h i })

end Registry

end BlobStore
