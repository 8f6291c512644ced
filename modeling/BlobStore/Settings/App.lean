import BlobStore.Json.Parser
import BlobStore.Json.Record

/-!
# Settings of an application

Which store an application uses: the id under which it is registered, the driver that opens it, and
options that only the driver understands. Settings are written as a text and read back from one;
`ofText?` reads whatever `text` writes.
-/

namespace BlobStore

/-- Which store to open. -/
structure StoreSettings where
  id : String
  driver : String
  options : Json
  deriving Inhabited

structure AppSettings where
  store : StoreSettings
  deriving Inhabited

namespace StoreSettings

/-- A store in memory, with nothing said about it. -/
def default : StoreSettings := ⟨"default", "memory", .obj []⟩

def parts : List (Json.Part StoreSettings) :=
  [.ofText "id" fun v s => { s with id := v },
   .ofText "driver" fun v s => { s with driver := v },
   ⟨"options", false, fun v s => .ok { s with options := v }⟩]

def ofJson : Json → Except Json.Mismatch StoreSettings :=
  Json.readRecord "StoreConfig" parts default

/-- The settings that a document spells; its options are nested at most `room` deep. -/
def ofDoc? (room : Nat) (doc : Json.Doc) : Option StoreSettings := do
  let known ← doc.record? (parts.map (·.name))
  known.foldlM (fun (s : StoreSettings) (part : String × Json.Doc) => do
    let value ← part.2.value? room
    (Json.putMembers parts [(part.1, value)] s).toOption) default

def toJson (s : StoreSettings) : Json :=
  .obj [("id", .str s.id), ("driver", .str s.driver), ("options", s.options)]

end StoreSettings

namespace AppSettings

/-- The settings with every part left out. -/
def default : AppSettings := ⟨.default⟩

def parts : List (Json.Part AppSettings) :=
  [⟨"store", false, fun v a => (StoreSettings.ofJson v).map fun store => { a with store }⟩]

def ofJson : Json → Except Json.Mismatch AppSettings :=
  Json.readRecord "AppConfig" parts default

/-- The settings that a document spells. The options of the store lie two levels down. -/
def ofDoc? (doc : Json.Doc) : Option AppSettings := do
  match ← doc.record? (parts.map (·.name)) with
  | (_, store) :: _ => return ⟨← StoreSettings.ofDoc? (Json.Doc.maxDepth - 2) store⟩
  | [] => return default

def toJson (a : AppSettings) : Json := .obj [("store", a.store.toJson)]

/-- The settings as they are written to a file. -/
def text (a : AppSettings) : String := a.toJson.pretty

/-- The settings that a text spells. -/
def ofText? (text : String) : Option AppSettings := (Json.Doc.parse? text).bind ofDoc?

end AppSettings

end BlobStore
