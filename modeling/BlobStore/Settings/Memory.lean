import BlobStore.Json.Record

/-!
# Settings of a store in memory
-/

namespace BlobStore

structure MemorySettings where
  bucket : String
  scope : String
  acl : String
  deriving DecidableEq, Inhabited, Repr

namespace MemorySettings

/-- The settings with every part left out. -/
def default : MemorySettings := ⟨"logs", "", ""⟩

/-- The parts of the settings, in the order in which an array lists them. -/
def parts : List (Json.Part MemorySettings) :=
  [.ofText "bucket" fun v s => { s with bucket := v },
   .ofText "prefix" fun v s => { s with scope := v },
   .ofText "acl" fun v s => { s with acl := v }]

def ofJson : Json → Except Json.Mismatch MemorySettings :=
  Json.readRecord "MemoryConfig" parts default

end MemorySettings

end BlobStore
