import BlobStore.Bucket.Memory
import BlobStore.Registry
import BlobStore.Remote.Bucket
import BlobStore.Settings.App
import BlobStore.Settings.Memory
import BlobStore.Store

/-!
# Drivers

Two ways to open a store: over a bucket in memory, which starts empty, and over a bucket behind an
endpoint, of which nothing is known until the first call.
-/

namespace BlobStore

/-- A bucket of either kind. -/
inductive AnyBucket where
  | memory (b : Bucket)
  | remote (b : RemoteBucket)

instance : Backend AnyBucket where
  name
    | .memory b => Backend.name b
    | .remote b => Backend.name b
  answer c
    | .memory b => let (reply, b) := Backend.answer c b; (reply, .memory b)
    | .remote b => let (reply, b) := Backend.answer c b; (reply, .remote b)

/-- A store with the bucket that it is over. -/
structure OpenStore where
  store : Store
  bucket : AnyBucket

instance : Pinged OpenStore where
  ping s := let (ready, bucket) := Store.ping s.bucket; (ready, { s with bucket })

namespace Drivers

def ofMemorySettings (s : MemorySettings) : OpenStore :=
  ⟨.new s.scope s.acl, .memory (.new s.bucket)⟩

def ofS3Settings (deliver : Nat → Delivery) (stamp : Stamp) (s : S3Settings) :
    Except StoreError OpenStore :=
  match RemoteBucket.connect s (.start deliver) stamp with
  | .error fault => .error (.config fault)
  | .ok b => .ok ⟨.new s.scope s.acl, .remote b⟩

def memory : Driver OpenStore := fun options =>
  match MemorySettings.ofJson options with
  | .error why => .error (.badOptions why)
  | .ok s => .ok (ofMemorySettings s)

/-- The driver of remote stores; `deliver` says what each of them gets from its endpoint. -/
def remote (deliver : Nat → Delivery) (stamp : Stamp) : Driver OpenStore := fun options =>
  match S3Settings.ofJson options with
  | .error why => .error (.badOptions why)
  | .ok s => (ofS3Settings deliver stamp s).mapError .store

/-- The registry with both drivers. -/
def registerAll (r : Registry OpenStore) (deliver : Nat → Delivery) (stamp : Stamp) :
    Registry OpenStore :=
  (r.register "s3" (remote deliver stamp)).register "memory" memory

end Drivers

/-- Opens the store that settings choose. -/
def AppSettings.build {ι : Type} [Pinged ι] (a : AppSettings) (r : Registry ι) :
    Except RegistryError Handle × Registry ι :=
  r.create a.store.id a.store.driver a.store.options

end BlobStore
