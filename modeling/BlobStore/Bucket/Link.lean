import BlobStore.Bucket.Call
import BlobStore.Url.Basic

/-!
# Links into a bucket in memory

The link of an object has the bucket as its host, the key as its path, and says in its query what it
is for and how long it lasts.
-/

namespace BlobStore

def linkScheme : Scheme := .plain "memory"

/-- The link of an object in the bucket of the given name. -/
def memoryLink (bucket : String) (use : LinkUse) (key : String) (secs : Nat) :
    Except Url.Fault String := do
  let base ← Url.parse linkScheme (bucket.toList ++ ['/'])
  let link := base.setPath key.toList
  let link := link.addField "X-Amz-Method".toList use.method.toList
  let link := link.addField "X-Amz-Expires".toList (Text.digits 10 secs)
  return .ofList link.text

end BlobStore
