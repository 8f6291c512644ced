import BlobStore.Bucket.Record
import BlobStore.Bucket.Script
import BlobStore.Drivers
import BlobStore.Settings.Environment
import BlobStore.Settings.File
import BlobStore.Proofs.Client
import BlobStore.Proofs.Source
import BlobStore.Proofs.Source.Pieces
import BlobStore.Proofs.Upload.Conversation
import BlobStore.Proofs.SortedMap
import BlobStore.Proofs.Bucket.Pages
import BlobStore.Proofs.Bucket.Scope
import BlobStore.Proofs.Store.Apart
import BlobStore.Proofs.Store.Refinement
import BlobStore.Proofs.Shared
import BlobStore.Proofs.Upload.Concurrent
import BlobStore.Proofs.Text.Bytes
import BlobStore.Proofs.Store.Listing
import BlobStore.Proofs.Upload.Cancel
import BlobStore.Proofs.Key.Normal
import BlobStore.Proofs.Store.Purge
import BlobStore.Proofs.Registry.Races
import BlobStore.Proofs.Registry.Instances
import BlobStore.Proofs.Store.Exhausted
import BlobStore.Proofs.Remote.Uploads
import BlobStore.Proofs.Remote.Completion
import BlobStore.Proofs.Remote.Failures
import BlobStore.Proofs.Key.Climb
import BlobStore.Proofs.Settings.Saved
import BlobStore.Proofs.Remote.Routes
import BlobStore.Proofs.Store.Interrupted
import BlobStore.Proofs.Bucket.Rejections
import BlobStore.Proofs.Bucket.Lifecycle
import BlobStore.Proofs.Bucket.Links
import BlobStore.Proofs.Settings.Endpoint
import BlobStore.Proofs.Store.Expiry
import BlobStore.Proofs.Settings.Environment
import BlobStore.Proofs.Upload.ReadAhead
