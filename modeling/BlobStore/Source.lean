/-!
# Sources of bytes

What an upload reads from and a download hands out: bytes that come in chunks of any size, and then
an end, a failure, or nothing for ever. `read` is one read; `take` reads on until it has what it was
asked for or the source has no more to give.
-/

namespace BlobStore

/-- What follows the last byte of a source. -/
inductive SourceEnd where
  | finished
  /-- Every further read fails with this text. -/
  | failing (text : String)
  /-- No further read is ever ready. -/
  | stalled
  deriving DecidableEq, Inhabited, Repr

/-- Bytes still to come. One read gives bytes of one chunk only, and at most `perRead` of them. -/
structure Source where
  chunks : List ByteArray
  perRead : Option Nat
  ending : SourceEnd
  deriving Inhabited

/-- What one read gives. -/
inductive Read where
  | bytes (data : ByteArray) (rest : Source)
  | finished
  | failed (text : String)
  | notReady

/-- What reading a piece of a given size comes to. -/
inductive Piece where
  /-- As many bytes as asked for, or fewer at the end of the source. -/
  | taken (data : ByteArray) (rest : Source)
  | failed (text : String) (rest : Source)
  | stalled (rest : Source)

namespace Source

/-- All of the bytes at once, and then the end. -/
def ofBytes (data : ByteArray) : Source := ⟨[data], none, .finished⟩

/-- The number of bytes still to come. -/
def left (s : Source) : Nat := s.chunks.foldr (fun chunk n => chunk.size + n) 0

/-- All the bytes still to come. -/
def content (s : Source) : ByteArray := s.chunks.foldl (· ++ ·) .empty

theorem content_ofBytes (data : ByteArray) : (ofBytes data).content = data := by
  simp [content, ofBytes]

/-- The end of a source without bytes. -/
def readEnd : SourceEnd → Read
  | .finished => .finished
  | .failing text => .failed text
  | .stalled => .notReady

/-- One read into space for `room` bytes; empty chunks are passed over, and a read that may give no
byte at all counts as the end. -/
def readFrom (perRead : Option Nat) (ending : SourceEnd) (room : Nat) : List ByteArray → Read
  | [] => readEnd ending
  | chunk :: chunks =>
    if chunk.size = 0 then readFrom perRead ending room chunks
    else
      let n := min (min room (perRead.getD room)) chunk.size
      if n = 0 then .finished
      else if n < chunk.size then
        .bytes (chunk.extract 0 n) ⟨chunk.extract n chunk.size :: chunks, perRead, ending⟩
      else .bytes chunk ⟨chunks, perRead, ending⟩

def read (s : Source) (room : Nat) : Read := readFrom s.perRead s.ending room s.chunks

/-- Reads on behind the bytes `got` until `room` more are there. Every read gives a byte, so `room`
reads are enough. -/
def takeMore : (reads room : Nat) → (got : ByteArray) → Source → Piece
  | 0, _, got, s => .taken got s
  | reads + 1, room, got, s =>
    if room = 0 then .taken got s
    else
      match s.read room with
      | .bytes data rest => takeMore reads (room - data.size) (got ++ data) rest
      | .finished => .taken got s
      | .failed text => .failed text s
      | .notReady => .stalled s

/-- The next piece of `size` bytes; a shorter one is the last. Once the piece is full the source is
not asked again. -/
def take (s : Source) (size : Nat) : Piece := takeMore size size .empty s

/-- All the bytes of a source that ends. -/
def readAll? (s : Source) : Option ByteArray :=
  match s.take (s.left + 1) with
  | .taken data _ => some data
  | _ => none

end Source

end BlobStore
