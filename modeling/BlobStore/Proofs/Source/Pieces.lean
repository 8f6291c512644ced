import Mathlib
import BlobStore.Proofs.Source

/-!
# Cutting a source into pieces

A source that is read piece by piece falls into the same pieces however its bytes come in and
whatever room its reads are given. `Behind` are the sources that can be left behind the first pieces;
what each of them still holds (`Behind.holds`) is told by the bytes and the size alone, and so is the
next piece (`IsCut`).
-/

namespace BlobStore

namespace Piece

/-- What has become of the source. -/
def rest : Piece → Source
  | taken _ rest | failed _ rest | stalled rest => rest

/-- What there is to see of a piece without a look at the source: nothing while it has to wait. -/
def result? : Piece → Option (Except String ByteArray)
  | taken data _ => some (.ok data)
  | failed text _ => some (.error text)
  | stalled _ => none

end Piece

namespace Source

@[simp] theorem rest_pieceAtEnd (data : ByteArray) (rest : Source) (e : SourceEnd) :
    (pieceAtEnd data rest e).rest = rest := by
  cases e <;> rfl

theorem result?_pieceAtEnd (data : ByteArray) (rest rest' : Source) (e : SourceEnd) :
    (pieceAtEnd data rest e).result? = (pieceAtEnd data rest' e).result? := by
  cases e <;> rfl

/-- The source behind its first `i` pieces of `size` bytes. -/
def behind (s : Source) (size : Nat) : Nat → Source
  | 0 => s
  | i + 1 => ((behind s size i).take size).rest

/-- What can be left of a source behind its first `i` pieces of `size` bytes, each of them read with
whatever room. -/
inductive Behind (s : Source) (size : Nat) : Nat → Source → Prop
  | start : Behind s size 0 s
  | next {i : Nat} {t : Source} {p : Piece} (before : Behind s size i t) (h : t.Comes size p) :
    Behind s size (i + 1) p.rest

/-- **What the piece number `i` is**, counted from zero, of a source that holds `data` and then `e`,
if it is read from `t` and comes to `p`. -/
structure IsCut (data : ByteArray) (e : SourceEnd) (size i : Nat) (t : Source) (p : Piece) :
    Prop where
  /-- While there are bytes for a full piece it is the next of them. -/
  full : (i + 1) * size ≤ data.size →
    p = .taken (data.extract (i * size) ((i + 1) * size)) p.rest
  /-- Every read for it gives bytes then, so that the end of the source is not touched. -/
  untouched : (i + 1) * size ≤ data.size → ∀ got rest room, t.During size got rest → 0 < room →
    got.size + room ≤ size → ∃ more rest', rest.read room = .bytes more rest'
  /-- A piece that cannot be filled is what the end makes of the bytes that are left. -/
  unfilled : data.size < (i + 1) * size →
    p = pieceAtEnd (data.extract (i * size) data.size) p.rest e
  /-- All that comes behind it is still to come. -/
  rest : p.rest.Holds (data.extract ((i + 1) * size) data.size) e
  /-- It is short only at the end of the source. -/
  short : ∀ got rest, p = .taken got rest → got.size < size → e = .finished ∧ rest.content = .empty

variable {s t : Source} {data : ByteArray} {e : SourceEnd} {size i : Nat} {p : Piece}

/-! ## What is left -/

theorem Comes.holds_rest (h : t.Comes size p) (ht : t.Holds data e) :
    p.rest.Holds (data.extract size data.size) e := by
  rcases Nat.lt_or_ge data.size size with hlt | hle
  · obtain ⟨rest, rfl, hrest⟩ := h.of_short ht hlt
    rwa [rest_pieceAtEnd, ByteArray.extract_eq_empty_iff.mpr (by omega)]
  · obtain ⟨rest, rfl, hrest⟩ := h.of_le ht hle
    exact hrest

theorem behind_behind (s : Source) (size i : Nat) : s.Behind size i (s.behind size i) := by
  induction i with
  | zero => exact .start
  | succ i ih => exact .next ih (comes_take _ size)

theorem Behind.holds (h : s.Behind size i t) (hs : s.Holds data e) :
    t.Holds (data.extract (i * size) data.size) e := by
  induction h with
  | start => simpa using hs
  | @next i t p _ hp ih =>
    have hrest := hp.holds_rest ih
    rwa [extract_extract_rest, ← Nat.succ_mul] at hrest

/-! ## What a piece is -/

theorem Behind.isCut (h : s.Behind size i t) (hs : s.Holds data e) (hp : t.Comes size p) :
    IsCut data e size i t p := by
  have ht := h.holds hs
  have hleft : (data.extract (i * size) data.size).size = data.size - i * size := by
    rw [ByteArray.size_extract, Nat.min_self]
  constructor
  case full =>
    intro hle
    rw [Nat.succ_mul] at hle ⊢
    obtain ⟨rest, rfl, -⟩ := hp.of_le ht (by omega)
    rw [ByteArray.extract_extract, Nat.add_zero, Nat.min_eq_left hle]
    rfl
  case untouched =>
    intro hle got rest room way hpos fits
    rw [Nat.succ_mul] at hle
    exact way.gives.read_eq_bytes ht (by omega) hpos
  case unfilled =>
    intro hlt
    -- pieces of no bytes are always full
    have hpos : 0 < size := Nat.pos_of_ne_zero fun hzero => by simp [hzero] at hlt
    rw [Nat.succ_mul] at hlt
    obtain ⟨rest, rfl, -⟩ := hp.of_short ht (by omega)
    rw [rest_pieceAtEnd]
  case rest =>
    have hrest := hp.holds_rest ht
    rwa [extract_extract_rest, ← Nat.succ_mul] at hrest
  case short =>
    rintro got rest rfl hgot
    obtain ⟨he, -, hempty⟩ := hp.of_taken_short ht hgot
    exact ⟨he, hempty⟩

theorem IsCut.result?_eq {t' : Source} {p' : Piece} (h : IsCut data e size i t p)
    (h' : IsCut data e size i t' p') : p'.result? = p.result? := by
  rcases Nat.lt_or_ge data.size ((i + 1) * size) with hlt | hle
  · rw [h.unfilled hlt, h'.unfilled hlt]
    exact result?_pieceAtEnd ..
  · rw [h.full hle, h'.full hle]
    rfl

/-- **A source falls into pieces that its bytes and its end alone tell**, in whatever chunks the bytes
come in and whatever room its reads are given; taking piece after piece is one way to read them. -/
theorem pieces_told_by_bytes (hs : s.Holds data e) (size i : Nat) :
    s.Behind size i (s.behind size i) ∧
      ∀ t, s.Behind size i t → t.Comes size (t.take size) ∧
        ∀ p, t.Comes size p → IsCut data e size i t p ∧
          ∀ (s' t' : Source) (p' : Piece), s'.Holds data e → s'.Behind size i t' →
            t'.Comes size p' → p'.result? = p.result? := by
  refine ⟨s.behind_behind size i, fun t ht => ⟨t.comes_take size, fun p hp => ?_⟩⟩
  have hcut := ht.isCut hs hp
  refine ⟨hcut, fun s' t' p' hs' ht' hp' => ?_⟩
  exact hcut.result?_eq (ht'.isCut hs' hp')

/-- Five bytes in pieces of two, a byte a read and all at once: the second piece is the same, and the
third one fails as the source does. -/
theorem pieces_told_by_bytes_byte_by_byte :
    let data : ByteArray := ⟨#[1, 2, 3, 4, 5]⟩
    let s : Source := ⟨[⟨#[1]⟩, ⟨#[2, 3]⟩, .empty, ⟨#[4, 5]⟩], some 1, .failing "gone"⟩
    let s' : Source := ⟨[data], none, .failing "gone"⟩
    s.Holds data (.failing "gone") ∧ s'.Holds data (.failing "gone") ∧
      ((s.behind 2 1).take 2).result? = some (.ok ⟨#[3, 4]⟩) ∧
      ((s'.behind 2 1).take 2).result? = ((s.behind 2 1).take 2).result? ∧
      ((s.behind 2 2).take 2).result? = some (.error "gone") := by
  intro data s s'
  have hs : s.Holds data (.failing "gone") := ⟨by decide, by decide, rfl⟩
  have hs' : s'.Holds data (.failing "gone") := ⟨by decide, by decide, rfl⟩
  obtain ⟨hbehind, hpieces⟩ := pieces_told_by_bytes hs 2 1
  obtain ⟨hcomes, hcuts⟩ := hpieces _ hbehind
  obtain ⟨hcut, hsame⟩ := hcuts _ hcomes
  obtain ⟨hbehind', hpieces'⟩ := pieces_told_by_bytes hs' 2 1
  obtain ⟨hlast, hpiecesLast⟩ := pieces_told_by_bytes hs 2 2
  obtain ⟨hcomesLast, hcutsLast⟩ := hpiecesLast _ hlast
  refine ⟨hs, hs', ?_, hsame _ _ _ hs' hbehind' (hpieces' _ hbehind').1, ?_⟩
  · rw [hcut.full (by decide)]
    rfl
  · rw [(hcutsLast _ hcomesLast).1.unfilled (by decide)]
    rfl

end Source

end BlobStore
