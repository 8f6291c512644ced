import Mathlib
import BlobStore.Proofs.Client
import BlobStore.Proofs.Source
import BlobStore.Upload

/-!
# The parts of an upload

A `Task` is an upload with its source known by the bytes that it holds and by how it ends. Its
pieces are cut off one behind the other (`joined_eq`), all of the part size but the last, and
`count` of them are parts to send.
-/

namespace BlobStore.Upload

/-- An upload, with its source known by what it holds. -/
structure Task where
  key : String
  acl : Option String
  partSize : Nat
  data : ByteArray
  ending : SourceEnd

namespace Task

variable (t : Task)

/-- The `i`-th piece of the bytes, counted from zero. The last may be shorter than the others. -/
def piece (i : Nat) : ByteArray := t.data.extract (i * t.partSize) ((i + 1) * t.partSize)

/-- How many parts there are to send. What follows the last full piece is a part only if the source
ends there. -/
def count : Nat :=
  match t.ending with
  | .finished => (t.data.size + t.partSize - 1) / t.partSize
  | _ => t.data.size / t.partSize

def behind (i : Nat) : ByteArray := t.data.extract ((i + 1) * t.partSize) t.data.size

variable {t}

theorem lt_count_of_finished (h : t.ending = .finished) (hpos : 0 < t.partSize) (i : Nat) :
    i < t.count ↔ i * t.partSize < t.data.size := by
  rw [count, h]
  rw [Nat.lt_iff_add_one_le, Nat.le_div_iff_mul_le hpos, Nat.succ_mul]
  omega

theorem lt_count_of_ne_finished (h : t.ending ≠ .finished) (hpos : 0 < t.partSize) (i : Nat) :
    i < t.count ↔ (i + 1) * t.partSize ≤ t.data.size := by
  have hcount : t.count = t.data.size / t.partSize := by
    unfold count
    split
    · next he => exact absurd he h
    · rfl
  rw [hcount, Nat.lt_iff_add_one_le, Nat.le_div_iff_mul_le hpos]

theorem mul_lt_of_lt_count (hpos : 0 < t.partSize) {i : Nat} (h : i < t.count) :
    i * t.partSize < t.data.size := by
  by_cases he : t.ending = .finished
  · exact (lt_count_of_finished he hpos i).mp h
  · have := (lt_count_of_ne_finished he hpos i).mp h
    rw [Nat.succ_mul] at this
    omega

theorem mul_le_of_succ_lt_count (hpos : 0 < t.partSize) {i : Nat} (h : i + 1 < t.count) :
    (i + 1) * t.partSize ≤ t.data.size :=
  Nat.le_of_lt (mul_lt_of_lt_count hpos h)

theorem count_pos (hpos : 0 < t.partSize) (hsize : t.partSize ≤ t.data.size) : 0 < t.count := by
  by_cases he : t.ending = .finished
  · rw [lt_count_of_finished he hpos]
    omega
  · rw [lt_count_of_ne_finished he hpos]
    omega

/-! ### Pieces -/

theorem size_piece (i : Nat) :
    (t.piece i).size = min ((i + 1) * t.partSize) t.data.size - i * t.partSize := by
  rw [piece, ByteArray.size_extract]

theorem size_piece_of_le {i : Nat} (h : (i + 1) * t.partSize ≤ t.data.size) :
    (t.piece i).size = t.partSize := by
  rw [size_piece, Nat.min_eq_left h, Nat.succ_mul]
  omega

theorem size_piece_cases (hpos : 0 < t.partSize) {i : Nat} (h : i < t.count) :
    (t.piece i).size = t.partSize ∨
      (t.ending = .finished ∧ i + 1 = t.count ∧ 0 < (t.piece i).size ∧
        (t.piece i).size < t.partSize) := by
  by_cases hfull : (i + 1) * t.partSize ≤ t.data.size
  · exact .inl (size_piece_of_le hfull)
  · right
    have he : t.ending = .finished := by
      by_contra he
      exact hfull ((lt_count_of_ne_finished he hpos i).mp h)
    have hlt := (lt_count_of_finished he hpos i).mp h
    have hlast : ¬ i + 1 < t.count := by
      rw [lt_count_of_finished he hpos]
      omega
    refine ⟨he, by omega, ?_, ?_⟩
    · rw [size_piece]; omega
    · rw [size_piece]; rw [Nat.succ_mul] at hfull ⊢; omega

theorem piece_append_behind (i : Nat) :
    t.piece (i + 1) ++ t.behind (i + 1) = t.behind i := by
  have hle : (i + 1) * t.partSize ≤ (i + 1 + 1) * t.partSize :=
    Nat.mul_le_mul_right _ (Nat.le_succ _)
  rw [piece, behind, behind, ByteArray.extract_append_extract, Nat.min_eq_left hle,
    Source.extract_of_size_le _ _ (Nat.le_max_right _ _)]

theorem piece_zero_append_behind (h : t.partSize ≤ t.data.size) :
    t.piece 0 ++ t.behind 0 = t.data := by
  simp only [piece, behind, Nat.zero_mul, Nat.zero_add, Nat.one_mul]
  exact Source.extract_append_rest t.data h

/-- The first `j` pieces, one behind the other. -/
def joined (t : Task) : Nat → ByteArray
  | 0 => .empty
  | j + 1 => joined t j ++ t.piece j

theorem joined_eq (j : Nat) : t.joined j = t.data.extract 0 (j * t.partSize) := by
  induction j with
  | zero => simp [joined]
  | succ j ih =>
    have hle : j * t.partSize ≤ (j + 1) * t.partSize := Nat.mul_le_mul_right _ (Nat.le_succ _)
    rw [joined, ih, piece, ← ByteArray.extract_eq_extract_append_extract _ (Nat.zero_le _) hle]

theorem joined_count (h : t.ending = .finished) (hpos : 0 < t.partSize) :
    t.joined t.count = t.data := by
  have hle : ¬ t.count * t.partSize < t.data.size := by
    rw [← lt_count_of_finished h hpos]
    exact Nat.lt_irrefl _
  rw [joined_eq, Source.extract_of_size_le _ _ (Nat.not_lt.mp hle), ByteArray.extract_zero_size]

end Task

end BlobStore.Upload
