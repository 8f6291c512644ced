import Mathlib
import BlobStore.SortedMap

/-!
# Sorted maps by their look-ups

Laws of insertion and removal, which follow from what each does to look-ups since look-ups determine
the map (`SortedMap.ext`), and the keys as the places where a look-up finds something.
-/

namespace BlobStore.SortedMap

variable {κ ν : Type} [LT κ] [DecidableEq κ]

theorem mem_keys {m : SortedMap κ ν} {k : κ} : k ∈ m.keys ↔ ∃ v, m.get? k = some v := by
  have hfind : k ∈ m.keys ↔ (m.entries.find? fun e => e.1 = k).isSome := by
    rw [List.find?_isSome, keys, List.mem_map]
    simp only [decide_eq_true_eq]
  rw [hfind, find?_eq_map_get?, Option.isSome_map, Option.isSome_iff_exists]

omit [DecidableEq κ] in
theorem pairwise_keys (m : SortedMap κ ν) : m.keys.Pairwise (· < ·) :=
  List.pairwise_map.mpr m.sorted

theorem contains_of_get? {m : SortedMap κ ν} {k : κ} {v : ν} (h : m.get? k = some v) :
    m.contains k = true := by
  rw [contains, h, Option.isSome_some]

theorem contains_eq_false {m : SortedMap κ ν} {k : κ} : m.contains k = false ↔ m.get? k = none := by
  simp [contains]

theorem get?_foldl_erase (m : SortedMap κ ν) (ks : List κ) (k : κ) :
    (ks.foldl erase m).get? k = if k ∈ ks then none else m.get? k := by
  induction ks generalizing m with
  | nil => simp
  | cons k' ks ih =>
    rw [List.foldl_cons, ih, get?_erase]
    by_cases hk : k ∈ ks
    · simp [hk]
    · by_cases he : k = k'
      · simp [he]
      · simp [hk, he]

theorem keys_erase (m : SortedMap κ ν) (k : κ) :
    (m.erase k).keys = m.keys.filter fun k' => k' ≠ k := by
  rw [keys, keys, erase, List.filter_map]
  rfl

theorem keys_foldl_erase (m : SortedMap κ ν) (ks : List κ) :
    (ks.foldl erase m).keys = m.keys.filter fun k => k ∉ ks := by
  induction ks generalizing m with
  | nil => simp
  | cons k' ks ih =>
    rw [List.foldl_cons, ih, keys_erase, List.filter_filter]
    refine List.filter_congr fun k _ => ?_
    rw [Bool.and_comm]
    simp

variable [DecidableLT κ] [LE κ] [Std.IsLinearOrder κ] [Std.LawfulOrderLT κ]

@[simp] theorem get?_insert_self (m : SortedMap κ ν) (k : κ) (v : ν) :
    (m.insert k v).get? k = some v := by
  rw [get?_insert, if_pos rfl]

@[simp] theorem contains_insert_self (m : SortedMap κ ν) (k : κ) (v : ν) :
    (m.insert k v).contains k = true := by
  simp [contains]

@[simp] theorem insert_insert (m : SortedMap κ ν) (k : κ) (v v' : ν) :
    (m.insert k v).insert k v' = m.insert k v' := by
  apply ext
  intro k'
  simp only [get?_insert]
  split <;> rfl

@[simp] theorem erase_insert (m : SortedMap κ ν) (k : κ) (v : ν) :
    (m.insert k v).erase k = m.erase k := by
  apply ext
  intro k'
  simp only [get?_insert, get?_erase]
  split <;> rfl

omit [DecidableLT κ] in
theorem erase_of_get?_eq_none {m : SortedMap κ ν} {k : κ} (h : m.get? k = none) : m.erase k = m := by
  apply ext
  intro k'
  rw [get?_erase]
  split
  · next hk => rw [hk, h]
  · rfl

/-! ## Sizes -/

omit [DecidableLT κ] [Std.IsLinearOrder κ] [DecidableEq κ] in
theorem nodup_keys (m : SortedMap κ ν) : m.keys.Nodup := by
  refine m.pairwise_keys.imp fun hlt heq => ?_
  rw [heq] at hlt
  exact Std.lt_irrefl hlt

omit [DecidableLT κ] [Std.IsLinearOrder κ] in
theorem size_erase {m : SortedMap κ ν} {k : κ} (h : m.contains k = true) :
    (m.erase k).size + 1 = m.size := by
  have hmem : k ∈ m.keys := mem_keys.mpr (Option.isSome_iff_exists.mp h)
  have hpos := List.length_pos_of_mem hmem
  have hkeys : (m.erase k).keys = m.keys.erase k := by
    rw [keys_erase, m.nodup_keys.erase_eq_filter]
    refine List.filter_congr fun k' _ => ?_
    simp [bne, beq_eq_decide]
  have hsize : ∀ m : SortedMap κ ν, m.size = m.keys.length := fun m => (List.length_map _).symm
  rw [hsize, hsize, hkeys, List.length_erase_of_mem hmem]
  omega

theorem size_insert (m : SortedMap κ ν) (k : κ) (v : ν) :
    (m.insert k v).size = if m.contains k = true then m.size else m.size + 1 := by
  have herase := size_erase (contains_insert_self m k v)
  rw [erase_insert] at herase
  split
  · next h =>
    rw [← herase, size_erase h]
  · next h =>
    rw [Bool.not_eq_true, contains_eq_false] at h
    rw [← herase, erase_of_get?_eq_none h]

end BlobStore.SortedMap
