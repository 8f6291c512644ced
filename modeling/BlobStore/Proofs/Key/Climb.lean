import Mathlib
import BlobStore.Proofs.Key.Join

/-!
# How far a key climbs

Walked alone, a key can meet the root with some of its `..`, and then there is nothing to take back.
Under a scope just these take back names of the scope (`walk_append`), so that the object of the key
is found by dropping as many names from the scope and going on as the key does alone
(`join_drops_climbs`).
-/

namespace BlobStore.Key

/-- The segments of a text: its pieces without the empty ones. -/
def segments (text : String) : List Piece := (split text.toList).filter fun p => p ≠ []

/-- How many of the pieces go back where there is nothing to go back from, on a walk from `place`. -/
def overshoots (place : List Piece) : List Piece → Nat
  | [] => 0
  | p :: pieces =>
    (if isClimb p ∧ place = [] then 1 else 0) + overshoots (walkPiece place p) pieces

/-- How many `..` of a key find nothing to take back when the key is walked alone. -/
def climbs (key : String) : Nat := overshoots [] (split key.toList)

/-! ## Walking below other names -/

theorem walkPiece_append (above place : List Piece) (p : Piece) : walkPiece (above ++ place) p =
    above.rdrop (if isClimb p ∧ place = [] then 1 else 0) ++ walkPiece place p := by
  unfold walkPiece
  by_cases hidle : isIdle p = true
  · have hclimb : isClimb p = false := by
      rcases (by simpa [isIdle] using hidle : p = [] ∨ p = ['.']) with rfl | rfl <;> rfl
    simp [hidle, hclimb]
  by_cases hclimb : isClimb p = true
  · by_cases hplace : place = []
    · simp [hidle, hclimb, hplace, List.rdrop, List.dropLast_eq_take]
    · simp [hidle, hclimb, hplace, List.dropLast_append_of_ne_nil]
  · simp [hidle, hclimb]

/-- **A walk below other names** takes back as many of these as it overshoots, and is the same
otherwise. -/
theorem walk_append (above place pieces : List Piece) :
    walk (above ++ place) pieces = above.rdrop (overshoots place pieces) ++ walk place pieces := by
  induction pieces generalizing above place with
  | nil => simp [walk, overshoots]
  | cons p pieces ih =>
    have hstep : walk (above ++ place) (p :: pieces) = walk (walkPiece (above ++ place) p) pieces :=
      rfl
    rw [hstep, walkPiece_append, ih, List.rdrop_add]
    rfl

/-! ## Segments of joined keys -/

theorem segments_of_toList {text : String} {place : List Piece} (h : IsPlace place)
    (htext : text.toList = glue place) : segments text = place := by
  by_cases hnil : place = []
  · rw [segments, htext, hnil]
    rfl
  · rw [segments, htext, split_glue hnil fun p hp => (h p hp).2]
    refine List.filter_eq_self.mpr fun p hp => ?_
    simpa using (isName_iff.mp (h p hp).1).1

theorem segments_join (scope key : String) :
    segments (join scope key) = walk (names scope.toList) (split key.toList) :=
  segments_of_toList (isPlace_walk_names _ _) (toList_join scope key)

theorem segments_join_empty (text : String) : segments (join "" text) = names text.toList :=
  segments_join "" text

theorem isPlace_segments_join (scope key : String) : IsPlace (segments (join scope key)) := by
  rw [segments_join]
  exact isPlace_walk_names _ _

theorem glue_segments_join (scope key : String) :
    glue (segments (join scope key)) = (join scope key).toList := by
  rw [segments_join, toList_join]

theorem join_eq_iff {scope key scope' key' : String} :
    join scope key = join scope' key' ↔ segments (join scope key) = segments (join scope' key') := by
  refine ⟨congrArg segments, fun h => String.toList_injective ?_⟩
  rw [← glue_segments_join, h, glue_segments_join]

theorem segments_join_eq (scope key : String) : segments (join scope key) =
    (segments (join "" scope)).rdrop (climbs key) ++ segments (join "" key) := by
  have hwalk := walk_append (names scope.toList) [] (split key.toList)
  rw [List.append_nil] at hwalk
  rw [segments_join, segments_join_empty, segments_join_empty, hwalk]
  rfl

theorem rdrop_min_length {α : Type} (l : List α) (n : Nat) : l.rdrop (min n l.length) = l.rdrop n := by
  rw [List.rdrop, List.rdrop]
  congr 1
  omega

theorem rdrop_replicate {α : Type} (a : α) (m n : Nat) :
    (List.replicate m a).rdrop n = List.replicate (m - n) a := by
  simp [List.rdrop]

theorem rdrop_isPrefix {α : Type} (l : List α) {m n : Nat} (h : m ≤ n) : l.rdrop n <+: l.rdrop m := by
  rw [List.rdrop, List.rdrop]
  exact List.take_prefix_take_left (by omega)

theorem within_join_of_climbs {scope key : String} (h : climbs key = 0) (hroot : join "" scope ≠ "") :
    Within (join "" scope) (join scope key) := by
  have hjoin := segments_join_eq scope key
  rw [h, List.rdrop_zero] at hjoin
  by_cases hkey : segments (join "" key) = []
  · left
    rw [hkey, List.append_nil] at hjoin
    exact join_eq_iff.mpr hjoin
  · right
    have hscope : segments (join "" scope) ≠ [] := by
      intro hnil
      apply hroot
      apply String.toList_injective
      rw [← glue_segments_join, hnil]
      rfl
    refine ⟨glue (segments (join "" key)), ?_⟩
    rw [← glue_segments_join scope key, hjoin, glue_append hscope hkey, glue_segments_join "" scope]
    simp

theorem exists_scope (key : String) (n : Nat) : ∃ scope name,
    segments (join "" scope) = List.replicate n name ∧ (segments (join "" key)).head? ≠ some name := by
  obtain ⟨name, hname, hhead⟩ : ∃ name : Piece, (isName name = true ∧ '/' ∉ name) ∧
      (segments (join "" key)).head? ≠ some name := by
    by_cases ha : (segments (join "" key)).head? = some ['a']
    · refine ⟨['b'], by decide, ?_⟩
      rw [ha]
      decide
    · exact ⟨['a'], by decide, ha⟩
  have hplace : IsPlace (List.replicate n name) := fun p hp => by
    rwa [List.eq_of_mem_replicate hp]
  refine ⟨.ofList (glue (List.replicate n name)), name, ?_, hhead⟩
  rw [segments_join_empty, String.toList_ofList, names_glue hplace]

/-- The key leaves no more than `n` names of any scope exactly if it climbs by no more. -/
theorem climbs_le_iff (key : String) (n : Nat) : climbs key ≤ n ↔
    ∀ scope, (segments (join "" scope)).rdrop n <+: segments (join scope key) := by
  constructor
  · intro h scope
    have hkept : (segments (join "" scope)).rdrop (climbs key) <+: segments (join scope key) := by
      rw [segments_join_eq scope key]
      exact List.prefix_append _ _
    exact (rdrop_isPrefix _ h).trans hkept
  · intro h
    by_contra hlt
    rw [Nat.not_le] at hlt
    obtain ⟨scope, name, hscope, hhead⟩ := exists_scope key (climbs key)
    have hprefix := h scope
    rw [segments_join_eq scope key, hscope, rdrop_replicate, rdrop_replicate, Nat.sub_self, List.replicate_zero,
      List.nil_append] at hprefix
    obtain ⟨rest, hrest⟩ := hprefix
    obtain ⟨d, hd⟩ : ∃ d, climbs key - n = d + 1 := ⟨climbs key - n - 1, by omega⟩
    rw [hd, List.replicate_succ, List.cons_append] at hrest
    exact hhead (by rw [← hrest, List.head?_cons])

/-- **What a key takes back.** The segments of a joined key are those of the scope, of which the last
ones are dropped, one for each `..` of the key that finds nothing to take back, and then those of the
key. So a key without any lies at its scope or under it, and two such keys mean the same object just
if they do at the root; and a key leaves its scope by as many names as it has of them, but not
beyond the root. -/
theorem join_drops_climbs :
    (∀ p k, segments (join p k) =
      (segments (join "" p)).rdrop (min (climbs k) (segments (join "" p)).length) ++
        segments (join "" k)) ∧
    (∀ p k, climbs k = 0 → segments (join "" p) <+: segments (join p k) ∧
      (join "" p ≠ "" → Within (join "" p) (join p k))) ∧
    (∀ p k₁ k₂, climbs k₁ = 0 → climbs k₂ = 0 →
      (join p k₁ = join p k₂ ↔ join "" k₁ = join "" k₂)) ∧
    (∀ k n, climbs k ≤ n ↔ ∀ p, (segments (join "" p)).rdrop n <+: segments (join p k)) ∧
    (∀ p k, (segments (join "" p)).length ≤ climbs k → join p k = join "" k) ∧
    ∀ p k, ['.', '.'] ∉ segments (join p k) := by
  refine ⟨fun p k => ?_, fun p k hk => ⟨?_, within_join_of_climbs hk⟩, fun p k₁ k₂ h₁ h₂ => ?_,
    climbs_le_iff, fun p k hle => ?_, fun p k hin => ?_⟩
  · rw [rdrop_min_length]
    exact segments_join_eq p k
  · have hprefix := (climbs_le_iff k 0).mp (Nat.le_of_eq hk) p
    rwa [List.rdrop_zero] at hprefix
  · rw [join_eq_iff, join_eq_iff, segments_join_eq p k₁, segments_join_eq p k₂, h₁, h₂,
      List.append_cancel_left_eq]
  · have hnone : (segments (join "" p)).rdrop (climbs k) = [] := by
      rw [List.rdrop, Nat.sub_eq_zero_of_le hle, List.take_zero]
    rw [join_eq_iff, segments_join_eq p k, hnone, List.nil_append]
  · exact (isName_iff.mp (isPlace_segments_join p k _ hin).1).2.2 rfl

theorem join_drops_climbs_neighbour :
    climbs "a/../../b" = 1 ∧ segments (join "logs/ci" "a/../../b") = ["logs".toList, ['b']] ∧
      climbs "b/./c" = 0 ∧ climbs "/b//c/" = 0 ∧ join "logs" "b/./c" = join "logs" "/b//c/" := by
  have hclimbs : climbs "a/../../b" = 1 := by decide
  have h₁ : climbs "b/./c" = 0 := by decide
  have h₂ : climbs "/b//c/" = 0 := by decide
  refine ⟨hclimbs, (join_drops_climbs.1 "logs/ci" "a/../../b").trans ?_, h₁, h₂,
    (join_drops_climbs.2.2.1 "logs" "b/./c" "/b//c/" h₁ h₂).mpr ?_⟩
  · decide
  · decide

end BlobStore.Key
