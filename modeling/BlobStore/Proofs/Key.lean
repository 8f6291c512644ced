import Mathlib
import BlobStore.Key

/-!
# Where joined keys lie

A key that never goes back only adds its names behind those of the scope
(`walk_of_forall_not_climb`), so that its object lies under the root of the scope: it is the root if
the key has no names (`join_of_nameless`), and else it starts with the root and a slash
(`join_of_named`). No key lies under two roots that are apart.
-/

namespace BlobStore.Key

/-! ## Walking -/

theorem walk_of_forall_not_climb {place pieces : List Piece}
    (h : ∀ p ∈ pieces, isClimb p = false) : walk place pieces = place ++ pieces.filter isName := by
  induction pieces generalizing place with
  | nil => simp [walk]
  | cons p pieces ih =>
    have hstep : walkPiece place p = place ++ [p].filter isName := by
      have hp := h p (by simp)
      unfold walkPiece
      by_cases hidle : isIdle p = true
      · simp [hidle, isName]
      · simp [hidle, hp, isName]
    have hrest : walk (walkPiece place p) pieces = walkPiece place p ++ pieces.filter isName :=
      ih fun q hq => h q (by simp [hq])
    rw [walk, List.foldl_cons, ← walk, hrest, hstep, List.append_assoc, ← List.filter_append,
      List.singleton_append]

/-! ## Glueing -/

theorem glue_cons_cons (p q : Piece) (pieces : List Piece) :
    glue (p :: q :: pieces) = p ++ '/' :: glue (q :: pieces) := by
  rw [glue, List.intercalate_cons_cons, List.append_assoc]
  rfl

theorem glue_append {a b : List Piece} (ha : a ≠ []) (hb : b ≠ []) :
    glue (a ++ b) = glue a ++ '/' :: glue b := by
  obtain ⟨q, b, rfl⟩ := List.ne_nil_iff_exists_cons.mp hb
  induction a with
  | nil => exact absurd rfl ha
  | cons p a ih =>
    cases a with
    | nil =>
      rw [List.singleton_append, glue_cons_cons,
        show glue [p] = p from List.intercalate_singleton]
    | cons p' a =>
      have h := ih (List.cons_ne_nil p' a)
      rw [List.cons_append, List.cons_append, glue_cons_cons, glue_cons_cons, ← List.cons_append, h,
        List.append_assoc]
      rfl

/-! ## Keys under a scope -/

/-- The object under which the names of the scope alone lead. -/
def root (scope : String) : String := join scope ""

/-- The key never goes back. -/
def Steady (key : String) : Prop := ∀ p ∈ split key.toList, isClimb p = false

/-- The key adds no name to its scope. -/
def Nameless (key : String) : Prop := (split key.toList).filter isName = []

instance (key : String) : Decidable (Steady key) := inferInstanceAs (Decidable (∀ _ ∈ _, _))

instance (key : String) : Decidable (Nameless key) := inferInstanceAs (Decidable (_ = _))

theorem toList_join (scope key : String) :
    (join scope key).toList = glue (walk (names scope.toList) (split key.toList)) := by
  rw [join, String.toList_ofList, names_append_slash]

theorem toList_root (scope : String) : (root scope).toList = glue (names scope.toList) := by
  rw [root, toList_join]
  rfl

theorem toList_join_of_steady {scope key : String} (h : Steady key) : (join scope key).toList =
    glue (names scope.toList ++ (split key.toList).filter isName) := by
  rw [toList_join, walk_of_forall_not_climb h]

theorem join_of_nameless {scope key : String} (h : Steady key) (hname : Nameless key) :
    join scope key = root scope := by
  apply String.toList_injective
  rw [toList_join_of_steady h, toList_root, hname, List.append_nil]

theorem join_of_named {scope key : String} (h : Steady key) (hname : ¬ Nameless key)
    (hroot : root scope ≠ "") :
    ∃ rest, (join scope key).toList = (root scope).toList ++ '/' :: rest := by
  have hnames : names scope.toList ≠ [] := by
    intro hnil
    apply hroot
    apply String.toList_injective
    rw [toList_root, hnil]
    rfl
  refine ⟨glue ((split key.toList).filter isName), ?_⟩
  rw [toList_join_of_steady h, toList_root, glue_append hnames hname]

/-! ## Under a root -/

/-- The object is the one at the root, or lies behind a slash under it. -/
def Within (root key : String) : Prop := key = root ∨ root.toList ++ ['/'] <+: key.toList

instance (root key : String) : Decidable (Within root key) :=
  inferInstanceAs (Decidable (_ ∨ _))

/-- Neither root lies under the other. -/
def Apart (root root' : String) : Prop := ¬ Within root root' ∧ ¬ Within root' root

instance (root root' : String) : Decidable (Apart root root') :=
  inferInstanceAs (Decidable (_ ∧ _))

theorem within_join {scope key : String} (h : Steady key) (hroot : root scope ≠ "") :
    Within (root scope) (join scope key) := by
  by_cases hname : Nameless key
  · exact .inl (join_of_nameless h hname)
  · obtain ⟨rest, hrest⟩ := join_of_named h hname hroot
    exact .inr ⟨rest, by rw [hrest, List.append_assoc]; rfl⟩

theorem within_of_isPrefix {scope key k : String} (h : Steady key) (hname : ¬ Nameless key)
    (hroot : root scope ≠ "") (hk : (join scope key).toList <+: k.toList) :
    Within (root scope) k := by
  obtain ⟨rest, hrest⟩ := join_of_named h hname hroot
  refine .inr (List.IsPrefix.trans ⟨rest, ?_⟩ hk)
  rw [hrest, List.append_assoc]
  rfl

theorem within_of_isPrefix_of_isPrefix {r r' : String} {k : List Char}
    (h : r.toList ++ ['/'] <+: k) (h' : r'.toList ++ ['/'] <+: k)
    (hle : r.toList.length ≤ r'.toList.length) : Within r r' := by
  have hprefix : r.toList ++ ['/'] <+: r'.toList ++ ['/'] := by
    refine List.prefix_of_prefix_length_le h h' ?_
    rw [List.length_append, List.length_append]
    exact Nat.add_le_add_right hle 1
  rcases List.prefix_concat_iff.mp hprefix with heq | hlt
  · exact .inl (String.toList_injective (List.append_cancel_right heq).symm)
  · exact .inr hlt

/-- **No key lies under two roots that are apart.** -/
theorem Apart.not_within {r r' k : String} (h : Apart r r') (hk : Within r k) : ¬ Within r' k := by
  rintro hk'
  rcases hk with rfl | hk
  · exact h.2 hk'
  · rcases hk' with rfl | hk'
    · exact h.1 (.inr hk)
    · rcases Nat.le_total r.toList.length r'.toList.length with hle | hle
      · exact h.1 (within_of_isPrefix_of_isPrefix hk hk' hle)
      · exact h.2 (within_of_isPrefix_of_isPrefix hk' hk hle)

end BlobStore.Key
