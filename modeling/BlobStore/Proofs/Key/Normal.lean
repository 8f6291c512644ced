import Mathlib
import BlobStore.Proofs.Key

/-!
# Keys in normal form

A key in normal form is its names (`isNormal_iff`), and under every scope such keys begin with one
another just as they are written (`isPrefix_join_iff`). The beginning of such a key need not be in
normal form: it may break off behind a slash, or amid a name that starts with dots. Then joining
cleans its end away, and it means more than what begins with it (`exists_of_not_isNormal`).
-/

namespace BlobStore.Key

/-! ## Splitting what was glued -/

theorem split_glue {place : List Piece} (hne : place ≠ []) (h : ∀ p ∈ place, '/' ∉ p) :
    split (glue place) = place := by
  induction place with
  | nil => exact absurd rfl hne
  | cons p place ih =>
    obtain ⟨hp, hplace⟩ := List.forall_mem_cons.mp h
    have hsplit : split p = [p] := Text.pieces_of_not_mem hp
    cases place with
    | nil => rwa [show glue [p] = p from List.intercalate_singleton]
    | cons q place =>
      rw [glue_cons_cons, split_append_slash, hsplit, ih (List.cons_ne_nil q place) hplace]
      rfl

theorem glue_isPrefix {a b : List Piece} (h : a <+: b) : glue a <+: glue b := by
  obtain ⟨c, rfl⟩ := h
  by_cases ha : a = []
  · rw [ha]
    exact List.nil_prefix
  by_cases hc : c = []
  · rw [hc, List.append_nil]
  · rw [glue_append ha hc]
    exact List.prefix_append _ _

theorem glue_append_isPrefix_iff (scope : List Piece) {a b : List Piece} (ha : a ≠ [])
    (hb : b ≠ []) : glue (scope ++ a) <+: glue (scope ++ b) ↔ glue a <+: glue b := by
  by_cases hscope : scope = []
  · rw [hscope, List.nil_append, List.nil_append]
  · rw [glue_append hscope ha, glue_append hscope hb, List.prefix_append_right_inj,
      List.cons_prefix_cons, and_iff_right rfl]

/-! ## Normal forms -/

theorem not_isClimb_of_isName {p : Piece} (h : isName p = true) : isClimb p = false := by
  simp only [isName, Bool.and_eq_true, Bool.not_eq_true'] at h
  exact h.2

theorem isNormal_iff {text : String} :
    IsNormal text ↔ text = "" ∨ ∀ p ∈ split text.toList, isName p = true := by
  constructor
  · rintro ⟨place, hnames, hslash, htext⟩
    by_cases hplace : place = []
    · left
      rw [hplace] at htext
      exact String.toList_injective htext
    · right
      rw [htext, split_glue hplace fun p hp hin => hslash (List.mem_flatten.mpr ⟨p, hp, hin⟩)]
      exact hnames
  · rintro (rfl | hnames)
    · exact ⟨[], List.forall_mem_nil _, List.not_mem_nil, rfl⟩
    · refine ⟨split text.toList, hnames, fun hin => ?_, (glue_split _).symm⟩
      obtain ⟨p, hp, hslash⟩ := List.mem_flatten.mp hin
      exact not_mem_of_mem_split hp hslash

instance (text : String) : Decidable (IsNormal text) := decidable_of_iff _ isNormal_iff.symm

theorem split_ofList_glue {place : List Piece} (hne : place ≠ [])
    (hnames : ∀ p ∈ place, isName p = true) (hslash : ∀ p ∈ place, '/' ∉ p) :
    split (String.ofList (glue place)).toList = place ∧ IsNormal (.ofList (glue place)) := by
  have hsplit : split (String.ofList (glue place)).toList = place := by
    rw [String.toList_ofList, split_glue hne hslash]
  exact ⟨hsplit, isNormal_iff.mpr (.inr (hsplit.symm ▸ hnames))⟩

theorem toList_join_of_names (scope : String) {key : String}
    (h : ∀ p ∈ split key.toList, isName p = true) :
    (join scope key).toList = glue (names scope.toList ++ split key.toList) := by
  rw [toList_join_of_steady fun p hp => not_isClimb_of_isName (h p hp), List.filter_eq_self.mpr h]

theorem join_ne_empty (scope : String) {key : String} (h : IsNormal key) (hne : key ≠ "") :
    join scope key ≠ "" := by
  intro hempty
  have hjoin := toList_join_of_names scope ((isNormal_iff.mp h).resolve_left hne)
  rw [hempty] at hjoin
  by_cases hscope : names scope.toList = []
  · rw [hscope, List.nil_append, glue_split] at hjoin
    exact hne (String.toList_injective hjoin.symm)
  · rw [glue_append hscope (split_ne_nil _)] at hjoin
    simp at hjoin

/-- **Keys in normal form begin with one another as written**, whatever the scope. -/
theorem isPrefix_join_iff (scope : String) {k l : String} (hk : IsNormal k) (hl : IsNormal l)
    (hne : l ≠ "") :
    (join scope k).toList <+: (join scope l).toList ↔ k.toList <+: l.toList := by
  have hnames := (isNormal_iff.mp hl).resolve_left hne
  rw [toList_join_of_names scope hnames]
  rcases isNormal_iff.mp hk with rfl | hk
  · rw [← root, toList_root]
    exact iff_of_true (glue_isPrefix (List.prefix_append _ _)) List.nil_prefix
  · rw [toList_join_of_names scope hk, glue_append_isPrefix_iff _ (split_ne_nil _) (split_ne_nil _),
      glue_split, glue_split]

/-! ## Beginnings of normal forms -/

/-- A key in normal form begins like this. -/
def Leads (k : String) : Prop := ∃ key, IsNormal key ∧ k.toList <+: key.toList

theorem Leads.exists_split {k : String} (h : Leads k) : ∃ init last,
    split k.toList = init ++ [last] ∧ ∀ p ∈ init, isName p = true := by
  obtain ⟨key, hkey, rest, hrest⟩ := h
  obtain hnil | ⟨init, last, hsplit⟩ := List.eq_nil_or_concat (split k.toList)
  · exact absurd hnil (split_ne_nil _)
  rw [List.concat_eq_append] at hsplit
  refine ⟨init, last, hsplit, ?_⟩
  by_cases hinit : init = []
  · rw [hinit]
    exact List.forall_mem_nil _
  have hslash : ∀ p ∈ init, '/' ∉ p := fun p hp =>
    not_mem_of_mem_split (hsplit.symm ▸ List.mem_append_left [last] hp)
  have hk : k.toList = glue init ++ '/' :: last := by
    rw [← glue_split k.toList, hsplit, glue_append hinit (List.cons_ne_nil _ _)]
    congr 2
    exact List.intercalate_singleton
  rw [hk, List.append_assoc, List.cons_append] at hrest
  rcases isNormal_iff.mp hkey with rfl | hnames
  · simp at hrest
  · rw [← hrest, split_append_slash, split_glue hinit hslash] at hnames
    exact fun p hp => hnames p (List.mem_append_left _ hp)

theorem walkPiece_isPrefix {p : Piece} (h : isName p = false) (place : List Piece) :
    walkPiece place p <+: place := by
  unfold walkPiece
  split
  · exact List.prefix_rfl
  · next hidle =>
    split
    · exact List.dropLast_prefix place
    · next hclimb =>
      rw [Bool.not_eq_true] at hidle hclimb
      rw [isName, hidle, hclimb] at h
      cases h

theorem join_isPrefix {k : String} {init : List Piece} {last : Piece}
    (hsplit : split k.toList = init ++ [last]) (hinit : ∀ p ∈ init, isName p = true)
    (hlast : isName last = false) (scope : String) :
    (join scope k).toList <+: glue (names scope.toList ++ init) := by
  have hwalk : walk (names scope.toList) (init ++ [last]) =
      walkPiece (names scope.toList ++ init) last := by
    calc walk (names scope.toList) (init ++ [last])
      _ = walkPiece (walk (names scope.toList) init) last := List.foldl_append
      _ = walkPiece (names scope.toList ++ init) last := by
        rw [walk_of_forall_not_climb fun p hp => not_isClimb_of_isName (hinit p hp),
          List.filter_eq_self.mpr hinit]
  rw [toList_join, hsplit, hwalk]
  exact glue_isPrefix (walkPiece_isPrefix hlast _)

/-- **What joining cleans away is missed**: a beginning that is not in normal form means, under every
scope, also some key that does not begin with it. -/
theorem exists_of_not_isNormal {k : String} (h : Leads k) (hk : ¬ IsNormal k) :
    ∃ l, IsNormal l ∧ l ≠ "" ∧ ¬ k.toList <+: l.toList ∧
      ∀ scope, (join scope k).toList <+: (join scope l).toList := by
  obtain ⟨init, last, hsplit, hinit⟩ := h.exists_split
  have hlast : isName last = false := by
    rw [Bool.eq_false_iff]
    intro hlast
    refine hk (isNormal_iff.mpr (.inr ?_))
    rw [hsplit, List.forall_mem_append]
    exact ⟨hinit, List.forall_mem_singleton.mpr hlast⟩
  have hglue : k.toList = glue (init ++ [last]) := by rw [← hsplit, glue_split]
  by_cases hnil : init = []
  · -- there is no name at all, so that every key is meant
    rw [hnil, List.nil_append, show glue [last] = last from List.intercalate_singleton] at hglue
    refine ⟨"0", by decide, by decide, fun hprefix => ?_, fun scope => ?_⟩
    · rw [hglue, show "0".toList = ['0'] from rfl, List.prefix_cons_iff] at hprefix
      rcases hprefix with rfl | ⟨rest, rfl, hrest⟩
      · exact hk (isNormal_iff.mpr (.inl (String.toList_injective hglue)))
      · rw [List.prefix_nil.mp hrest] at hlast
        cases hlast
    · have hzero : (join scope "0").toList = glue (names scope.toList ++ [['0']]) :=
        toList_join_of_names scope (by decide)
      rw [hzero]
      refine (join_isPrefix hsplit hinit hlast scope).trans (glue_isPrefix ?_)
      rw [hnil, List.append_nil]
      exact List.prefix_append _ _
  · have hslash : ∀ p ∈ init, '/' ∉ p := fun p hp =>
      not_mem_of_mem_split (hsplit.symm ▸ List.mem_append_left [last] hp)
    obtain ⟨hsplit', hnormal⟩ := split_ofList_glue hnil hinit hslash
    refine ⟨_, hnormal, fun hempty => ?_, fun hprefix => ?_, fun scope => ?_⟩
    · rw [hempty] at hsplit'
      rw [← hsplit'] at hinit
      cases hinit [] (List.mem_singleton.mpr rfl)
    · have hlength := hprefix.length_le
      rw [hglue, glue_append hnil (List.cons_ne_nil _ _), String.toList_ofList, List.length_append,
        List.length_cons] at hlength
      omega
    · have hjoin : (join scope (.ofList (glue init))).toList = glue (names scope.toList ++ init) := by
        rw [toList_join_of_names scope (hsplit'.symm ▸ hinit), hsplit']
      rw [hjoin]
      exact join_isPrefix hsplit hinit hlast scope

end BlobStore.Key
