import Mathlib
import BlobStore.Proofs.Key.Normal

/-!
# Joining as a normaliser

A joined key is in normal form, which is to say that it is `Clean`, and clean texts are their own
keys at the root (`join_normalizes`). So joining can be done in steps, and whatever is put between
the names of scope and key without saying anything (`Padded`) does not show.
-/

namespace BlobStore.Key

/-! ## Places that walks lead to -/

/-- All pieces are names that can stand in a text. -/
def IsPlace (place : List Piece) : Prop := ∀ p ∈ place, isName p = true ∧ '/' ∉ p

theorem isPlace_nil : IsPlace [] := List.forall_mem_nil _

theorem IsPlace.walkPiece {place : List Piece} (h : IsPlace place) {p : Piece} (hp : '/' ∉ p) :
    IsPlace (walkPiece place p) := by
  unfold Key.walkPiece
  split
  · exact h
  · next hidle =>
    split
    · intro q hq
      exact h q (List.mem_of_mem_dropLast hq)
    · next hclimb =>
      have hname : isName p = true := by simp [isName, hidle, hclimb]
      intro q hq
      rcases List.mem_append.mp hq with hq | hq
      · exact h q hq
      · obtain rfl := List.mem_singleton.mp hq
        exact ⟨hname, hp⟩

theorem IsPlace.walk {place pieces : List Piece} (h : IsPlace place)
    (hpieces : ∀ p ∈ pieces, '/' ∉ p) : IsPlace (walk place pieces) := by
  induction pieces generalizing place with
  | nil => exact h
  | cons p pieces ih =>
    obtain ⟨hp, hrest⟩ := List.forall_mem_cons.mp hpieces
    exact ih (h.walkPiece hp) hrest

theorem isPlace_names (text : List Char) : IsPlace (names text) :=
  isPlace_nil.walk fun _ hp => not_mem_of_mem_split hp

theorem isPlace_walk_names (scope key : List Char) : IsPlace (walk (names scope) (split key)) :=
  (isPlace_names scope).walk fun _ hp => not_mem_of_mem_split hp

theorem names_glue {place : List Piece} (h : IsPlace place) : names (glue place) = place := by
  by_cases hnil : place = []
  · rw [hnil]
    rfl
  · have hclimb : ∀ p ∈ place, isClimb p = false := fun p hp => not_isClimb_of_isName (h p hp).1
    have hnames : place.filter isName = place := List.filter_eq_self.mpr fun p hp => (h p hp).1
    rw [names, split_glue hnil fun p hp => (h p hp).2, walk_of_forall_not_climb hclimb, hnames,
      List.nil_append]

theorem names_toList_join (scope key : String) :
    names (join scope key).toList = walk (names scope.toList) (split key.toList) := by
  rw [toList_join, names_glue (isPlace_walk_names _ _)]

theorem toList_join_empty (text : String) : (join "" text).toList = glue (names text.toList) := by
  rw [toList_join]
  rfl

/-! ## Normal form, seen from the text -/

/-- No slash leads, trails or is doubled, and no name is made of one or two dots. -/
structure Clean (text : String) : Prop where
  not_leading : text.toList.head? ≠ some '/'
  not_trailing : text.toList.getLast? ≠ some '/'
  not_doubled : ¬ ['/', '/'] <:+: text.toList
  not_dots : ∀ p ∈ split text.toList, p ≠ ['.'] ∧ p ≠ ['.', '.']

theorem isName_iff {p : Piece} : isName p = true ↔ p ≠ [] ∧ p ≠ ['.'] ∧ p ≠ ['.', '.'] := by
  simp [isName, isIdle, isClimb, and_assoc]

theorem cases_of_nil_mem_split {text : List Char} (h : [] ∈ split text) :
    text = [] ∨ text.head? = some '/' ∨ text.getLast? = some '/' ∨ ['/', '/'] <:+: text := by
  obtain ⟨before, behind, hsplit⟩ := List.append_of_mem h
  have hempty : glue [[]] = [] := List.intercalate_singleton
  have htext : text = glue (before ++ [[]] ++ behind) := by
    rw [List.append_assoc, List.singleton_append, ← hsplit, glue_split]
  by_cases hbefore : before = []
  · by_cases hbehind : behind = []
    · left
      rw [htext, hbefore, hbehind]
      exact hempty
    · right; left
      rw [htext, hbefore, List.nil_append, glue_append (List.cons_ne_nil _ _) hbehind, hempty]
      rfl
  · right; right
    have hfront : glue (before ++ [[]]) = glue before ++ ['/'] := by
      rw [glue_append hbefore (List.cons_ne_nil _ _), hempty]
    by_cases hbehind : behind = []
    · left
      rw [htext, hbehind, List.append_nil, hfront, List.getLast?_concat]
    · right
      refine ⟨glue before, glue behind, ?_⟩
      rw [htext, glue_append (by simp) hbehind, hfront]
      simp

theorem isNormal_iff_clean {text : String} : IsNormal text ↔ Clean text := by
  rw [isNormal_iff]
  constructor
  · rintro (rfl | hnames)
    · exact ⟨by decide, by decide, by decide, by decide⟩
    have hempty : [] ∉ split text.toList := fun h => absurd (hnames [] h) (by decide)
    refine ⟨fun h => hempty ?_, fun h => hempty ?_, fun h => hempty ?_, fun p hp => ?_⟩
    · obtain ⟨rest, hrest⟩ := List.head?_eq_some_iff.mp h
      rw [hrest, split_slash]
      exact List.mem_cons_self
    · obtain ⟨init, hinit⟩ := List.getLast?_eq_some_iff.mp h
      rw [hinit, split_append_slash]
      exact List.mem_append_right _ List.mem_cons_self
    · obtain ⟨before, behind, htext⟩ := h
      have htext : text.toList = before ++ '/' :: '/' :: behind := by simp [← htext]
      rw [htext, split_append_slash, split_slash]
      exact List.mem_append_right _ List.mem_cons_self
    · exact (isName_iff.mp (hnames p hp)).2
  · intro h
    by_cases htext : text = ""
    · exact .inl htext
    · refine .inr fun p hp => isName_iff.mpr ⟨?_, h.not_dots p hp⟩
      rintro rfl
      rcases cases_of_nil_mem_split hp with hnil | hlead | htrail | hdouble
      · exact htext (String.toList_injective hnil)
      · exact h.not_leading hlead
      · exact h.not_trailing htrail
      · exact h.not_doubled hdouble

theorem isNormal_join (scope key : String) : IsNormal (join scope key) := by
  have hplace := isPlace_walk_names scope.toList key.toList
  refine ⟨_, fun p hp => (hplace p hp).1, fun hin => ?_, toList_join scope key⟩
  obtain ⟨p, hp, hslash⟩ := List.mem_flatten.mp hin
  exact (hplace p hp).2 hslash

theorem join_empty_of_isNormal {text : String} (h : IsNormal text) : join "" text = text := by
  obtain ⟨place, hnames, hslash, htext⟩ := h
  have hplace : IsPlace place := fun p hp =>
    ⟨hnames p hp, fun hin => hslash (List.mem_flatten.mpr ⟨p, hp, hin⟩)⟩
  apply String.toList_injective
  rw [toList_join_empty, htext, names_glue hplace]

theorem join_join (a b c : String) : join (join a b) c = join a (b ++ "/" ++ c) := by
  apply String.toList_injective
  have htext : (b ++ "/" ++ c).toList = b.toList ++ '/' :: c.toList := by simp
  have hwalk : walk (names a.toList) (split b.toList ++ split c.toList) =
      walk (walk (names a.toList) (split b.toList)) (split c.toList) := List.foldl_append
  rw [toList_join (join a b), names_toList_join, toList_join, htext, split_append_slash, hwalk]

/-! ## Slashes and dots that say nothing -/

/-- A segment can start behind the text. -/
def Opens (text : List Char) : Prop := text = [] ∨ text.getLast? = some '/'

/-- A segment can end in front of the text. -/
def Closes (text : List Char) : Prop := text = [] ∨ text.head? = some '/'

/-- The second text is the first one with a slash put at its start, at its end or beside another
slash, or with a segment `.` put anywhere. -/
inductive Padded : List Char → List Char → Prop
  | slash {x y : List Char} (h : Opens x ∨ Closes y) : Padded (x ++ y) (x ++ '/' :: y)
  | dotBefore {x : List Char} (y : List Char) (hx : Opens x) : Padded (x ++ y) (x ++ '.' :: '/' :: y)
  | dotBehind (x : List Char) {y : List Char} (hy : Closes y) :
    Padded (x ++ y) (x ++ '/' :: '.' :: y)
  | dotAlone {x y : List Char} (hx : Opens x) (hy : Closes y) : Padded (x ++ y) (x ++ '.' :: y)

/-- The pieces of a text at which a walk does something. -/
def moves (text : List Char) : List Piece := (split text).filter fun p => !isIdle p

theorem walk_filter (place pieces : List Piece) :
    walk place (pieces.filter fun p => !isIdle p) = walk place pieces := by
  induction pieces generalizing place with
  | nil => rfl
  | cons p pieces ih =>
    cases hidle : isIdle p with
    | false =>
      rw [List.filter_cons_of_pos (by simp [hidle])]
      exact ih (walkPiece place p)
    | true =>
      have hstay : walkPiece place p = place := by simp [walkPiece, hidle]
      rw [List.filter_cons_of_neg (by simp [hidle]), ih, walk, walk, List.foldl_cons, hstay]

theorem moves_append_slash (x y : List Char) : moves (x ++ '/' :: y) = moves x ++ moves y := by
  rw [moves, split_append_slash, List.filter_append]
  rfl

theorem moves_nil : moves [] = [] := rfl

theorem moves_append {x y : List Char} (h : Opens x ∨ Closes y) :
    moves (x ++ y) = moves x ++ moves y := by
  rcases h with (rfl | hx) | (rfl | hy)
  · rw [moves_nil, List.nil_append, List.nil_append]
  · obtain ⟨init, rfl⟩ := List.getLast?_eq_some_iff.mp hx
    rw [List.append_assoc, List.singleton_append, moves_append_slash, moves_append_slash, moves_nil,
      List.append_nil]
  · rw [moves_nil, List.append_nil, List.append_nil]
  · obtain ⟨rest, rfl⟩ := List.head?_eq_some_iff.mp hy
    rw [moves_append_slash, show moves ('/' :: rest) = moves rest from moves_append_slash [] rest]

theorem Padded.moves_eq {text padded : List Char} (h : Padded text padded) :
    moves padded = moves text := by
  cases h with
  | slash h => rw [moves_append_slash, moves_append h]
  | @dotBefore x y hx =>
    have hdot : moves ('.' :: '/' :: y) = moves y := moves_append_slash ['.'] y
    rw [moves_append (.inl hx), moves_append (.inl hx), hdot]
  | @dotBehind x y hy =>
    have hdot : moves ('.' :: y) = moves y := moves_append (x := ['.']) (.inr hy)
    rw [moves_append_slash, moves_append (.inr hy), hdot]
  | @dotAlone x y hx hy =>
    have hdot : moves ('.' :: y) = moves y := moves_append (x := ['.']) (.inr hy)
    rw [moves_append (.inl hx), moves_append (.inl hx), hdot]

theorem moves_eq_of_padded {text padded : List Char} (h : Relation.ReflTransGen Padded text padded) :
    moves padded = moves text := by
  induction h with
  | refl => rfl
  | tail _ hstep ih => rw [hstep.moves_eq, ih]

theorem toList_join_eq (scope key : String) :
    (join scope key).toList = glue (walk (walk [] (moves scope.toList)) (moves key.toList)) := by
  rw [toList_join, names, moves, moves, walk_filter, walk_filter]

/-- **Joining normalises.** Joined keys are clean; the clean texts are those that joining to the
root leaves as they are, and so just the joined keys; a key can be joined in steps; and it does not
matter how scope and key are padded. -/
theorem join_normalizes :
    (∀ a b, Clean (join a b)) ∧
    (∀ s, join "" s = s ↔ Clean s) ∧
    (∀ s, (∃ a b, join a b = s) ↔ Clean s) ∧
    (∀ a b, join "" (join a b) = join a b) ∧
    (∀ a b c, join (join a b) c = join a (b ++ "/" ++ c)) ∧
    ∀ a a' b b' : String, Relation.ReflTransGen Padded a.toList a'.toList →
      Relation.ReflTransGen Padded b.toList b'.toList → join a' b' = join a b := by
  have hclean : ∀ a b, Clean (join a b) := fun a b => isNormal_iff_clean.mp (isNormal_join a b)
  have hstays : ∀ s, Clean s → join "" s = s := fun s hs =>
    join_empty_of_isNormal (isNormal_iff_clean.mpr hs)
  refine ⟨hclean, fun s => ⟨fun h => ?_, hstays s⟩, fun s => ⟨?_, fun h => ⟨"", s, hstays s h⟩⟩,
    fun a b => hstays _ (hclean a b), join_join, ?_⟩
  · rw [← h]
    exact hclean "" s
  · rintro ⟨a, b, rfl⟩
    exact hclean a b
  · intro a a' b b' ha hb
    apply String.toList_injective
    rw [toList_join_eq, toList_join_eq, moves_eq_of_padded ha, moves_eq_of_padded hb]

theorem join_normalizes_two_paddings :
    Relation.ReflTransGen Padded "logs".toList "logs/".toList ∧
      Relation.ReflTransGen Padded "a/b".toList "/a/./b".toList ∧
      join "logs/" "/a/./b" = join "logs" "a/b" := by
  have hscope : Relation.ReflTransGen Padded "logs".toList "logs/".toList :=
    .single (.slash (x := "logs".toList) (y := []) (.inr (.inl rfl)))
  have hslash : Padded "a/b".toList "/a/b".toList :=
    .slash (x := []) (y := "a/b".toList) (.inl (.inl rfl))
  have hdot : Padded "/a/b".toList "/a/./b".toList :=
    .dotBefore (x := "/a/".toList) ['b'] (.inr rfl)
  have hkey : Relation.ReflTransGen Padded "a/b".toList "/a/./b".toList :=
    .tail (.single hslash) hdot
  exact ⟨hscope, hkey, join_normalizes.2.2.2.2.2 "logs" "logs/" "a/b" "/a/./b" hscope hkey⟩

end BlobStore.Key
