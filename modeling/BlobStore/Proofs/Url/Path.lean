import Mathlib
import BlobStore.Proofs.Key.Normal
import BlobStore.Proofs.Url.Percent

/-!
# Paths of addresses

A segment is `Plain` if it reads as no dots. Plain segments are kept as they are, whatever folders
stand in front of them (`resolve_of_plain`), and those of an escaped text are its pieces, each escaped
(`split_encode`). A path that was read consists of plain segments that need no escaping, so it is
read again as itself (`pathOf_of_isPath`).
-/

namespace BlobStore.Url

open Key (split glue)

theorem mem_glue_iff {pieces : List Key.Piece} {c : Char} (hc : c ≠ '/') :
    c ∈ glue pieces ↔ ∃ piece ∈ pieces, c ∈ piece := by
  induction pieces with
  | nil => simp [glue]
  | cons piece pieces ih =>
    cases pieces with
    | nil => simp [glue]
    | cons next pieces =>
      rw [Key.glue_cons_cons, List.mem_append, List.mem_cons, ih, List.exists_mem_cons_iff]
      simp [hc]

/-! ## Plain segments -/

/-- The segment reads as no dots, so that it is a name of its own. -/
structure Plain (segment : List Char) : Prop where
  stays : plainDots segment ≠ ['.']
  noClimb : plainDots segment ≠ ['.', '.']

theorem enter_of_plain {segment : List Char} (h : Plain segment) (folders : List (List Char)) :
    enter folders segment = folders ++ [segment] := by
  rw [enter, if_neg h.noClimb, if_neg h.stays]

theorem resolve_cons {rest : List (List Char)} (hrest : rest ≠ []) (folders : List (List Char))
    (segment : List Char) : resolve folders (segment :: rest) = resolve (enter folders segment) rest := by
  obtain ⟨next, rest, rfl⟩ := List.exists_cons_of_ne_nil hrest
  rw [resolve]
  exact List.cons_ne_nil next rest

theorem resolve_append {rest : List (List Char)} (hrest : rest ≠ [])
    (folders segments : List (List Char)) :
    resolve folders (segments ++ rest) = resolve (segments.foldl enter folders) rest := by
  induction segments generalizing folders with
  | nil => rfl
  | cons segment segments ih =>
    have hne : segments ++ rest ≠ [] := by simp [hrest]
    rw [List.cons_append, resolve_cons hne, ih, List.foldl_cons]

/-- The text of some folders. -/
def folderText (folders : List (List Char)) : List Char := folders.flatMap (· ++ ['/'])

theorem folderText_append_glue (folders : List (List Char)) {names : List (List Char)}
    (h : names ≠ []) : folderText folders ++ glue names = glue (folders ++ names) := by
  induction folders with
  | nil => rfl
  | cons folder folders ih =>
    have hne : folders ++ names ≠ [] := by simp [h]
    obtain ⟨next, rest, heq⟩ := List.exists_cons_of_ne_nil hne
    rw [folderText, List.flatMap_cons, List.append_assoc, ← folderText, ih, List.cons_append, heq,
      Key.glue_cons_cons, List.append_assoc, List.singleton_append]

theorem assemble_eq (folders : List (List Char)) (last : List Char) :
    assemble folders last = '/' :: glue (folders ++ [last]) := by
  have hlast : glue [last] = last := by simp [glue]
  rw [assemble, ← folderText, ← folderText_append_glue folders (List.cons_ne_nil last []), hlast]

theorem resolve_of_plain {names : List (List Char)} (hne : names ≠ [])
    (hnames : ∀ name ∈ names, Plain name) (folders : List (List Char)) :
    resolve folders names = '/' :: glue (folders ++ names) := by
  induction names generalizing folders with
  | nil => exact absurd rfl hne
  | cons name rest ih =>
    obtain ⟨hname, hrest⟩ := List.forall_mem_cons.mp hnames
    by_cases hlast : rest = []
    · have hdots : ¬ (plainDots name = ['.', '.'] ∨ plainDots name = ['.']) := by
        rintro (h | h)
        · exact hname.noClimb h
        · exact hname.stays h
      rw [hlast, resolve, if_neg hdots, assemble_eq]
    · rw [resolve_cons hlast, ih hlast hrest, enter_of_plain hname, List.append_assoc,
        List.singleton_append]

/-! ## Escaped segments -/

theorem pieces_append_of_not_mem {separator : Char} {a : List Char} (h : separator ∉ a) (b : List Char) :
    Text.pieces separator (a ++ b) = (Text.pieces separator b).modifyHead (a ++ ·) := by
  induction a with
  | nil =>
    rw [List.nil_append]
    cases Text.pieces separator b <;> rfl
  | cons c a ih =>
    rw [List.mem_cons, not_or] at h
    rw [List.cons_append, Text.pieces, if_neg (Ne.symm h.1), ih h.2]
    cases Text.pieces separator b <;> rfl

theorem split_encode {keep : Char → Bool} (hkeep : keep '/' = true) (text : List Char) :
    split (encode keep text) = (split text).map (encode keep) := by
  induction text with
  | nil => rfl
  | cons c text ih =>
    rw [encode_cons]
    by_cases hslash : c = '/'
    · rw [hslash, if_pos hkeep, List.singleton_append, Key.split_slash, Key.split_slash, ih]
      rfl
    · have hnot : '/' ∉ (if keep c then [c] else (String.utf8EncodeChar c).flatMap escapeByte) := by
        have hall := @forall_mem_encode keep (· ≠ '/') [c] (by simpa using fun _ => hslash)
          (by decide) (by decide)
        rw [encode_cons, encode, List.flatMap_nil, List.append_nil] at hall
        exact fun hmem => hall '/' hmem rfl
      rw [split, pieces_append_of_not_mem hnot, ← split, ih, split, split, Text.pieces, if_neg hslash]
      obtain ⟨piece, rest, hpieces⟩ := List.exists_cons_of_ne_nil (Text.pieces_ne_nil text)
      rw [hpieces, List.map_cons, List.modifyHead_cons, List.modifyHead_cons, List.map_cons, encode_cons]

theorem glue_map_encode {keep : Char → Bool} (hkeep : keep '/' = true) (text : List Char) :
    glue ((split text).map (encode keep)) = encode keep text := by
  rw [← split_encode hkeep, Key.glue_split]

theorem plain_encode {keep : Char → Bool} {name : List Char}
    (hmark : ∀ c ∈ name, keep c = true → c ≠ '%') (hname : Key.isName name = true) :
    Plain (encode keep name) := by
  simp only [Key.isName, Key.isIdle, Key.isClimb, Bool.and_eq_true, Bool.not_eq_true',
    Bool.or_eq_false_iff, decide_eq_false_iff_not] at hname
  exact ⟨fun h => hname.1.2 (eq_of_plainDots_encode hmark (by simp) h),
    fun h => hname.2 (eq_of_plainDots_encode hmark (by simp) h)⟩

/-! ## Paths that were read -/

/-- Nothing in the segment needs escaping, and nothing parts it. -/
def IsKept (segment : List Char) : Prop := ∀ c ∈ segment, inPath c = true ∧ c ≠ '/' ∧ c ≠ '\\'

/-- A segment as it stands in a path that was read. -/
structure Settled (segment : List Char) : Prop where
  plain : Plain segment
  kept : IsKept segment

/-- A path that was read: settled segments, each behind a slash. -/
def IsPath (path : List Char) : Prop := ∃ segments, segments ≠ [] ∧
  (∀ segment ∈ segments, Settled segment) ∧ path = '/' :: glue segments

theorem isKept_encode {text : List Char} (h : ∀ c ∈ text, c ≠ '/' ∧ c ≠ '\\') :
    IsKept (encode inPath text) :=
  forall_mem_encode (fun c hc hkept => ⟨hkept, h c hc⟩) (by decide) (by decide)

theorem settled_nil : Settled [] := ⟨⟨by decide, by decide⟩, List.forall_mem_nil _⟩

theorem forall_settled_enter {folders : List (List Char)} (h : ∀ f ∈ folders, Settled f)
    {segment : List Char} (hkept : IsKept segment) : ∀ f ∈ enter folders segment, Settled f := by
  unfold enter
  split
  · split
    · exact h
    · exact fun f hf => h f (List.mem_of_mem_dropLast hf)
  · next hclimb =>
    split
    · exact h
    · next hstays =>
      rw [List.forall_mem_append, List.forall_mem_singleton]
      exact ⟨h, ⟨hstays, hclimb⟩, hkept⟩

theorem forall_settled_foldl {segments : List (List Char)} (hkept : ∀ s ∈ segments, IsKept s)
    {folders : List (List Char)} (h : ∀ f ∈ folders, Settled f) :
    ∀ f ∈ segments.foldl enter folders, Settled f := by
  induction segments generalizing folders with
  | nil => exact h
  | cons segment segments ih =>
    obtain ⟨hsegment, hrest⟩ := List.forall_mem_cons.mp hkept
    exact ih hrest (forall_settled_enter h hsegment)

theorem isPath_assemble {folders : List (List Char)} (h : ∀ f ∈ folders, Settled f) {last : List Char}
    (hlast : Settled last) : IsPath (assemble folders last) := by
  refine ⟨folders ++ [last], by simp, ?_, assemble_eq folders last⟩
  rw [List.forall_mem_append, List.forall_mem_singleton]
  exact ⟨h, hlast⟩

theorem isPath_resolve {segments : List (List Char)} (hkept : ∀ s ∈ segments, IsKept s) :
    IsPath (resolve [] segments) := by
  obtain rfl | ⟨init, last, rfl⟩ := List.eq_nil_or_concat segments
  · exact isPath_assemble (List.forall_mem_nil _) settled_nil
  · rw [List.concat_eq_append, List.forall_mem_append, List.forall_mem_singleton] at hkept
    obtain ⟨hinit, hlast⟩ := hkept
    have hfolders := forall_settled_foldl hinit (List.forall_mem_nil Settled)
    rw [List.concat_eq_append, resolve_append (List.cons_ne_nil last []), resolve]
    split
    · exact isPath_assemble (forall_settled_enter hfolders hlast) settled_nil
    · next hdots =>
      rw [not_or] at hdots
      exact isPath_assemble hfolders ⟨⟨hdots.2, hdots.1⟩, hlast⟩

/-- The text of a web path with its backslashes as slashes. -/
def slashed (text : List Char) : List Char := text.map fun c => if c = '\\' then '/' else c

theorem not_mem_slashed (text : List Char) : '\\' ∉ slashed text := by
  intro h
  obtain ⟨c, -, hc⟩ := List.mem_map.mp h
  split at hc
  · cases hc
  · next hne => exact hne hc

theorem slashed_of_not_mem {text : List Char} (h : '\\' ∉ text) : slashed text = text := by
  refine (List.map_congr_left fun c hc => if_neg ?_).trans (List.map_id text)
  rintro rfl
  exact h hc

theorem slashed_append (a b : List Char) : slashed (a ++ b) = slashed a ++ slashed b := List.map_append

/-- The segments that the text of a web path consists of. -/
def segmentsOf (text : List Char) : List (List Char) := (split (slashed text)).map (encode inPath)

theorem pathOf_eq (text : List Char) : pathOf true text = resolve [] (segmentsOf text) := rfl

theorem isKept_of_mem_segmentsOf {text segment : List Char} (h : segment ∈ segmentsOf text) :
    IsKept segment := by
  obtain ⟨piece, hpiece, rfl⟩ := List.mem_map.mp h
  have hslash := Key.not_mem_of_mem_split hpiece
  have hback : '\\' ∉ piece := by
    intro hmem
    refine not_mem_slashed text ?_
    rw [← Key.glue_split (slashed text)]
    exact (mem_glue_iff (by decide)).mpr ⟨piece, hpiece, hmem⟩
  refine isKept_encode fun c hc => ⟨?_, ?_⟩
  · rintro rfl
    exact hslash hc
  · rintro rfl
    exact hback hc

theorem isPath_pathOf (text : List Char) : IsPath (pathOf true text) := by
  rw [pathOf_eq]
  exact isPath_resolve fun _ hs => isKept_of_mem_segmentsOf hs

/-- **A path is read again as itself.** -/
theorem pathOf_of_isPath {inner : List Char} (h : IsPath ('/' :: inner)) :
    pathOf true inner = '/' :: inner := by
  obtain ⟨segments, hne, hsettled, heq⟩ := h
  obtain rfl := (List.cons.inj heq).2
  have hback : '\\' ∉ glue segments := by
    rw [mem_glue_iff (by decide)]
    rintro ⟨segment, hsegment, hmem⟩
    exact ((hsettled segment hsegment).kept _ hmem).2.2 rfl
  have hsplit : split (glue segments) = segments :=
    Key.split_glue hne fun s hs hmem => ((hsettled s hs).kept _ hmem).2.1 rfl
  have hkept : segments.map (encode inPath) = segments := by
    refine (List.map_congr_left fun s hs => ?_).trans (List.map_id segments)
    exact encode_of_forall fun c hc => ((hsettled s hs).kept c hc).1
  rw [pathOf_eq, segmentsOf, slashed_of_not_mem hback, hsplit, hkept,
    resolve_of_plain hne fun s hs => (hsettled s hs).plain, List.nil_append]

theorem inPath_of_isPath {path : List Char} (h : IsPath path) :
    ∀ c ∈ path, inPath c = true := by
  obtain ⟨segments, -, hsettled, rfl⟩ := h
  intro c hc
  by_cases hslash : c = '/'
  · rw [hslash]
    decide
  · obtain rfl | hc := List.mem_cons.mp hc
    · decide
    · obtain ⟨segment, hsegment, hmem⟩ := (mem_glue_iff hslash).mp hc
      exact ((hsettled segment hsegment).kept c hmem).1

/-! ## An escaped text behind other segments -/

theorem pathOf_append_encode {keep : Char → Bool} (hslash : keep '/' = true)
    (hkeep : ∀ c, keep c = true → inPath c = true ∧ c ≠ '\\' ∧ c ≠ '%') {text : List Char}
    (hnames : ∀ name ∈ split text, Key.isName name = true) (front : List Char) :
    pathOf true (front ++ '/' :: encode keep text) =
      '/' :: (folderText ((segmentsOf front).foldl enter []) ++ encode keep text) := by
  have hchars : ∀ c ∈ encode keep text, inPath c = true ∧ c ≠ '\\' := by
    refine forall_mem_encode (fun c _ hc => ?_) (by decide) (by decide)
    exact ⟨(hkeep c hc).1, (hkeep c hc).2.1⟩
  have hback : '\\' ∉ encode keep text := fun hmem => (hchars _ hmem).2 rfl
  have hsegments : segmentsOf (front ++ '/' :: encode keep text) =
      segmentsOf front ++ (split text).map (encode keep) := by
    have hescaped : (split (encode keep text)).map (encode inPath) = split (encode keep text) := by
      refine (List.map_congr_left fun piece hpiece => ?_).trans (List.map_id _)
      refine encode_of_forall fun c hc => (hchars c ?_).1
      rw [← Key.glue_split (encode keep text)]
      exact (mem_glue_iff fun hc' => Key.not_mem_of_mem_split hpiece (hc' ▸ hc)).mpr ⟨piece, hpiece, hc⟩
    have hmark : slashed ('/' :: encode keep text) = '/' :: encode keep text :=
      slashed_of_not_mem fun hmem => hback ((List.mem_cons.mp hmem).resolve_left (by decide))
    rw [segmentsOf, slashed_append, hmark, Key.split_append_slash, List.map_append, hescaped,
      split_encode hslash, segmentsOf]
  have hne : (split text).map (encode keep) ≠ [] := by simp [Key.split_ne_nil]
  have hplain : ∀ name ∈ (split text).map (encode keep), Plain name := by
    intro name hname
    obtain ⟨piece, hpiece, rfl⟩ := List.mem_map.mp hname
    exact plain_encode (fun c _ hc => (hkeep c hc).2.2) (hnames piece hpiece)
  rw [pathOf_eq, hsegments, resolve_append hne, resolve_of_plain hne hplain,
    ← folderText_append_glue _ hne, glue_map_encode hslash]

end BlobStore.Url
