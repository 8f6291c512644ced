import Mathlib
import BlobStore.Proofs.Bucket.Uploads

/-!
# What becomes of a call about an open upload

A bucket joins the parts that are listed to it if their numbers ascend from one on and each of them
was sent, and not otherwise (`joinParts_eq_ok_iff`). With this there is one equation for each way in
which a part, a completion or an abort can come out.
-/

namespace BlobStore

/-- The key and the upload that a call comes with, if it is about an upload. -/
def Call.upload? : Call → Option (String × String)
  | part key upload _ _ | complete key upload _ | abort key upload => some (key, upload)
  | _ => none

namespace Bucket

/-! ## Lists of parts -/

/-- The numbers ascend from behind `last` on, and each of them has a part. -/
structure Lists (part? : Nat → Option ByteArray) (last : Nat) (marks : List CompletedPart) :
    Prop where
  ascending : marks.Pairwise (·.number < ·.number)
  above : ∀ m ∈ marks, last < m.number
  sent : ∀ m ∈ marks, (part? m.number).isSome = true

/-- The listed parts in turn, behind what is there already. -/
def joined (part? : Nat → Option ByteArray) (data : ByteArray) (marks : List CompletedPart) :
    ByteArray :=
  marks.foldl (fun data m => data ++ (part? m.number).getD .empty) data

section lists

variable {part? : Nat → Option ByteArray} {last : Nat} {m : CompletedPart}
  {marks : List CompletedPart}

theorem lists_nil : Lists part? last [] := ⟨.nil, List.forall_mem_nil _, List.forall_mem_nil _⟩

theorem lists_cons : Lists part? last (m :: marks) ↔
    last < m.number ∧ (part? m.number).isSome = true ∧ Lists part? m.number marks := by
  constructor
  · rintro ⟨hascending, habove, hsent⟩
    obtain ⟨hhead, htail⟩ := List.pairwise_cons.mp hascending
    obtain ⟨hlast, -⟩ := List.forall_mem_cons.mp habove
    obtain ⟨hfirst, hrest⟩ := List.forall_mem_cons.mp hsent
    exact ⟨hlast, hfirst, htail, hhead, hrest⟩
  · rintro ⟨hlast, hfirst, htail, hhead, hrest⟩
    refine ⟨List.pairwise_cons.mpr ⟨hhead, htail⟩, ?_, List.forall_mem_cons.mpr ⟨hfirst, hrest⟩⟩
    exact List.forall_mem_cons.mpr ⟨hlast, fun m' hm' => hlast.trans (hhead m' hm')⟩

theorem Lists.congr {part?' : Nat → Option ByteArray}
    (hpart : ∀ m ∈ marks, part? m.number = part?' m.number) (h : Lists part? last marks) :
    Lists part?' last marks := by
  refine ⟨h.ascending, h.above, fun m hm => ?_⟩
  rw [← hpart m hm]
  exact h.sent m hm

theorem joined_congr {part?' : Nat → Option ByteArray} (data : ByteArray)
    (hpart : ∀ m ∈ marks, part? m.number = part?' m.number) :
    joined part? data marks = joined part?' data marks := by
  refine List.foldl_ext _ _ _ fun data m hm => ?_
  rw [hpart m hm]

end lists

/-- **What a bucket joins**: the listed parts in turn, if the list is in order. -/
theorem joinParts_eq_ok_iff {parts : SortedMap Nat ByteArray} {last : Nat} {data result : ByteArray}
    {marks : List CompletedPart} : joinParts parts last data marks = .ok result ↔
      Lists parts.get? last marks ∧ result = joined parts.get? data marks := by
  induction marks generalizing last data with
  | nil =>
    rw [joinParts, Except.ok.injEq, eq_comm]
    exact ⟨fun h => ⟨lists_nil, h⟩, And.right⟩
  | cons m marks ih =>
    rw [joinParts, lists_cons]
    by_cases hlast : m.number ≤ last
    · rw [if_pos hlast]
      refine iff_of_false nofun ?_
      rintro ⟨⟨hlt, -⟩, -⟩
      omega
    · rw [if_neg hlast]
      cases hpart : parts.get? m.number with
      | none =>
        refine iff_of_false nofun ?_
        rintro ⟨⟨-, hsome, -⟩, -⟩
        cases hsome
      | some part =>
        have hjoined : joined parts.get? data (m :: marks) = joined parts.get? (data ++ part) marks := by
          rw [joined, List.foldl_cons, hpart]
          rfl
        rw [hjoined]
        dsimp only
        rw [ih]
        simp [Nat.not_le.mp hlast]

/-! ## Calls about an upload -/

/-- The upload is open, and for the key. -/
def OpenFor (b : Bucket) (key upload : String) : Prop :=
  ∃ entry, b.pending.get? upload = some entry ∧ entry.key = key

variable {b : Bucket} {key upload : String} {entry : PendingUpload}

theorem answer_part_of_not_openFor {number : Nat} (hnumber : number ∉ b.failingParts)
    (h : ¬ b.OpenFor key upload) (data : ByteArray) :
    Backend.answer (.part key upload number data) b = (.error (noSuchUpload Title.part), b) := by
  show b.part key upload number data = _
  rw [part, if_neg hnumber]
  cases hopen : b.pending.get? upload with
  | none => rfl
  | some entry => exact if_neg fun hkey => h ⟨entry, hopen, hkey⟩

theorem answer_complete_of_none (h : b.pending.get? upload = none) (key : String)
    (marks : List CompletedPart) :
    Backend.answer (.complete key upload marks) b = (.error (noSuchUpload Title.complete), b) := by
  show b.complete key upload marks = _
  rw [complete, h]

theorem exists_answer_complete_error (h : b.pending.get? upload = some entry)
    {marks : List CompletedPart} (hbad : ¬ (entry.key = key ∧ Lists entry.parts.get? 0 marks)) :
    ∃ e, Backend.answer (.complete key upload marks) b =
      (.error e, { b with pending := b.pending.erase upload }) := by
  show ∃ e, b.complete key upload marks = _
  simp only [complete, h]
  by_cases hkey : entry.key = key
  · cases hjoin : joinParts entry.parts 0 .empty marks with
    | error e => exact ⟨e, by rw [if_pos hkey]⟩
    | ok data => exact absurd ⟨hkey, (joinParts_eq_ok_iff.mp hjoin).1⟩ hbad
  · exact ⟨_, if_neg hkey⟩

theorem answer_complete_of_lists (h : b.pending.get? upload = some entry)
    {marks : List CompletedPart} (hlists : Lists entry.parts.get? 0 marks) :
    Backend.answer (.complete entry.key upload marks) b =
      (.ok (), { b with
        pending := b.pending.erase upload
        objects := b.objects.insert entry.key ⟨joined entry.parts.get? .empty marks, entry.acl⟩ }) :=
  answer_complete_of_get? h (joinParts_eq_ok_iff.mpr ⟨hlists, rfl⟩)

theorem answer_abort_of_none (h : b.pending.get? upload = none) (key : String) :
    Backend.answer (.abort key upload) b = (.error (noSuchUpload Title.abort), b) := by
  show b.abort upload = _
  rw [abort, SortedMap.contains_eq_false.mpr h]
  rfl

theorem answer_abort_of_get? (h : b.pending.get? upload = some entry) (key : String) :
    Backend.answer (.abort key upload) b =
      (.ok (), { b with pending := b.pending.erase upload, aborted := b.aborted + 1 }) := by
  have hin := SortedMap.contains_of_get? h
  show b.abort upload = _
  rw [abort, if_pos hin, dropUpload, if_pos hin]

end Bucket

end BlobStore
