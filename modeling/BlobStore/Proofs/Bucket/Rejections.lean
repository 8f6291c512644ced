import Mathlib
import BlobStore.Proofs.Bucket.Parts

/-!
# Calls about an upload that are turned down

A call about an open upload should be turned down if it comes with another key, and a call that is
turned down should change nothing. A part keeps to both. A completion takes the upload away before it
looks at key and list, and an abort does not look at the key: `rejectsWhole_iff` says for which calls
a bucket does keep to both.
-/

namespace BlobStore.Bucket

/-- A call about an upload is turned down unless the upload is open for the key that comes with it,
and if the call is turned down then objects, open uploads and the count of aborted ones stay. -/
structure RejectsWhole (b : Bucket) (c : Call) : Prop where
  guarded : ∀ key upload, c.upload? = some (key, upload) → ¬ b.OpenFor key upload →
    (Backend.answer c b).1.isOk = false
  unchanged : (Backend.answer c b).1.isOk = false →
    (Backend.answer c b).2.objects = b.objects ∧ (Backend.answer c b).2.pending = b.pending ∧
      (Backend.answer c b).2.aborted = b.aborted

/-- If the call is to close an upload that is open, then it comes with the key of that upload, and a
completion with a list of its parts that is in order. -/
def Fits (b : Bucket) : Call → Prop
  | .complete key upload marks => ∀ entry, b.pending.get? upload = some entry →
    entry.key = key ∧ Lists entry.parts.get? 0 marks
  | .abort key upload => ∀ entry, b.pending.get? upload = some entry → entry.key = key
  | _ => True

variable {b : Bucket} {key upload : String}

theorem rejectsWhole_of_upload?_eq_none {c : Call} (hc : c.upload? = none) : b.RejectsWhole c := by
  refine ⟨fun key upload h => ?_, fun herror => ?_⟩
  · rw [hc] at h
    cases h
  · cases c with
    | list stem token max =>
      rw [snd_answer_list]
      exact ⟨rfl, rfl, rfl⟩
    | get | presign | check => exact ⟨rfl, rfl, rfl⟩
    | put | create | delete => cases herror
    | part | complete | abort => cases hc

theorem rejectsWhole_of_error {c : Call} {e : StoreError}
    (hanswer : Backend.answer c b = (.error e, b)) : b.RejectsWhole c := by
  refine ⟨fun _ _ _ _ => ?_, fun _ => ?_⟩
  · rw [hanswer]
    rfl
  · rw [hanswer]
    exact ⟨rfl, rfl, rfl⟩

theorem rejectsWhole_of_openFor {c : Call} (hok : (Backend.answer c b).1.isOk = true)
    (hcall : c.upload? = some (key, upload)) (hopen : b.OpenFor key upload) : b.RejectsWhole c := by
  refine ⟨fun key' upload' h hclosed => ?_, fun herror => ?_⟩
  · obtain ⟨rfl, rfl⟩ := Prod.mk.inj (Option.some.inj (hcall.symm.trans h))
    exact absurd hopen hclosed
  · cases hok.symm.trans herror

theorem rejectsWhole_part {number : Nat} (hnumber : number ∉ b.failingParts) (data : ByteArray) :
    b.RejectsWhole (.part key upload number data) := by
  by_cases hopen : b.OpenFor key upload
  · refine rejectsWhole_of_openFor ?_ rfl hopen
    obtain ⟨entry, hentry, rfl⟩ := hopen
    rw [answer_part_of_get? hentry hnumber data]
    rfl
  · exact rejectsWhole_of_error (answer_part_of_not_openFor hnumber hopen data)

theorem rejectsWhole_complete_iff {marks : List CompletedPart} :
    b.RejectsWhole (.complete key upload marks) ↔ b.Fits (.complete key upload marks) := by
  cases hentry : b.pending.get? upload with
  | none =>
    refine iff_of_true (rejectsWhole_of_error (answer_complete_of_none hentry key marks)) ?_
    exact fun entry h => by cases hentry.symm.trans h
  | some entry =>
    by_cases hfits : entry.key = key ∧ Lists entry.parts.get? 0 marks
    · refine iff_of_true (rejectsWhole_of_openFor ?_ rfl ⟨entry, hentry, hfits.1⟩) fun entry' h => ?_
      · obtain ⟨rfl, hlists⟩ := hfits
        rw [answer_complete_of_lists hentry hlists]
        rfl
      · obtain rfl := Option.some.inj (hentry.symm.trans h)
        exact hfits
    · -- the upload is no longer open, though the completion was turned down
      obtain ⟨e, hanswer⟩ := exists_answer_complete_error hentry hfits
      refine iff_of_false (fun h => ?_) fun h => hfits (h entry hentry)
      have hpending := (h.unchanged (by rw [hanswer]; rfl)).2.1
      rw [hanswer] at hpending
      have hgone : (b.pending.erase upload).get? upload = none := by
        rw [SortedMap.get?_erase, if_pos rfl]
      rw [show b.pending.erase upload = b.pending from hpending, hentry] at hgone
      cases hgone

theorem rejectsWhole_abort_iff :
    b.RejectsWhole (.abort key upload) ↔ b.Fits (.abort key upload) := by
  cases hentry : b.pending.get? upload with
  | none =>
    refine iff_of_true (rejectsWhole_of_error (answer_abort_of_none hentry key)) ?_
    exact fun entry h => by cases hentry.symm.trans h
  | some entry =>
    have hok : (Backend.answer (.abort key upload) b).1.isOk = true := by
      rw [answer_abort_of_get? hentry key]
      rfl
    constructor
    · intro h entry' hentry'
      by_contra hkey
      have hclosed : ¬ b.OpenFor key upload := by
        rintro ⟨entry', hentry'', rfl⟩
        exact hkey (by rw [Option.some.inj (hentry'.symm.trans hentry'')])
      cases hok.symm.trans (h.guarded key upload rfl hclosed)
    · exact fun h => rejectsWhole_of_openFor hok rfl ⟨entry, hentry, h entry hentry⟩

theorem unchanged_of_error (hparts : b.failingParts = []) {c : Call}
    (herror : (Backend.answer c b).1.isOk = false) :
    (Backend.answer c b).2.objects = b.objects ∧ (Backend.answer c b).2.aborted = b.aborted ∧
      ∀ id, (∀ key, c.upload? ≠ some (key, id)) →
        (Backend.answer c b).2.pending.get? id = b.pending.get? id := by
  by_cases hwhole : b.RejectsWhole c
  · obtain ⟨hobjects, hpending, haborted⟩ := hwhole.unchanged herror
    exact ⟨hobjects, haborted, fun id _ => by rw [hpending]⟩
  cases hcall : c.upload? with
  | none => exact absurd (rejectsWhole_of_upload?_eq_none hcall) hwhole
  | some named =>
    cases c with
    | part key upload number data =>
      exact absurd (rejectsWhole_part (by simp [hparts]) data) hwhole
    | complete key upload marks =>
      rw [rejectsWhole_complete_iff, Fits] at hwhole
      push Not at hwhole
      obtain ⟨entry, hentry, hbad⟩ := hwhole
      have hfits : ¬ (entry.key = key ∧ Lists entry.parts.get? 0 marks) := by simpa using hbad
      obtain ⟨e, hanswer⟩ := exists_answer_complete_error hentry hfits
      rw [hanswer]
      refine ⟨rfl, rfl, fun id hid => ?_⟩
      exact (SortedMap.get?_erase ..).trans (if_neg fun heq => hid key (by rw [heq, ← hcall]; rfl))
    | abort key upload =>
      rw [rejectsWhole_abort_iff, Fits] at hwhole
      push Not at hwhole
      obtain ⟨entry, hentry, -⟩ := hwhole
      rw [answer_abort_of_get? hentry key] at herror
      cases herror
    | get | put | create | delete | list | presign | check => cases hcall

/-- **Which calls are turned down as a whole**: all but completions and aborts that are to close an
open upload with another key, or with a list of parts that is not in order. What is turned down
changes no object and no other upload in any case. -/
theorem rejectsWhole_iff {b : Bucket} (hparts : b.failingParts = []) (c : Call) :
    (b.RejectsWhole c ↔ b.Fits c) ∧ ((Backend.answer c b).1.isOk = false →
      (Backend.answer c b).2.objects = b.objects ∧ (Backend.answer c b).2.aborted = b.aborted ∧
        ∀ id, (∀ key, c.upload? ≠ some (key, id)) →
          (Backend.answer c b).2.pending.get? id = b.pending.get? id) := by
  refine ⟨?_, unchanged_of_error hparts⟩
  cases c with
  | part key upload number data =>
    exact iff_of_true (rejectsWhole_part (by simp [hparts]) data) trivial
  | complete key upload marks => exact rejectsWhole_complete_iff
  | abort key upload => exact rejectsWhole_abort_iff
  | get | put | create | delete | list | presign | check =>
    exact iff_of_true (rejectsWhole_of_upload?_eq_none rfl) trivial

/-- A bucket with one open upload, to which one part was sent. -/
def halfway : Bucket :=
  (Backend.answer (.part "a" "upload-1" 1 ⟨#[120]⟩) (Backend.answer (.create "a" none) (new "logs")).2).2

/-- A part for another key is turned down as a whole, and so is a completion of an upload that is not
open. -/
theorem rejectsWhole_iff_halfway :
    halfway.failingParts = [] ∧ halfway.RejectsWhole (.part "b" "upload-1" 2 .empty) ∧
      halfway.RejectsWhole (.complete "a" "upload-2" []) := by
  refine ⟨rfl, (rejectsWhole_iff rfl _).1.mpr trivial, (rejectsWhole_iff rfl _).1.mpr ?_⟩
  intro entry hentry
  cases hentry

/-- A completion that lists a part that was not sent is turned down, and the upload is lost: it can be
completed no more. An abort with another key is not turned down, and the upload is lost too. -/
theorem rejected_completion_loses_upload :
    halfway.Reachable ∧ halfway.failingParts = [] ∧
      (∃ b, Backend.answer (.complete "a" "upload-1" [⟨2, ""⟩]) halfway =
          (.error (.http Title.complete 400 "InvalidPart"), b) ∧
        (Backend.answer (.complete "a" "upload-1" [⟨1, ""⟩]) b).1 =
          .error (noSuchUpload Title.complete)) ∧
      ¬ halfway.RejectsWhole (.complete "a" "upload-1" [⟨2, ""⟩]) ∧
      ¬ halfway.RejectsWhole (.abort "b" "upload-1") := by
  refine ⟨((Reachable.new "logs").answer _).answer _, rfl, ⟨_, rfl, rfl⟩, fun h => ?_, fun h => ?_⟩
  · have hpending := (h.unchanged rfl).2.1
    exact absurd (congrArg (·.contains "upload-1") hpending) (by decide)
  · have hopen : ¬ halfway.OpenFor "b" "upload-1" := by
      rintro ⟨entry, hentry, hkey⟩
      obtain rfl := Option.some.inj hentry
      exact absurd hkey (by decide)
    cases h.guarded "b" "upload-1" rfl hopen

end BlobStore.Bucket
