import Mathlib
import BlobStore.Bucket.Memory
import BlobStore.Proofs.Bucket.Pages
import BlobStore.Proofs.Client

/-!
# Open uploads of a bucket in memory

A bucket hands out numbered ids and never one again: in every state that calls and switches can
bring about, the open uploads have numbers up to the count (`Reachable.numbered`), so that the next
id is a new one.

While one upload in parts goes on from such a state, the bucket is an `opening` of it; the calls of
the upload lead from there to another `opening`, to the `withdrawn` state, or to the stored object.
-/

namespace BlobStore.Bucket

theorem decimal_injective : Function.Injective Text.decimal := by
  intro m n h
  have hdigits : Nat.toDigits 10 m = Nat.toDigits 10 n := String.ofList_injective h
  rw [← Nat.ofDigitChars_toDigits (b := 10) (n := m) (by decide) (by decide), hdigits,
    Nat.ofDigitChars_toDigits (by decide) (by decide)]

theorem uploadId_injective : Function.Injective uploadId := by
  intro m n h
  exact decimal_injective (String.append_right_inj _ |>.mp h)

/-! ## The ids of open uploads -/

/-- Every open upload is one of those that were counted. -/
def Numbered (b : Bucket) : Prop :=
  ∀ id, b.pending.contains id = true → ∃ n ≤ b.created, id = uploadId n

/-- The id that the next upload gets. -/
def nextId (b : Bucket) : String := uploadId (b.created + 1)

theorem Numbered.get?_nextId {b : Bucket} (h : b.Numbered) : b.pending.get? b.nextId = none := by
  rw [← SortedMap.contains_eq_false, Bool.eq_false_iff]
  intro hin
  obtain ⟨n, hn, hid⟩ := h _ hin
  have := uploadId_injective hid
  omega

theorem Numbered.of_le {b b' : Bucket} (h : b.Numbered) (hcreated : b.created ≤ b'.created)
    (hpending : ∀ id, b'.pending.contains id = true → b.pending.contains id = true) :
    b'.Numbered := by
  intro id hid
  obtain ⟨n, hn, rfl⟩ := h id (hpending id hid)
  exact ⟨n, by omega, rfl⟩

theorem pending_dropUpload (b : Bucket) (upload : String) :
    (b.dropUpload upload).pending = b.pending.erase upload := by
  unfold dropUpload
  split
  · rfl
  · next h =>
    rw [Bool.not_eq_true, SortedMap.contains_eq_false] at h
    exact (SortedMap.erase_of_get?_eq_none h).symm

theorem created_dropUpload (b : Bucket) (upload : String) :
    (b.dropUpload upload).created = b.created := by
  unfold dropUpload
  split <;> rfl

theorem Numbered.of_erase {b b' : Bucket} (h : b.Numbered) (hcreated : b'.created = b.created)
    {upload : String} (hpending : b'.pending = b.pending.erase upload) : b'.Numbered := by
  refine h.of_le hcreated.ge fun id hid => ?_
  rw [hpending, SortedMap.contains, SortedMap.get?_erase] at hid
  split at hid
  · cases hid
  · exact hid

theorem Numbered.dropUpload {b : Bucket} (h : b.Numbered) (upload : String) :
    (b.dropUpload upload).Numbered :=
  h.of_erase (created_dropUpload b upload) (pending_dropUpload b upload)

theorem Numbered.answer {b : Bucket} (h : b.Numbered) (c : Call) :
    (Backend.answer c b).2.Numbered := by
  have same : ∀ {b' : Bucket}, b'.created = b.created → b'.pending = b.pending → b'.Numbered :=
    fun hcreated hpending => h.of_le hcreated.ge fun id hid => by rwa [hpending] at hid
  cases c with
  | get key => exact h
  | put key data acl => exact same rfl rfl
  | create key acl =>
    intro id hid
    rw [show (Backend.answer (.create key acl) b).2.pending =
      b.pending.insert b.nextId ⟨key, acl, .empty⟩ from rfl, SortedMap.contains,
      SortedMap.get?_insert] at hid
    split at hid
    · next hid' => exact ⟨b.created + 1, le_rfl, hid'⟩
    · obtain ⟨n, hn, rfl⟩ := h id hid
      exact ⟨n, Nat.le_succ_of_le hn, rfl⟩
  | part key upload number data =>
    show (b.part key upload number data).2.Numbered
    unfold part
    split
    · split
      · exact h.dropUpload upload
      · exact h
    · split
      · next entry hentry =>
        split
        · refine h.of_le le_rfl fun id hid => ?_
          rw [SortedMap.contains, SortedMap.get?_insert] at hid
          split at hid
          · next hid' => rw [hid', SortedMap.contains_of_get? hentry]
          · exact hid
        · exact h
      · exact h
  | complete key upload parts =>
    show (b.complete key upload parts).2.Numbered
    unfold complete
    split
    · exact h
    · dsimp only
      split
      · split
        · exact h.of_erase rfl rfl
        · exact h.of_erase rfl rfl
      · exact h.of_erase rfl rfl
  | abort key upload =>
    show (b.abort upload).2.Numbered
    unfold abort
    split
    · exact h.dropUpload upload
    · exact h
  | delete key => exact same rfl rfl
  | list stem token max =>
    rw [snd_answer_list]
    exact same rfl rfl
  | presign use key secs => exact h
  | check => exact h

/-- The name of the bucket and the faults that are switched on. -/
def switches (b : Bucket) : String × List Nat × Bool × Option Nat × Bool :=
  (b.name, b.failingParts, b.dropsOnFailure, b.failingPage, b.unreachable)

theorem switches_dropUpload (b : Bucket) (upload : String) :
    (b.dropUpload upload).switches = b.switches := by
  unfold dropUpload
  split <;> rfl

theorem switches_answer (c : Call) (b : Bucket) :
    (Backend.answer c b).2.switches = b.switches := by
  cases c with
  | part key upload number data =>
    show (b.part key upload number data).2.switches = b.switches
    unfold part
    split
    · split
      · exact b.switches_dropUpload upload
      · rfl
    · split
      · split <;> rfl
      · rfl
  | complete key upload parts =>
    show (b.complete key upload parts).2.switches = b.switches
    unfold complete
    split
    · rfl
    · dsimp only
      split
      · split <;> rfl
      · rfl
  | abort key upload =>
    show (b.abort upload).2.switches = b.switches
    unfold abort
    split
    · exact b.switches_dropUpload upload
    · rfl
  | list stem token max =>
    rw [snd_answer_list]
    rfl
  | get key => rfl
  | put key data acl => rfl
  | create key acl => rfl
  | delete key => rfl
  | presign use key secs => rfl
  | check => rfl

theorem failingParts_answer (c : Call) (b : Bucket) :
    (Backend.answer c b).2.failingParts = b.failingParts :=
  congrArg (·.2.1) (switches_answer c b)

theorem failingPage_answer (c : Call) (b : Bucket) :
    (Backend.answer c b).2.failingPage = b.failingPage :=
  congrArg (·.2.2.2.1) (switches_answer c b)

theorem switches_of_plays {b b' : Bucket} {es : List Exchange} (h : Backend.Plays b es b') :
    b'.switches = b.switches := by
  induction es generalizing b with
  | nil => rw [show b = b' from h]
  | cons e es ih => rw [ih h.2, switches_answer]

theorem Numbered.plays {b b' : Bucket} (hb : b.Numbered) {es : List Exchange}
    (h : Backend.Plays b es b') : b'.Numbered := by
  induction es generalizing b with
  | nil => exact h ▸ hb
  | cons e es ih => exact ih (hb.answer e.1) h.2

/-- What calls and switches can make of a new bucket. -/
inductive Reachable : Bucket → Prop
  | new (name : String) : Reachable (new name)
  | answer {b : Bucket} (h : Reachable b) (c : Call) : Reachable (Backend.answer c b).2
  | failPart {b : Bucket} (h : Reachable b) (number : Nat) : Reachable (b.failPart number)
  | dropOnFailure {b : Bucket} (h : Reachable b) : Reachable b.dropOnFailure
  | failPage {b : Bucket} (h : Reachable b) (n : Nat) : Reachable (b.failPage n)
  | setUnreachable {b : Bucket} (h : Reachable b) (value : Bool) :
    Reachable (b.setUnreachable value)

/-- **Ids are never handed out twice**, whatever was done to the bucket. -/
theorem Reachable.numbered {b : Bucket} (h : Reachable b) : b.Numbered := by
  induction h with
  | new name => intro id hid; cases hid
  | answer _ c ih => exact ih.answer c
  | failPart _ _ ih => exact ih
  | dropOnFailure _ ih => exact ih
  | failPage _ _ ih => exact ih
  | setUnreachable _ _ ih => exact ih

/-! ## One upload in parts -/

/-- The bucket with one more upload open, which holds these parts. -/
def opening (b : Bucket) (key : String) (acl : Option String) (parts : SortedMap Nat ByteArray) :
    Bucket :=
  { b with created := b.created + 1, pending := b.pending.insert b.nextId ⟨key, acl, parts⟩ }

/-- The bucket after one more upload, which was given up. -/
def withdrawn (b : Bucket) : Bucket :=
  { b with created := b.created + 1, aborted := b.aborted + 1 }

/-- The bucket after one more upload, which is its object now. -/
def closed (b : Bucket) (key : String) (object : StoredObject) : Bucket :=
  ({ b with created := b.created + 1 } : Bucket).store key object

/-- What a bucket says about a part that it was told to fail. -/
def partFault : StoreError := .http Title.part 500 "InternalError"

variable {b : Bucket} {key : String} {acl : Option String} {parts : SortedMap Nat ByteArray}

theorem answer_create (b : Bucket) (key : String) (acl : Option String) :
    Backend.answer (.create key acl) b = (.ok b.nextId, b.opening key acl .empty) := rfl

@[simp] theorem failingParts_opening : (b.opening key acl parts).failingParts = b.failingParts := rfl

@[simp] theorem dropsOnFailure_opening :
    (b.opening key acl parts).dropsOnFailure = b.dropsOnFailure := rfl

theorem get?_opening : (b.opening key acl parts).pending.get? b.nextId = some ⟨key, acl, parts⟩ :=
  SortedMap.get?_insert_self ..

theorem contains_opening : (b.opening key acl parts).pending.contains b.nextId = true :=
  SortedMap.contains_insert_self ..

theorem answer_part_of_get? {upload : String}
    (hopen : b.pending.get? upload = some ⟨key, acl, parts⟩) {number : Nat}
    (h : number ∉ b.failingParts) (data : ByteArray) :
    Backend.answer (.part key upload number data) b =
      (.ok ⟨number, partEtag upload number⟩,
        { b with pending := b.pending.insert upload ⟨key, acl, parts.insert number data⟩ }) := by
  show b.part key upload number data = _
  rw [part, if_neg h, hopen]
  simp only [if_true]

theorem answer_complete_of_get? {upload : String}
    (hopen : b.pending.get? upload = some ⟨key, acl, parts⟩) {marks : List CompletedPart}
    {data : ByteArray} (h : joinParts parts 0 .empty marks = .ok data) :
    Backend.answer (.complete key upload marks) b =
      (.ok (), { b with
        pending := b.pending.erase upload
        objects := b.objects.insert key ⟨data, acl⟩ }) := by
  show b.complete key upload marks = _
  simp only [complete, hopen, if_true, h]
  rfl

theorem answer_part_opening {number : Nat} (h : number ∉ b.failingParts) (data : ByteArray) :
    Backend.answer (.part key b.nextId number data) (b.opening key acl parts) =
      (.ok ⟨number, partEtag b.nextId number⟩, b.opening key acl (parts.insert number data)) := by
  rw [answer_part_of_get? get?_opening (by rwa [failingParts_opening]), opening]
  simp only [SortedMap.insert_insert, opening]

section fresh

variable (hfresh : b.pending.get? b.nextId = none)

include hfresh

theorem erase_opening : (b.opening key acl parts).pending.erase b.nextId = b.pending := by
  rw [opening, SortedMap.erase_insert, SortedMap.erase_of_get?_eq_none hfresh]

theorem dropUpload_opening : (b.opening key acl parts).dropUpload b.nextId = b.withdrawn := by
  rw [dropUpload, if_pos contains_opening, erase_opening hfresh]
  rfl

theorem answer_abort_opening (key' : String) :
    Backend.answer (.abort key' b.nextId) (b.opening key acl parts) = (.ok (), b.withdrawn) := by
  show (b.opening key acl parts).abort b.nextId = _
  rw [abort, if_pos contains_opening, dropUpload_opening hfresh]

theorem answer_abort_withdrawn (key' : String) :
    Backend.answer (.abort key' b.nextId) b.withdrawn =
      (.error (noSuchUpload Title.abort), b.withdrawn) := by
  show b.withdrawn.abort b.nextId = _
  have hgone : b.withdrawn.pending.contains b.nextId = false :=
    SortedMap.contains_eq_false.mpr hfresh
  rw [abort, hgone]
  rfl

theorem answer_part_opening_of_mem {number : Nat} (h : number ∈ b.failingParts)
    (data : ByteArray) :
    Backend.answer (.part key b.nextId number data) (b.opening key acl parts) =
      (.error partFault, if b.dropsOnFailure then b.withdrawn else b.opening key acl parts) := by
  show (b.opening key acl parts).part key b.nextId number data = _
  rw [part, failingParts_opening, if_pos h, dropUpload_opening hfresh, dropsOnFailure_opening]
  rfl

theorem answer_part_failing {number : Nat} (h : number ∈ b.failingParts) (data : ByteArray)
    (key' : String) :
    (Backend.answer (.part key b.nextId number data) (b.opening key acl parts)).1 =
        .error partFault ∧
      (Backend.answer (.abort key' b.nextId)
        (Backend.answer (.part key b.nextId number data) (b.opening key acl parts)).2).2 =
        b.withdrawn := by
  rw [answer_part_opening_of_mem hfresh h]
  refine ⟨rfl, ?_⟩
  cases b.dropsOnFailure with
  | true => exact congrArg Prod.snd (answer_abort_withdrawn hfresh key')
  | false => exact congrArg Prod.snd (answer_abort_opening hfresh key')

theorem answer_complete_opening {marks : List CompletedPart} {data : ByteArray}
    (h : joinParts parts 0 .empty marks = .ok data) :
    Backend.answer (.complete key b.nextId marks) (b.opening key acl parts) =
      (.ok (), b.closed key ⟨data, acl⟩) := by
  rw [answer_complete_of_get? get?_opening h, erase_opening hfresh]
  rfl

end fresh

end BlobStore.Bucket
