import Mathlib
import BlobStore.Proofs.Bucket.Uploads
import BlobStore.Proofs.Upload.Conversation

/-!
# All of an upload or nothing

A bucket in memory plays few of the conversations that an upload can have. `Task.verdict` says what
the upload comes to there and `Task.after` what becomes of the bucket, from the parts that fail and
the end of the source alone; `toEnd_eq` says that it is so. An upload whose source stalls may come
to nothing, and then stays open.
-/

namespace BlobStore

/-- What an upload comes to, unless it waits. -/
def UploadOutcome.result? : UploadOutcome → Option (Except StoreError Nat)
  | .finished result => some result
  | .stalled _ => none

def UploadPhase.result? : UploadPhase → Option (Except StoreError Nat)
  | .finished result => some result
  | _ => none

theorem UploadPhase.result?_eq_some {p : UploadPhase} {result : Except StoreError Nat} :
    p.result? = some result ↔ p = .finished result := by
  cases p <;> simp [result?]

namespace Upload

open Backend (Plays)

namespace Task

variable (t : Task)

/-- How many parts have a reply that is looked at. The reply to the last one is not, if the source
stalls meanwhile. -/
def answered : Nat :=
  match t.ending with
  | .stalled => t.count - 1
  | _ => t.count

/-- What the end of the source lets an upload come to that no call of it fails. -/
def atEnd : Option (Except StoreError Nat) :=
  match t.ending with
  | .finished => some (.ok t.data.size)
  | .failing text => some (.error (.source text))
  | .stalled => none

/-- What an upload comes to at a bucket where the parts with these numbers fail. -/
def verdict (failing : List Nat) : Option (Except StoreError Nat) :=
  if t.partSize ≤ t.data.size ∧ ∃ i < t.answered, i + 1 ∈ failing then
    some (.error Bucket.partFault)
  else t.atEnd

/-- The first parts, as the bucket keeps them. -/
def stored (t : Task) : Nat → SortedMap Nat ByteArray
  | 0 => .empty
  | j + 1 => (stored t j).insert (j + 1) (t.piece j)

/-- The bucket while the last part is the last that it heard of the upload. -/
def waitingAt (b : Bucket) : Bucket :=
  (Backend.answer (.part t.key b.nextId (t.count - 1 + 1) (t.piece (t.count - 1)))
    (b.opening t.key t.acl (t.stored (t.count - 1)))).2

/-- The bucket when there is nothing more to come of the upload. -/
def after (b : Bucket) : Bucket :=
  match t.verdict b.failingParts with
  | some (.ok _) =>
    if t.partSize ≤ t.data.size then b.closed t.key ⟨t.data, t.acl⟩
    else b.store t.key ⟨t.data, t.acl⟩
  | some (.error _) => if t.partSize ≤ t.data.size then b.withdrawn else b
  | none => if t.partSize ≤ t.data.size then t.waitingAt b else b

variable {t} {failing : List Nat} {b b' : Bucket}

theorem verdict_of_lt (h : t.data.size < t.partSize) : t.verdict failing = t.atEnd := by
  rw [verdict, if_neg]
  rintro ⟨hle, -⟩
  omega

theorem answered_le : t.answered ≤ t.count := by
  unfold answered
  split
  · exact Nat.sub_le _ _
  · exact le_rfl

theorem answered_of_ne_stalled (h : t.ending ≠ .stalled) : t.answered = t.count := by
  unfold answered
  split
  · next he => exact absurd he h
  · rfl

theorem lt_answered {i : Nat} (hi : i < t.count) (h : t.ending = .stalled → i + 1 < t.count) :
    i < t.answered := by
  by_cases he : t.ending = .stalled
  · have := h he
    rw [answered, he]
    dsimp only
    omega
  · rwa [answered_of_ne_stalled he]

theorem verdict_of_mem (h : t.partSize ≤ t.data.size) {i : Nat} (hi : i < t.answered)
    (hmem : i + 1 ∈ failing) : t.verdict failing = some (.error Bucket.partFault) := by
  rw [verdict, if_pos ⟨h, i, hi, hmem⟩]

theorem verdict_of_forall_notMem (h : ∀ i < t.answered, i + 1 ∉ failing) :
    t.verdict failing = t.atEnd := by
  rw [verdict, if_neg]
  rintro ⟨-, i, hi, hmem⟩
  exact h i hi hmem

theorem verdict_of_quiet (h : ∀ i < t.count, i + 1 ∉ failing) : t.verdict failing = t.atEnd :=
  verdict_of_forall_notMem fun i hi => h i (Nat.lt_of_lt_of_le hi answered_le)

theorem get?_stored {i j : Nat} (h : i < j) : (t.stored j).get? (i + 1) = some (t.piece i) := by
  induction j with
  | zero => omega
  | succ j ih =>
    rw [stored, SortedMap.get?_insert]
    split
    · next he =>
      obtain rfl : i = j := by omega
      rfl
    · exact ih (by omega)

end Task

/-- The marks that a bucket gives to the first parts of an upload. -/
def marksOf (id : String) (first n : Nat) : List CompletedPart :=
  (List.range' first n).map fun number => ⟨number, Bucket.partEtag id number⟩

variable {t : Task} {id : String} {marks : List CompletedPart} {es : List Exchange}
  {o : UploadOutcome} {r : Except StoreError Nat} {b b' : Bucket}

theorem joinParts_marksOf (id : String) {i n m : Nat} (h : i + n ≤ m) :
    Bucket.joinParts (t.stored m) i (t.joined i) (marksOf id (i + 1) n) = .ok (t.joined (i + n)) := by
  induction n generalizing i with
  | zero => rfl
  | succ n ih =>
    have hmarks : marksOf id (i + 1) (n + 1) =
        ⟨i + 1, Bucket.partEtag id (i + 1)⟩ :: marksOf id (i + 1 + 1) n := rfl
    have hstored : (t.stored m).get? (i + 1) = some (t.piece i) := Task.get?_stored (by omega)
    rw [hmarks, Bucket.joinParts, if_neg (by simp)]
    simp only [hstored]
    rw [show i + (n + 1) = i + 1 + n by omega]
    exact ih (by omega)

theorem joinParts_stored (h : marks = marksOf id 1 marks.length) :
    Bucket.joinParts (t.stored marks.length) 0 .empty marks = .ok (t.joined marks.length) := by
  have hjoin := joinParts_marksOf (t := t) id (Nat.zero_add marks.length).le
  rwa [Nat.zero_add, Nat.zero_add, ← h] at hjoin

theorem plays_opened (hfresh : b.pending.get? b.nextId = none)
    (h : Plays b (t.opened id marks ++ es) b') :
    id = b.nextId ∧ marks = marksOf b.nextId 1 marks.length ∧
      (∀ i < marks.length, i + 1 ∉ b.failingParts) ∧
      Plays (b.opening t.key t.acl (t.stored marks.length)) es b' := by
  induction marks using List.reverseRecOn generalizing es with
  | nil =>
    rw [Task.opened, List.cons_append, Backend.plays_cons, Bucket.answer_create] at h
    obtain ⟨hid, hplays⟩ := h
    obtain rfl := Except.ok.inj hid
    exact ⟨rfl, rfl, by simp, hplays⟩
  | append_singleton marks mark ih =>
    rw [Task.opened_append_part, List.append_assoc] at h
    obtain ⟨rfl, hmarks, hquiet, hplays⟩ := ih h
    rw [List.singleton_append, Backend.plays_cons] at hplays
    by_cases hmem : marks.length + 1 ∈ b.failingParts
    · rw [(Bucket.answer_part_failing hfresh hmem _ t.key).1] at hplays
      cases hplays.1
    · rw [Bucket.answer_part_opening hmem] at hplays
      obtain ⟨hmark, hplays⟩ := hplays
      rw [List.length_append, List.length_singleton]
      refine ⟨rfl, ?_, ?_, hplays⟩
      · rw [marksOf, List.range'_concat, List.map_append, ← marksOf, ← hmarks, ← Except.ok.inj hmark]
        simp [Nat.add_comm]
      · intro i hi
        obtain hi | rfl : i < marks.length ∨ i = marks.length := by omega
        · exact hquiet i hi
        · exact hmem

/-- **Which conversations a bucket plays**, and what becomes of it. -/
theorem Conversation.eq_of_plays (hpos : 0 < t.partSize) (hfresh : b.pending.get? b.nextId = none)
    (hconv : Conversation t es o) (hplays : Plays b es b') :
    o.result? = t.verdict b.failingParts ∧ b' = t.after b := by
  cases hconv with
  | @unread text hsize hend =>
    obtain rfl : b = b' := hplays
    have hverdict : t.verdict b.failingParts = some (.error (.source text)) := by
      rw [Task.verdict_of_lt hsize, Task.atEnd, hend]
    rw [Task.after, hverdict]
    exact ⟨rfl, (if_neg (Nat.not_le.mpr hsize)).symm⟩
  | waiting hsize hend =>
    obtain rfl : b = b' := hplays
    have hverdict : t.verdict b.failingParts = none := by
      rw [Task.verdict_of_lt hsize, Task.atEnd, hend]
    rw [Task.after, hverdict]
    exact ⟨rfl, (if_neg (Nat.not_le.mpr hsize)).symm⟩
  | put hsize hend reply =>
    rw [Backend.plays_cons, Backend.plays_nil] at hplays
    obtain ⟨rfl, rfl⟩ := hplays
    have hverdict : t.verdict b.failingParts = some (.ok t.data.size) := by
      rw [Task.verdict_of_lt hsize, Task.atEnd, hend]
    rw [Task.after, hverdict]
    exact ⟨rfl, (if_neg (Nat.not_le.mpr hsize)).symm⟩
  | refused hsize e => cases hplays.1
  | completed hsize hend id marks hcount =>
    obtain ⟨rfl, hmarks, hquiet, hplays⟩ := plays_opened hfresh hplays
    have hjoin := joinParts_stored (t := t) hmarks
    rw [hcount, Task.joined_count hend hpos, ← hcount] at hjoin
    rw [Backend.plays_cons, Bucket.answer_complete_opening hfresh hjoin] at hplays
    obtain ⟨-, rfl⟩ := hplays
    have hverdict : t.verdict b.failingParts = some (.ok t.data.size) := by
      rw [Task.verdict_of_quiet (hcount ▸ hquiet), Task.atEnd, hend]
    rw [Task.after, hverdict]
    exact ⟨rfl, (if_pos hsize).symm⟩
  | partRefused hsize id marks hcount hstall e reply =>
    obtain ⟨rfl, hmarks, hquiet, hplays⟩ := plays_opened hfresh hplays
    rw [Backend.plays_cons] at hplays
    by_cases hmem : marks.length + 1 ∈ b.failingParts
    · obtain ⟨hpart, habort⟩ := @Bucket.answer_part_failing b t.key t.acl (t.stored marks.length)
        hfresh _ hmem (t.piece marks.length) t.key
      rw [hpart] at hplays
      obtain ⟨he, -, rfl⟩ := hplays
      have hverdict := Task.verdict_of_mem hsize (Task.lt_answered hcount hstall) hmem
      rw [Task.after, hverdict, habort, ← Except.error.inj he]
      exact ⟨rfl, (if_pos hsize).symm⟩
    · rw [Bucket.answer_part_opening hmem] at hplays
      cases hplays.1
  | @sourceFailed text hsize hend id marks hcount reply =>
    obtain ⟨rfl, hmarks, hquiet, hplays⟩ := plays_opened hfresh hplays
    rw [Backend.plays_cons, Bucket.answer_abort_opening hfresh] at hplays
    obtain ⟨-, rfl⟩ := hplays
    have hverdict : t.verdict b.failingParts = some (.error (.source text)) := by
      rw [Task.verdict_of_quiet (hcount ▸ hquiet), Task.atEnd, hend]
    rw [Task.after, hverdict]
    exact ⟨rfl, (if_pos hsize).symm⟩
  | completeRefused hsize hend id marks hcount e reply =>
    obtain ⟨rfl, hmarks, hquiet, hplays⟩ := plays_opened hfresh hplays
    rw [Backend.plays_cons, Bucket.answer_complete_opening hfresh (joinParts_stored hmarks)]
      at hplays
    cases hplays.1
  | waitingOpen hsize hend id marks hcount reply =>
    obtain ⟨rfl, hmarks, hquiet, hplays⟩ := plays_opened hfresh hplays
    rw [Backend.plays_cons, Backend.plays_nil] at hplays
    have hlength : t.count - 1 = marks.length := by omega
    have hanswered : t.answered = marks.length := by rw [Task.answered, hend, ← hlength]
    have hverdict : t.verdict b.failingParts = none := by
      rw [Task.verdict_of_forall_notMem (hanswered ▸ hquiet), Task.atEnd, hend]
    rw [Task.after, hverdict]
    refine ⟨rfl, ?_⟩
    rw [← hplays.2]
    dsimp only
    rw [if_pos hsize, Task.waitingAt, hlength]

/-- **What an upload comes to at a bucket** is its verdict. -/
theorem toEnd_eq {source : Source} (hpos : 0 < t.partSize)
    (hsource : source.Holds t.data t.ending) (hfresh : b.pending.get? b.nextId = none) :
    (toEnd t.key t.acl t.partSize source b).1.phase.result? = t.verdict b.failingParts ∧
      (toEnd t.key t.acl t.partSize source b).2 = t.after b := by
  obtain ⟨es, o, hrun, hplays, hdone⟩ := exists_finishes_toEnd t.key t.acl t.partSize source b
  obtain ⟨hverdict, hafter⟩ :=
    (conversation_of_finishes hpos hsource hrun).eq_of_plays hpos hfresh hplays
  rw [step_eq_done] at hdone
  refine ⟨?_, hafter⟩
  rw [← hverdict, hdone]
  cases o <;> rfl

namespace Task

theorem exists_verdict (failing : List Nat) (hstall : t.ending ≠ .stalled) :
    ∃ result, t.verdict failing = some result := by
  unfold verdict
  split
  · exact ⟨_, rfl⟩
  · unfold atEnd
    cases hend : t.ending with
    | finished => exact ⟨_, rfl⟩
    | failing text => exact ⟨_, rfl⟩
    | stalled => exact absurd hend hstall

theorem verdict_eq_ok {failing : List Nat} {n : Nat} (h : t.verdict failing = some (.ok n)) :
    n = t.data.size ∧ t.ending = .finished := by
  unfold verdict at h
  split at h
  · cases h
  · unfold atEnd at h
    cases hend : t.ending with
    | finished =>
      rw [hend] at h
      exact ⟨(Except.ok.inj (Option.some.inj h)).symm, rfl⟩
    | failing text => rw [hend] at h; cases h
    | stalled => rw [hend] at h; cases h

theorem get?_objects_after {n : Nat} (h : t.verdict b.failingParts = some (.ok n)) (k : String) :
    (t.after b).objects.get? k = if k = t.key then some ⟨t.data, t.acl⟩ else b.objects.get? k := by
  rw [after, h]
  dsimp only
  split
  · exact SortedMap.get?_insert ..
  · exact SortedMap.get?_insert ..

theorem objects_after_of_error {e : StoreError} (h : t.verdict b.failingParts = some (.error e)) :
    (t.after b).objects = b.objects := by
  rw [after, h]
  dsimp only
  split <;> rfl

theorem pending_after {result : Except StoreError Nat}
    (h : t.verdict b.failingParts = some result) : (t.after b).pending = b.pending := by
  rw [after, h]
  cases result with
  | ok n => dsimp only; split <;> rfl
  | error e => dsimp only; split <;> rfl

theorem aborted_after {result : Except StoreError Nat}
    (h : t.verdict b.failingParts = some result) : (t.after b).aborted =
      b.aborted + if result.toOption = none ∧ t.partSize ≤ t.data.size then 1 else 0 := by
  rw [after, h]
  cases result with
  | ok n =>
    dsimp only
    split <;> simp [Except.toOption, Bucket.closed, Bucket.store]
  | error e =>
    simp only [Except.toOption, true_and]
    split <;> rfl

end Task

/-- **An upload is stored as a whole or leaves no trace**, whatever was done to the bucket before,
whichever parts fail and however the source ends; and nothing stays open. One that was opened and
failed is counted as aborted, once, no matter who dropped it. -/
theorem upload_all_or_nothing (b : Bucket) (hb : b.Reachable) (key : String) (acl : Option String)
    (partSize : Nat) (source : Source) (hpos : 0 < partSize) (hflows : source.Flows)
    (hstall : source.ending ≠ .stalled) :
    ∃ result, (toEnd key acl partSize source b).1.phase = .finished result ∧
      (∀ n, result = .ok n → n = source.content.size ∧ source.ending = .finished ∧
        ∀ k, (toEnd key acl partSize source b).2.objects.get? k =
          if k = key then some ⟨source.content, acl⟩ else b.objects.get? k) ∧
      (∀ e, result = .error e → (toEnd key acl partSize source b).2.objects = b.objects) ∧
      (toEnd key acl partSize source b).2.pending = b.pending ∧
      (toEnd key acl partSize source b).2.aborted =
        b.aborted + if result.toOption = none ∧ partSize ≤ source.content.size then 1 else 0 := by
  obtain ⟨hresult, hafter⟩ := toEnd_eq (t := ⟨key, acl, partSize, source.content, source.ending⟩)
    hpos hflows.holds hb.numbered.get?_nextId
  obtain ⟨result, hverdict⟩ := Task.exists_verdict
    (t := ⟨key, acl, partSize, source.content, source.ending⟩) b.failingParts hstall
  rw [hverdict, UploadPhase.result?_eq_some] at hresult
  refine ⟨result, hresult, ?_⟩
  rw [hafter]
  refine ⟨?_, ?_, Task.pending_after hverdict, Task.aborted_after hverdict⟩
  · rintro n rfl
    obtain ⟨hsize, hend⟩ := Task.verdict_eq_ok hverdict
    exact ⟨hsize, hend, Task.get?_objects_after hverdict⟩
  · rintro e rfl
    exact Task.objects_after_of_error hverdict

/-- The second of three parts fails, the bucket drops the upload by itself, and the object that was
there stays. -/
theorem upload_all_or_nothing_second_part :
    ∃ b : Bucket, b.Reachable ∧ 0 < 2 ∧
      (⟨[⟨#[1, 2, 3]⟩, ⟨#[4, 5]⟩], some 2, .finished⟩ : Source).Flows ∧
      b.objects.get? "log" = some ⟨⟨#[7]⟩, none⟩ ∧
      (toEnd "log" none 2 ⟨[⟨#[1, 2, 3]⟩, ⟨#[4, 5]⟩], some 2, .finished⟩ b).2.objects = b.objects ∧
      (toEnd "log" none 2 ⟨[⟨#[1, 2, 3]⟩, ⟨#[4, 5]⟩], some 2, .finished⟩ b).2.aborted = 1 := by
  have hb : (((Bucket.new "logs").store "log" ⟨⟨#[7]⟩, none⟩).failPart 2).dropOnFailure.Reachable :=
    (((Bucket.Reachable.new "logs").answer (.put "log" ⟨#[7]⟩ none)).failPart 2).dropOnFailure
  obtain ⟨result, hphase, -, herror, -, haborted⟩ := upload_all_or_nothing _ hb "log" none 2
    ⟨[⟨#[1, 2, 3]⟩, ⟨#[4, 5]⟩], some 2, .finished⟩ (by decide) (by decide) (by decide)
  have hverdict : result = .error Bucket.partFault :=
    UploadPhase.finished.inj (hphase.symm.trans (by rfl))
  exact ⟨_, hb, by decide, by decide, rfl, herror _ hverdict, by rw [haborted, hverdict]; rfl⟩

end Upload

end BlobStore
