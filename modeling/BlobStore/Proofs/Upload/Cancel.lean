import Mathlib
import BlobStore.Bucket.Record
import BlobStore.Proofs.Upload.Atomic

/-!
# Uploads that are given up

An upload whose source stalls has come to a rest in one of three ways: it opened nothing, or a part
failed and it has aborted what it opened, or it waits behind its last part. Giving it up clears up
behind it in each of them, and aborts an upload just once (`Cleared`); where nobody is left to do so,
the upload stays open unless the bucket dropped it (`Abandoned`).
-/

namespace BlobStore

/-- The key and the upload that an abort is for. -/
def Call.aborts? : Call → Option (String × String)
  | abort key upload => some (key, upload)
  | _ => none

namespace Recorded

variable {β : Type} {r r' : Recorded β} {es : List Exchange}

/-- The uploads that were told to abort, in turn. -/
def aborts (r : Recorded β) : List (String × String) := r.calls.filterMap Call.aborts?

variable [Backend β]

theorem plays_inner (h : Backend.Plays r es r') :
    Backend.Plays r.inner es r'.inner ∧ r'.calls = r.calls ++ es.map Sigma.fst := by
  induction es generalizing r with
  | nil =>
    obtain rfl : r = r' := h
    exact ⟨rfl, (List.append_nil _).symm⟩
  | cons e es ih =>
    obtain ⟨hplays, hcalls⟩ := ih h.2
    refine ⟨⟨h.1, hplays⟩, ?_⟩
    rw [hcalls, calls_answer, List.append_assoc]
    rfl

theorem aborts_of_plays {b : β} (h : Backend.Plays (start b) es r') :
    r'.aborts = (es.map Sigma.fst).filterMap Call.aborts? := by
  rw [aborts, (plays_inner h).2]
  rfl

end Recorded

namespace Upload

open Backend (Plays)

variable {t : Task} {b b' : Bucket} {es : List Exchange} {o : UploadOutcome}

theorem aborts_opened (id : String) (marks : List CompletedPart) :
    ((t.opened id marks).map Sigma.fst).filterMap Call.aborts? = [] := by
  induction marks using List.reverseRecOn with
  | nil => rfl
  | append_singleton marks mark ih =>
    rw [Task.opened_append_part, List.map_append, List.filterMap_append, ih]
    rfl

/-! ## Where an upload has come to -/

theorem Task.verdict_of_stalled (hend : t.ending = .stalled) (failing : List Nat) :
    t.verdict failing =
      if t.partSize ≤ t.data.size ∧ ∃ i < t.data.size / t.partSize - 1, i + 1 ∈ failing then
        some (.error Bucket.partFault)
      else none := by
  rw [verdict, atEnd, answered, count, hend]

theorem Task.exists_waitingAt (hfresh : b.pending.get? b.nextId = none) :
    ∃ parts, t.waitingAt b =
      if b.dropsOnFailure = true ∧ t.count - 1 + 1 ∈ b.failingParts then b.withdrawn
      else b.opening t.key t.acl parts := by
  by_cases hmem : t.count - 1 + 1 ∈ b.failingParts
  · refine ⟨t.stored (t.count - 1), ?_⟩
    rw [waitingAt, Bucket.answer_part_opening_of_mem hfresh hmem]
    simp only [hmem, and_true]
  · refine ⟨(t.stored (t.count - 1)).insert (t.count - 1 + 1) (t.piece (t.count - 1)), ?_⟩
    rw [waitingAt, Bucket.answer_part_opening hmem, if_neg fun h => hmem h.2]

theorem Task.abort_waitingAt (hfresh : b.pending.get? b.nextId = none) :
    (Backend.answer (.abort t.key b.nextId) (t.waitingAt b)).2 = b.withdrawn := by
  obtain ⟨parts, hwaiting⟩ := Task.exists_waitingAt (t := t) hfresh
  rw [hwaiting]
  split
  · rw [Bucket.answer_abort_withdrawn hfresh]
  · rw [Bucket.answer_abort_opening hfresh]

/-- **Three ways to rest**, for an upload whose source stalls. -/
theorem Conversation.cases_of_stalled (hpos : 0 < t.partSize)
    (hfresh : b.pending.get? b.nextId = none) (hend : t.ending = .stalled)
    (hconv : Conversation t es o) (hplays : Plays b es b') :
    (t.data.size < t.partSize ∧ o = .stalled none ∧ es = [] ∧ b' = b) ∨
    (t.partSize ≤ t.data.size ∧ o = .finished (.error Bucket.partFault) ∧
      (es.map Sigma.fst).filterMap Call.aborts? = [(t.key, b.nextId)] ∧ b' = b.withdrawn) ∨
    (t.partSize ≤ t.data.size ∧ o = .stalled (some b.nextId) ∧
      (es.map Sigma.fst).filterMap Call.aborts? = [] ∧ b' = t.waitingAt b) := by
  obtain ⟨hresult, hafter⟩ := hconv.eq_of_plays hpos hfresh hplays
  cases hconv with
  | waiting hsize _ =>
    obtain rfl : b = b' := hplays
    exact .inl ⟨hsize, rfl, rfl, rfl⟩
  | refused hsize e => cases hplays.1
  | partRefused hsize id marks hcount hstall e reply =>
    obtain ⟨rfl, -⟩ := plays_opened hfresh hplays
    have hverdict : t.verdict b.failingParts = some (.error e) := hresult.symm
    have hfault : e = Bucket.partFault := by
      rw [Task.verdict_of_stalled hend] at hverdict
      split at hverdict
      · exact (Except.error.inj (Option.some.inj hverdict)).symm
      · cases hverdict
    rw [Task.after, hverdict] at hafter
    refine .inr (.inl ⟨hsize, hfault ▸ rfl, ?_, hafter.trans (if_pos hsize)⟩)
    rw [List.map_append, List.filterMap_append, aborts_opened]
    rfl
  | waitingOpen hsize _ id marks hcount reply =>
    obtain ⟨rfl, -⟩ := plays_opened hfresh hplays
    have hverdict : t.verdict b.failingParts = none := hresult.symm
    rw [Task.after, hverdict] at hafter
    refine .inr (.inr ⟨hsize, rfl, ?_, hafter.trans (if_pos hsize)⟩)
    rw [List.map_append, List.filterMap_append, aborts_opened]
    rfl
  | unread _ hend' => cases hend.symm.trans hend'
  | put _ hend' => cases hend.symm.trans hend'
  | completed _ hend' => cases hend.symm.trans hend'
  | sourceFailed _ hend' => cases hend.symm.trans hend'
  | completeRefused _ hend' => cases hend.symm.trans hend'

/-! ## Giving up -/

theorem key_toEnd {β : Type} [Backend β] (key : String) (acl : Option String) (partSize : Nat)
    (source : Source) (b : β) : (toEnd key acl partSize source b).1.key = key := by
  refine Client.run_keeps (I := fun u : Upload => u.key = key) (fun u hu => ?_) (key_start ..) _ b
  have hkeys := key_step u
  cases h : Client.step u with
  | ask c next =>
    rw [h] at hkeys
    exact fun reply => (hkeys reply).trans hu
  | done o => trivial

section drop

variable {β : Type} [Backend β] {u : Upload}

theorem drop_false (u : Upload) (b : β) : u.drop false b = b := by
  unfold drop
  split <;> rfl

theorem drop_of_finished {result : Except StoreError Nat} (h : u.phase = .finished result)
    (abortable : Bool) (b : β) : u.drop abortable b = b := by
  rw [drop, h]

theorem drop_of_stalled_none (h : u.phase = .stalled none) (abortable : Bool) (b : β) :
    u.drop abortable b = b := by
  rw [drop, h]

theorem drop_of_stalled_some {id : String} (h : u.phase = .stalled (some id)) (b : β) :
    u.drop true b = (Backend.answer (.abort u.key id) b).2 := by
  rw [drop, h]
  rfl

end drop

/-- Nothing is left of an upload but that it is counted, and if it was opened it was aborted once. -/
structure Cleared (b : Bucket) (key : String) (isOpened : Prop) [Decidable isOpened]
    (r : Recorded Bucket) : Prop where
  objects : r.inner.objects = b.objects
  pending : r.inner.pending = b.pending
  aborted : r.inner.aborted = b.aborted + if isOpened then 1 else 0
  aborts : r.aborts = if isOpened then [(key, b.nextId)] else []

/-- Nobody looks after an upload any more. If it was opened, it stays so unless the bucket dropped
it. -/
structure Abandoned (b : Bucket) (isOpened isDropped : Prop) (r : Recorded Bucket) : Prop where
  objects : r.inner.objects = b.objects
  aborts : r.aborts = []
  others : ∀ id, id ≠ b.nextId → r.inner.pending.get? id = b.pending.get? id
  open_iff : r.inner.pending.contains b.nextId = true ↔ isOpened ∧ ¬ isDropped

section rest

variable {key : String} {isOpened : Prop} [Decidable isOpened] {r : Recorded Bucket}

theorem cleared_of_not (h : ¬ isOpened) (hinner : r.inner = b) (haborts : r.aborts = []) :
    Cleared b key isOpened r where
  objects := by rw [hinner]
  pending := by rw [hinner]
  aborted := by rw [hinner, if_neg h, Nat.add_zero]
  aborts := by rw [haborts, if_neg h]

theorem cleared_of_withdrawn (h : isOpened) (hinner : r.inner = b.withdrawn)
    (haborts : r.aborts = [(key, b.nextId)]) : Cleared b key isOpened r where
  objects := by rw [hinner]; rfl
  pending := by rw [hinner]; rfl
  aborted := by rw [hinner, if_pos h]; rfl
  aborts := by rw [haborts, if_pos h]

omit [Decidable isOpened] in
theorem abandoned_of_not (hfresh : b.pending.get? b.nextId = none) (h : ¬ isOpened)
    (hinner : r.inner = b) (haborts : r.aborts = []) (isDropped : Prop) :
    Abandoned b isOpened isDropped r where
  objects := by rw [hinner]
  aborts := haborts
  others := fun _ _ => by rw [hinner]
  open_iff := by
    rw [hinner, SortedMap.contains_eq_false.mpr hfresh]
    exact iff_of_false Bool.false_ne_true fun hopen => h hopen.1

omit [Decidable isOpened] in
theorem abandoned_of_waitingAt (hfresh : b.pending.get? b.nextId = none) (h : isOpened)
    (hinner : r.inner = t.waitingAt b) (haborts : r.aborts = []) : Abandoned b isOpened
      (b.dropsOnFailure = true ∧ t.count - 1 + 1 ∈ b.failingParts) r := by
  obtain ⟨parts, hwaiting⟩ := Task.exists_waitingAt (t := t) hfresh
  rw [hwaiting] at hinner
  by_cases hdropped : b.dropsOnFailure = true ∧ t.count - 1 + 1 ∈ b.failingParts
  · rw [if_pos hdropped] at hinner
    refine ⟨by rw [hinner]; rfl, haborts, fun id _ => by rw [hinner]; rfl, ?_⟩
    have hgone : b.withdrawn.pending.contains b.nextId = false :=
      SortedMap.contains_eq_false.mpr hfresh
    rw [hinner, hgone]
    exact iff_of_false Bool.false_ne_true fun hopen => hopen.2 hdropped
  · rw [if_neg hdropped] at hinner
    refine ⟨by rw [hinner]; rfl, haborts, fun id hid => ?_, ?_⟩
    · rw [hinner, Bucket.opening, SortedMap.get?_insert, if_neg hid]
    · rw [hinner]
      exact iff_of_true Bucket.contains_opening ⟨h, hdropped⟩

end rest

/-- **Giving up an upload leaves no trace**, wherever it has come to when its source stalls and
whatever the bucket made of its parts; it is aborted once if it was opened. If nobody is left to
abort it, only the open upload stays behind. -/
theorem cancelled_upload_leaves_no_trace (b : Bucket) (hb : b.Reachable) (key : String)
    (acl : Option String) (partSize : Nat) (source : Source) (hpos : 0 < partSize)
    (hflows : source.Flows) (hend : source.ending = .stalled) :
    let n := source.content.size
    let u := (toEnd key acl partSize source (Recorded.start b)).1
    let r := (toEnd key acl partSize source (Recorded.start b)).2
    (u.phase =
      if partSize ≤ n ∧ ∃ i < n / partSize - 1, i + 1 ∈ b.failingParts then
        .finished (.error Bucket.partFault)
      else .stalled (if partSize ≤ n then some b.nextId else none)) ∧
    Cleared b key (partSize ≤ n) (u.drop true r) ∧
    ∀ open?, u.phase = .stalled open? →
      Abandoned b (partSize ≤ n) (b.dropsOnFailure = true ∧ n / partSize ∈ b.failingParts)
        (u.drop false r) := by
  intro n u r
  let t : Task := ⟨key, acl, partSize, source.content, source.ending⟩
  have hfresh := hb.numbered.get?_nextId
  have hkey : u.key = key := key_toEnd ..
  obtain ⟨es, o, hrun, hplays, hdone⟩ :=
    exists_finishes_toEnd key acl partSize source (Recorded.start b)
  have hconv := conversation_of_finishes (t := t) hpos hflows.holds hrun
  have hinner : Plays b es r.inner := (Recorded.plays_inner hplays).1
  have haborts : r.aborts = (es.map Sigma.fst).filterMap Call.aborts? :=
    Recorded.aborts_of_plays hplays
  have hverdict := (hconv.eq_of_plays hpos hfresh hinner).1
  rw [Task.verdict_of_stalled hend] at hverdict
  rw [step_eq_done] at hdone
  change u.phase = _ at hdone
  rw [drop_false]
  rcases hconv.cases_of_stalled hpos hfresh hend hinner with
    ⟨hsize, rfl, rfl, hbucket⟩ | ⟨hsize, rfl, hes, hbucket⟩ | ⟨hsize, rfl, hes, hbucket⟩
  · have hsize' : ¬ partSize ≤ n := Nat.not_le.mpr hsize
    rw [drop_of_stalled_none hdone]
    refine ⟨?_, cleared_of_not hsize' hbucket haborts, fun _ _ => ?_⟩
    · rw [hdone, if_neg fun h => hsize' h.1, if_neg hsize']
    · exact abandoned_of_not hfresh hsize' hbucket haborts _
  · rw [drop_of_finished hdone]
    refine ⟨?_, cleared_of_withdrawn hsize hbucket (haborts.trans hes), fun open? hopen => ?_⟩
    · rw [hdone, if_pos]
      by_contra hquiet
      rw [if_neg hquiet] at hverdict
      cases hverdict
    · cases hdone.symm.trans hopen
  · rw [drop_of_stalled_some hdone, hkey]
    refine ⟨?_, cleared_of_withdrawn hsize ?_ ?_, fun _ _ => ?_⟩
    · rw [hdone, if_neg, if_pos hsize]
      intro hfails
      rw [if_pos hfails] at hverdict
      cases hverdict
    · show (Backend.answer (.abort key b.nextId) r.inner).2 = b.withdrawn
      rw [hbucket]
      exact Task.abort_waitingAt (t := t) hfresh
    · rw [Recorded.aborts, Recorded.calls_answer, List.filterMap_append, ← Recorded.aborts,
        haborts, hes]
      rfl
    · have hcount : t.count = n / partSize := by rw [Task.count, show t.ending = .stalled from hend]
      have habandoned := abandoned_of_waitingAt hfresh hsize hbucket (haborts.trans hes)
      rwa [hcount, Nat.sub_add_cancel (Nat.div_pos hsize hpos)] at habandoned

/-- Five bytes and then nothing: the second part failed and the bucket dropped the upload, which is
aborted once all the same. -/
theorem cancelled_upload_leaves_no_trace_second_part :
    let b := ((Bucket.new "logs").failPart 2).dropOnFailure
    let source : Source := ⟨[⟨#[1, 2, 3]⟩, ⟨#[4, 5]⟩], some 2, .stalled⟩
    let u := (toEnd "log" none 2 source (Recorded.start b)).1
    let r := (toEnd "log" none 2 source (Recorded.start b)).2
    b.Reachable ∧ 0 < 2 ∧ source.Flows ∧ source.ending = .stalled ∧
      u.phase = .stalled (some "upload-1") ∧
      (u.drop true r).inner.aborted = 1 ∧ (u.drop true r).aborts = [("log", "upload-1")] ∧
      (u.drop false r).inner.pending.contains "upload-1" = false := by
  intro b source u r
  have hb : b.Reachable := ((Bucket.Reachable.new "logs").failPart 2).dropOnFailure
  have hid : b.nextId = "upload-1" := by decide +kernel
  have hsize : 2 ≤ source.content.size := by decide
  have hdropped : b.dropsOnFailure = true ∧ source.content.size / 2 ∈ b.failingParts := by decide
  obtain ⟨hphase, hcleared, habandoned⟩ :=
    cancelled_upload_leaves_no_trace b hb "log" none 2 source (by decide) (by decide) rfl
  rw [if_neg (by decide), if_pos hsize, hid] at hphase
  have habandoned := habandoned _ hphase
  change u.phase = _ at hphase
  change Cleared b "log" _ (u.drop true r) at hcleared
  change Abandoned b _ _ (u.drop false r) at habandoned
  -- what the upload and the bucket are need not be worked out any more
  clear_value u r
  refine ⟨hb, by decide, by decide, rfl, hphase, ?_, ?_, ?_⟩
  · rw [hcleared.aborted, if_pos hsize]
    rfl
  · rw [hcleared.aborts, if_pos hsize, hid]
  · rw [Bool.eq_false_iff, ← hid]
    exact fun hopen => (habandoned.open_iff.mp hopen).2 hdropped

end Upload

end BlobStore
