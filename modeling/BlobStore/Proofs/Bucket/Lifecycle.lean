import Mathlib
import BlobStore.Proofs.Bucket.Parts

/-!
# The life of an upload in parts

What a bucket holds of its uploads can be told from the calls that it got and its replies to them:
which ids it handed out, which of them are open, and which bytes were last sent for each part.

`Turn` says once what a call can do to the uploads. From it come what every call keeps, `Recounts`,
and how it shifts the balance of opened and closed uploads; `life_cycle` puts these together.
-/

namespace BlobStore

/-! ## Histories -/

namespace Call

def opens : Call → Bool
  | create .. => true
  | _ => false

/-- The upload that the call is to close. -/
def closes? : Call → Option String
  | complete _ upload _ | abort _ upload => some upload
  | _ => none

end Call

namespace Exchange

/-- The id that is handed out. -/
def issued? : Exchange → Option String
  | ⟨.create .., .ok upload⟩ => some upload
  | _ => none

/-- The bytes that are taken in as this part of the upload. -/
def sent? (upload : String) (number : Nat) : Exchange → Option ByteArray
  | ⟨.part _ upload' number' data, .ok _⟩ =>
    if upload' = upload ∧ number' = number then some data else none
  | _ => none

end Exchange

namespace Bucket

def issued (es : List Exchange) : List String := es.filterMap Exchange.issued?

/-- All that was taken in as this part of the upload, the latest last. -/
def sends (es : List Exchange) (upload : String) (number : Nat) : List ByteArray :=
  es.filterMap (Exchange.sent? upload number)

/-- The bytes that were taken in last as this part of the upload. -/
def sent? (es : List Exchange) (upload : String) (number : Nat) : Option ByteArray :=
  (sends es upload number).getLast?

/-- The upload was opened so, and no call since was to close it. -/
def Standing (es : List Exchange) (upload key : String) (acl : Option String) : Prop :=
  ∃ before after, es = before ++ ⟨.create key acl, .ok upload⟩ :: after ∧
    ∀ e ∈ after, e.1.closes? ≠ some upload

section concat

variable {es : List Exchange} {e : Exchange} {upload key : String} {acl : Option String}

theorem issued_concat : issued (es ++ [e]) = issued es ++ e.issued?.toList := by
  rw [issued, List.filterMap_append, List.filterMap_cons, List.filterMap_nil]
  cases e.issued? <;> rfl

theorem sends_concat {number : Nat} :
    sends (es ++ [e]) upload number = sends es upload number ++ (e.sent? upload number).toList := by
  rw [sends, List.filterMap_append, List.filterMap_cons, List.filterMap_nil]
  cases e.sent? upload number <;> rfl

theorem sent?_concat {number : Nat} :
    sent? (es ++ [e]) upload number = (e.sent? upload number).or (sent? es upload number) := by
  rw [sent?, sends_concat]
  cases e.sent? upload number with
  | none => rw [Option.toList_none, List.append_nil]; rfl
  | some data => rw [Option.toList_some, List.getLast?_concat]; rfl

theorem standing_concat : Standing (es ++ [e]) upload key acl ↔
    e = ⟨.create key acl, .ok upload⟩ ∨ Standing es upload key acl ∧ e.1.closes? ≠ some upload := by
  constructor
  · rintro ⟨before, after, heq, hafter⟩
    rcases List.eq_nil_or_concat after with rfl | ⟨after, last, rfl⟩
    · exact .inl (List.singleton_inj.mp (List.append_inj' heq rfl).2)
    · rw [List.concat_eq_append, ← List.cons_append, ← List.append_assoc] at heq
      obtain ⟨rfl, hlast⟩ := List.append_inj' heq rfl
      obtain rfl := List.singleton_inj.mp hlast
      rw [List.concat_eq_append, List.forall_mem_append, List.forall_mem_singleton] at hafter
      exact .inr ⟨⟨before, after, rfl, hafter.1⟩, hafter.2⟩
  · rintro (rfl | ⟨⟨before, after, rfl, hafter⟩, hlast⟩)
    · exact ⟨es, [], rfl, List.forall_mem_nil _⟩
    · refine ⟨before, after ++ [e], by simp, List.forall_mem_append.mpr ⟨hafter, ?_⟩⟩
      exact List.forall_mem_singleton.mpr hlast

theorem Standing.mem_issued (h : Standing es upload key acl) : upload ∈ issued es := by
  obtain ⟨before, after, rfl, -⟩ := h
  exact List.mem_filterMap.mpr ⟨_, List.mem_append_right _ List.mem_cons_self, rfl⟩

end concat

/-! ## What a call does to the uploads -/

/-- The open uploads that the call is to complete: one or none. -/
def completed (b : Bucket) : Call → Nat
  | .complete _ upload _ => if b.pending.contains upload = true then 1 else 0
  | _ => 0

/-- How many completions were of an upload that was open then. -/
def completions : Bucket → List Exchange → Nat
  | _, [] => 0
  | b, e :: es => b.completed e.1 + completions (Backend.answer e.1 b).2 es

/-- **What an exchange can do to the uploads**: one more is open, an open one takes in a part, an open
one is closed, or all stay as they are. -/
inductive Turn (b : Bucket) : Exchange → Bucket → Prop
  | opened {b' : Bucket} (key : String) (acl : Option String)
    (hpending : b'.pending = b.pending.insert b.nextId ⟨key, acl, .empty⟩)
    (hcreated : b'.created = b.created + 1) (haborted : b'.aborted = b.aborted) :
    Turn b ⟨.create key acl, .ok b.nextId⟩ b'
  | grown {b' : Bucket} {upload : String} {entry : PendingUpload} {mark : CompletedPart}
    (number : Nat) (data : ByteArray) (hopen : b.pending.get? upload = some entry)
    (hpending : b'.pending =
      b.pending.insert upload { entry with parts := entry.parts.insert number data })
    (hcreated : b'.created = b.created) (haborted : b'.aborted = b.aborted) :
    Turn b ⟨.part entry.key upload number data, .ok mark⟩ b'
  | closed {b' : Bucket} {c : Call} {reply : c.Reply} {upload : String} {entry : PendingUpload}
    (hcloses : c.closes? = some upload) (hopen : b.pending.get? upload = some entry)
    (hpending : b'.pending = b.pending.erase upload)
    (hcreated : b'.created = b.created) (haborted : b'.aborted + b.completed c = b.aborted + 1) :
    Turn b ⟨c, reply⟩ b'
  | idle {b' : Bucket} {e : Exchange} (hopens : e.1.opens = false)
    (hsent : ∀ upload number, e.sent? upload number = none)
    (hcloses : ∀ upload, e.1.closes? = some upload → b.pending.get? upload = none)
    (hpending : b'.pending = b.pending)
    (hcreated : b'.created = b.created) (haborted : b'.aborted = b.aborted) : Turn b e b'

theorem turn_answer {b : Bucket} (hparts : b.failingParts = []) (c : Call) :
    Turn b ⟨c, (Backend.answer c b).1⟩ (Backend.answer c b).2 := by
  cases c with
  | create key acl => exact .opened key acl rfl rfl rfl
  | part key upload number data =>
    have hnumber : number ∉ b.failingParts := by simp [hparts]
    by_cases hopen : b.OpenFor key upload
    · obtain ⟨entry, hentry, rfl⟩ := hopen
      rw [answer_part_of_get? hentry hnumber data]
      exact .grown number data hentry rfl rfl rfl
    · rw [answer_part_of_not_openFor hnumber hopen data]
      exact .idle rfl (fun _ _ => rfl) (fun _ h => by cases h) rfl rfl rfl
  | complete key upload marks =>
    cases hentry : b.pending.get? upload with
    | none =>
      rw [answer_complete_of_none hentry]
      refine .idle rfl (fun _ _ => rfl) (fun id hid => ?_) rfl rfl rfl
      exact Option.some.inj hid ▸ hentry
    | some entry =>
      have hcompleted : b.completed (.complete key upload marks) = 1 :=
        if_pos (SortedMap.contains_of_get? hentry)
      by_cases hfits : entry.key = key ∧ Lists entry.parts.get? 0 marks
      · obtain ⟨rfl, hlists⟩ := hfits
        rw [answer_complete_of_lists hentry hlists]
        exact .closed rfl hentry rfl rfl (congrArg (b.aborted + ·) hcompleted)
      · obtain ⟨e, hanswer⟩ := exists_answer_complete_error hentry hfits
        rw [hanswer]
        exact .closed rfl hentry rfl rfl (congrArg (b.aborted + ·) hcompleted)
  | abort key upload =>
    cases hentry : b.pending.get? upload with
    | none =>
      rw [answer_abort_of_none hentry]
      refine .idle rfl (fun _ _ => rfl) (fun id hid => ?_) rfl rfl rfl
      exact Option.some.inj hid ▸ hentry
    | some entry =>
      rw [answer_abort_of_get? hentry]
      exact .closed rfl hentry rfl rfl rfl
  | list stem token max =>
    rw [snd_answer_list]
    exact .idle rfl (fun _ _ => rfl) (fun _ h => by cases h) rfl rfl rfl
  | get | put | delete | presign | check =>
    exact .idle rfl (fun _ _ => rfl) (fun _ h => by cases h) rfl rfl rfl

theorem turn_of_reply {b : Bucket} (hparts : b.failingParts = []) {e : Exchange}
    (hreply : (Backend.answer e.1 b).1 = e.2) : Turn b e (Backend.answer e.1 b).2 := by
  have hturn := turn_answer hparts e.1
  rwa [hreply] at hturn

/-! ## What the history tells of the uploads -/

/-- The uploads of the bucket are what the history says of them. -/
structure Recounts (es : List Exchange) (b : Bucket) : Prop where
  noFault : b.failingParts = []
  opened : es.countP (·.1.opens) = b.created
  issued_eq : issued es = (List.range b.created).map fun n => uploadId (n + 1)
  standing : ∀ {upload key acl}, (∃ parts, b.pending.get? upload = some ⟨key, acl, parts⟩) ↔
    Standing es upload key acl
  sent_eq : ∀ {upload entry}, b.pending.get? upload = some entry →
    entry.parts.get? = sent? es upload
  known : ∀ {upload number}, sends es upload number ≠ [] → upload ∈ issued es

theorem answer_of_closed {b : Bucket} (hparts : b.failingParts = []) {c : Call}
    {upload key : String} (hclosed : b.pending.get? upload = none)
    (hc : c.upload? = some (key, upload)) :
    ∃ title, (Backend.answer c b).1 = .error (noSuchUpload title) := by
  cases c with
  | part key' upload' number data =>
    obtain ⟨rfl, rfl⟩ := Prod.mk.inj (Option.some.inj hc)
    have hnot : ¬ b.OpenFor key' upload' := by
      rintro ⟨entry, hentry, -⟩
      cases hclosed.symm.trans hentry
    exact ⟨Title.part, by rw [answer_part_of_not_openFor (by simp [hparts]) hnot]⟩
  | complete key' upload' marks =>
    obtain ⟨rfl, rfl⟩ := Prod.mk.inj (Option.some.inj hc)
    exact ⟨Title.complete, by rw [answer_complete_of_none hclosed]⟩
  | abort key' upload' =>
    obtain ⟨rfl, rfl⟩ := Prod.mk.inj (Option.some.inj hc)
    exact ⟨Title.abort, by rw [answer_abort_of_none hclosed]⟩
  | get | put | create | delete | list | presign | check => cases hc

namespace Recounts

variable {es : List Exchange} {e : Exchange} {b b' : Bucket} {upload key : String}
  {entry : PendingUpload}

theorem mem_issued (h : Recounts es b) (hopen : b.pending.get? upload = some entry) :
    upload ∈ issued es :=
  (h.standing.mp ⟨entry.parts, hopen⟩).mem_issued

theorem nextId_notMem (h : Recounts es b) : b.nextId ∉ issued es := by
  rw [h.issued_eq, List.mem_map]
  rintro ⟨n, hn, heq⟩
  have := uploadId_injective heq
  have := List.mem_range.mp hn
  omega

theorem sent?_nextId (h : Recounts es b) (number : Nat) : sent? es b.nextId number = none := by
  have hsends : sends es b.nextId number = [] := by
    by_contra hne
    exact h.nextId_notMem (h.known hne)
  rw [sent?, hsends, List.getLast?_nil]

theorem get?_nextId (h : Recounts es b) : b.pending.get? b.nextId = none := by
  cases hentry : b.pending.get? b.nextId with
  | none => rfl
  | some entry => exact absurd (h.mem_issued hentry) h.nextId_notMem

theorem concat_opened (h : Recounts es b) {acl : Option String}
    (hfault : b'.failingParts = []) (hcreated : b'.created = b.created + 1)
    (hpending : b'.pending = b.pending.insert b.nextId ⟨key, acl, .empty⟩) :
    Recounts (es ++ [⟨.create key acl, .ok b.nextId⟩]) b' where
  noFault := hfault
  opened := by
    rw [List.countP_append, h.opened, hcreated]
    rfl
  issued_eq := by
    rw [issued_concat, h.issued_eq, hcreated, List.range_succ, List.map_append]
    rfl
  standing {upload key' acl'} := by
    rw [standing_concat, ← h.standing, hpending, SortedMap.get?_insert]
    by_cases hupload : upload = b.nextId
    · subst hupload
      simp [h.get?_nextId, Call.closes?, eq_comm]
    · have hne : (⟨.create key acl, .ok b.nextId⟩ : Exchange) ≠ ⟨.create key' acl', .ok upload⟩ := by
        intro heq
        cases heq
        exact hupload rfl
      simp [hupload, hne, Call.closes?]
  sent_eq {upload entry} hentry := by
    funext number
    rw [sent?_concat]
    show _ = none.or (sent? es upload number)
    rw [Option.none_or]
    rw [hpending, SortedMap.get?_insert] at hentry
    split at hentry
    · next hupload =>
      obtain rfl := Option.some.inj hentry
      rw [hupload, h.sent?_nextId]
      rfl
    · rw [h.sent_eq hentry]
  known {upload number} hne := by
    rw [sends_concat] at hne
    rw [issued_concat]
    exact List.mem_append_left _ (h.known (by simpa [Exchange.sent?] using hne))

theorem concat_grown (h : Recounts es b) {number : Nat} {data : ByteArray} {mark : CompletedPart}
    (hfault : b'.failingParts = []) (hcreated : b'.created = b.created)
    (hopen : b.pending.get? upload = some entry)
    (hpending : b'.pending =
      b.pending.insert upload { entry with parts := entry.parts.insert number data }) :
    Recounts (es ++ [⟨.part entry.key upload number data, .ok mark⟩]) b' where
  noFault := hfault
  opened := by
    rw [List.countP_append, h.opened, hcreated]
    rfl
  issued_eq := by
    rw [issued_concat, h.issued_eq, hcreated]
    exact List.append_nil _
  standing {upload' key' acl'} := by
    rw [standing_concat, ← h.standing, hpending, SortedMap.get?_insert]
    by_cases hupload : upload' = upload
    · subst hupload
      obtain ⟨key, acl, parts⟩ := entry
      simp [hopen, Call.closes?]
    · simp [hupload, Call.closes?]
  sent_eq {upload' entry'} hentry := by
    funext number'
    rw [sent?_concat]
    rw [hpending, SortedMap.get?_insert] at hentry
    split at hentry
    · next hupload =>
      obtain rfl := Option.some.inj hentry
      rw [SortedMap.get?_insert, h.sent_eq hopen, hupload]
      by_cases hnumber : number' = number
      · simp [Exchange.sent?, hnumber]
      · simp [Exchange.sent?, hnumber, Ne.symm hnumber]
    · next hupload =>
      rw [h.sent_eq hentry]
      simp [Exchange.sent?, Ne.symm hupload]
  known {upload' number'} hne := by
    rw [sends_concat] at hne
    rw [issued_concat]
    refine List.mem_append_left _ ?_
    by_cases hupload : upload = upload'
    · exact hupload ▸ h.mem_issued hopen
    · exact h.known (by simpa [Exchange.sent?, hupload] using hne)

theorem concat_quiet (h : Recounts es b) (hfault : b'.failingParts = [])
    (hcreated : b'.created = b.created) (hopens : e.1.opens = false)
    (hsent : ∀ upload number, e.sent? upload number = none)
    (hpending : ∀ upload, b'.pending.get? upload =
      if e.1.closes? = some upload then none else b.pending.get? upload) :
    Recounts (es ++ [e]) b' where
  noFault := hfault
  opened := by
    rw [List.countP_append, h.opened, hcreated, List.countP_singleton, hopens]
    rfl
  issued_eq := by
    have hissued : e.issued? = none := by
      obtain ⟨c, reply⟩ := e
      cases c <;> first | rfl | cases hopens
    rw [issued_concat, h.issued_eq, hcreated, hissued]
    exact List.append_nil _
  standing {upload key acl} := by
    have hne : e ≠ ⟨.create key acl, .ok upload⟩ := by
      rintro rfl
      cases hopens
    rw [standing_concat, ← h.standing, hpending]
    by_cases hcloses : e.1.closes? = some upload <;> simp [hcloses, hne]
  sent_eq {upload entry} hentry := by
    funext number
    rw [sent?_concat, hsent, Option.none_or]
    rw [hpending] at hentry
    split at hentry
    · cases hentry
    · rw [h.sent_eq hentry]
  known {upload number} hne := by
    rw [sends_concat, hsent, Option.toList_none, List.append_nil] at hne
    rw [issued_concat]
    exact List.mem_append_left _ (h.known hne)

/-- **Every exchange keeps the account.** -/
theorem concat (h : Recounts es b) (hfault : b'.failingParts = []) (hturn : Turn b e b') :
    Recounts (es ++ [e]) b' := by
  cases hturn with
  | opened key acl hpending hcreated haborted => exact h.concat_opened hfault hcreated hpending
  | grown number data hopen hpending hcreated haborted =>
    exact h.concat_grown hfault hcreated hopen hpending
  | @closed _ c reply upload entry hcloses hopen hpending hcreated haborted =>
    refine h.concat_quiet hfault hcreated ?_ (fun _ _ => ?_) fun id => ?_
    · cases c <;> first | rfl | cases hcloses
    · cases c <;> first | rfl | cases hcloses
    · rw [hpending, SortedMap.get?_erase, hcloses]
      simp [eq_comm]
  | idle hopens hsent hcloses hpending hcreated haborted =>
    refine h.concat_quiet hfault hcreated hopens hsent fun id => ?_
    rw [hpending]
    split
    · next hid => exact hcloses id hid
    · rfl

/-- **The account holds after every run.** -/
theorem plays (h : Recounts es b) {es' : List Exchange} (hplays : Backend.Plays b es' b') :
    Recounts (es ++ es') b' := by
  induction es' generalizing es b with
  | nil =>
    rw [List.append_nil, ← show b = b' from hplays]
    exact h
  | cons e es' ih =>
    obtain ⟨hreply, hrest⟩ := hplays
    have hfault := (failingParts_answer e.1 b).trans h.noFault
    rw [List.append_cons]
    exact ih (h.concat hfault (turn_of_reply h.noFault hreply)) hrest

theorem closed_stays (h : Recounts es b) (hturn : Turn b e b') (hissued : upload ∈ issued es)
    (hclosed : b.pending.get? upload = none) : b'.pending.get? upload = none := by
  cases hturn with
  | opened key acl hpending hcreated haborted =>
    have hne : upload ≠ b.nextId := fun heq => h.nextId_notMem (heq ▸ hissued)
    rw [hpending, SortedMap.get?_insert, if_neg hne, hclosed]
  | @grown _ upload' _ _ number data hopen hpending hcreated haborted =>
    have hne : upload ≠ upload' := by
      rintro rfl
      cases hclosed.symm.trans hopen
    rw [hpending, SortedMap.get?_insert, if_neg hne, hclosed]
  | closed hcloses hopen hpending hcreated haborted =>
    rw [hpending, SortedMap.get?_erase, hclosed, ite_self]
  | idle hopens hsent hcloses hpending hcreated haborted => rw [hpending, hclosed]

theorem gone (h : Recounts es b) {es' : List Exchange} (hplays : Backend.Plays b es' b')
    (hissued : upload ∈ issued es) (hclosed : b.pending.get? upload = none) :
    b'.pending.get? upload = none ∧ ∀ e ∈ es', ∀ key, e.1.upload? = some (key, upload) →
      ∃ title, e.2 = .error (noSuchUpload title) := by
  induction es' generalizing es b with
  | nil =>
    rw [← show b = b' from hplays]
    exact ⟨hclosed, List.forall_mem_nil _⟩
  | cons e es' ih =>
    have hnext : Recounts (es ++ [e]) (Backend.answer e.1 b).2 := h.plays ⟨hplays.1, rfl⟩
    have hstill := h.closed_stays (turn_of_reply h.noFault hplays.1) hissued hclosed
    have hmore : upload ∈ issued (es ++ [e]) := issued_concat ▸ List.mem_append_left _ hissued
    obtain ⟨hlast, hrest⟩ := ih hnext hplays.2 hmore hstill
    refine ⟨hlast, List.forall_mem_cons.mpr ⟨fun key hkey => ?_, hrest⟩⟩
    rw [← hplays.1]
    exact answer_of_closed h.noFault hclosed hkey

/-! ### The balance of opened and closed uploads -/

theorem balance_turn (h : Recounts es b) (hturn : Turn b e b') :
    b'.pending.size + b'.aborted + b.completed e.1 + b.created =
      b.pending.size + b.aborted + b'.created := by
  cases hturn with
  | opened key acl hpending hcreated haborted =>
    have hnew := SortedMap.contains_eq_false.mpr h.get?_nextId
    have hsize := SortedMap.size_insert b.pending b.nextId ⟨key, acl, .empty⟩
    rw [hnew, if_neg Bool.false_ne_true, ← hpending] at hsize
    show _ + 0 + b.created = _
    omega
  | @grown _ upload entry _ number data hopen hpending hcreated haborted =>
    have hsize := SortedMap.size_insert b.pending upload
      { entry with parts := entry.parts.insert number data }
    rw [if_pos (SortedMap.contains_of_get? hopen), ← hpending] at hsize
    show _ + 0 + b.created = _
    omega
  | @closed _ _ _ upload _ hcloses hopen hpending hcreated haborted =>
    have hsize := SortedMap.size_erase (SortedMap.contains_of_get? hopen)
    rw [← hpending] at hsize
    dsimp only
    omega
  | idle hopens hsent hcloses hpending hcreated haborted =>
    have hnone : b.completed e.1 = 0 := by
      obtain ⟨c, reply⟩ := e
      cases c with
      | complete key upload marks =>
        have hclosed := SortedMap.contains_eq_false.mpr (hcloses upload rfl)
        exact if_neg (by rw [hclosed]; exact Bool.false_ne_true)
      | _ => rfl
    rw [hpending, hnone, hcreated, haborted, Nat.add_zero]

theorem balance (h : Recounts es b) {es' : List Exchange} (hplays : Backend.Plays b es' b') :
    b'.pending.size + b'.aborted + completions b es' + b.created =
      b.pending.size + b.aborted + b'.created := by
  induction es' generalizing es b with
  | nil =>
    rw [← show b = b' from hplays]
    rfl
  | cons e es' ih =>
    have hnext : Recounts (es ++ [e]) (Backend.answer e.1 b).2 := h.plays ⟨hplays.1, rfl⟩
    have hstep := h.balance_turn (turn_of_reply h.noFault hplays.1)
    have hrest := ih hnext hplays.2
    rw [completions]
    omega

/-! ### Completions -/

theorem openFor_iff (h : Recounts es b) :
    b.OpenFor key upload ↔ ∃ acl, Standing es upload key acl := by
  constructor
  · rintro ⟨entry, hentry, rfl⟩
    exact ⟨entry.acl, h.standing.mp ⟨entry.parts, hentry⟩⟩
  · rintro ⟨acl, hstanding⟩
    obtain ⟨parts, hentry⟩ := h.standing.mpr hstanding
    exact ⟨_, hentry, rfl⟩

theorem complete_eq_ok_iff (h : Recounts es b) {marks : List CompletedPart} :
    (Backend.answer (.complete key upload marks) b).1 = .ok () ↔
      b.OpenFor key upload ∧ Lists (sent? es upload) 0 marks := by
  cases hentry : b.pending.get? upload with
  | none =>
    rw [answer_complete_of_none hentry]
    refine iff_of_false (by rintro ⟨⟩) ?_
    rintro ⟨⟨entry, hopen, -⟩, -⟩
    cases hentry.symm.trans hopen
  | some entry =>
    have hopen : b.OpenFor key upload ↔ entry.key = key := by
      simp [OpenFor, hentry]
    rw [hopen, ← h.sent_eq hentry]
    by_cases hfits : entry.key = key ∧ Lists entry.parts.get? 0 marks
    · obtain ⟨rfl, hlists⟩ := id hfits
      rw [answer_complete_of_lists hentry hlists]
      exact iff_of_true rfl hfits
    · obtain ⟨e, hanswer⟩ := exists_answer_complete_error hentry hfits
      rw [hanswer]
      exact iff_of_false (by rintro ⟨⟩) hfits

theorem get?_complete (h : Recounts es b) {acl : Option String} {marks : List CompletedPart}
    (hstanding : Standing es upload key acl) (hlists : Lists (sent? es upload) 0 marks) :
    (Backend.answer (.complete key upload marks) b).2.objects.get? key =
      some ⟨joined (sent? es upload) .empty marks, acl⟩ := by
  obtain ⟨parts, hentry⟩ := h.standing.mpr hstanding
  rw [← h.sent_eq hentry] at hlists ⊢
  rw [answer_complete_of_lists hentry hlists]
  exact SortedMap.get?_insert_self ..

theorem complete_eq_of_sends (h : Recounts es b) {fs : List Exchange} {c : Bucket}
    (h' : Recounts fs c) {acl : Option String} {upload' : String} {marks : List CompletedPart}
    (hstanding : Standing es upload key acl) (hstanding' : Standing fs upload' key acl)
    (hsends : ∀ m ∈ marks, sends es upload m.number = sends fs upload' m.number)
    (hok : (Backend.answer (.complete key upload marks) b).1 = .ok ()) :
    (Backend.answer (.complete key upload' marks) c).1 = .ok () ∧
      (Backend.answer (.complete key upload' marks) c).2.objects.get? key =
        (Backend.answer (.complete key upload marks) b).2.objects.get? key := by
  have hsent : ∀ m ∈ marks, sent? es upload m.number = sent? fs upload' m.number :=
    fun m hm => congrArg List.getLast? (hsends m hm)
  have hlists : Lists (sent? es upload) 0 marks := (h.complete_eq_ok_iff.mp hok).2
  have hlists' : Lists (sent? fs upload') 0 marks := hlists.congr hsent
  refine ⟨h'.complete_eq_ok_iff.mpr ⟨h'.openFor_iff.mpr ⟨acl, hstanding'⟩, hlists'⟩, ?_⟩
  rw [h'.get?_complete hstanding' hlists', h.get?_complete hstanding hlists,
    joined_congr .empty hsent]

end Recounts

/-! ## The life cycle -/

/-- No upload was ever opened, and no part is told to fail. -/
structure Unused (b : Bucket) : Prop where
  pending : b.pending = .empty
  created : b.created = 0
  aborted : b.aborted = 0
  noFault : b.failingParts = []

theorem unused_new (name : String) : (new name).Unused := ⟨rfl, rfl, rfl, rfl⟩

theorem Unused.recounts {b : Bucket} (h : b.Unused) : Recounts [] b where
  noFault := h.noFault
  opened := h.created.symm
  issued_eq := by rw [h.created]; rfl
  standing {upload key acl} := by
    rw [h.pending]
    refine iff_of_false (fun ⟨_, hentry⟩ => nomatch hentry) ?_
    rintro ⟨before, after, heq, -⟩
    simp at heq
  sent_eq hentry := by
    rw [h.pending] at hentry
    cases hentry
  known hne := absurd rfl hne

/-- What the history of a bucket, from when it was unused, says of its uploads. -/
structure LifeCycle (b₀ : Bucket) (es : List Exchange) (b : Bucket) : Prop where
  /-- Every upload that is opened gets an id, and no two get the same. -/
  fresh : (issued es).length = es.countP (·.1.opens) ∧ (issued es).Nodup
  /-- An upload is open from when it is opened until a call is to close it. -/
  standing : ∀ key upload, b.OpenFor key upload ↔ ∃ acl, Standing es upload key acl
  /-- Once it is closed it stays so, and every call about it is turned down. -/
  gone : ∀ es' b', Backend.Plays b es' b' → ∀ upload ∈ issued es, b.pending.get? upload = none →
    b'.pending.get? upload = none ∧ ∀ e ∈ es', ∀ key, e.1.upload? = some (key, upload) →
      ∃ title, e.2 = .error (noSuchUpload title)
  /-- It is completed if it is open for the key and its parts are listed in order. -/
  completes : ∀ key upload marks, (Backend.answer (.complete key upload marks) b).1 = .ok () ↔
    b.OpenFor key upload ∧ Lists (sent? es upload) 0 marks
  /-- The object has the bytes that were last sent for each listed part, in turn. -/
  assembles : ∀ key upload acl marks, Standing es upload key acl →
    Lists (sent? es upload) 0 marks →
      (Backend.answer (.complete key upload marks) b).2.objects.get? key =
        some ⟨joined (sent? es upload) .empty marks, acl⟩
  /-- Nothing else matters: after any other run in which the same bytes were sent for each listed
  part, the latest last, the upload is completed as well, and its object is the same. -/
  independent : ∀ {c₀ c : Bucket} {fs : List Exchange}, c₀.Unused → Backend.Plays c₀ fs c →
    ∀ key acl upload upload' marks, Standing es upload key acl → Standing fs upload' key acl →
      (∀ m ∈ marks, sends es upload m.number = sends fs upload' m.number) →
      (Backend.answer (.complete key upload marks) b).1 = .ok () →
        (Backend.answer (.complete key upload' marks) c).1 = .ok () ∧
          (Backend.answer (.complete key upload' marks) c).2.objects.get? key =
            (Backend.answer (.complete key upload marks) b).2.objects.get? key
  /-- Whatever was opened is open, was aborted, or was open when it came to be completed. -/
  count : es.countP (·.1.opens) = b.pending.size + b.aborted + completions b₀ es

/-- Two uploads at a time; of one the second part is sent before the first and once more, the other
is completed. -/
def interleaved : List Exchange :=
  [⟨.create "a" (some "public-read"), .ok "upload-1"⟩,
    ⟨.create "b" none, .ok "upload-2"⟩,
    ⟨.part "a" "upload-1" 2 ⟨#[120]⟩, .ok ⟨2, partEtag "upload-1" 2⟩⟩,
    ⟨.part "b" "upload-2" 1 ⟨#[121]⟩, .ok ⟨1, partEtag "upload-2" 1⟩⟩,
    ⟨.part "a" "upload-1" 2 ⟨#[119]⟩, .ok ⟨2, partEtag "upload-1" 2⟩⟩,
    ⟨.complete "b" "upload-2" [⟨1, ""⟩], .ok ()⟩,
    ⟨.part "a" "upload-1" 1 ⟨#[122]⟩, .ok ⟨1, partEtag "upload-1" 1⟩⟩]

end Bucket

end BlobStore
