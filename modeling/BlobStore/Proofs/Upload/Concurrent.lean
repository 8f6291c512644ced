import Mathlib
import BlobStore.Proofs.Bucket.Scope
import BlobStore.Proofs.Shared
import BlobStore.Proofs.Upload.Atomic

/-!
# Uploads side by side

Uploads that share a bucket do not get into each other's way. `Along` says what an upload is after
so many of its calls, and what the bucket holds of it; one call leads from there to the next and
leaves the other open uploads alone (`Along.advances`). Along every list of moves the uploads stay
apart (`Beside.run`), so that the objects are what whole writes made of them, in the order of the
calls that make them: an upload writes its object by its last call, and nothing before.
-/

namespace BlobStore

/-! ## Writes -/

/-- A key, and what is there from now on. -/
abbrev Write := String × Option StoredObject

/-- What is under a key behind these writes: what the last one to it left, if there is one. -/
def settle (was : String → Option StoredObject) (writes : List Write) (key : String) :
    Option StoredObject :=
  ((writes.reverse.find? fun w => w.1 = key).map Prod.snd).getD (was key)

theorem settle_nil (was : String → Option StoredObject) : settle was [] = was := rfl

theorem settle_concat (was : String → Option StoredObject) (writes : List Write) (w : Write)
    (key : String) :
    settle was (writes ++ [w]) key = if w.1 = key then w.2 else settle was writes key := by
  unfold settle
  rw [List.reverse_append, List.reverse_singleton, List.singleton_append, List.find?_cons]
  by_cases h : w.1 = key <;> simp [h]

theorem settle_append (was : String → Option StoredObject) (writes more : List Write) :
    settle was (writes ++ more) = settle (settle was writes) more := by
  induction more using List.reverseRecOn with
  | nil => rw [List.append_nil, settle_nil]
  | append_singleton more w ih =>
    funext key
    rw [← List.append_assoc, settle_concat, settle_concat, ih]

theorem settle_of_forall_ne {was : String → Option StoredObject} {writes : List Write}
    {key : String} (h : ∀ w ∈ writes, w.1 ≠ key) : settle was writes key = was key := by
  have hnone : writes.reverse.find? (fun w => w.1 = key) = none := by
    rw [List.find?_eq_none]
    intro w hw
    simpa using h w (List.mem_reverse.mp hw)
  rw [settle, hnone]
  rfl

theorem settle_cases (was : String → Option StoredObject) (writes : List Write) (key : String) :
    settle was writes key = was key ∨ (key, settle was writes key) ∈ writes := by
  induction writes using List.reverseRecOn with
  | nil => exact .inl rfl
  | append_singleton writes w ih =>
    rw [settle_concat]
    by_cases h : w.1 = key
    · rw [if_pos h, ← h]
      exact .inr (by simp)
    · rw [if_neg h]
      exact ih.imp_right (List.mem_append_left _)

/-- What a call writes that has nothing to do with uploads in parts. -/
def Call.write? : Call → Option Write
  | .put key data acl => some (key, some ⟨data, acl⟩)
  | .delete key => some (key, none)
  | _ => none

namespace Bucket

theorem get?_objects_store (b : Bucket) (key : String) (object : StoredObject) :
    (b.store key object).objects.get? = settle b.objects.get? [(key, some object)] := by
  funext k
  rw [← List.nil_append [_], settle_concat, settle_nil, Bucket.store, SortedMap.get?_insert]
  simp only [eq_comm]

theorem get?_objects_delete (b : Bucket) (key : String) :
    (b.delete key).objects.get? = settle b.objects.get? [(key, none)] := by
  funext k
  rw [← List.nil_append [_], settle_concat, settle_nil, Bucket.delete, SortedMap.get?_erase]
  simp only [eq_comm]

theorem answer_of_isPlain {c : Call} (hc : c.IsPlain) (b : Bucket) :
    (Backend.answer c b).2.pending = b.pending ∧
      (Backend.answer c b).2.objects.get? = settle b.objects.get? c.write?.toList := by
  cases c with
  | put key data acl => exact ⟨rfl, b.get?_objects_store key ⟨data, acl⟩⟩
  | delete key => exact ⟨rfl, b.get?_objects_delete key⟩
  | list stem token max =>
    rw [snd_answer_list]
    exact ⟨rfl, rfl⟩
  | create key acl => exact hc.elim
  | part key upload number data => exact hc.elim
  | complete key upload parts => exact hc.elim
  | abort key upload => exact hc.elim
  | get key => exact ⟨rfl, rfl⟩
  | presign use key secs => exact ⟨rfl, rfl⟩
  | check => exact ⟨rfl, rfl⟩

end Bucket

/-- The upload in parts that is open in a phase. -/
def UploadPhase.open? : UploadPhase → Option String
  | .sending id .. | .completing id .. | .aborting id _ => some id
  | .stalled open? => open?
  | .putting _ | .creating _ | .finished _ => none

namespace Upload

/-! ## One upload -/

namespace Task

/-- How many calls an upload takes that meets no fault. -/
def calls (t : Task) : Nat := if t.data.size < t.partSize then 1 else t.count + 2

/-- The whole of what an upload writes. -/
def object (t : Task) : Write := (t.key, some ⟨t.data, t.acl⟩)

end Task

/-- How an upload whose source ends goes on after so many calls that met no fault. What is open of
it at the bucket is there with the parts that were sent. -/
inductive Along (t : Task) (pending : SortedMap String PendingUpload) : Nat → Upload → Prop
  | put (hsize : t.data.size < t.partSize) (rest : Source) :
    Along t pending 0 ⟨t.key, t.acl, t.partSize, .putting t.data, rest⟩
  | create (hsize : t.partSize ≤ t.data.size) (rest : Source)
    (hrest : rest.Holds (t.behind 0) t.ending) :
    Along t pending 0 ⟨t.key, t.acl, t.partSize, .creating (t.piece 0), rest⟩
  | send (hsize : t.partSize ≤ t.data.size) (id : String) (marks : List CompletedPart)
    (hmarks : marks = marksOf id 1 marks.length) (hcount : marks.length < t.count) (rest : Source)
    (hrest : rest.Holds (t.behind marks.length) t.ending)
    (hopen : pending.get? id = some ⟨t.key, t.acl, t.stored marks.length⟩) :
    Along t pending (marks.length + 1) (sendingAt t id marks rest)
  | complete (hsize : t.partSize ≤ t.data.size) (id : String) (marks : List CompletedPart)
    (hmarks : marks = marksOf id 1 marks.length) (hcount : marks.length = t.count) (rest : Source)
    (hopen : pending.get? id = some ⟨t.key, t.acl, t.stored marks.length⟩) :
    Along t pending (marks.length + 1)
      ⟨t.key, t.acl, t.partSize, .completing id marks.toArray t.data.size, rest⟩
  | done (n : Nat) (hn : t.calls ≤ n) (u : Upload) (hu : u.phase = .finished (.ok t.data.size)) :
    Along t pending n u

variable {t : Task} {pending : SortedMap String PendingUpload} {n : Nat} {u u' : Upload}
  {b b' : Bucket} {source : Source}

theorem along_start (hsource : source.Holds t.data t.ending) (hend : t.ending = .finished) :
    Along t pending 0 (start t.key t.acl t.partSize source) := by
  by_cases hsize : t.data.size < t.partSize
  · obtain ⟨rest, hstart⟩ := start_of_lt hsource hsize
    rw [hstart, hend]
    exact .put hsize rest
  · obtain ⟨rest, hrest, hstart⟩ := start_of_le hsource (Nat.not_lt.mp hsize)
    rw [hstart]
    exact .create (Nat.not_lt.mp hsize) rest hrest

namespace Along

theorem exists_get? (h : Along t pending n u) {id : String} (hopen : u.phase.open? = some id) :
    ∃ entry, pending.get? id = some entry := by
  cases h with
  | put => cases hopen
  | create => cases hopen
  | send _ _ _ _ _ _ _ hentry => exact ⟨_, Option.some.inj hopen ▸ hentry⟩
  | complete _ _ _ _ _ _ hentry => exact ⟨_, Option.some.inj hopen ▸ hentry⟩
  | done _ _ _ hu => rw [hu] at hopen; cases hopen

theorem of_get?_eq {pending' : SortedMap String PendingUpload} (h : Along t pending n u)
    (hsame : ∀ id, u.phase.open? = some id → pending'.get? id = pending.get? id) :
    Along t pending' n u := by
  cases h with
  | put hsize rest => exact .put hsize rest
  | create hsize rest hrest => exact .create hsize rest hrest
  | send hsize id marks hmarks hcount rest hrest hopen =>
    exact .send hsize id marks hmarks hcount rest hrest ((hsame id rfl).trans hopen)
  | complete hsize id marks hmarks hcount rest hopen =>
    exact .complete hsize id marks hmarks hcount rest ((hsame id rfl).trans hopen)
  | done _ hn _ hu => exact .done _ hn _ hu

theorem result?_eq (h : Along t pending n u) :
    Client.result? u = if t.calls ≤ n then some (.finished (.ok t.data.size)) else none := by
  cases h with
  | put hsize => rw [Task.calls, if_pos hsize]; rfl
  | create hsize => rw [Task.calls, if_neg (Nat.not_lt.mpr hsize)]; rfl
  | send hsize => rw [Task.calls, if_neg (Nat.not_lt.mpr hsize), if_neg (by omega)]; rfl
  | complete hsize => rw [Task.calls, if_neg (Nat.not_lt.mpr hsize), if_neg (by omega)]; rfl
  | done _ hn _ hu => rw [if_pos hn, Client.result?_eq_some, step_eq_done, hu]

theorem open?_eq_none (h : Along t pending n u) (hn : n = 0 ∨ t.calls ≤ n) :
    u.phase.open? = none := by
  cases h with
  | put => rfl
  | create => rfl
  | send hsize =>
    rw [Task.calls, if_neg (Nat.not_lt.mpr hsize)] at hn
    omega
  | complete hsize =>
    rw [Task.calls, if_neg (Nat.not_lt.mpr hsize)] at hn
    omega
  | done _ _ _ hu => rw [hu]; rfl

end Along

/-! ## One call of one upload -/

section advance

variable {rest rest' : Source} {id : String} {marks : List CompletedPart}

/-- The mark that a bucket gives to the part behind these. -/
def nextMark (id : String) (marks : List CompletedPart) : CompletedPart :=
  ⟨marks.length + 1, Bucket.partEtag id (marks.length + 1)⟩

theorem concat_nextMark (hmarks : marks = marksOf id 1 marks.length) :
    marks ++ [nextMark id marks] =
      marksOf id 1 (marks ++ [nextMark id marks]).length := by
  rw [List.length_append, List.length_singleton, marksOf, List.range'_concat, List.map_append,
    ← marksOf, ← hmarks]
  simp [nextMark, Nat.add_comm]

theorem advance_creating (b : Bucket) :
    Client.advance (⟨t.key, t.acl, t.partSize, .creating (t.piece 0), rest⟩ : Upload) b =
      (sendingAt t b.nextId [] rest, b.opening t.key t.acl .empty) := by
  rw [Client.advance_of_ask (c := .create t.key t.acl) rfl, Bucket.answer_create]
  simp [sendingAt]

theorem advance_sendingAt (hparts : b.failingParts = [])
    (hopen : b.pending.get? id = some ⟨t.key, t.acl, t.stored marks.length⟩) :
    Client.advance (sendingAt t id marks rest) b =
      ((sendingAt t id marks rest).afterPart id marks.toArray
          (marks.length * t.partSize + (t.piece marks.length).size) (.ok (nextMark id marks)),
        { b with pending := b.pending.insert id ⟨t.key, t.acl, t.stored (marks.length + 1)⟩ }) := by
  have hanswer := Bucket.answer_part_of_get? hopen (by simp [hparts] : marks.length + 1 ∉ b.failingParts)
    (t.piece marks.length)
  have hask : Client.step (sendingAt t id marks rest) =
      .ask (.part t.key id (marks.length + 1) (t.piece marks.length))
        ((sendingAt t id marks rest).afterPart id marks.toArray
          (marks.length * t.partSize + (t.piece marks.length).size)) := rfl
  rw [Client.advance_of_ask hask, hanswer]
  rfl

theorem advance_completing {size : Nat}
    (hopen : b.pending.get? id = some ⟨t.key, t.acl, t.stored marks.length⟩)
    (hmarks : marks = marksOf id 1 marks.length) :
    Client.advance (⟨t.key, t.acl, t.partSize, .completing id marks.toArray size, rest⟩ : Upload) b =
      (⟨t.key, t.acl, t.partSize, .finished (.ok size), rest⟩,
        { b with
          pending := b.pending.erase id
          objects := b.objects.insert t.key ⟨t.joined marks.length, t.acl⟩ }) := by
  have hanswer := Bucket.answer_complete_of_get? hopen (joinParts_stored hmarks)
  rw [Client.advance_of_ask (c := .complete t.key id marks) rfl, hanswer]

end advance

/-- What a call of an upload leads to: it is one call further, its object is there if that was the
last, and no other open upload has changed. -/
structure Advances (t : Task) (n : Nat) (u : Upload) (b : Bucket) (u' : Upload) (b' : Bucket) :
    Prop where
  along : Along t b'.pending (n + 1) u'
  objects : b'.objects.get? = settle b.objects.get? (if n + 1 = t.calls then [t.object] else [])
  others : ∀ id, u.phase.open? ≠ some id → u'.phase.open? ≠ some id →
    b'.pending.get? id = b.pending.get? id
  opens : ∀ id, u'.phase.open? = some id → u.phase.open? = some id ∨ b.pending.get? id = none
  closes : ∀ id, u.phase.open? = some id → u'.phase.open? ≠ some id → b'.pending.get? id = none

theorem advances_of_part {id : String} {entry : PendingUpload} (hopen : u.phase.open? = some id)
    (hopen' : u'.phase.open? = some id) (hcalls : n + 1 ≠ t.calls)
    (halong : Along t (b.pending.insert id entry) (n + 1) u') :
    Advances t n u b u' { b with pending := b.pending.insert id entry } where
  along := halong
  objects := by rw [if_neg hcalls]; rfl
  others := by
    intro id' hid _
    have hne : id' ≠ id := fun he => hid (he ▸ hopen)
    exact (SortedMap.get?_insert ..).trans (if_neg hne)
  opens := fun id' hid => .inl (hopen.trans (hopen'.symm.trans hid))
  closes := fun id' hid hid' => absurd (hopen'.trans (hopen.symm.trans hid)) hid'

/-- **One call of an upload**, at a bucket where no part fails and whatever else is open there. -/
theorem Along.advances (hpos : 0 < t.partSize) (hend : t.ending = .finished)
    (h : Along t b.pending n u) (hb : b.Numbered) (hparts : b.failingParts = []) :
    Advances t n u b (Client.advance u b).1 (Client.advance u b).2 := by
  cases h with
  | put hsize rest =>
    have hcalls : t.calls = 1 := if_pos hsize
    refine ⟨.done 1 hcalls.le _ rfl, ?_, ?_, ?_, ?_⟩
    · rw [if_pos hcalls.symm]
      exact b.get?_objects_store t.key ⟨t.data, t.acl⟩
    · intro id _ _
      rfl
    · intro id hid
      cases hid
    · intro id hid
      cases hid
  | create hsize rest hrest =>
    have hcalls : t.calls = t.count + 2 := if_neg (Nat.not_lt.mpr hsize)
    have hcount : 0 < t.count := Task.count_pos hpos hsize
    rw [advance_creating]
    refine ⟨.send hsize b.nextId [] rfl hcount rest hrest Bucket.get?_opening, ?_, ?_, ?_, ?_⟩
    · rw [if_neg (by omega)]
      rfl
    · intro id _ hid
      have hne : id ≠ b.nextId := fun he => hid (congrArg some he.symm)
      exact (SortedMap.get?_insert ..).trans (if_neg hne)
    · intro id hid
      obtain rfl : b.nextId = id := Option.some.inj hid
      exact .inr hb.get?_nextId
    · intro id hid
      cases hid
  | send hsize id marks hmarks hcount rest hrest hopen =>
    have hcalls : t.calls = t.count + 2 := if_neg (Nat.not_lt.mpr hsize)
    have hlength : (marks ++ [nextMark id marks]).length = marks.length + 1 := by simp
    have hstored : (b.pending.insert id ⟨t.key, t.acl, t.stored (marks.length + 1)⟩).get? id =
        some ⟨t.key, t.acl, t.stored (marks ++ [nextMark id marks]).length⟩ := by
      rw [SortedMap.get?_insert_self, hlength]
    rw [advance_sendingAt hparts hopen]
    obtain ⟨rest', ⟨hnext, htake, hrest'⟩ | ⟨hlast, htake⟩⟩ := exists_take hpos hcount hrest
    · have halong := Along.send hsize id _ (concat_nextMark hmarks) (hlength.trans_lt hnext) rest'
        (hlength.symm ▸ hrest') hstored
      rw [hlength] at halong
      rw [afterPart_ok hpos hnext htake]
      exact advances_of_part rfl rfl (by omega) halong
    · have halong := Along.complete hsize id _ (concat_nextMark hmarks) (hlength.trans hlast) rest'
        hstored
      rw [hlength] at halong
      rw [afterPart_last htake, hend, size_last hpos hlast hend]
      exact advances_of_part rfl rfl (by omega) halong
  | complete hsize id marks hmarks hcount rest hopen =>
    have hcalls : t.calls = t.count + 2 := if_neg (Nat.not_lt.mpr hsize)
    rw [advance_completing hopen hmarks, hcount, Task.joined_count hend hpos]
    refine ⟨.done _ (by omega) _ rfl, ?_, ?_, ?_, ?_⟩
    · rw [if_pos (by omega)]
      exact b.get?_objects_store t.key ⟨t.data, t.acl⟩
    · intro id' hid _
      have hne : id' ≠ id := fun he => hid (congrArg some he.symm)
      exact (SortedMap.get?_erase ..).trans (if_neg hne)
    · intro id' hid
      cases hid
    · intro id' hid _
      exact (SortedMap.get?_erase ..).trans (if_pos (Option.some.inj hid).symm)
  | done _ hn _ hu =>
    have hdone : Client.step u = .done (.finished (.ok t.data.size)) := step_eq_done.mpr hu
    rw [Client.advance_of_done hdone]
    refine ⟨.done _ (by omega) _ hu, ?_, fun id _ _ => rfl, fun id hid => .inl hid, ?_⟩
    · rw [if_neg (by omega)]
      rfl
    · intro id hid hid'
      exact absurd hid hid'

/-! ## Uploads side by side -/

section beside

variable {ι : Type} [DecidableEq ι]

/-- What a move writes behind those before it: an upload its object, by its last call. -/
def writeOf (t : ι → Task) (past : List (Move ι)) : Move ι → Option Write
  | .turn i => if turns i past + 1 = (t i).calls then some (t i).object else none
  | .other c => c.write?

/-- What the moves write in turn. -/
def writes (t : ι → Task) : (past moves : List (Move ι)) → List Write
  | _, [] => []
  | past, m :: moves => (writeOf t past m).toList ++ writes t (past ++ [m]) moves

variable {t : ι → Task} {b : Bucket} {w : Shared ι Upload Bucket} {past moves : List (Move ι)}

theorem writes_concat (t : ι → Task) (past moves : List (Move ι)) (m : Move ι) :
    writes t past (moves ++ [m]) =
      writes t past moves ++ (writeOf t (past ++ moves) m).toList := by
  induction moves generalizing past with
  | nil => simp [writes]
  | cons m' moves ih =>
    rw [List.cons_append, writes, ih, writes, List.append_assoc, List.append_assoc]
    rfl

theorem of_mem_writes {write : Write} (h : write ∈ writes t past moves) :
    (∃ i, .turn i ∈ moves ∧ write = (t i).object) ∨
      ∃ c, .other c ∈ moves ∧ c.write? = some write := by
  induction moves generalizing past with
  | nil => cases h
  | cons m moves ih =>
    rw [writes, List.mem_append, Option.mem_toList] at h
    rcases h with h | h
    · cases m with
      | turn i =>
        rw [writeOf] at h
        split at h
        · exact .inl ⟨i, by simp, (Option.some.inj h).symm⟩
        · cases h
      | other c => exact .inr ⟨c, by simp, h⟩
    · rcases ih h with ⟨i, hi, hwrite⟩ | ⟨c, hc, hwrite⟩
      · exact .inl ⟨i, List.mem_cons_of_mem _ hi, hwrite⟩
      · exact .inr ⟨c, List.mem_cons_of_mem _ hc, hwrite⟩

/-- Uploads that started at the bucket `b`, behind the moves `past`: each is as far as its calls
bring it, and has its own id, which is a new one. What else is open was open before. -/
structure Beside (t : ι → Task) (b : Bucket) (past : List (Move ι)) (w : Shared ι Upload Bucket) :
    Prop where
  numbered : w.backend.Numbered
  parts : w.backend.failingParts = []
  along : ∀ i, Along (t i) w.backend.pending (turns i past) (w.clients i)
  apart : ∀ i j id, (w.clients i).phase.open? = some id → (w.clients j).phase.open? = some id →
    i = j
  fresh : ∀ i id, (w.clients i).phase.open? = some id → b.pending.get? id = none
  others : ∀ id, (∀ i, (w.clients i).phase.open? ≠ some id) →
    w.backend.pending.get? id = b.pending.get? id
  objects : w.backend.objects.get? = settle b.objects.get? (writes t [] past)

theorem Beside.open?_ne (h : Beside t b past w) {id : String}
    (hnone : w.backend.pending.get? id = none) (i : ι) : (w.clients i).phase.open? ≠ some id := by
  intro hopen
  obtain ⟨entry, hentry⟩ := (h.along i).exists_get? hopen
  exact Option.some_ne_none entry (hentry.symm.trans hnone)

theorem Beside.other (h : Beside t b past w) {c : Call} (hc : c.IsPlain) :
    Beside t b (past ++ [.other c]) (w.move (.other c)) := by
  obtain ⟨hpending, hobjects⟩ := Bucket.answer_of_isPlain hc w.backend
  refine ⟨h.numbered.answer c, (Bucket.failingParts_answer c _).trans h.parts, ?_, h.apart, h.fresh,
    ?_, ?_⟩
  · intro i
    rw [turns_concat_other]
    exact (h.along i).of_get?_eq fun id _ => congrArg (·.get? id) hpending
  · intro id hid
    exact (congrArg (·.get? id) hpending).trans (h.others id hid)
  · rw [writes_concat, settle_append, ← h.objects]
    exact hobjects

theorem Beside.turn (h : Beside t b past w) (hpos : ∀ i, 0 < (t i).partSize)
    (hend : ∀ i, (t i).ending = .finished) (i : ι) :
    Beside t b (past ++ [.turn i]) (w.move (.turn i)) := by
  have hstep := (h.along i).advances (hpos i) (hend i) h.numbered h.parts
  have hother : ∀ j, j ≠ i → (w.move (.turn i)).clients j = w.clients j := fun j hj =>
    Shared.clients_turn_of_ne hj
  rw [← Shared.clients_turn_self, ← Shared.backend_turn] at hstep
  -- no other upload has the id that was open, nor the one that is open now
  have hown : ∀ j id, j ≠ i → (w.clients j).phase.open? = some id →
      (w.clients i).phase.open? ≠ some id ∧
        ((w.move (.turn i)).clients i).phase.open? ≠ some id := by
    intro j id hj hopen
    have hapart : (w.clients i).phase.open? ≠ some id := fun hi => hj (h.apart j i id hopen hi)
    refine ⟨hapart, fun hid => ?_⟩
    rcases hstep.opens id hid with hi | hnone
    · exact hapart hi
    · exact h.open?_ne hnone j hopen
  exact {
    numbered := Shared.move_keeps (fun c b hb => hb.answer c) _ h.numbered
    parts := Shared.move_keeps (P := fun b : Bucket => b.failingParts = [])
      (fun c b hb => (Bucket.failingParts_answer c b).trans hb) _ h.parts
    along := by
      intro j
      by_cases hj : j = i
      · subst hj
        rw [turns_concat_turn_self]
        exact hstep.along
      · rw [turns_concat_turn_of_ne hj, hother j hj]
        refine (h.along j).of_get?_eq fun id hopen => ?_
        exact hstep.others id (hown j id hj hopen).1 (hown j id hj hopen).2
    apart := by
      intro j k id hopen hopen'
      by_cases hj : j = i
      · by_cases hk : k = i
        · rw [hj, hk]
        · rw [hother k hk] at hopen'
          exact absurd (hj ▸ hopen) (hown k id hk hopen').2
      · rw [hother j hj] at hopen
        by_cases hk : k = i
        · exact absurd (hk ▸ hopen') (hown j id hj hopen).2
        · rw [hother k hk] at hopen'
          exact h.apart j k id hopen hopen'
    fresh := by
      intro j id hopen
      by_cases hj : j = i
      · rcases hstep.opens id (hj ▸ hopen) with hi | hnone
        · exact h.fresh i id hi
        · -- nothing was open under the id, so nothing was at the start
          rw [← h.others id (h.open?_ne hnone)]
          exact hnone
      · rw [hother j hj] at hopen
        exact h.fresh j id hopen
    others := by
      intro id hid
      by_cases hi : (w.clients i).phase.open? = some id
      · exact (hstep.closes id hi (hid i)).trans (h.fresh i id hi).symm
      · refine (hstep.others id hi (hid i)).trans (h.others id fun j => ?_)
        by_cases hj : j = i
        · rwa [hj]
        · rw [← hother j hj]
          exact hid j
    objects := by
      rw [writes_concat, settle_append, ← h.objects, List.nil_append, writeOf]
      refine hstep.objects.trans ?_
      split <;> rfl }

/-- **The uploads stay apart along every list of moves.** -/
theorem Beside.run (h : Beside t b [] w) (hpos : ∀ i, 0 < (t i).partSize)
    (hend : ∀ i, (t i).ending = .finished) (hothers : ∀ c, .other c ∈ moves → c.IsPlain) :
    Beside t b moves (w.run moves) := by
  induction moves using List.reverseRecOn with
  | nil => exact h
  | append_singleton moves m ih =>
    have hbefore := ih fun c hc => hothers c (List.mem_append_left _ hc)
    rw [Shared.run_concat]
    cases m with
    | turn i => exact hbefore.turn hpos hend i
    | other c => exact hbefore.other (hothers c (by simp))

theorem beside_start {source : ι → Source} (hb : b.Numbered) (hparts : b.failingParts = [])
    (hend : ∀ i, (t i).ending = .finished)
    (hsource : ∀ i, (source i).Holds (t i).data (t i).ending) :
    Beside t b [] ⟨fun i => start (t i).key (t i).acl (t i).partSize (source i), b⟩ := by
  have halong : ∀ i, Along (t i) b.pending 0
      (start (t i).key (t i).acl (t i).partSize (source i)) := fun i =>
    along_start (hsource i) (hend i)
  have hnone := fun i => (halong i).open?_eq_none (.inl rfl)
  refine ⟨hb, hparts, halong, ?_, ?_, fun _ _ => rfl, rfl⟩
  · intro i j id hopen
    exact absurd ((hnone i).symm.trans hopen) (Option.some_ne_none id).symm
  · intro i id hopen
    exact absurd ((hnone i).symm.trans hopen) (Option.some_ne_none id).symm

/-- What uploads that share a bucket come to, however their calls are mixed with one another and
with those of others. -/
structure StayWhole (t : ι → Task) (b : Bucket) (moves : List (Move ι))
    (w : Shared ι Upload Bucket) : Prop where
  /-- Each succeeds with the number of its bytes as soon as it has made its calls. -/
  results : ∀ i, Client.result? (w.clients i) =
    if (t i).calls ≤ turns i moves then some (.finished (.ok (t i).data.size)) else none
  /-- Right after its last call its object is all of its bytes, with its access rule. -/
  landed : ∀ i past, moves = past ++ [.turn i] → turns i moves = (t i).calls →
    w.backend.objects.get? (t i).key = some ⟨(t i).data, (t i).acl⟩
  /-- At any time a key holds what the last write to it left. -/
  last : ∀ k, w.backend.objects.get? k = settle b.objects.get? (writes t [] moves) k
  /-- No object is made of two sources. -/
  unmixed : ∀ k object, w.backend.objects.get? k = some object →
    b.objects.get? k = some object ∨
      (∃ i, .turn i ∈ moves ∧ k = (t i).key ∧ object = ⟨(t i).data, (t i).acl⟩) ∨
      ∃ c, .other c ∈ moves ∧ c.write? = some (k, some object)
  /-- Keys that no one names are left alone. -/
  untouched : ∀ k, (∀ i, .turn i ∈ moves → (t i).key ≠ k) →
    (∀ c object, .other c ∈ moves → c.write? ≠ some (k, object)) →
    w.backend.objects.get? k = b.objects.get? k
  /-- What is open otherwise than before is of an upload that is on its way. -/
  opened : ∀ id, w.backend.pending.get? id ≠ b.pending.get? id →
    ∃ i, 0 < turns i moves ∧ turns i moves < (t i).calls ∧ (w.clients i).phase.open? = some id
  /-- When none is on its way, nothing stays open that was not. -/
  closed : (∀ i, turns i moves = 0 ∨ (t i).calls ≤ turns i moves) → w.backend.pending = b.pending

theorem Beside.stayWhole (h : Beside t b moves w) : StayWhole t b moves w where
  results := fun i => (h.along i).result?_eq
  landed := by
    rintro i past rfl hturns
    rw [turns_concat_turn_self] at hturns
    rw [h.objects, writes_concat, List.nil_append, writeOf, if_pos hturns, Option.toList_some,
      settle_concat]
    exact if_pos rfl
  last := fun k => congrFun h.objects k
  unmixed := by
    intro k object hobject
    rw [h.objects] at hobject
    rcases settle_cases b.objects.get? (writes t [] moves) k with hwas | hmem
    · exact .inl (hwas.symm.trans hobject)
    · rw [hobject] at hmem
      rcases of_mem_writes hmem with ⟨i, hi, hwrite⟩ | hother
      · obtain ⟨hkey, hdata⟩ := Prod.mk.inj hwrite
        exact .inr (.inl ⟨i, hi, hkey, Option.some.inj hdata⟩)
      · exact .inr (.inr hother)
  untouched := by
    intro k hturns hothers
    rw [h.objects]
    refine settle_of_forall_ne fun write hwrite hk => ?_
    rcases of_mem_writes hwrite with ⟨i, hi, rfl⟩ | ⟨c, hc, hcall⟩
    · exact hturns i hi hk
    · exact hothers c write.2 hc (by rw [hcall, ← hk])
  opened := by
    intro id hid
    obtain ⟨i, hopen⟩ : ∃ i, (w.clients i).phase.open? = some id := by
      by_contra hnone
      exact hid (h.others id (not_exists.mp hnone))
    have hway : ¬ (turns i moves = 0 ∨ (t i).calls ≤ turns i moves) := by
      intro hn
      rw [(h.along i).open?_eq_none hn] at hopen
      cases hopen
    exact ⟨i, by omega, by omega, hopen⟩
  closed := by
    intro hdone
    refine SortedMap.ext fun id => h.others id fun i hopen => ?_
    exact Option.some_ne_none id (hopen.symm.trans ((h.along i).open?_eq_none (hdone i)))

/-- **Uploads that share a bucket stay whole.** However the calls of any number of uploads are mixed
with one another and with calls of others that have nothing to do with uploads in parts, each upload
is stored as a whole by its last call. -/
theorem uploads_stay_whole (t : ι → Task) (source : ι → Source) (b : Bucket) (hb : b.Reachable)
    (hparts : b.failingParts = []) (hpos : ∀ i, 0 < (t i).partSize)
    (hend : ∀ i, (t i).ending = .finished)
    (hsource : ∀ i, (source i).Holds (t i).data (t i).ending) (moves : List (Move ι))
    (hothers : ∀ c, .other c ∈ moves → c.IsPlain) :
    StayWhole t b moves
      ((⟨fun i => start (t i).key (t i).acl (t i).partSize (source i), b⟩ :
        Shared ι Upload Bucket).run moves) :=
  ((beside_start hb.numbered hparts hend hsource).run hpos hend hothers).stayWhole

/-- Three bytes in two parts and one byte in one put, both under one key: the parts come last. -/
theorem uploads_stay_whole_one_key :
    let t : Bool → Task := fun i => ⟨"log", none, 2, if i then ⟨#[1, 2, 3]⟩ else ⟨#[7]⟩, .finished⟩
    let source : Bool → Source := fun i => .ofBytes (t i).data
    let moves : List (Move Bool) :=
      [.turn true, .turn true, .turn false, .other (.delete "old"), .turn true, .turn true]
    (∀ i, 0 < (t i).partSize) ∧ (∀ i, (t i).ending = .finished) ∧
      (∀ i, (source i).Holds (t i).data (t i).ending) ∧ (∀ c, .other c ∈ moves → c.IsPlain) ∧
      StayWhole t (Bucket.new "logs") moves
        ((⟨fun i => start (t i).key (t i).acl (t i).partSize (source i), Bucket.new "logs"⟩ :
          Shared Bool Upload Bucket).run moves) ∧
      settle (Bucket.new "logs").objects.get? (writes t [] moves) "log" =
        some ⟨⟨#[1, 2, 3]⟩, none⟩ := by
  intro t source moves
  have hpos : ∀ i, 0 < (t i).partSize := fun i => Nat.two_pos
  have hend : ∀ i, (t i).ending = .finished := fun i => rfl
  have hsource : ∀ i, (source i).Holds (t i).data (t i).ending := fun i =>
    Source.holds_ofBytes _
  have hothers : ∀ c, .other c ∈ moves → c.IsPlain := by
    intro c hc
    have hdelete : c = .delete "old" := by simpa [moves] using hc
    rw [hdelete]
    trivial
  refine ⟨hpos, hend, hsource, hothers, ?_, by decide +kernel⟩
  exact uploads_stay_whole t source _ (.new "logs") rfl hpos hend hsource moves hothers

end beside

end Upload

end BlobStore
