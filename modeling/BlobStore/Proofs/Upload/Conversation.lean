import Mathlib
import BlobStore.Bucket.Memory
import BlobStore.Proofs.Upload.Steps

/-!
# What an upload says to its bucket

`Conversation` lists the forms that the calls of an upload and the replies to them can have, and
`finishes_iff` says that these are all its runs, whatever the replies, and that each of them is one.
Whatever a bucket makes of an upload can so be told form by form.
-/

namespace BlobStore.Upload

open Client (Finishes)

namespace Task

variable (t : Task)

/-- The first parts, each taken in with its mark. -/
def sends (id : String) (marks : List CompletedPart) : List Exchange :=
  marks.mapIdx fun i mark => ⟨.part t.key id (i + 1) (t.piece i), .ok mark⟩

/-- An upload in parts is opened and gets its first parts taken in. -/
def opened (id : String) (marks : List CompletedPart) : List Exchange :=
  ⟨.create t.key t.acl, .ok id⟩ :: t.sends id marks

theorem opened_append_part (id : String) (marks : List CompletedPart) (mark : CompletedPart) :
    t.opened id (marks ++ [mark]) =
      t.opened id marks ++ [⟨.part t.key id (marks.length + 1) (t.piece marks.length), .ok mark⟩] := by
  simp [opened, sends, List.mapIdx_append]

end Task

/-- **The forms of a conversation**: calls with the replies to them, and what the upload comes to. -/
inductive Conversation (t : Task) : List Exchange → UploadOutcome → Prop
  /-- The source fails before there is anything to send. -/
  | unread {text : String} (hsize : t.data.size < t.partSize) (hend : t.ending = .failing text) :
    Conversation t [] (.finished (.error (.source text)))
  /-- The source ends within its first piece. -/
  | put (hsize : t.data.size < t.partSize) (hend : t.ending = .finished)
    (reply : Except StoreError Unit) :
    Conversation t [⟨.put t.key t.data t.acl, reply⟩] (.finished (reply.map fun _ => t.data.size))
  | refused (hsize : t.partSize ≤ t.data.size) (e : StoreError) :
    Conversation t [⟨.create t.key t.acl, .error e⟩] (.finished (.error e))
  | completed (hsize : t.partSize ≤ t.data.size) (hend : t.ending = .finished) (id : String)
    (marks : List CompletedPart) (hcount : marks.length = t.count) :
    Conversation t (t.opened id marks ++ [⟨.complete t.key id marks, .ok ()⟩])
      (.finished (.ok t.data.size))
  /-- A part is refused. The read that failed at the same time, if it did, plays no role. -/
  | partRefused (hsize : t.partSize ≤ t.data.size) (id : String) (marks : List CompletedPart)
    (hcount : marks.length < t.count)
    (hstall : t.ending = .stalled → marks.length + 1 < t.count) (e : StoreError)
    (reply : Except StoreError Unit) :
    Conversation t
      (t.opened id marks ++
        [⟨.part t.key id (marks.length + 1) (t.piece marks.length), .error e⟩,
          ⟨.abort t.key id, reply⟩])
      (.finished (.error e))
  /-- The source fails behind its last full piece. -/
  | sourceFailed {text : String} (hsize : t.partSize ≤ t.data.size) (hend : t.ending = .failing text)
    (id : String) (marks : List CompletedPart) (hcount : marks.length = t.count)
    (reply : Except StoreError Unit) :
    Conversation t (t.opened id marks ++ [⟨.abort t.key id, reply⟩])
      (.finished (.error (.source text)))
  | completeRefused (hsize : t.partSize ≤ t.data.size) (hend : t.ending = .finished) (id : String)
    (marks : List CompletedPart) (hcount : marks.length = t.count) (e : StoreError)
    (reply : Except StoreError Unit) :
    Conversation t
      (t.opened id marks ++ [⟨.complete t.key id marks, .error e⟩, ⟨.abort t.key id, reply⟩])
      (.finished (.error e))
  /-- The source stalls within its first piece. -/
  | waiting (hsize : t.data.size < t.partSize) (hend : t.ending = .stalled) :
    Conversation t [] (.stalled none)
  /-- The source stalls while its last full piece is on its way. -/
  | waitingOpen (hsize : t.partSize ≤ t.data.size) (hend : t.ending = .stalled) (id : String)
    (marks : List CompletedPart) (hcount : marks.length + 1 = t.count)
    (reply : Except StoreError CompletedPart) :
    Conversation t
      (t.opened id marks ++ [⟨.part t.key id (marks.length + 1) (t.piece marks.length), reply⟩])
      (.stalled (some id))

/-! ## The runs are the forms -/

variable {t : Task} {id : String} {marks : List CompletedPart} {source rest : Source}
  {es : List Exchange} {o : UploadOutcome}

theorem conversation_of_sendingAt (hpos : 0 < t.partSize) (hsize : t.partSize ≤ t.data.size)
    (hcount : marks.length < t.count) (hrest : rest.Holds (t.behind marks.length) t.ending)
    (hrun : Finishes (sendingAt t id marks rest) es o) :
    Conversation t (t.opened id marks ++ es) o := by
  -- by the number of parts that are still to send
  induction hn : t.count - marks.length generalizing marks rest es with
  | zero => omega
  | succ n ih =>
    obtain ⟨reply, es', rfl, hrun'⟩ := finishes_sendingAt.mp hrun
    obtain ⟨rest', ⟨hnext, htake, hrest'⟩ | ⟨hlast, htake⟩⟩ := exists_take hpos hcount hrest
    · cases reply with
      | error e =>
        rw [afterPart_error htake] at hrun'
        obtain ⟨reply, rfl, rfl⟩ := (finishes_aborting _ rfl).mp hrun'
        exact .partRefused hsize id marks hcount (fun _ => hnext) e reply
      | ok mark =>
        rw [afterPart_ok hpos hnext htake] at hrun'
        have := ih (by simpa using hnext) (by simpa using hrest') hrun' (by simp; omega)
        rwa [Task.opened_append_part, List.append_assoc] at this
    · rw [afterPart_last htake] at hrun'
      cases he : t.ending with
      | stalled =>
        rw [he] at hrun'
        obtain ⟨rfl, rfl⟩ := (finishes_stalled _ rfl).mp hrun'
        exact .waitingOpen hsize he id marks hlast reply
      | failing text =>
        rw [he] at hrun'
        cases reply with
        | error e =>
          obtain ⟨reply, rfl, rfl⟩ := (finishes_aborting _ rfl).mp hrun'
          exact .partRefused hsize id marks hcount (by simp [he]) e reply
        | ok mark =>
          obtain ⟨reply, rfl, rfl⟩ := (finishes_aborting _ rfl).mp hrun'
          have := Conversation.sourceFailed hsize he id (marks ++ [mark]) (by simpa) reply
          rwa [Task.opened_append_part, List.append_assoc] at this
      | finished =>
        rw [he] at hrun'
        cases reply with
        | error e =>
          obtain ⟨reply, rfl, rfl⟩ := (finishes_aborting _ rfl).mp hrun'
          exact .partRefused hsize id marks hcount (by simp [he]) e reply
        | ok mark =>
          have hmarks : (marks ++ [mark]).length = t.count := by simpa
          obtain ⟨rfl, rfl⟩ | ⟨e, reply, rfl, rfl⟩ := (finishes_completing _ rfl).mp hrun'
          · have := Conversation.completed hsize he id (marks ++ [mark]) hmarks
            rw [Task.opened_append_part, List.append_assoc] at this
            rwa [size_last hpos hlast he]
          · have := Conversation.completeRefused hsize he id (marks ++ [mark]) hmarks e reply
            rwa [Task.opened_append_part, List.append_assoc] at this

theorem exists_sendingAt (hpos : 0 < t.partSize) (hrest : rest.Holds (t.behind 0) t.ending)
    (id : String) (hcount : marks.length < t.count) :
    ∃ rest', rest'.Holds (t.behind marks.length) t.ending ∧
      ∀ es o, Finishes (sendingAt t id marks rest') es o →
        Finishes (sendingAt t id [] rest) (t.sends id marks ++ es) o := by
  induction marks using List.reverseRecOn with
  | nil => exact ⟨rest, hrest, fun es o h => h⟩
  | append_singleton marks mark ih =>
    rw [List.length_append, List.length_singleton] at hcount ⊢
    obtain ⟨rest₁, hrest₁, hrun⟩ := ih (by omega)
    obtain ⟨rest', ⟨-, htake, hrest'⟩ | ⟨hlast, -⟩⟩ := exists_take hpos (by omega) hrest₁
    · refine ⟨rest', hrest', fun es o h => ?_⟩
      rw [← afterPart_ok hpos hcount htake mark] at h
      rw [show t.sends id (marks ++ [mark]) = t.sends id marks ++ _ from
        List.tail_eq_of_cons_eq (t.opened_append_part id marks mark), List.append_assoc]
      exact hrun _ _ (finishes_sendingAt.mpr ⟨.ok mark, es, rfl, h⟩)
    · omega

theorem conversation_of_finishes (hpos : 0 < t.partSize) (hsource : source.Holds t.data t.ending)
    (hrun : Finishes (start t.key t.acl t.partSize source) es o) : Conversation t es o := by
  by_cases hsize : t.data.size < t.partSize
  · obtain ⟨rest, hstart⟩ := start_of_lt hsource hsize
    rw [hstart] at hrun
    cases hend : t.ending with
    | finished =>
      obtain ⟨reply, rfl, rfl⟩ := (finishes_putting _ (by rw [hend]; rfl)).mp hrun
      exact .put hsize hend reply
    | failing text =>
      obtain ⟨rfl, rfl⟩ := (finishes_finished _ (by rw [hend]; rfl)).mp hrun
      exact .unread hsize hend
    | stalled =>
      obtain ⟨rfl, rfl⟩ := (finishes_stalled _ (by rw [hend]; rfl)).mp hrun
      exact .waiting hsize hend
  · rw [Nat.not_lt] at hsize
    obtain ⟨rest, hrest, hstart⟩ := start_of_le hsource hsize
    rw [hstart] at hrun
    obtain ⟨e, rfl, rfl⟩ | ⟨id, es', rfl, hrun'⟩ := (finishes_creating _ rfl).mp hrun
    · exact .refused hsize e
    · have hsending : Finishes (sendingAt t id [] rest) es' o := by
        rw [sendingAt, List.length_nil, Nat.zero_mul]
        exact hrun'
      have hcount : ([] : List CompletedPart).length < t.count := Task.count_pos hpos hsize
      exact conversation_of_sendingAt hpos hsize hcount hrest hsending

theorem exists_opened (hpos : 0 < t.partSize) (hsource : source.Holds t.data t.ending)
    (hsize : t.partSize ≤ t.data.size) (id : String) (hcount : marks.length < t.count) :
    ∃ rest, rest.Holds (t.behind marks.length) t.ending ∧
      ∀ es o, Finishes (sendingAt t id marks rest) es o →
        Finishes (start t.key t.acl t.partSize source) (t.opened id marks ++ es) o := by
  obtain ⟨rest₀, hrest₀, hstart⟩ := start_of_le hsource hsize
  obtain ⟨rest, hrest, hrun⟩ := exists_sendingAt hpos hrest₀ id hcount
  refine ⟨rest, hrest, fun es o h => ?_⟩
  have hsending := hrun es o h
  rw [sendingAt, List.length_nil, Nat.zero_mul] at hsending
  rw [hstart]
  exact (finishes_creating _ rfl).mpr (.inr ⟨id, _, rfl, hsending⟩)

theorem exists_last (hpos : 0 < t.partSize) (hsource : source.Holds t.data t.ending)
    (hsize : t.partSize ≤ t.data.size) (id : String) (hcount : marks.length + 1 = t.count)
    (reply : Except StoreError CompletedPart) :
    ∃ rest, ∀ es o,
      Finishes (⟨t.key, t.acl, t.partSize, phaseAtEnd id marks
        (marks.length * t.partSize + (t.piece marks.length).size) t.ending reply, rest⟩ : Upload) es o →
      Finishes (start t.key t.acl t.partSize source)
        (t.opened id marks ++
          ⟨.part t.key id (marks.length + 1) (t.piece marks.length), reply⟩ :: es) o := by
  have hlt : marks.length < t.count := by omega
  obtain ⟨rest, hrest, hrun⟩ := exists_opened hpos hsource hsize id hlt
  obtain ⟨rest', ⟨hnext, -⟩ | ⟨-, htake⟩⟩ := exists_take hpos (by omega) hrest
  · omega
  · refine ⟨rest', fun es o h => hrun _ _ (finishes_sendingAt.mpr ⟨reply, es, rfl, ?_⟩)⟩
    rw [afterPart_last htake]
    exact h

theorem Conversation.finishes (hpos : 0 < t.partSize) (hsource : source.Holds t.data t.ending)
    (h : Conversation t es o) : Finishes (start t.key t.acl t.partSize source) es o := by
  have split : ∀ {marks : List CompletedPart}, t.partSize ≤ t.data.size → marks.length = t.count →
      ∃ init mark, marks = init ++ [mark] ∧ init.length + 1 = t.count := by
    intro marks hsize hcount
    obtain rfl | ⟨init, mark, rfl⟩ := List.eq_nil_or_concat marks
    · have := Task.count_pos hpos hsize
      simp at hcount
      omega
    · exact ⟨init, mark, by simp, by simpa using hcount⟩
  cases h with
  | unread hsize hend =>
    obtain ⟨rest, hstart⟩ := start_of_lt hsource hsize
    rw [hstart, hend]
    exact (finishes_finished _ rfl).mpr ⟨rfl, rfl⟩
  | put hsize hend reply =>
    obtain ⟨rest, hstart⟩ := start_of_lt hsource hsize
    rw [hstart, hend]
    exact (finishes_putting _ rfl).mpr ⟨reply, rfl, rfl⟩
  | refused hsize e =>
    obtain ⟨rest, -, hstart⟩ := start_of_le hsource hsize
    rw [hstart]
    exact (finishes_creating _ rfl).mpr (.inl ⟨e, rfl, rfl⟩)
  | waiting hsize hend =>
    obtain ⟨rest, hstart⟩ := start_of_lt hsource hsize
    rw [hstart, hend]
    exact (finishes_stalled _ rfl).mpr ⟨rfl, rfl⟩
  | completed hsize hend id marks hcount =>
    obtain ⟨init, mark, rfl, hinit⟩ := split hsize hcount
    obtain ⟨rest, hrun⟩ := exists_last hpos hsource hsize id hinit (.ok mark)
    rw [Task.opened_append_part, List.append_assoc, ← size_last hpos hinit hend]
    rw [hend] at hrun
    exact hrun _ _ ((finishes_completing _ rfl).mpr (.inl ⟨rfl, rfl⟩))
  | completeRefused hsize hend id marks hcount e reply =>
    obtain ⟨init, mark, rfl, hinit⟩ := split hsize hcount
    obtain ⟨rest, hrun⟩ := exists_last hpos hsource hsize id hinit (.ok mark)
    rw [Task.opened_append_part, List.append_assoc]
    rw [hend] at hrun
    exact hrun _ _ ((finishes_completing _ rfl).mpr (.inr ⟨e, reply, rfl, rfl⟩))
  | sourceFailed hsize hend id marks hcount reply =>
    obtain ⟨init, mark, rfl, hinit⟩ := split hsize hcount
    obtain ⟨rest, hrun⟩ := exists_last hpos hsource hsize id hinit (.ok mark)
    rw [Task.opened_append_part, List.append_assoc]
    rw [hend] at hrun
    exact hrun _ _ ((finishes_aborting _ rfl).mpr ⟨reply, rfl, rfl⟩)
  | waitingOpen hsize hend id marks hcount reply =>
    obtain ⟨rest, hrun⟩ := exists_last hpos hsource hsize id hcount reply
    rw [hend] at hrun
    exact hrun _ _ ((finishes_stalled _ rfl).mpr ⟨rfl, rfl⟩)
  | partRefused hsize id marks hcount hstall e reply =>
    obtain ⟨rest, hrest, hrun⟩ := exists_opened hpos hsource hsize id hcount
    refine hrun _ _ (finishes_sendingAt.mpr ⟨.error e, _, rfl, ?_⟩)
    obtain ⟨rest', ⟨-, htake, -⟩ | ⟨hlast, htake⟩⟩ := exists_take hpos hcount hrest
    · rw [afterPart_error htake]
      exact (finishes_aborting _ rfl).mpr ⟨reply, rfl, rfl⟩
    · rw [afterPart_last htake]
      cases hend : t.ending with
      | stalled => exact absurd (hstall hend) (by omega)
      | failing text => exact (finishes_aborting _ rfl).mpr ⟨reply, rfl, rfl⟩
      | finished => exact (finishes_aborting _ rfl).mpr ⟨reply, rfl, rfl⟩

/-- **The runs of an upload are its conversations**, whatever the replies. -/
theorem finishes_iff (hpos : 0 < t.partSize) (hsource : source.Holds t.data t.ending) :
    Finishes (start t.key t.acl t.partSize source) es o ↔ Conversation t es o :=
  ⟨conversation_of_finishes hpos hsource, fun h => h.finishes hpos hsource⟩

/-- **An upload keeps to the protocol of uploads in parts.** Its runs, on whatever replies, are the
conversations of its source; at every backend it comes to the end of one, if its source does not
stall; and what it sends are the bytes of the source, cut at the part size. -/
theorem upload_keeps_protocol (key : String) (acl : Option String) (partSize : Nat)
    (source : Source) (hpos : 0 < partSize) (hflows : source.Flows) :
    let t : Task := ⟨key, acl, partSize, source.content, source.ending⟩
    (∀ es result, Finishes (start key acl partSize source) es (.finished result) ↔
      Conversation t es (.finished result)) ∧
    (source.ending ≠ .stalled → ∀ {β : Type} [Backend β] (b : β), ∃ es result,
      Backend.Plays b es (toEnd key acl partSize source b).2 ∧
        (toEnd key acl partSize source b).1.phase = .finished result ∧
        Conversation t es (.finished result)) ∧
    (∀ i < t.count, (t.piece i).size = partSize ∨
      (source.ending = .finished ∧ i + 1 = t.count ∧ 0 < (t.piece i).size ∧
        (t.piece i).size < partSize)) ∧
    (∀ j, t.joined j = source.content.extract 0 (j * partSize)) ∧
    (source.ending = .finished → t.joined t.count = source.content) := by
  intro t
  have hsource : source.Holds t.data t.ending := hflows.holds
  refine ⟨fun es result => finishes_iff (t := t) hpos hsource, ?_,
    fun i hi => Task.size_piece_cases (t := t) hpos hi, fun j => Task.joined_eq (t := t) j,
    fun hend => Task.joined_count (t := t) hend hpos⟩
  intro hstall β _ b
  obtain ⟨es, o, hrun, hplays, hdone⟩ := exists_finishes_toEnd key acl partSize source b
  have hconv := conversation_of_finishes (t := t) hpos hsource hrun
  rw [step_eq_done] at hdone
  cases o with
  | finished result => exact ⟨es, result, hplays, hdone, hconv⟩
  | stalled open? =>
    cases hconv with
    | waiting _ hend => exact absurd hend hstall
    | waitingOpen _ hend => exact absurd hend hstall

/-- Five bytes in two chunks, read two at a time and sent in parts of two. -/
theorem upload_keeps_protocol_five_bytes :
    0 < 2 ∧ (⟨[⟨#[1, 2, 3]⟩, ⟨#[4, 5]⟩], some 2, .finished⟩ : Source).Flows ∧
      ∃ es result,
        (toEnd "log" none 2 ⟨[⟨#[1, 2, 3]⟩, ⟨#[4, 5]⟩], some 2, .finished⟩
          (Bucket.new "logs")).1.phase = .finished result ∧
        Conversation ⟨"log", none, 2, ⟨#[1, 2, 3, 4, 5]⟩, .finished⟩ es (.finished result) := by
  refine ⟨by decide, by decide, ?_⟩
  obtain ⟨-, hends, -⟩ := upload_keeps_protocol "log" none 2
    ⟨[⟨#[1, 2, 3]⟩, ⟨#[4, 5]⟩], some 2, .finished⟩ (by decide) (by decide)
  obtain ⟨es, result, -, hphase, hconv⟩ := hends (by decide) (Bucket.new "logs")
  exact ⟨es, result, hphase, hconv⟩

end BlobStore.Upload
