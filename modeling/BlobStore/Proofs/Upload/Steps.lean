import Mathlib
import BlobStore.Proofs.Upload.Pieces

/-!
# The steps of an upload

Each state of the machine by what its runs are: the call that it makes and how it goes on behind the
reply. Before the reply to part `i + 1` the machine is in the state `sendingAt` with `i` marks: the
piece at hand is the `i`-th, and the source holds what comes behind it. `exists_take` is the one
place that looks at how the source goes on.

`exists_finishes_toEnd` says that the calls allowed to `toEnd` are always enough.
-/

namespace BlobStore.Upload

open Client (Finishes)

/-! ## One key throughout -/

theorem key_start (key : String) (acl : Option String) (partSize : Nat) (source : Source) :
    (start key acl partSize source).key = key := by
  unfold start
  split <;> rfl

theorem key_step (u : Upload) :
    (Client.step u).Asks fun _ next => ∀ reply, (next reply).key = u.key := by
  obtain ⟨key, acl, partSize, phase, source⟩ := u
  cases phase with
  | putting data => exact fun _ => rfl
  | creating first =>
    intro reply
    cases reply <;> rfl
  | sending id sent size data =>
    intro reply
    dsimp only [afterPart]
    split <;> rfl
  | completing id sent size =>
    intro reply
    cases reply <;> rfl
  | aborting id reason => exact fun _ => rfl
  | finished result => trivial
  | stalled id => trivial

/-! ## The states of the machine -/

/-- The machine before the reply to a part, with the marks of the parts before it. -/
def sendingAt (t : Task) (id : String) (marks : List CompletedPart) (rest : Source) : Upload :=
  ⟨t.key, t.acl, t.partSize, .sending id marks.toArray (marks.length * t.partSize)
    (t.piece marks.length), rest⟩

variable {t : Task} {id : String} {marks : List CompletedPart} {source rest : Source}
  {es : List Exchange} {o : UploadOutcome}

theorem exists_take (hpos : 0 < t.partSize) {i : Nat} (hi : i < t.count)
    (hrest : rest.Holds (t.behind i) t.ending) :
    ∃ rest', (i + 1 < t.count ∧ rest.take t.partSize = .taken (t.piece (i + 1)) rest' ∧
        rest'.Holds (t.behind (i + 1)) t.ending) ∨
      (i + 1 = t.count ∧ rest.take t.partSize = Source.pieceAtEnd .empty rest' t.ending) := by
  have hsucc : (i + 1 + 1) * t.partSize = (i + 1) * t.partSize + t.partSize := Nat.succ_mul _ _
  have hbehind : (t.behind i).size = t.data.size - (i + 1) * t.partSize := by
    simp [Task.behind, ByteArray.size_extract]
  by_cases hfull : (i + 1 + 1) * t.partSize ≤ t.data.size
  · -- the next piece is a full one
    have hsize := Task.size_piece_of_le hfull
    rw [← Task.piece_append_behind] at hrest
    obtain ⟨rest', htake, hrest'⟩ := Source.take_of_holds hrest
    rw [hsize] at htake
    refine ⟨rest', .inl ⟨?_, htake, hrest'⟩⟩
    by_cases he : t.ending = .finished
    · rw [Task.lt_count_of_finished he hpos]; omega
    · rwa [Task.lt_count_of_ne_finished he hpos]
  · obtain ⟨rest', htake, hrest'⟩ := Source.take_of_short hrest t.partSize (by omega)
    refine ⟨rest', ?_⟩
    by_cases he : t.ending = .finished
    · rw [he] at htake
      by_cases hlast : i + 1 < t.count
      · -- the source ends within the next piece
        left
        have hempty : t.behind (i + 1) = .empty := by
          rw [Task.behind, ByteArray.extract_eq_empty_iff]; omega
        rw [← Task.piece_append_behind, hempty, ByteArray.append_empty] at htake
        exact ⟨hlast, htake, hempty ▸ hrest'⟩
      · right
        have hge : ¬ (i + 1) * t.partSize < t.data.size := by
          rwa [← Task.lt_count_of_finished he hpos]
        have hempty : t.behind i = .empty := by
          rw [← ByteArray.size_eq_zero_iff]; omega
        rw [hempty] at htake
        exact ⟨by omega, he ▸ htake⟩
    · right
      have hge : ¬ i + 1 < t.count := by rwa [Task.lt_count_of_ne_finished he hpos]
      refine ⟨by omega, ?_⟩
      rw [htake]
      cases hcase : t.ending with
      | finished => exact absurd hcase he
      | failing text => rfl
      | stalled => rfl

/-! ## Runs from a state -/

theorem finishes_finished (u : Upload) {r : Except StoreError Nat} (h : u.phase = .finished r) :
    Finishes u es o ↔ es = [] ∧ o = .finished r :=
  Client.finishes_of_done (by simp [Client.step, step, h]) es o

theorem finishes_stalled (u : Upload) {open? : Option String} (h : u.phase = .stalled open?) :
    Finishes u es o ↔ es = [] ∧ o = .stalled open? :=
  Client.finishes_of_done (by simp [Client.step, step, h]) es o

theorem finishes_aborting (u : Upload) {e : StoreError} (h : u.phase = .aborting id e) :
    Finishes u es o ↔
      ∃ reply : Except StoreError Unit, es = [⟨.abort u.key id, reply⟩] ∧ o = .finished (.error e) := by
  rw [Client.finishes_of_ask (s := u) (by simp only [Client.step, step, h]; rfl)]
  simp only [finishes_finished { u with phase := .finished (.error e) } rfl]
  constructor
  · rintro ⟨reply, _, rfl, rfl, rfl⟩
    exact ⟨reply, rfl, rfl⟩
  · rintro ⟨reply, rfl, rfl⟩
    exact ⟨reply, [], rfl, rfl, rfl⟩

theorem finishes_completing (u : Upload) {size : Nat}
    (h : u.phase = .completing id marks.toArray size) :
    Finishes u es o ↔
      (es = [⟨.complete u.key id marks, .ok ()⟩] ∧ o = .finished (.ok size)) ∨
      ∃ (e : StoreError) (reply : Except StoreError Unit),
        es = [⟨.complete u.key id marks, .error e⟩, ⟨.abort u.key id, reply⟩] ∧
          o = .finished (.error e) := by
  rw [Client.finishes_of_ask (s := u) (by simp only [Client.step, step, h]; rfl)]
  constructor
  · rintro ⟨reply, es', rfl, hrun⟩
    cases reply with
    | ok _ =>
      obtain ⟨rfl, rfl⟩ := (finishes_finished { u with phase := .finished (.ok size) } rfl).mp hrun
      exact .inl ⟨rfl, rfl⟩
    | error e =>
      obtain ⟨reply, rfl, rfl⟩ :=
        (finishes_aborting { u with phase := .aborting id e } rfl).mp hrun
      exact .inr ⟨e, reply, rfl, rfl⟩
  · rintro (⟨rfl, rfl⟩ | ⟨e, reply, rfl, rfl⟩)
    · exact ⟨.ok (), [], rfl, (finishes_finished _ rfl).mpr ⟨rfl, rfl⟩⟩
    · exact ⟨.error e, _, rfl, (finishes_aborting _ rfl).mpr ⟨reply, rfl, rfl⟩⟩

theorem finishes_sendingAt :
    Finishes (sendingAt t id marks rest) es o ↔
      ∃ (reply : Except StoreError CompletedPart) (es' : List Exchange),
        es = ⟨.part t.key id (marks.length + 1) (t.piece marks.length), reply⟩ :: es' ∧
          Finishes ((sendingAt t id marks rest).afterPart id marks.toArray
            (marks.length * t.partSize + (t.piece marks.length).size) reply) es' o :=
  Client.finishes_of_ask (s := sendingAt t id marks rest) rfl es o

/-- How an upload goes on behind its last part. -/
def phaseAtEnd (id : String) (marks : List CompletedPart) (size : Nat) :
    SourceEnd → Except StoreError CompletedPart → UploadPhase
  | .stalled, _ => .stalled (some id)
  | _, .error e => .aborting id e
  | .failing text, .ok _ => .aborting id (.source text)
  | .finished, .ok mark => .completing id (marks ++ [mark]).toArray size

section afterPart

variable {rest' : Source} {size : Nat}

theorem afterPart_ok (hpos : 0 < t.partSize) (hcount : marks.length + 1 < t.count)
    (htake : rest.take t.partSize = .taken (t.piece (marks.length + 1)) rest')
    (mark : CompletedPart) :
    (sendingAt t id marks rest).afterPart id marks.toArray
      (marks.length * t.partSize + (t.piece marks.length).size) (.ok mark) =
      sendingAt t id (marks ++ [mark]) rest' := by
  have hfull := Task.mul_le_of_succ_lt_count hpos hcount
  have hlt := Task.mul_lt_of_lt_count hpos hcount
  have hne : (t.piece (marks.length + 1)).size ≠ 0 := by
    rw [Task.size_piece, Nat.succ_mul (marks.length + 1)]
    omega
  rw [Task.size_piece_of_le hfull]
  simp only [afterPart, sendingAt, htake, if_neg hne, List.push_toArray, List.length_append,
    List.length_singleton, Nat.succ_mul]

theorem afterPart_error {data : ByteArray} (htake : rest.take t.partSize = .taken data rest')
    (e : StoreError) :
    (sendingAt t id marks rest).afterPart id marks.toArray size (.error e) =
      ⟨t.key, t.acl, t.partSize, .aborting id e, rest'⟩ := by
  simp only [afterPart, sendingAt, htake]

theorem afterPart_last {e : SourceEnd}
    (htake : rest.take t.partSize = Source.pieceAtEnd .empty rest' e)
    (reply : Except StoreError CompletedPart) :
    (sendingAt t id marks rest).afterPart id marks.toArray size reply =
      ⟨t.key, t.acl, t.partSize, phaseAtEnd id marks size e reply, rest'⟩ := by
  cases e <;> cases reply <;>
    simp [afterPart, sendingAt, htake, Source.pieceAtEnd, phaseAtEnd]

end afterPart

theorem size_last (hpos : 0 < t.partSize) {i : Nat} (hi : i + 1 = t.count)
    (hend : t.ending = .finished) : i * t.partSize + (t.piece i).size = t.data.size := by
  have hlt := Task.mul_lt_of_lt_count hpos (i := i) (by omega)
  have hge : ¬ (i + 1) * t.partSize < t.data.size := by
    rw [← Task.lt_count_of_finished hend hpos]; omega
  rw [Task.size_piece]
  omega

/-! ## The start -/

/-- How an upload starts whose source does not fill a piece. -/
def phaseAtStart (data : ByteArray) : SourceEnd → UploadPhase
  | .finished => .putting data
  | .failing text => .finished (.error (.source text))
  | .stalled => .stalled none

theorem start_of_lt (hsource : source.Holds t.data t.ending) (hsize : t.data.size < t.partSize) :
    ∃ rest, start t.key t.acl t.partSize source =
      ⟨t.key, t.acl, t.partSize, phaseAtStart t.data t.ending, rest⟩ := by
  obtain ⟨rest, htake, -⟩ := Source.take_of_short hsource t.partSize hsize
  refine ⟨rest, ?_⟩
  rw [start, htake]
  cases t.ending <;> simp [Source.pieceAtEnd, phaseAtStart, hsize]

theorem start_of_le (hsource : source.Holds t.data t.ending) (hsize : t.partSize ≤ t.data.size) :
    ∃ rest, rest.Holds (t.behind 0) t.ending ∧ start t.key t.acl t.partSize source =
      ⟨t.key, t.acl, t.partSize, .creating (t.piece 0), rest⟩ := by
  have hpiece : (t.piece 0).size = t.partSize := Task.size_piece_of_le (by omega)
  rw [← Task.piece_zero_append_behind hsize] at hsource
  obtain ⟨rest, htake, hrest⟩ := Source.take_of_holds hsource
  refine ⟨rest, hrest, ?_⟩
  rw [start, ← hpiece, htake]
  simp

theorem finishes_creating (u : Upload) {first : ByteArray} (h : u.phase = .creating first) :
    Finishes u es o ↔
      (∃ e : StoreError, es = [⟨.create u.key u.acl, .error e⟩] ∧ o = .finished (.error e)) ∨
      ∃ (id : String) (es' : List Exchange), es = ⟨.create u.key u.acl, .ok id⟩ :: es' ∧
        Finishes { u with phase := .sending id #[] 0 first } es' o := by
  rw [Client.finishes_of_ask (s := u) (by simp only [Client.step, step, h]; rfl)]
  constructor
  · rintro ⟨reply, es', rfl, hrun⟩
    cases reply with
    | ok id => exact .inr ⟨id, es', rfl, hrun⟩
    | error e =>
      obtain ⟨rfl, rfl⟩ := (finishes_finished { u with phase := .finished (.error e) } rfl).mp hrun
      exact .inl ⟨e, rfl, rfl⟩
  · rintro (⟨e, rfl, rfl⟩ | ⟨id, es', rfl, hrun⟩)
    · exact ⟨.error e, [], rfl, (finishes_finished _ rfl).mpr ⟨rfl, rfl⟩⟩
    · exact ⟨.ok id, es', rfl, hrun⟩

theorem finishes_putting (u : Upload) {data : ByteArray} (h : u.phase = .putting data) :
    Finishes u es o ↔
      ∃ reply : Except StoreError Unit, es = [⟨.put u.key data u.acl, reply⟩] ∧
        o = .finished (reply.map fun _ => data.size) := by
  rw [Client.finishes_of_ask (s := u) (by simp only [Client.step, step, h]; rfl)]
  constructor
  · rintro ⟨reply, es', rfl, hrun⟩
    obtain ⟨rfl, rfl⟩ := (finishes_finished _ rfl).mp hrun
    exact ⟨reply, rfl, rfl⟩
  · rintro ⟨reply, rfl, rfl⟩
    exact ⟨reply, [], rfl, (finishes_finished _ rfl).mpr ⟨rfl, rfl⟩⟩

/-! ## Coming to an end -/

/-- How many calls an upload can still make at most. -/
def rank (u : Upload) : Nat :=
  match u.phase with
  | .putting _ => 1
  | .creating _ => u.source.left + 4
  | .sending .. => u.source.left + 3
  | .completing .. => 2
  | .aborting .. => 1
  | .finished _ => 0
  | .stalled _ => 0

theorem rank_afterPart_lt (u : Upload) (id : String) (sent : Array CompletedPart) (size : Nat)
    (reply : Except StoreError CompletedPart) :
    rank (u.afterPart id sent size reply) < u.source.left + 3 := by
  unfold afterPart
  split
  · simp [rank]
  · simp [rank]
  · simp [rank]
  · simp [rank]
  · next data rest mark htake =>
    have hleft := Source.left_of_taken htake
    by_cases hzero : data.size = 0
    · simp only [rank, if_pos hzero]
      omega
    · simp only [rank, if_neg hzero]
      omega

theorem rank_lt (u : Upload) :
    (Client.step u).Asks fun _ next => ∀ reply, rank (next reply) < rank u := by
  obtain ⟨key, acl, partSize, phase, source⟩ := u
  cases phase with
  | putting data =>
    intro reply
    simp [rank]
  | creating first =>
    intro reply
    cases reply <;> simp [rank]
  | sending id sent size data =>
    intro reply
    exact rank_afterPart_lt ..
  | completing id sent size =>
    intro reply
    cases reply <;> simp [rank]
  | aborting id reason =>
    intro reply
    simp [rank]
  | finished result => trivial
  | stalled id => trivial

theorem rank_start_le (key : String) (acl : Option String) (partSize : Nat) (source : Source) :
    rank (start key acl partSize source) ≤ callLimit source := by
  unfold start callLimit
  split
  · next first rest htake =>
    have hleft := Source.left_of_taken htake
    by_cases hshort : first.size < partSize
    · simp only [rank, if_pos hshort]
      omega
    · simp only [rank, if_neg hshort]
      omega
  · simp [rank]
  · simp [rank]

theorem step_eq_done {u : Upload} :
    Client.step u = .done o ↔ u.phase = match (o : UploadOutcome) with
      | .finished result => .finished result
      | .stalled open? => .stalled open? := by
  obtain ⟨key, acl, partSize, phase, source⟩ := u
  cases phase <;> cases o <;> simp [Client.step, step]

/-- **The calls allowed are enough**: at every backend an upload comes to the end of a run. -/
theorem exists_finishes_toEnd {β : Type} [Backend β] (key : String) (acl : Option String)
    (partSize : Nat) (source : Source) (b : β) :
    ∃ es o, Finishes (start key acl partSize source) es o ∧
      Backend.Plays b es (toEnd key acl partSize source b).2 ∧
      Client.step (toEnd key acl partSize source b).1 = .done o := by
  obtain ⟨es, o, b', hrun, hplays, hlen⟩ :=
    Client.exists_finishes rank rank_lt (start key acl partSize source) b
  obtain ⟨hdone, hb⟩ := hrun.run hplays (hlen.trans (rank_start_le key acl partSize source))
  exact ⟨es, o, hrun, by rw [toEnd, hb]; exact hplays, hdone⟩

end BlobStore.Upload
