import Mathlib
import BlobStore.Proofs.Upload.Steps

/-!
# How far an upload reads ahead

While a part is on its way the next piece is read, and no more. `Passes` are the moments of an
upload, those among them at which it stands in the middle of a read; `ReadsAhead` says how much of
the source is taken at such a moment, counted by the parts that were handed over and by the bytes
that were acknowledged. What carries it is `IsAhead`, by the phase of the upload.
-/

namespace BlobStore

/-- Whether the call hands over a part. -/
def Call.isPart : Call → Bool
  | part .. => true
  | _ => false

/-- The bytes that the backend acknowledged by its reply. -/
def Exchange.acknowledged : Exchange → Nat
  | ⟨.put _ data _, .ok _⟩ => data.size
  | ⟨.part _ _ _ data, .ok _⟩ => data.size
  | _ => 0

namespace Upload

open Client (Reaches)

/-- Where an upload stands. -/
inductive Moment where
  /-- It reads its first piece. -/
  | opening
  /-- It has just handed over this call. -/
  | asking (c : Call)
  /-- There is no reply to this call yet. -/
  | awaiting (c : Call)
  /-- The last part has its reply, and the next piece is still being read. -/
  | lagging
  | ended (o : UploadOutcome)

/-- The call without a reply. -/
def Moment.call? : Moment → Option Call
  | asking c | awaiting c => some c
  | _ => none

/-- **The moments of an upload**, with the exchanges behind it and what is left of the source. While
a part is on its way the next piece is read, and neither waits for the other; at any of these moments
the upload can also be given up. -/
inductive Passes (key : String) (acl : Option String) (partSize : Nat) (source : Source) :
    List Exchange → Moment → Source → Prop
  | opening {got : ByteArray} {rest : Source} (hread : source.During partSize got rest) :
    Passes key acl partSize source [] .opening rest
  | asking {es : List Exchange} {u : Upload} {c : Call} {next : c.Reply → Upload}
    (hreach : Reaches (start key acl partSize source) es u) (hask : Client.step u = .ask c next) :
    Passes key acl partSize source es (.asking c) u.source
  | awaiting {es : List Exchange} {u : Upload} {c : Call} {next : c.Reply → Upload}
    (hreach : Reaches (start key acl partSize source) es u) (hask : Client.step u = .ask c next) :
    Passes key acl partSize source es (.awaiting c) u.source
  | reading {es : List Exchange} {u : Upload} {k id : String} {i : Nat} {data got : ByteArray}
    {next : (Call.part k id i data).Reply → Upload} {rest : Source}
    (hreach : Reaches (start key acl partSize source) es u)
    (hask : Client.step u = .ask (.part k id i data) next)
    (hread : u.source.During u.partSize got rest) :
    Passes key acl partSize source es (.awaiting (.part k id i data)) rest
  | lagging {es : List Exchange} {u : Upload} {k id : String} {i : Nat} {data got : ByteArray}
    {next : (Call.part k id i data).Reply → Upload} {rest : Source}
    (hreach : Reaches (start key acl partSize source) es u)
    (hask : Client.step u = .ask (.part k id i data) next)
    (hread : u.source.During u.partSize got rest) (reply : (Call.part k id i data).Reply) :
    Passes key acl partSize source (es ++ [⟨.part k id i data, reply⟩]) .lagging rest
  | ended {es : List Exchange} {u : Upload} {o : UploadOutcome}
    (hreach : Reaches (start key acl partSize source) es u) (hdone : Client.step u = .done o) :
    Passes key acl partSize source es (.ended o) u.source

/-- The calls that were handed over up to a moment. -/
def handed (es : List Exchange) (m : Moment) : List Call := es.map Sigma.fst ++ m.call?.toList

/-- The bytes that were acknowledged by these exchanges. -/
def acknowledged (es : List Exchange) : Nat := (es.map Exchange.acknowledged).sum

/-- **How far an upload has read** by a moment: it has taken the bytes `taken`, and `rest` is what
has become of its source. -/
structure ReadsAhead (partSize : Nat) (source : Source) (es : List Exchange) (m : Moment)
    (rest : Source) (taken : ByteArray) : Prop where
  /-- These bytes are gone from the source and no other; the rest is still to come. -/
  gives : source.Gives taken rest
  /-- Before the first call, no more than a piece. -/
  first : handed es m = [] → taken.size ≤ partSize
  /-- When a part is handed over, no more than the parts up to it. -/
  asking : ∀ key id i data, m = .asking (.part key id i data) → taken.size ≤ i * partSize
  /-- While it is on its way, no more than one piece beyond. -/
  awaiting : ∀ key id i data, m = .awaiting (.part key id i data) → taken.size ≤ (i + 1) * partSize
  /-- What is held is never more than two pieces. -/
  held : taken.size ≤ acknowledged es + 2 * partSize
  /-- However the upload goes on, no more than one piece beyond the parts handed over. -/
  parts : taken.size ≤ ((handed es m).countP Call.isPart + 1) * partSize
  /-- An upload that succeeds has read all of its source, and says so. -/
  success : ∀ n, m = .ended (.finished (.ok n)) → rest.content = .empty ∧ n = taken.size

/-! ## Counting exchanges -/

/-- How many parts were handed over by these exchanges. -/
def partsSent (es : List Exchange) : Nat := es.countP (·.1.isPart)

theorem acknowledged_concat (es : List Exchange) (e : Exchange) :
    acknowledged (es ++ [e]) = acknowledged es + e.acknowledged := by
  simp [acknowledged]

theorem partsSent_concat (es : List Exchange) (e : Exchange) :
    partsSent (es ++ [e]) = partsSent es + if e.1.isPart then 1 else 0 := by
  rw [partsSent, List.countP_append, List.countP_singleton, partsSent]

theorem countP_handed (es : List Exchange) (m : Moment) :
    (handed es m).countP Call.isPart = partsSent es + m.call?.toList.countP Call.isPart := by
  rw [handed, List.countP_append, List.countP_map]
  rfl

/-- No more than one piece beyond the parts handed over, and two beyond what was acknowledged. -/
structure IsBounded (partSize : Nat) (es : List Exchange) (n : Nat) : Prop where
  parts : n ≤ (partsSent es + 1) * partSize
  held : n ≤ acknowledged es + 2 * partSize

section isBounded

variable {partSize n : Nat} {es : List Exchange}

theorem isBounded_of_le (h : n ≤ partSize) (es : List Exchange) : IsBounded partSize es n where
  parts := by rw [Nat.succ_mul]; omega
  held := by omega

theorem IsBounded.concat (h : IsBounded partSize es n) (e : Exchange) :
    IsBounded partSize (es ++ [e]) n where
  parts := by
    rw [partsSent_concat]
    exact h.parts.trans (Nat.mul_le_mul_right _ (by omega))
  held := by
    have := h.held
    rw [acknowledged_concat]
    omega

end isBounded

/-! ## By the phase -/

/-- What the phase of an upload says of the `n` bytes taken from its source, of which `rest` is
left. -/
def Tracks (partSize : Nat) (rest : Source) (es : List Exchange) (n : Nat) : UploadPhase → Prop
  | .putting data => es = [] ∧ n = data.size ∧ n ≤ partSize ∧ rest.content = .empty
  | .creating first => es = [] ∧ n = first.size ∧ n ≤ partSize
  | .sending _ sent size data => partsSent es = sent.size ∧ acknowledged es = size ∧
      size ≤ sent.size * partSize ∧ n = size + data.size ∧ data.size ≤ partSize
  | .completing _ _ size => IsBounded partSize es n ∧ size = n ∧ rest.content = .empty
  | .aborting .. | .stalled _ => IsBounded partSize es n
  | .finished result => IsBounded partSize es n ∧ ∀ k, result = .ok k → k = n ∧ rest.content = .empty

/-- What an upload keeps: it has read as far as its phase says. -/
structure IsAhead (partSize : Nat) (source : Source) (es : List Exchange) (u : Upload) : Prop where
  size : u.partSize = partSize
  taken : ∃ taken, source.Gives taken u.source ∧
    Tracks partSize u.source es taken.size u.phase

section isAhead

variable {partSize n : Nat} {source : Source} {es : List Exchange} {u : Upload}

section sending

variable {rest : Source} {id : String} {sent : Array CompletedPart} {size : Nat} {data : ByteArray}

theorem Tracks.le_of_sending (h : Tracks partSize rest es n (.sending id sent size data)) :
    n ≤ (sent.size + 1) * partSize := by
  obtain ⟨-, -, hsize, rfl, hdata⟩ := h
  rw [Nat.succ_mul]
  omega

theorem Tracks.add_le_of_sending (h : Tracks partSize rest es n (.sending id sent size data)) {m : Nat}
    (hm : m ≤ partSize) :
    n + m ≤ (sent.size + 1 + 1) * partSize ∧ n + m ≤ acknowledged es + 2 * partSize := by
  have hn := h.le_of_sending
  obtain ⟨-, rfl, -, rfl, hdata⟩ := h
  rw [Nat.succ_mul (sent.size + 1)]
  omega

theorem Tracks.isBounded_of_sending (h : Tracks partSize rest es n (.sending id sent size data)) {m : Nat}
    (hm : m ≤ partSize) (k : String) (reply : Except StoreError CompletedPart) :
    IsBounded partSize (es ++ [⟨.part k id (sent.size + 1) data, reply⟩]) (n + m) := by
  obtain ⟨hparts, hheld⟩ := h.add_le_of_sending hm
  constructor
  · rw [partsSent_concat, h.1]
    exact hparts
  · rw [acknowledged_concat]
    omega

end sending

theorem Tracks.isBounded {rest : Source} {p : UploadPhase} (h : Tracks partSize rest es n p) :
    IsBounded partSize es n := by
  cases p with
  | putting data => exact isBounded_of_le h.2.2.1 es
  | creating first => exact isBounded_of_le h.2.2 es
  | sending id sent size data =>
    exact ⟨h.1 ▸ h.le_of_sending, (h.add_le_of_sending (Nat.zero_le _)).2⟩
  | completing id sent size => exact h.1
  | aborting id reason => exact h
  | finished result => exact h.1
  | stalled id => exact h

theorem isAhead_start (key : String) (acl : Option String) (partSize : Nat) {source : Source}
    (hflows : source.Flows) : IsAhead partSize source [] (start key acl partSize source) := by
  have hduring := source.during_of_take partSize
  unfold start
  cases htake : source.take partSize with
  | taken first rest =>
    rw [htake] at hduring
    refine ⟨rfl, first, hduring.gives, ?_⟩
    dsimp only
    split
    · next hshort =>
      exact ⟨rfl, rfl, hduring.size_le, Source.content_of_taken_short hflows htake hshort⟩
    · exact ⟨rfl, rfl, hduring.size_le⟩
  | failed text rest =>
    rw [htake] at hduring
    obtain ⟨got, hduring⟩ := hduring
    exact ⟨rfl, got, hduring.gives, isBounded_of_le hduring.size_le [], nofun⟩
  | stalled rest =>
    rw [htake] at hduring
    obtain ⟨⟨got, hduring⟩, -⟩ := hduring
    exact ⟨rfl, got, hduring.gives, isBounded_of_le hduring.size_le []⟩

theorem isAhead_afterPart (hpos : 0 < partSize) (hflows : source.Flows) {id : String}
    {sent : Array CompletedPart} {size : Nat} {data : ByteArray}
    (hphase : u.phase = .sending id sent size data) (hu : IsAhead partSize source es u)
    (reply : Except StoreError CompletedPart) :
    IsAhead partSize source (es ++ [⟨.part u.key id (sent.size + 1) data, reply⟩])
      (u.afterPart id sent (size + data.size) reply) := by
  obtain ⟨rfl, taken, hgives, htracks⟩ := hu
  rw [hphase] at htracks
  have hduring := u.source.during_of_take u.partSize
  -- wherever the reading has come to
  have hnext : ∀ {got : ByteArray} {rest : Source}, u.source.During u.partSize got rest →
      IsBounded u.partSize (es ++ [⟨.part u.key id (sent.size + 1) data, reply⟩]) (taken ++ got).size := by
    intro got rest h
    rw [ByteArray.size_append]
    exact htracks.isBounded_of_sending h.size_le u.key reply
  unfold afterPart
  cases htake : u.source.take u.partSize with
  | stalled rest =>
    rw [htake] at hduring
    obtain ⟨⟨got, hduring⟩, -⟩ := hduring
    exact ⟨rfl, _, hgives.trans hduring.gives, hnext hduring⟩
  | failed text rest =>
    rw [htake] at hduring
    obtain ⟨got, hduring⟩ := hduring
    cases reply <;> exact ⟨rfl, _, hgives.trans hduring.gives, hnext hduring⟩
  | taken next rest =>
    rw [htake] at hduring
    have hgives' := hgives.trans hduring.gives
    cases reply with
    | error e => exact ⟨rfl, _, hgives', hnext hduring⟩
    | ok part =>
      refine ⟨rfl, _, hgives', ?_⟩
      dsimp only
      obtain ⟨hparts, hacknowledged, hsize, hn, hdata⟩ := htracks
      have hnow : (taken ++ next).size = size + data.size + next.size := by
        rw [ByteArray.size_append, hn]
      split
      · next hlast =>
        refine ⟨hnext hduring, by omega, ?_⟩
        exact Source.content_of_taken_short (hgives.flows hflows) htake (by omega)
      · refine ⟨?_, ?_, ?_, hnow, hduring.size_le⟩
        · rw [partsSent_concat, hparts, Array.size_push]
          rfl
        · rw [acknowledged_concat, hacknowledged]
          rfl
        · rw [Array.size_push, Nat.succ_mul]
          omega

theorem isAhead_step (hpos : 0 < partSize) (hflows : source.Flows) (es : List Exchange) (u : Upload)
    (hu : IsAhead partSize source es u) : (Client.step u).Asks fun c next =>
      ∀ reply, IsAhead partSize source (es ++ [⟨c, reply⟩]) (next reply) := by
  obtain ⟨key, acl, partSize', phase, rest⟩ := u
  cases phase with
  | sending id sent size data => exact isAhead_afterPart hpos hflows rfl hu
  | finished result => trivial
  | stalled id => trivial
  | putting data =>
    obtain ⟨rfl, taken, hgives, rfl, hn, hle, hempty⟩ := hu
    refine fun reply => ⟨rfl, taken, hgives, (isBounded_of_le hle []).concat _, fun k hk => ?_⟩
    cases reply with
    | ok _ => exact ⟨(Except.ok.inj hk).symm.trans hn.symm, hempty⟩
    | error e => cases hk
  | creating first =>
    obtain ⟨rfl, taken, hgives, rfl, hn, hle⟩ := hu
    intro reply
    cases reply with
    | ok id => exact ⟨rfl, taken, hgives, rfl, rfl, by simp, by simpa using hn, hn ▸ hle⟩
    | error e => exact ⟨rfl, taken, hgives, (isBounded_of_le hle []).concat _, nofun⟩
  | completing id sent size =>
    obtain ⟨rfl, taken, hgives, hbounded, hsize, hempty⟩ := hu
    intro reply
    cases reply with
    | ok _ =>
      refine ⟨rfl, taken, hgives, hbounded.concat _, fun k hk => ?_⟩
      exact ⟨(Except.ok.inj hk).symm.trans hsize, hempty⟩
    | error e => exact ⟨rfl, taken, hgives, hbounded.concat _⟩
  | aborting id reason =>
    obtain ⟨rfl, taken, hgives, hbounded⟩ := hu
    exact fun reply => ⟨rfl, taken, hgives, hbounded.concat _, nofun⟩

theorem isAhead_of_reaches (hpos : 0 < partSize) (hflows : source.Flows) {key : String}
    {acl : Option String} (h : Reaches (start key acl partSize source) es u) :
    IsAhead partSize source es u :=
  h.keeps (isAhead_step hpos hflows) (isAhead_start key acl partSize hflows)

theorem phase_of_asks_part {k id : String} {i : Nat} {data : ByteArray}
    {next : (Call.part k id i data).Reply → Upload}
    (h : Client.step u = .ask (.part k id i data) next) :
    ∃ sent size, u.phase = .sending id sent size data ∧ i = sent.size + 1 := by
  obtain ⟨key, acl, partSize, phase, rest⟩ := u
  cases phase <;> cases h
  exact ⟨_, _, rfl, rfl⟩

end isAhead

/-! ## At every moment -/

section moment

variable {key : String} {acl : Option String} {partSize n : Nat} {source rest : Source}
  {es : List Exchange} {m : Moment}

theorem le_of_handed_nil (h : n ≤ ((handed es m).countP Call.isPart + 1) * partSize)
    (hnone : handed es m = []) : n ≤ partSize := by
  rw [hnone] at h
  simpa using h

theorem IsBounded.readsAhead {taken : ByteArray} (h : IsBounded partSize es taken.size)
    (hgives : source.Gives taken rest)
    (hasking : ∀ key id i data, m = .asking (.part key id i data) → taken.size ≤ i * partSize)
    (hawaiting : ∀ key id i data, m = .awaiting (.part key id i data) →
      taken.size ≤ (i + 1) * partSize)
    (hsuccess : ∀ n, m = .ended (.finished (.ok n)) → rest.content = .empty ∧ n = taken.size) :
    ReadsAhead partSize source es m rest taken := by
  have hparts : taken.size ≤ ((handed es m).countP Call.isPart + 1) * partSize := by
    rw [countP_handed]
    exact h.parts.trans (Nat.mul_le_mul_right _ (by omega))
  exact ⟨hgives, le_of_handed_nil hparts, hasking, hawaiting, h.held, hparts, hsuccess⟩

/-- **An upload reads no more than one part ahead**, whatever the backend replies, however the source
comes in and ends, and whenever it is looked at or given up. -/
theorem read_ahead_bounded (hpos : 0 < partSize) (hflows : source.Flows)
    (h : Passes key acl partSize source es m rest) :
    ∃ taken, ReadsAhead partSize source es m rest taken := by
  cases h with
  | opening hread =>
    have hbounded := isBounded_of_le hread.size_le []
    exact ⟨_, hbounded.readsAhead hread.gives nofun nofun nofun⟩
  | @asking _ u c next hreach hask =>
    obtain ⟨-, taken, hgives, htracks⟩ := isAhead_of_reaches hpos hflows hreach
    refine ⟨taken, htracks.isBounded.readsAhead hgives ?_ nofun nofun⟩
    rintro k id i data hm
    cases hm
    obtain ⟨sent, size, hphase, rfl⟩ := phase_of_asks_part hask
    rw [hphase] at htracks
    exact htracks.le_of_sending
  | @awaiting _ u c next hreach hask =>
    obtain ⟨-, taken, hgives, htracks⟩ := isAhead_of_reaches hpos hflows hreach
    refine ⟨taken, htracks.isBounded.readsAhead hgives nofun ?_ nofun⟩
    rintro k id i data hm
    cases hm
    obtain ⟨sent, size, hphase, rfl⟩ := phase_of_asks_part hask
    rw [hphase] at htracks
    exact (htracks.add_le_of_sending (Nat.zero_le _)).1
  | @reading _ u k id i data got next _ hreach hask hread =>
    obtain ⟨rfl, taken, hgives, htracks⟩ := isAhead_of_reaches hpos hflows hreach
    obtain ⟨sent, size, hphase, rfl⟩ := phase_of_asks_part hask
    rw [hphase] at htracks
    obtain ⟨hpiece, hheld⟩ := htracks.add_le_of_sending hread.size_le
    rw [← ByteArray.size_append] at hpiece hheld
    -- the part on its way counts as handed over, though it has no reply
    let m : Moment := .awaiting (.part k id (sent.size + 1) data)
    have hcount : (handed es m).countP Call.isPart = sent.size + 1 := by
      rw [countP_handed, htracks.1]
      rfl
    have hparts : (taken ++ got).size ≤ ((handed es m).countP Call.isPart + 1) * u.partSize := by
      rwa [hcount]
    refine ⟨_, hgives.trans hread.gives, le_of_handed_nil hparts, nofun, ?_, hheld, hparts, nofun⟩
    rintro _ _ _ _ hm
    cases hm
    exact hpiece
  | @lagging es u k id i data got next _ hreach hask hread reply =>
    obtain ⟨rfl, taken, hgives, htracks⟩ := isAhead_of_reaches hpos hflows hreach
    obtain ⟨sent, size, hphase, rfl⟩ := phase_of_asks_part hask
    rw [hphase] at htracks
    have hbounded := htracks.isBounded_of_sending hread.size_le k reply
    rw [← ByteArray.size_append] at hbounded
    exact ⟨_, hbounded.readsAhead (hgives.trans hread.gives) nofun nofun nofun⟩
  | @ended _ u o hreach hdone =>
    obtain ⟨-, taken, hgives, htracks⟩ := isAhead_of_reaches hpos hflows hreach
    refine ⟨taken, htracks.isBounded.readsAhead hgives nofun nofun ?_⟩
    rintro n hm
    cases hm
    rw [step_eq_done] at hdone
    rw [hdone] at htracks
    obtain ⟨hn, hempty⟩ := htracks.2 n rfl
    exact ⟨hempty, hn⟩

/-- Both bounds are met: while the first part of two bytes is on its way, four of five are taken. -/
theorem read_ahead_bounded_two_pieces :
    let source : Source := ⟨[⟨#[1, 2]⟩, ⟨#[3]⟩, ⟨#[4]⟩, ⟨#[5]⟩], none, .failing "gone"⟩
    let rest : Source := ⟨[⟨#[5]⟩], none, .failing "gone"⟩
    let es : List Exchange := [⟨.create "log" none, .ok "u"⟩]
    let m : Moment := .awaiting (.part "log" "u" 1 ⟨#[1, 2]⟩)
    0 < 2 ∧ source.Flows ∧ Passes "log" none 2 source es m rest ∧
      ∃ taken, ReadsAhead 2 source es m rest taken ∧
        taken.size = (1 + 1) * 2 ∧ taken.size = acknowledged es + 2 * 2 := by
  intro source rest es m
  have hflows : source.Flows := by decide
  let left : Source := ⟨[⟨#[3]⟩, ⟨#[4]⟩, ⟨#[5]⟩], none, .failing "gone"⟩
  let opened : Upload := ⟨"log", none, 2, .creating ⟨#[1, 2]⟩, left⟩
  have hstart : start "log" none 2 source = opened := rfl
  have hcreate : Client.step opened = .ask (.create "log" none) _ := rfl
  have hreach : Reaches (start "log" none 2 source) es
      ⟨"log", none, 2, .sending "u" #[] 0 ⟨#[1, 2]⟩, left⟩ := by
    rw [hstart]
    exact .ask hcreate (.ok "u") (.here _)
  have hread : left.During 2 (.empty ++ ⟨#[3]⟩ ++ ⟨#[4]⟩) rest :=
    (Source.During.start.read (by decide : 0 + 1 ≤ 2) rfl).read (by decide : 1 + 1 ≤ 2) rfl
  have hpasses : Passes "log" none 2 source es m rest := .reading hreach rfl hread
  obtain ⟨taken, hahead⟩ := read_ahead_bounded (by decide) hflows hpasses
  have hsize := congrArg ByteArray.size hahead.gives.content
  have hsource : source.content.size = 5 := by decide
  have hrest : rest.content.size = 1 := by decide
  have hacknowledged : acknowledged es = 0 := rfl
  rw [ByteArray.size_append, hsource, hrest] at hsize
  refine ⟨by decide, hflows, hpasses, taken, hahead, ?_, ?_⟩
  · omega
  · rw [hacknowledged]
    omega

theorem exists_passes_toEnd {β : Type} [Backend β] (key : String) (acl : Option String)
    (partSize : Nat) (source : Source) (b : β) :
    ∃ es o, Passes key acl partSize source es (.ended o) (toEnd key acl partSize source b).1.source ∧
      Backend.Plays b es (toEnd key acl partSize source b).2 ∧
      Client.step (toEnd key acl partSize source b).1 = .done o := by
  obtain ⟨-, o, -, -, hdone⟩ := exists_finishes_toEnd key acl partSize source b
  obtain ⟨es, hreach, hplays⟩ :=
    Client.exists_reaches (start key acl partSize source) (callLimit source) b
  exact ⟨es, o, .ended hreach hdone, hplays, hdone⟩

end moment

end Upload

end BlobStore
