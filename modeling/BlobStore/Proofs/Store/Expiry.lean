import Mathlib
import BlobStore.Bucket.Record
import BlobStore.Proofs.Bucket.Scope
import BlobStore.Remote.Bucket
import BlobStore.Store

/-!
# What a request for a link is checked for, and how long the link holds

A request is refused for its key first and for its time next, both before anything is asked of the
bucket. A span that passes is rounded up to whole seconds in words of 64 and 32 bits; `Rounded` says
that no word is too narrow, so that the seconds asked for are the least that cover the span.
-/

namespace BlobStore

/-! ## Spans by their seconds -/

namespace Span

theorem nanos_ofSecs (n : Nat) : (ofSecs n).nanos = n * nanosPerSecond := by
  rw [ofSecs, ofParts, Nat.add_zero]

theorem le_ofSecs_iff {d : Span} {n : Nat} : d ≤ ofSecs n ↔ d.nanos ≤ n * nanosPerSecond := by
  rw [← nanos_ofSecs]
  rfl

theorem secs_ofParts {secs : UInt64} {nanos : UInt32} (h : nanos < 1000000000) :
    (ofParts secs.toNat nanos.toNat).secs = secs := by
  have hnanos : nanos.toNat < 1000000000 := UInt32.lt_iff_toNat_lt.mp h
  rw [Span.secs, ofParts, nanosPerSecond,
    show (secs.toNat * 1000000000 + nanos.toNat) / 1000000000 = secs.toNat by omega, UInt64.ofNat_toNat]

theorem subsecNanos_ofParts {secs : UInt64} {nanos : UInt32} (h : nanos < 1000000000) :
    (ofParts secs.toNat nanos.toNat).subsecNanos = nanos := by
  have hnanos : nanos.toNat < 1000000000 := UInt32.lt_iff_toNat_lt.mp h
  rw [Span.subsecNanos, ofParts, nanosPerSecond,
    show (secs.toNat * 1000000000 + nanos.toNat) % 1000000000 = nanos.toNat by omega, UInt32.ofNat_toNat]

theorem toNat_subsecNanos (d : Span) : d.subsecNanos.toNat = d.nanos % nanosPerSecond := by
  have hlt : d.nanos % nanosPerSecond < nanosPerSecond := Nat.mod_lt _ (by decide)
  rw [subsecNanos, UInt32.toNat_ofNat', Nat.mod_eq_of_lt]
  exact hlt.trans (by decide)

end Span

namespace Store

variable {d d' : Span}

/-- A link can hold for the span: it is some time, and seven days at most. -/
def Admits (d : Span) : Prop := 0 < d.nanos ∧ d ≤ .ofSecs 604800

theorem admits_iff : Admits d ↔ ¬ (d.isZero = true ∨ maxExpiry < d) := by
  have hzero : d.isZero = true ↔ d.nanos = 0 := decide_eq_true_iff
  have hmax : maxExpiry < d ↔ 604800 * Span.nanosPerSecond < d.nanos := Iff.rfl
  rw [Admits, Span.le_ofSecs_iff, hzero, hmax]
  omega

theorem not_admits_iff : ¬ Admits d ↔ d.nanos = 0 ∨ .ofSecs 604800 < d := by
  have hle : d ≤ .ofSecs 604800 ↔ ¬ .ofSecs 604800 < d := Nat.not_lt.symm
  rw [Admits, hle, not_and_or, not_not, Nat.not_lt, Nat.le_zero]

/-! ## Rounding -/

/-- How a span is rounded up: no sum leaves its word, nothing is cut off when a word is narrowed, and
the seconds are the fewest that cover the span. -/
structure Rounded (d : Span) : Prop where
  counted : d.secs.toNat = d.nanos / Span.nanosPerSecond
  summed : d.ceilSecs.toNat = d.secs.toNat + if 0 < d.subsecNanos then 1 else 0
  narrowed : (linkSecs d).toNat = d.ceilSecs.toNat
  least : IsLeast {n : Nat | d ≤ .ofSecs n} (linkSecs d).toNat
  pos : 1 ≤ linkSecs d
  le : linkSecs d ≤ 604800
  close : (linkSecs d).toNat * Span.nanosPerSecond < d.nanos + Span.nanosPerSecond

theorem toNat_secs (h : d ≤ .ofSecs 604800) : d.secs.toNat = d.nanos / Span.nanosPerSecond := by
  rw [Span.le_ofSecs_iff, Span.nanosPerSecond] at h
  rw [Span.secs, UInt64.toNat_ofNat', Span.nanosPerSecond, Nat.mod_eq_of_lt]
  omega

theorem toNat_ceilSecs (h : d ≤ .ofSecs 604800) :
    d.ceilSecs.toNat = d.secs.toNat + if 0 < d.subsecNanos then 1 else 0 := by
  have hle : d.secs.toNat ≤ 604800 := by
    rw [toNat_secs h, Span.nanosPerSecond]
    rw [Span.le_ofSecs_iff, Span.nanosPerSecond] at h
    omega
  rw [Span.ceilSecs, UInt64.toNat_add]
  split
  · rw [UInt64.toNat_one, Nat.mod_eq_of_lt (by omega)]
  · rw [UInt64.toNat_zero, Nat.mod_eq_of_lt (by omega)]

theorem ceilSecs_le_iff (h : d ≤ .ofSecs 604800) (n : Nat) :
    d.ceilSecs.toNat ≤ n ↔ d ≤ .ofSecs n := by
  have hrest : 0 < d.subsecNanos ↔ 0 < d.nanos % 1000000000 := by
    rw [UInt32.lt_iff_toNat_lt, Span.toNat_subsecNanos]
    rfl
  rw [toNat_ceilSecs h, toNat_secs h, Span.le_ofSecs_iff, Span.nanosPerSecond]
  simp only [hrest]
  split <;> omega

theorem toNat_linkSecs (h : d ≤ .ofSecs 604800) : (linkSecs d).toNat = d.ceilSecs.toNat := by
  have hmax : maxExpiry.secs = 604800 := by decide +kernel
  have hle : d.ceilSecs.toNat ≤ 604800 := (ceilSecs_le_iff h 604800).mpr h
  have hmin : min d.ceilSecs maxExpiry.secs = d.ceilSecs := by
    rw [hmax]
    exact if_pos (UInt64.le_iff_toNat_le.mpr hle)
  rw [linkSecs, hmin, UInt64.toNat_toUInt32, Nat.mod_eq_of_lt]
  omega

theorem isLeast_linkSecs (h : d ≤ .ofSecs 604800) :
    IsLeast {n : Nat | d ≤ .ofSecs n} (linkSecs d).toNat := by
  rw [toNat_linkSecs h]
  exact ⟨(ceilSecs_le_iff h _).mp le_rfl, fun n hn => (ceilSecs_le_iff h n).mpr hn⟩

theorem rounded (h : Admits d) : Rounded d := by
  obtain ⟨hpos, hle⟩ := h
  have hleast := isLeast_linkSecs hle
  have hcovers : d.nanos ≤ (linkSecs d).toNat * Span.nanosPerSecond :=
    Span.le_ofSecs_iff.mp hleast.1
  refine ⟨toNat_secs hle, toNat_ceilSecs hle, toNat_linkSecs hle, hleast, ?_, ?_, ?_⟩
  · rw [UInt32.le_iff_toNat_le, UInt32.toNat_one]
    exact Nat.pos_of_mul_pos_right (hpos.trans_le hcovers)
  · exact UInt32.le_iff_toNat_le.mpr (hleast.2 hle)
  · -- one second less would not cover the span
    by_contra hfar
    have hfewer : d ≤ .ofSecs ((linkSecs d).toNat - 1) := by
      rw [Span.le_ofSecs_iff, Span.nanosPerSecond]
      rw [Span.nanosPerSecond] at hfar
      omega
    have := hleast.2 hfewer
    rw [Span.nanosPerSecond] at hcovers
    omega

theorem linkSecs_mono (h : d ≤ d') (hle : d' ≤ .ofSecs 604800) : linkSecs d ≤ linkSecs d' := by
  have hd : d ≤ .ofSecs 604800 := Nat.le_trans h hle
  have hcovers : d' ≤ .ofSecs (linkSecs d').toNat := (isLeast_linkSecs hle).1
  exact UInt32.le_iff_toNat_le.mpr ((isLeast_linkSecs hd).2 (Nat.le_trans h hcovers))

/-! ## Requests -/

section link

variable {β : Type} [Backend β] {s : Store} {key : String}

/-- The bucket finds no fault with a link but that it cannot sign it. -/
def OnlySigns (b : β) : Prop :=
  ∀ use object n e, (Backend.answer (.presign use object n) b).1 = .error e →
    ∃ cause, e = .signing object cause

theorem onlySigns_memory (b : Bucket) : OnlySigns b := by
  intro use object n e h
  rw [Bucket.answer_presign, Bucket.presign] at h
  cases hlink : memoryLink b.name use object n <;> rw [hlink] at h <;> cases h
  exact ⟨_, rfl⟩

theorem onlySigns_remote (b : RemoteBucket) : OnlySigns b := by
  intro use object n e h
  change ((b.site.link b.stamp object n).mapError ClientFault.message).mapError (.signing object) =
    .error e at h
  cases hlink : b.site.link b.stamp object n <;> rw [hlink] at h <;> cases h
  exact ⟨_, rfl⟩

theorem link_of_root (h : Key.join s.scope key = "") (use : LinkUse) (d : Span) (b : β) :
    s.link use key d b = (.error (.badKey key), b) := by
  have hkey : s.objectKey key = .error (.badKey key) := if_pos h
  rw [link, hkey]

theorem link_of_not_admits (h : Key.join s.scope key ≠ "") (hd : ¬ Admits d) (use : LinkUse) (b : β) :
    s.link use key d b = (.error (.badExpiry d), b) := by
  have hkey : s.objectKey key = .ok (Key.join s.scope key) := if_neg h
  have hspan : expirySecs d = .error (.badExpiry d) := if_pos (by rwa [admits_iff, not_not] at hd)
  rw [link, hkey, hspan]

theorem link_of_admits (h : Key.join s.scope key ≠ "") (hd : Admits d) (use : LinkUse) (b : β) :
    s.link use key d b =
      Backend.answer (.presign use (Key.join s.scope key) (linkSecs d).toNat) b := by
  have hkey : s.objectKey key = .ok (Key.join s.scope key) := if_neg h
  have hspan : expirySecs d = .ok (linkSecs d).toNat := if_neg (admits_iff.mp hd)
  rw [link, hkey, hspan]

end link

/-- **Requests for links are checked exactly, and their time is rounded up.** A request is refused for
its key, and else for its time, before the bucket is asked; any other is one call, for the object that
the key means and the least whole seconds that cover the span. -/
theorem links_checked_and_rounded (s : Store) (use : LinkUse) (key : String) (secs : UInt64)
    (nanos : UInt32) (hnanos : nanos < 1000000000) :
    let d := Span.ofParts secs.toNat nanos.toNat
    let object := Key.join s.scope key
    let refusesTime := d.nanos = 0 ∨ .ofSecs 604800 < d
    (∀ {β : Type} [Backend β] (b : Recorded β),
      let served := s.link use key d b
      (served.1 = .error (.badKey key) ∧ served.2.calls = b.calls ↔ object = "") ∧
      (served.1 = .error (.badExpiry d) ∧ served.2.calls = b.calls ↔ object ≠ "" ∧ refusesTime) ∧
      (object ≠ "" → ¬ refusesTime →
        served = Backend.answer (.presign use object (linkSecs d).toNat) b ∧
        served.2.calls = b.calls ++ [.presign use object (linkSecs d).toNat])) ∧
    ((∀ b : Bucket, OnlySigns b) ∧ (∀ b : RemoteBucket, OnlySigns b) ∧
      ∀ {β : Type} [Backend β] (b : β), OnlySigns b →
        ((s.link use key d b).1 = .error (.badKey key) ↔ object = "") ∧
        ((s.link use key d b).1 = .error (.badExpiry d) ↔ object ≠ "" ∧ refusesTime)) ∧
    (¬ refusesTime → d.secs = secs ∧ d.subsecNanos = nanos ∧ Rounded d ∧
      ∀ d', d ≤ d' → d' ≤ .ofSecs 604800 → linkSecs d ≤ linkSecs d') := by
  intro d object refusesTime
  have hrefuses : ¬ Admits d ↔ refusesTime := not_admits_iff
  refine ⟨fun b => ?_, ⟨onlySigns_memory, onlySigns_remote, fun b hb => ?_⟩, fun htime => ?_⟩
  · dsimp only
    by_cases hroot : object = ""
    · rw [link_of_root hroot]
      exact ⟨iff_of_true ⟨rfl, rfl⟩ hroot, iff_of_false nofun fun h => h.1 hroot,
        fun h => absurd hroot h⟩
    by_cases htime : refusesTime
    · rw [link_of_not_admits hroot (hrefuses.mpr htime)]
      exact ⟨iff_of_false nofun hroot, iff_of_true ⟨rfl, rfl⟩ ⟨hroot, htime⟩,
        fun _ h => absurd htime h⟩
    · -- the call is on record, whatever the bucket replies
      have hadmits : Admits d := not_not.mp fun h => htime (hrefuses.mp h)
      rw [link_of_admits hroot hadmits, Recorded.calls_answer]
      have hcalled : ∀ c : Call, b.calls ++ [c] ≠ b.calls := fun c => by simp
      exact ⟨iff_of_false (fun h => hcalled _ h.2) hroot,
        iff_of_false (fun h => hcalled _ h.2) fun h => htime h.2, fun _ _ => ⟨rfl, rfl⟩⟩
  · by_cases hroot : object = ""
    · rw [link_of_root hroot]
      exact ⟨iff_of_true rfl hroot, iff_of_false nofun fun h => h.1 hroot⟩
    by_cases htime : refusesTime
    · rw [link_of_not_admits hroot (hrefuses.mpr htime)]
      exact ⟨iff_of_false nofun hroot, iff_of_true rfl ⟨hroot, htime⟩⟩
    · have hadmits : Admits d := not_not.mp fun h => htime (hrefuses.mp h)
      rw [link_of_admits hroot hadmits]
      refine ⟨iff_of_false (fun h => ?_) hroot, iff_of_false (fun h => ?_) fun h => htime h.2⟩
      · obtain ⟨cause, he⟩ := hb _ _ _ _ h
        cases he
      · obtain ⟨cause, he⟩ := hb _ _ _ _ h
        cases he
  · have hadmits : Admits d := not_not.mp fun h => htime (hrefuses.mp h)
    exact ⟨Span.secs_ofParts hnanos, Span.subsecNanos_ofParts hnanos, rounded hadmits,
      fun d' h hle => linkSecs_mono h hle⟩

/-- One nanosecond beyond a second less than seven days: the link holds for seven days. -/
theorem links_checked_and_rounded_seven_days :
    let s := Store.new "ci" ""
    let d := Span.ofParts 604799 1
    (1 : UInt32) < 1000000000 ∧ Key.join s.scope "job/1" = "ci/job/1" ∧
      (s.link .download "job/1" d (Recorded.start (Bucket.new "logs"))).2.calls =
        [.presign .download "ci/job/1" 604800] ∧
      IsLeast {n : Nat | d ≤ .ofSecs n} 604800 := by
  intro s d
  have hobject : Key.join s.scope "job/1" = "ci/job/1" := by decide +kernel
  have hsecs : (linkSecs d).toNat = 604800 := by decide +kernel
  have htime : ¬ (d.nanos = 0 ∨ .ofSecs 604800 < d) := by decide +kernel
  obtain ⟨hserved, -, hrounded⟩ :=
    links_checked_and_rounded s .download "job/1" 604799 1 (by decide)
  obtain ⟨-, hcalls⟩ := (hserved (Recorded.start (Bucket.new "logs"))).2.2 (by
    rw [hobject]
    decide) htime
  obtain ⟨-, -, hrounded, -⟩ := hrounded htime
  rw [hobject] at hcalls
  change _ = [] ++ [Call.presign .download "ci/job/1" (linkSecs d).toNat] at hcalls
  have hleast : IsLeast {n : Nat | d ≤ .ofSecs n} (linkSecs d).toNat := hrounded.least
  rw [hsecs] at hcalls hleast
  exact ⟨by decide, hobject, hcalls, hleast⟩

end Store

end BlobStore
