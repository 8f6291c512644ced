import Mathlib
import BlobStore.Proofs.Store.Scope

/-!
# Stores on one bucket

Stores whose roots are apart work on one bucket as if each were alone: what one of them gets does
not change when the operations of the other are taken away. The run that is left differs from the
one that was by the open uploads and the counters of the bucket (`Bucket.Similar`), which no
response shows.
-/

namespace BlobStore

open Backend (Plays)
open Bucket (Similar)
open Key (Within)

theorem Upload.Task.agree_after {root : String} {b₁ b₂ : Bucket} (t : Upload.Task)
    (h : Bucket.Agree root b₁ b₂) (hparts : b₁.failingParts = b₂.failingParts) :
    Bucket.Agree root (t.after b₁) (t.after b₂) := by
  intro k hk
  unfold after
  rw [hparts]
  split
  · split
    · exact Bucket.Agree.store h t.key ⟨t.data, t.acl⟩ k hk
    · exact h.store t.key ⟨t.data, t.acl⟩ k hk
  · split
    · exact h k hk
    · exact h k hk
  · split
    · have hwaiting : ∀ b : Bucket, (t.waitingAt b).objects = b.objects := fun b =>
        Bucket.objects_part ..
      rw [hwaiting, hwaiting]
      exact h k hk
    · exact h k hk

namespace Store

variable {β : Type} [Backend β]

/-- Stores respond like this to operations in turn, all at one backend. -/
def RunTogether : β → List (Store × Service) → β → Prop
  | b, [], b' => b = b'
  | b, e :: es, b' => ∃ m, e.1.Serves b e.2.1 e.2.2 m ∧ RunTogether m es b'

variable {s other : Store} {r : Operation} {a : r.Response} {b₁ b₁' b₂ : Bucket}

theorem exists_serves_similar (hroot : s.root ≠ "") (hr : r.Scoped) (hsweeps : ¬ r.Sweeps)
    (hflows : r.Flows) (h : Similar s.root b₁ b₂) (hserves : s.Serves b₁ r a b₁') :
    ∃ b₂', s.Serves b₂ r a b₂' ∧ Similar s.root b₁' b₂' := by
  by_cases hupload : ∃ key source, r = .upload key source
  · -- the two buckets hand out different ids, so the calls differ, and only the verdict is the same
    obtain ⟨key, source, rfl⟩ := hupload
    cases hobject : s.objectKey key with
    | error e =>
      rw [Serves, upload, hobject, Prod.mk.injEq] at hserves
      obtain ⟨rfl, rfl⟩ := hserves
      exact ⟨b₂, by rw [Serves, upload, hobject], h⟩
    | ok object =>
      have hparts : b₁.failingParts = b₂.failingParts := congrArg (·.2.1) h.switches
      have hserves₂ := upload_eq_verdict hobject hflows h.numbered.2
      rw [← hparts] at hserves₂
      obtain ⟨es₁, -, hplays₁⟩ := serves_iff.mp hserves
      have hserves₂' : s.Serves b₂ (.upload key source) _ _ := hserves₂
      obtain ⟨es₂, -, hplays₂⟩ := serves_iff.mp hserves₂'
      rw [Serves, upload_eq_verdict hobject hflows h.numbered.1, Prod.mk.injEq] at hserves
      obtain ⟨rfl, rfl⟩ := hserves
      exact ⟨_, hserves₂, h.of_agree hplays₁ hplays₂ (Upload.Task.agree_after _ h.agree hparts)⟩
  · obtain ⟨es, htalks, hplays⟩ := serves_iff.mp hserves
    have hstays := staysUnder_of_talks hroot hr hsweeps
      (fun key source heq => hupload ⟨key, source, heq⟩) htalks hplays
    obtain ⟨b₂', hplays', hsimilar⟩ := h.plays hstays hplays
    exact ⟨b₂', serves_iff.mpr ⟨es, htalks, hplays'⟩, hsimilar⟩

theorem similar_of_serves (hapart : Key.Apart s.root other.root) (hroot : other.root ≠ "")
    (hr : r.Scoped) (hsweeps : ¬ r.Sweeps) (h : Similar s.root b₁ b₂)
    (hserves : other.Serves b₁ r a b₁') : Similar s.root b₁' b₂ := by
  obtain ⟨es, htalks, hplays⟩ := serves_iff.mp hserves
  obtain ⟨-, hframe, -⟩ := confined_of_not_sweeps hroot hr hsweeps b₁ es a b₁' htalks hplays
  have hnone : Plays b₂ [] b₂ := rfl
  refine h.of_agree hplays hnone fun k hk => ?_
  rw [hframe k (hapart.not_within hk), h.agree k hk]

theorem exists_runTogether_filter {es : List (Store × Service)} (hroot : s.root ≠ "")
    (hroot' : other.root ≠ "") (hapart : Key.Apart s.root other.root)
    (hes : ∀ e ∈ es, (e.1 = s ∨ e.1 = other) ∧ e.2.1.Scoped ∧ e.2.1.Flows ∧ ¬ e.2.1.Sweeps)
    (h : Similar s.root b₁ b₂) (hrun : RunTogether b₁ es b₁') :
    ∃ b₂', RunTogether b₂ (es.filter fun e => e.1 = s) b₂' ∧ Similar s.root b₁' b₂' := by
  induction es generalizing b₁ b₂ with
  | nil => exact ⟨b₂, rfl, (show b₁ = b₁' from hrun) ▸ h⟩
  | cons e es ih =>
    obtain ⟨m, hserves, hrun⟩ := hrun
    obtain ⟨⟨hstore, hscoped, hflows, hsweeps⟩, hrest⟩ := List.forall_mem_cons.mp hes
    by_cases hs : e.1 = s
    · rw [List.filter_cons_of_pos (by simpa using hs)]
      obtain ⟨store, service⟩ := e
      obtain rfl : store = s := hs
      obtain ⟨m₂, hserves₂, hsimilar⟩ :=
        exists_serves_similar hroot hscoped hsweeps hflows h hserves
      obtain ⟨b₂', hrun₂, hsimilar'⟩ := ih hrest hsimilar hrun
      exact ⟨b₂', ⟨m₂, hserves₂, hrun₂⟩, hsimilar'⟩
    · -- the run that is left makes no step, and stays similar
      rw [List.filter_cons_of_neg (by simpa using hs)]
      rw [hstore.resolve_left hs] at hserves
      exact ih hrest (similar_of_serves hapart hroot' hscoped hsweeps h hserves) hrun

/-- **A store stays within its scope, but for operations that sweep.** With a key that never goes
back an operation names, changes and sees only what lies under the root of its store if and only if
it is not for all that starts with the root itself. And without such operations two stores whose
roots are apart do not notice each other in any run: what is left of it without the operations of
the other is a run too, with the same responses and the same objects under the root. (Which page
fails is counted over all stores, so no page is to fail here.) -/
theorem confined_iff (s : Store) (hroot : s.root ≠ "") :
    (∀ r : Operation, r.Scoped → (s.Confined r ↔ ¬ r.Sweeps)) ∧
    ∀ (other : Store) (b b' : Bucket) (es : List (Store × Service)), other.root ≠ "" →
      Key.Apart s.root other.root → b.Reachable → b.failingPage = none →
      (∀ e ∈ es, (e.1 = s ∨ e.1 = other) ∧ e.2.1.Scoped ∧ e.2.1.Flows ∧ ¬ e.2.1.Sweeps) →
      RunTogether b es b' →
      ∃ b'', RunTogether b (es.filter fun e => e.1 = s) b'' ∧
        ∀ k, Within s.root k → b''.objects.get? k = b'.objects.get? k := by
  refine ⟨fun r hr => ⟨fun hconfined hsweeps => not_confined_of_sweeps hr hsweeps hconfined,
    confined_of_not_sweeps hroot hr⟩, ?_⟩
  intro other b b' es hroot' hapart hb hpage hes hrun
  have hsame : Similar s.root b b := ⟨fun k _ => rfl, rfl, hpage, hb.numbered, hb.numbered⟩
  obtain ⟨b'', hrun', hsimilar⟩ :=
    exists_runTogether_filter hroot hroot' hapart hes hsame hrun
  exact ⟨b'', hrun', fun k hk => (hsimilar.agree k hk).symm⟩

/-- Two scopes of which one name goes on as the other begins. -/
theorem confined_iff_ci_cinema :
    (Store.new "ci" "").root ≠ "" ∧ (Store.new "ci" "").Confined (.purge "a") ∧
      ∃ b'', RunTogether (Bucket.new "logs") [(.new "ci" "", ⟨.contains "a", .ok false⟩)] b'' := by
  have hroot : (Store.new "ci" "").root ≠ "" := by decide
  have hsteady : Key.Steady "a" := by decide
  have hname : ¬ Key.Nameless "a" := by decide
  obtain ⟨hconfined, hapart⟩ := confined_iff (.new "ci" "") hroot
  refine ⟨hroot, (hconfined (.purge "a") hsteady).mpr hname, ?_⟩
  have hrun : RunTogether (Bucket.new "logs")
      [(.new "cinema" "", ⟨.purge "a", .ok ()⟩), (.new "ci" "", ⟨.contains "a", .ok false⟩)]
      (Bucket.new "logs").counted.counted :=
    ⟨_, ⟨1, rfl, rfl⟩, _, rfl, rfl⟩
  have hes : ∀ e ∈ ([(.new "cinema" "", ⟨.purge "a", .ok ()⟩),
      (.new "ci" "", ⟨.contains "a", .ok false⟩)] : List (Store × Service)),
      (e.1 = .new "ci" "" ∨ e.1 = .new "cinema" "") ∧ e.2.1.Scoped ∧ e.2.1.Flows ∧
        ¬ e.2.1.Sweeps := by
    refine List.forall_mem_cons.mpr ⟨⟨.inr rfl, hsteady, trivial, hname⟩, ?_⟩
    exact List.forall_mem_cons.mpr ⟨⟨.inl rfl, hsteady, trivial, hname⟩, List.forall_mem_nil _⟩
  obtain ⟨b'', hrun', -⟩ := hapart (.new "cinema" "") _ _ _ (by decide) (by decide)
    (.new "logs") rfl hes hrun
  exact ⟨b'', hrun'⟩

/-- A store under `ci` finds what lies under `cinema`, and deletes it. -/
theorem sweep_reaches_cinema :
    (Store.new "ci" "").root = "ci" ∧ Key.Steady "" ∧ ¬ Within "ci" "cinema/1" ∧
      (Store.new "ci" "").Serves (Bucket.new "logs") (.contains "") (.ok false)
        (Bucket.new "logs").counted ∧
      ∃ b : Bucket, b = (Bucket.new "logs").store "cinema/1" ⟨⟨#[120]⟩, none⟩ ∧
        (Store.new "ci" "").Serves b (.contains "") (.ok true) b.counted ∧
        ∃ b', (Store.new "ci" "").Serves b (.purge "") (.ok ()) b' ∧
          b'.objects.get? "cinema/1" = none := by
  refine ⟨by decide, by decide, by decide, rfl, _, rfl, rfl, _, ⟨3, rfl, rfl⟩, rfl⟩

end Store

end BlobStore
