import Mathlib
import BlobStore.Proofs.Key.Normal
import BlobStore.Proofs.Store.Refinement

/-!
# What deleting by prefix deletes

A store cleans the key that it is to delete by, and then deletes every object that begins with the
cleaned one. If the key is in normal form these are the blobs whose keys begin with it. If it breaks
off behind a slash, or amid a name that starts with dots, blobs beside them go too
(`purgesExactly_iff`).
-/

namespace BlobStore

/-- An upload under a key that is written as the store reads it, and means a blob. -/
def Operation.Fills : Operation → Prop
  | upload key _ => Key.IsNormal key ∧ key ≠ ""
  | _ => False

namespace Store

/-- Whatever was uploaded before, deleting by the key succeeds, and the blobs that are gone then are
those whose keys begin with it. -/
def PurgesExactly (s : Store) (k : String) : Prop :=
  ∀ name es b, (∀ e ∈ es, e.1.Fills) → s.Runs (Bucket.new name) es b →
    ∃ b', s.Serves b (.purge k) (.ok ()) b' ∧ ∀ l, Key.IsNormal l → l ≠ "" →
      b'.objects.get? (s.physicalKey l) =
        if k.toList <+: l.toList then none else b.objects.get? (s.physicalKey l)

variable {scope acl k : String}

theorem quiet_of_runs {s : Store} {es : List Service} {b b' : Bucket} (hb : b.Quiet)
    (hrun : s.Runs b es b') : b'.Quiet := by
  induction es generalizing b with
  | nil => exact hrun ▸ hb
  | cons e es ih =>
    obtain ⟨m, hserves, hrun⟩ := hrun
    exact ih (hb.serves hserves) hrun

theorem purgesExactly_of_isNormal (hk : Key.IsNormal k) : (Store.new scope acl).PurgesExactly k := by
  intro name es b _ hrun
  obtain ⟨_, b', hserves, rfl, hblobs⟩ :=
    @exists_serves_purge scope acl k b (quiet_of_runs (Bucket.quiet_new name) hrun)
  refine ⟨b', hserves, fun l hl hne => ?_⟩
  rw [← if_congr (Key.isPrefix_join_iff scope hk hl hne) rfl rfl]
  exact congrFun hblobs (Key.join scope l)

theorem not_purgesExactly {l : String} (hl : Key.IsNormal l) (hne : l ≠ "")
    (hbegin : ¬ k.toList <+: l.toList)
    (hreach : (Key.join scope k).toList <+: (Key.join scope l).toList) :
    ¬ (Store.new scope acl).PurgesExactly k := by
  intro hexact
  have hquiet := Bucket.quiet_new ""
  obtain ⟨a, b, hupload, hanswers⟩ := @exists_serves_upload scope acl l _ hquiet
    (.ofBytes ⟨#[120]⟩) (by decide) rfl
  rw [Blobs.Answers, if_neg (Key.join_ne_empty scope hl hne)] at hanswers
  have hstored : b.objects.get? (Key.join scope l) ≠ none := by
    rw [show b.objects.get? = _ from hanswers.2, Function.update_self]
    exact Option.some_ne_none _
  obtain ⟨b', hpurge, hkept⟩ := hexact "" [⟨.upload l (.ofBytes ⟨#[120]⟩), a⟩] b
    (List.forall_mem_singleton.mpr ⟨hl, hne⟩) ⟨b, hupload, rfl⟩
  obtain ⟨a', b'', hpurge', -, hblobs⟩ := @exists_serves_purge scope acl k b (hquiet.serves hupload)
  obtain ⟨-, rfl⟩ := hpurge.unique hpurge'
  have hgone : b'.objects.get? (Key.join scope l) = none :=
    (congrFun hblobs _).trans (if_pos hreach)
  have hsame := hkept l hl hne
  rw [if_neg hbegin] at hsame
  exact hstored (hsame.symm.trans hgone)

/-- **Deleting by prefix is exact for keys in normal form**, and for no other beginning of such a
key. -/
theorem purgesExactly_iff (scope acl : String) {k : String} (hk : Key.Leads k) :
    (Store.new scope acl).PurgesExactly k ↔ Key.IsNormal k := by
  refine ⟨fun hexact => ?_, purgesExactly_of_isNormal⟩
  by_contra hnormal
  obtain ⟨l, hl, hne, hbegin, hreach⟩ := Key.exists_of_not_isNormal hk hnormal
  exact not_purgesExactly hl hne hbegin (hreach scope) hexact

/-- Deleting by `job/1` is exact, though the name may go on: the blob `job/10` goes too. -/
theorem purgesExactly_iff_job :
    Key.Leads "job/1" ∧ (Store.new "ci" "").PurgesExactly "job/1" := by
  have hleads : Key.Leads "job/1" := ⟨"job/10", by decide, by decide⟩
  exact ⟨hleads, (purgesExactly_iff "ci" "" hleads).mpr (by decide)⟩

/-- Deleting by `job/1/` takes the blob `job/10`, whose key does not begin so. -/
theorem purge_takes_neighbour :
    Key.Leads "job/1/" ∧ ¬ "job/1/".toList <+: "job/10".toList ∧
      ¬ (Store.new "ci" "").PurgesExactly "job/1/" :=
  ⟨⟨"job/1/2", by decide, by decide⟩, by decide,
    not_purgesExactly (l := "job/10") (by decide) (by decide) (by decide) (by decide)⟩

end Store

end BlobStore
