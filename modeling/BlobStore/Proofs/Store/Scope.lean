import Mathlib
import BlobStore.Proofs.Bucket.Scope
import BlobStore.Proofs.Store.Prefix
import BlobStore.Proofs.Store.Operations

/-!
# What a store can reach

An operation is confined if it names, changes and sees nothing but what lies under the root of its
store. Operations for one object are, whatever the key, as long as it never goes back; operations by
prefix are if the key has a name. With a key without names they ask for all the objects that start
with the root, be there a slash behind it or not, and so reach into the scopes of other stores
(`confined_iff`).
-/

namespace BlobStore

open Backend (Plays)
open Client (Finishes)
open Key (Within)

/-! ## The calls of an upload -/

namespace Upload

theorem step_asks {root : String} {u : Upload} (hkey : Within root u.key) :
    (Client.step u).Asks fun c next => c.StaysUnder root ∧
      ∀ b : Bucket, Within root (next (Backend.answer c b).1).key := by
  have hkeys := key_step u
  obtain ⟨key, acl, partSize, phase, source⟩ := u
  cases phase with
  | putting data => exact ⟨hkey, fun b => hkey⟩
  | creating first => exact ⟨hkey, fun b => hkey⟩
  | sending id sent size data => exact ⟨hkey, fun b => by rwa [hkeys]⟩
  | completing id sent size => exact ⟨hkey, fun b => by rwa [hkeys]⟩
  | aborting id reason => exact ⟨hkey, fun b => hkey⟩
  | finished result => trivial
  | stalled id => trivial

end Upload

namespace Store

/-! ## The calls of a purge -/

theorem Purge.step_asks {stem : String} {p : Purge}
    (h : p.stem = stem ∧ ∀ k ∈ p.rest, Bucket.startsWith stem k = true) :
    (Client.step p).Asks fun c next =>
      (c = .list stem none pageSize ∨ ∃ k, c = .delete k ∧ Bucket.startsWith stem k = true) ∧
      ∀ b : Bucket, (next (Backend.answer c b).1).stem = stem ∧
        ∀ k ∈ (next (Backend.answer c b).1).rest, Bucket.startsWith stem k = true := by
  obtain ⟨stem, keys, ended⟩ := p
  obtain ⟨rfl, hkeys⟩ := h
  cases ended with
  | some result => trivial
  | none =>
    cases keys with
    | nil =>
      refine ⟨.inl rfl, fun b => ?_⟩
      cases hreply : (Backend.answer (.list stem none pageSize) b).1 with
      | error e => exact ⟨rfl, hkeys⟩
      | ok page =>
        dsimp only
        split
        · exact ⟨rfl, hkeys⟩
        · exact ⟨rfl, fun k hk => Bucket.startsWith_of_answer_list hreply hk⟩
    | cons key keys =>
      obtain ⟨hkey, hrest⟩ := List.forall_mem_cons.mp hkeys
      exact ⟨.inr ⟨key, rfl, hkey⟩, fun b => ⟨rfl, hrest⟩⟩

end Store

/-! ## Operations under a scope -/

/-- The operation names a key that never goes back. Listings name object keys, whatever the
scope. -/
def Operation.Scoped : Operation → Prop
  | upload key _ | download key | delete key | contains key | purge key | link _ key _ =>
    Key.Steady key
  | list .. => False
  | ping => True

/-- The operation is for all that starts with the root itself. -/
def Operation.Sweeps : Operation → Prop
  | contains key | purge key => Key.Nameless key
  | _ => False

namespace Store

variable {s : Store} {r : Operation} {es : List Exchange} {a : r.Response}

/-- The key under which all objects of the store lie. -/
def root (s : Store) : String := Key.root s.scope

theorem within_of_objectKey {key object : String} (hroot : s.root ≠ "") (hkey : Key.Steady key)
    (h : s.objectKey key = .ok object) : Within s.root object := by
  unfold objectKey at h
  split at h
  · cases h
  · obtain rfl := Except.ok.inj h
    exact Key.within_join hkey hroot

theorem within_of_startsWith {key k : String} (hroot : s.root ≠ "") (hkey : Key.Steady key)
    (hname : ¬ Key.Nameless key) (h : Bucket.startsWith (s.physicalKey key) k = true) :
    Within s.root k :=
  Key.within_of_isPrefix hkey hname hroot (Bucket.startsWith_iff.mp h)

theorem staysUnder_of_upload {key : String} {source : Source}
    {a : Option (Except StoreError Unit)} (hroot : s.root ≠ "") (hkey : Key.Steady key)
    (h : s.Talks (.upload key source) es a) {b b' : Bucket} (hplays : Plays b es b') :
    ∀ e ∈ es, e.1.StaysUnder s.root := by
  cases hobject : s.objectKey key with
  | error e =>
    simp only [Talks, hobject] at h
    rw [h.1]
    exact List.forall_mem_nil _
  | ok object =>
    simp only [Talks, hobject] at h
    obtain ⟨o, hrun, -⟩ := h
    refine hrun.forall_calls (fun u hu => Upload.step_asks hu) ?_ hplays
    rw [Upload.key_start]
    exact within_of_objectKey hroot hkey hobject

theorem staysUnder_of_talks (hroot : s.root ≠ "") (hr : r.Scoped) (hsweeps : ¬ r.Sweeps)
    (hupload : ∀ key source, r ≠ .upload key source) (h : s.Talks r es a) {b b' : Bucket}
    (hplays : Plays b es b') : ∀ e ∈ es, e.1.StaysUnder s.root ∧ e.1.IsPlain := by
  have single : ∀ {c : Call} {reply : c.Reply}, es = [⟨c, reply⟩] → c.StaysUnder s.root →
      c.IsPlain → ∀ e ∈ es, e.1.StaysUnder s.root ∧ e.1.IsPlain := by
    rintro c reply rfl hstays hplain e he
    rw [List.mem_singleton.mp he]
    exact ⟨hstays, hplain⟩
  have silent : es = [] → ∀ e ∈ es, e.1.StaysUnder s.root ∧ e.1.IsPlain := by
    rintro rfl
    exact List.forall_mem_nil _
  cases r with
  | upload key source => exact absurd rfl (hupload key source)
  | download key =>
    cases hobject : s.objectKey key with
    | error e => simp only [Talks, hobject] at h; exact silent h.1
    | ok object =>
      simp only [Talks, hobject] at h
      exact single h (within_of_objectKey hroot hr hobject) trivial
  | delete key =>
    cases hobject : s.objectKey key with
    | error e => simp only [Talks, hobject] at h; exact silent h.1
    | ok object =>
      simp only [Talks, hobject] at h
      exact single h (within_of_objectKey hroot hr hobject) trivial
  | contains key =>
    obtain ⟨reply, hes, -⟩ := h
    exact single hes ⟨Bucket.hasStem_none _, fun k hk => within_of_startsWith hroot hr hsweeps hk⟩ trivial
  | purge key =>
    have hcalls := Finishes.forall_calls (fun p hp => Purge.step_asks hp) h
      ⟨rfl, List.forall_mem_nil _⟩ hplays
    intro e he
    rcases hcalls e he with hlist | ⟨k, hdelete, hk⟩
    · rw [hlist]
      exact ⟨⟨Bucket.hasStem_none _, fun k hk => within_of_startsWith hroot hr hsweeps hk⟩, trivial⟩
    · rw [hdelete]
      exact ⟨within_of_startsWith hroot hr hsweeps hk, trivial⟩
  | list stem limit => exact hr.elim
  | link use key span =>
    cases hobject : s.objectKey key with
    | error e => simp only [Talks, hobject] at h; exact silent h.1
    | ok object =>
      cases hsecs : expirySecs span with
      | error e => simp only [Talks, hobject, hsecs] at h; exact silent h.1
      | ok secs =>
        simp only [Talks, hobject, hsecs] at h
        exact single h (within_of_objectKey hroot hr hobject) trivial
  | ping => exact single h trivial trivial

/-- The operation names, changes and sees nothing but what lies under the root, in every state of the
bucket. -/
def Confined (s : Store) (r : Operation) : Prop :=
  ∀ (b : Bucket) (es : List Exchange) (a : r.Response) (b' : Bucket),
    s.Talks r es a → Plays b es b' →
      (∀ e ∈ es, e.1.StaysUnder s.root) ∧
      (∀ k, ¬ Within s.root k → b'.objects.get? k = b.objects.get? k) ∧
      ∀ b₂, b.Alike s.root b₂ → ∃ b₂', s.Serves b₂ r a b₂' ∧ b'.Alike s.root b₂'

theorem confined_of_not_sweeps (hroot : s.root ≠ "") (hr : r.Scoped) (hsweeps : ¬ r.Sweeps) :
    s.Confined r := by
  intro b es a b' htalks hplays
  have hstays : ∀ e ∈ es, e.1.StaysUnder s.root := by
    by_cases hupload : ∃ key source, r = .upload key source
    · obtain ⟨key, source, rfl⟩ := hupload
      exact staysUnder_of_upload hroot hr htalks hplays
    · exact fun e he => (staysUnder_of_talks hroot hr hsweeps
        (fun key source heq => hupload ⟨key, source, heq⟩) htalks hplays e he).1
  refine ⟨hstays, fun k hk => Bucket.get?_objects_of_plays hstays hplays hk, fun b₂ halike => ?_⟩
  obtain ⟨b₂', hplays', halike'⟩ := halike.plays hstays hplays
  exact ⟨b₂', serves_iff.mpr ⟨es, htalks, hplays'⟩, halike'⟩

/-! ## Operations that reach outside -/

theorem exists_neighbour (root : String) :
    ∃ k, Bucket.startsWith root k = true ∧ ¬ Within root k := by
  refine ⟨root ++ "0", ?_, ?_⟩
  · rw [Bucket.startsWith_iff, String.toList_append]
    exact List.prefix_append _ _
  · -- what follows the root is no slash
    rintro (heq | hprefix)
    · have hlength := congrArg (fun k : String => k.toList.length) heq
      simp at hlength
    · rw [String.toList_append, List.prefix_append_right_inj] at hprefix
      exact absurd hprefix (by decide)

theorem exists_alike_new (root : String) : ∃ (k : String) (b : Bucket),
    Bucket.startsWith root k = true ∧ ¬ Within root k ∧ b.objects.get? k ≠ none ∧
      b.failingPage = none ∧ b.Alike root (Bucket.new "") := by
  obtain ⟨k, hstart, hk⟩ := exists_neighbour root
  refine ⟨k, (Bucket.new "").store k ⟨.empty, none⟩, hstart, hk, ?_, rfl, ⟨fun k' hk' => ?_, rfl⟩⟩
  · rw [Bucket.store, SortedMap.get?_insert_self]
    exact Option.some_ne_none _
  · have hne : k' ≠ k := fun he => hk (he ▸ hk')
    rw [Bucket.store, SortedMap.get?_insert, if_neg hne]

theorem not_confined_of_sweeps (hr : r.Scoped) (hsweeps : r.Sweeps) : ¬ s.Confined r := by
  intro hconfined
  obtain ⟨k, b, hstart, hk, hobject, hpage, halike⟩ := exists_alike_new s.root
  have hunder : ∀ {key : String}, Key.Steady key → Key.Nameless key →
      s.physicalKey key = s.root := fun hkey hname => Key.join_of_nameless hkey hname
  cases r with
  | contains key =>
    -- the object is seen: there is none in a bucket that differs only outside
    have hserves : s.Serves b (.contains key) (.ok true) b.counted := by
      have hmem : k ∈ b.under (s.physicalKey key) := by
        rw [hunder hr hsweeps]
        exact Bucket.mem_under.mpr ⟨Option.ne_none_iff_exists'.mp hobject, hstart⟩
      rw [Serves, contains_eq s key hpage, List.isEmpty_eq_false_iff_exists_mem.mpr ⟨k, hmem⟩]
      rfl
    obtain ⟨es, htalks, hplays⟩ := serves_iff.mp hserves
    obtain ⟨-, -, hblind⟩ := hconfined b es _ _ htalks hplays
    obtain ⟨b₂', hserves₂, -⟩ := hblind _ halike
    rw [Serves, contains_eq s key (show (Bucket.new "").failingPage = none from rfl)] at hserves₂
    cases (Prod.mk.inj hserves₂).1
  | purge key =>
    -- the object is deleted
    obtain ⟨objects, n, hobjects, hends⟩ := Purge.exists_ends (s.physicalKey key) hpage
    have hserves : s.Serves b (.purge key) (.ok ()) { b with objects, listed := n } := hends
    obtain ⟨es, htalks, hplays⟩ := serves_iff.mp hserves
    obtain ⟨-, hframe, -⟩ := hconfined b es _ _ htalks hplays
    have hgone := hobjects k
    rw [hunder hr hsweeps, if_pos hstart] at hgone
    exact hobject ((hframe k hk).symm.trans hgone)
  | upload key source => exact hsweeps.elim
  | download key => exact hsweeps.elim
  | delete key => exact hsweeps.elim
  | list stem limit => exact hsweeps.elim
  | link use key span => exact hsweeps.elim
  | ping => exact hsweeps.elim

end Store

end BlobStore
