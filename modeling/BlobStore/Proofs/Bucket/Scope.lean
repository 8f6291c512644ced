import Mathlib
import BlobStore.Proofs.Bucket.Pages
import BlobStore.Proofs.Bucket.Uploads
import BlobStore.Proofs.Client
import BlobStore.Proofs.Key

/-!
# Calls that stay under a root

A call that names only keys under a root changes no object outside (`get?_objects_answer`), and the
bucket replies the same whatever lies outside. The second is said twice: for buckets that are equal
but for the objects outside (`Alike`), and for buckets whose uploads and counters differ as well
(`Similar`), where it holds of the calls that have nothing to do with uploads in parts.
-/

namespace BlobStore

open Key (Within)

/-- The call names only keys under the root. A listing names all the keys that start with its stem. -/
def Call.StaysUnder (root : String) : Call → Prop
  | get key | put key _ _ | create key _ | part key _ _ _ | complete key _ _ | abort key _
  | delete key | presign _ key _ => Within root key
  | list stem token _ => Bucket.HasStem stem token ∧
    ∀ k, Bucket.startsWith stem k = true → Within root k
  | check => True

/-- The call has nothing to do with uploads in parts. -/
def Call.IsPlain : Call → Prop
  | create .. | part .. | complete .. | abort .. => False
  | _ => True

namespace Bucket

variable {root key : String} {b b₁ b₂ : Bucket}

/-! ## What calls change -/

theorem objects_dropUpload (b : Bucket) (upload : String) :
    (b.dropUpload upload).objects = b.objects := by
  unfold dropUpload
  split <;> rfl

theorem objects_part (b : Bucket) (key upload : String) (number : Nat) (data : ByteArray) :
    (b.part key upload number data).2.objects = b.objects := by
  unfold part
  split
  · split
    · exact b.objects_dropUpload upload
    · rfl
  · split
    · split <;> rfl
    · rfl

theorem objects_abort (b : Bucket) (upload : String) : (b.abort upload).2.objects = b.objects := by
  unfold abort
  split
  · exact b.objects_dropUpload upload
  · rfl

theorem get?_objects_complete (b : Bucket) (upload : String) (parts : List CompletedPart)
    {k : String} (hk : k ≠ key) :
    (b.complete key upload parts).2.objects.get? k = b.objects.get? k := by
  unfold complete
  split
  · rfl
  · dsimp only
    split
    · split
      · rfl
      · exact (SortedMap.get?_insert ..).trans (if_neg hk)
    · rfl

/-- **Outside nothing changes** by a call that stays under the root. -/
theorem get?_objects_answer {c : Call} (hc : c.StaysUnder root) (b : Bucket) {k : String}
    (hk : ¬ Within root k) : (Backend.answer c b).2.objects.get? k = b.objects.get? k := by
  have hne : ∀ {key : String}, Within root key → k ≠ key := fun hkey he => hk (he ▸ hkey)
  cases c with
  | put key data acl => exact (SortedMap.get?_insert ..).trans (if_neg (hne hc))
  | delete key => exact (SortedMap.get?_erase ..).trans (if_neg (hne hc))
  | complete key upload parts => exact b.get?_objects_complete upload parts (hne hc)
  | part key upload number data => exact congrArg (·.get? k) (b.objects_part key upload number data)
  | abort key upload => exact congrArg (·.get? k) (b.objects_abort upload)
  | list stem token max =>
    rw [snd_answer_list]
    rfl
  | get key => rfl
  | create key acl => rfl
  | presign use key secs => rfl
  | check => rfl

theorem answer_presign (use : LinkUse) (key : String) (secs : Nat) (b : Bucket) :
    Backend.answer (.presign use key secs) b = (b.presign use key secs, b) := rfl

/-! ## Buckets that agree under a root -/

/-- The same objects lie under the root. -/
def Agree (root : String) (b₁ b₂ : Bucket) : Prop :=
  ∀ k, Within root k → b₁.objects.get? k = b₂.objects.get? k

theorem Agree.store (h : Agree root b₁ b₂) (key : String) (object : StoredObject) :
    Agree root (b₁.store key object) (b₂.store key object) := by
  intro k hk
  rw [Bucket.store, Bucket.store, SortedMap.get?_insert, SortedMap.get?_insert, h k hk]

theorem Agree.delete (h : Agree root b₁ b₂) (key : String) :
    Agree root (b₁.delete key) (b₂.delete key) := by
  intro k hk
  rw [Bucket.delete, Bucket.delete, SortedMap.get?_erase, SortedMap.get?_erase, h k hk]

theorem Agree.get (h : Agree root b₁ b₂) (hkey : Within root key) : b₁.get key = b₂.get key := by
  rw [Bucket.get, Bucket.get, h key hkey]

theorem eq_of_pairwise_of_mem_iff {l l' : List String} (h : l.Pairwise (· < ·))
    (h' : l'.Pairwise (· < ·)) (hmem : ∀ k, k ∈ l ↔ k ∈ l') : l = l' := by
  have hperm : l.Perm l' :=
    (List.perm_ext_iff_of_nodup (h.imp ne_of_lt) (h'.imp ne_of_lt)).mpr hmem
  exact hperm.eq_of_pairwise (fun a b _ _ hab hba => absurd hba (lt_asymm hab)) h h'

theorem Agree.page (h : Agree root b₁ b₂) {stem : String} {token : Option String}
    (htoken : HasStem stem token) (hstem : ∀ k, startsWith stem k = true → Within root k)
    (max : Nat) : b₁.page stem token max = b₂.page stem token max := by
  have hmatching : b₁.matching stem token = b₂.matching stem token := by
    refine eq_of_pairwise_of_mem_iff (pairwise_matching htoken) (pairwise_matching htoken) fun k => ?_
    rw [mem_matching htoken, mem_matching htoken, mem_under, mem_under]
    by_cases hk : startsWith stem k = true
    · rw [h k (hstem k hk)]
    · simp [hk]
  rw [Bucket.page, Bucket.page, hmatching]

/-! ## Equal but for what lies outside -/

/-- The buckets are equal but for the objects that do not lie under the root. -/
structure Alike (root : String) (b₁ b₂ : Bucket) : Prop where
  agree : Agree root b₁ b₂
  rest : b₂ = { b₁ with objects := b₂.objects }

theorem dropUpload_with_objects (b : Bucket) (upload : String)
    (objects : SortedMap String StoredObject) :
    ({ b with objects } : Bucket).dropUpload upload = { b.dropUpload upload with objects } := by
  unfold dropUpload
  dsimp only
  split <;> rfl

theorem part_with_objects (b : Bucket) (key upload : String) (number : Nat) (data : ByteArray)
    (objects : SortedMap String StoredObject) :
    ({ b with objects } : Bucket).part key upload number data =
      ((b.part key upload number data).1, { (b.part key upload number data).2 with objects }) := by
  unfold part
  rw [dropUpload_with_objects]
  dsimp only
  split
  · split <;> rfl
  · split
    · split <;> rfl
    · rfl

theorem abort_with_objects (b : Bucket) (upload : String)
    (objects : SortedMap String StoredObject) :
    ({ b with objects } : Bucket).abort upload =
      ((b.abort upload).1, { (b.abort upload).2 with objects }) := by
  unfold abort
  rw [dropUpload_with_objects]
  dsimp only
  split <;> rfl

theorem Alike.complete (h : Alike root b₁ b₂) (key upload : String) (parts : List CompletedPart) :
    (b₁.complete key upload parts).1 = (b₂.complete key upload parts).1 ∧
      Alike root (b₁.complete key upload parts).2 (b₂.complete key upload parts).2 := by
  obtain ⟨hagree, hrest⟩ := h
  generalize b₂.objects = objects at hrest
  subst hrest
  unfold Bucket.complete
  dsimp only
  cases b₁.pending.get? upload with
  | none => exact ⟨rfl, hagree, rfl⟩
  | some entry =>
    dsimp only
    by_cases hkey : entry.key = key
    · rw [if_pos hkey, if_pos hkey]
      cases joinParts entry.parts 0 .empty parts with
      | error e => exact ⟨rfl, hagree, rfl⟩
      | ok data => exact ⟨rfl, Agree.store hagree key ⟨data, entry.acl⟩, rfl⟩
    · rw [if_neg hkey, if_neg hkey]
      exact ⟨rfl, hagree, rfl⟩

/-- **What lies outside plays no part** in a call that stays under the root. -/
theorem Alike.answer {c : Call} (hc : c.StaysUnder root) (h : Alike root b₁ b₂) :
    (Backend.answer c b₁).1 = (Backend.answer c b₂).1 ∧
      Alike root (Backend.answer c b₁).2 (Backend.answer c b₂).2 := by
  have hall := h
  obtain ⟨hagree, hrest⟩ := h
  generalize b₂.objects = objects at hrest
  subst hrest
  cases c with
  | get key => exact ⟨hagree.get hc, hall⟩
  | put key data acl => exact ⟨rfl, hagree.store key ⟨data, acl⟩, rfl⟩
  | delete key => exact ⟨rfl, hagree.delete key, rfl⟩
  | create key acl => exact ⟨rfl, hagree, rfl⟩
  | part key upload number data =>
    have hpart := b₁.part_with_objects key upload number data objects
    have hobjects := b₁.objects_part key upload number data
    refine ⟨(congrArg Prod.fst hpart).symm, ?_⟩
    rw [show (Backend.answer (.part key upload number data) ({ b₁ with objects } : Bucket)).2 = _
      from congrArg Prod.snd hpart]
    exact ⟨fun k hk => (congrArg (·.get? k) hobjects).trans (hagree k hk), rfl⟩
  | complete key upload parts => exact hall.complete key upload parts
  | abort key upload =>
    have habort := b₁.abort_with_objects upload objects
    have hobjects := b₁.objects_abort upload
    refine ⟨(congrArg Prod.fst habort).symm, ?_⟩
    rw [show (Backend.answer (.abort key upload) ({ b₁ with objects } : Bucket)).2 = _
      from congrArg Prod.snd habort]
    exact ⟨fun k hk => (congrArg (·.get? k) hobjects).trans (hagree k hk), rfl⟩
  | list stem token max =>
    have hpage := hagree.page hc.1 hc.2 max
    show (b₁.list stem token max).1 = (({ b₁ with objects } : Bucket).list stem token max).1 ∧
      Alike root (b₁.list stem token max).2 (({ b₁ with objects } : Bucket).list stem token max).2
    unfold list
    dsimp only
    split
    · exact ⟨rfl, hagree, rfl⟩
    · exact ⟨congrArg Except.ok hpage, hagree, rfl⟩
  | presign use key secs => exact ⟨rfl, hall⟩
  | check => exact ⟨rfl, hall⟩

theorem Alike.plays (h : Alike root b₁ b₂) {es : List Exchange}
    (hes : ∀ e ∈ es, e.1.StaysUnder root) {b₁' : Bucket} (hplays : Backend.Plays b₁ es b₁') :
    ∃ b₂', Backend.Plays b₂ es b₂' ∧ Alike root b₁' b₂' := by
  induction es generalizing b₁ b₂ with
  | nil => exact ⟨b₂, rfl, hplays ▸ h⟩
  | cons e es ih =>
    obtain ⟨hreply, halike⟩ := h.answer (hes e (by simp))
    obtain ⟨b₂', hplays', hb₂'⟩ := ih halike (fun e' he' => hes e' (by simp [he'])) hplays.2
    exact ⟨b₂', ⟨hreply.symm.trans hplays.1, hplays'⟩, hb₂'⟩

theorem get?_objects_of_plays {es : List Exchange} (hes : ∀ e ∈ es, e.1.StaysUnder root)
    {b' : Bucket} (hplays : Backend.Plays b es b') {k : String} (hk : ¬ Within root k) :
    b'.objects.get? k = b.objects.get? k := by
  induction es generalizing b with
  | nil => rw [show b = b' from hplays]
  | cons e es ih =>
    rw [ih (fun e' he' => hes e' (by simp [he'])) hplays.2,
      get?_objects_answer (hes e (by simp)) b hk]

/-! ## Equal but for what lies outside and for uploads in parts -/

/-- The buckets have the same name, the same objects under the root and the same faults, among which
there is no page. Their open uploads and counters may differ. -/
structure Similar (root : String) (b₁ b₂ : Bucket) : Prop where
  agree : Agree root b₁ b₂
  switches : b₁.switches = b₂.switches
  page : b₁.failingPage = none
  numbered : b₁.Numbered ∧ b₂.Numbered

theorem Similar.of_agree (h : Similar root b₁ b₂) {es₁ es₂ : List Exchange} {b₁' b₂' : Bucket}
    (h₁ : Backend.Plays b₁ es₁ b₁') (h₂ : Backend.Plays b₂ es₂ b₂') (hagree : Agree root b₁' b₂') :
    Similar root b₁' b₂' where
  agree := hagree
  switches := by rw [switches_of_plays h₁, switches_of_plays h₂, h.switches]
  page := (congrArg (·.2.2.2.1) (switches_of_plays h₁)).trans h.page
  numbered := ⟨h.numbered.1.plays h₁, h.numbered.2.plays h₂⟩

theorem Similar.answer {c : Call} (hc : c.StaysUnder root) (hplain : c.IsPlain)
    (h : Similar root b₁ b₂) :
    (Backend.answer c b₁).1 = (Backend.answer c b₂).1 ∧
      Similar root (Backend.answer c b₁).2 (Backend.answer c b₂).2 := by
  have hplays : ∀ b : Bucket,
      Backend.Plays b [⟨c, (Backend.answer c b).1⟩] (Backend.answer c b).2 := fun b => ⟨rfl, rfl⟩
  have hsame := h.of_agree (hplays b₁) (hplays b₂)
  have hname : b₁.name = b₂.name := congrArg (·.1) h.switches
  have hreachable : b₁.unreachable = b₂.unreachable := congrArg (·.2.2.2.2) h.switches
  have hpage : b₂.failingPage = none :=
    (congrArg (·.2.2.2.1) h.switches).symm.trans h.page
  cases c with
  | get key => exact ⟨h.agree.get hc, h⟩
  | put key data acl =>
    exact ⟨rfl, hsame (h.agree.store key ⟨data, acl⟩)⟩
  | delete key => exact ⟨rfl, hsame (h.agree.delete key)⟩
  | list stem token max =>
    have hagree := h.agree.page hc.1 hc.2 max
    refine ⟨?_, hsame ?_⟩
    · rw [answer_list h.page, answer_list hpage, hagree]
    · rw [answer_list h.page, answer_list hpage]
      exact h.agree
  | presign use key secs =>
    refine ⟨?_, h⟩
    rw [answer_presign, answer_presign, presign, presign, hname]
  | check =>
    refine ⟨?_, h⟩
    show b₁.check = b₂.check
    simp only [check, hname, hreachable]
  | create key acl => exact hplain.elim
  | part key upload number data => exact hplain.elim
  | complete key upload parts => exact hplain.elim
  | abort key upload => exact hplain.elim

theorem Similar.plays (h : Similar root b₁ b₂) {es : List Exchange}
    (hes : ∀ e ∈ es, e.1.StaysUnder root ∧ e.1.IsPlain) {b₁' : Bucket}
    (hplays : Backend.Plays b₁ es b₁') :
    ∃ b₂', Backend.Plays b₂ es b₂' ∧ Similar root b₁' b₂' := by
  induction es generalizing b₁ b₂ with
  | nil => exact ⟨b₂, rfl, hplays ▸ h⟩
  | cons e es ih =>
    obtain ⟨hstays, hplain⟩ := hes e (by simp)
    obtain ⟨hreply, hsimilar⟩ := h.answer hstays hplain
    obtain ⟨b₂', hplays', hb₂'⟩ := ih hsimilar (fun e' he' => hes e' (by simp [he'])) hplays.2
    exact ⟨b₂', ⟨hreply.symm.trans hplays.1, hplays'⟩, hb₂'⟩

end Bucket

end BlobStore
