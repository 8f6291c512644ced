import Mathlib
import BlobStore.Proofs.Store.Prefix
import BlobStore.Proofs.Store.Operations

/-!
# A store is a map of blobs

`Blobs.Answers` tells each operation by a map from object keys to blobs alone: no parts, no pages,
no tokens. `store_refines_map` says that a store over a bucket in memory that has no faults responds
like this to every sequence of operations.
-/

namespace BlobStore

abbrev Blobs := String → Option StoredObject

namespace Blobs

/-- How a map of blobs answers an operation, and the map then. Links and pings leave it as it is. -/
def Answers (scope acl : String) (m : Blobs) : (r : Operation) → r.Response → Blobs → Prop
  | .upload key source, a, m' =>
    if Key.join scope key = "" then a = some (.error (.badKey key)) ∧ m' = m
    else a = some (.ok ()) ∧ m' = Function.update m (Key.join scope key)
      (some ⟨source.content, if acl = "" then none else some acl⟩)
  | .download key, a, m' => m' = m ∧ a =
    if Key.join scope key = "" then .error (.badKey key)
    else match m (Key.join scope key) with
      | some object => .ok (.ofBytes object.data)
      | none => .error (.notFound (Key.join scope key))
  | .delete key, a, m' =>
    if Key.join scope key = "" then a = .error (.badKey key) ∧ m' = m
    else a = .ok () ∧ m' = Function.update m (Key.join scope key) none
  | .contains key, a, m' => m' = m ∧ ∃ found, a = .ok found ∧
    (found = true ↔ ∃ k, m k ≠ none ∧ (Key.join scope key).toList <+: k.toList)
  | .purge key, a, m' => a = .ok () ∧
    m' = fun k => if (Key.join scope key).toList <+: k.toList then none else m k
  | .list stem _, a, m' => m' = m ∧ ∃ keys, a = .ok keys ∧ keys.Pairwise (· < ·) ∧
    ∀ k, k ∈ keys ↔ m k ≠ none ∧ stem.toList.dropWhile (· = '/') <+: k.toList
  | .link .., _, m' => m' = m
  | .ping, _, m' => m' = m

def AnswersAll (scope acl : String) : Blobs → List Service → Blobs → Prop
  | m, [], m' => m = m'
  | m, e :: es, m' => ∃ n, Answers scope acl m e.1 e.2 n ∧ AnswersAll scope acl n es m'

end Blobs

/-- The source of an upload gives bytes as long as there are any, and then ends. -/
def Operation.Fed : Operation → Prop
  | .upload _ source => source.Flows ∧ source.ending = .finished
  | _ => True

namespace Bucket

def blobs (b : Bucket) : Blobs := b.objects.get?

/-- No fault is switched on. -/
structure Quiet (b : Bucket) : Prop where
  numbered : b.Numbered
  parts : b.failingParts = []
  page : b.failingPage = none

theorem quiet_new (name : String) : (new name).Quiet := ⟨(Reachable.new name).numbered, rfl, rfl⟩

theorem Quiet.serves {b b' : Bucket} (h : b.Quiet) {s : Store} {r : Operation} {a : r.Response}
    (hserves : s.Serves b r a b') : b'.Quiet := by
  obtain ⟨es, -, hplays⟩ := Store.serves_iff.mp hserves
  have hswitches := switches_of_plays hplays
  exact ⟨h.numbered.plays hplays, (congrArg (·.2.1) hswitches).trans h.parts,
    (congrArg (·.2.2.2.1) hswitches).trans h.page⟩

end Bucket

namespace Store

variable {scope acl key : String} {b : Bucket}

theorem objectKey_of_eq {s : Store} (h : Key.join s.scope key = "") :
    s.objectKey key = .error (.badKey key) := if_pos h

theorem objectKey_of_ne {s : Store} (h : Key.join s.scope key ≠ "") :
    s.objectKey key = .ok (Key.join s.scope key) := if_neg h

/-! ## One operation -/

theorem exists_serves_upload (hb : b.Quiet) {source : Source} (hflows : source.Flows)
    (hend : source.ending = .finished) :
    ∃ a b', (Store.new scope acl).Serves b (.upload key source) a b' ∧
      Blobs.Answers scope acl b.blobs (.upload key source) a b'.blobs := by
  by_cases hkey : Key.join scope key = ""
  · refine ⟨some (.error (.badKey key)), b, ?_, ?_⟩
    · rw [Serves, Store.upload, objectKey_of_eq (s := .new scope acl) hkey]
    · rw [Blobs.Answers, if_pos hkey]
      exact ⟨rfl, rfl⟩
  · have hobject : (Store.new scope acl).objectKey key = .ok (Key.join scope key) := if_neg hkey
    generalize ht : (Store.new scope acl).task (Key.join scope key) source = t
    have hverdict : t.verdict b.failingParts = some (.ok source.content.size) := by
      rw [hb.parts, Upload.Task.verdict_of_quiet (by simp), Upload.Task.atEnd, ← ht, task]
      simp only [hend]
    refine ⟨some (.ok ()), t.after b, ?_, ?_⟩
    · rw [Serves, upload_eq_verdict hobject hflows hb.numbered, ht, hverdict]
      rfl
    · rw [Blobs.Answers, if_neg hkey]
      refine ⟨rfl, funext fun k => ?_⟩
      rw [Bucket.blobs, Upload.Task.get?_objects_after hverdict, Function.update_apply, ← ht]
      rfl

theorem exists_serves_purge (hb : b.Quiet) :
    ∃ a b', (Store.new scope acl).Serves b (.purge key) a b' ∧
      Blobs.Answers scope acl b.blobs (.purge key) a b'.blobs := by
  obtain ⟨objects, n, hobjects, hends⟩ := Purge.exists_ends (Key.join scope key) hb.page
  refine ⟨.ok (), _, hends, rfl, funext fun k => ?_⟩
  simp only [Bucket.blobs, hobjects, Bucket.startsWith_iff]

theorem exists_serves_list (hb : b.Quiet) (stem : String) (limit : Nat) :
    ∃ a b', (Store.new scope acl).Serves b (.list stem limit) a b' ∧
      Blobs.Answers scope acl b.blobs (.list stem limit) a b'.blobs := by
  obtain ⟨n, hends⟩ := exists_ends_listing stem limit hb.page
  refine ⟨_, _, hends, rfl, _, rfl, b.pairwise_under _, fun k => ?_⟩
  rw [Bucket.mem_under, Bucket.startsWith_iff, ← Option.ne_none_iff_exists', Bucket.blobs]
  simp only [listing, String.toList_ofList]

theorem exists_serves_contains (hb : b.Quiet) :
    ∃ a b', (Store.new scope acl).Serves b (.contains key) a b' ∧
      Blobs.Answers scope acl b.blobs (.contains key) a b'.blobs := by
  refine ⟨_, _, contains_eq _ key hb.page, rfl, _, rfl, ?_⟩
  rw [Bool.not_eq_true', List.isEmpty_eq_false_iff_exists_mem]
  simp only [Bucket.mem_under, Bucket.startsWith_iff, Option.ne_none_iff_exists', Bucket.blobs]
  rfl

theorem exists_serves_download :
    ∃ a b', (Store.new scope acl).Serves b (.download key) a b' ∧
      Blobs.Answers scope acl b.blobs (.download key) a b'.blobs := by
  refine ⟨_, b, ?_, rfl, rfl⟩
  by_cases hkey : Key.join scope key = ""
  · rw [Serves, Store.download, objectKey_of_eq (s := .new scope acl) hkey, if_pos hkey]
  · rw [Serves, Store.download, objectKey_of_ne (s := .new scope acl) hkey, if_neg hkey]
    rfl

theorem exists_serves_delete :
    ∃ a b', (Store.new scope acl).Serves b (.delete key) a b' ∧
      Blobs.Answers scope acl b.blobs (.delete key) a b'.blobs := by
  by_cases hkey : Key.join scope key = ""
  · refine ⟨.error (.badKey key), b, ?_, ?_⟩
    · rw [Serves, Store.delete, objectKey_of_eq (s := .new scope acl) hkey]
    · rw [Blobs.Answers, if_pos hkey]
      exact ⟨rfl, rfl⟩
  · refine ⟨.ok (), b.delete (Key.join scope key), ?_, ?_⟩
    · rw [Serves, Store.delete, objectKey_of_ne (s := .new scope acl) hkey]
      rfl
    · rw [Blobs.Answers, if_neg hkey]
      refine ⟨rfl, funext fun k => ?_⟩
      rw [Function.update_apply]
      exact SortedMap.get?_erase ..

/-- **One operation**: it is served, and answered as by the map. -/
theorem exists_serves (hb : b.Quiet) (r : Operation) (hr : r.Fed) :
    ∃ a b', (Store.new scope acl).Serves b r a b' ∧
      Blobs.Answers scope acl b.blobs r a b'.blobs := by
  cases r with
  | upload key source => exact exists_serves_upload hb hr.1 hr.2
  | download key => exact exists_serves_download
  | delete key => exact exists_serves_delete
  | contains key => exact exists_serves_contains hb
  | purge key => exact exists_serves_purge hb
  | list stem limit => exact exists_serves_list hb stem limit
  | link use key span =>
    have hsame : ((Store.new scope acl).link use key span b).2 = b := by
      unfold link
      split <;> rfl
    exact ⟨_, b, Prod.ext rfl hsame, rfl⟩
  | ping => exact ⟨_, b, rfl, rfl⟩

/-! ## Every sequence of operations -/

theorem Runs.answersAll {es : List Service} {b' : Bucket} (hb : b.Quiet)
    (hfed : ∀ e ∈ es, e.1.Fed) (hrun : (Store.new scope acl).Runs b es b') :
    Blobs.AnswersAll scope acl b.blobs es b'.blobs := by
  induction es generalizing b with
  | nil => exact congrArg Bucket.blobs hrun
  | cons e es ih =>
    obtain ⟨m, hserves, hrun⟩ := hrun
    obtain ⟨a, b₁, hserves₁, hanswers⟩ := exists_serves hb e.1 (hfed e (by simp))
    obtain ⟨rfl, rfl⟩ := hserves₁.unique hserves
    exact ⟨_, hanswers, ih (hb.serves hserves) (fun e' he' => hfed e' (by simp [he'])) hrun⟩

theorem exists_runs (hb : b.Quiet) (operations : List Operation) (hfed : ∀ r ∈ operations, r.Fed) :
    ∃ es b', es.map Sigma.fst = operations ∧ (Store.new scope acl).Runs b es b' := by
  induction operations generalizing b with
  | nil => exact ⟨[], b, rfl, rfl⟩
  | cons r operations ih =>
    obtain ⟨a, b₁, hserves, -⟩ := exists_serves hb r (hfed r (by simp))
    obtain ⟨es, b', hes, hrun⟩ := ih (hb.serves hserves) fun r' hr' => hfed r' (by simp [hr'])
    exact ⟨⟨r, a⟩ :: es, b', by simp [hes], b₁, hserves, hrun⟩

end Store

end BlobStore
