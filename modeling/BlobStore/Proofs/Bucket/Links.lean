import Mathlib
import BlobStore.Bucket.Memory
import BlobStore.Proofs.Url.Plain
import BlobStore.Store

/-!
# Links into a bucket in memory and the objects they name

A link is the address of the bucket with the key set as its path, and the key is not escaped before
that. So the path of a link is read as its object if the key is spelled in a way that the rules of
paths leave alone, and only then (`links_name_objects_iff`).
-/

namespace BlobStore

open Url (IsFront IsSpelled plainPath)

/-- The path in the text of a link: what is behind scheme, user, host and port, up to the mark of a
query or a fragment. -/
def linkPath (link : String) : List Char :=
  ((link.toList.drop "memory://".length).dropWhile fun c => !Url.endsAuthority false c).takeWhile
    fun c => c ≠ '?' && c ≠ '#'

theorem linkPath_eq {front path : List Char} (hfront : IsFront front) (hpath : Url.IsPathText path)
    (rest : List Char) :
    linkPath (.ofList ("memory://".toList ++ (front ++ (path ++ '?' :: rest)))) = path := by
  have hdrop : ∀ text : List Char,
      ("memory://".toList ++ text).drop "memory://".length = text := fun text => rfl
  have hskip : ∀ c ∈ front, (!Url.endsAuthority false c) = true := fun c hc => by
    rw [hfront c hc]
    rfl
  have hstop : (path ++ '?' :: rest).dropWhile (fun c => !Url.endsAuthority false c) =
      path ++ '?' :: rest := by
    rcases hpath.starts with rfl | ⟨inner, rfl⟩
    · exact List.dropWhile_cons_of_neg (by decide)
    · exact List.dropWhile_cons_of_neg (by decide)
  have hinside : ∀ c ∈ path, (c ≠ '?' && c ≠ '#') = true := by
    intro c hc
    simpa using hpath.inside c hc
  rw [linkPath, String.toList_ofList, hdrop, List.dropWhile_append_of_pos hskip, hstop,
    List.takeWhile_append_of_pos hinside, List.takeWhile_cons_of_neg (by decide), List.append_nil]

theorem addField_eq (u : Url) (name value : List Char) :
    ∃ query, u.addField name value = { u with query := some query } := by
  unfold Url.addField
  dsimp only
  split <;> exact ⟨_, rfl⟩

/-- **The path of a link is that of its key**, whatever the bucket is called. -/
theorem exists_memoryLink_eq {name : String} {base : Url}
    (h : Url.parse linkScheme (name.toList ++ ['/']) = .ok base) (use : LinkUse) (key : String)
    (secs : Nat) :
    ∃ link, memoryLink name use key secs = .ok link ∧ linkPath link = plainPath key.toList := by
  obtain ⟨hscheme, hfront⟩ := Url.isFront_of_parse h
  refine ⟨_, by simp only [memoryLink, h]; rfl, ?_⟩
  have hweb : base.scheme.isWeb = false := by rw [hscheme]; rfl
  rw [Url.setPath_eq hweb]
  obtain ⟨query, hmethod⟩ := addField_eq { base with path := plainPath key.toList }
    "X-Amz-Method".toList use.method.toList
  rw [hmethod]
  obtain ⟨query', hexpires⟩ := addField_eq
    { base with path := plainPath key.toList, query := some query } "X-Amz-Expires".toList
    (Text.digits 10 secs)
  rw [hexpires]
  obtain ⟨rest, htail⟩ := Url.exists_tail
    (u := { base with path := plainPath key.toList, query := some query' }) rfl
  have horigin : Url.origin { base with path := plainPath key.toList, query := some query' } =
      "memory://".toList ++ (base.userInfo ++ base.hostPort) := by
    rw [Url.origin_eq, hscheme]
    rfl
  rw [Url.text_eq_origin_append, horigin, htail, List.append_assoc]
  exact linkPath_eq hfront (Url.isPathText_plainPath _) rest

/-! ## Links of a store -/

namespace Store

variable {s : Store} {b : Bucket} {key p : String} {span : Span} {secs : Nat} {base : Url}

theorem exists_link_eq (hname : Url.parse linkScheme (b.name.toList ++ ['/']) = .ok base)
    (hspan : expirySecs span = .ok secs) (hkey : s.objectKey key = .ok p) (use : LinkUse) :
    ∃ link, s.link use key span b = (.ok link, b) ∧ linkPath link = plainPath p.toList := by
  obtain ⟨link, hlink, hpath⟩ := exists_memoryLink_eq hname use p secs
  refine ⟨link, ?_, hpath⟩
  simp only [Store.link, hkey, hspan]
  show (b.presign use p secs, b) = _
  rw [Bucket.presign, hlink]
  rfl

theorem isName_of_objectKey (hkey : s.objectKey key = .ok p) :
    ∀ name ∈ Key.split p.toList, Key.isName name = true := by
  unfold objectKey at hkey
  split at hkey
  · cases hkey
  · next hne =>
    obtain rfl := Except.ok.inj hkey
    exact (Key.isNormal_iff.mp (Key.isNormal_join s.scope key)).resolve_left hne

/-- **Which links name their objects**: those of keys with no break and no escape in them and no mark
of a query or a fragment in front. Such keys have links of their own. -/
theorem links_name_objects_iff (hname : Url.parse linkScheme (b.name.toList ++ ['/']) = .ok base)
    (hspan : expirySecs span = .ok secs) (s : Store) (use : LinkUse) :
    (∀ key p, s.objectKey key = .ok p → ∃ link, s.link use key span b = (.ok link, b) ∧
      (Url.decode (linkPath link) = Text.bytes ("/" ++ p) ↔ IsSpelled p.toList)) ∧
    ∀ key key' p p', s.objectKey key = .ok p → s.objectKey key' = .ok p' →
      IsSpelled p.toList → IsSpelled p'.toList →
        s.link use key span b = s.link use key' span b → p = p' := by
  have hbytes : ∀ p : String, Text.bytes ("/" ++ p) = 47 :: p.toList.flatMap String.utf8EncodeChar := by
    intro p
    rw [Text.bytes_eq, String.toList_append]
    rfl
  refine ⟨fun key p hkey => ?_, fun key key' p p' hkey hkey' hspelled hspelled' hsame => ?_⟩
  · obtain ⟨link, hlink, hpath⟩ := exists_link_eq hname hspan hkey use
    refine ⟨link, hlink, ?_⟩
    rw [hpath, hbytes]
    exact Url.decode_plainPath_iff (isName_of_objectKey hkey)
  · obtain ⟨link, hlink, hpath⟩ := exists_link_eq hname hspan hkey use
    obtain ⟨link', hlink', hpath'⟩ := exists_link_eq hname hspan hkey' use
    rw [hlink, hlink', Prod.mk.injEq, Except.ok.injEq] at hsame
    have hread := Url.decode_plainPath (isName_of_objectKey hkey) hspelled
    have hread' := Url.decode_plainPath (isName_of_objectKey hkey') hspelled'
    rw [← hpath, hsame.1, hpath', hread'] at hread
    exact String.toList_injective (Url.flatMap_utf8EncodeChar_injective (List.cons.inj hread).2).symm

/-- A key with spaces, a slash and letters that are escaped, and one with a percent sign that starts no
escape. -/
theorem links_name_objects_iff_spelled :
    let s := Store.new "ci" ""
    let b := Bucket.new "logs"
    ∃ base, Url.parse linkScheme (b.name.toList ++ ['/']) = .ok base ∧
      expirySecs (.ofSecs 600) = .ok 600 ∧ s.objectKey "job/50% ä" = .ok "ci/job/50% ä" ∧
      ∃ link, s.link .download "job/50% ä" (.ofSecs 600) b = (.ok link, b) ∧
        Url.decode (linkPath link) = Text.bytes "/ci/job/50% ä" := by
  intro s b
  have hok : (Url.parse linkScheme (b.name.toList ++ ['/'])).isOk = true := by decide +kernel
  cases hname : Url.parse linkScheme (b.name.toList ++ ['/']) with
  | error fault =>
    rw [hname] at hok
    cases hok
  | ok base =>
    have hspan : expirySecs (.ofSecs 600) = .ok 600 := by decide +kernel
    have hkey : s.objectKey "job/50% ä" = .ok "ci/job/50% ä" := by decide +kernel
    have hspelled : IsSpelled "ci/job/50% ä".toList :=
      ⟨by simp, by decide +kernel, Url.not_hasEscape_of_le (by decide +kernel)⟩
    obtain ⟨link, hlink, hiff⟩ := (links_name_objects_iff hname hspan s .download).1 _ _ hkey
    exact ⟨base, rfl, hspan, hkey, link, hlink, hiff.mpr hspelled⟩

/-- The link of one object is that of another: dots are resolved though they are escaped in the key. -/
theorem escaped_dots_share_link :
    let s := Store.new "ci" ""
    let b := Bucket.new "logs"
    s.objectKey "job/%2e%2e/x" = .ok "ci/job/%2e%2e/x" ∧ s.objectKey "x" = .ok "ci/x" ∧
      ∃ link, (s.link .download "job/%2e%2e/x" (.ofSecs 600) b).1 = .ok link ∧
        (s.link .download "x" (.ofSecs 600) b).1 = .ok link ∧
        Url.decode (linkPath link) = Text.bytes "/ci/x" := by
  intro s b
  exact ⟨by decide +kernel, by decide +kernel,
    "memory://logs/ci/x?X-Amz-Method=GET&X-Amz-Expires=600", by decide +kernel, by decide +kernel,
    by decide +kernel⟩

end Store

end BlobStore
