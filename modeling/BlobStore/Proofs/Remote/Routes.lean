import Mathlib
import BlobStore.Proofs.Remote.Addresses
import BlobStore.Proofs.Remote.Traffic
import BlobStore.Proofs.Store.Failures

/-!
# All ways to an object

A store behind an endpoint reaches the object of a key in many ways: downloads, deletions, the calls
of an upload, and links. All calls that an operation makes are for its object (`isFor_of_talks`), and
what is for an object is sent to its address (`asked_of_plays`), so they all share one path, and no
other object has it (`one_path_for_each_object`). A bucket whose name holds a question mark is the
exception: the mark ends the path, and what follows it, the key included, is no part of it.
-/

namespace BlobStore

open Backend (Plays)

/-! ## Calls for one object -/

/-- The call is for this object and for no other. -/
def Call.IsFor (object : String) : Call → Prop
  | .get key | .put key .. | .create key _ | .part key .. | .complete key .. | .abort key _
  | .delete key | .presign _ key _ => key = object
  | .list .. | .check => False

namespace RemoteBucket

variable {b b' : RemoteBucket} {object : String}

/-- The bucket comes from the other by requests for the object alone. -/
def Asked (b : RemoteBucket) (object : String) (b' : RemoteBucket) : Prop :=
  ∃ ts, b' = b.after ts ∧ ∀ x ∈ ts, b.site.Addresses object x.1

theorem Asked.refl (b : RemoteBucket) (object : String) : b.Asked object b :=
  ⟨[], rfl, List.forall_mem_nil _⟩

theorem Asked.trans {b₁ b₂ b₃ : RemoteBucket} (h : b₁.Asked object b₂) (h' : b₂.Asked object b₃) :
    b₁.Asked object b₃ := by
  obtain ⟨ts, rfl, hts⟩ := h
  obtain ⟨us, rfl, hus⟩ := h'
  exact ⟨ts ++ us, after_after .., List.forall_mem_append.mpr ⟨hts, hus⟩⟩

theorem Asked.exists_paths (hsite : b.site.NamesByPath) (h : b.Asked object b') :
    ∃ ts, b' = b.after ts ∧ ∀ x ∈ ts, x.1.url.path = Site.objectPath b.site.bucket object := by
  obtain ⟨ts, hafter, hts⟩ := h
  refine ⟨ts, hafter, fun x hx => ?_⟩
  obtain ⟨query, hquery, hurl⟩ := hts x hx
  exact Site.path_objectUrl hsite hquery hurl

theorem addresses_of_request {a : Ask} {query : Option String} {r : Request}
    (htarget : a.target? = some (object, query)) (h : b.request? a = some r) :
    b.site.Addresses object r := by
  obtain ⟨u, hu, rfl, -⟩ := request?_eq_some.mp h
  rw [address_eq htarget] at hu
  refine ⟨_, ?_, by rwa [url_requestFor]⟩
  cases query with
  | none => exact .inl rfl
  | some q => exact .inr ⟨_, rfl⟩

theorem addresses_of_sends {a : Ask} {query : Option String} {xs : List Sending} {reply : a.Reply}
    (htarget : a.target? = some (object, query)) (h : Sends b.request? a xs reply) :
    ∀ x ∈ xs, b.site.Addresses object x.request := by
  cases h with
  | unwritten => exact List.forall_mem_nil _
  | sent _ x hrequest => exact List.forall_mem_singleton.mpr (addresses_of_request htarget hrequest)
  | refused data key number upload contentType x hrequest r hr hrefused ys gaveUp hys =>
    refine List.forall_mem_cons.mpr ⟨addresses_of_request htarget hrequest, ?_⟩
    obtain ⟨rfl, -⟩ := Prod.mk.inj (Option.some.inj htarget)
    obtain ⟨-, rfl, -⟩ | ⟨y, hy, rfl, -⟩ := hys.cases_of_not_isPart not_false
    · exact List.forall_mem_nil _
    · exact List.forall_mem_singleton.mpr (addresses_of_request (a := .giveUp key upload) rfl hy)

theorem asked_ask (b : RemoteBucket) {a : Ask} {query : Option String}
    (htarget : a.target? = some (object, query)) : b.Asked object (Gateway.ask a b).2 := by
  obtain ⟨ts, hafter, hsends⟩ := sent_ask b a
  refine ⟨ts, hafter, fun x hx => ?_⟩
  exact addresses_of_sends htarget hsends _ (List.mem_map_of_mem hx)

theorem exists_target {c : Call} (h : c.IsFor object) :
    ∀ a ∈ c.ask?, ∃ query, a.target? = some (object, query) := by
  cases c with
  | presign => exact nofun
  | list | check => exact h.elim
  | _ => obtain rfl := h; simp [Call.ask?, Ask.target?]

/-- **What is for an object is sent to its address.** -/
theorem asked_answer {c : Call} (h : c.IsFor object) (b : RemoteBucket) :
    b.Asked object (Backend.answer c b).2 := by
  rw [snd_answer]
  cases hask : c.ask? with
  | none => exact .refl b object
  | some a =>
    obtain ⟨query, htarget⟩ := exists_target h a hask
    exact asked_ask b htarget

theorem asked_of_plays {es : List Exchange} (hes : ∀ e ∈ es, e.1.IsFor object) (h : Plays b es b') :
    b.Asked object b' := by
  induction es generalizing b with
  | nil =>
    obtain rfl := h
    exact .refl b object
  | cons e es ih =>
    obtain ⟨he, hrest⟩ := List.forall_mem_cons.mp hes
    exact (asked_answer he b).trans (ih hrest h.2)

end RemoteBucket

/-! ## Operations for one blob -/

/-- The operation is for the blob of this key. -/
def Operation.IsFor (key : String) : Operation → Prop
  | upload k _ | download k | delete k | link _ k _ => k = key
  | _ => False

namespace Store

variable {s : Store} {key object : String}

theorem isFor_of_uploads {c : Call} (h : c.Uploads object) : c.IsFor object := by
  cases c <;> first | exact h | exact h.elim

theorem isFor_of_talks {r : Operation} (hr : r.IsFor key) (hobject : s.objectKey key = .ok object)
    {es : List Exchange} {a : r.Response} (h : s.Talks r es a) : ∀ e ∈ es, e.1.IsFor object := by
  cases r with
  | upload k source =>
    obtain rfl := hr
    intro e he
    obtain ⟨object', hobject', huploads⟩ := (talks_surfaces h).calls e he
    obtain rfl := Except.ok.inj (hobject.symm.trans hobject')
    exact isFor_of_uploads huploads
  | download k =>
    obtain rfl := hr
    simp only [Talks, hobject] at h
    rw [h]
    exact List.forall_mem_singleton.mpr rfl
  | delete k =>
    obtain rfl := hr
    simp only [Talks, hobject] at h
    rw [h]
    exact List.forall_mem_singleton.mpr rfl
  | link use k span =>
    obtain rfl := hr
    cases hsecs : expirySecs span with
    | error e =>
      simp only [Talks, hobject, hsecs] at h
      rw [h.1]
      exact List.forall_mem_nil _
    | ok secs =>
      simp only [Talks, hobject, hsecs] at h
      rw [h]
      exact List.forall_mem_singleton.mpr rfl
  | contains k => exact hr.elim
  | purge k => exact hr.elim
  | list stem limit => exact hr.elim
  | ping => exact hr.elim

end Store

/-! ## Sites of settings -/

/-- The endpoint is a scheme with a host behind it, and perhaps a port, and nothing else. -/
def S3Settings.NamesHost (s : S3Settings) : Prop := ∃ scheme ∈ S3Settings.schemes, ∃ authority,
  Url.IsAuthority authority ∧ s.endpoint.toList = scheme ++ ("://".toList ++ authority)

theorem RemoteBucket.site_of_connect {s : S3Settings} {endpoint : Endpoint} {stamp : Stamp}
    {b : RemoteBucket} (h : RemoteBucket.connect s endpoint stamp = .ok b)
    (hstyle : s.pathStyle = true) (hendpoint : s.NamesHost) :
    b.site.NamesByPath ∧ b.site.bucket = s.bucket ∧ s.bucket ≠ "" := by
  obtain ⟨scheme, hscheme, authority, hauthority, htext⟩ := hendpoint
  have hsplit : ∀ text, S3Settings.splitScheme (scheme ++ ("://".toList ++ text)) =
      some (scheme, text) := by
    simp only [S3Settings.schemes, List.mem_cons, List.not_mem_nil, or_false] at hscheme
    obtain rfl | rfl := hscheme <;> exact fun text => rfl
  have hurl : s.endpointUrl.toList = scheme ++ ("://".toList ++ authority) := by
    have hne : s.endpoint ≠ "" := by
      intro hempty
      rw [hempty] at htext
      have hnil : authority = [] := (List.append_eq_nil_iff.mp (List.append_eq_nil_iff.mp htext.symm).2).2
      exact hauthority.nonempty hnil
    rw [S3Settings.endpointUrl, if_neg hne, htext, hsplit, ← List.append_assoc,
      Url.trimEnd_slash hauthority _]
    simp
  have hsite : Site.splitEndpoint s.endpointUrl.toList =
      (if scheme = "http".toList then .http else .https, authority) := by
    rw [Site.splitEndpoint, hurl, hsplit]
  cases hcheck : s.check with
  | error fault =>
    rw [connect, Site.ofSettings, hcheck] at h
    cases h
  | ok _ =>
    rw [connect, Site.ofSettings, hcheck, hsite] at h
    obtain rfl := Except.ok.inj h
    have hbucket : s.bucket ≠ "" := by
      intro hempty
      rw [S3Settings.check, hempty, if_pos (by decide)] at hcheck
      cases hcheck
    refine ⟨⟨?_, hstyle, hauthority⟩, rfl, hbucket⟩
    dsimp only
    split <;> rfl

namespace Store

/-- All ways to the blob of a key lead over one path. -/
structure OnePath (s : Store) (b : RemoteBucket) (key : String) (path : List Char) : Prop where
  /-- All requests of an operation have it. -/
  requests : ∀ r : Operation, r.IsFor key → ∀ a b', s.Serves b r a b' →
    ∃ ts, b' = b.after ts ∧ ∀ x ∈ ts, x.1.url.path = path
  /-- So have those that are made when an upload is given up where it stands. -/
  dropped : ∀ u : Upload, s.objectKey key = .ok u.key → ∀ abortable,
    ∃ ts, u.drop abortable b = b.after ts ∧ ∀ x ∈ ts, x.1.url.path = path
  /-- Links have it, if the name of the bucket starts no fragment. -/
  links : '#' ∉ b.site.bucket.toList → ∀ use span text b',
    s.Serves b (.link use key span) (.ok text) b' → Site.linkPath text.toList = path

theorem onePath_of_objectKey {s : Store} {b : RemoteBucket} (h : b.site.NamesByPath)
    {key object : String} (hobject : s.objectKey key = .ok object) :
    s.OnePath b key (Site.objectPath b.site.bucket object) where
  requests r hr a b' hserves := by
    obtain ⟨es, htalks, hplays⟩ := serves_iff.mp hserves
    have hasked := RemoteBucket.asked_of_plays (isFor_of_talks hr hobject htalks) hplays
    exact hasked.exists_paths h
  dropped u hu abortable := by
    obtain rfl := Except.ok.inj (hobject.symm.trans hu)
    have hasked : b.Asked u.key (u.drop abortable b) := by
      unfold Upload.drop
      split
      · split
        · next id _ _ =>
          have habort : (Call.abort u.key id).IsFor u.key := rfl
          exact RemoteBucket.asked_answer habort b
        · exact .refl b u.key
      · exact .refl b u.key
    exact hasked.exists_paths h
  links hfragment use span text b' hserves := by
    simp only [Serves, link, hobject] at hserves
    cases hsecs : expirySecs span with
    | error e =>
      rw [hsecs] at hserves
      cases hserves
    | ok secs =>
      rw [hsecs] at hserves
      have hpresign : (Backend.answer (.presign use object secs) b).1 = .ok text :=
        congrArg Prod.fst hserves
      exact Site.linkPath_link h hfragment (RemoteBucket.presign_eq_ok.mp hpresign)

/-- **One path for each object.** Settings that name a bucket by path, behind a plain host, give every
blob one path, and read off it is the bucket with the object behind it. Two blobs share a path only
if they are the same object, unless the name of the bucket ends the path. -/
theorem one_path_for_each_object {s : S3Settings} {endpoint : Endpoint} {stamp : Stamp}
    {b : RemoteBucket} (hconnect : RemoteBucket.connect s endpoint stamp = .ok b)
    (hstyle : s.pathStyle = true) (hendpoint : s.NamesHost) :
    (∀ key, Key.join s.scope key ≠ "" →
      (Store.new s.scope s.acl).OnePath b key (Site.objectPath s.bucket (Key.join s.scope key)) ∧
      ((∀ c ∈ s.bucket.toList, c ∉ "./\\?#%\t\n\r".toList) →
        Url.decode (Site.objectPath s.bucket (Key.join s.scope key)) =
          Text.bytes ("/" ++ s.bucket ++ "/" ++ Key.join s.scope key))) ∧
    ('?' ∉ s.bucket.toList → '#' ∉ s.bucket.toList → ∀ key key', Key.join s.scope key ≠ "" →
      Key.join s.scope key' ≠ "" →
        (Site.objectPath s.bucket (Key.join s.scope key) =
          Site.objectPath s.bucket (Key.join s.scope key') ↔
            Key.join s.scope key = Key.join s.scope key')) := by
  obtain ⟨hsite, hbucket, hne⟩ := RemoteBucket.site_of_connect hconnect hstyle hendpoint
  have hnames : ∀ key, Key.join s.scope key ≠ "" →
      ∀ name ∈ Key.split (Key.join s.scope key).toList, Key.isName name = true :=
    fun key hkey => (Key.isNormal_iff.mp (Key.isNormal_join s.scope key)).resolve_left hkey
  refine ⟨fun key hkey => ⟨?_, fun hplain => ?_⟩, fun hquery hfragment key key' hkey hkey' => ?_⟩
  · have hobject : (Store.new s.scope s.acl).objectKey key = .ok (Key.join s.scope key) := if_neg hkey
    rw [← hbucket]
    exact onePath_of_objectKey hsite hobject
  · exact Site.decode_objectPath hne hplain (hnames key hkey)
  · exact Site.objectPath_inj hquery hfragment (hnames key hkey) (hnames key' hkey')

/-- Settings of a bucket behind a port of this machine. -/
def localSettings (bucket port scope : String) : S3Settings :=
  { S3Settings.ofBucket bucket with
    scope
    endpoint := "http://[::1]:" ++ port
    accessKey := "minio"
    secretKey := "minio123"
    pathStyle := true }

/-- The bucket of these settings, at an endpoint that nobody listens at. -/
def localBucket (bucket port : String) : RemoteBucket :=
  ⟨⟨.http, ("[::1]:" ++ port).toList, bucket, "us-east-1", true, some ⟨"minio", "minio123", none⟩⟩,
    .closed, default⟩

theorem namesHost_local (bucket scope : String) {port : String}
    (hport : port.toList.all Url.isInside = true) :
    (localSettings bucket port scope).NamesHost := by
  have hhost : ∀ c ∈ "[::1]:".toList, Url.isInside c = true := List.all_eq_true.mp (by decide)
  have htext : (localSettings bucket port scope).endpoint.toList =
      "http".toList ++ ("://".toList ++ ("[::1]:".toList ++ port.toList)) := String.toList_append
  refine ⟨"http".toList, by decide, "[::1]:".toList ++ port.toList, ⟨by simp, ?_⟩, htext⟩
  exact List.forall_mem_append.mpr ⟨hhost, List.all_eq_true.mp hport⟩

theorem connect_local {bucket port scope : String}
    (h : Site.ofSettings (localSettings bucket port scope) = .ok (localBucket bucket port).site) :
    RemoteBucket.connect (localSettings bucket port scope) .closed default =
      .ok (localBucket bucket port) := by
  rw [RemoteBucket.connect, h]
  rfl

/-- The paths of the requests for a download. -/
def downloadPaths (b : RemoteBucket) (scope key : String) : List String :=
  ((Store.new scope "").download key b).2.endpoint.log.map fun x => .ofList x.1.url.path

theorem one_path_for_each_object_escaped_key :
    RemoteBucket.connect (localSettings "logs" "9000" "ci") .closed default =
      .ok (localBucket "logs" "9000") ∧
    (localSettings "logs" "9000" "ci").NamesHost ∧
    Key.join "ci" "a/../b%2e?" = "ci/b%2e?" ∧
    (Store.new "ci" "").OnePath (localBucket "logs" "9000") "a/../b%2e?" "/logs/ci/b%252e%3F".toList ∧
    downloadPaths (localBucket "logs" "9000") "ci" "a/../b%2e?" = ["/logs/ci/b%252e%3F"] ∧
    Url.decode "/logs/ci/b%252e%3F".toList = Text.bytes "/logs/ci/b%2e?" ∧
    Site.objectPath "logs" "ci/b." ≠ "/logs/ci/b%252e%3F".toList := by
  have hconnect : RemoteBucket.connect (localSettings "logs" "9000" "ci") .closed default =
      .ok (localBucket "logs" "9000") := connect_local (by decide +kernel)
  have hhost : (localSettings "logs" "9000" "ci").NamesHost := namesHost_local _ _ (by decide)
  have hkey : Key.join "ci" "a/../b%2e?" = "ci/b%2e?" := by decide +kernel
  have hpath : Site.objectPath "logs" "ci/b%2e?" = "/logs/ci/b%252e%3F".toList := by decide +kernel
  obtain ⟨hall, hiff⟩ := one_path_for_each_object hconnect rfl hhost
  obtain ⟨hone, hdecode⟩ := hall "a/../b%2e?" (by decide +kernel)
  have hother := hiff (by decide +kernel) (by decide +kernel) "b." "a/../b%2e?" (by decide +kernel)
    (by decide +kernel)
  have hnext : Key.join "ci" "b." = "ci/b." := by decide +kernel
  have hplain : ∀ c ∈ "logs".toList, c ∉ "./\\?#%\t\n\r".toList := by
    intro c hc
    have hcases : c = 'l' ∨ c = 'o' ∨ c = 'g' ∨ c = 's' := by simpa using hc
    rcases hcases with rfl | rfl | rfl | rfl <;> decide
  have hscope : (localSettings "logs" "9000" "ci").scope = "ci" := rfl
  have hbucket : (localSettings "logs" "9000" "ci").bucket = "logs" := rfl
  rw [hscope, hbucket, hkey, hpath] at hone hdecode
  rw [hscope, hbucket, hkey, hnext, hpath] at hother
  refine ⟨hconnect, hhost, hkey, hone, by decide +kernel, hdecode hplain, ?_⟩
  rw [ne_eq, hother]
  decide

/-- A name that ends the path: the bucket with a question mark has one path for all its objects, and
the one with a fragment has links of another path than its requests. -/
theorem marked_bucket_shares_path :
    (localSettings "a?b" "9000" "").NamesHost ∧
    RemoteBucket.connect (localSettings "a?b" "9000" "") .closed default =
      .ok (localBucket "a?b" "9000") ∧
    Key.join "" "x" ≠ "" ∧ Key.join "" "y" ≠ "" ∧ Key.join "" "x" ≠ Key.join "" "y" ∧
    downloadPaths (localBucket "a?b" "9000") "" "x" = ["/a"] ∧
    downloadPaths (localBucket "a?b" "9000") "" "y" = ["/a"] ∧
    (localSettings "a#b" "80" "").NamesHost ∧
    RemoteBucket.connect (localSettings "a#b" "80" "") .closed default = .ok (localBucket "a#b" "80") ∧
    downloadPaths (localBucket "a#b" "80") "" "x" = ["/a"] ∧
    ∃ text, (Store.new "" "").Serves (localBucket "a#b" "80") (.link .download "x" (.ofSecs 60))
        (.ok text) (localBucket "a#b" "80") ∧
      Site.linkPath text.toList = "/a&X-Amz-Signature=".toList := by
  refine ⟨namesHost_local _ _ (by decide), connect_local (by decide +kernel), by decide +kernel,
    by decide +kernel, by decide +kernel, by decide +kernel, by decide +kernel,
    namesHost_local _ _ (by decide), connect_local (by decide +kernel), by decide +kernel, ?_⟩
  have hlink : ((localBucket "a#b" "80").site.link default "x" 60).toOption.map
      (fun text => Site.linkPath text.toList) = some "/a&X-Amz-Signature=".toList := by decide +kernel
  have hobject : (Store.new "" "").objectKey "x" = .ok "x" := by decide +kernel
  have hsecs : expirySecs (.ofSecs 60) = .ok 60 := by decide +kernel
  cases hlinked : (localBucket "a#b" "80").site.link default "x" 60 with
  | error fault =>
    rw [hlinked] at hlink
    cases hlink
  | ok text =>
    rw [hlinked] at hlink
    refine ⟨text, ?_, Option.some.inj hlink⟩
    have hpresign : (Backend.answer (.presign .download "x" 60) (localBucket "a#b" "80")).1 = .ok text :=
      RemoteBucket.presign_eq_ok.mpr hlinked
    simp only [Serves, link, hobject, hsecs]
    exact congrArg (·, localBucket "a#b" "80") hpresign

end Store

end BlobStore
