import Mathlib
import BlobStore.Proofs.Key.Join
import BlobStore.Proofs.Remote.Traffic
import BlobStore.Proofs.Url.Authority

/-!
# Addresses of objects

If the bucket is the first name of the path, then the path of an object's address depends on the
bucket and the object alone (`Site.objectPath`): not on the host, and not on the query behind it
(`path_objectUrl`). It is kept in the text of a link (`linkPath_link`). Objects of one bucket have
paths of their own unless the name of the bucket ends the path (`objectPath_inj`), and unless it has
characters that mean something in a path it is read off as it stands (`decode_objectPath`).
-/

namespace BlobStore

open Url (IsAuthority IsPath readPath dropBreaks)

namespace Site

/-- The path of the address of an object. -/
def objectPath (bucket object : String) : List Char :=
  (readPath true (dropBreaks ('/' :: (bucket.toList ++ pathOfKey object)))).1

/-- The bucket is named by the path, behind a host that parts nothing. -/
structure NamesByPath (site : Site) : Prop where
  web : site.scheme.isWeb = true
  pathStyle : site.pathStyle = true
  host : IsAuthority site.host

/-- A query with its mark, or none. -/
def IsQuery (query : List Char) : Prop := query = [] ∨ ∃ text, query = '?' :: text

/-- The request is for the object: its address is that of the object with some query. -/
def Addresses (site : Site) (object : String) (request : Request) : Prop :=
  ∃ query, IsQuery query ∧ site.objectUrl object query = .ok request.url

variable {site : Site} {object : String}

theorem ne_mark_of_mem_pathOfKey {c : Char} (hc : c ∈ pathOfKey object) : c ≠ '?' ∧ c ≠ '#' := by
  have hescaped : ∀ text : List Char, ∀ c ∈ Url.encode Url.inSignedPath text, c ≠ '?' ∧ c ≠ '#' := by
    intro text
    refine Url.forall_mem_encode (fun c _ hc => ?_) (by decide) (by decide)
    constructor <;> rintro rfl <;> cases hc
  obtain rfl | hc := List.mem_cons.mp hc
  · decide
  · exact hescaped _ c hc

theorem exists_readAs (h : site.NamesByPath) {query : List Char} (hquery : IsQuery query) {u : Url}
    (hu : site.objectUrl object query = .ok u) : ∃ left, IsQuery left ∧ (query = [] → left = []) ∧
      Url.ReadAs site.scheme (readPath true
        (dropBreaks ('/' :: (site.bucket.toList ++ pathOfKey object)) ++ left)) u := by
  have htext : site.base ++ pathOfKey object ++ query =
      site.host ++ '/' :: (site.bucket.toList ++ pathOfKey object ++ query) := by
    rw [base, fullHost, if_pos h.pathStyle, if_pos h.pathStyle]
    simp
  have hlast : ∀ c ∈ (site.bucket.toList ++ pathOfKey object).getLast?, decide (c ≤ ' ') = false := by
    intro c hc
    rw [List.getLast?_append_of_ne_nil _ (show pathOfKey object ≠ [] from List.cons_ne_nil _ _)] at hc
    exact decide_eq_false (not_le_space_of_mem_pathOfKey (List.mem_of_getLast? hc))
  rw [objectUrl, htext] at hu
  have hread := Url.parse_authority h.web h.host hu
  rw [Url.dropBreaks_slash]
  obtain rfl | ⟨text, rfl⟩ := hquery
  · refine ⟨[], .inl rfl, fun _ => rfl, ?_⟩
    rwa [List.append_nil, Url.readableQuery, Text.trimEnd_of_getLast hlast,
      ← List.append_nil ('/' :: dropBreaks _)] at hread
  · refine ⟨'?' :: Url.readableQuery text, .inr ⟨_, rfl⟩, (absurd · (List.cons_ne_nil _ _)), ?_⟩
    rwa [Url.readableQuery_append, ← List.cons_append] at hread

/-- **The path of an address is that of its object**, whatever the query. -/
theorem path_objectUrl (h : site.NamesByPath) {query : List Char} (hquery : IsQuery query) {u : Url}
    (hu : site.objectUrl object query = .ok u) : u.path = objectPath site.bucket object := by
  obtain ⟨left, hleft, -, hread⟩ := exists_readAs h hquery hu
  rw [hread.path_eq, objectPath]
  obtain rfl | ⟨text, rfl⟩ := hleft
  · rw [List.append_nil]
  · rw [Url.readPath_append, Url.behind]

/-! ## Paths and objects -/

/-- The folders that the name of a bucket stands for in a path. -/
def bucketFolders (bucket : String) : List (List Char) :=
  (Url.segmentsOf (dropBreaks bucket.toList)).foldl Url.enter []

theorem pathOfKey_eq (hobject : ∀ name ∈ Key.split object.toList, Key.isName name = true) :
    pathOfKey object = '/' :: Url.encode Url.inSignedPath object.toList := by
  rw [pathOfKey]
  split
  · next rest heq =>
    rw [heq, Key.split_slash] at hobject
    exact absurd (hobject [] List.mem_cons_self) (by decide)
  · rfl

theorem objectPath_eq {bucket : String} (hquery : '?' ∉ bucket.toList) (hfragment : '#' ∉ bucket.toList)
    (hobject : ∀ name ∈ Key.split object.toList, Key.isName name = true) :
    objectPath bucket object = '/' :: (Url.folderText (bucketFolders bucket) ++
      Url.encode Url.inSignedPath object.toList) := by
  have hbreaks : dropBreaks ('/' :: (bucket.toList ++ pathOfKey object)) =
      '/' :: (dropBreaks bucket.toList ++ pathOfKey object) := by
    have hkey : dropBreaks (pathOfKey object) = pathOfKey object :=
      Url.dropBreaks_of_forall fun c hc => not_le_space_of_mem_pathOfKey hc
    rw [← List.cons_append, Url.dropBreaks_append, hkey]
    rfl
  have hmarks : ∀ c ∈ dropBreaks bucket.toList ++ pathOfKey object, c ≠ '?' ∧ c ≠ '#' := by
    refine List.forall_mem_append.mpr ⟨fun c hc => ?_, fun c => ne_mark_of_mem_pathOfKey⟩
    have hmem := List.mem_of_mem_filter hc
    constructor <;> rintro rfl
    · exact hquery hmem
    · exact hfragment hmem
  rw [objectPath, hbreaks, Url.readPath_slash hmarks, pathOfKey_eq hobject,
    Url.pathOf_append_encode (by decide) (fun c hc => (Url.inSignedPath_cases hc).2) hobject, bucketFolders]

/-- **Objects have paths of their own**, if the name of the bucket does not end the path. -/
theorem objectPath_inj {bucket object' : String} (hquery : '?' ∉ bucket.toList)
    (hfragment : '#' ∉ bucket.toList)
    (hobject : ∀ name ∈ Key.split object.toList, Key.isName name = true)
    (hobject' : ∀ name ∈ Key.split object'.toList, Key.isName name = true) :
    objectPath bucket object = objectPath bucket object' ↔ object = object' := by
  have hinjective : Function.Injective (Url.encode Url.inSignedPath) := Url.encode_injective (by decide)
  rw [objectPath_eq hquery hfragment hobject, objectPath_eq hquery hfragment hobject',
    List.cons_inj_right, List.append_cancel_left_eq, hinjective.eq_iff, String.toList_inj]

theorem bucketFolders_eq {bucket : String} (hne : bucket ≠ "")
    (hbucket : ∀ c ∈ bucket.toList, c ∉ "./\\?#%\t\n\r".toList) :
    bucketFolders bucket = [Url.encode Url.inPath bucket.toList] := by
  have hnot : ∀ d ∈ "./\\?#%\t\n\r".toList, d ∉ bucket.toList := fun d hd hmem => hbucket d hmem hd
  have hbreaks : dropBreaks bucket.toList = bucket.toList := by
    refine List.filter_eq_self.mpr fun c hc => ?_
    have hcases : c ≠ '\t' ∧ c ≠ '\n' ∧ c ≠ '\r' := by
      refine ⟨?_, ?_, ?_⟩ <;> rintro rfl <;> exact hnot _ (by decide) hc
    simp [hcases]
  have hname : Key.isName bucket.toList = true := by
    have hdot : '.' ∉ bucket.toList := hnot '.' (by decide)
    have hempty : bucket.toList ≠ [] := fun h => hne (String.toList_eq_nil_iff.mp h)
    have hidle : bucket.toList ≠ ['.'] := fun h => hdot (by rw [h]; decide)
    have hclimb : bucket.toList ≠ ['.', '.'] := fun h => hdot (by rw [h]; decide)
    simp [Key.isName, Key.isIdle, Key.isClimb, hempty, hidle, hclimb]
  have hplain : Url.Plain (Url.encode Url.inPath bucket.toList) := by
    refine Url.plain_encode (fun c hc _ => ?_) hname
    rintro rfl
    exact hnot '%' (by decide) hc
  have hsegments : Url.segmentsOf bucket.toList = [Url.encode Url.inPath bucket.toList] := by
    rw [Url.segmentsOf, Url.slashed_of_not_mem (hnot '\\' (by decide)), Key.split,
      Text.pieces_of_not_mem (hnot '/' (by decide)), List.map_singleton]
  rw [bucketFolders, hbreaks, hsegments, List.foldl_cons, Url.enter_of_plain hplain, List.foldl_nil,
    List.nil_append]

/-- **The path is read off as bucket and object**, if the name of the bucket is one segment with
nothing in it that means anything in a path. -/
theorem decode_objectPath {bucket : String} (hne : bucket ≠ "")
    (hbucket : ∀ c ∈ bucket.toList, c ∉ "./\\?#%\t\n\r".toList)
    (hobject : ∀ name ∈ Key.split object.toList, Key.isName name = true) :
    Url.decode (objectPath bucket object) = Text.bytes ("/" ++ bucket ++ "/" ++ object) := by
  have hnot : ∀ d ∈ "./\\?#%\t\n\r".toList, d ∉ bucket.toList := fun d hd hmem => hbucket d hmem hd
  have hmark : ∀ c ∈ bucket.toList, Url.inPath c = true → c ≠ '%' := by
    rintro c hc - rfl
    exact hnot '%' (by decide) hc
  have hsigned : ∀ c ∈ object.toList, Url.inSignedPath c = true → c ≠ '%' :=
    fun c _ hkept => (Url.inSignedPath_cases hkept).2.2.2
  have hslash : ∀ rest, Url.decode ('/' :: rest) = String.utf8EncodeChar '/' ++ Url.decode rest :=
    Url.decode_cons (by decide)
  have hfolder : ∀ name : List Char, Url.folderText [name] = name ++ ['/'] := fun name => by
    simp [Url.folderText]
  rw [objectPath_eq (hnot '?' (by decide)) (hnot '#' (by decide)) hobject,
    bucketFolders_eq hne hbucket, hfolder, List.append_assoc, List.singleton_append, hslash,
    Url.decode_encode_append hmark, hslash, Url.decode_encode hsigned, Text.bytes_eq]
  simp

/-! ## Links -/

/-- The path in the text of a link: behind the scheme, from the first slash on, up to the mark of a
query or a fragment. -/
def linkPath (text : List Char) : List Char :=
  let behindScheme := ((S3Settings.splitScheme text).map (·.2)).getD []
  (behindScheme.dropWhile (· ≠ '/')).takeWhile fun c => c ≠ '?' && c ≠ '#'

theorem linkPath_eq {scheme : Scheme} (hweb : scheme.isWeb = true) {authority : List Char}
    (h : IsAuthority authority) {path : List Char} (hpath : IsPath path) (rest : List Char) :
    linkPath (scheme.name.toList ++ ("://".toList ++ (authority ++ (path ++ '?' :: rest)))) = path := by
  have hscheme : ∀ text, S3Settings.splitScheme (scheme.name.toList ++ ("://".toList ++ text)) =
      some (scheme.name.toList, text) := by
    cases scheme with
    | http => exact fun text => rfl
    | https => exact fun text => rfl
    | plain name => cases hweb
  have hauthority : ∀ c ∈ authority, decide (c ≠ '/') = true := by
    intro c hc
    refine decide_eq_true ?_
    rintro rfl
    exact absurd (h.inside _ hc) (by decide)
  obtain ⟨segments, hne, hsettled, rfl⟩ := id hpath
  have hmarks : ∀ c ∈ '/' :: Key.glue segments, (c ≠ '?' && c ≠ '#') = true := by
    intro c hc
    have hkept := Url.inPath_of_isPath hpath c hc
    have hcases : c ≠ '?' ∧ c ≠ '#' := by constructor <;> rintro rfl <;> cases hkept
    simp [hcases]
  simp only [linkPath, hscheme, Option.map_some, Option.getD_some]
  rw [List.dropWhile_append_of_pos hauthority, List.cons_append,
    List.dropWhile_cons_of_neg (by decide), ← List.cons_append, List.takeWhile_append_of_pos hmarks,
    List.takeWhile_cons_of_neg (by decide), List.append_nil]

theorem isPath_objectPath (bucket object : String) : IsPath (objectPath bucket object) := by
  rw [objectPath, Url.dropBreaks_slash]
  exact Url.isPath_readPath_slash _

theorem link_eq_ok {stamp : Stamp} {secs : Nat} {text : String}
    (h : site.link stamp object secs = .ok text) : ∃ keys u u',
      site.objectUrl object [] = .ok u ∧
      Url.parse site.scheme (u.text.drop (site.scheme.name.length + 3) ++
        site.linkQuery keys stamp secs) = .ok u' ∧
      text.toList = site.linkText u' ++ "&X-Amz-Signature=".toList ++ stamp.signature.toList := by
  cases hkeys : site.keys with
  | none =>
    simp only [link, hkeys] at h
    split at h <;> cases h
  | some keys =>
    simp only [link, hkeys] at h
    split at h
    · cases h
    · simp only [RemoteBucket.bind_eq_ok, RemoteBucket.mapError_eq_ok] at h
      obtain ⟨_, hpure, u, hu, u', hu', _, -, _, -, htext⟩ := h
      obtain rfl := Except.ok.inj hpure
      obtain rfl := Except.ok.inj htext
      exact ⟨_, u, u', hu, hu', String.toList_ofList⟩

theorem exists_text_objectUrl (h : site.NamesByPath) (hfragment : '#' ∉ site.bucket.toList) {u : Url}
    (hu : site.objectUrl object [] = .ok u) : ∃ authority left, IsAuthority authority ∧ IsQuery left ∧
      u.text = site.scheme.name.toList ++ ("://".toList ++
        (authority ++ (objectPath site.bucket object ++ left))) := by
  obtain ⟨left, -, hnil, hread⟩ := exists_readAs h (.inl rfl) hu
  obtain rfl := hnil rfl
  have hnone : u.fragment = none := by
    rw [hread.fragment_eq]
    refine Url.readQuery_of_not_mem fun hmem => ?_
    rw [List.append_nil] at hmem
    have hbehind := List.mem_of_mem_filter ((List.drop_sublist _ _).subset hmem)
    obtain hslash | hbehind := List.mem_cons.mp hbehind
    · cases hslash
    · obtain hbucket | hkey := List.mem_append.mp hbehind
      · exact hfragment hbucket
      · exact (ne_mark_of_mem_pathOfKey hkey).2 rfl
  have hleft : IsQuery u.tail := by
    rw [Url.tail, hnone, List.append_nil]
    cases u.query with
    | none => exact .inl rfl
    | some query => exact .inr ⟨query, rfl⟩
  refine ⟨u.hostPort, u.tail, Url.isAuthority_hostPort hread.host, hleft, ?_⟩
  rw [Url.text_eq hread.noUser, hread.scheme_eq, path_objectUrl h (.inl rfl) hu]

/-- **A link has the path of its object**, unless the name of the bucket starts a fragment. -/
theorem linkPath_link (h : site.NamesByPath) (hfragment : '#' ∉ site.bucket.toList) {stamp : Stamp}
    {secs : Nat} {text : String} (hlink : site.link stamp object secs = .ok text) :
    linkPath text.toList = objectPath site.bucket object := by
  obtain ⟨keys, u, u', hu, hu', htext⟩ := link_eq_ok hlink
  obtain ⟨authority, left, hauthority, hleft, hobject⟩ := exists_text_objectUrl h hfragment hu
  have hpath := isPath_objectPath site.bucket object
  have hdrop : u.text.drop (site.scheme.name.length + 3) =
      authority ++ (objectPath site.bucket object ++ left) := by
    rw [hobject, ← List.append_assoc]
    refine List.drop_left' ?_
    rw [List.length_append, String.length_toList]
    rfl
  obtain ⟨query, hquery⟩ : ∃ query, left ++ site.linkQuery keys stamp secs = '?' :: query := by
    obtain rfl | ⟨text, rfl⟩ := hleft
    · exact ⟨_, rfl⟩
    · exact ⟨_, rfl⟩
  rw [hdrop, List.append_assoc, List.append_assoc, hquery] at hu'
  obtain ⟨hscheme, hnoUser, hhost, hpath', hsome⟩ := Url.parse_isPath h.web hauthority hpath hu'
  obtain ⟨query', hquery'⟩ := Option.isSome_iff_exists.mp hsome
  have hlinkText : ∃ authority rest, IsAuthority authority ∧ site.linkText u' =
      site.scheme.name.toList ++ ("://".toList ++
        (authority ++ (objectPath site.bucket object ++ '?' :: rest))) := by
    unfold linkText
    split
    · refine ⟨site.host, query', h.host, ?_⟩
      simp [hscheme, fullHost, h.pathStyle, Url.target, hpath', hquery']
    · obtain ⟨rest, hrest⟩ := Url.exists_tail hsome
      refine ⟨u'.hostPort, rest, Url.isAuthority_hostPort hhost, ?_⟩
      rw [Url.text_eq hnoUser, hscheme, hpath', hrest]
  obtain ⟨authority', rest, hauthority', hwritten⟩ := hlinkText
  have hlast : text.toList = site.scheme.name.toList ++ ("://".toList ++ (authority' ++
      (objectPath site.bucket object ++ '?' :: (rest ++ "&X-Amz-Signature=".toList ++
        stamp.signature.toList)))) := by
    rw [htext, hwritten]
    simp only [List.append_assoc, List.cons_append]
  rw [hlast]
  exact linkPath_eq h.web hauthority' hpath _

end Site

end BlobStore
