import Mathlib
import BlobStore.Proofs.Text.Trim
import BlobStore.Remote.Site

/-!
# Endpoints that make an address

Settings are checked by what stands in front of the first `://` of their endpoint, and the slashes at
its end are dropped when the address is made. `usable_iff` says for which of the settings that pass
the check this comes to an address: those whose endpoint names a place, so that a character other
than a slash stands where the address goes on behind its scheme.
-/

namespace BlobStore.S3Settings

/-! ## Schemes -/

/-- The scheme of an address, with what follows it. -/
def front (secure : Bool) : List Char := if secure then "https://".toList else "http://".toList

theorem splitScheme_front (secure : Bool) (rest : List Char) :
    splitScheme (front secure ++ rest) =
      some (if secure then "https".toList else "http".toList, rest) := by
  cases secure <;> rfl

theorem eq_append_of_splitScheme {text scheme rest : List Char}
    (h : splitScheme text = some (scheme, rest)) : text = scheme ++ "://".toList ++ rest := by
  fun_induction splitScheme text generalizing scheme with
  | case1 rest =>
    obtain ⟨rfl, rfl⟩ := Prod.mk.inj (Option.some.inj h)
    rfl
  | case2 c text hne ih =>
    obtain ⟨⟨before, behind⟩, hsplit, hcons⟩ := Option.map_eq_some_iff.mp h
    obtain ⟨rfl, rfl⟩ := Prod.mk.inj hcons
    rw [ih hsplit]
    rfl
  | case3 => cases h

variable {s : S3Settings} {secure : Bool}

theorem exists_front (h : s.check = .ok ()) {scheme rest : List Char}
    (hsplit : splitScheme s.endpoint.toList = some (scheme, rest)) :
    ∃ secure, s.endpoint.toList = front secure ++ rest := by
  have htext := eq_append_of_splitScheme hsplit
  have hknown : scheme ∈ schemes := by
    by_contra hunknown
    simp only [check, hsplit, if_neg hunknown] at h
    split at h <;> cases h
  simp only [schemes, List.mem_cons, List.not_mem_nil, or_false] at hknown
  obtain rfl | rfl := hknown
  · exact ⟨false, htext⟩
  · exact ⟨true, htext⟩

theorem check_of_front (h : s.check = .ok ()) {endpoint : String} {rest : List Char}
    (hfront : endpoint.toList = front secure ++ rest) : { s with endpoint }.check = .ok () := by
  have hbucket : Text.trim s.bucket.toList ≠ [] := by
    intro hblank
    simp only [check, if_pos hblank] at h
    cases h
  simp only [check, if_neg hbucket, hfront, splitScheme_front]
  cases secure <;> rfl

/-! ## Addresses -/

/-- A scheme, and behind it something that neither begins nor ends with a slash. -/
def IsAddress (secure : Bool) (url : List Char) : Prop :=
  ∃ rest, url = front secure ++ rest ∧ rest ≠ [] ∧ rest.head? ≠ some '/' ∧ rest.getLast? ≠ some '/'

/-- **What an endpoint is to come to**: an address, with the scheme that was asked for, which is its own
address. -/
structure Usable (s : S3Settings) : Prop where
  address : ∃ secure, IsAddress secure s.endpointUrl.toList
  secure_iff : front true <+: s.endpointUrl.toList ↔
    s.endpoint = "" ∨ front true <+: s.endpoint.toList
  accepted : { s with endpoint := s.endpointUrl }.check = .ok ()
  stable : { s with endpoint := s.endpointUrl }.endpointUrl = s.endpointUrl

/-- What stands behind the scheme of the endpoint, or all of it if it has none. -/
def place (s : S3Settings) : List Char :=
  match splitScheme s.endpoint.toList with
  | some (_, rest) => rest
  | none => s.endpoint.toList

theorem front_isPrefix_iff (rest : List Char) : front true <+: front secure ++ rest ↔ secure = true := by
  cases secure
  · simp [front]
  · simp

theorem endpointUrl_of_front {rest : List Char} (hfront : s.endpoint.toList = front secure ++ rest)
    (hlast : (front secure ++ rest).getLast? ≠ some '/') : s.endpointUrl = s.endpoint := by
  have hne : s.endpoint ≠ "" := by
    intro hempty
    rw [hempty] at hfront
    cases secure <;> cases hfront
  have hsplit : (splitScheme s.endpoint.toList).isSome = true := by
    rw [hfront, splitScheme_front]
    rfl
  have hbare : Text.trimEnd (· = '/') s.endpoint.toList = s.endpoint.toList := by
    refine Text.trimEnd_of_getLast fun c hc => decide_eq_false ?_
    rintro rfl
    exact hlast (hfront ▸ hc)
  rw [endpointUrl, if_neg hne]
  simp only [if_pos hsplit, hbare, String.ofList_toList]

theorem usable_of_isAddress (h : s.check = .ok ()) (haddress : IsAddress secure s.endpointUrl.toList)
    (hsecure : secure = true ↔ s.endpoint = "" ∨ front true <+: s.endpoint.toList) : s.Usable := by
  obtain ⟨rest, hurl, hne, hfirst, hlast⟩ := haddress
  refine ⟨⟨secure, rest, hurl, hne, hfirst, hlast⟩, ?_, check_of_front h hurl, ?_⟩
  · rw [hurl, front_isPrefix_iff, hsecure]
  · refine endpointUrl_of_front (s := { s with endpoint := s.endpointUrl }) hurl ?_
    rwa [List.getLast?_append_of_ne_nil _ hne]

/-! ## Which endpoints are usable -/

theorem isAddress_of_region (h : s.endpoint = "") : IsAddress true s.endpointUrl.toList := by
  refine ⟨"s3.".toList ++ s.region.toList ++ ".amazonaws.com".toList, ?_, by simp, by simp, ?_⟩
  · rw [endpointUrl, if_pos h, String.toList_append, String.toList_append, List.append_assoc]
    rfl
  · rw [List.getLast?_append_of_ne_nil _ (by simp)]
    decide

theorem isAddress_of_trimEnd {c : Char} {rest : List Char} (hc : c ≠ '/') :
    IsAddress secure (front secure ++ c :: Text.trimEnd (· = '/') rest) := by
  refine ⟨_, rfl, List.cons_ne_nil _ _, by simpa using hc, fun hlast => ?_⟩
  have htrim : c :: Text.trimEnd (· = '/') rest = Text.trimEnd (· = '/') (c :: rest) :=
    (Text.trimEnd_append_stop [] rest (decide_eq_false hc)).symm
  rw [htrim] at hlast
  simpa using Text.getLast?_trimEnd hlast

theorem usable_of_place (h : s.check = .ok ()) (hne : s.endpoint ≠ "") {c : Char} {rest : List Char}
    (hplace : s.place = c :: rest) (hc : c ≠ '/') : s.Usable := by
  have hstop : decide (c = '/') = false := decide_eq_false hc
  unfold place at hplace
  cases hsplit : splitScheme s.endpoint.toList with
  | some parts =>
    obtain ⟨scheme, behind⟩ := parts
    simp only [hsplit] at hplace
    subst hplace
    obtain ⟨secure, htext⟩ := exists_front h hsplit
    have hurl : s.endpointUrl.toList = front secure ++ c :: Text.trimEnd (· = '/') rest := by
      rw [endpointUrl, if_neg hne]
      simp only [hsplit, Option.isSome_some, if_true, String.toList_ofList]
      rw [htext, @Text.trimEnd_append_stop (· = '/') c _ _ hstop]
    have haddress : IsAddress secure s.endpointUrl.toList := hurl ▸ isAddress_of_trimEnd hc
    refine usable_of_isAddress h haddress ?_
    rw [htext, front_isPrefix_iff, or_iff_right hne]
  | none =>
    simp only [hsplit] at hplace
    have hurl : s.endpointUrl.toList = front false ++ c :: Text.trimEnd (· = '/') rest := by
      rw [endpointUrl, if_neg hne]
      simp only [hsplit, Option.isSome_none, Bool.false_eq_true, if_false, String.toList_ofList]
      rw [hplace]
      exact congrArg _ (Text.trimEnd_append_stop [] rest hstop)
    have haddress : IsAddress false s.endpointUrl.toList := hurl ▸ isAddress_of_trimEnd hc
    refine usable_of_isAddress h haddress ?_
    rw [or_iff_right hne]
    refine iff_of_false Bool.false_ne_true ?_
    rintro ⟨behind, htext⟩
    rw [← htext, splitScheme_front] at hsplit
    cases hsplit

theorem exists_place_of_isAddress (hne : s.endpoint ≠ "")
    (haddress : IsAddress secure s.endpointUrl.toList) :
    ∃ c rest, s.place = c :: rest ∧ c ≠ '/' := by
  obtain ⟨name, hurl, hname, hfirst, -⟩ := haddress
  have hbare : Text.trimEnd (· = '/') s.endpoint.toList <+: s.endpoint.toList :=
    List.rdropWhile_prefix _ _
  have hbehind : ∃ behind, s.place = name ++ behind := by
    rw [endpointUrl, if_neg hne] at hurl
    unfold place
    cases hsplit : splitScheme s.endpoint.toList with
    | some parts =>
      simp only [hsplit, Option.isSome_some, if_true, String.toList_ofList] at hurl
      obtain ⟨behind, htext⟩ := hbare
      rw [hurl, List.append_assoc] at htext
      rw [← htext, splitScheme_front] at hsplit
      obtain rfl := Option.some.inj hsplit
      exact ⟨behind, rfl⟩
    | none =>
      simp only [hsplit, Option.isSome_none, Bool.false_eq_true, if_false, String.toList_ofList] at hurl
      obtain ⟨behind, htext⟩ := hbare
      refine ⟨behind, ?_⟩
      rw [← htext]
      cases secure
      · have hname : Text.trimEnd (· = '/') s.endpoint.toList = name :=
          List.append_cancel_left hurl
        rw [hname]
      · cases hurl
  obtain ⟨behind, hplace⟩ := hbehind
  obtain ⟨c, name, rfl⟩ := List.exists_cons_of_ne_nil hname
  exact ⟨c, name ++ behind, hplace, fun hc => hfirst (congrArg some hc)⟩

/-- **Which settings that pass the check are usable**: those without an endpoint, and those whose
endpoint goes on, behind its scheme if it has one, with a character other than a slash. -/
theorem usable_iff (h : s.check = .ok ()) :
    s.Usable ↔ s.endpoint = "" ∨ ∃ c rest, s.place = c :: rest ∧ c ≠ '/' := by
  by_cases hne : s.endpoint = ""
  · exact iff_of_true
      (usable_of_isAddress h (isAddress_of_region hne) (iff_of_true rfl (.inl hne))) (.inl hne)
  · rw [or_iff_right hne]
    constructor
    · rintro ⟨⟨secure, haddress⟩, -⟩
      exact exists_place_of_isAddress hne haddress
    · rintro ⟨c, rest, hplace, hc⟩
      exact usable_of_place h hne hplace hc

/-- An endpoint without a scheme, with slashes behind it. -/
theorem usable_iff_slashes :
    let s := { ofBucket "logs" with endpoint := "minio:9000//" }
    s.check = .ok () ∧ s.Usable ∧ s.endpointUrl = "http://minio:9000" := by
  intro s
  have hcheck : s.check = .ok () := by decide +kernel
  have hplace : s.place = 'm' :: "inio:9000//".toList := by decide +kernel
  exact ⟨hcheck, (usable_iff hcheck).mpr (.inr ⟨'m', _, hplace, by decide⟩), by decide +kernel⟩

/-- A scheme alone loses its slashes, is none any more, and so asks for the other one. -/
theorem bare_scheme_lost :
    let s := { ofBucket "logs" with endpoint := "http://" }
    s.check = .ok () ∧ s.endpointUrl = "http:" ∧ ¬ s.Usable ∧
      (Site.ofSettings s).map (·.scheme) = .ok .https := by
  intro s
  have hurl : s.endpointUrl = "http:" := by decide +kernel
  refine ⟨by decide +kernel, hurl, fun h => ?_, by decide +kernel⟩
  obtain ⟨secure, rest, haddress, -⟩ := h.address
  rw [hurl] at haddress
  cases secure <;> cases haddress

end BlobStore.S3Settings
