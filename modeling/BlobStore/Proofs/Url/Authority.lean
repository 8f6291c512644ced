import Mathlib
import BlobStore.Proofs.Url.Host
import BlobStore.Proofs.Url.Path
import BlobStore.Proofs.Url.Query

/-!
# An address with a plain authority

If an address starts with a host and perhaps a port, and its path is marked by a slash, then this
slash is where the path is read, and nothing in front of it is taken for a user (`parse_authority`).
-/

namespace BlobStore.Url

open Text (trimEnd_append_stop trimEnd_of_getLast)

theorem isInside_iff {c : Char} : isInside c = true ↔
    ' ' < c ∧ endsAuthority true c = false ∧ c ≠ '@' := by
  simp [isInside, and_assoc]

variable {authority : List Char}

theorem trimEnd_slash (h : IsAuthority authority) (text : List Char) :
    Text.trimEnd (· = '/') (text ++ authority) = text ++ authority := by
  refine trimEnd_of_getLast fun c hc => decide_eq_false ?_
  rw [List.getLast?_append_of_ne_nil _ h.nonempty] at hc
  rintro rfl
  exact absurd (h.inside _ (List.mem_of_getLast? hc)) (by decide)

theorem readable_authority (h : IsAuthority authority) (rest : List Char) :
    readable true (authority ++ '/' :: rest) = authority ++ '/' :: readableQuery rest := by
  have hbreaks : dropBreaks authority = authority :=
    dropBreaks_of_forall fun c hc => not_le.mpr (isInside_iff.mp (h.inside c hc)).1
  obtain ⟨first, behind, rfl⟩ := List.exists_cons_of_ne_nil h.nonempty
  have hends := (isInside_iff.mp (h.inside first List.mem_cons_self)).2.1
  have hkept : ∀ text, (first :: text).dropWhile (fun c => c = '/' || c = '\\') = first :: text := by
    simp only [endsAuthority, Bool.or_eq_false_iff, Bool.true_and] at hends
    exact fun text => List.dropWhile_cons_of_neg (by simp [hends.1.1.1, hends.2])
  rw [readable, trimEnd_append_stop _ _ (by decide), dropBreaks_append, dropBreaks_slash, hbreaks, if_pos rfl,
    List.cons_append, hkept]
  rfl

theorem splitLastAt_of_not_mem {text : List Char} (h : '@' ∉ text) : splitLastAt text = none := by
  have hall : ∀ c ∈ text.reverse, decide (c ≠ '@') = true := by
    intro c hc
    refine decide_eq_true ?_
    rintro rfl
    exact h (List.mem_reverse.mp hc)
  simp only [splitLastAt, List.takeWhile_eq_self_iff.mpr hall, List.reverse_reverse, if_true]

theorem readUser_authority (h : IsAuthority authority) (rest : List Char) :
    readUser true (authority ++ '/' :: rest) = .ok ([], authority ++ '/' :: rest) := by
  have hall : ∀ c ∈ authority, (!endsAuthority true c) = true := fun c hc => by
    rw [(isInside_iff.mp (h.inside c hc)).2.1]
    rfl
  have huser : splitLastAt authority = none :=
    splitLastAt_of_not_mem fun hat => (isInside_iff.mp (h.inside '@' hat)).2.2 rfl
  rw [readUser, takeWhile_append_stop _ _ (by decide), List.takeWhile_eq_self_iff.mpr hall, huser]

theorem splitHost_suffix (web inBrackets : Bool) (text : List Char) :
    (splitHost web inBrackets text).2 <:+ text := by
  induction text generalizing inBrackets with
  | nil => exact List.suffix_rfl
  | cons c text ih =>
    rw [splitHost]
    split
    · exact List.suffix_rfl
    · exact (ih _).trans (List.suffix_cons c text)

theorem head?_splitHost (web inBrackets : Bool) (text : List Char) :
    ∀ c ∈ (splitHost web inBrackets text).2.head?, c = ':' ∨ endsAuthority web c = true := by
  induction text generalizing inBrackets with
  | nil => exact fun c hc => nomatch hc
  | cons d text ih =>
    rw [splitHost]
    split
    · next hstop =>
      rintro c hc
      obtain rfl : d = c := Option.some.inj hc
      simp only [Bool.or_eq_true, Bool.and_eq_true, decide_eq_true_eq] at hstop
      exact hstop.imp_left And.left
    · exact ih _

theorem readPort_append_slash {scheme : Scheme} {text rest left : List Char} {port : Option Nat}
    (hinside : ∀ c ∈ text, isInside c = true)
    (h : readPort scheme (text ++ '/' :: rest) = .ok (port, left)) : left = '/' :: rest := by
  have hslash : Text.isDecimalDigit '/' = false := by decide
  simp only [readPort, takeWhile_append_stop _ _ hslash, drop_length_takeWhile_append,
    drop_length_takeWhile] at h
  split at h
  · cases h
  · split at h
    · cases h
    · next hstop =>
      have hleft : text.dropWhile Text.isDecimalDigit ++ '/' :: rest = left := by
        split at h <;> exact (Prod.mk.inj (Except.ok.inj h)).2
      cases hbehind : text.dropWhile Text.isDecimalDigit with
      | nil => rw [← hleft, hbehind, List.nil_append]
      | cons c behind =>
        have hmem : c ∈ text := (List.dropWhile_sublist _).subset (hbehind ▸ List.mem_cons_self)
        rw [hbehind] at hstop
        exact absurd (by simp [(isInside_iff.mp (hinside c hmem)).2.1]) hstop

theorem readHost_eq_ok {scheme : Scheme} (hweb : scheme.isWeb = true) {text host rest : List Char}
    (h : readHost scheme [] text = .ok (host, rest)) :
    webHost (splitHost true false text).1 = .ok host ∧ (splitHost true false text).2 = rest := by
  simp only [readHost, hostOf, hweb, if_true, bind, Except.bind, pure, Except.pure, throw, throwThe,
    MonadExceptOf.throw] at h
  split at h
  · cases h
  · cases hhost : webHost (splitHost true false text).1 with
    | error fault =>
      rw [hhost] at h
      cases h
    | ok host' =>
      simp only [hhost, ne_eq, not_true_eq_false, and_false, if_false] at h
      obtain ⟨rfl, hrest⟩ := Prod.mk.inj (Except.ok.inj h)
      exact ⟨rfl, hrest⟩

/-- The address is one of this scheme without a user, and behind its authority it is read like
this: a path, and what is left for a query and a fragment. -/
structure ReadAs (scheme : Scheme) (read : List Char × List Char) (u : Url) : Prop where
  scheme_eq : u.scheme = scheme
  noUser : u.userInfo = []
  host : IsAuthority u.host
  path_eq : u.path = read.1
  query_eq : u.query = (readQuery true read.2).1
  fragment_eq : u.fragment = (readQuery true read.2).2

/-- **The slash behind an authority starts the path.** -/
theorem parse_authority {scheme : Scheme} (hweb : scheme.isWeb = true) (h : IsAuthority authority)
    {rest : List Char} {u : Url} (hu : parse scheme (authority ++ '/' :: rest) = .ok u) :
    ReadAs scheme (readPath true ('/' :: readableQuery rest)) u := by
  have hslash : endsAuthority true '/' = true := by decide
  simp only [parse, bind, Except.bind, pure, Except.pure, hweb, readable_authority h,
    readUser_authority h] at hu
  cases hhost : readHost scheme [] (authority ++ '/' :: readableQuery rest) with
  | error fault =>
    rw [hhost] at hu
    cases hu
  | ok read =>
    obtain ⟨host, left⟩ := read
    obtain ⟨hwebHost, hleft⟩ := readHost_eq_ok hweb hhost
    simp only [splitHost_append _ _ hslash] at hleft
    simp only [hhost, ← hleft] at hu
    have hinside : ∀ c ∈ (splitHost true false authority).2, isInside c = true := fun c hc =>
      h.inside c ((splitHost_suffix true false authority).subset hc)
    have hhead := head?_splitHost true false authority
    generalize (splitHost true false authority).2 = behind at hu hinside hhead
    cases hmark : readPortMark scheme (behind ++ '/' :: readableQuery rest) with
    | error fault =>
      rw [hmark] at hu
      cases hu
    | ok read =>
      obtain ⟨port, left⟩ := read
      -- what follows the host is nothing or a port, so the path is read from the slash on
      have hpath : left = '/' :: readableQuery rest := by
        cases behind with
        | nil => exact (Prod.mk.inj (Except.ok.inj hmark)).2.symm
        | cons c behind =>
          obtain ⟨hc, hbehind⟩ := List.forall_mem_cons.mp hinside
          rcases hhead c rfl with rfl | hends
          · exact readPort_append_slash hbehind hmark
          · rw [(isInside_iff.mp hc).2.1] at hends
            cases hends
      simp only [hmark, hpath] at hu
      obtain rfl := Except.ok.inj hu
      exact ⟨rfl, rfl, isAuthority_webHost hwebHost, rfl, rfl, rfl⟩

/-! ## Reading an address again -/

theorem isPath_readPath_slash (text : List Char) : IsPath (readPath true ('/' :: text)).1 := by
  have hraw : ('/' :: text).takeWhile (fun c => c ≠ '?' && c ≠ '#') =
      '/' :: text.takeWhile (fun c => c ≠ '?' && c ≠ '#') :=
    List.takeWhile_cons_of_pos (by decide)
  simp only [readPath, hraw]
  exact isPath_pathOf _

theorem parse_isPath {scheme : Scheme} (hweb : scheme.isWeb = true) (h : IsAuthority authority)
    {path query : List Char} (hpath : IsPath path) {u : Url}
    (hu : parse scheme (authority ++ (path ++ '?' :: query)) = .ok u) :
    u.scheme = scheme ∧ u.userInfo = [] ∧ IsAuthority u.host ∧ u.path = path ∧ u.query.isSome = true := by
  have hinPath := inPath_of_isPath hpath
  obtain ⟨inner, rfl⟩ : ∃ inner, path = '/' :: inner := by
    obtain ⟨segments, -, -, rfl⟩ := hpath
    exact ⟨_, rfl⟩
  have hall := (List.forall_mem_cons.mp hinPath).2
  have hbreaks : dropBreaks inner = inner := by
    refine dropBreaks_of_forall fun c hc => ?_
    have hkept := hall c hc
    simp only [inPath, inFragment, inHost, Bool.and_eq_true, decide_eq_true_eq] at hkept
    have hspace : c ≠ ' ' := by
      rintro rfl
      exact absurd hkept.1.2 (by decide)
    exact not_le.mpr (lt_of_le_of_ne hkept.1.1.1 (Ne.symm hspace))
  have hmarks : ∀ c ∈ inner, c ≠ '?' ∧ c ≠ '#' := by
    intro c hc
    constructor <;> rintro rfl <;> cases hall _ hc
  have hread : readPath true ('/' :: readableQuery (inner ++ '?' :: query)) =
      ('/' :: inner, '?' :: readableQuery query) := by
    rw [readableQuery_append, hbreaks, ← List.cons_append, readPath_append, readPath_slash hmarks,
      pathOf_of_isPath hpath, behind, List.nil_append]
  rw [List.cons_append] at hu
  have hreadAs := parse_authority hweb h hu
  rw [hread] at hreadAs
  refine ⟨hreadAs.scheme_eq, hreadAs.noUser, hreadAs.host, hreadAs.path_eq, ?_⟩
  rw [hreadAs.query_eq, readQuery_mark]
  rfl

/-! ## The text of an address -/

/-- Host and port of an address. -/
def hostPort (u : Url) : List Char :=
  u.host ++ match u.port with
    | none => []
    | some n => ':' :: Text.digits 10 n

/-- What is written behind the path. -/
def tail (u : Url) : List Char :=
  (match u.query with
    | none => []
    | some query => '?' :: query) ++
  match u.fragment with
    | none => []
    | some fragment => '#' :: fragment

theorem exists_tail {u : Url} (h : u.query.isSome = true) : ∃ rest, u.tail = '?' :: rest := by
  obtain ⟨query, hquery⟩ := Option.isSome_iff_exists.mp h
  rw [tail, hquery]
  exact ⟨_, rfl⟩

theorem isAuthority_hostPort {u : Url} (h : IsAuthority u.host) : IsAuthority u.hostPort where
  nonempty := by simp [hostPort, h.nonempty]
  inside := by
    refine List.forall_mem_append.mpr ⟨h.inside, ?_⟩
    cases u.port with
    | none => exact List.forall_mem_nil _
    | some n =>
      refine List.forall_mem_cons.mpr ⟨by decide, fun c hc => ?_⟩
      exact isInside_of_mem_digits (by decide) (by decide) hc

theorem text_eq {u : Url} (h : u.userInfo = []) :
    u.text = u.scheme.name.toList ++ ("://".toList ++ (u.hostPort ++ (u.path ++ u.tail))) := by
  obtain ⟨scheme, userInfo, host, port, path, query, fragment⟩ := u
  obtain rfl : userInfo = [] := h
  cases port <;> cases query <;> cases fragment <;> simp [text, origin, target, hostPort, tail]

end BlobStore.Url
