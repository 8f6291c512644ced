import Mathlib
import BlobStore.Proofs.Url.Authority
import BlobStore.Proofs.Url.Spelling

/-!
# Addresses that are no web addresses

Of such an address the part in front of the path ends where the path starts (`isFront_of_parse`). Its
path is set by rules that leave escapes as they are, drop breaks, resolve segments that read as dots,
and lose a path that starts with the mark of a query or a fragment. A text is read off its path if it
is spelled in a way that these rules leave alone, and only then (`decode_plainPath_iff`).
-/

namespace BlobStore.Url

/-! ## What stands in front of a path -/

/-- Nothing in the text ends an authority of an address that is not a web address. -/
def IsFront (text : List Char) : Prop := ∀ c ∈ text, endsAuthority false c = false

theorem isFront_readUserInfo (text : List Char) : IsFront (readUserInfo text) := by
  have hescaped : ∀ text, IsFront (encode inUserInfo text) := by
    intro text
    refine forall_mem_encode (fun c _ hkept => ?_) (by decide) (by decide)
    have hne : ∀ d, inUserInfo d = false → c ≠ d := by
      rintro d hd rfl
      rw [hd] at hkept
      cases hkept
    simp [endsAuthority, hne '/' (by decide), hne '?' (by decide), hne '#' (by decide)]
  have hend : ∀ both, IsFront both → IsFront (if both = [] then [] else both ++ ['@']) := by
    intro both hboth
    split
    · exact List.forall_mem_nil _
    · exact List.forall_mem_append.mpr ⟨hboth, List.forall_mem_singleton.mpr (by decide)⟩
  refine hend _ ?_
  split
  · exact hescaped _
  · exact List.forall_mem_append.mpr
      ⟨hescaped _, List.forall_mem_cons.mpr ⟨by decide, hescaped _⟩⟩

theorem isFront_of_isInside {text : List Char} (h : ∀ c ∈ text, isInside c = true) : IsFront text := by
  intro c hc
  have hinside := h c hc
  simp only [isInside, endsAuthority, Bool.and_eq_true, Bool.not_eq_true', Bool.or_eq_false_iff,
    Bool.true_and] at hinside
  simp only [endsAuthority, Bool.or_eq_false_iff, Bool.false_and, and_true]
  exact hinside.1.2.1

theorem isFront_of_plainHost {text host : List Char} (h : plainHost text = .ok host) :
    IsFront host := by
  unfold plainHost at h
  split at h
  · next hbracketed =>
    rw [h] at hbracketed
    exact isFront_of_isInside (isAuthority_bracketed? hbracketed).inside
  · split at h
    · cases h
    · next hbreakers =>
      obtain rfl := Except.ok.inj h
      rw [List.any_eq_true, not_exists] at hbreakers
      refine forall_mem_encode (fun c hc _ => ?_) (by decide) (by decide)
      have hne : ∀ d, isHostBreaker d = true → c ≠ d := by
        rintro d hd rfl
        exact hbreakers c ⟨hc, hd⟩
      simp [endsAuthority, hne '/' (by decide), hne '?' (by decide), hne '#' (by decide)]

theorem isFront_userInfo {web : Bool} {text userInfo rest : List Char}
    (h : readUser web text = .ok (userInfo, rest)) : IsFront userInfo := by
  unfold readUser at h
  split at h
  · obtain ⟨rfl, -⟩ := Prod.mk.inj (Except.ok.inj h)
    exact List.forall_mem_nil _
  · dsimp only at h
    split at h
    · cases h
    · obtain ⟨rfl, -⟩ := Prod.mk.inj (Except.ok.inj h)
      exact isFront_readUserInfo _

theorem isFront_host {name : String} {userInfo text host rest : List Char}
    (h : readHost (.plain name) userInfo text = .ok (host, rest)) : IsFront host := by
  simp only [readHost, bind, Except.bind, pure, Except.pure, throw, throwThe,
    MonadExceptOf.throw] at h
  split at h
  · cases h
  · cases hhost : hostOf (.plain name) (splitHost (Scheme.plain name).isWeb false text).1 with
    | error fault =>
      rw [hhost] at h
      cases h
    | ok host' =>
      rw [hhost] at h
      dsimp only at h
      split at h
      · cases h
      · obtain ⟨rfl, -⟩ := Prod.mk.inj (Except.ok.inj h)
        exact isFront_of_plainHost hhost

/-- **User, host and port end before the path**, whatever the text was. -/
theorem isFront_of_parse {name : String} {text : List Char} {u : Url}
    (h : parse (.plain name) text = .ok u) :
    u.scheme = .plain name ∧ IsFront (u.userInfo ++ u.hostPort) := by
  simp only [parse, bind, Except.bind, pure, Except.pure] at h
  cases huser : readUser (Scheme.plain name).isWeb (readable (Scheme.plain name).isWeb text) with
  | error fault =>
    rw [huser] at h
    cases h
  | ok read =>
    obtain ⟨userInfo, rest⟩ := read
    simp only [huser] at h
    cases hhost : readHost (.plain name) userInfo rest with
    | error fault =>
      rw [hhost] at h
      cases h
    | ok read =>
      obtain ⟨host, rest⟩ := read
      simp only [hhost] at h
      cases hport : readPortMark (.plain name) rest with
      | error fault =>
        rw [hport] at h
        cases h
      | ok read =>
        obtain ⟨port, rest⟩ := read
        simp only [hport] at h
        obtain rfl := Except.ok.inj h
        refine ⟨rfl, List.forall_mem_append.mpr ⟨isFront_userInfo huser,
          List.forall_mem_append.mpr ⟨isFront_host hhost, ?_⟩⟩⟩
        cases port with
        | none => exact List.forall_mem_nil _
        | some n =>
          refine List.forall_mem_cons.mpr ⟨by decide, ?_⟩
          exact isFront_of_isInside fun c => isInside_of_mem_digits (by decide) (by decide)

theorem origin_eq (u : Url) :
    u.origin = u.scheme.name.toList ++ ("://".toList ++ (u.userInfo ++ u.hostPort)) := by
  obtain ⟨scheme, userInfo, host, port, path, query, fragment⟩ := u
  cases port <;> simp [origin, hostPort]

theorem text_eq_origin_append (u : Url) : u.text = u.origin ++ (u.path ++ u.tail) := by
  obtain ⟨scheme, userInfo, host, port, path, query, fragment⟩ := u
  cases query <;> cases fragment <;> simp [text, target, tail]

/-! ## The path of a key -/

theorem forall_mem_enter {P : Char → Prop} {folders : List (List Char)} {segment : List Char}
    (hfolders : ∀ f ∈ folders, ∀ c ∈ f, P c) (hsegment : ∀ c ∈ segment, P c) :
    ∀ f ∈ enter folders segment, ∀ c ∈ f, P c := by
  unfold enter
  split
  · split
    · exact hfolders
    · exact fun f hf => hfolders f (List.mem_of_mem_dropLast hf)
  · split
    · exact hfolders
    · rw [List.forall_mem_append, List.forall_mem_singleton]
      exact ⟨hfolders, hsegment⟩

theorem forall_mem_assemble {P : Char → Prop} (hslash : P '/') {folders : List (List Char)}
    {last : List Char} (hfolders : ∀ f ∈ folders, ∀ c ∈ f, P c) (hlast : ∀ c ∈ last, P c) :
    ∀ c ∈ assemble folders last, P c := by
  refine List.forall_mem_cons.mpr ⟨hslash, List.forall_mem_append.mpr ⟨fun c hc => ?_, hlast⟩⟩
  obtain ⟨f, hf, hc⟩ := List.mem_flatMap.mp hc
  exact List.forall_mem_append.mpr ⟨hfolders f hf, List.forall_mem_singleton.mpr hslash⟩ c hc

theorem forall_mem_resolve {P : Char → Prop} (hslash : P '/') {segments : List (List Char)}
    (hsegments : ∀ s ∈ segments, ∀ c ∈ s, P c) {folders : List (List Char)}
    (hfolders : ∀ f ∈ folders, ∀ c ∈ f, P c) : ∀ c ∈ resolve folders segments, P c := by
  induction segments generalizing folders with
  | nil => exact forall_mem_assemble hslash hfolders (List.forall_mem_nil _)
  | cons segment rest ih =>
    obtain ⟨hsegment, hrest⟩ := List.forall_mem_cons.mp hsegments
    have henter := forall_mem_enter hfolders hsegment
    by_cases hnil : rest = []
    · rw [hnil, resolve]
      split
      · exact forall_mem_assemble hslash henter (List.forall_mem_nil _)
      · exact forall_mem_assemble hslash hfolders hsegment
    · rw [resolve_cons hnil]
      exact ih hrest henter

theorem ne_mark_of_mem_pathOf {web : Bool} {text : List Char} {c : Char} (hc : c ∈ pathOf web text) :
    c ≠ '?' ∧ c ≠ '#' := by
  refine forall_mem_resolve (P := fun c => c ≠ '?' ∧ c ≠ '#') (by decide) (fun s hs => ?_)
    (List.forall_mem_nil _) c hc
  obtain ⟨piece, -, rfl⟩ := List.mem_map.mp hs
  refine forall_mem_encode (fun c _ hkept => ?_) (by decide) (by decide)
  constructor <;> rintro rfl <;> cases hkept

theorem exists_resolve_eq (folders segments : List (List Char)) :
    ∃ inner, resolve folders segments = '/' :: inner := by
  induction segments generalizing folders with
  | nil => exact ⟨_, rfl⟩
  | cons segment rest ih =>
    by_cases hnil : rest = []
    · rw [hnil, resolve]
      split <;> exact ⟨_, rfl⟩
    · rw [resolve_cons hnil]
      exact ih _

/-- The path that an address gets that is not a web address. -/
def plainPath (text : List Char) : List Char :=
  match dropBreaks text with
  | [] => []
  | c :: inner =>
    if c = '?' ∨ c = '#' then [] else if c = '/' then pathOf false inner else pathOf false (c :: inner)

theorem setPath_eq {u : Url} (hweb : u.scheme.isWeb = false) (text : List Char) :
    u.setPath text = { u with path := plainPath text } := by
  unfold setPath plainPath
  rw [hweb]
  cases dropBreaks text with
  | nil => rfl
  | cons c inner =>
    by_cases hmark : c = '?' ∨ c = '#'
    · simp [hmark]
    · by_cases hslash : c = '/' <;> simp [hslash, hmark]

/-- A path that starts with a slash, or none at all, and nothing in it ends it. -/
structure IsPathText (path : List Char) : Prop where
  starts : path = [] ∨ ∃ inner, path = '/' :: inner
  inside : ∀ c ∈ path, c ≠ '?' ∧ c ≠ '#'

theorem isPathText_plainPath (text : List Char) : IsPathText (plainPath text) := by
  have hpath : ∀ text, IsPathText (pathOf false text) := fun text =>
    ⟨.inr (exists_resolve_eq _ _), fun c hc => ne_mark_of_mem_pathOf hc⟩
  have hnil : IsPathText [] := ⟨.inl rfl, List.forall_mem_nil _⟩
  unfold plainPath
  split
  · exact hnil
  · split
    · exact hnil
    · split <;> exact hpath _

/-! ## What the path is read as -/

/-- The text has nothing in it that is not read as it stands in the path of an address. -/
structure IsSpelled (text : List Char) : Prop where
  noBreak : ∀ c ∈ text, c ≠ '\t' ∧ c ≠ '\n' ∧ c ≠ '\r'
  noMark : text.head? ≠ some '?' ∧ text.head? ≠ some '#'
  noEscape : ¬ HasEscape text

variable {text : List Char}

theorem length_dropBreaks_le (text : List Char) :
    ((dropBreaks text).flatMap String.utf8EncodeChar).length ≤
      (text.flatMap String.utf8EncodeChar).length := by
  induction text with
  | nil => exact le_rfl
  | cons c text ih =>
    rw [dropBreaks, List.filter_cons, ← dropBreaks, List.flatMap_cons, List.length_append]
    split
    · rw [List.flatMap_cons, List.length_append]
      exact Nat.add_le_add_left ih _
    · exact ih.trans (Nat.le_add_left _ _)

theorem isSpelled_of_decode
    (h : decode (plainPath text) = 47 :: text.flatMap String.utf8EncodeChar) : IsSpelled text := by
  have hlength := congrArg List.length h
  rw [List.length_cons] at hlength
  have hshort := length_dropBreaks_le text
  have hread := length_decode_le (dropBreaks text)
  unfold plainPath at h hlength
  cases hkept : dropBreaks text with
  | nil =>
    rw [hkept] at h
    cases h
  | cons c inner =>
    rw [hkept] at h hlength hshort hread
    dsimp only at h hlength
    split at h
    · cases h
    next hmark =>
    rw [if_neg hmark] at hlength
    split at h
    · -- a text that starts with a slash is read as at most its own length
      next hslash =>
      rw [if_pos hslash] at hlength
      have hpath := (length_decode_pathOf inner).1
      have hinner := length_decode_le inner
      rw [List.flatMap_cons, List.length_append] at hshort
      have hpos := length_utf8EncodeChar_pos c
      omega
    · next hslash =>
      rw [if_neg hslash] at hlength
      obtain ⟨hpath, hequal⟩ := length_decode_pathOf (c :: inner)
      rw [hequal (by omega)] at h
      have hescape : ¬ HasEscape (c :: inner) := not_hasEscape_of_le (by omega)
      rw [decode_of_not_hasEscape hescape] at h
      have hsame : c :: inner = text := flatMap_utf8EncodeChar_injective (List.cons.inj h).2
      rw [not_or] at hmark
      refine ⟨fun d hd => ?_, ?_, hsame ▸ hescape⟩
      · have hall := List.filter_eq_self.mp (hkept.trans hsame) d hd
        simpa [and_assoc] using hall
      · rw [← hsame]
        simpa using hmark

theorem decode_plainPath (hnames : ∀ name ∈ Key.split text, Key.isName name = true)
    (h : IsSpelled text) :
    decode (plainPath text) = 47 :: text.flatMap String.utf8EncodeChar := by
  have hkept : dropBreaks text = text := by
    refine List.filter_eq_self.mpr fun c hc => ?_
    simpa [and_assoc] using h.noBreak c hc
  have hplain : ∀ s ∈ (Key.split text).map (encode inPath), Plain s := by
    intro s hs
    obtain ⟨name, hname, rfl⟩ := List.mem_map.mp hs
    refine plain_encode_inPath (fun hescape => h.noEscape ?_) (hnames name hname)
    obtain ⟨a, x, y, hinfix, hisEscape⟩ := hescape
    exact ⟨a, x, y, hinfix.trans (Key.glue_split text ▸ infix_glue hname), hisEscape⟩
  have hpath : plainPath text = pathOf false text := by
    unfold plainPath
    rw [hkept]
    cases text with
    | nil => exact absurd (hnames [] (by simp [Key.split, Text.pieces])) (by decide)
    | cons c inner =>
      have hmark : ¬ (c = '?' ∨ c = '#') := by simpa using h.noMark
      have hslash : c ≠ '/' := by
        rintro rfl
        rw [Key.split_slash] at hnames
        exact absurd (hnames [] List.mem_cons_self) (by decide)
      dsimp only
      rw [if_neg hmark, if_neg hslash]
  rw [hpath, decode_pathOf_of_plain hplain, decode_of_not_hasEscape h.noEscape]

/-- **A text of names is read off its path** if it is spelled so, and only then. -/
theorem decode_plainPath_iff (hnames : ∀ name ∈ Key.split text, Key.isName name = true) :
    decode (plainPath text) = 47 :: text.flatMap String.utf8EncodeChar ↔ IsSpelled text :=
  ⟨isSpelled_of_decode, decode_plainPath hnames⟩

end BlobStore.Url
