import Mathlib
import BlobStore.Proofs.Text.Trim
import BlobStore.Proofs.Url.Percent
import BlobStore.Url.Basic

/-!
# An address with a query behind it

A question mark ends whatever part of an address is read in front of the path, so what follows it
changes neither host nor port nor path. `parse_append_query` says this of whole addresses: if one
with a query can be read, so can the one without it and the one with any other, and they differ only
in what is read behind the path. A plain query is read as it stands.
-/

namespace BlobStore.Url

open Text (dropWhile_append_stop trimEnd_append_stop trimEnd_of_getLast)

/-! ## Plain queries -/

/-- Characters that stand for themselves wherever they are in an address: those that need no
escaping, and the marks between fields. -/
def isQueryPlain (c : Char) : Bool := inSignedQuery c || c = '=' || c = '&'

/-- A query in which every character stands for itself. -/
def IsPlainQuery (query : List Char) : Prop := ∀ c ∈ query, isQueryPlain c = true

theorem forall_ascii {P : Char → Prop} (h : ∀ n < 128, P (.ofNat n)) {c : Char} (hc : c.toNat < 128) :
    P c := by
  have := h c.toNat hc
  rwa [Char.ofNat_toNat] at this

theorem toNat_lt_of_isQueryPlain {c : Char} (h : isQueryPlain c = true) : c.toNat < 128 := by
  by_contra hc
  have hle : ∀ d : Char, d.toNat < 128 → ¬ c ≤ d := fun d hd hcd => by
    have : c.toNat ≤ d.toNat := hcd
    omega
  have hne : ∀ d : Char, d.toNat < 128 → c ≠ d := by
    rintro d hd rfl
    exact hc hd
  simp [isQueryPlain, inSignedQuery, inSignedPath, isLetter, Text.isDecimalDigit, hle, hne] at h

theorem plain_cases {c : Char} (h : isQueryPlain c = true) :
    ¬ c ≤ ' ' ∧ c ≠ '#' ∧ inFragment c = true ∧ ∀ web, inQuery web c = true := by
  have hc := toNat_lt_of_isQueryPlain h
  revert h
  refine forall_ascii (P := fun c => isQueryPlain c = true →
    ¬ c ≤ ' ' ∧ c ≠ '#' ∧ inFragment c = true ∧ ∀ web, inQuery web c = true) ?_
    hc
  decide

theorem inSignedPath_cases {c : Char} (h : inSignedPath c = true) :
    ¬ c ≤ ' ' ∧ inPath c = true ∧ c ≠ '\\' ∧ c ≠ '%' := by
  have hlow : c.toNat < 128 := by
    by_cases hslash : c = '/'
    · rw [hslash]
      decide
    · exact toNat_lt_of_isQueryPlain (by simp [isQueryPlain, inSignedQuery, h, hslash])
  revert h
  refine forall_ascii (P := fun c => inSignedPath c = true →
    ¬ c ≤ ' ' ∧ inPath c = true ∧ c ≠ '\\' ∧ c ≠ '%') ?_ hlow
  decide

/-! ## Up to a stop -/

section stop

variable {p : Char → Bool} {stop : Char} (text behind : List Char)

theorem takeWhile_append_stop (h : p stop = false) :
    (text ++ stop :: behind).takeWhile p = text.takeWhile p := by
  induction text with
  | nil => simp [h]
  | cons c text ih => cases hc : p c <;> simp [hc, ih]

theorem drop_length_takeWhile_append :
    (text ++ behind).drop (text.takeWhile p).length = text.drop (text.takeWhile p).length ++ behind :=
  List.drop_append_of_le_length (List.takeWhile_prefix p).length_le

theorem splitHost_append {web : Bool} (h : endsAuthority web stop = true) (inBrackets : Bool) :
    splitHost web inBrackets (text ++ stop :: behind) =
      ((splitHost web inBrackets text).1, (splitHost web inBrackets text).2 ++ stop :: behind) := by
  induction text generalizing inBrackets with
  | nil => simp [splitHost, h]
  | cons c text ih =>
    rw [List.cons_append, splitHost, splitHost]
    split
    · rfl
    · rw [ih]

end stop

theorem drop_length_takeWhile (p : Char → Bool) (text : List Char) :
    text.drop (text.takeWhile p).length = text.dropWhile p := by
  have hdrop : (text.takeWhile p ++ text.dropWhile p).drop (text.takeWhile p).length =
      text.dropWhile p := List.drop_left
  rwa [List.takeWhile_append_dropWhile] at hdrop

theorem dropBreaks_append (a b : List Char) : dropBreaks (a ++ b) = dropBreaks a ++ dropBreaks b :=
  List.filter_append ..

theorem dropBreaks_slash (text : List Char) : dropBreaks ('/' :: text) = '/' :: dropBreaks text :=
  List.filter_cons_of_pos (by decide)

theorem dropBreaks_of_forall {text : List Char} (h : ∀ c ∈ text, ¬ c ≤ ' ') : dropBreaks text = text := by
  refine List.filter_eq_self.mpr fun c hc => ?_
  have hne : ∀ d, d ≤ ' ' → c ≠ d := by
    rintro d hd rfl
    exact h _ hc hd
  simp [hne '\t' (by decide), hne '\n' (by decide), hne '\r' (by decide)]

/-- What is read of a query: spaces and control characters at its end are no part of it, nor are
breaks. -/
def readableQuery (query : List Char) : List Char := dropBreaks (Text.trimEnd (· ≤ ' ') query)

theorem readableQuery_of_plain {query : List Char} (hquery : IsPlainQuery query) :
    readableQuery query = query := by
  have hlow : ∀ c ∈ query, ¬ c ≤ ' ' := fun c hc => (plain_cases (hquery c hc)).1
  rw [readableQuery, trimEnd_of_getLast fun c hc =>
    decide_eq_false (hlow c (List.mem_of_getLast? hc))]
  exact dropBreaks_of_forall hlow

theorem readableQuery_append {text : List Char} (query : List Char) :
    readableQuery (text ++ '?' :: query) = dropBreaks text ++ '?' :: readableQuery query := by
  rw [readableQuery, @trimEnd_append_stop (· ≤ ' ') '?' _ _ (by decide), dropBreaks,
    List.filter_append, List.filter_cons_of_pos (by decide)]
  rfl

theorem readable_append (web : Bool) {text : List Char} (htext : ∀ c ∈ text.getLast?, ¬ c ≤ ' ')
    (query : List Char) :
    readable web (text ++ '?' :: query) = readable web text ++ '?' :: readableQuery query := by
  have hmark : dropBreaks (Text.trimEnd (· ≤ ' ') (text ++ '?' :: query)) =
      dropBreaks text ++ '?' :: readableQuery query := readableQuery_append query
  simp only [readable, hmark, trimEnd_of_getLast fun c hc => decide_eq_false (htext c hc)]
  split
  · exact dropWhile_append_stop _ _ (by decide)
  · rfl

theorem splitLastAt_length {text user after : List Char} (h : splitLastAt text = some (user, after)) :
    user.length + 1 ≤ text.length := by
  unfold splitLastAt at h
  dsimp only at h
  split at h
  · cases h
  · next hne =>
    obtain ⟨rfl, -⟩ := Prod.mk.inj (Option.some.inj h)
    have hle : (text.reverse.takeWhile (· ≠ '@')).reverse.length ≤ text.length := by
      have := (List.takeWhile_prefix (l := text.reverse) (· ≠ '@')).length_le
      simpa using this
    rw [List.length_take]
    omega

theorem endsAuthority_mark (web : Bool) : endsAuthority web '?' = true := by
  cases web <;> decide

theorem head?_append_mark (text : List Char) (p : Char → Bool) (q₁ q₂ : List Char) :
    (text ++ '?' :: q₁).head?.any p = (text ++ '?' :: q₂).head?.any p := by
  cases text <;> rfl

theorem readUser_append {web : Bool} {text query userInfo rest' : List Char}
    (h : readUser web (text ++ '?' :: query) = .ok (userInfo, rest')) :
    ∃ rest, readUser web text = .ok (userInfo, rest) ∧
      ∀ query, readUser web (text ++ '?' :: query) = .ok (userInfo, rest ++ '?' :: query) := by
  have hstop : (!endsAuthority web '?') = false := by rw [endsAuthority_mark]; rfl
  simp only [readUser, takeWhile_append_stop (p := fun c => !endsAuthority web c) _ _ hstop] at h ⊢
  cases huser : splitLastAt (text.takeWhile fun c => !endsAuthority web c) with
  | none =>
    rw [huser] at h
    obtain ⟨rfl, -⟩ := Prod.mk.inj (Except.ok.inj h)
    exact ⟨text, rfl, fun _ => rfl⟩
  | some split =>
    obtain ⟨user, after⟩ := split
    have hlength := (splitLastAt_length huser).trans (List.takeWhile_prefix _).length_le
    simp only [huser, List.drop_append_of_le_length hlength] at h ⊢
    generalize text.drop (user.length + 1) = rest at h ⊢
    split at h
    · cases h
    · next hcheck =>
      obtain ⟨rfl, -⟩ := Prod.mk.inj (Except.ok.inj h)
      refine ⟨rest, if_neg fun hbad => hcheck ⟨hbad.1, ?_⟩, fun query' => if_neg ?_⟩
      · cases rest with
        | nil => cases hbad.2
        | cons c rest => exact hbad.2
      · rwa [head?_append_mark rest _ query' query]

/-- A text with the query behind it, as what is left over by a reader. -/
def behind {α : Type} (query : List Char) (read : α × List Char) : α × List Char :=
  (read.1, read.2 ++ '?' :: query)

theorem readHost_append (scheme : Scheme) (userInfo text query : List Char) :
    readHost scheme userInfo (text ++ '?' :: query) =
      (readHost scheme userInfo text).map (behind query) := by
  have hhead : ∀ rest : List Char, (rest ++ '?' :: query).head? = some ':' ↔ rest.head? = some ':' := by
    intro rest
    cases rest <;> simp
  simp only [readHost, splitHost_append _ _ (endsAuthority_mark _), hhead, bind, Except.bind, pure, Except.pure, throw, throwThe,
    MonadExceptOf.throw]
  split
  · rfl
  · cases hostOf scheme (splitHost scheme.isWeb false text).1 with
    | error fault => rfl
    | ok host =>
      dsimp only
      split <;> rfl

theorem readPort_append (scheme : Scheme) (text query : List Char) :
    readPort scheme (text ++ '?' :: query) = (readPort scheme text).map (behind query) := by
  have hhead : ∀ rest : List Char, (rest ++ '?' :: query).head?.any (!endsAuthority true ·) =
      rest.head?.any (!endsAuthority true ·) := by
    intro rest
    cases rest <;> simp [endsAuthority_mark]
  have hdigit : Text.isDecimalDigit '?' = false := by decide
  simp only [readPort, takeWhile_append_stop _ _ hdigit, drop_length_takeWhile_append, hhead]
  split
  · rfl
  · split
    · rfl
    · split <;> rfl

theorem readPortMark_append (scheme : Scheme) (text query : List Char) :
    readPortMark scheme (text ++ '?' :: query) =
      (readPortMark scheme text).map (behind query) := by
  cases text with
  | nil => rfl
  | cons c text =>
    by_cases hc : c = ':'
    · rw [hc, List.cons_append, readPortMark, readPortMark, readPort_append]
    · have hmark : ∀ rest : List Char, readPortMark scheme (c :: rest) = .ok (none, c :: rest) :=
        fun rest => by
          unfold readPortMark
          split
          · next heq => exact absurd (List.cons.inj heq).1 hc
          · rfl
      rw [List.cons_append, hmark, hmark]
      rfl

/-! ## Behind the question mark -/

theorem readPath_append (web : Bool) (text query : List Char) :
    readPath web (text ++ '?' :: query) = behind query (readPath web text) := by
  simp only [readPath, behind, drop_length_takeWhile_append,
    @takeWhile_append_stop (fun c => c ≠ '?' && c ≠ '#') '?' _ _ (by decide)]

theorem readPath_slash {text : List Char} (h : ∀ c ∈ text, c ≠ '?' ∧ c ≠ '#') :
    readPath true ('/' :: text) = (pathOf true text, []) := by
  have hall : ∀ c ∈ '/' :: text, (c ≠ '?' && c ≠ '#') = true := by
    refine List.forall_mem_cons.mpr ⟨by decide, fun c hc => ?_⟩
    simp [h c hc]
  simp only [readPath, List.takeWhile_eq_self_iff.mpr hall, List.drop_length]
  rfl

theorem head?_readPath (web : Bool) (text : List Char) :
    ∀ c ∈ (readPath web text).2.head?, c = '?' ∨ c = '#' := by
  intro c hc
  simp only [readPath, drop_length_takeWhile] at hc
  have hstop := List.head?_dropWhile_not (fun c => c ≠ '?' && c ≠ '#') text
  rw [hc] at hstop
  by_cases hquery : c = '?'
  · exact .inl hquery
  · exact .inr (by simpa [hquery] using hstop)

/-- The address with a query behind all that is there: at the end of the fragment if there is one,
else behind the query. -/
def addQuery (u : Url) (query : List Char) : Url :=
  match u.query, u.fragment with
  | _, some fragment => { u with fragment := some (fragment ++ '?' :: query) }
  | some before, none => { u with query := some (before ++ '?' :: query) }
  | none, none => { u with query := some query }

theorem path_addQuery (u : Url) (query : List Char) : (u.addQuery query).path = u.path := by
  unfold addQuery
  split <;> rfl

theorem query_addQuery {u : Url} (hquery : u.query = none) (hfragment : u.fragment = none)
    (query : List Char) : (u.addQuery query).query = some query := by
  simp [addQuery, hquery, hfragment]

theorem text_addQuery (u : Url) (query : List Char) :
    (u.addQuery query).text = u.text ++ '?' :: query := by
  obtain ⟨scheme, userInfo, host, port, path, before, fragment⟩ := u
  cases fragment <;> cases before <;> simp [addQuery, text, target, origin]

theorem encode_mark (web : Bool) {query : List Char} (hquery : IsPlainQuery query) :
    encode inFragment ('?' :: query) = '?' :: query ∧
      encode (inQuery web) ('?' :: query) = '?' :: query := by
  constructor
  · refine encode_of_forall (List.forall_mem_cons.mpr ⟨by decide, fun c hc => ?_⟩)
    exact (plain_cases (hquery c hc)).2.2.1
  · refine encode_of_forall (List.forall_mem_cons.mpr ⟨by cases web <;> decide, fun c hc => ?_⟩)
    exact (plain_cases (hquery c hc)).2.2.2 web

theorem readQuery_mark (web : Bool) (text : List Char) :
    readQuery web ('?' :: text) = (some (encode (inQuery web) (text.takeWhile (· ≠ '#'))),
      readFragment (text.dropWhile (· ≠ '#'))) := rfl

theorem readFragment_mark (text : List Char) :
    readFragment ('#' :: text) = some (encode inFragment text) := rfl

theorem readFragment_of_not_mem {text : List Char} (h : '#' ∉ text) : readFragment text = none := by
  cases text with
  | nil => rfl
  | cons c text =>
    rw [List.mem_cons, not_or] at h
    unfold readFragment
    split
    · next heq => exact absurd (List.cons.inj heq).1.symm h.1
    · rfl

theorem readQuery_of_not_mem {web : Bool} {text : List Char} (h : '#' ∉ text) :
    (readQuery web text).2 = none := by
  unfold readQuery
  split
  · next text =>
    refine readFragment_of_not_mem fun hmem => h (List.mem_cons_of_mem _ ?_)
    exact (List.dropWhile_sublist _).subset hmem
  · exact readFragment_of_not_mem h

theorem readQuery_append (web : Bool) {rest query : List Char}
    (hrest : ∀ c ∈ rest.head?, c = '?' ∨ c = '#') (hquery : IsPlainQuery query) (u : Url) :
    { u with
      query := (readQuery web (rest ++ '?' :: query)).1
      fragment := (readQuery web (rest ++ '?' :: query)).2 } =
    addQuery { u with query := (readQuery web rest).1, fragment := (readQuery web rest).2 } query := by
  obtain ⟨hfragment, hbefore⟩ := encode_mark web hquery
  have hall : ∀ c ∈ query, decide (c ≠ '#') = true := fun c hc =>
    decide_eq_true (plain_cases (hquery c hc)).2.1
  cases rest with
  | nil =>
    have hkept : encode (inQuery web) query = query :=
      encode_of_forall fun c hc => (plain_cases (hquery c hc)).2.2.2 web
    rw [List.nil_append, readQuery_mark, List.takeWhile_eq_self_iff.mpr hall,
      List.dropWhile_eq_nil_iff.mpr hall, hkept]
    rfl
  | cons c text =>
    obtain rfl | rfl := hrest c rfl
    · by_cases hmem : '#' ∈ text
      · -- the query ends at a fragment, which takes in what comes behind
        obtain ⟨before, fragment, rfl, hmark⟩ := List.eq_append_cons_of_mem hmem
        have htext : ∀ c ∈ before, decide (c ≠ '#') = true := fun c hc =>
          decide_eq_true fun heq => hmark (heq ▸ hc)
        have hparts : ∀ fragment, readQuery web ('?' :: (before ++ '#' :: fragment)) =
            (some (encode (inQuery web) before), some (encode inFragment fragment)) := by
          intro fragment
          rw [readQuery_mark, List.takeWhile_append_of_pos htext, List.dropWhile_append_of_pos htext,
            List.takeWhile_cons_of_neg (by decide), List.dropWhile_cons_of_neg (by decide),
            readFragment_mark, List.append_nil]
        rw [List.cons_append, List.append_assoc, List.cons_append, hparts, hparts, encode_append,
          hfragment]
        rfl
      · have htext : ∀ c ∈ text, decide (c ≠ '#') = true := fun c hc =>
          decide_eq_true fun heq => hmem (heq ▸ hc)
        have hboth : ∀ c ∈ text ++ '?' :: query, decide (c ≠ '#') = true := by
          rw [List.forall_mem_append, List.forall_mem_cons]
          exact ⟨htext, by decide, hall⟩
        rw [List.cons_append, readQuery_mark, readQuery_mark, List.takeWhile_eq_self_iff.mpr hboth,
          List.takeWhile_eq_self_iff.mpr htext, List.dropWhile_eq_nil_iff.mpr hboth,
          List.dropWhile_eq_nil_iff.mpr htext, encode_append, hbefore]
        rfl
    · have hmark : ∀ text, readQuery web ('#' :: text) = (none, some (encode inFragment text)) :=
        fun text => rfl
      rw [List.cons_append, hmark, hmark, encode_append, hfragment]
      rfl

/-- The address with what is read behind its path. -/
def readBehind (u : Url) (rest : List Char) : Url :=
  { u with query := (readQuery u.scheme.isWeb rest).1, fragment := (readQuery u.scheme.isWeb rest).2 }

theorem parse_append (scheme : Scheme) {text query : List Char}
    (htext : ∀ c ∈ text.getLast?, ¬ c ≤ ' ') {u' : Url}
    (h : parse scheme (text ++ '?' :: query) = .ok u') :
    ∃ (u : Url) (rest : List Char), (∀ c ∈ rest.head?, c = '?' ∨ c = '#') ∧
      parse scheme text = .ok (u.readBehind rest) ∧ ∀ query,
        parse scheme (text ++ '?' :: query) = .ok (u.readBehind (rest ++ '?' :: readableQuery query)) := by
  simp only [parse, bind, Except.bind, pure, Except.pure, readable_append _ htext] at h
  cases huser : readUser scheme.isWeb (readable scheme.isWeb text ++ '?' :: readableQuery query) with
  | error fault =>
    rw [huser] at h
    cases h
  | ok read =>
    obtain ⟨userInfo, rest'⟩ := read
    obtain ⟨rest, hplain, hqueries⟩ := readUser_append huser
    obtain rfl := (Prod.mk.inj (Except.ok.inj (huser.symm.trans (hqueries _)))).2
    simp only [huser, readHost_append] at h
    cases hhost : readHost scheme userInfo rest with
    | error fault =>
      rw [hhost] at h
      cases h
    | ok read =>
      obtain ⟨host, rest⟩ := read
      simp only [hhost, Except.map, behind, readPortMark_append] at h
      cases hport : readPortMark scheme rest with
      | error fault =>
        rw [hport] at h
        cases h
      | ok read =>
        obtain ⟨port, rest⟩ := read
        refine ⟨⟨scheme, userInfo, host, port, (readPath scheme.isWeb rest).1, none, none⟩, _,
          head?_readPath scheme.isWeb rest, ?_, fun query => ?_⟩
        · simp only [parse, bind, Except.bind, pure, Except.pure, hplain, hhost, hport, readBehind]
        · simp only [parse, bind, Except.bind, pure, Except.pure, readable_append _ htext, hqueries,
            readHost_append, hhost, Except.map, behind, readPortMark_append, hport, readPath_append,
            readBehind]

/-- **A query changes nothing in front of it.** If an address can be read with a query behind it, it
can be read without, and with any other; a plain one comes behind all that is there. -/
theorem parse_append_query (scheme : Scheme) {text query : List Char}
    (htext : ∀ c ∈ text.getLast?, ¬ c ≤ ' ') {u' : Url}
    (h : parse scheme (text ++ '?' :: query) = .ok u') :
    ∃ u, parse scheme text = .ok u ∧
      (∀ query, ∃ u', parse scheme (text ++ '?' :: query) = .ok u' ∧
        ∃ query fragment, u' = { u with query, fragment }) ∧
      ∀ query, IsPlainQuery query → parse scheme (text ++ '?' :: query) = .ok (u.addQuery query) := by
  obtain ⟨u, rest, hrest, hplain, hqueries⟩ := parse_append scheme htext h
  refine ⟨u.readBehind rest, hplain, fun query => ⟨_, hqueries query, _, _, rfl⟩,
    fun query hquery => ?_⟩
  rw [hqueries, readableQuery_of_plain hquery]
  exact congrArg Except.ok (readQuery_append u.scheme.isWeb hrest hquery u)

end BlobStore.Url
