import Mathlib
import BlobStore.Proofs.Text.Digits
import BlobStore.Url.Basic

/-!
# Characters of a host

Whatever the text of a host is, the host of a web address that is read off it has only characters
that part nothing of an address (`isAuthority_webHost`): addresses in numbers have digits and
their marks, labels of a name are asked for it, and the digits of a coded label are letters and
digits.
-/

namespace BlobStore

namespace Text

theorem exists_of_mem_digits {base n : Nat} (hbase : 1 < base) {c : Char} (h : c ∈ digits base n) :
    ∃ d < base, c = Nat.digitChar d := by
  induction n using Nat.strongRecOn with
  | ind n ih =>
    by_cases hn : n < base
    · have hone : digits base n = [n.digitChar] := Nat.toDigits_of_lt_base hn
      rw [hone, List.mem_singleton] at h
      exact ⟨n, hn, h⟩
    · have hsplit : digits base n = digits base (n / base) ++ [(n % base).digitChar] :=
        Nat.toDigits_of_base_le hbase (by omega)
      rw [hsplit, List.mem_append, List.mem_singleton] at h
      rcases h with h | rfl
      · exact ih (n / base) (Nat.div_lt_self (by omega) hbase) h
      · exact ⟨n % base, Nat.mod_lt n (by omega), rfl⟩

end Text

namespace Url

/-- The character parts nothing: it ends neither a user nor a host, and is no blank. -/
def isInside (c : Char) : Bool := ' ' < c && !endsAuthority true c && c ≠ '@'

/-- A host with a port or without one, as far as its characters go. -/
structure IsAuthority (text : List Char) : Prop where
  nonempty : text ≠ []
  inside : ∀ c ∈ text, isInside c = true

theorem forall_mem_intercalate {P : Char → Prop} {separator : List Char} {parts : List (List Char)}
    (hseparator : ∀ c ∈ separator, P c) (hparts : ∀ part ∈ parts, ∀ c ∈ part, P c) :
    ∀ c ∈ separator.intercalate parts, P c := by
  induction parts with
  | nil => simp [List.intercalate]
  | cons part parts ih =>
    obtain ⟨hpart, hrest⟩ := List.forall_mem_cons.mp hparts
    cases parts with
    | nil => rwa [List.intercalate_singleton]
    | cons next parts =>
      rw [List.intercalate_cons_cons, List.forall_mem_append, List.forall_mem_append]
      exact ⟨⟨hpart, hseparator⟩, ih hrest⟩

/-! ## Addresses in numbers -/

theorem isInside_of_mem_digits {base n : Nat} (hlow : 1 < base) (hhigh : base ≤ 16) {c : Char}
    (h : c ∈ Text.digits base n) : isInside c = true := by
  obtain ⟨d, hd, rfl⟩ := Text.exists_of_mem_digits hlow h
  have hall : ∀ d < 16, isInside (Nat.digitChar d) = true := by decide
  exact hall d (by omega)

theorem isAuthority_dottedText (n : Nat) : IsAuthority (dottedText n) where
  nonempty := by simp [dottedText, List.intercalate_cons_cons]
  inside := by
    refine forall_mem_intercalate (by simp; decide) fun part hpart => ?_
    obtain ⟨m, -, rfl⟩ := List.mem_map.mp hpart
    exact fun c => isInside_of_mem_digits (by decide) (by decide)

theorem isAuthority_groupsText (groups : List Nat) : IsAuthority (groupsText groups) where
  nonempty := List.cons_ne_nil _ _
  inside := by
    have hwrite : ∀ part : List Nat,
        ∀ c ∈ [':'].intercalate (part.map (Text.digits 16)), isInside c = true := by
      intro part
      refine forall_mem_intercalate (by simp; decide) fun ds hds => ?_
      obtain ⟨m, -, rfl⟩ := List.mem_map.mp hds
      exact fun c => isInside_of_mem_digits (by decide) (by decide)
    have hmark : isInside '[' = true ∧ isInside ']' = true ∧ isInside ':' = true := by decide
    simp only [groupsText, List.forall_mem_append, List.forall_mem_cons]
    refine ⟨⟨hmark.1, ?_⟩, hmark.2.1, List.forall_mem_nil _⟩
    split
    · exact hwrite groups
    · simp only [List.forall_mem_append, List.forall_mem_cons]
      exact ⟨⟨hwrite _, hmark.2.2, hmark.2.2, List.forall_mem_nil _⟩, hwrite _⟩

/-! ## Coded labels -/

theorem isInside_stepDigit {d : Nat} (h : d < 36) : isInside (stepDigit d) = true := by
  have hall : ∀ d < 36, isInside (stepDigit d) = true := by decide
  exact hall d h

theorem threshold_bounds (bias place : Nat) : 0 < threshold bias place ∧ threshold bias place ≤ 26 := by
  unfold threshold
  split
  · omega
  · split <;> omega

theorem isInside_of_mem_stepDigits {bias fuel q place : Nat} {c : Char}
    (h : c ∈ stepDigits bias fuel q place) : isInside c = true := by
  induction fuel generalizing q place with
  | zero => cases h
  | succ fuel ih =>
    obtain ⟨-, hhigh⟩ := threshold_bounds bias place
    rw [stepDigits] at h
    split at h
    · next hlast =>
      obtain rfl := List.mem_singleton.mp h
      exact isInside_stepDigit (by omega)
    · rcases List.mem_cons.mp h with rfl | h
      · refine isInside_stepDigit ?_
        have := Nat.mod_lt (q - threshold bias place)
          (show 0 < 36 - threshold bias place by omega)
        omega
      · exact ih h

/-- All that is written so far parts nothing. -/
def Coder.Clean (s : Coder) : Prop := ∀ c ∈ s.out, isInside c = true

theorem Coder.Clean.passCharacter {s : Coder} (h : s.Clean) (point : Nat) (c : Char) :
    (passCharacter point s c).Clean := by
  unfold Url.passCharacter
  split
  · exact h
  · split
    · exact List.forall_mem_append.mpr ⟨h, fun _ => isInside_of_mem_stepDigits⟩
    · exact h

theorem Coder.Clean.writePoints {s : Coder} (h : s.Clean) (name : List Char) (points : List Nat) :
    (writePoints name points s).Clean := by
  induction points generalizing s with
  | nil => exact h
  | cons point points ih =>
    have hpass : ∀ (text : List Char) (s : Coder), s.Clean →
        (text.foldl (Url.passCharacter point) s).Clean := by
      intro text
      induction text with
      | nil => exact fun s hs => hs
      | cons c text ih => exact fun s hs => ih _ (hs.passCharacter point c)
    exact ih (hpass name { s with delta := _ } h)

theorem isInside_of_mem_punycode {name : List Char}
    (h : ∀ c ∈ name, isInside c = true) {c : Char} (hc : c ∈ punycode name) : isInside c = true := by
  refine Coder.Clean.writePoints ?_ _ _ c hc
  have hbasic : ∀ c ∈ name.filter (·.toNat < 128), isInside c = true :=
    fun c hc => h c (List.mem_of_mem_filter hc)
  simp only [Coder.Clean]
  split
  · exact List.forall_mem_nil _
  · exact List.forall_mem_append.mpr ⟨hbasic, by simp; decide⟩

theorem isInside_of_stepDigitValue? {c : Char} {d : Nat} (h : stepDigitValue? c = some d) :
    isInside c = true := by
  have hall : ∀ n < 128, (stepDigitValue? (.ofNat n)).isSome = true → isInside (.ofNat n) = true := by
    decide
  have hsome : (stepDigitValue? c).isSome = true := by rw [h]; rfl
  have hlow : c.toNat < 128 := by
    unfold stepDigitValue? at h
    split at h
    · next hletter =>
      have : c.toNat ≤ 'z'.toNat := hletter.2
      exact Nat.lt_of_le_of_lt this (by decide)
    · split at h
      · next hdigit =>
        have : c.toNat ≤ '9'.toNat := hdigit.2
        exact Nat.lt_of_le_of_lt this (by decide)
      · cases h
  have hc := hall c.toNat hlow
  rw [Char.ofNat_toNat] at hc
  exact hc hsome

theorem Decoder.mem_of_putIn {s s' : Decoder} (h : s.putIn = some s') :
    ∀ c ∈ s.name, c ∈ s'.name := by
  simp only [putIn] at h
  split at h
  · obtain rfl := Option.some.inj h
    intro c hc
    have hposition : s.counter % (s.name.length + 1) ≤ s.name.length :=
      Nat.le_of_lt_succ (Nat.mod_lt _ (Nat.succ_pos _))
    exact (List.mem_insertIdx hposition).mpr (.inr hc)
  · cases h

theorem Decoder.of_read {s s' : Decoder} {c : Char} (h : s.read c = some s') :
    isInside c = true ∧ ∀ d ∈ s.name, d ∈ s'.name := by
  simp only [read, Option.bind_eq_bind, Option.bind_eq_some_iff] at h
  obtain ⟨d, hd, h⟩ := h
  refine ⟨isInside_of_stepDigitValue? hd, ?_⟩
  split at h
  · cases h
  · split at h
    · have hput := mem_of_putIn h
      exact hput
    · split at h
      · cases h
      · obtain rfl := Option.some.inj h
        exact fun d hd => hd

theorem Decoder.of_foldlM_read {steps : List Char} {s s' : Decoder}
    (h : steps.foldlM Decoder.read s = some s') :
    (∀ c ∈ steps, isInside c = true) ∧ ∀ c ∈ s.name, c ∈ s'.name := by
  induction steps generalizing s with
  | nil =>
    obtain rfl := Option.some.inj h
    exact ⟨List.forall_mem_nil _, fun _ hc => hc⟩
  | cons c steps ih =>
    rw [List.foldlM_cons, Option.bind_eq_bind, Option.bind_eq_some_iff] at h
    obtain ⟨m, hread, h⟩ := h
    obtain ⟨hc, hkept⟩ := of_read hread
    obtain ⟨hsteps, hrest⟩ := ih h
    exact ⟨List.forall_mem_cons.mpr ⟨hc, hsteps⟩, fun d hd => hrest d (hkept d hd)⟩

theorem exists_behindHyphen (code : List Char) : ∃ before,
    code.take (code.length - (code.reverse.takeWhile (· ≠ '-')).reverse.length) = before ∧
      code = before ++ (code.reverse.takeWhile (· ≠ '-')).reverse ∧
      (before = [] ∨ before = before.dropLast ++ ['-']) := by
  have hcode : code = (code.reverse.dropWhile (· ≠ '-')).reverse ++
      (code.reverse.takeWhile (· ≠ '-')).reverse := by
    rw [← List.reverse_append, List.takeWhile_append_dropWhile, List.reverse_reverse]
  have htake : ∀ before steps : List Char,
      (before ++ steps).take ((before ++ steps).length - steps.length) = before := by
    intro before steps
    rw [List.length_append, Nat.add_sub_cancel, List.take_left]
  refine ⟨_, ?_, hcode, ?_⟩
  · have hbefore := htake (code.reverse.dropWhile (· ≠ '-')).reverse
      (code.reverse.takeWhile (· ≠ '-')).reverse
    rwa [← hcode] at hbefore
  · have hstop := List.head?_dropWhile_not (· ≠ '-') code.reverse
    cases hbefore : code.reverse.dropWhile (· ≠ '-') with
    | nil => exact .inl rfl
    | cons c before =>
      rw [hbefore] at hstop
      obtain rfl : c = '-' := by simpa using hstop
      refine .inr ?_
      rw [List.reverse_cons, List.dropLast_concat]

theorem isInside_of_depunycode? {code meant : List Char} (h : depunycode? code = some meant)
    (hmeant : ∀ c ∈ meant, isInside c = true) : ∀ c ∈ code, isInside c = true := by
  obtain ⟨before, hbefore, hcode, hhyphen⟩ := exists_behindHyphen code
  simp only [depunycode?, hbefore] at h
  split at h
  · cases h
  rw [Option.bind_eq_some_iff] at h
  obtain ⟨s, hread, hfinish⟩ := h
  obtain ⟨hsteps, hkept⟩ := Decoder.of_foldlM_read hread
  have hname : s.name = meant := by
    simp only [Decoder.finish?] at hfinish
    split at hfinish
    · exact Option.some.inj hfinish
    · cases hfinish
  have hbasic : ∀ c ∈ before.dropLast, isInside c = true := fun c hc => hmeant c (hname ▸ hkept c hc)
  rw [hcode]
  refine List.forall_mem_append.mpr ⟨?_, hsteps⟩
  rcases hhyphen with rfl | heq
  · exact List.forall_mem_nil _
  · rw [heq]
    exact List.forall_mem_append.mpr ⟨hbasic, by simp; decide⟩

/-! ## Names -/

theorem isInside_of_not_isDomainBreaker {c : Char} (h : isDomainBreaker c = false) :
    isInside c = true := by
  simp only [isDomainBreaker, isHostBreaker, Bool.or_eq_false_iff, decide_eq_false_iff_not] at h
  obtain ⟨⟨⟨⟨-, hmarks⟩, -⟩, hlow⟩, -⟩ := h
  have hne : ∀ d, "\t\n\r #/:<>?@[\\]^|".toList.contains d = true → c ≠ d := by
    rintro d hd rfl
    rw [hd] at hmarks
    cases hmarks
  have hspace : ' ' < c := by
    have hnot : c.toNat ≠ ' '.toNat := fun heq => hne ' ' (by decide) (Char.toNat_inj.mp heq)
    have hle : ' '.toNat = 32 := rfl
    have hlt : ' '.toNat < c.toNat := by omega
    exact hlt
  simp [isInside, endsAuthority, hspace, hne '/' (by decide), hne '?' (by decide),
    hne '#' (by decide), hne '\\' (by decide), hne '@' (by decide)]

theorem exists_of_mem_mapM {α β : Type} {f : α → Option β} {items : List α} {results : List β}
    (h : items.mapM f = some results) {b : β} (hb : b ∈ results) : ∃ a ∈ items, f a = some b := by
  induction items generalizing results with
  | nil =>
    obtain rfl := Option.some.inj h
    cases hb
  | cons a items ih =>
    simp only [List.mapM_cons, Option.bind_eq_bind, Option.bind_eq_some_iff] at h
    obtain ⟨first, hfirst, rest, hrest, h⟩ := h
    obtain rfl := Option.some.inj h
    rcases List.mem_cons.mp hb with rfl | hb
    · exact ⟨a, List.mem_cons_self, hfirst⟩
    · obtain ⟨a', ha', hf⟩ := ih hrest hb
      exact ⟨a', List.mem_cons_of_mem _ ha', hf⟩

namespace Domain

theorem isInside_of_isSound {meant : List Char} (h : Label.isSound meant = true) :
    ∀ c ∈ meant, isInside c = true := by
  simp only [Label.isSound, Bool.and_eq_true, Bool.not_eq_true', List.any_eq_false] at h
  exact fun c hc => isInside_of_not_isDomainBreaker (by simpa using h.1.1.1 c hc)

theorem isInside_of_mem_codeMark_append {code : List Char} (h : ∀ c ∈ code, isInside c = true) :
    ∀ c ∈ codeMark ++ code, isInside c = true :=
  List.forall_mem_append.mpr ⟨List.all_eq_true.mp (by decide), h⟩

theorem isInside_of_read? {text : List Char} {label : Label} (h : Label.read? text = some label) :
    ∀ c ∈ label.written, isInside c = true := by
  unfold Label.read? at h
  split at h
  · simp only [Label.decode?, Option.bind_eq_bind] at h
    split at h
    · cases h
    · obtain ⟨meant, hmeant, h⟩ := Option.bind_eq_some_iff.mp h
      split at h
      · next hsound =>
        obtain rfl := Option.some.inj h
        rw [Bool.and_eq_true] at hsound
        exact isInside_of_mem_codeMark_append
          (isInside_of_depunycode? hmeant (isInside_of_isSound hsound.2))
      · cases h
  · split at h
    · cases h
    · next hsound =>
      obtain rfl := Option.some.inj h
      have hinside := isInside_of_isSound (by simpa using hsound)
      dsimp only
      split
      · exact hinside
      · exact isInside_of_mem_codeMark_append fun c => isInside_of_mem_punycode hinside

theorem isInside_of_written? {text name : List Char} (h : written? text = some name) :
    ∀ c ∈ name, isInside c = true := by
  obtain ⟨labels, hlabels, rfl⟩ := Option.map_eq_some_iff.mp h
  refine forall_mem_intercalate (by simp; decide) fun part hpart => ?_
  obtain ⟨label, hlabel, rfl⟩ := List.mem_map.mp hpart
  simp only [labels?, Option.bind_eq_bind] at hlabels
  obtain ⟨folded, -, hlabels⟩ := Option.bind_eq_some_iff.mp hlabels
  obtain ⟨read, hread, hlabels⟩ := Option.bind_eq_some_iff.mp hlabels
  split at hlabels
  · cases hlabels
  · obtain rfl := Option.some.inj hlabels
    obtain ⟨piece, -, hlabel⟩ := exists_of_mem_mapM hread hlabel
    exact isInside_of_read? hlabel

end Domain

theorem isAuthority_bracketed? {text host : List Char} (h : bracketed? text = some (.ok host)) :
    IsAuthority host := by
  unfold bracketed? at h
  split at h
  · have hgroups := Option.some.inj h
    split at hgroups
    · next rest _ =>
      cases hread : parseGroups rest.dropLast with
      | error fault =>
        rw [hread] at hgroups
        cases hgroups
      | ok groups =>
        rw [hread] at hgroups
        obtain rfl := Except.ok.inj hgroups
        exact isAuthority_groupsText groups
    · cases hgroups
  · cases h

theorem isInside_of_domain {bytes : List UInt8} {name : List Char} (h : domain bytes = .ok name) :
    ∀ c ∈ name, isInside c = true := by
  unfold domain at h
  split at h
  · next hwritten =>
    obtain rfl := Except.ok.inj h
    obtain ⟨text, -, hwritten⟩ := Option.bind_eq_some_iff.mp hwritten
    exact Domain.isInside_of_written? hwritten
  · cases h

/-- **The host of a web address parts nothing.** -/
theorem isAuthority_webHost {text host : List Char} (h : webHost text = .ok host) :
    IsAuthority host := by
  unfold webHost at h
  split at h
  · next hbracketed =>
    rw [h] at hbracketed
    exact isAuthority_bracketed? hbracketed
  · simp only [bind, Except.bind, pure, Except.pure, throw, throwThe, MonadExceptOf.throw] at h
    cases hname : domain (decode text) with
    | error fault =>
      rw [hname] at h
      cases h
    | ok name =>
      simp only [hname] at h
      split at h
      · cases h
      next hne =>
      split at h
      · cases hdotted : parseDotted name with
        | error fault =>
          rw [hdotted] at h
          cases h
        | ok n =>
          rw [hdotted] at h
          obtain rfl := Except.ok.inj h
          exact isAuthority_dottedText n
      · obtain rfl := Except.ok.inj h
        exact ⟨hne, isInside_of_domain hname⟩

end Url

end BlobStore
