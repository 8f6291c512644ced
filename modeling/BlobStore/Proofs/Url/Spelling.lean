import Mathlib
import BlobStore.Proofs.Key.Join
import BlobStore.Proofs.Url.Path
import BlobStore.Proofs.Url.Query

/-!
# What an escaped path is read as

Escaping a text for a path keeps the marks of escapes that are in it, so the path is read as the text
is read (`decode_encode_inPath`). A text without such escapes is read as its own bytes, any other as
fewer (`decode_cases`); and a path has fewer segments than its text if some read as dots
(`length_decode_resolve`). So the length tells whether a path is read as the text that it was made of.
-/

namespace BlobStore.Url

open Key (split glue)
open Text (digitValue?)

/-! ## Escapes in a text -/

/-- A percent sign with two hexadecimal digits behind it. -/
def IsEscape (a x y : Char) : Prop :=
  a = '%' ∧ (digitValue? 16 x).isSome = true ∧ (digitValue? 16 y).isSome = true

/-- There is an escape somewhere in the text. -/
def HasEscape (text : List Char) : Prop := ∃ a x y, [a, x, y] <:+: text ∧ IsEscape a x y

/-- The text starts with two hexadecimal digits. -/
def StartsHex (text : List Char) : Prop :=
  ∃ x y rest, text = x :: y :: rest ∧ (digitValue? 16 x).isSome = true ∧
    (digitValue? 16 y).isSome = true

theorem hasEscape_cons {c : Char} {rest : List Char} :
    HasEscape (c :: rest) ↔ (c = '%' ∧ StartsHex rest) ∨ HasEscape rest := by
  constructor
  · rintro ⟨a, x, y, hinfix, rfl, hx, hy⟩
    rcases List.infix_cons_iff.mp hinfix with ⟨after, heq⟩ | hinfix
    · obtain ⟨rfl, hrest⟩ := List.cons.inj heq
      exact .inl ⟨rfl, x, y, after, hrest.symm, hx, hy⟩
    · exact .inr ⟨_, x, y, hinfix, rfl, hx, hy⟩
  · rintro (⟨rfl, x, y, after, rfl, hx, hy⟩ | ⟨a, x, y, hinfix, hescape⟩)
    · exact ⟨'%', x, y, ⟨[], after, rfl⟩, rfl, hx, hy⟩
    · exact ⟨a, x, y, List.infix_cons_iff.mpr (.inr hinfix), hescape⟩

theorem decode_mark {rest : List Char} (h : ¬ StartsHex rest) :
    decode ('%' :: rest) = 37 :: decode rest := by
  match rest with
  | [] => rfl
  | [x] => rfl
  | x :: y :: rest =>
    rw [decode]
    split
    · next hx hy => exact absurd ⟨x, y, rest, rfl, by rw [hx]; rfl, by rw [hy]; rfl⟩ h
    · rfl

theorem exists_decode_escape {x y : Char} (hx : (digitValue? 16 x).isSome = true)
    (hy : (digitValue? 16 y).isSome = true) :
    ∃ byte, ∀ after, decode ('%' :: x :: y :: after) = byte :: decode after := by
  obtain ⟨m, hm⟩ := Option.isSome_iff_exists.mp hx
  obtain ⟨n, hn⟩ := Option.isSome_iff_exists.mp hy
  exact ⟨_, fun after => by rw [decode, hm, hn]⟩

/-- A text is read character by character, or escape by escape. -/
theorem reading_induction {P : List Char → Prop} (nil : P [])
    (char : ∀ c rest, c ≠ '%' → P rest → P (c :: rest))
    (mark : ∀ rest, ¬ StartsHex rest → P rest → P ('%' :: rest))
    (escape : ∀ x y after, (digitValue? 16 x).isSome = true → (digitValue? 16 y).isSome = true →
      P after → P ('%' :: x :: y :: after))
    (text : List Char) : P text := by
  induction hn : text.length using Nat.strong_induction_on generalizing text with
  | _ n ih =>
    cases text with
    | nil => exact nil
    | cons c rest =>
      have hrest : P rest := ih _ (by rw [← hn, List.length_cons]; omega) rest rfl
      by_cases hc : c = '%'
      · subst hc
        by_cases hhex : StartsHex rest
        · obtain ⟨x, y, after, rfl, hx, hy⟩ := hhex
          exact escape x y after hx hy (ih _ (by simp at hn; omega) after rfl)
        · exact mark rest hhex hrest
      · exact char c rest hc hrest

theorem length_utf8EncodeChar_pos (c : Char) : 0 < (String.utf8EncodeChar c).length := by
  rw [String.length_utf8EncodeChar]
  exact c.utf8Size_pos

theorem utf8EncodeChar_mark : String.utf8EncodeChar '%' = [37] := by decide

theorem decode_cases (text : List Char) :
    (¬ HasEscape text ∧ decode text = text.flatMap String.utf8EncodeChar) ∨
      (HasEscape text ∧ (decode text).length < (text.flatMap String.utf8EncodeChar).length) := by
  induction text using reading_induction with
  | nil =>
    refine .inl ⟨?_, rfl⟩
    rintro ⟨a, x, y, hinfix, -⟩
    cases List.eq_nil_of_infix_nil hinfix
  | char c rest hc ih =>
    have hsame : HasEscape (c :: rest) ↔ HasEscape rest :=
      hasEscape_cons.trans (or_iff_right fun h => hc h.1)
    rw [hsame, decode_cons hc, List.flatMap_cons, List.length_append, List.length_append]
    exact ih.imp (And.imp_right (congrArg _)) (And.imp_right (Nat.add_lt_add_left · _))
  | mark rest hhex ih =>
    have hsame : HasEscape ('%' :: rest) ↔ HasEscape rest :=
      hasEscape_cons.trans (or_iff_right fun h => hhex h.2)
    rw [hsame, decode_mark hhex, List.flatMap_cons, utf8EncodeChar_mark, List.singleton_append,
      List.length_cons, List.length_cons]
    exact ih.imp (And.imp_right (congrArg _)) (And.imp_right Nat.succ_lt_succ)
  | escape x y after hx hy ih =>
    refine .inr ⟨hasEscape_cons.mpr (.inl ⟨rfl, x, y, after, rfl, hx, hy⟩), ?_⟩
    obtain ⟨byte, hdecode⟩ := exists_decode_escape hx hy
    have hle : (decode after).length ≤ (after.flatMap String.utf8EncodeChar).length :=
      ih.elim (fun h => (congrArg List.length h.2).le) fun h => h.2.le
    have hxpos := length_utf8EncodeChar_pos x
    have hypos := length_utf8EncodeChar_pos y
    simp only [hdecode, List.flatMap_cons, utf8EncodeChar_mark, List.length_append, List.length_cons,
      List.length_nil]
    omega

theorem length_decode_le (text : List Char) :
    (decode text).length ≤ (text.flatMap String.utf8EncodeChar).length :=
  (decode_cases text).elim (fun h => (congrArg List.length h.2).le) fun h => h.2.le

theorem decode_of_not_hasEscape {text : List Char} (h : ¬ HasEscape text) :
    decode text = text.flatMap String.utf8EncodeChar :=
  (decode_cases text).elim And.right fun h' => absurd h'.1 h

theorem not_hasEscape_of_le {text : List Char}
    (h : (text.flatMap String.utf8EncodeChar).length ≤ (decode text).length) : ¬ HasEscape text :=
  (decode_cases text).elim And.left fun h' => absurd h (Nat.not_le.mpr h'.2)

/-! ## Escaping for a path -/

theorem inPath_of_digitValue? {x : Char} (h : (digitValue? 16 x).isSome = true) : inPath x = true := by
  have hlow : x.toNat < 128 := by
    by_contra hhigh
    have hnot : ∀ d : Char, d.toNat < 128 → ¬ x ≤ d := fun d hd hle => by
      have : x.toNat ≤ d.toNat := hle
      omega
    simp [digitValue?, hnot] at h
  revert h
  refine forall_ascii (P := fun x => (digitValue? 16 x).isSome = true → inPath x = true) ?_ hlow
  decide

theorem exists_of_encode_eq_cons {text tail : List Char} {x : Char}
    (h : encode inPath text = x :: tail) (hx : (digitValue? 16 x).isSome = true) :
    ∃ rest, text = x :: rest ∧ encode inPath rest = tail := by
  cases text with
  | nil => cases h
  | cons c rest =>
    rw [encode_cons] at h
    split at h
    · obtain ⟨rfl, htail⟩ := List.cons.inj h
      exact ⟨rest, rfl, htail⟩
    · -- an escape starts with its mark, which is no digit
      obtain ⟨byte, bytes, hbytes⟩ := List.exists_cons_of_length_pos (length_utf8EncodeChar_pos c)
      rw [hbytes, List.flatMap_cons] at h
      obtain ⟨rfl, -⟩ := List.cons.inj h
      cases hx

theorem startsHex_encode_iff {text : List Char} :
    StartsHex (encode inPath text) ↔ StartsHex text := by
  constructor
  · rintro ⟨x, y, tail, heq, hx, hy⟩
    obtain ⟨rest, rfl, hrest⟩ := exists_of_encode_eq_cons heq hx
    obtain ⟨rest, rfl, -⟩ := exists_of_encode_eq_cons hrest hy
    exact ⟨x, y, rest, rfl, hx, hy⟩
  · rintro ⟨x, y, rest, rfl, hx, hy⟩
    refine ⟨x, y, encode inPath rest, ?_, hx, hy⟩
    rw [encode_cons, if_pos (inPath_of_digitValue? hx), encode_cons,
      if_pos (inPath_of_digitValue? hy)]
    rfl

/-- **Escaping for a path changes nothing in how a text is read.** -/
theorem decode_encode_inPath (text : List Char) : decode (encode inPath text) = decode text := by
  have hmark : ∀ rest, encode inPath ('%' :: rest) = '%' :: encode inPath rest := fun _ => rfl
  induction text using reading_induction with
  | nil => rfl
  | char c rest hc ih =>
    rw [encode_cons, decode_cons hc, ← ih]
    split
    · rw [List.singleton_append, decode_cons hc]
    · rw [decode_escapes]
  | mark rest hhex ih =>
    rw [hmark, decode_mark (mt startsHex_encode_iff.mp hhex), decode_mark hhex, ih]
  | escape x y after hx hy ih =>
    obtain ⟨byte, hdecode⟩ := exists_decode_escape hx hy
    rw [hmark, encode_cons, if_pos (inPath_of_digitValue? hx), encode_cons,
      if_pos (inPath_of_digitValue? hy), List.singleton_append, List.singleton_append, hdecode, hdecode,
      ih]

theorem decode_append_slash (text rest : List Char) :
    decode (text ++ '/' :: rest) = decode text ++ 47 :: decode rest := by
  have hslash : ∀ rest, decode ('/' :: rest) = 47 :: decode rest := fun rest =>
    decode_cons (by decide) rest
  induction text using reading_induction with
  | nil => exact hslash rest
  | char c text hc ih =>
    rw [List.cons_append, decode_cons hc, decode_cons hc, ih, List.append_assoc]
  | mark text hhex ih =>
    have hnot : ¬ StartsHex (text ++ '/' :: rest) := by
      rintro ⟨x, y, after, heq, hx, hy⟩
      match text, hhex with
      | [], _ =>
        obtain ⟨rfl, -⟩ := List.cons.inj heq
        cases hx
      | [a], _ =>
        obtain ⟨rfl, -⟩ := List.cons.inj (List.cons.inj heq).2
        cases hy
      | a :: b :: text, hhex =>
        obtain ⟨rfl, htail⟩ := List.cons.inj heq
        obtain ⟨rfl, -⟩ := List.cons.inj htail
        exact hhex ⟨_, _, text, rfl, hx, hy⟩
    rw [List.cons_append, decode_mark hnot, decode_mark hhex, ih, List.cons_append]
  | escape x y after hx hy ih =>
    obtain ⟨byte, hdecode⟩ := exists_decode_escape hx hy
    rw [List.cons_append, List.cons_append, List.cons_append, hdecode, hdecode, ih, List.cons_append]

/-! ## How long a path is read -/

/-- As how many bytes segments are read, with a slash for each. -/
def weight (segments : List (List Char)) : Nat := (segments.map fun s => (decode s).length + 1).sum

theorem weight_cons (segment : List Char) (rest : List (List Char)) :
    weight (segment :: rest) = (decode segment).length + 1 + weight rest := by
  rw [weight, List.map_cons, List.sum_cons, weight]

theorem weight_append (a b : List (List Char)) : weight (a ++ b) = weight a + weight b := by
  rw [weight, List.map_append, List.sum_append, weight, weight]

theorem weight_dropLast_le (segments : List (List Char)) : weight segments.dropLast ≤ weight segments := by
  obtain rfl | ⟨init, last, rfl⟩ := List.eq_nil_or_concat segments
  · exact le_rfl
  · rw [List.concat_eq_append, List.dropLast_concat, weight_append]
    exact Nat.le_add_right _ _

theorem length_decode_pos {text : List Char} (h : text ≠ []) : 0 < (decode text).length := by
  cases text using reading_induction with
  | nil => exact absurd rfl h
  | char c rest hc ih =>
    rw [decode_cons hc, List.length_append]
    exact Nat.add_pos_left (length_utf8EncodeChar_pos c) _
  | mark rest hhex ih =>
    rw [decode_mark hhex]
    exact Nat.succ_pos _
  | escape x y after hx hy ih =>
    obtain ⟨byte, hdecode⟩ := exists_decode_escape hx hy
    rw [hdecode]
    exact Nat.succ_pos _

theorem length_decode_glue {segments : List (List Char)} (h : segments ≠ []) :
    (decode (glue segments)).length + 1 = weight segments := by
  induction segments with
  | nil => exact absurd rfl h
  | cons segment rest ih =>
    cases rest with
    | nil => simp [glue, weight]
    | cons next rest =>
      rw [Key.glue_cons_cons, decode_append_slash, weight_cons, ← ih (List.cons_ne_nil _ _),
        List.length_append, List.length_cons]
      omega

theorem length_decode_assemble (folders : List (List Char)) (last : List Char) :
    (decode (assemble folders last)).length = weight (folders ++ [last]) := by
  rw [assemble_eq, ← List.nil_append ('/' :: _), decode_append_slash, decode, List.nil_append,
    List.length_cons, length_decode_glue (by simp)]

theorem weight_enter (folders : List (List Char)) (segment : List Char) :
    weight (enter folders segment) ≤ weight folders + ((decode segment).length + 1) ∧
      (¬ Plain segment → weight (enter folders segment) ≤ weight folders) := by
  have hdrop := weight_dropLast_le folders
  unfold enter
  split
  · split
    · exact ⟨Nat.le_add_right _ _, fun _ => le_rfl⟩
    · exact ⟨by omega, fun _ => hdrop⟩
  · next hclimb =>
    split
    · exact ⟨Nat.le_add_right _ _, fun _ => le_rfl⟩
    · next hstays =>
      rw [weight_append, weight_cons]
      exact ⟨le_rfl, fun h => absurd ⟨hstays, hclimb⟩ h⟩

theorem length_decode_resolve {segments : List (List Char)} (h : segments ≠ [])
    (folders : List (List Char)) :
    (decode (resolve folders segments)).length ≤ weight folders + weight segments ∧
      (¬ (∀ s ∈ segments, Plain s) →
        (decode (resolve folders segments)).length < weight folders + weight segments) := by
  induction segments generalizing folders with
  | nil => exact absurd rfl h
  | cons segment rest ih =>
    obtain ⟨hle, hless⟩ := weight_enter folders segment
    rw [weight_cons]
    by_cases hrest : rest = []
    · subst hrest
      rw [resolve, List.forall_mem_singleton, show weight [] = 0 from rfl, Nat.add_zero]
      split
      · next hdots =>
        have hplain : ¬ Plain segment := fun hplain => hdots.elim hplain.noClimb hplain.stays
        have hpos : 0 < (decode segment).length := by
          refine length_decode_pos fun hnil => ?_
          rw [hnil] at hdots
          cases hdots <;> contradiction
        have hshort := hless hplain
        rw [length_decode_assemble, weight_append, weight_cons, decode, List.length_nil,
          show weight [] = 0 from rfl]
        omega
      · next hdots =>
        rw [not_or] at hdots
        rw [length_decode_assemble, weight_append, weight_cons, show weight [] = 0 from rfl]
        exact ⟨le_rfl, fun h => absurd ⟨hdots.2, hdots.1⟩ h⟩
    · obtain ⟨hle', hless'⟩ := ih hrest (enter folders segment)
      rw [resolve_cons hrest, List.forall_mem_cons]
      refine ⟨by omega, fun hnot => ?_⟩
      by_cases hplain : Plain segment
      · have := hless' fun hall => hnot ⟨hplain, hall⟩
        omega
      · have := hless hplain
        omega

theorem decode_pathOf_of_plain {text : List Char}
    (h : ∀ s ∈ (split text).map (encode inPath), Plain s) :
    decode (pathOf false text) = 47 :: decode text := by
  have hne : (split text).map (encode inPath) ≠ [] := by simp [Key.split_ne_nil]
  rw [show pathOf false text = resolve [] ((split text).map (encode inPath)) from rfl,
    resolve_of_plain hne h, List.nil_append, glue_map_encode (by decide), ← List.nil_append ('/' :: _),
    decode_append_slash, decode_encode_inPath]
  rfl

theorem length_decode_pathOf (text : List Char) :
    (decode (pathOf false text)).length ≤ (decode text).length + 1 ∧
      ((decode text).length + 1 ≤ (decode (pathOf false text)).length →
        decode (pathOf false text) = 47 :: decode text) := by
  have hne : (split text).map (encode inPath) ≠ [] := by simp [Key.split_ne_nil]
  have hweight : weight ((split text).map (encode inPath)) = (decode text).length + 1 := by
    rw [← length_decode_glue hne, glue_map_encode (by decide), decode_encode_inPath]
  obtain ⟨hle, hless⟩ := length_decode_resolve hne []
  rw [hweight, show weight [] = 0 from rfl, Nat.zero_add] at hle hless
  refine ⟨hle, fun hlong => decode_pathOf_of_plain ?_⟩
  by_contra hnot
  exact absurd (hless hnot) (Nat.not_lt.mpr hlong)

/-! ## Texts that are read as they are spelled -/

theorem infix_glue {pieces : List (List Char)} {piece : List Char} (h : piece ∈ pieces) :
    piece <:+: glue pieces := by
  induction pieces with
  | nil => cases h
  | cons first rest ih =>
    cases rest with
    | nil =>
      obtain rfl := List.mem_singleton.mp h
      simp [glue]
    | cons next rest =>
      rw [Key.glue_cons_cons]
      rcases List.mem_cons.mp h with rfl | hrest
      · exact (List.prefix_append _ _).isInfix
      · exact (ih hrest).trans ((List.suffix_cons _ _).trans (List.suffix_append _ _)).isInfix

theorem plain_encode_inPath {name : List Char} (hescape : ¬ HasEscape name)
    (hname : Key.isName name = true) : Plain (encode inPath name) := by
  have hread : ∀ dots : List Char, (∀ c ∈ dots, c = '.') → plainDots (encode inPath name) = dots →
      name = dots := by
    intro dots hdots h
    have hdecode := decode_of_plainDots (h ▸ hdots)
    rw [decode_encode_inPath, decode_of_not_hasEscape hescape, h] at hdecode
    exact flatMap_utf8EncodeChar_injective hdecode
  obtain ⟨-, hstays, hclimb⟩ := Key.isName_iff.mp hname
  exact ⟨fun h => hstays (hread _ (by simp) h), fun h => hclimb (hread _ (by simp) h)⟩

end BlobStore.Url
