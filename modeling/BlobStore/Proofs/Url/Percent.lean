import Mathlib
import BlobStore.Proofs.Text.Bytes
import BlobStore.Url.Path

/-!
# Escapes are read back

A text that was escaped stands for its own bytes again (`decode_encode_append`), if the mark of an
escape was escaped too. So no two texts are escaped alike, and a segment that is escaped reads as
dots only if it is dots (`eq_of_plainDots_encode`).
-/

namespace BlobStore.Url

open Text (digitValue?)

/-! ## What an escaped text is made of -/

theorem digitValue?_upperHex {n : Nat} (h : n < 16) : digitValue? 16 (upperHex n) = some n := by
  have hall : ∀ n < 16, digitValue? 16 (upperHex n) = some n := by decide
  exact hall n h

theorem forall_mem_encode {keep : Char → Bool} {P : Char → Prop} {text : List Char}
    (hkeep : ∀ c ∈ text, keep c = true → P c) (hmark : P '%') (hdigit : ∀ n < 16, P (upperHex n)) :
    ∀ c ∈ encode keep text, P c := by
  intro c hc
  obtain ⟨d, hd, hc⟩ := List.mem_flatMap.mp hc
  split at hc
  · next hkept =>
    obtain rfl := List.mem_singleton.mp hc
    exact hkeep c hd hkept
  · obtain ⟨byte, -, hc⟩ := List.mem_flatMap.mp hc
    have hlow := byte.toNat_lt
    simp only [escapeByte, List.mem_cons, List.not_mem_nil, or_false] at hc
    obtain rfl | rfl | rfl := hc
    · exact hmark
    · exact hdigit _ (by omega)
    · exact hdigit _ (by omega)

theorem encode_cons (keep : Char → Bool) (c : Char) (text : List Char) :
    encode keep (c :: text) =
      (if keep c then [c] else (String.utf8EncodeChar c).flatMap escapeByte) ++ encode keep text :=
  List.flatMap_cons

theorem encode_of_forall {keep : Char → Bool} {text : List Char} (h : ∀ c ∈ text, keep c = true) :
    encode keep text = text := by
  induction text with
  | nil => rfl
  | cons c text ih =>
    obtain ⟨hc, htext⟩ := List.forall_mem_cons.mp h
    rw [encode, List.flatMap_cons, if_pos hc, List.singleton_append]
    exact congrArg (c :: ·) (ih htext)

theorem encode_append (keep : Char → Bool) (a b : List Char) :
    encode keep (a ++ b) = encode keep a ++ encode keep b :=
  List.flatMap_append

/-! ## Reading back -/

theorem decode_escapeByte (b : UInt8) (rest : List Char) :
    decode (escapeByte b ++ rest) = b :: decode rest := by
  have hlow := b.toNat_lt
  have hhigh : digitValue? 16 (upperHex (b.toNat / 16)) = some (b.toNat / 16) :=
    digitValue?_upperHex (by omega)
  have hrest : digitValue? 16 (upperHex (b.toNat % 16)) = some (b.toNat % 16) :=
    digitValue?_upperHex (by omega)
  have hbyte : UInt8.ofNat (16 * (b.toNat / 16) + b.toNat % 16) = b := by
    rw [Nat.div_add_mod]
    exact UInt8.ofNat_toNat
  simp only [escapeByte, List.cons_append, List.nil_append, decode, hhigh, hrest, hbyte]

theorem decode_escapes (bytes : List UInt8) (rest : List Char) :
    decode (bytes.flatMap escapeByte ++ rest) = bytes ++ decode rest := by
  induction bytes with
  | nil => rfl
  | cons b bytes ih =>
    rw [List.flatMap_cons, List.append_assoc, decode_escapeByte, ih, List.cons_append]

theorem decode_cons {c : Char} (h : c ≠ '%') (rest : List Char) :
    decode (c :: rest) = String.utf8EncodeChar c ++ decode rest := by
  rw [decode]
  rintro a b rest' rfl
  exact absurd rfl h

/-- **What was escaped is read back.** -/
theorem decode_encode_append {keep : Char → Bool} {text : List Char}
    (h : ∀ c ∈ text, keep c = true → c ≠ '%') (rest : List Char) :
    decode (encode keep text ++ rest) = text.flatMap String.utf8EncodeChar ++ decode rest := by
  induction text with
  | nil => rfl
  | cons c text ih =>
    obtain ⟨hc, htext⟩ := List.forall_mem_cons.mp h
    rw [encode_cons, List.append_assoc, List.flatMap_cons, List.append_assoc, ← ih htext]
    by_cases hkept : keep c = true
    · rw [if_pos hkept, List.singleton_append, decode_cons (hc hkept)]
    · rw [if_neg hkept, decode_escapes]

theorem decode_encode {keep : Char → Bool} {text : List Char}
    (h : ∀ c ∈ text, keep c = true → c ≠ '%') :
    decode (encode keep text) = text.flatMap String.utf8EncodeChar := by
  have hread := decode_encode_append h []
  rwa [List.append_nil, decode, List.append_nil] at hread

theorem flatMap_utf8EncodeChar_injective :
    Function.Injective fun text : List Char => text.flatMap String.utf8EncodeChar := by
  intro a b h
  have hbytes : Text.bytes (.ofList a) = Text.bytes (.ofList b) := by
    simpa only [Text.bytes_eq, String.toList_ofList] using h
  have hdata : (String.ofList a).toByteArray = (String.ofList b).toByteArray :=
    ByteArray.ext (Array.toList_inj.mp hbytes)
  exact String.ofList_inj.mp (String.toByteArray_inj.mp hdata)

theorem encode_injective {keep : Char → Bool} (h : keep '%' = false) :
    Function.Injective (encode keep) := by
  have hmark : ∀ (c : Char), keep c = true → c ≠ '%' := by
    rintro c hc rfl
    rw [h] at hc
    cases hc
  intro a b heq
  have hbytes := congrArg decode heq
  rw [decode_encode fun c _ => hmark c, decode_encode fun c _ => hmark c] at hbytes
  exact flatMap_utf8EncodeChar_injective hbytes

/-! ## Dots -/

theorem decode_of_plainDots {text : List Char} (h : ∀ c ∈ plainDots text, c = '.') :
    decode text = (plainDots text).flatMap String.utf8EncodeChar := by
  induction text using plainDots.induct with
  | case1 rest ih =>
    rw [plainDots] at h ⊢
    rw [List.flatMap_cons, ← ih fun c hc => h c (List.mem_cons_of_mem _ hc)]
    rfl
  | case2 rest ih =>
    rw [plainDots] at h ⊢
    rw [List.flatMap_cons, ← ih fun c hc => h c (List.mem_cons_of_mem _ hc)]
    rfl
  | case3 c rest hsmall hcapital ih =>
    rw [plainDots.eq_3 _ _ hsmall hcapital] at h ⊢
    obtain ⟨rfl, hrest⟩ := List.forall_mem_cons.mp h
    rw [decode_cons (by decide), ih hrest, List.flatMap_cons]
  | case4 => rfl

theorem eq_of_plainDots_encode {keep : Char → Bool} {name dots : List Char}
    (hname : ∀ c ∈ name, keep c = true → c ≠ '%') (hdots : ∀ c ∈ dots, c = '.')
    (h : plainDots (encode keep name) = dots) : name = dots := by
  have hread := decode_of_plainDots (h ▸ hdots)
  rw [decode_encode hname, h] at hread
  exact flatMap_utf8EncodeChar_injective hread

end BlobStore.Url
