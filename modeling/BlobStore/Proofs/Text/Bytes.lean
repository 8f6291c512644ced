import Mathlib

/-!
# Texts and their bytes

Texts ascend as their bytes do: the first byte of a character is greater for more bytes, and behind
it comes the number of the character from the highest digits on.
-/

namespace BlobStore.Text

/-- The bytes of a text. -/
def bytes (text : String) : List UInt8 := text.toUTF8.data.toList

theorem bytes_eq (text : String) : bytes text = text.toList.flatMap String.utf8EncodeChar := by
  rw [bytes, String.toUTF8_eq_toByteArray, ← String.utf8Encode_toList, List.utf8Encode,
    List.data_toByteArray, List.toList_toArray]

theorem byte_cons_lt {m n : Nat} (hle : m ≤ n) (hn : n < 256) {a b : List UInt8}
    (h : m = n → a < b) : UInt8.ofNat m :: a < UInt8.ofNat n :: b := by
  rw [List.cons_lt_cons_iff]
  rcases Nat.lt_or_eq_of_le hle with hlt | heq
  · exact .inl ((UInt8.ofNat_lt_iff_lt (hlt.trans hn) hn).mpr hlt)
  · exact .inr ⟨congrArg _ heq, h heq⟩

theorem byte_cons_lt_of_lt {m n : Nat} (hlt : m < n) (hn : n < 256) (a b : List UInt8) :
    UInt8.ofNat m :: a < UInt8.ofNat n :: b :=
  byte_cons_lt hlt.le hn fun heq => absurd heq (Nat.ne_of_lt hlt)

theorem exists_lead (c : Char) : ∃ lead rest, String.utf8EncodeChar c = UInt8.ofNat lead :: rest ∧
    (c.val.toNat ≤ 127 → lead < 192) ∧ (c.val.toNat ≤ 2047 → lead < 224) ∧
      (c.val.toNat ≤ 65535 → lead < 240) := by
  rw [String.utf8EncodeChar]
  generalize c.val.toNat = m
  split
  · exact ⟨_, _, rfl, by omega, by omega, by omega⟩
  split
  · exact ⟨_, _, rfl, by omega, by omega, by omega⟩
  split
  · exact ⟨_, _, rfl, by omega, by omega, by omega⟩
  · exact ⟨_, _, rfl, by omega, by omega, by omega⟩

theorem utf8EncodeChar_append_lt {c d : Char} (h : c < d) (a b : List UInt8) :
    String.utf8EncodeChar c ++ a < String.utf8EncodeChar d ++ b := by
  have hlt : c.val.toNat < d.val.toNat := h
  have hmax : d.val.toNat < 1114112 := by
    have := d.valid
    simp only [UInt32.isValidChar, Nat.isValidChar] at this
    omega
  -- a character of fewer bytes is told by its first byte
  obtain ⟨lead, rest, hc, hlead₁, hlead₂, hlead₃⟩ := exists_lead c
  have shorter : ∀ {n : Nat}, lead < n → n < 256 → ∀ rest',
      String.utf8EncodeChar c ++ a < UInt8.ofNat n :: rest' := by
    intro n hn hn' rest'
    rw [hc, List.cons_append]
    exact byte_cons_lt_of_lt hn hn' _ _
  rw [String.utf8EncodeChar.eq_def d]
  generalize d.val.toNat = n at hlt hmax ⊢
  -- by the number of bytes of the greater character
  by_cases hn₁ : n ≤ 127
  · rw [String.utf8EncodeChar]
    simp only [if_pos hn₁, if_pos (show c.val.toNat ≤ 127 by omega), List.cons_append]
    exact byte_cons_lt_of_lt hlt (by omega) _ _
  by_cases hn₂ : n ≤ 2047
  · simp only [if_neg hn₁, if_pos hn₂]
    by_cases hm : c.val.toNat ≤ 127
    · have := hlead₁ hm
      exact shorter (by omega) (by omega) _
    · rw [String.utf8EncodeChar]
      simp only [if_neg hm, if_pos (show c.val.toNat ≤ 2047 by omega), List.cons_append]
      refine byte_cons_lt (by omega) (by omega) fun h₁ => ?_
      exact byte_cons_lt_of_lt (by omega) (by omega) _ _
  by_cases hn₃ : n ≤ 65535
  · simp only [if_neg hn₁, if_neg hn₂, if_pos hn₃]
    by_cases hm : c.val.toNat ≤ 2047
    · have := hlead₂ hm
      exact shorter (by omega) (by omega) _
    · rw [String.utf8EncodeChar]
      simp only [if_neg (show ¬ c.val.toNat ≤ 127 by omega), if_neg hm,
        if_pos (show c.val.toNat ≤ 65535 by omega), List.cons_append]
      refine byte_cons_lt (by omega) (by omega) fun h₁ => ?_
      refine byte_cons_lt (by omega) (by omega) fun h₂ => ?_
      exact byte_cons_lt_of_lt (by omega) (by omega) _ _
  · simp only [if_neg hn₁, if_neg hn₂, if_neg hn₃]
    by_cases hm : c.val.toNat ≤ 65535
    · have := hlead₃ hm
      exact shorter (by omega) (by omega) _
    · rw [String.utf8EncodeChar]
      simp only [if_neg (show ¬ c.val.toNat ≤ 127 by omega),
        if_neg (show ¬ c.val.toNat ≤ 2047 by omega), if_neg hm, List.cons_append]
      refine byte_cons_lt (by omega) (by omega) fun h₁ => ?_
      refine byte_cons_lt (by omega) (by omega) fun h₂ => ?_
      refine byte_cons_lt (by omega) (by omega) fun h₃ => ?_
      exact byte_cons_lt_of_lt (by omega) (by omega) _ _

/-- **Texts ascend as their bytes do.** -/
theorem bytes_lt {x y : String} (h : x < y) : bytes x < bytes y := by
  rw [String.lt_iff_toList_lt] at h
  rw [bytes_eq, bytes_eq]
  generalize x.toList = l at h
  generalize y.toList = m at h
  induction l generalizing m with
  | nil =>
    obtain ⟨d, m, rfl⟩ : ∃ d m', m = d :: m' := by
      cases m with
      | nil => exact absurd h (List.not_lt_nil _)
      | cons d m => exact ⟨d, m, rfl⟩
    have hne : (d :: m).flatMap String.utf8EncodeChar ≠ [] := by
      simp [String.utf8EncodeChar_ne_nil]
    obtain ⟨byte, rest, heq⟩ := List.exists_cons_of_ne_nil hne
    rw [heq]
    exact List.nil_lt_cons byte rest
  | cons c l ih =>
    cases m with
    | nil => exact absurd h (List.not_lt_nil _)
    | cons d m =>
      rw [List.flatMap_cons, List.flatMap_cons]
      rcases List.cons_lt_cons_iff.mp h with hcd | ⟨rfl, hlm⟩
      · exact utf8EncodeChar_append_lt hcd _ _
      · exact List.append_left_lt (ih m hlm)

end BlobStore.Text
