import Mathlib
import BlobStore.Text.Blank

/-!
# Trimmed texts

What is dropped at an end of a text goes up to the first character that stops it
(`trimEnd_append_stop`). A text is what trimming leaves of it with blanks around, and a text that
neither starts nor ends with a blank is found again between any blanks (`trim_of_padded`).
-/

namespace BlobStore.Text

/-! ## Up to a stop -/

section stop

variable {p : Char → Bool} {stop : Char} (text behind : List Char)

theorem dropWhile_append_stop (h : p stop = false) :
    (text ++ stop :: behind).dropWhile p = text.dropWhile p ++ stop :: behind := by
  induction text with
  | nil => simp [h]
  | cons c text ih => cases hc : p c <;> simp [hc, ih]

theorem trimEnd_append_stop (h : p stop = false) :
    trimEnd p (text ++ stop :: behind) = text ++ stop :: trimEnd p behind := by
  have hkept : ∀ a b : List Char,
      (a ++ stop :: b).dropWhile p = a.dropWhile p ++ stop :: b :=
    fun a b => dropWhile_append_stop a b h
  rw [trimEnd, List.reverse_append, List.reverse_cons, List.append_assoc,
    List.singleton_append, hkept, List.reverse_append, List.reverse_cons, List.reverse_reverse,
    List.append_assoc, List.singleton_append, trimEnd]

end stop

variable {text : List Char} {drop : Char → Bool}

theorem trimEnd_of_getLast (h : ∀ c ∈ text.getLast?, drop c = false) : trimEnd drop text = text := by
  obtain rfl | ⟨init, last, rfl⟩ := List.eq_nil_or_concat text
  · rfl
  · simp only [List.concat_eq_append, List.getLast?_concat, Option.mem_def, Option.some.injEq,
      forall_eq'] at h
    simp [trimEnd, h]

theorem trimEnd_eq_rdropWhile : trimEnd drop text = text.rdropWhile drop := rfl

theorem getLast?_trimEnd {c : Char} (h : c ∈ (trimEnd drop text).getLast?) : drop c = false := by
  rw [trimEnd_eq_rdropWhile] at h
  obtain ⟨hne, rfl⟩ := List.mem_getLast?_eq_getLast h
  exact Bool.eq_false_iff.mpr (List.rdropWhile_last_not drop text hne)

/-! ## Blanks at both ends -/

/-- All characters are blank. -/
def IsBlank (text : List Char) : Prop := ∀ c ∈ text, isBlank c = true

theorem exists_trim (text : List Char) :
    ∃ before after, text = before ++ trim text ++ after ∧ IsBlank before ∧ IsBlank after := by
  have hfront := List.takeWhile_append_dropWhile (p := isBlank) (l := text)
  have hback : (text.dropWhile isBlank).rdropWhile isBlank ++
      (text.dropWhile isBlank).rtakeWhile isBlank = text.dropWhile isBlank :=
    List.rdropWhile_append_rtakeWhile
  refine ⟨text.takeWhile isBlank, (text.dropWhile isBlank).rtakeWhile isBlank, ?_, ?_, ?_⟩
  · rw [trim, trimEnd_eq_rdropWhile, List.append_assoc, hback, hfront]
  · exact fun c hc => List.mem_takeWhile_imp hc
  · exact fun c hc => List.mem_rtakeWhile_imp hc

/-- **A text without blanks is found between any blanks.** -/
theorem trim_of_padded {before word after : List Char} (hbefore : IsBlank before)
    (hafter : IsBlank after) (hword : ∀ c ∈ word, isBlank c = false) :
    trim (before ++ word ++ after) = word := by
  have hfront : (before ++ word ++ after).dropWhile isBlank = (word ++ after).dropWhile isBlank := by
    rw [List.append_assoc, List.dropWhile_append_of_pos hbefore]
  rw [trim, hfront]
  cases word with
  | nil =>
    rw [List.nil_append, List.dropWhile_eq_nil_iff.mpr hafter]
    rfl
  | cons c word =>
    have hback : trimEnd isBlank (c :: word ++ after) = trimEnd isBlank (c :: word) := by
      rw [trimEnd, List.reverse_append,
        List.dropWhile_append_of_pos fun d hd => hafter d (List.mem_reverse.mp hd), trimEnd]
    rw [List.cons_append, List.dropWhile_cons_of_neg (Bool.not_eq_true _ ▸ hword c List.mem_cons_self),
      ← List.cons_append, hback]
    exact trimEnd_of_getLast fun d hd => hword d (List.mem_of_getLast? hd)

end BlobStore.Text
