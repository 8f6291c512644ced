import Mathlib
import BlobStore.Bucket.Memory
import BlobStore.Proofs.SortedMap

/-!
# Pages of a bucket in memory

Keys with a common stem follow one another in the order of keys, so the run of keys that a page is
cut from is all of them (`matching_none`), or all of them behind the token (`matching_some`). The
page behind a page that was cut off goes on where that one ended (`matching_next`).
-/

namespace BlobStore.Bucket

/-! ## Keys in order -/

section filter

variable {α : Type} {p : α → Bool} {l : List α}

theorem takeWhile_eq_filter (h : l.Pairwise fun x y => p y = true → p x = true) :
    l.takeWhile p = l.filter p := by
  induction l with
  | nil => rfl
  | cons x l ih =>
    obtain ⟨hhead, htail⟩ := List.pairwise_cons.mp h
    rw [List.takeWhile_cons, List.filter_cons]
    by_cases hx : p x = true
    · rw [if_pos hx, if_pos hx, ih htail]
    · rw [if_neg hx, if_neg hx, eq_comm, List.filter_eq_nil_iff]
      intro y hy hpy
      exact hx (hhead y hy hpy)

theorem dropWhile_eq_filter (h : l.Pairwise fun x y => p y = true → p x = true) :
    l.dropWhile p = l.filter fun x => !p x := by
  induction l with
  | nil => rfl
  | cons x l ih =>
    obtain ⟨hhead, htail⟩ := List.pairwise_cons.mp h
    rw [List.dropWhile_cons, List.filter_cons]
    by_cases hx : p x = true
    · rw [if_pos hx, ih htail, hx, if_neg (by simp)]
    · have hall : ∀ y ∈ x :: l, (!p y) = true := by
        intro y hy
        rcases List.mem_cons.mp hy with rfl | hy
        · simpa using hx
        · by_contra hpy
          exact hx (hhead y hy (by simpa using hpy))
      rw [if_neg hx, ← List.filter_cons (p := fun x => !p x), List.filter_eq_self.mpr hall]

end filter

theorem startsWith_iff {stem key : String} :
    startsWith stem key = true ↔ stem.toList <+: key.toList :=
  List.isPrefixOf_iff_prefix

theorem isPrefix_of_between {stem x y : List Char} (hle : ¬ x.Lex (· < ·) stem)
    (hlt : x.Lex (· < ·) y) (h : stem <+: y) : stem <+: x := by
  induction stem generalizing x y with
  | nil => exact List.nil_prefix
  | cons c stem ih =>
    obtain ⟨y, rfl⟩ : ∃ y', y = c :: y' := by
      obtain ⟨rest, rfl⟩ := h
      exact ⟨stem ++ rest, rfl⟩
    cases x with
    | nil => exact absurd .nil hle
    | cons d x =>
      rw [List.cons_lex_cons_iff, not_or, not_and] at hle
      rw [List.cons_lex_cons_iff] at hlt
      rcases hlt with hdc | ⟨rfl, hlt⟩
      · exact absurd hdc hle.1
      · rw [List.cons_prefix_cons] at h ⊢
        exact ⟨rfl, ih (hle.2 rfl) hlt h.2⟩

theorem startsWith_of_between {stem x y : String} (hle : ¬ x < stem) (hlt : x < y)
    (h : startsWith stem y = true) : startsWith stem x = true := by
  rw [startsWith_iff] at h ⊢
  exact isPrefix_of_between hle hlt h

theorem not_lt_of_startsWith {stem key : String} (h : startsWith stem key = true) :
    ¬ key < stem := by
  rw [startsWith_iff] at h
  obtain ⟨rest, hrest⟩ := h
  have general : ∀ stem : List Char, ¬ (stem ++ rest).Lex (· < ·) stem := by
    intro stem
    induction stem with
    | nil => exact List.not_lex_nil
    | cons c stem ih =>
      rw [List.cons_append, List.cons_lex_cons_iff]
      rintro (hc | ⟨-, h⟩)
      · exact lt_irrefl c hc
      · exact ih h
  intro hlt
  have hlex : key.toList.Lex (· < ·) stem.toList := hlt
  rw [← hrest] at hlex
  exact general stem.toList hlex

/-! ## Keys with a common stem -/

/-- The keys that start with a stem. -/
def under (b : Bucket) (stem : String) : List String := b.objects.keys.filter (startsWith stem)

variable {b : Bucket} {stem token key : String}

theorem mem_under : key ∈ b.under stem ↔
    (∃ object, b.objects.get? key = some object) ∧ startsWith stem key = true := by
  rw [under, List.mem_filter, SortedMap.mem_keys]

theorem pairwise_under (b : Bucket) (stem : String) : (b.under stem).Pairwise (· < ·) :=
  b.objects.pairwise_keys.filter _

theorem matching_none (b : Bucket) (stem : String) : b.matching stem none = b.under stem := by
  have hdrop : b.objects.keys.Pairwise fun x y => decide (y < stem) = true →
      decide (x < stem) = true :=
    b.objects.pairwise_keys.imp fun {x y} hxy hy =>
      decide_eq_true (lt_trans hxy (of_decide_eq_true hy))
  have htake : (b.objects.keys.filter fun x => !decide (x < stem)).Pairwise fun x y =>
      startsWith stem y = true → startsWith stem x = true := by
    refine (b.objects.pairwise_keys.filter _).imp_of_mem fun {x y} hx _ hxy hy => ?_
    have hle : ¬ x < stem := by simpa using (List.mem_filter.mp hx).2
    exact startsWith_of_between hle hxy hy
  show List.takeWhile (startsWith stem) (b.objects.keys.dropWhile fun x => decide (x < stem)) = _
  rw [dropWhile_eq_filter hdrop, takeWhile_eq_filter htake, List.filter_filter, under]
  refine List.filter_congr fun x _ => ?_
  by_cases hx : startsWith stem x = true
  · have := not_lt_of_startsWith hx
    simp [this]
  · simp [hx]

theorem matching_some (htoken : startsWith stem token = true) :
    b.matching stem (some token) = (b.under stem).filter fun key => token < key := by
  have hdrop : b.objects.keys.Pairwise fun x y => decide (y ≤ token) = true →
      decide (x ≤ token) = true :=
    b.objects.pairwise_keys.imp fun {x y} hxy hy =>
      decide_eq_true (le_trans (le_of_lt hxy) (of_decide_eq_true hy))
  have htake : (b.objects.keys.filter fun x => !decide (x ≤ token)).Pairwise fun x y =>
      startsWith stem y = true → startsWith stem x = true := by
    refine (b.objects.pairwise_keys.filter _).imp_of_mem fun {x y} hx _ hxy hy => ?_
    have hlt : token < x := not_le.mp (by simpa using (List.mem_filter.mp hx).2)
    exact startsWith_of_between
      (fun hx => not_lt_of_startsWith htoken (lt_trans hlt hx)) hxy hy
  show List.takeWhile (startsWith stem) (b.objects.keys.dropWhile fun x => decide (x ≤ token)) = _
  rw [dropWhile_eq_filter hdrop, takeWhile_eq_filter htake, under, List.filter_filter,
    List.filter_filter]
  refine List.filter_congr fun x _ => ?_
  rw [Bool.and_comm, Bool.eq_iff_iff]
  simp

/-- The token of a page is one of the keys that it was cut from. -/
def HasStem (stem : String) (token : Option String) : Prop :=
  ∀ t, token = some t → startsWith stem t = true

theorem hasStem_none (stem : String) : HasStem stem none := by
  intro t ht
  cases ht

theorem mem_matching {token : Option String} (htoken : HasStem stem token) :
    key ∈ b.matching stem token ↔ key ∈ b.under stem ∧ ∀ t, token = some t → t < key := by
  cases token with
  | none => simp [matching_none]
  | some t => simp [matching_some (htoken t rfl)]

theorem pairwise_matching {token : Option String} (htoken : HasStem stem token) :
    (b.matching stem token).Pairwise (· < ·) := by
  cases token with
  | none => rw [matching_none]; exact b.pairwise_under stem
  | some t => rw [matching_some (htoken t rfl)]; exact (b.pairwise_under stem).filter _

/-! ## One page behind another -/

theorem filter_lt_getLast {l : List String} (h : l.Pairwise (· < ·)) {n : Nat} {last : String}
    (hlast : (l.take n).getLast? = some last) : (l.filter fun x => last < x) = l.drop n := by
  obtain ⟨init, hinit⟩ := List.getLast?_eq_some_iff.mp hlast
  have hsplit : l = (init ++ [last]) ++ l.drop n := by
    rw [← hinit, List.take_append_drop]
  rw [hsplit, List.pairwise_append, List.pairwise_append] at h
  obtain ⟨⟨-, -, hinit'⟩, -, hdrop⟩ := h
  have hfirst : (init ++ [last]).filter (fun x => last < x) = [] := by
    rw [List.filter_eq_nil_iff]
    intro x hx hlt
    rcases List.mem_append.mp hx with hx | hx
    · exact lt_asymm (of_decide_eq_true hlt) (hinit' x hx last (by simp))
    · rw [List.mem_singleton.mp hx] at hlt
      exact lt_irrefl last (of_decide_eq_true hlt)
  have hrest : (l.drop n).filter (fun x => last < x) = l.drop n := by
    rw [List.filter_eq_self]
    intro x hx
    exact decide_eq_true (hdrop last (by simp) x hx)
  calc l.filter (fun x => last < x)
    _ = ((init ++ [last]) ++ l.drop n).filter (fun x => last < x) := by rw [← hsplit]
    _ = l.drop n := by rw [List.filter_append, hfirst, hrest, List.nil_append]

/-- **A page goes on where the page before it ended**, with the last key of that as its token. -/
theorem matching_next {token : Option String} (htoken : HasStem stem token) {n : Nat}
    {last : String} (hlast : ((b.matching stem token).take n).getLast? = some last) :
    HasStem stem (some last) ∧ b.matching stem (some last) = (b.matching stem token).drop n := by
  have hmem : last ∈ b.matching stem token :=
    List.mem_of_mem_take (List.mem_of_getLast? hlast)
  rw [mem_matching htoken] at hmem
  obtain ⟨hunder, hbehind⟩ := hmem
  have hstem : startsWith stem last = true := (mem_under.mp hunder).2
  refine ⟨fun t ht => Option.some.inj ht ▸ hstem, ?_⟩
  rw [← filter_lt_getLast (pairwise_matching htoken) hlast, matching_some hstem]
  cases token with
  | none => rw [matching_none]
  | some t =>
    rw [matching_some (htoken t rfl), List.filter_filter]
    refine List.filter_congr fun x _ => ?_
    by_cases hx : last < x
    · simp [hx, lt_trans (hbehind t rfl) hx]
    · simp [hx]

theorem page_eq (b : Bucket) (stem : String) (token : Option String) {max : Nat} (h : max ≠ 0) :
    b.page stem token max =
      ⟨(b.matching stem token).take max, decide (max < (b.matching stem token).length),
        if max < (b.matching stem token).length then
          ((b.matching stem token).take max).getLast? else none⟩ := by
  simp only [page, if_neg h]

/-- The bucket after a page was asked for. -/
def counted (b : Bucket) : Bucket := { b with listed := b.listed + 1 }

theorem snd_answer_list (b : Bucket) (stem : String) (token : Option String) (max : Nat) :
    (Backend.answer (.list stem token max) b).2 = b.counted := by
  show (b.list stem token max).2 = _
  unfold list
  dsimp only
  split <;> rfl

theorem fst_answer_list_cases (b : Bucket) (stem : String) (token : Option String) (max : Nat) :
    (∃ e, (Backend.answer (.list stem token max) b).1 = .error e) ∨
      (Backend.answer (.list stem token max) b).1 = .ok (b.page stem token max) := by
  show (∃ e, (b.list stem token max).1 = _) ∨ (b.list stem token max).1 = _
  unfold list
  dsimp only
  split
  · exact .inl ⟨_, rfl⟩
  · exact .inr rfl

theorem startsWith_of_answer_list {token : Option String} {max : Nat} {page : Page}
    (h : (Backend.answer (.list stem token max) b).1 = .ok page) {key : String}
    (hkey : key ∈ page.keys) : startsWith stem key = true := by
  obtain ⟨e, hreply⟩ | hreply := b.fst_answer_list_cases stem token max
  · cases hreply.symm.trans h
  · obtain rfl := Except.ok.inj (hreply.symm.trans h)
    exact List.all_eq_true.mp List.all_takeWhile key (List.mem_of_mem_take hkey)

theorem answer_list (h : b.failingPage = none) (stem : String) (token : Option String)
    (max : Nat) :
    Backend.answer (.list stem token max) b = (.ok (b.page stem token max), b.counted) := by
  show b.list stem token max = _
  rw [list, if_neg (by simp [h])]
  rfl

end BlobStore.Bucket
