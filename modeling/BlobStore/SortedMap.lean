/-!
# Sorted maps

Bindings in a list, strictly ascending by key. The order is part of the type, so a listing of the
keys needs no sorting and two maps with the same look-ups are the same list.

Main statements: `get?_insert` and `get?_erase` say what each operation does to look-ups, `ext` that
look-ups determine the map.
-/

namespace BlobStore

/-- Bindings that ascend strictly by key: no key is bound twice. -/
structure SortedMap (κ ν : Type) [LT κ] where
  entries : List (κ × ν)
  sorted : entries.Pairwise (·.1 < ·.1)

namespace SortedMap

variable {κ ν : Type} [LT κ]

def empty : SortedMap κ ν := ⟨[], .nil⟩

instance : Inhabited (SortedMap κ ν) := ⟨empty⟩

def size (m : SortedMap κ ν) : Nat := m.entries.length

/-- The keys, ascending. -/
def keys (m : SortedMap κ ν) : List κ := m.entries.map (·.1)

def get? [DecidableEq κ] (m : SortedMap κ ν) (k : κ) : Option ν :=
  (m.entries.find? fun e => e.1 = k).map (·.2)

def contains [DecidableEq κ] (m : SortedMap κ ν) (k : κ) : Bool := (m.get? k).isSome

def erase [DecidableEq κ] (m : SortedMap κ ν) (k : κ) : SortedMap κ ν :=
  ⟨m.entries.filter fun e => e.1 ≠ k, m.sorted.filter _⟩

/-! ## Insertion -/

section insertion

variable [DecidableLT κ] [DecidableEq κ]

/-- Puts a binding where it belongs among ascending ones, in place of one with the same key. -/
def place (k : κ) (v : ν) : List (κ × ν) → List (κ × ν)
  | [] => [(k, v)]
  | e :: rest =>
    if k < e.1 then (k, v) :: e :: rest
    else if k = e.1 then (k, v) :: rest
    else e :: place k v rest

theorem mem_place {k : κ} {v : ν} {a : κ × ν} {l : List (κ × ν)} (h : a ∈ place k v l) :
    a = (k, v) ∨ a ∈ l := by
  induction l with
  | nil => simpa [place] using h
  | cons e rest ih =>
    rw [place] at h
    split at h
    · simpa using h
    · split at h
      · simp only [List.mem_cons] at h ⊢; exact h.imp_right .inr
      · simp only [List.mem_cons] at h ⊢
        rcases h with h | h
        · exact .inr (.inl h)
        · exact (ih h).imp_right .inr

variable [LE κ] [Std.IsLinearOrder κ] [Std.LawfulOrderLT κ]

theorem pairwise_place (k : κ) (v : ν) {l : List (κ × ν)} (h : l.Pairwise (·.1 < ·.1)) :
    (place k v l).Pairwise (·.1 < ·.1) := by
  induction l with
  | nil => simp [place]
  | cons e rest ih =>
    have ⟨hhead, htail⟩ := List.pairwise_cons.mp h
    rw [place]
    split
    · next hk =>
      refine List.pairwise_cons.mpr ⟨fun a ha => ?_, h⟩
      rcases List.mem_cons.mp ha with rfl | ha
      · exact hk
      · exact Std.lt_trans hk (hhead a ha)
    · next hk =>
      split
      · next he => exact List.pairwise_cons.mpr ⟨fun a ha => he ▸ hhead a ha, htail⟩
      · next he =>
        refine List.pairwise_cons.mpr ⟨fun a ha => ?_, ih htail⟩
        rcases mem_place ha with rfl | ha
        · exact Std.lt_of_le_of_ne (Std.not_lt.mp hk) (Ne.symm he)
        · exact hhead a ha

def insert (m : SortedMap κ ν) (k : κ) (v : ν) : SortedMap κ ν :=
  ⟨place k v m.entries, pairwise_place k v m.sorted⟩

/-- The map of the given bindings; of two with the same key the later one stands. -/
def ofList (l : List (κ × ν)) : SortedMap κ ν := l.foldl (fun m e => m.insert e.1 e.2) empty

end insertion

/-! ## Look-ups -/

section lookup

variable [DecidableEq κ]

theorem get?_erase (m : SortedMap κ ν) (k k' : κ) :
    (m.erase k).get? k' = if k' = k then none else m.get? k' := by
  obtain ⟨l, _⟩ := m
  simp only [get?, erase]
  induction l with
  | nil => simp
  | cons e rest ih => grind

theorem get?_insert [DecidableLT κ] [LE κ] [Std.IsLinearOrder κ] [Std.LawfulOrderLT κ]
    (m : SortedMap κ ν) (k : κ) (v : ν) (k' : κ) :
    (m.insert k v).get? k' = if k' = k then some v else m.get? k' := by
  obtain ⟨l, h⟩ := m
  simp only [get?, insert]
  clear h
  induction l with
  | nil => grind [place]
  | cons e rest ih => grind [place]

theorem find?_eq_none_of_lt [LE κ] [Std.IsLinearOrder κ] [Std.LawfulOrderLT κ] {k : κ}
    {l : List (κ × ν)} (h : ∀ e ∈ l, k < e.1) : l.find? (fun e => e.1 = k) = none := by
  rw [List.find?_eq_none]
  intro e he heq
  have := h e he
  rw [of_decide_eq_true heq] at this
  exact Std.lt_irrefl this

theorem entries_ext [LE κ] [Std.IsLinearOrder κ] [Std.LawfulOrderLT κ] {l l' : List (κ × ν)}
    (h : l.Pairwise (·.1 < ·.1)) (h' : l'.Pairwise (·.1 < ·.1))
    (hf : ∀ k, l.find? (fun e => e.1 = k) = l'.find? (fun e => e.1 = k)) : l = l' := by
  induction l generalizing l' with
  | nil =>
    cases l' with
    | nil => rfl
    | cons e' r' => simpa using hf e'.1
  | cons e r ih =>
    cases l' with
    | nil => simpa using hf e.1
    | cons e' r' =>
      have ⟨hr, hs⟩ := List.pairwise_cons.mp h
      have ⟨hr', hs'⟩ := List.pairwise_cons.mp h'
      have hlt : ∀ {a b : κ × ν} {t : List (κ × ν)}, a.1 < b.1 → (∀ x ∈ t, b.1 < x.1) →
          (b :: t).find? (fun x => x.1 = a.1) = none := fun hab ht =>
        find?_eq_none_of_lt fun x hx => by
          rcases List.mem_cons.mp hx with rfl | hx
          · exact hab
          · exact Std.lt_trans hab (ht x hx)
      have he : e = e' := by
        by_cases h1 : e.1 < e'.1
        · have := hf e.1
          rw [hlt h1 hr'] at this
          simp at this
        · by_cases h2 : e'.1 < e.1
          · have := hf e'.1
            rw [hlt h2 hr] at this
            simp at this
          · have hk : e.1 = e'.1 := Std.le_antisymm (Std.not_lt.mp h2) (Std.not_lt.mp h1)
            have := hf e.1
            rw [List.find?_cons_of_pos (by simp), List.find?_cons_of_pos (by simp [hk])] at this
            exact Option.some.inj this
      subst he
      refine congrArg _ (ih hs hs' fun k => ?_)
      by_cases hk : e.1 = k
      · subst hk
        rw [find?_eq_none_of_lt hr, find?_eq_none_of_lt hr']
      · have := hf k
        rwa [List.find?_cons_of_neg (by simpa using hk),
          List.find?_cons_of_neg (by simpa using hk)] at this

omit [LT κ] in
theorem find?_key {k : κ} {l : List (κ × ν)} {e : κ × ν} (h : l.find? (fun e => e.1 = k) = some e) :
    e = (k, e.2) := by
  have := List.find?_some h
  rw [← of_decide_eq_true this]

theorem find?_eq_map_get? (m : SortedMap κ ν) (k : κ) :
    m.entries.find? (fun e => e.1 = k) = (m.get? k).map (k, ·) := by
  unfold get?
  cases h : m.entries.find? (fun e => e.1 = k) with
  | none => rfl
  | some e => simpa using find?_key h

theorem ext [LE κ] [Std.IsLinearOrder κ] [Std.LawfulOrderLT κ] {m m' : SortedMap κ ν}
    (h : ∀ k, m.get? k = m'.get? k) : m = m' := by
  have := entries_ext m.sorted m'.sorted fun k => by
    rw [find?_eq_map_get?, find?_eq_map_get?, h k]
  obtain ⟨l, _⟩ := m
  obtain ⟨l', _⟩ := m'
  cases this
  rfl

end lookup

end SortedMap

end BlobStore
