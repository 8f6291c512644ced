import Mathlib
import BlobStore.Proofs.Json.Reading

/-!
# The value of a document

A document that was written for a value has this value again, if the members of its objects are in
the order of their names (`Ordered`), as they are in every value that was read, and if it is not
nested deeper than is allowed (`value?_ofJson`).
-/

namespace BlobStore.Json

/-! ## Order and depth -/

/-- The members of every object ascend by name. -/
inductive Ordered : Json → Prop
  | null : Ordered .null
  | bool (value : Bool) : Ordered (.bool value)
  | int (n : Int) : Ordered (.int n)
  | float (x : Float) : Ordered (.float x)
  | str (text : String) : Ordered (.str text)
  | arr {items : List Json} (hitems : ∀ item ∈ items, Ordered item) : Ordered (.arr items)
  | obj {members : List (String × Json)} (hsorted : members.Pairwise (·.1 < ·.1))
    (hmembers : ∀ m ∈ members, Ordered m.2) : Ordered (.obj members)

mutual

/-- How many arrays and objects lie within each other. -/
def depth : Json → Nat
  | arr items => depthOfItems items + 1
  | obj members => depthOfMembers members + 1
  | _ => 0

def depthOfItems : List Json → Nat
  | [] => 0
  | item :: items => max (depth item) (depthOfItems items)

def depthOfMembers : List (String × Json) → Nat
  | [] => 0
  | (_, item) :: members => max (depth item) (depthOfMembers members)

end

theorem depth_le_of_mem_items {items : List Json} {item : Json} (h : item ∈ items) :
    depth item ≤ depthOfItems items := by
  induction items with
  | nil => cases h
  | cons first items ih =>
    rw [depthOfItems]
    rcases List.mem_cons.mp h with rfl | h
    · exact Nat.le_max_left _ _
    · exact (ih h).trans (Nat.le_max_right _ _)

theorem depth_le_of_mem_members {members : List (String × Json)} {m : String × Json}
    (h : m ∈ members) : depth m.2 ≤ depthOfMembers members := by
  induction members with
  | nil => cases h
  | cons first members ih =>
    rw [depthOfMembers]
    rcases List.mem_cons.mp h with rfl | h
    · exact Nat.le_max_left _ _
    · exact (ih h).trans (Nat.le_max_right _ _)

/-! ## Values -/

theorem value?_ofInt {n : Int} (hlow : -2 ^ 63 ≤ n) (hhigh : n < 2 ^ 64) :
    (Numeral.ofInt n).value? = some (.int n) := by
  have hlimit : Numeral.wordLimit = 2 ^ 64 := rfl
  have hhalf : Nat.pow 2 63 = 2 ^ 63 := rfl
  simp only [Numeral.value?, Numeral.ofInt, Text.decimalValue_digits]
  by_cases hn : n < 0
  · have hfits : 0 < n.natAbs ∧ n.natAbs ≤ Nat.pow 2 63 := by omega
    have hsign : -(n.natAbs : Int) = n := by omega
    rw [if_neg (by simp [hn]), if_pos ⟨trivial, trivial, decide_eq_true hn, hfits⟩, hsign]
  · have hfits : n.natAbs < Numeral.wordLimit := by omega
    have hsign : (n.natAbs : Int) = n := by omega
    rw [if_pos ⟨trivial, trivial, by simp [hn], hfits⟩, hsign]

namespace Doc

theorem values?_ofItems {room : Nat} {items : List Json}
    (h : ∀ i ∈ items, value? room (ofJson i) = some i) : values? room (ofItems items) = some items := by
  induction items with
  | nil => rfl
  | cons item items ih =>
    obtain ⟨hitem, hitems⟩ := List.forall_mem_cons.mp h
    rw [ofItems, values?, hitem, ih hitems]
    rfl

theorem place_of_forall_lt {name : String} {value : Json} {before : List (String × Json)}
    (h : ∀ e ∈ before, e.1 < name) :
    SortedMap.place name value before = before ++ [(name, value)] := by
  induction before with
  | nil => rfl
  | cons e before ih =>
    obtain ⟨he, hbefore⟩ := List.forall_mem_cons.mp h
    rw [SortedMap.place, if_neg (Std.not_lt.mpr (Std.le_of_lt he)), if_neg (Ne.symm (Std.ne_of_lt he)),
      ih hbefore, List.cons_append]

theorem members?_ofMembers {room : Nat} {before members : List (String × Json)}
    (hsorted : (before ++ members).Pairwise (·.1 < ·.1))
    (h : ∀ m ∈ members, value? room (ofJson m.2) = some m.2) :
    members? room before (ofMembers members) = some (before ++ members) := by
  induction members generalizing before with
  | nil => rw [ofMembers, members?, List.append_nil]
  | cons m members ih =>
    obtain ⟨name, item⟩ := m
    obtain ⟨hitem, hmembers⟩ := List.forall_mem_cons.mp h
    have hlast : ∀ e ∈ before, e.1 < name := fun e he =>
      (List.pairwise_append.mp hsorted).2.2 e he (name, item) List.mem_cons_self
    rw [List.append_cons] at hsorted
    have hrest := ih hsorted hmembers
    rw [← place_of_forall_lt hlast] at hrest
    rw [ofMembers, members?, Option.bind_eq_bind, Option.bind_some, hitem, Option.bind_eq_bind,
      Option.bind_some, hrest, place_of_forall_lt hlast, ← List.append_cons]

/-- **A document has the value that it was written for.** -/
theorem value?_ofJson {j : Json} (hwhole : Whole j) (hordered : Ordered j) {room : Nat}
    (hdepth : depth j ≤ room) : value? room (ofJson j) = some j := by
  induction hwhole generalizing room with
  | null => rfl
  | bool value => rfl
  | int hlow hhigh => exact value?_ofInt hlow hhigh
  | str text => rfl
  | @arr items hwhole ih =>
    cases hordered with
    | arr hordered =>
      rw [depth] at hdepth
      have hitems : values? (room - 1) (ofItems items) = some items := by
        refine values?_ofItems fun item hitem => ih item hitem (hordered item hitem) ?_
        have := depth_le_of_mem_items hitem
        omega
      rw [ofJson, value?, if_neg (by omega), hitems]
      rfl
  | @obj members hwhole ih =>
    cases hordered with
    | obj hsorted hordered =>
      rw [depth] at hdepth
      have hmembers : members? (room - 1) [] (ofMembers members) = some members := by
        refine members?_ofMembers hsorted fun m hm => ih m hm (hordered m hm) ?_
        have := depth_le_of_mem_members hm
        omega
      rw [ofJson, value?, if_neg (by omega), hmembers]
      rfl

end Doc

end BlobStore.Json
