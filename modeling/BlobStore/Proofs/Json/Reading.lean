import Mathlib
import BlobStore.Json.Parser
import BlobStore.Json.Printer
import BlobStore.Proofs.Text.Digits

/-!
# Reading what was written

A value without floating-point numbers is written with one item or member a line, and read again as
the document that it spells (`Reads`, `parse?_pretty`). A numeral ends only where its digits do, so
what stands behind a value must not go on with it (`StopsNumeral`).
-/

namespace BlobStore.Json

/-! ## What a value spells -/

/-- The numeral of a whole number. -/
def Numeral.ofInt (n : Int) : Numeral := ⟨n < 0, Text.digits 10 n.natAbs, [], none⟩

namespace Doc

mutual

/-- The document that a value spells. Floating-point numbers are not spoken of here, and spell
nothing. -/
def ofJson : Json → Doc
  | .null | .float _ => .null
  | .bool value => .bool value
  | .int n => .number (.ofInt n)
  | .str text => .str (some text)
  | .arr items => .arr (ofItems items)
  | .obj members => .obj (ofMembers members)

def ofItems : List Json → List Doc
  | [] => []
  | item :: items => ofJson item :: ofItems items

def ofMembers : List (String × Json) → List (Option String × Doc)
  | [] => []
  | (name, item) :: members => (some name, ofJson item) :: ofMembers members

end

end Doc

/-- All numbers in the value are whole numbers of 64 bits, with or without sign. -/
inductive Whole : Json → Prop
  | null : Whole .null
  | bool (value : Bool) : Whole (.bool value)
  | int {n : Int} (hlow : -2 ^ 63 ≤ n) (hhigh : n < 2 ^ 64) : Whole (.int n)
  | str (text : String) : Whole (.str text)
  | arr {items : List Json} (hitems : ∀ item ∈ items, Whole item) : Whole (.arr items)
  | obj {members : List (String × Json)} (hmembers : ∀ m ∈ members, Whole m.2) :
    Whole (.obj members)

/-! ## Space -/

theorem skipSpace_of_not {c : Char} (h : isSpace c = false) (rest : List Char) :
    skipSpace (c :: rest) = c :: rest :=
  List.dropWhile_cons_of_neg (by simp [h])

theorem skipSpace_newLine (level : Nat) {c : Char} (h : isSpace c = false) (rest : List Char) :
    skipSpace (newLine level ++ c :: rest) = c :: rest := by
  have hspaces : ∀ d ∈ newLine level, isSpace d = true := by
    intro d hd
    rcases List.mem_cons.mp hd with rfl | hd
    · rfl
    · rw [List.eq_of_mem_replicate hd]
      rfl
  rw [skipSpace, List.dropWhile_append_of_pos hspaces]
  exact skipSpace_of_not h rest

/-! ## Strings -/

/-- The unit of four digits. -/
def hexUnits? : List Char → Option Nat
  | [a, b, c, d] => hexUnit? a b c d
  | _ => none

theorem hexUnit?_padded {n : Nat} (h : n < 32) : ∃ a b c d,
    Text.padded 16 4 n = [a, b, c, d] ∧ hexUnit? a b c d = some n := by
  have hall : ∀ n < 32, hexUnits? (Text.padded 16 4 n) = some n := by decide +kernel
  have hn := hall n h
  unfold hexUnits? at hn
  split at hn
  · next a b c d hdigits => exact ⟨a, b, c, d, hdigits, hn⟩
  · cases hn

theorem readString_escapeChar (fuel : Nat) (c : Char) (seen rest : List Char) :
    readString (fuel + 1) true seen (escapeChar c ++ rest) = readString fuel true (c :: seen) rest := by
  unfold escapeChar
  split
  · next h => rw [h]; rfl
  split
  · next h => rw [h]; rfl
  next hquote hslash =>
  split
  · next hlow =>
    have hnot : ¬ c < ' ' := Char.not_lt.mpr hlow
    simp only [List.singleton_append, readString, if_neg hquote, if_neg hslash, if_neg hnot]
  split
  · next h => rw [h]; rfl
  split
  · next h => rw [h]; rfl
  split
  · next h => rw [h]; rfl
  split
  · next h =>
    obtain rfl : c = .ofNat 8 := by rw [← h, Char.ofNat_toNat]
    rfl
  split
  · next h =>
    obtain rfl : c = .ofNat 12 := by rw [← h, Char.ofNat_toNat]
    rfl
  · next hlow _ _ _ _ _ =>
    have hlt : c.toNat < 32 := Char.not_le.mp hlow
    obtain ⟨a, b, d, e, hdigits, hvalue⟩ := hexUnit?_padded hlt
    have hwhole : c.toNat < 0xd800 ∨ 0xe000 ≤ c.toNat := by omega
    rw [hdigits]
    simp only [List.cons_append, List.nil_append, readString, hvalue, if_pos hwhole, Char.ofNat_toNat]
    rfl

theorem readString_flatMap (text seen rest : List Char) {fuel : Nat} (hfuel : text.length < fuel) :
    readString fuel true seen (text.flatMap escapeChar ++ '"' :: rest) =
      some (some (.ofList (seen.reverse ++ text)), rest) := by
  induction text generalizing seen fuel with
  | nil =>
    obtain ⟨fuel, rfl⟩ := Nat.exists_eq_succ_of_ne_zero (Nat.ne_of_gt hfuel)
    rw [List.append_nil]
    rfl
  | cons c text ih =>
    rw [List.length_cons] at hfuel
    obtain ⟨fuel, rfl⟩ := Nat.exists_eq_succ_of_ne_zero (Nat.ne_zero_of_lt hfuel)
    rw [List.flatMap_cons, List.append_assoc, readString_escapeChar, ih (c :: seen) (by omega),
      List.reverse_cons, List.append_assoc, List.singleton_append]

theorem length_le_flatMap_escapeChar (text : List Char) :
    text.length ≤ (text.flatMap escapeChar).length := by
  induction text with
  | nil => exact Nat.le_refl 0
  | cons c text ih =>
    have hpos : escapeChar c ≠ [] := by
      unfold escapeChar
      repeat' split
      all_goals exact List.cons_ne_nil _ _
    have := List.length_pos_iff.mpr hpos
    rw [List.flatMap_cons, List.length_append, List.length_cons]
    omega

theorem string?_stringText (text : String) (rest : List Char) :
    string? (text.toList.flatMap escapeChar ++ '"' :: rest) = some (some text, rest) := by
  have hfuel : text.toList.length <
      (text.toList.flatMap escapeChar ++ '"' :: rest).length + 1 := by
    have := length_le_flatMap_escapeChar text.toList
    rw [List.length_append]
    omega
  rw [string?, readString_flatMap _ _ _ hfuel, List.reverse_nil, List.nil_append,
    String.ofList_toList]

theorem stringText_append (text : String) (rest : List Char) :
    stringText text ++ rest = '"' :: (text.toList.flatMap escapeChar ++ '"' :: rest) := by
  simp [stringText]

/-! ## Numbers -/

/-- A numeral in front of the text ends there. -/
def StopsNumeral (rest : List Char) : Prop :=
  ∀ c ∈ rest.head?, Text.isDecimalDigit c = false ∧ c ≠ '.' ∧ c ≠ 'e' ∧ c ≠ 'E'

theorem stopsNumeral_nil : StopsNumeral [] := by
  intro c hc
  cases hc

theorem stopsNumeral_cons {c : Char} (h : isSpace c = true ∨ c = ',') (rest : List Char) :
    StopsNumeral (c :: rest) := by
  rintro d hd
  obtain rfl := Option.some.inj hd
  simp only [isSpace, Bool.or_eq_true, decide_eq_true_eq] at h
  rcases h with (((rfl | rfl) | rfl) | rfl) | rfl <;> decide

theorem takeDigits_append {ds rest : List Char} (hds : ∀ c ∈ ds, Text.isDecimalDigit c = true)
    (hrest : StopsNumeral rest) : takeDigits (ds ++ rest) = (ds, rest) := by
  have hstop : rest.takeWhile Text.isDecimalDigit = [] ∧ rest.dropWhile Text.isDecimalDigit = rest := by
    cases rest with
    | nil => exact ⟨rfl, rfl⟩
    | cons c rest =>
      have hc : ¬ Text.isDecimalDigit c = true := by simp [(hrest c rfl).1]
      exact ⟨List.takeWhile_cons_of_neg hc, List.dropWhile_cons_of_neg hc⟩
  rw [takeDigits, List.takeWhile_append_of_pos hds, List.dropWhile_append_of_pos hds, hstop.1, hstop.2,
    List.append_nil]

theorem wholePart?_digits (n : Nat) {rest : List Char} (hrest : StopsNumeral rest) :
    wholePart? (Text.digits 10 n ++ rest) = some (Text.digits 10 n, rest) := by
  rcases Nat.eq_zero_or_pos n with rfl | hn
  · rfl
  · have hdigits : ∀ c ∈ Text.digits 10 n, Text.isDecimalDigit c = true := fun c hc =>
      Text.isDecimalDigit_of_mem_digits hc
    have htake := takeDigits_append hdigits hrest
    obtain ⟨c, ds, hds, hc⟩ := Text.exists_digits_of_pos hn
    rw [hds, List.cons_append] at htake ⊢
    unfold wholePart?
    split
    · next heq => exact absurd (List.cons.inj heq).1 hc
    · simp only [htake]

theorem fractionPart?_of_stops {rest : List Char} (h : StopsNumeral rest) :
    fractionPart? rest = some ([], rest) := by
  unfold fractionPart?
  split
  · exact absurd rfl (h _ rfl).2.1
  · rfl

theorem exponentPart?_of_stops {rest : List Char} (h : StopsNumeral rest) :
    exponentPart? rest = some (none, rest) := by
  cases rest with
  | nil => rfl
  | cons c rest =>
    have hc : ¬ (c = 'e' ∨ c = 'E') := not_or.mpr (h c rfl).2.2
    simp only [exponentPart?, if_neg hc]

theorem numeral?_intText (n : Int) {rest : List Char} (hrest : StopsNumeral rest) :
    numeral? (intText n ++ rest) = some (.ofInt n, rest) := by
  have hwhole := wholePart?_digits n.natAbs hrest
  by_cases hn : n < 0
  · rw [intText, if_pos hn, List.cons_append, numeral?]
    simp [hwhole, fractionPart?_of_stops hrest, exponentPart?_of_stops hrest, Numeral.ofInt, hn]
  · have hsign : ∀ text, Text.digits 10 n.natAbs ++ rest ≠ '-' :: text := by
      intro text heq
      obtain ⟨c, ds, hds, hc⟩ := Text.exists_digits_cons n.natAbs
      rw [hds, List.cons_append] at heq
      rw [(List.cons.inj heq).1] at hc
      cases hc
    rw [intText, if_neg hn, numeral?]
    · simp [hwhole, fractionPart?_of_stops hrest, exponentPart?_of_stops hrest, Numeral.ofInt, hn]
    · exact hsign

theorem exists_intText (n : Int) :
    ∃ c rest, intText n = c :: rest ∧ (c = '-' ∨ Text.isDecimalDigit c = true) := by
  unfold intText
  split
  · exact ⟨'-', _, rfl, .inl rfl⟩
  · obtain ⟨c, ds, hds, hc⟩ := Text.exists_digits_cons n.natAbs
    exact ⟨c, ds, hds, .inr hc⟩

theorem doc?_number (fuel : Nat) {c : Char} {rest : List Char}
    (hc : c = '-' ∨ Text.isDecimalDigit c = true) :
    doc? (fuel + 1) (c :: rest) =
      (numeral? (c :: rest)).map fun (n, rest) => (.number n, rest) := by
  have hne : ∀ d ∈ ['n', 't', 'f', '"', '[', '\x7b'], c ≠ d := by
    rintro d hd rfl
    rcases hc with rfl | hc
    · exact absurd hd (by decide)
    · simp only [List.mem_cons, List.not_mem_nil, or_false] at hd
      rcases hd with rfl | rfl | rfl | rfl | rfl | rfl <;> cases hc
  rw [doc?.eq_def]
  dsimp only
  split
  case h_7 => rfl
  -- the other cases each start with a character that no number starts with
  all_goals
    next heq => exact absurd (List.cons.inj heq).1 (hne _ (by decide))

/-! ## Values -/

/-- At every level and whatever stands behind it, the value is read as what it spells. The text is
fuel enough. -/
def Reads (j : Json) : Prop :=
  ∀ (level fuel : Nat) (rest : List Char), (indented level j).length ≤ fuel → StopsNumeral rest →
    doc? fuel (indented level j ++ rest) = some (Doc.ofJson j, rest)

theorem exists_indented {j : Json} (h : Whole j) (level : Nat) :
    ∃ c rest, indented level j = c :: rest ∧ isSpace c = false ∧ c ≠ ']' := by
  cases h with
  | null => exact ⟨_, _, rfl, rfl, by decide⟩
  | bool value => cases value <;> exact ⟨_, _, rfl, rfl, by decide⟩
  | @int n =>
    obtain ⟨c, rest, htext, hc⟩ := exists_intText n
    refine ⟨c, rest, htext, ?_⟩
    rcases hc with rfl | hc
    · exact ⟨rfl, by decide⟩
    · constructor
      · rw [isSpace]
        simp only [Bool.or_eq_false_iff, decide_eq_false_iff_not]
        refine ⟨⟨⟨?_, ?_⟩, ?_⟩, ?_⟩ <;> (rintro rfl; cases hc)
      · rintro rfl
        cases hc
  | str text => exact ⟨_, _, rfl, rfl, by decide⟩
  | @arr items => cases items <;> exact ⟨_, _, rfl, rfl, by decide⟩
  | @obj members =>
    cases members with
    | nil => exact ⟨_, _, rfl, rfl, by decide⟩
    | cons m members => exact ⟨_, _, rfl, rfl, by decide⟩

theorem stopsNumeral_indentedItems (level : Nat) (items : List Json) (rest : List Char) :
    StopsNumeral (indentedItems level items ++ rest) := by
  cases items with
  | nil => exact stopsNumeral_cons (.inl rfl) _
  | cons item items => exact stopsNumeral_cons (.inr rfl) _

theorem stopsNumeral_indentedMembers (level : Nat) (members : List (String × Json))
    (rest : List Char) : StopsNumeral (indentedMembers level members ++ rest) := by
  cases members with
  | nil => exact stopsNumeral_cons (.inl rfl) _
  | cons m members => exact stopsNumeral_cons (.inr rfl) _

theorem exists_fuel {n fuel : Nat} (h : n ≤ fuel) (hn : 0 < n) : ∃ f, fuel = f + 1 :=
  ⟨fuel - 1, by omega⟩

theorem skipSpace_indented {j : Json} (h : Whole j) (level inner : Nat) (rest : List Char) :
    skipSpace (newLine level ++ (indented inner j ++ rest)) = indented inner j ++ rest := by
  obtain ⟨c, tail, htext, hspace, -⟩ := exists_indented h inner
  rw [htext, List.cons_append]
  exact skipSpace_newLine level hspace _

theorem items?_indented {item : Json} {items : List Json} (hwhole : ∀ i ∈ items, Whole i)
    (hitem : Reads item) (hitems : ∀ i ∈ items, Reads i) (level : Nat) {fuel : Nat}
    (rest : List Char)
    (hfuel : (indented (level + 1) item).length + (indentedItems level items).length ≤ fuel) :
    items? fuel (indented (level + 1) item ++ (indentedItems level items ++ rest)) =
      some (Doc.ofItems (item :: items), rest) := by
  induction items generalizing item fuel with
  | nil =>
    have hclose : skipSpace (indentedItems level [] ++ rest) = ']' :: rest := by
      rw [indentedItems, List.append_assoc]
      exact skipSpace_newLine level rfl rest
    have hlength : (indentedItems level []).length = 2 * level + 2 := by
      simp [indentedItems, newLine]
    obtain ⟨fuel, rfl⟩ := exists_fuel hfuel (by omega)
    rw [items?, hitem (level + 1) fuel _ (by omega) (stopsNumeral_indentedItems level [] rest)]
    simp only [hclose]
    rfl
  | cons next items ih =>
    obtain ⟨hnext, hrest⟩ := List.forall_mem_cons.mp hwhole
    obtain ⟨hreads, hall⟩ := List.forall_mem_cons.mp hitems
    have htext : indentedItems level (next :: items) ++ rest = ',' :: (newLine (level + 1) ++
        (indented (level + 1) next ++ (indentedItems level items ++ rest))) := by
      simp [indentedItems]
    have hcomma : ∀ text, skipSpace (',' :: text) = ',' :: text := skipSpace_of_not rfl
    have hlength : (indentedItems level (next :: items)).length =
        (indented (level + 1) next).length + (indentedItems level items).length + 2 * level + 4 := by
      simp [indentedItems, newLine]
      omega
    obtain ⟨fuel, rfl⟩ := exists_fuel hfuel (by omega)
    rw [items?, hitem (level + 1) fuel _ (by omega) (stopsNumeral_indentedItems level _ rest), htext]
    have hroom : (indented (level + 1) next).length + (indentedItems level items).length ≤ fuel := by
      omega
    have hbehind := ih hrest hreads hall hroom
    simp only [hcomma, skipSpace_indented hnext, hbehind]
    rfl

/-- What is read behind a first member: the end of the object, or further members. -/
def membersBehind (fuel : Nat) (first : Option String × Doc) (rest : List Char) :
    Option (List (Option String × Doc) × List Char) :=
  match skipSpace rest with
  | '\x7d' :: rest => some ([first], rest)
  | ',' :: rest =>
    (members? fuel (skipSpace rest)).map fun (members, rest) => (first :: members, rest)
  | _ => none

theorem members?_member (name : String) {item : Json} (hwhole : Whole item) (hitem : Reads item)
    {level fuel : Nat} {rest : List Char} (hfuel : (indented level item).length ≤ fuel)
    (hrest : StopsNumeral rest) :
    members? (fuel + 1) (stringText name ++ ':' :: ' ' :: (indented level item ++ rest)) =
      membersBehind fuel (some name, Doc.ofJson item) rest := by
  have hcolon : ∀ text, skipSpace (':' :: text) = ':' :: text := skipSpace_of_not rfl
  have hspace : skipSpace (' ' :: (indented level item ++ rest)) = indented level item ++ rest := by
    obtain ⟨c, tail, htext, hc, -⟩ := exists_indented hwhole level
    rw [htext, List.cons_append]
    exact skipSpace_of_not hc _
  rw [stringText_append, members?]
  simp only [string?_stringText, hcolon, hspace, hitem level fuel rest hfuel hrest]
  rfl

theorem members?_indented (name : String) {item : Json} {members : List (String × Json)}
    (hwhole : Whole item) (hall : ∀ m ∈ members, Whole m.2) (hitem : Reads item)
    (hitems : ∀ m ∈ members, Reads m.2) (level : Nat) {fuel : Nat} (rest : List Char)
    (hfuel : (indented (level + 1) item).length + (indentedMembers level members).length ≤ fuel) :
    members? fuel (stringText name ++ ':' :: ' ' :: (indented (level + 1) item ++
        (indentedMembers level members ++ rest))) =
      some (Doc.ofMembers ((name, item) :: members), rest) := by
  induction members generalizing name item fuel with
  | nil =>
    have hclose : skipSpace (indentedMembers level [] ++ rest) = '\x7d' :: rest := by
      rw [indentedMembers, List.append_assoc]
      exact skipSpace_newLine level rfl rest
    have hlength : (indentedMembers level []).length = 2 * level + 2 := by
      simp [indentedMembers, newLine]
    obtain ⟨fuel, rfl⟩ := exists_fuel hfuel (by omega)
    rw [members?_member name hwhole hitem (by omega) (stopsNumeral_indentedMembers level [] rest),
      membersBehind, hclose]
    rfl
  | cons next members ih =>
    obtain ⟨nextName, next⟩ := next
    obtain ⟨(hnext : Whole next), hrest⟩ := List.forall_mem_cons.mp hall
    obtain ⟨(hreads : Reads next), hitems⟩ := List.forall_mem_cons.mp hitems
    have htext : indentedMembers level ((nextName, next) :: members) ++ rest =
        ',' :: (newLine (level + 1) ++ (stringText nextName ++ ':' :: ' ' ::
          (indented (level + 1) next ++ (indentedMembers level members ++ rest)))) := by
      simp [indentedMembers]
    have hcomma : ∀ text, skipSpace (',' :: text) = ',' :: text := skipSpace_of_not rfl
    have hquote : ∀ text, skipSpace (newLine (level + 1) ++ (stringText nextName ++ text)) =
        stringText nextName ++ text := fun text => skipSpace_newLine (level + 1) rfl _
    have hlength : (indented (level + 1) next).length + (indentedMembers level members).length + 1 ≤
        (indentedMembers level ((nextName, next) :: members)).length := by
      simp [indentedMembers]
      omega
    obtain ⟨fuel, rfl⟩ := exists_fuel hfuel (by omega)
    have hroom : (indented (level + 1) next).length + (indentedMembers level members).length ≤
        fuel := by omega
    have hbehind := @ih nextName next hnext hrest hreads hitems fuel hroom
    rw [members?_member name hwhole hitem (by omega) (stopsNumeral_indentedMembers level _ rest),
      membersBehind, htext, hcomma]
    simp only [hquote, hbehind]
    rfl

theorem Reads.arr {items : List Json} (hwhole : ∀ i ∈ items, Whole i)
    (hitems : ∀ i ∈ items, Reads i) : Reads (.arr items) := by
  intro level fuel rest hfuel _
  cases items with
  | nil =>
    obtain ⟨fuel, rfl⟩ := exists_fuel hfuel (by simp [indented])
    rfl
  | cons item items =>
    obtain ⟨hitem, hrest⟩ := List.forall_mem_cons.mp hwhole
    obtain ⟨hreads, hall⟩ := List.forall_mem_cons.mp hitems
    have htext : indented level (.arr (item :: items)) ++ rest = '[' :: (newLine (level + 1) ++
        (indented (level + 1) item ++ (indentedItems level items ++ rest))) := by
      simp [indented]
    have hlength : (indented (level + 1) item).length + (indentedItems level items).length + 1 ≤
        (indented level (.arr (item :: items))).length := by
      simp [indented]
    obtain ⟨fuel, rfl⟩ := exists_fuel hfuel (by omega)
    obtain ⟨c, tail, hc, -, hclose⟩ := exists_indented hitem (level + 1)
    have hroom : (indented (level + 1) item).length + (indentedItems level items).length ≤ fuel := by
      omega
    have hread := items?_indented hrest hreads hall level rest hroom
    rw [htext, doc?, skipSpace_indented hitem]
    rw [hc, List.cons_append] at hread ⊢
    split
    · next heq => exact absurd (List.cons.inj heq).1 hclose
    · rw [hread]
      rfl

theorem Reads.obj {members : List (String × Json)} (hwhole : ∀ m ∈ members, Whole m.2)
    (hitems : ∀ m ∈ members, Reads m.2) : Reads (.obj members) := by
  intro level fuel rest hfuel _
  cases members with
  | nil =>
    obtain ⟨fuel, rfl⟩ := exists_fuel hfuel (by simp [indented])
    rfl
  | cons m members =>
    obtain ⟨name, item⟩ := m
    obtain ⟨(hitem : Whole item), hrest⟩ := List.forall_mem_cons.mp hwhole
    obtain ⟨(hreads : Reads item), hall⟩ := List.forall_mem_cons.mp hitems
    have htext : indented level (.obj ((name, item) :: members)) ++ rest =
        '\x7b' :: (newLine (level + 1) ++ (stringText name ++ ':' :: ' ' ::
          (indented (level + 1) item ++ (indentedMembers level members ++ rest)))) := by
      simp [indented]
    have hlength : (indented (level + 1) item).length + (indentedMembers level members).length + 1 ≤
        (indented level (.obj ((name, item) :: members))).length := by
      simp [indented]
      omega
    obtain ⟨fuel, rfl⟩ := exists_fuel hfuel (by omega)
    have hquote : ∀ text, skipSpace (newLine (level + 1) ++ (stringText name ++ text)) =
        stringText name ++ text := fun text => skipSpace_newLine (level + 1) rfl _
    have hroom : (indented (level + 1) item).length + (indentedMembers level members).length ≤
        fuel := by omega
    have hread := members?_indented name hitem hrest hreads hall level rest hroom
    rw [htext, doc?, hquote]
    rw [stringText_append] at hread ⊢
    split
    · next heq => exact absurd (List.cons.inj heq).1 (by decide)
    · rw [hread]
      rfl

/-- **A value with whole numbers only is read as what it spells.** -/
theorem Whole.reads {j : Json} (h : Whole j) : Reads j := by
  induction h with
  | null =>
    intro level fuel rest hfuel _
    obtain ⟨fuel, rfl⟩ := exists_fuel hfuel (by simp [indented])
    rfl
  | bool value =>
    intro level fuel rest hfuel _
    cases value
    · obtain ⟨fuel, rfl⟩ := exists_fuel hfuel (by simp [indented])
      rfl
    · obtain ⟨fuel, rfl⟩ := exists_fuel hfuel (by simp [indented])
      rfl
  | @int n hlow hhigh =>
    intro level fuel rest hfuel hrest
    obtain ⟨c, tail, htext, hc⟩ := exists_intText n
    have hindented : indented level (.int n) = intText n := rfl
    have hnumeral := numeral?_intText n hrest
    rw [hindented] at hfuel ⊢
    rw [htext] at hfuel hnumeral ⊢
    obtain ⟨fuel, rfl⟩ := exists_fuel hfuel (Nat.succ_pos _)
    rw [List.cons_append] at hnumeral ⊢
    rw [doc?_number fuel hc, hnumeral]
    rfl
  | str text =>
    intro level fuel rest hfuel _
    have hindented : indented level (.str text) = stringText text := rfl
    obtain ⟨fuel, rfl⟩ := exists_fuel hfuel (Nat.succ_pos _)
    rw [hindented, stringText_append, doc?, string?_stringText]
    rfl
  | arr hitems ih => exact Reads.arr hitems ih
  | obj hmembers ih => exact Reads.obj hmembers ih

theorem parse?_pretty {members : List (String × Json)} (h : Whole (.obj members)) :
    Doc.parse? (pretty (.obj members)) = some (Doc.ofJson (.obj members)) := by
  obtain ⟨c, rest, htext, hspace, -⟩ := exists_indented h 0
  have hread := h.reads 0 _ [] (Nat.le_succ _) stopsNumeral_nil
  rw [List.append_nil] at hread
  have hskip : skipSpace (indented 0 (.obj members)) = indented 0 (.obj members) := by
    rw [htext]
    exact skipSpace_of_not hspace rest
  simp only [Doc.parse?, pretty, String.toList_ofList, hskip, hread]
  rfl

end BlobStore.Json
