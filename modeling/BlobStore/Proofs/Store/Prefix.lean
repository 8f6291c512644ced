import Mathlib
import BlobStore.Proofs.Bucket.Pages
import BlobStore.Proofs.Client
import BlobStore.Store

/-!
# Listing and deleting by prefix

What the two clients that go through pages come to at a bucket in memory whose pages do not fail. A
listing asks for as many pages as its keys fill (`Listing.run_eq`); a purge goes on until no key is
left over, and what is left over gets less with each page (`Purge.exists_ends`).
-/

namespace BlobStore.Store

open Client (Ends)

variable {b : Bucket}

/-! ## Listing -/

/-- A listing behind one more page. -/
def Listing.turn (l : Listing) (page : Page) : Listing :=
  match page.token, page.truncated with
  | some token, true => { l with found := l.found ++ page.keys, token := some token }
  | _, _ => { l with found := l.found ++ page.keys, ended := some (.ok ()) }

namespace Listing

variable {l : Listing}

theorem result?_eq_none : Client.result? l = none ↔ l.ended = none := by
  obtain ⟨stem, perPage, token, found, ended⟩ := l
  cases ended with
  | none => exact iff_of_true rfl rfl
  | some result => exact iff_of_false (Option.some_ne_none _) (Option.some_ne_none _)

theorem exists_step (h : l.ended = none) : ∃ next,
    Client.step l = .ask (.list l.stem l.token l.perPage) next ∧
      ∀ page, next (.ok page) = l.turn page := by
  obtain ⟨stem, perPage, token, found, ended⟩ := l
  obtain rfl : ended = none := h
  exact ⟨_, rfl, fun page => rfl⟩

theorem run_of_none (h : l.ended = none) (hb : b.failingPage = none) (calls : Nat) :
    Client.run (calls + 1) l b =
      Client.run calls (l.turn (b.page l.stem l.token l.perPage)) b.counted := by
  obtain ⟨next, hstep, hnext⟩ := exists_step h
  rw [Client.run_of_ask hstep, Bucket.answer_list hb, hnext]

theorem advance_of_none (h : l.ended = none) (hb : b.failingPage = none) :
    Client.advance l b = (l.turn (b.page l.stem l.token l.perPage), b.counted) := by
  obtain ⟨next, hstep, hnext⟩ := exists_step h
  rw [Client.advance_of_ask hstep, Bucket.answer_list hb, hnext]

theorem exists_turn_of_lt (hper : l.perPage ≠ 0)
    (h : l.perPage < (b.matching l.stem l.token).length) : ∃ last,
      ((b.matching l.stem l.token).take l.perPage).getLast? = some last ∧
      l.turn (b.page l.stem l.token l.perPage) =
        { l with
          found := l.found ++ (b.matching l.stem l.token).take l.perPage, token := some last } := by
  obtain ⟨last, hlast⟩ : ∃ last,
      ((b.matching l.stem l.token).take l.perPage).getLast? = some last := by
    refine ⟨_, List.getLast?_eq_some_getLast fun hnil => ?_⟩
    have hlength := congrArg List.length hnil
    rw [List.length_take, List.length_nil] at hlength
    omega
  refine ⟨last, hlast, ?_⟩
  rw [Bucket.page_eq _ _ _ hper, if_pos h, hlast, decide_eq_true h]
  rfl

theorem turn_of_le (hper : l.perPage ≠ 0)
    (h : (b.matching l.stem l.token).length ≤ l.perPage) :
    l.turn (b.page l.stem l.token l.perPage) =
      { l with found := l.found ++ b.matching l.stem l.token, ended := some (.ok ()) } := by
  rw [Bucket.page_eq _ _ _ hper, if_neg (Nat.not_lt.mpr h), List.take_of_length_le h]
  rfl

/-- How many pages `n` keys take: full ones, a last one that may not be full, and one if there is no
key at all. -/
def pages (perPage n : Nat) : Nat := max 1 ((n + perPage - 1) / perPage)

theorem pages_of_le {perPage n : Nat} (h : n ≤ perPage) : pages perPage n = 1 := by
  rcases Nat.eq_zero_or_pos perPage with rfl | hpos
  · simp [pages]
  · have hlt : (n + perPage - 1) / perPage < 2 := (Nat.div_lt_iff_lt_mul hpos).mpr (by omega)
    rw [pages]
    omega

theorem pages_of_lt {perPage n : Nat} (hpos : perPage ≠ 0) (h : perPage < n) :
    pages perPage n = pages perPage (n - perPage) + 1 := by
  have hsucc : (n + perPage - 1) / perPage = (n - perPage + perPage - 1) / perPage + 1 := by
    rw [← Nat.add_div_right _ (Nat.pos_of_ne_zero hpos)]
    congr 1
    omega
  have hone : 1 ≤ (n - perPage + perPage - 1) / perPage :=
    (Nat.one_le_div_iff (Nat.pos_of_ne_zero hpos)).mpr (by omega)
  rw [pages, pages, hsucc]
  omega

/-- **A listing that nobody disturbs** has found all the keys that are still to come as soon as it
has asked for their pages, and not before. -/
theorem run_eq (hper : l.perPage ≠ 0) (h : l.ended = none) (htoken : Bucket.HasStem l.stem l.token)
    (hb : b.failingPage = none) (calls : Nat) :
    let pages := pages l.perPage (b.matching l.stem l.token).length
    Client.result? (Client.run calls l b).1 =
      (if calls < pages then none else some (.ok (l.found ++ b.matching l.stem l.token))) ∧
    (Client.run calls l b).2 = { b with listed := b.listed + min calls pages } := by
  intro pages
  induction calls generalizing l b with
  | zero =>
    have hpos : 0 < pages := by
      simp only [pages, Listing.pages]
      omega
    rw [if_pos hpos, Nat.zero_min]
    exact ⟨result?_eq_none.mpr h, rfl⟩
  | succ calls ih =>
    rw [run_of_none h hb]
    by_cases htrunc : l.perPage < (b.matching l.stem l.token).length
    · obtain ⟨last, hlast, hturn⟩ := exists_turn_of_lt hper htrunc
      obtain ⟨hstem, hnext⟩ := Bucket.matching_next htoken hlast
      have hnext' : b.counted.matching l.stem (some last) =
          (b.matching l.stem l.token).drop l.perPage := hnext
      have hpages : pages = Listing.pages l.perPage
          ((b.matching l.stem l.token).drop l.perPage).length + 1 := by
        simp only [pages]
        rw [pages_of_lt hper htrunc, List.length_drop]
      obtain ⟨hresult, hbucket⟩ := ih (l := { l with
        found := l.found ++ (b.matching l.stem l.token).take l.perPage, token := some last })
        (b := b.counted) hper h hstem hb
      rw [hnext', List.append_assoc, List.take_append_drop] at hresult
      rw [hnext'] at hbucket
      rw [hturn, hresult, hbucket, hpages]
      refine ⟨?_, ?_⟩
      · simp only [Nat.add_lt_add_iff_right]
      · rw [Nat.add_min_add_right, ← Nat.add_assoc, Nat.add_right_comm]
        rfl
    · have hle := Nat.not_lt.mp htrunc
      have hpages : pages = 1 := pages_of_le hle
      rw [turn_of_le hper hle, Client.run_of_done rfl, hpages, if_neg (by omega),
        Nat.min_eq_right (Nat.le_add_left 1 calls)]
      exact ⟨rfl, rfl⟩

end Listing

theorem perPage_listing_ne_zero (stem : String) (limit : Nat) :
    (listing stem limit).perPage ≠ 0 := by
  show (if limit = 0 then pageSize else min limit pageSize) ≠ 0
  split
  · decide
  · simp only [pageSize]
    omega

theorem run_listing (stem : String) (limit : Nat) (hb : b.failingPage = none) (calls : Nat) :
    let keys := b.under (listing stem limit).stem
    let pages := Listing.pages (listing stem limit).perPage keys.length
    Client.result? (Client.run calls (listing stem limit) b).1 =
      (if calls < pages then none else some (.ok keys)) ∧
    (Client.run calls (listing stem limit) b).2 = { b with listed := b.listed + min calls pages } := by
  have hrun := Listing.run_eq (perPage_listing_ne_zero stem limit) rfl
    (Bucket.hasStem_none (listing stem limit).stem) hb calls
  rwa [show (listing stem limit).token = none from rfl,
    show (listing stem limit).found = [] from rfl, Bucket.matching_none, List.nil_append] at hrun

/-- **A listing finds all the keys with its stem**, whatever the limit. -/
theorem exists_ends_listing (stem : String) (limit : Nat) (hb : b.failingPage = none) :
    ∃ n, Ends (listing stem limit) b (.ok (b.under (listing stem limit).stem))
      { b with listed := n } := by
  obtain ⟨hresult, hbucket⟩ := run_listing stem limit hb
    (Listing.pages (listing stem limit).perPage (b.under (listing stem limit).stem).length)
  rw [if_neg (Nat.lt_irrefl _)] at hresult
  exact ⟨_, _, hresult, hbucket⟩

theorem contains_eq (s : Store) (key : String) (hb : b.failingPage = none) :
    s.contains key b = (.ok !(b.under (s.physicalKey key)).isEmpty, b.counted) := by
  have hempty : ((b.under (s.physicalKey key)).take 1).isEmpty =
      (b.under (s.physicalKey key)).isEmpty := by
    cases b.under (s.physicalKey key) <;> rfl
  rw [contains, Bucket.answer_list hb, Bucket.page_eq _ _ _ Nat.one_ne_zero, Bucket.matching_none,
    ← hempty]
  rfl

/-! ## Deleting -/

theorem foldl_delete (b : Bucket) (keys : List String) :
    keys.foldl Bucket.delete b = { b with objects := keys.foldl SortedMap.erase b.objects } := by
  induction keys generalizing b with
  | nil => rfl
  | cons key keys ih => rw [List.foldl_cons, ih]; rfl

/-- A purge that got a page. -/
def Purge.turn (p : Purge) (page : Page) : Purge :=
  if page.keys = [] then { p with ended := some (.ok ()) } else { p with rest := page.keys }

theorem Purge.ends_of_rest {stem : String} {a : Except StoreError Unit} {b' : Bucket}
    (keys : List String) (h : Ends (⟨stem, [], none⟩ : Purge) (keys.foldl Bucket.delete b) a b') :
    Ends (⟨stem, keys, none⟩ : Purge) b a b' := by
  induction keys generalizing b with
  | nil => exact h
  | cons key keys ih =>
    exact Client.ends_of_ask (s := (⟨stem, key :: keys, none⟩ : Purge)) rfl (ih h)

theorem Purge.exists_ends (stem : String) (hb : b.failingPage = none) :
    ∃ objects n, (∀ k, objects.get? k =
        if Bucket.startsWith stem k then none else b.objects.get? k) ∧
      Ends (⟨stem, [], none⟩ : Purge) b (.ok ()) { b with objects, listed := n } := by
  induction hn : (b.under stem).length using Nat.strong_induction_on generalizing b with
  | _ n ih =>
    have hask : ∀ a b', Ends (turn ⟨stem, [], none⟩ (b.page stem none pageSize)) b.counted a b' →
        Ends (⟨stem, [], none⟩ : Purge) b a b' := by
      intro a b' h
      refine Client.ends_of_ask (s := (⟨stem, [], none⟩ : Purge)) rfl ?_
      rw [Bucket.answer_list hb]
      exact h
    rw [Bucket.page_eq b stem none (by decide), Bucket.matching_none] at hask
    generalize hkeys : (b.under stem).take pageSize = keys at hask
    by_cases hnil : keys = []
    · have hunder : b.under stem = [] := by
        rw [hnil, List.take_eq_nil_iff] at hkeys
        exact hkeys.resolve_left (by decide)
      refine ⟨b.objects, b.listed + 1, fun k => ?_, hask _ _ ?_⟩
      · split
        · next hk =>
          rw [Option.eq_none_iff_forall_ne_some]
          intro object hobject
          have hmem := Bucket.mem_under.mpr ⟨⟨object, hobject⟩, hk⟩
          rw [hunder] at hmem
          cases hmem
        · rfl
      · rw [turn, if_pos hnil]
        exact Client.ends_of_done rfl _
    · -- some keys are deleted, and what is left over is shorter
      have hmem : ∀ k ∈ keys, k ∈ b.under stem := by
        intro k hk
        rw [← hkeys] at hk
        exact List.mem_of_mem_take hk
      obtain ⟨first, hfirst⟩ := List.exists_mem_of_ne_nil keys hnil
      have hless : ((keys.foldl Bucket.delete b.counted).under stem).length < n := by
        have hunder : (keys.foldl Bucket.delete b.counted).under stem =
            (b.under stem).filter fun k => k ∉ keys := by
          rw [foldl_delete, Bucket.under, Bucket.under, SortedMap.keys_foldl_erase,
            List.filter_filter, List.filter_filter]
          exact List.filter_congr fun k _ => Bool.and_comm ..
        rw [hunder, ← hn, List.length_filter_lt_length_iff_exists]
        exact ⟨first, hmem first hfirst, by simpa using hfirst⟩
      obtain ⟨objects, m, hobjects, hends⟩ := ih _ hless (b := keys.foldl Bucket.delete b.counted)
        (by rw [foldl_delete]; exact hb) rfl
      refine ⟨objects, m, fun k => ?_, hask _ _ ?_⟩
      · rw [hobjects, foldl_delete, SortedMap.get?_foldl_erase]
        split
        · rfl
        · next hk =>
          rw [if_neg fun hin => hk (Bucket.mem_under.mp (hmem k hin)).2]
          rfl
      · rw [turn, if_neg hnil]
        refine Purge.ends_of_rest keys ?_
        rw [foldl_delete] at hends ⊢
        exact hends

end BlobStore.Store
