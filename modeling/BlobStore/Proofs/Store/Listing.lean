import Mathlib
import BlobStore.Proofs.Bucket.Uploads
import BlobStore.Proofs.Shared
import BlobStore.Proofs.Store.Prefix
import BlobStore.Proofs.Text.Bytes

/-!
# Listing while others are at work

A listing takes several calls, and between two of them others may put and delete what they like, the
key behind which the listing goes on included. `Listing.Traced` is what holds at every moment: what
was found was stored when it was found, and of the keys up to the token the listing has found all
that were there whenever it asked. `listing_complete` draws the end from it.
-/

namespace BlobStore.Store

open Client (result?)

variable {w : Shared Unit Listing Bucket} {moves : List (Move Unit)} {k : String}

/-- Behind the moves `past` the listing, not yet done, asks for a page. -/
def Asks (w : Shared Unit Listing Bucket) (moves past : List (Move Unit)) : Prop :=
  past ++ [.turn ()] <+: moves ∧ result? ((w.run past).clients ()) = none

/-- The key was stored when the page was asked for with which it was found. -/
def ListedAt (w : Shared Unit Listing Bucket) (moves : List (Move Unit)) (k : String) : Prop :=
  ∃ past, Asks w moves past ∧ k ∈ (w.run past).backend.objects.keys ∧
    k ∉ ((w.run past).clients ()).found ∧ k ∈ ((w.run (past ++ [.turn ()])).clients ()).found

/-- The key was stored whenever a page was asked for. -/
def StaysStored (w : Shared Unit Listing Bucket) (moves : List (Move Unit)) (k : String) : Prop :=
  ∀ past, Asks w moves past → k ∈ (w.run past).backend.objects.keys

theorem Asks.concat {past : List (Move Unit)} (h : Asks w moves past) (m : Move Unit) :
    Asks w (moves ++ [m]) past :=
  ⟨h.1.trans (List.prefix_append _ _), h.2⟩

theorem ListedAt.concat (h : ListedAt w moves k) (m : Move Unit) : ListedAt w (moves ++ [m]) k := by
  obtain ⟨past, hasks, hfound⟩ := h
  exact ⟨past, hasks.concat m, hfound⟩

theorem StaysStored.of_concat {m : Move Unit} (h : StaysStored w (moves ++ [m]) k) :
    StaysStored w moves k :=
  fun past hasks => h past (hasks.concat m)

namespace Listing

theorem result?_eq_some {l : Listing} (h : l.ended = some (.ok ())) :
    result? l = some (.ok l.found) := by
  obtain ⟨stem, perPage, token, found, ended⟩ := l
  obtain rfl : ended = some (.ok ()) := h
  rfl

/-- The listing is past the key: it has ended, or goes on from the key or from behind it. -/
def Past (l : Listing) (k : String) : Prop := l.ended = none → ∃ t, l.token = some t ∧ k ≤ t

/-- What holds of a listing at every moment. -/
structure Traced (w : Shared Unit Listing Bucket) (moves : List (Move Unit)) (l : Listing) :
    Prop where
  stem : l.stem = (w.clients ()).stem
  perPage : l.perPage ≠ 0
  ended : l.ended = none ∨ l.ended = some (.ok ())
  ascending : l.found.Pairwise (· < ·)
  /-- A listing goes on behind the last key that it found. -/
  token : l.ended = none → l.token = l.found.getLast?
  stems : ∀ k ∈ l.found, Bucket.startsWith l.stem k = true
  stored : ∀ k ∈ l.found, ListedAt w moves k
  complete : ∀ k, Bucket.startsWith l.stem k = true → StaysStored w moves k → l.Past k →
    k ∈ l.found

namespace Traced

variable {l : Listing}

theorem concat (h : Traced w moves l) (m : Move Unit) : Traced w (moves ++ [m]) l :=
  { h with
    stored := fun k hk => (h.stored k hk).concat m
    complete := fun k hstem hstays => h.complete k hstem hstays.of_concat }

theorem hasStem (h : Traced w moves l) (hended : l.ended = none) :
    Bucket.HasStem l.stem l.token := by
  intro t ht
  rw [h.token hended] at ht
  exact h.stems t (List.mem_of_getLast? ht)

theorem lt_of_mem_matching (h : Traced w moves l) (hended : l.ended = none) {b : Bucket}
    {x : String} (hx : x ∈ l.found) (hk : k ∈ b.matching l.stem l.token) : x < k := by
  obtain ⟨init, last, heq⟩ := List.eq_nil_or_concat l.found |>.resolve_left (List.ne_nil_of_mem hx)
  rw [List.concat_eq_append] at heq
  have hlast : l.token = some last := by rw [h.token hended, heq]; simp
  have hlt : last < k := ((Bucket.mem_matching (h.hasStem hended)).mp hk).2 last hlast
  have hascending := h.ascending
  rw [heq, List.pairwise_append] at hascending
  rw [heq, List.mem_append, List.mem_singleton] at hx
  rcases hx with hx | rfl
  · exact lt_trans (hascending.2.2 x hx last (by simp)) hlt
  · exact hlt

theorem extend (h : Traced w moves l) (hl : (w.run moves).clients () = l) (hended : l.ended = none)
    {found : List String} {token : Option String} {ended : Option (Except StoreError Unit)}
    (hnext : (w.run (moves ++ [.turn ()])).clients () =
      { l with found := l.found ++ found, token := token, ended := ended })
    (hsub : found <+: (w.run moves).backend.matching l.stem l.token)
    (hresult : ended = none ∨ ended = some (.ok ()))
    (htoken : ended = none → token = (l.found ++ found).getLast?)
    (hleft : ∀ k ∈ (w.run moves).backend.matching l.stem l.token,
      (ended = none → ∃ t, token = some t ∧ k ≤ t) → k ∈ found) :
    Traced w (moves ++ [.turn ()])
      { l with found := l.found ++ found, token := token, ended := ended } := by
  have hasks : Asks w (moves ++ [.turn ()]) moves := by
    refine ⟨List.prefix_rfl, ?_⟩
    rw [hl]
    exact result?_eq_none.mpr hended
  generalize hb : (w.run moves).backend = b at hsub hleft
  have hmatching : ∀ k, k ∈ b.matching l.stem l.token ↔
      k ∈ b.under l.stem ∧ ∀ t, l.token = some t → t < k :=
    fun k => Bucket.mem_matching (h.hasStem hended)
  have hbehind : ∀ x ∈ l.found, ∀ k ∈ found, x < k := fun x hx k hk =>
    h.lt_of_mem_matching hended hx (hsub.subset hk)
  refine ⟨h.stem, h.perPage, hresult, ?_, htoken, ?_, ?_, ?_⟩
  · refine List.pairwise_append.mpr ⟨h.ascending, ?_, hbehind⟩
    exact (Bucket.pairwise_matching (h.hasStem hended)).sublist hsub.sublist
  · intro k hk
    rcases List.mem_append.mp hk with hk | hk
    · exact h.stems k hk
    · exact (Bucket.mem_under.mp ((hmatching k).mp (hsub.subset hk)).1).2
  · intro k hk
    rcases List.mem_append.mp hk with hk | hk
    · exact (h.stored k hk).concat _
    · have hunder := ((hmatching k).mp (hsub.subset hk)).1
      refine ⟨moves, hasks, ?_, ?_, ?_⟩
      · rw [hb, SortedMap.mem_keys]
        exact (Bucket.mem_under.mp hunder).1
      · rw [hl]
        exact fun hin => lt_irrefl k (hbehind k hin k hk)
      · rw [hnext]
        exact List.mem_append_right _ hk
  · intro k hstem hstays hpast
    have hstored : k ∈ b.objects.keys := hb ▸ hstays moves hasks
    by_cases hbefore : l.Past k
    · exact List.mem_append_left _ (h.complete k hstem hstays.of_concat hbefore)
    · -- the key lies behind the token, so the page was cut from it too
      refine List.mem_append_right _ (hleft k ((hmatching k).mpr ⟨?_, fun t ht => ?_⟩) hpast)
      · exact Bucket.mem_under.mpr ⟨SortedMap.mem_keys.mp hstored, hstem⟩
      · by_contra hle
        exact hbefore fun _ => ⟨t, ht, not_lt.mp hle⟩

/-- **One page**, whether it was cut off or not. -/
theorem turn (h : Traced w moves l) (hl : (w.run moves).clients () = l) (hended : l.ended = none)
    (hpage : (w.run moves).backend.failingPage = none) :
    Traced w (moves ++ [.turn ()]) ((w.run (moves ++ [.turn ()])).clients ()) := by
  have hnext : (w.run (moves ++ [.turn ()])).clients () =
      l.turn ((w.run moves).backend.page l.stem l.token l.perPage) := by
    rw [Shared.run_concat, Shared.clients_turn_self, hl, advance_of_none hended hpage]
  by_cases htrunc : l.perPage < ((w.run moves).backend.matching l.stem l.token).length
  · obtain ⟨last, hlast, hturn⟩ := exists_turn_of_lt h.perPage htrunc
    rw [hturn] at hnext
    rw [hnext]
    refine h.extend hl hended hnext (List.take_prefix _ _) (.inl hended) ?_ ?_
    · intro _
      rw [List.getLast?_append, hlast, Option.some_or]
    · intro k hk hpast
      obtain ⟨t, ht, hle⟩ := hpast hended
      obtain rfl := Option.some.inj ht
      rw [← List.take_append_drop l.perPage (Bucket.matching _ _ _), List.mem_append] at hk
      refine hk.resolve_right fun hdrop => ?_
      rw [← Bucket.filter_lt_getLast (Bucket.pairwise_matching (h.hasStem hended)) hlast,
        List.mem_filter] at hdrop
      exact absurd (of_decide_eq_true hdrop.2) (not_lt.mpr hle)
  · have hle := Nat.not_lt.mp htrunc
    rw [turn_of_le h.perPage hle] at hnext
    rw [hnext]
    refine h.extend hl hended hnext List.prefix_rfl (.inr rfl) ?_ fun k hk _ => hk
    intro hnone
    cases hnone

end Traced

theorem traced_start {b : Bucket} {stem : String} {limit : Nat} :
    Traced ⟨fun _ => listing stem limit, b⟩ [] (listing stem limit) where
  stem := rfl
  perPage := perPage_listing_ne_zero stem limit
  ended := .inl rfl
  ascending := List.Pairwise.nil
  token := fun _ => rfl
  stems := List.forall_mem_nil _
  stored := List.forall_mem_nil _
  complete := by
    intro k _ _ hpast
    obtain ⟨t, ht, -⟩ := hpast rfl
    cases ht

/-- **Every moment** of a listing, whatever the others do. -/
theorem Traced.run (h : Traced w [] (w.clients ())) (hpage : w.backend.failingPage = none)
    (moves : List (Move Unit)) : Traced w moves ((w.run moves).clients ()) := by
  have hpages : ∀ moves, (w.run moves).backend.failingPage = none :=
    Shared.run_keeps (P := fun b => b.failingPage = none)
      (fun c b hb => (Bucket.failingPage_answer c b).trans hb) hpage
  induction moves using List.reverseRecOn with
  | nil => exact h
  | append_singleton moves m ih =>
    cases m with
    | turn i =>
      rcases ih.ended with hended | hended
      · exact ih.turn rfl hended (hpages moves)
      · have hsame : (w.run (moves ++ [.turn ()])).clients () = (w.run moves).clients () := by
          rw [Shared.run_concat, Shared.clients_turn_self, Client.advance_of_done]
          exact Client.result?_eq_some.mp (result?_eq_some hended)
        rw [hsame]
        exact ih.concat _
    | other c =>
      rw [Shared.run_concat]
      exact ih.concat _

end Listing

/-- What a listing of the keys with a stem comes to while others are at work. -/
structure Faithful (w : Shared Unit Listing Bucket) (moves : List (Move Unit)) (stem : List Char)
    (keys : List String) : Prop where
  ascending : keys.Pairwise fun x y => Text.bytes x < Text.bytes y
  stems : ∀ k ∈ keys, stem <+: k.toList
  stored : ∀ k ∈ keys, ListedAt w moves k
  complete : ∀ k, stem <+: k.toList → StaysStored w moves k → k ∈ keys

/-- **A listing is complete and lists no key twice**, whatever others do between its pages. If they
do nothing, it ends with the last page, and the limit plays no part in what is found. -/
theorem listing_complete (b : Bucket) (hpage : b.failingPage = none) (stem : String) :
    (∀ limit moves result,
      let w : Shared Unit Listing Bucket := ⟨fun _ => listing stem limit, b⟩
      result? ((w.run moves).clients ()) = some result → ∃ keys, result = .ok keys ∧
        Faithful w moves (stem.toList.dropWhile (· = '/')) keys) ∧
    ∀ limit calls,
      let keys := b.under (.ofList (stem.toList.dropWhile (· = '/')))
      let perPage := if limit = 0 then 1000 else min limit 1000
      let pages := max 1 ((keys.length + perPage - 1) / perPage)
      result? (Client.run calls (listing stem limit) b).1 =
        (if calls < pages then none else some (.ok keys)) ∧
      (Client.run calls (listing stem limit) b).2 =
        { b with listed := b.listed + min calls pages } := by
  refine ⟨?_, fun limit calls => run_listing stem limit hpage calls⟩
  intro limit moves result w hresult
  have htraced := (Listing.traced_start : Listing.Traced w [] (w.clients ())).run hpage moves
  generalize (w.run moves).clients () = l at hresult htraced
  have hended : l.ended = some (.ok ()) := htraced.ended.resolve_left fun hnone => by
    rw [Listing.result?_eq_none.mpr hnone] at hresult
    cases hresult
  have hstem : ∀ k : String, Bucket.startsWith l.stem k = true ↔
      stem.toList.dropWhile (· = '/') <+: k.toList := by
    intro k
    rw [Bucket.startsWith_iff, htraced.stem]
    simp only [listing, String.toList_ofList]
  rw [Listing.result?_eq_some hended] at hresult
  refine ⟨l.found, (Option.some.inj hresult).symm, htraced.ascending.imp Text.bytes_lt, ?_,
    htraced.stored, ?_⟩
  · exact fun k hk => (hstem k).mp (htraced.stems k hk)
  · intro k hk hstays
    refine htraced.complete k ((hstem k).mpr hk) hstays fun hnone => ?_
    rw [hended] at hnone
    cases hnone

/-- Three keys, two a page: the key behind which the second page starts is deleted meanwhile. -/
theorem listing_complete_deleted_token :
    let b := ["a/1", "a/2", "a/3", "b"].foldl (fun b k => b.store k ⟨⟨#[1]⟩, none⟩)
      (Bucket.new "logs")
    let w : Shared Unit Listing Bucket := ⟨fun _ => listing "/a" 2, b⟩
    let moves : List (Move Unit) := [.turn (), .other (.delete "a/2"), .turn ()]
    b.failingPage = none ∧
      result? ((w.run moves).clients ()) = some (.ok ["a/1", "a/2", "a/3"]) ∧
      Faithful w moves ['a'] ["a/1", "a/2", "a/3"] := by
  intro b w moves
  have hpage : b.failingPage = none := rfl
  have hresult : result? ((w.run moves).clients ()) = some (.ok ["a/1", "a/2", "a/3"]) := by
    decide +kernel
  obtain ⟨keys, hkeys, hfaithful⟩ := (listing_complete b hpage "/a").1 2 moves _ hresult
  obtain rfl := Except.ok.inj hkeys
  exact ⟨hpage, hresult, hfaithful⟩

end BlobStore.Store
