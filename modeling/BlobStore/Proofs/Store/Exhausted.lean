import Mathlib
import BlobStore.Bucket.Script
import BlobStore.Proofs.Store.Operations

/-!
# When an operation on many keys is done

Listing, deleting by prefix and asking whether there is a key all read pages, and each knows in its
own way that it is done. A listing goes on behind a page that is cut short. Deleting starts over
until a page has no keys, and asking takes the first page as it is; neither reads whether the page is
cut short. Here this is told by the exchanges of a run, whatever the bucket replies, and so of every
bucket.
-/

namespace BlobStore

/-- The page is cut short and says how to go on behind it. -/
def Page.LeadsOn (p : Page) : Prop := p.truncated = true ∧ p.token.isSome = true

instance (p : Page) : Decidable p.LeadsOn := inferInstanceAs (Decidable (_ ∧ _))

namespace Store

open Backend (Plays)
open Client (Finishes)

variable {es : List Exchange}

namespace Listing

/-- The exchanges that bring these pages: each but the first goes on behind the one before. -/
def exchanges (stem : String) (perPage : Nat) : Option String → List Page → List Exchange
  | _, [] => []
  | token, p :: ps => ⟨.list stem token perPage, .ok p⟩ :: exchanges stem perPage p.token ps

/-- The listing behind a page. -/
def behind (l : Listing) (p : Page) : Listing :=
  { l with
    found := l.found ++ p.keys
    token := if p.LeadsOn then p.token else l.token
    ended := if p.LeadsOn then none else some (.ok ()) }

variable {l : Listing} {keys : List String}

theorem finishes_ok_iff_of_none (hended : l.ended = none) : Finishes l es (.ok keys) ↔
    ∃ p es', es = ⟨.list l.stem l.token l.perPage, .ok p⟩ :: es' ∧
      Finishes (l.behind p) es' (.ok keys) := by
  obtain ⟨stem, perPage, token, found, ended⟩ := l
  obtain rfl : ended = none := hended
  rw [Client.finishes_of_ask rfl]
  constructor
  · rintro ⟨reply, es', rfl, hrest⟩
    cases reply with
    | error e =>
      obtain ⟨-, hkeys⟩ := (Client.finishes_of_done rfl _ _).mp hrest
      cases hkeys
    | ok p =>
      refine ⟨p, es', rfl, ?_⟩
      obtain ⟨pkeys, truncated, next⟩ := p
      cases truncated <;> cases next <;> exact hrest
  · rintro ⟨p, es', rfl, hrest⟩
    refine ⟨.ok p, es', rfl, ?_⟩
    obtain ⟨pkeys, truncated, next⟩ := p
    cases truncated <;> cases next <;> exact hrest

theorem behind_of_leadsOn {p : Page} (hp : p.LeadsOn) :
    l.behind p = { l with found := l.found ++ p.keys, token := p.token, ended := none } := by
  simp only [behind, if_pos hp]

theorem finishes_behind_of_not_leadsOn {p : Page} (hp : ¬ p.LeadsOn) :
    Finishes (l.behind p) es (.ok keys) ↔ es = [] ∧ keys = l.found ++ p.keys := by
  have hdone : Client.step (l.behind p) = .done (.ok (l.found ++ p.keys)) := by
    simp only [behind, if_neg hp]
    rfl
  rw [Client.finishes_of_done hdone, Except.ok.injEq]

/-- **A listing is done behind the first page that does not lead on**, and has found the keys of all
pages. -/
theorem finishes_ok_iff (hended : l.ended = none) : Finishes l es (.ok keys) ↔
    ∃ init last, es = exchanges l.stem l.perPage l.token (init ++ [last]) ∧
      (∀ p ∈ init, p.LeadsOn) ∧ ¬ last.LeadsOn ∧
      keys = l.found ++ (init ++ [last]).flatMap (·.keys) := by
  constructor
  · intro hrun
    induction es generalizing l with
    | nil =>
      obtain ⟨p, es', hes, -⟩ := (finishes_ok_iff_of_none hended).mp hrun
      cases hes
    | cons e es ih =>
      obtain ⟨p, es', hes, hrest⟩ := (finishes_ok_iff_of_none hended).mp hrun
      obtain ⟨rfl, rfl⟩ := List.cons.inj hes
      by_cases hp : p.LeadsOn
      · rw [behind_of_leadsOn hp] at hrest
        obtain ⟨init, last, rfl, hinit, hlast, rfl⟩ := ih rfl hrest
        exact ⟨p :: init, last, rfl, List.forall_mem_cons.mpr ⟨hp, hinit⟩, hlast, by simp⟩
      · obtain ⟨rfl, rfl⟩ := (finishes_behind_of_not_leadsOn hp).mp hrest
        exact ⟨[], p, rfl, List.forall_mem_nil _, hp, by simp⟩
  · rintro ⟨init, last, rfl, hinit, hlast, rfl⟩
    induction init generalizing l with
    | nil =>
      exact (finishes_ok_iff_of_none hended).mpr
        ⟨last, [], rfl, (finishes_behind_of_not_leadsOn hlast).mpr ⟨rfl, by simp⟩⟩
    | cons p init ih =>
      obtain ⟨hp, hinit⟩ := List.forall_mem_cons.mp hinit
      refine (finishes_ok_iff_of_none hended).mpr ⟨p, _, rfl, ?_⟩
      have hrest := ih (l := l.behind p) (by rw [behind_of_leadsOn hp]) hinit
      rw [behind_of_leadsOn hp] at hrest ⊢
      simpa using hrest

end Listing

namespace Purge

variable {stem : String}

/-- The exchanges that delete objects. -/
def deletions (keys : List String) : List Exchange := keys.map fun key => ⟨.delete key, .ok ()⟩

/-- The exchange that brings a page. -/
def paging (stem : String) (p : Page) : Exchange := ⟨.list stem none pageSize, .ok p⟩

/-- A page is brought, and all its keys are deleted. -/
def round (stem : String) (p : Page) : List Exchange := paging stem p :: deletions p.keys

theorem finishes_deletions (keys : List String) : Finishes (⟨stem, keys, none⟩ : Purge) es (.ok ()) ↔
    ∃ es', es = deletions keys ++ es' ∧ Finishes (⟨stem, [], none⟩ : Purge) es' (.ok ()) := by
  induction keys generalizing es with
  | nil => simp [deletions]
  | cons key keys ih =>
    rw [Client.finishes_of_ask rfl]
    constructor
    · rintro ⟨reply, es', rfl, hrest⟩
      cases reply with
      | error e =>
        obtain ⟨-, ha⟩ := (Client.finishes_of_done rfl _ _).mp hrest
        cases ha
      | ok _ =>
        obtain ⟨es'', rfl, hlater⟩ := ih.mp hrest
        exact ⟨es'', rfl, hlater⟩
    · rintro ⟨es', rfl, hrest⟩
      exact ⟨.ok (), _, rfl, ih.mpr ⟨es', rfl, hrest⟩⟩

theorem finishes_paging : Finishes (⟨stem, [], none⟩ : Purge) es (.ok ()) ↔
    ∃ p es', es = paging stem p :: es' ∧
      if p.keys = [] then es' = [] else Finishes (⟨stem, p.keys, none⟩ : Purge) es' (.ok ()) := by
  rw [Client.finishes_of_ask rfl]
  constructor
  · rintro ⟨reply, es', rfl, hrest⟩
    cases reply with
    | error e =>
      obtain ⟨-, ha⟩ := (Client.finishes_of_done rfl _ _).mp hrest
      cases ha
    | ok p =>
      refine ⟨p, es', rfl, ?_⟩
      dsimp only at hrest
      split at hrest
      · next hkeys => rw [if_pos hkeys, ((Client.finishes_of_done rfl _ _).mp hrest).1]
      · next hkeys => rwa [if_neg hkeys]
  · rintro ⟨p, es', rfl, hrest⟩
    refine ⟨.ok p, es', rfl, ?_⟩
    dsimp only
    split at hrest
    · next hkeys => rw [if_pos hkeys]; exact (Client.finishes_of_done rfl _ _).mpr ⟨hrest, rfl⟩
    · next hkeys => rwa [if_neg hkeys]

/-- **Deleting by prefix is done behind the first page without keys.** -/
theorem finishes_ok_iff : Finishes (⟨stem, [], none⟩ : Purge) es (.ok ()) ↔
    ∃ (rounds : List Page) (last : Page), es = rounds.flatMap (round stem) ++ [paging stem last] ∧
      (∀ p ∈ rounds, p.keys ≠ []) ∧ last.keys = [] := by
  constructor
  · intro hrun
    -- each round has at least the exchange that brings its page
    induction hn : es.length using Nat.strong_induction_on generalizing es with
    | _ n ih =>
      obtain ⟨p, es', rfl, hrest⟩ := finishes_paging.mp hrun
      split at hrest
      · next hkeys =>
        obtain rfl := hrest
        exact ⟨[], p, rfl, List.forall_mem_nil _, hkeys⟩
      · next hkeys =>
        obtain ⟨es'', rfl, hlater⟩ := (finishes_deletions p.keys).mp hrest
        have hlt : es''.length < n := by
          rw [← hn, List.length_cons, List.length_append]
          omega
        obtain ⟨rounds, last, rfl, hrounds, hlast⟩ := ih _ hlt hlater rfl
        exact ⟨p :: rounds, last, by simp [round], List.forall_mem_cons.mpr ⟨hkeys, hrounds⟩, hlast⟩
  · rintro ⟨rounds, last, rfl, hrounds, hlast⟩
    induction rounds with
    | nil => exact finishes_paging.mpr ⟨last, [], rfl, by rw [if_pos hlast]⟩
    | cons p rounds ih =>
      obtain ⟨hp, hrounds⟩ := List.forall_mem_cons.mp hrounds
      refine finishes_paging.mpr ⟨p, _, rfl, ?_⟩
      rw [if_neg hp, finishes_deletions]
      exact ⟨_, List.append_assoc .., ih hrounds⟩

end Purge

/-! ## Operations at a bucket -/

variable {β : Type} [Backend β] {b b' : β}

/-- The exchanges of the operation that lists the keys with a stem, and gets these pages. -/
def pagings (stem : String) (limit : Nat) (pages : List Page) : List Exchange :=
  Listing.exchanges (listing stem limit).stem (listing stem limit).perPage none pages

theorem serves_list_iff {s : Store} {stem : String} {limit : Nat} {keys : List String} :
    s.Serves b (.list stem limit) (.ok keys) b' ↔
      ∃ init last, Plays b (pagings stem limit (init ++ [last])) b' ∧ (∀ p ∈ init, p.LeadsOn) ∧
        ¬ last.LeadsOn ∧ keys = (init ++ [last]).flatMap (·.keys) := by
  constructor
  · intro h
    obtain ⟨es, hrun, hplays⟩ := serves_iff.mp h
    obtain ⟨init, last, rfl, hinit, hlast, hkeys⟩ := (Listing.finishes_ok_iff rfl).mp hrun
    exact ⟨init, last, hplays, hinit, hlast, hkeys⟩
  · rintro ⟨init, last, hplays, hinit, hlast, hkeys⟩
    exact serves_iff.mpr
      ⟨_, (Listing.finishes_ok_iff rfl).mpr ⟨init, last, rfl, hinit, hlast, hkeys⟩, hplays⟩

theorem serves_purge_iff {s : Store} {key : String} : s.Serves b (.purge key) (.ok ()) b' ↔
    ∃ (rounds : List Page) (last : Page), Plays b (rounds.flatMap (Purge.round (s.physicalKey key)) ++
        [Purge.paging (s.physicalKey key) last]) b' ∧
      (∀ p ∈ rounds, p.keys ≠ []) ∧ last.keys = [] := by
  constructor
  · intro h
    obtain ⟨es, hrun, hplays⟩ := serves_iff.mp h
    obtain ⟨rounds, last, rfl, hends⟩ := Purge.finishes_ok_iff.mp hrun
    exact ⟨rounds, last, hplays, hends⟩
  · rintro ⟨rounds, last, hplays, hends⟩
    exact serves_iff.mpr ⟨_, Purge.finishes_ok_iff.mpr ⟨rounds, last, rfl, hends⟩, hplays⟩

theorem serves_contains_iff {s : Store} {key : String} {found : Bool} :
    s.Serves b (.contains key) (.ok found) b' ↔
      ∃ p : Page, Plays b [⟨.list (s.physicalKey key) none 1, .ok p⟩] b' ∧
        found = !p.keys.isEmpty := by
  constructor
  · intro h
    obtain ⟨es, ⟨reply, rfl, hfound⟩, hplays⟩ := serves_iff.mp h
    cases reply with
    | error e => cases hfound
    | ok p => exact ⟨p, hplays, Except.ok.inj hfound⟩
  · rintro ⟨p, hplays, rfl⟩
    exact serves_iff.mpr ⟨_, ⟨.ok p, rfl, rfl⟩, hplays⟩

/-- **When operations on many keys are done**, whatever pages the bucket replies with. A listing has
found the keys of all its pages in turn, each asked for behind the one before. If every page that is
cut short says how to go on, the last one is not cut short; and from such pages there is a listing.
Deleting by prefix is done behind the first page without keys, all keys before it deleted. Nothing is
found under a key if its one page has no keys. -/
theorem prefix_operations_done (s : Store) (b b' : β) :
    (∀ stem limit keys, s.Serves b (.list stem limit) (.ok keys) b' →
      ∃ pages, Plays b (pagings stem limit pages) b' ∧ keys = pages.flatMap (·.keys) ∧
        ((∀ p ∈ pages, p.truncated = true → p.token.isSome = true) →
          ∃ init last, pages = init ++ [last] ∧ (∀ p ∈ init, p.truncated = true) ∧
            last.truncated = false)) ∧
    (∀ stem limit init last, Plays b (pagings stem limit (init ++ [last])) b' →
      (∀ p ∈ init, p.LeadsOn) → last.truncated = false →
      s.Serves b (.list stem limit) (.ok ((init ++ [last]).flatMap (·.keys))) b') ∧
    (∀ key, s.Serves b (.purge key) (.ok ()) b' ↔
      ∃ (rounds : List Page) (last : Page), Plays b (rounds.flatMap (Purge.round (s.physicalKey key)) ++
          [Purge.paging (s.physicalKey key) last]) b' ∧
        (∀ p ∈ rounds, p.keys ≠ []) ∧ last.keys = []) ∧
    ∀ key found, s.Serves b (.contains key) (.ok found) b' ↔
      ∃ p : Page, Plays b [⟨.list (s.physicalKey key) none 1, .ok p⟩] b' ∧
        found = !p.keys.isEmpty := by
  refine ⟨fun stem limit keys h => ?_, fun stem limit init last hplays hinit hlast => ?_,
    fun _ => serves_purge_iff, fun _ _ => serves_contains_iff⟩
  · obtain ⟨init, last, hplays, hinit, hlast, hkeys⟩ := serves_list_iff.mp h
    refine ⟨_, hplays, hkeys, fun hpages => ⟨init, last, rfl, fun p hp => (hinit p hp).1, ?_⟩⟩
    by_contra htruncated
    rw [Bool.not_eq_false] at htruncated
    exact hlast ⟨htruncated, hpages last (by simp) htruncated⟩
  · refine serves_list_iff.mpr ⟨init, last, hplays, hinit, fun h => ?_, rfl⟩
    cases hlast.symm.trans h.1

/-- A bucket that holds the key `a` and replies to a listing with these pages first. -/
def scripted (pages : List Page) : Scripted Bucket :=
  ⟨(Bucket.new "logs").store "a" ⟨⟨#[120]⟩, none⟩, { list := pages.map fun p => some (.ok p) }⟩

/-- Two pages, of which the second one says that it is the last. -/
theorem prefix_operations_done_two_pages :
    let pages : List Page := [⟨["a", "b"], true, some "b"⟩, ⟨["c"], false, none⟩]
    let b := scripted pages
    ∃ b', Plays b (pagings "" 2 pages) b' ∧
      (default : Store).Serves b (.list "" 2) (.ok ["a", "b", "c"]) b' := by
  intro pages b
  have hplays : Plays b (pagings "" 2 pages) ⟨b.inner, {}⟩ := ⟨rfl, rfl, rfl⟩
  exact ⟨_, hplays, (prefix_operations_done default b _).2.1 "" 2 [⟨["a", "b"], true, some "b"⟩]
    ⟨["c"], false, none⟩ hplays (by decide) rfl⟩

/-- A page that says that there is more can be the last one: if it has no keys, nothing is found and
nothing is deleted, though there is an object; if it has no token, its keys are the listing. -/
theorem cut_page_taken_for_last :
    let empty : Page := ⟨[], true, some "A"⟩
    let closed : Page := ⟨["a"], true, none⟩
    let s := Store.new "" ""
    (∃ b', s.Serves (scripted [empty]) (.contains "a") (.ok false) b' ∧
      Plays (scripted [empty]) [⟨.list "a" none 1, .ok empty⟩] b') ∧
    (∃ b', s.Serves (scripted [empty]) (.purge "a") (.ok ()) b' ∧
      Plays (scripted [empty]) [⟨.list "a" none 1000, .ok empty⟩] b' ∧
      (b'.inner.objects.get? "a").isSome = true) ∧
    ∃ b', s.Serves (scripted [closed]) (.list "" 0) (.ok ["a"]) b' ∧
      Plays (scripted [closed]) [⟨.list "" none 1000, .ok closed⟩] b' := by
  intro empty closed s
  have hplays : ∀ page stem max, Plays (scripted [page]) [⟨.list stem none max, .ok page⟩]
      ⟨(scripted [page]).inner, {}⟩ := fun _ _ _ => ⟨rfl, rfl⟩
  have hkey : s.physicalKey "a" = "a" := by decide
  refine ⟨⟨_, ?found, hplays empty "a" 1⟩, ⟨_, ?deleted, hplays empty "a" 1000, by decide⟩,
    ⟨_, ?listed, hplays closed "" 1000⟩⟩
  case found => exact serves_contains_iff.mpr ⟨empty, by rw [hkey]; exact hplays empty "a" 1, rfl⟩
  case deleted =>
    refine serves_purge_iff.mpr ⟨[], empty, ?_, List.forall_mem_nil _, rfl⟩
    rw [hkey]
    exact hplays empty "a" 1000
  case listed =>
    exact serves_list_iff.mpr
      ⟨[], closed, hplays closed "" 1000, List.forall_mem_nil _, by decide, rfl⟩

end Store

end BlobStore
