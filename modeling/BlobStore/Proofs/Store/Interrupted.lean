import Mathlib
import BlobStore.Bucket.Script
import BlobStore.Proofs.Shared
import BlobStore.Proofs.Store.Failures
import BlobStore.Proofs.Store.Prefix
import BlobStore.Proofs.Text.Bytes

/-!
# Deleting by prefix that is interrupted

Any of the calls that delete by prefix may fail. The keys deleted by then are the first ones of those
to be deleted, whichever call it was, since every page is read from the start: what is left over of
the page at hand always comes first among the keys that are left over (`Outcome`).

Others may put and delete objects meanwhile. Then a page has whatever there is at the time, but only
keys with the stem, and the page without keys that ends it says that there was none.
-/

namespace BlobStore

/-! ## Faults of a bucket -/

namespace Script

/-- The cues for listing and deleting make calls fail, and do not reply in place of the bucket. -/
structure OnlyFails (s : Script) : Prop where
  list : ∀ page, some (.ok page) ∉ s.list
  delete : ∀ u, some (.ok u) ∉ s.delete

theorem mem_of_cue {α : Type} {queue : List (Cue α)} {reply : Except StoreError α}
    (h : cue queue = some reply) : some reply ∈ queue := by
  cases queue with
  | nil => cases h
  | cons first queue => exact List.mem_cons.mpr (.inl h.symm)

theorem OnlyFails.next {s : Script} (h : s.OnlyFails) (c : Call) : (s.next c).2.OnlyFails := by
  cases c with
  | list => exact ⟨fun page hpage => h.list page (List.mem_of_mem_tail hpage), h.delete⟩
  | delete => exact ⟨h.list, fun u hu => h.delete u (List.mem_of_mem_tail hu)⟩
  | presign use => cases use <;> exact ⟨h.list, h.delete⟩
  | get | put | create | part | complete | abort | check => exact ⟨h.list, h.delete⟩

end Script

namespace Scripted

variable {b : Scripted Bucket}

theorem answer_of_cue {c : Call} {reply : c.Reply} (h : (b.script.next c).1 = some reply) :
    Backend.answer c b = (reply, ⟨b.inner, (b.script.next c).2⟩) := by
  simp only [Backend.answer]
  generalize b.script.next c = n at h
  obtain ⟨cue, script⟩ := n
  obtain rfl : cue = some reply := h
  rfl

theorem answer_of_pass {c : Call} (h : (b.script.next c).1 = none) :
    Backend.answer c b =
      ((Backend.answer c b.inner).1, ⟨(Backend.answer c b.inner).2, (b.script.next c).2⟩) := by
  simp only [Backend.answer]
  generalize b.script.next c = n at h
  obtain ⟨cue, script⟩ := n
  obtain rfl : cue = none := h
  rfl

theorem onlyFails_answer (h : b.script.OnlyFails) (c : Call) :
    (Backend.answer c b).2.script.OnlyFails := by
  cases hcue : (b.script.next c).1 with
  | some reply => rw [answer_of_cue hcue]; exact h.next c
  | none => rw [answer_of_pass hcue]; exact h.next c

/-- No call to list or to delete fails. -/
def Faultless (b : Scripted Bucket) : Prop :=
  b.script.list = [] ∧ b.script.delete = [] ∧ b.inner.failingPage = none

theorem Faultless.next_list (h : b.Faultless) (stem : String) (token : Option String) (max : Nat) :
    (b.script.next (.list stem token max)).1 = none := congrArg Script.cue h.1

theorem Faultless.next_delete (h : b.Faultless) (key : String) :
    (b.script.next (.delete key)).1 = none := congrArg Script.cue h.2.1

theorem Faultless.answer_list (h : b.Faultless) (stem : String) (token : Option String) (max : Nat) :
    (Backend.answer (.list stem token max) b).2.Faultless ∧
      ∃ page, (Backend.answer (.list stem token max) b).1 = .ok page := by
  rw [answer_of_pass (h.next_list stem token max), Bucket.answer_list h.2.2]
  exact ⟨⟨congrArg List.tail h.1, h.2.1, h.2.2⟩, _, rfl⟩

theorem Faultless.answer_delete (h : b.Faultless) (key : String) :
    (Backend.answer (.delete key) b).2.Faultless ∧ (Backend.answer (.delete key) b).1 = .ok () := by
  rw [answer_of_pass (h.next_delete key)]
  exact ⟨⟨h.1, congrArg List.tail h.2.1, h.2.2⟩, rfl⟩

theorem answer_list (h : b.script.OnlyFails) (stem : String) (token : Option String) (max : Nat) :
    (Backend.answer (.list stem token max) b).2.inner.objects = b.inner.objects ∧
      ((∃ e, (Backend.answer (.list stem token max) b).1 = .error e) ∨
        (Backend.answer (.list stem token max) b).1 = .ok (b.inner.page stem token max)) := by
  cases hcue : (b.script.next (.list stem token max)).1 with
  | some reply =>
    rw [answer_of_cue hcue]
    refine ⟨rfl, .inl ?_⟩
    cases reply with
    | error e => exact ⟨e, rfl⟩
    | ok page => exact absurd (Script.mem_of_cue hcue) (h.list page)
  | none =>
    rw [answer_of_pass hcue, b.inner.snd_answer_list]
    exact ⟨rfl, b.inner.fst_answer_list_cases stem token max⟩

theorem answer_delete (h : b.script.OnlyFails) (key : String) :
    (∃ e, (Backend.answer (.delete key) b).1 = .error e ∧
      (Backend.answer (.delete key) b).2.inner.objects = b.inner.objects) ∨
    ((Backend.answer (.delete key) b).1 = .ok () ∧
      (Backend.answer (.delete key) b).2.inner.objects = b.inner.objects.erase key) := by
  cases hcue : (b.script.next (.delete key)).1 with
  | some reply =>
    rw [answer_of_cue hcue]
    cases reply with
    | error e => exact .inl ⟨e, rfl, rfl⟩
    | ok u => exact absurd (Script.mem_of_cue hcue) (h.delete u)
  | none =>
    rw [answer_of_pass hcue]
    exact .inr ⟨rfl, rfl⟩

end Scripted

/-! ## What a run deletes -/

namespace Call

def lists : Call → Bool
  | list .. => true
  | _ => false

def deletes : Call → Bool
  | delete .. => true
  | _ => false

end Call

/-- The key that is deleted. -/
def Exchange.deleted? : Exchange → Option String
  | ⟨.delete key, .ok _⟩ => some key
  | _ => none

namespace Store

open Backend (Plays)
open Client (Finishes result?)

/-- The keys that are deleted, in turn. -/
def deleted (es : List Exchange) : List String := es.filterMap Exchange.deleted?

theorem deleted_error (c : Call) (e : StoreError) : deleted [⟨c, .error e⟩] = [] := by
  cases c <;> rfl

/-- Nothing failed, or the last call did, and its error is the result. -/
def EndsAtError (es : List Exchange) (a : Except StoreError Unit) : Prop :=
  (a = .ok () ∧ ∀ e ∈ es, e.2.isOk = true) ∨
    ∃ init c e, es = init ++ [⟨c, .error e⟩] ∧ (∀ e' ∈ init, e'.2.isOk = true) ∧ a = .error e

theorem EndsAtError.cons {c : Call} {answer : c.Answer} {es : List Exchange}
    {a : Except StoreError Unit} (h : EndsAtError es a) : EndsAtError (⟨c, .ok answer⟩ :: es) a := by
  rcases h with ⟨ha, hes⟩ | ⟨init, c', e, rfl, hinit, ha⟩
  · exact .inl ⟨ha, List.forall_mem_cons.mpr ⟨rfl, hes⟩⟩
  · exact .inr ⟨⟨c, .ok answer⟩ :: init, c', e, rfl, List.forall_mem_cons.mpr ⟨rfl, hinit⟩, ha⟩

namespace Purge

variable {p : Purge} {es : List Exchange} {a : Except StoreError Unit}

theorem finishes_of_ended (hp : p.ended = some a) {a' : Except StoreError Unit}
    (hrun : Finishes p es a') : es = [] ∧ a' = a := by
  obtain ⟨stem, rest, ended⟩ := p
  obtain rfl : ended = some a := hp
  exact (Client.finishes_of_done rfl _ _).mp hrun

/-- **The first error is the result**, and no call comes after it. -/
theorem endsAtError (hrun : Finishes p es a) (hp : ∀ e, p.ended ≠ some (.error e)) :
    EndsAtError es a := by
  induction hrun with
  | @done p a hstep =>
    refine .inl ⟨?_, List.forall_mem_nil _⟩
    cases a with
    | ok => rfl
    | error e => exact absurd (ended_of_done hstep) (hp e)
  | @ask p c next es a hstep reply rest ih =>
    obtain ⟨stem, keys, ended⟩ := p
    cases ended with
    | some result => cases hstep
    | none =>
      cases keys with
      | nil =>
        cases hstep
        cases reply with
        | error e =>
          obtain ⟨rfl, rfl⟩ := finishes_of_ended rfl rest
          exact .inr ⟨[], _, e, rfl, List.forall_mem_nil _, rfl⟩
        | ok page =>
          refine (ih fun e => ?_).cons
          dsimp only
          split <;> nofun
      | cons key keys =>
        cases hstep
        cases reply with
        | error e =>
          obtain ⟨rfl, rfl⟩ := finishes_of_ended rfl rest
          exact .inr ⟨[], _, e, rfl, List.forall_mem_nil _, rfl⟩
        | ok u => exact (ih nofun).cons

/-- What comes of deleting from a bucket on, if nothing fails with so many calls to list. -/
structure Outcome (stem : String) (pages : Nat) (b : Scripted Bucket) (es : List Exchange)
    (a : Except StoreError Unit) (b' : Scripted Bucket) : Prop where
  plays : Plays b es b'
  deleted_prefix : deleted es <+: b.inner.under stem
  objects : b'.inner.objects = (deleted es).foldl SortedMap.erase b.inner.objects
  complete : a = .ok () → deleted es = b.inner.under stem ∧ es.countP (·.1.lists) = pages ∧
    es.countP (·.1.deletes) = (b.inner.under stem).length
  faultless : b.Faultless → a = .ok ()

variable {stem : String} {pages : Nat} {b b' : Scripted Bucket}

theorem keys_page (b : Bucket) (stem : String) :
    (b.page stem none pageSize).keys = (b.under stem).take pageSize := by
  rw [Bucket.page_eq b stem none (by decide), Bucket.matching_none]

theorem under_congr {b b' : Bucket} (hobjects : b'.objects = b.objects) (stem : String) :
    b'.under stem = b.under stem := by
  rw [Bucket.under, hobjects, Bucket.under]

theorem under_erase_of_cons {b b' : Bucket} {key : String} {rest : List String}
    (hunder : b.under stem = key :: rest) (hobjects : b'.objects = b.objects.erase key) :
    b'.under stem = rest := by
  have hfirst := b.pairwise_under stem
  rw [hunder] at hfirst
  have hne : ∀ k ∈ rest, k ≠ key := fun k hk => ((List.pairwise_cons.mp hfirst).1 k hk).ne'
  have hfilter : b'.under stem = (b.under stem).filter fun k => k ≠ key := by
    rw [Bucket.under, Bucket.under, hobjects, SortedMap.keys_erase, List.filter_filter,
      List.filter_filter]
    exact List.filter_congr fun k _ => Bool.and_comm ..
  rw [hfilter, hunder, List.filter_cons_of_neg (by simp), List.filter_eq_self]
  intro k hk
  simpa using hne k hk

theorem Outcome.delete {key : String} {rest : List String} (hunder : b.inner.under stem = key :: rest)
    (hreply : (Backend.answer (.delete key) b).1 = .ok ())
    (hobjects : (Backend.answer (.delete key) b).2.inner.objects = b.inner.objects.erase key)
    (h : Outcome stem pages (Backend.answer (.delete key) b).2 es a b') :
    Outcome stem pages b (⟨.delete key, .ok ()⟩ :: es) a b' := by
  have hrest := under_erase_of_cons hunder hobjects
  refine ⟨⟨hreply, h.plays⟩, ?_, ?_, fun ha => ?_, fun hb => h.faultless (hb.answer_delete key).1⟩
  · rw [hunder]
    exact (List.prefix_cons_inj key).mpr (hrest ▸ h.deleted_prefix)
  · rw [h.objects, hobjects]
    rfl
  · obtain ⟨hdeleted, hlists, hdeletes⟩ := h.complete ha
    rw [hrest] at hdeleted hdeletes
    rw [hunder, List.length_cons, ← hdeletes]
    exact ⟨congrArg _ hdeleted, (List.countP_cons_of_neg Bool.false_ne_true).trans hlists,
      List.countP_cons_of_pos rfl⟩

theorem Outcome.list {page : Page}
    (hreply : (Backend.answer (.list stem none pageSize) b).1 = .ok page)
    (hobjects : (Backend.answer (.list stem none pageSize) b).2.inner.objects = b.inner.objects)
    (h : Outcome stem pages (Backend.answer (.list stem none pageSize) b).2 es a b') :
    Outcome stem (pages + 1) b (⟨.list stem none pageSize, .ok page⟩ :: es) a b' := by
  have hunder := under_congr hobjects stem
  refine ⟨⟨hreply, h.plays⟩, hunder ▸ h.deleted_prefix, hobjects ▸ h.objects, fun ha => ?_,
    fun hb => h.faultless (hb.answer_list stem none pageSize).1⟩
  obtain ⟨hdeleted, hlists, hdeletes⟩ := h.complete ha
  rw [List.countP_cons_of_pos rfl, hlists, List.countP_cons_of_neg Bool.false_ne_true, hdeletes, hunder]
  exact ⟨hdeleted.trans hunder, rfl, rfl⟩

theorem Outcome.failed {c : Call} {e : StoreError} (hreply : (Backend.answer c b).1 = .error e)
    (hobjects : (Backend.answer c b).2.inner.objects = b.inner.objects)
    (hfaulty : ¬ b.Faultless) :
    Outcome stem pages b [⟨c, .error e⟩] (.error e) (Backend.answer c b).2 where
  plays := ⟨hreply, rfl⟩
  deleted_prefix := deleted_error c e ▸ List.nil_prefix
  objects := deleted_error c e ▸ hobjects
  complete := nofun
  faultless h := absurd h hfaulty

theorem finishes_page {page : Page} (hrun : Finishes (turn ⟨stem, [], none⟩ page) es a) :
    Finishes (⟨stem, [], none⟩ : Purge) (⟨.list stem none pageSize, .ok page⟩ :: es) a :=
  (Client.finishes_of_ask rfl _ _).mpr ⟨.ok page, es, rfl, hrun⟩

/-- The call that reads a page; `hnext` is what comes of the page if it has keys. -/
theorem exists_outcome_list (hscript : b.script.OnlyFails)
    (hnext : b.inner.under stem ≠ [] →
      ∃ es a b', Finishes (⟨stem, (b.inner.under stem).take pageSize, none⟩ : Purge) es a ∧
        Outcome stem pages (Backend.answer (.list stem none pageSize) b).2 es a b') :
    ∃ es a b', Finishes (⟨stem, [], none⟩ : Purge) es a ∧
      Outcome stem (if b.inner.under stem = [] then 1 else pages + 1) b es a b' := by
  obtain ⟨hobjects, ⟨e, hreply⟩ | hreply⟩ := Scripted.answer_list hscript stem none pageSize
  · refine ⟨_, .error e, _, .ask rfl (.error e) (.done rfl),
      Outcome.failed hreply hobjects fun hb => ?_⟩
    obtain ⟨-, page, hpage⟩ := hb.answer_list stem none pageSize
    cases hreply.symm.trans hpage
  by_cases hnil : b.inner.under stem = []
  · rw [if_pos hnil]
    refine ⟨[⟨.list stem none pageSize, .ok (b.inner.page stem none pageSize)⟩], .ok (), _,
      finishes_page ?_,
      Outcome.list hreply hobjects ⟨rfl, List.nil_prefix, rfl, fun _ => ?_, fun _ => rfl⟩⟩
    · rw [turn, if_pos (by rw [keys_page, hnil, List.take_nil])]
      exact .done rfl
    · rw [under_congr hobjects, hnil]
      exact ⟨rfl, rfl, rfl⟩
  · rw [if_neg hnil]
    obtain ⟨es, a, b', hrun, houtcome⟩ := hnext hnil
    refine ⟨_, a, b', finishes_page ?_, Outcome.list hreply hobjects houtcome⟩
    have hkeys : (b.inner.page stem none pageSize).keys ≠ [] := by
      rw [keys_page, ne_eq, List.take_eq_nil_iff]
      exact fun h => h.elim (by decide) hnil
    rw [turn, if_neg hkeys, keys_page]
    exact hrun

/-- The call that deletes a key; `hnext` is what comes of the other keys at hand. -/
theorem exists_outcome_delete {key : String} {rest tail : List String}
    (hscript : b.script.OnlyFails) (hunder : b.inner.under stem = key :: tail)
    (hnext : (Backend.answer (.delete key) b).2.inner.under stem = tail →
      ∃ es a b', Finishes (⟨stem, rest, none⟩ : Purge) es a ∧
        Outcome stem pages (Backend.answer (.delete key) b).2 es a b') :
    ∃ es a b', Finishes (⟨stem, key :: rest, none⟩ : Purge) es a ∧
      Outcome stem pages b es a b' := by
  rcases Scripted.answer_delete hscript key with ⟨e, hreply, hobjects⟩ | ⟨hreply, hobjects⟩
  · refine ⟨_, .error e, _, .ask rfl (.error e) (.done rfl),
      Outcome.failed hreply hobjects fun hb => ?_⟩
    cases hreply.symm.trans (hb.answer_delete key).2
  · obtain ⟨es, a, b', hrun, houtcome⟩ := hnext (under_erase_of_cons hunder hobjects)
    exact ⟨_, a, b', .ask rfl (.ok ()) hrun, Outcome.delete hunder hreply hobjects houtcome⟩

/-- How many pages are still to be read if `n` keys are left over, of which `m` were listed. -/
def pagesLeft (n m : Nat) : Nat := (n - m + 999) / 1000 + 1

theorem pagesLeft_take (keys : List String) : pagesLeft keys.length 0 =
    if keys = [] then 1 else pagesLeft keys.length (keys.take pageSize).length + 1 := by
  split
  · next h => rw [h]; rfl
  · next h =>
    have hpos := List.length_pos_iff.mpr h
    rw [pagesLeft, pagesLeft, List.length_take, pageSize]
    omega

/-- **Deleting by prefix always ends.** The keys at hand come first among those that are left over,
so the keys that are deleted do. -/
theorem exists_outcome (rest : List String) (hscript : b.script.OnlyFails)
    (hrest : rest <+: b.inner.under stem) : ∃ es a b', Finishes (⟨stem, rest, none⟩ : Purge) es a ∧
      Outcome stem (pagesLeft (b.inner.under stem).length rest.length) b es a b' := by
  -- a page with keys leaves as many keys over, but then there are keys at hand
  induction hn : 2 * (b.inner.under stem).length + (if rest = [] then 1 else 0)
    using Nat.strong_induction_on generalizing b rest with
  | _ n ih =>
    cases rest with
    | nil =>
      rw [List.length_nil, pagesLeft_take]
      refine exists_outcome_list hscript fun hnil => ?_
      have hobjects := (Scripted.answer_list hscript stem none pageSize).1
      have hne : (b.inner.under stem).take pageSize ≠ [] := by
        rw [ne_eq, List.take_eq_nil_iff]
        exact fun h => h.elim (by decide) hnil
      have hmore := ih _ ?_ ((b.inner.under stem).take pageSize)
        (Scripted.onlyFails_answer hscript (.list stem none pageSize))
        (under_congr hobjects stem ▸ List.take_prefix pageSize _) rfl
      · rwa [under_congr hobjects] at hmore
      · rw [under_congr hobjects, if_neg hne, ← hn, if_pos rfl]
        omega
    | cons key rest =>
      obtain ⟨tail, htail⟩ := hrest
      refine exists_outcome_delete hscript htail.symm fun hless => ?_
      have hmore := ih _ ?_ rest (Scripted.onlyFails_answer hscript (.delete key))
        (hless ▸ List.prefix_append rest tail) rfl
      · rw [hless] at hmore
        rw [← htail, List.cons_append, List.length_cons, List.length_cons, pagesLeft,
          Nat.add_sub_add_right]
        exact hmore
      · rw [hless, ← hn, ← htail, List.cons_append, List.length_cons]
        split <;> simp
        omega

/-! ## Deleting while others are at work -/

/-- **What its next call does to the client**: none if it has ended; else the call fails, or there is no
key with the stem, or the keys of a page come to be at hand, or the first one at hand is deleted. -/
inductive Advanced (b : Bucket) : Purge → Purge → Prop
  | ended {p : Purge} (hended : p.ended ≠ none) : Advanced b p p
  | failed {p : Purge} (hended : p.ended = none) (e : StoreError) :
    Advanced b p { p with ended := some (.error e) }
  | done {stem : String} (hunder : b.under stem = []) :
    Advanced b ⟨stem, [], none⟩ ⟨stem, [], some (.ok ())⟩
  | listed {stem : String} (hunder : b.under stem ≠ []) :
    Advanced b ⟨stem, [], none⟩ ⟨stem, (b.under stem).take pageSize, none⟩
  | deleted (stem key : String) (rest : List String) :
    Advanced b ⟨stem, key :: rest, none⟩ ⟨stem, rest, none⟩

theorem advanced_advance (p : Purge) (hscript : b.script.OnlyFails) :
    Advanced b.inner p (Client.advance p b).1 := by
  obtain ⟨stem, rest, ended⟩ := p
  cases ended with
  | some result =>
    rw [Client.advance_of_done rfl]
    exact .ended (by rintro ⟨⟩)
  | none =>
    cases rest with
    | nil =>
      rw [Client.advance_of_ask rfl]
      obtain ⟨-, ⟨e, hreply⟩ | hreply⟩ := Scripted.answer_list hscript stem none pageSize
      · rw [hreply]
        exact .failed rfl e
      · rw [hreply]
        show Advanced b.inner _ (turn ⟨stem, [], none⟩ (b.inner.page stem none pageSize))
        rw [turn, keys_page]
        split
        · next hkeys => exact .done ((List.take_eq_nil_iff.mp hkeys).resolve_left (by decide))
        · next hkeys => exact .listed fun hunder => hkeys (by rw [hunder, List.take_nil])
    | cons key rest =>
      rw [Client.advance_of_ask rfl]
      cases (Backend.answer (.delete key) b).1 with
      | error e => exact .failed rfl e
      | ok u => exact .deleted stem key rest

/-- What holds of the client at every moment. -/
structure Sound (stem : String) (p : Purge) : Prop where
  stem_eq : p.stem = stem
  rest : ∀ k ∈ p.rest, Bucket.startsWith stem k = true

theorem Sound.startsWith_of_delete (h : Sound stem p) {k : String}
    {next : Call.Reply (.delete k) → Purge} (hstep : Client.step p = .ask (.delete k) next) :
    Bucket.startsWith stem k = true := by
  obtain ⟨stem', rest, ended⟩ := p
  cases ended with
  | some result => cases hstep
  | none =>
    cases rest with
    | nil => cases hstep
    | cons key rest =>
      cases hstep
      exact h.rest k List.mem_cons_self

theorem Sound.advanced {b : Bucket} {p' : Purge} (h : Sound stem p) (hnext : Advanced b p p') :
    Sound stem p' := by
  obtain ⟨hstem, hrest⟩ := h
  cases hnext with
  | ended | failed | done => exact ⟨hstem, hrest⟩
  | @listed stem' =>
    obtain rfl : stem' = stem := hstem
    exact ⟨rfl, fun k hk => (Bucket.mem_under.mp (List.mem_of_mem_take hk)).2⟩
  | deleted => exact ⟨hstem, (List.forall_mem_cons.mp hrest).2⟩

theorem Advanced.eq_of_done {b : Bucket} {p' : Purge} (h : Advanced b p p')
    (hnot : p.ended ≠ some (.ok ())) (hok : p'.ended = some (.ok ())) :
    p = ⟨p.stem, [], none⟩ ∧ b.under p.stem = [] := by
  cases h with
  | ended => exact absurd hok hnot
  | done hunder => exact ⟨rfl, hunder⟩
  | failed | listed | deleted => cases hok

variable {w : Shared Unit Purge (Scripted Bucket)}

theorem onlyFails_run (hscript : w.backend.script.OnlyFails) (moves : List (Move Unit)) :
    (w.run moves).backend.script.OnlyFails :=
  Shared.run_keeps (P := fun b : Scripted Bucket => b.script.OnlyFails)
    (fun c _ h => Scripted.onlyFails_answer h c) hscript moves

theorem Sound.run (h : Sound stem (w.clients ())) (hscript : w.backend.script.OnlyFails)
    (moves : List (Move Unit)) : Sound stem ((w.run moves).clients ()) := by
  induction moves using List.reverseRecOn with
  | nil => exact h
  | append_singleton moves m ih =>
    rw [Shared.run_concat]
    cases m with
    | turn i =>
      rw [Shared.clients_turn_self]
      exact ih.advanced (advanced_advance _ (onlyFails_run hscript moves))
    | other c => exact ih

theorem exists_last_page (h : Sound stem (w.clients ())) (hscript : w.backend.script.OnlyFails)
    (hstart : (w.clients ()).ended = none) {moves : List (Move Unit)}
    (hok : ((w.run moves).clients ()).ended = some (.ok ())) :
    ∃ past later, moves = past ++ .turn () :: later ∧
      (w.run past).clients () = ⟨stem, [], none⟩ ∧ (w.run past).backend.inner.under stem = [] ∧
      ((w.run (past ++ [.turn ()])).clients ()).ended = some (.ok ()) := by
  induction moves using List.reverseRecOn with
  | nil => cases hstart.symm.trans hok
  | append_singleton moves m ih =>
    by_cases hdone : ((w.run moves).clients ()).ended = some (.ok ())
    · obtain ⟨past, later, rfl, hlast⟩ := ih hdone
      exact ⟨past, later ++ [m], by simp, hlast⟩
    have hmove := hok
    rw [Shared.run_concat] at hmove
    cases m with
    | other c => exact absurd hmove hdone
    | turn i =>
      rw [Shared.clients_turn_self] at hmove
      obtain ⟨hlast, hunder⟩ :=
        (advanced_advance _ (onlyFails_run hscript moves)).eq_of_done hdone hmove
      rw [(h.run hscript moves).stem_eq] at hlast hunder
      exact ⟨moves, [], rfl, hlast, hunder, hok⟩

end Purge

/-! ## The guarantees -/

/-- What comes of deleting by prefix, whichever calls fail. -/
structure Interrupted (stem : String) (b : Scripted Bucket) (es : List Exchange)
    (a : Except StoreError Unit) (b' : Scripted Bucket) : Prop where
  ends : EndsAtError es a
  /-- Of the keys with the stem the first ones are deleted, in the order of their bytes. -/
  first : deleted es <+: b.inner.under stem
  ascending : (b.inner.under stem).Pairwise fun x y => Text.bytes x < Text.bytes y
  objects : ∀ k, b'.inner.objects.get? k =
    if k ∈ deleted es then none else b.inner.objects.get? k
  complete : a = .ok () → deleted es = b.inner.under stem ∧
    es.countP (·.1.lists) = ((b.inner.under stem).length + 999) / 1000 + 1 ∧
    es.countP (·.1.deletes) = (b.inner.under stem).length
  faultless : b.Faultless → a = .ok ()

/-- What holds after any moves of a client that deletes by prefix and of others. -/
structure Watched (stem : String) (w : Shared Unit Purge (Scripted Bucket))
    (moves : List (Move Unit)) : Prop where
  deletes : ∀ k next, Client.step ((w.run moves).clients ()) = .ask (.delete k) next →
    Bucket.startsWith stem k = true
  /-- If the client is done well, there was no key with the stem at its last call to list. -/
  done : result? ((w.run moves).clients ()) = some (.ok ()) →
    ∃ past later, moves = past ++ .turn () :: later ∧
      (∃ next, Client.step ((w.run past).clients ()) = .ask (.list stem none pageSize) next) ∧
      result? ((w.run (past ++ [.turn ()])).clients ()) = some (.ok ()) ∧
      ∀ k, Bucket.startsWith stem k = true → (w.run past).backend.inner.objects.get? k = none

theorem Purge.result?_eq_some {p : Purge} {a : Except StoreError Unit} :
    result? p = some a ↔ p.ended = some a := by
  refine ⟨fun h => Purge.ended_of_done (Client.result?_eq_some.mp h), fun h => ?_⟩
  obtain ⟨stem, rest, ended⟩ := p
  obtain rfl : ended = some a := h
  rfl

/-- **Deleting by prefix under faults and interference.** It always ends, and with the first error,
when it has deleted the first of the keys with the stem and changed nothing else; without an error it
has read one page without keys behind those that its keys fill. Whatever others do meanwhile, it
deletes only keys with the stem, and if it is done well there was none at its last call to list. -/
theorem purge_interrupted (s : Store) (key : String) {b : Scripted Bucket}
    (hscript : b.script.OnlyFails) :
    (∃ es a b', Finishes (s.purge key) es a ∧ Plays b es b' ∧
      Interrupted (s.physicalKey key) b es a b') ∧
    ∀ moves, Watched (s.physicalKey key) ⟨fun _ => s.purge key, b⟩ moves := by
  have hsound : Purge.Sound (s.physicalKey key) (s.purge key) := ⟨rfl, List.forall_mem_nil _⟩
  refine ⟨?_, fun moves => ⟨fun k next hstep => ?_, fun hok => ?_⟩⟩
  · obtain ⟨es, a, b', hrun, h⟩ := Purge.exists_outcome [] hscript (List.nil_prefix)
    refine ⟨es, a, b', hrun, h.plays, Purge.endsAtError hrun nofun, h.deleted_prefix,
      (b.inner.pairwise_under _).imp Text.bytes_lt, fun k => ?_, h.complete, h.faultless⟩
    rw [h.objects, SortedMap.get?_foldl_erase]
  · exact (hsound.run (w := ⟨fun _ => s.purge key, b⟩) hscript moves).startsWith_of_delete hstep
  · obtain ⟨past, later, rfl, hlast, hunder, hended⟩ := Purge.exists_last_page
      (w := ⟨fun _ => s.purge key, b⟩) hsound hscript rfl (Purge.result?_eq_some.mp hok)
    refine ⟨past, later, rfl, ⟨_, by rw [hlast]; rfl⟩, Purge.result?_eq_some.mpr hended, fun k hk => ?_⟩
    rw [Option.eq_none_iff_forall_ne_some]
    intro object hobject
    have hmem := Bucket.mem_under.mpr ⟨⟨object, hobject⟩, hk⟩
    rw [hunder] at hmem
    cases hmem

/-- The second key cannot be deleted; meanwhile another one with the stem is put. -/
theorem purge_interrupted_second_delete :
    let b : Scripted Bucket :=
      ⟨["ci/a", "ci/b", "ci/c", "x"].foldl (fun b k => b.store k ⟨⟨#[1]⟩, none⟩) (Bucket.new "logs"),
        { delete := [none, some (.error (.transport Title.delete "connection reset by peer"))] }⟩
    let s := Store.new "ci" ""
    b.script.OnlyFails ∧ b.inner.under "ci" = ["ci/a", "ci/b", "ci/c"] ∧
      (∃ es a b', Finishes (s.purge "") es a ∧ Plays b es b' ∧ Interrupted "ci" b es a b') ∧
      Watched "ci" ⟨fun _ => s.purge "", b⟩ [.turn (), .other (.put "ci/d" .empty none), .turn ()] := by
  intro b s
  have hscript : b.script.OnlyFails := ⟨nofun, fun u hu => by simp [b] at hu⟩
  have hkey : s.physicalKey "" = "ci" := by decide
  obtain ⟨hrun, hwatched⟩ := purge_interrupted s "" hscript
  rw [hkey] at hrun hwatched
  exact ⟨hscript, by decide, hrun, hwatched _⟩

end Store

end BlobStore
