import Mathlib
import BlobStore.Drivers
import BlobStore.Proofs.Registry.Basic
import BlobStore.Proofs.Store.Purge

/-!
# Instances are independent

Commands to a registry, and operations on the stores that it opened, in any order: on whichever
store is under an id by then, or on one whose handle was kept. Every operation reaches at most one
instance, and what it does depends on this instance alone (`Registry.Does`). So a store in memory
responds as if it were alone with its own operations, and all others respond as if it had none
(`instances_independent`).
-/

namespace BlobStore

open Backend (Plays)

/-! ## A bucket in memory, among others -/

theorem plays_memory {b : Bucket} {es : List Exchange} {b' : AnyBucket} :
    Plays (AnyBucket.memory b) es b' ↔ ∃ b₁, b' = .memory b₁ ∧ Plays b es b₁ := by
  induction es generalizing b with
  | nil => exact ⟨fun h => ⟨b, h.symm, rfl⟩, fun ⟨_, h, hb⟩ => h ▸ congrArg AnyBucket.memory hb⟩
  | cons e es ih =>
    constructor
    · rintro ⟨hreply, hplays⟩
      obtain ⟨b₁, hb₁, hplays⟩ := ih.mp hplays
      exact ⟨b₁, hb₁, hreply, hplays⟩
    · rintro ⟨b₁, hb₁, hreply, hplays⟩
      exact ⟨hreply, ih.mpr ⟨b₁, hb₁, hplays⟩⟩

namespace Store

variable {s : Store} {b : Bucket}

theorem serves_memory {r : Operation} {a : r.Response} {b' : AnyBucket} :
    s.Serves (AnyBucket.memory b) r a b' ↔ ∃ b₁, b' = .memory b₁ ∧ s.Serves b r a b₁ := by
  simp only [serves_iff, plays_memory]
  constructor
  · rintro ⟨es, htalks, b₁, hb₁, hplays⟩
    exact ⟨b₁, hb₁, es, htalks, hplays⟩
  · rintro ⟨b₁, hb₁, es, htalks, hplays⟩
    exact ⟨es, htalks, b₁, hb₁, hplays⟩

theorem exists_serves_of_quiet {scope acl : String} (hb : b.Quiet) (r : Operation) :
    ∃ a b', (Store.new scope acl).Serves b r a b' := by
  cases r with
  | upload key source => exact ⟨_, _, Prod.mk.eta.symm⟩
  | download key => exact ⟨_, _, Prod.mk.eta.symm⟩
  | delete key => exact ⟨_, _, Prod.mk.eta.symm⟩
  | contains key => exact ⟨_, _, Prod.mk.eta.symm⟩
  | purge key =>
    obtain ⟨a, b', hserves, -⟩ := @exists_serves_purge scope acl key b hb
    exact ⟨a, b', hserves⟩
  | list stem limit =>
    obtain ⟨a, b', hserves, -⟩ := @exists_serves_list scope acl b hb stem limit
    exact ⟨a, b', hserves⟩
  | link use key span => exact ⟨_, _, Prod.mk.eta.symm⟩
  | ping => exact ⟨_, _, Prod.mk.eta.symm⟩

theorem Runs.append {es es' : List Service} {m b' : Bucket} (h : s.Runs b es m)
    (h' : s.Runs m es' b') : s.Runs b (es ++ es') b' := by
  induction es generalizing b with
  | nil => exact h ▸ h'
  | cons e es ih =>
    obtain ⟨m', hserves, hrun⟩ := h
    exact ⟨m', hserves, ih hrun⟩

theorem Runs.eq_of_map_fst {es es' : List Service} {b₁ b₂ : Bucket} (h : s.Runs b es b₁)
    (h' : s.Runs b es' b₂) (hsame : es.map Sigma.fst = es'.map Sigma.fst) : es = es' := by
  induction es generalizing b es' with
  | nil => exact (List.map_eq_nil_iff.mp hsame.symm).symm
  | cons e es ih =>
    cases es' with
    | nil => cases hsame
    | cons e' es' =>
      obtain ⟨r, a⟩ := e
      obtain ⟨r', a'⟩ := e'
      obtain ⟨hr, htail⟩ := List.cons.inj hsame
      obtain rfl : r = r' := hr
      obtain ⟨m, hserves, hrun⟩ := h
      obtain ⟨m', hserves', hrun'⟩ := h'
      obtain ⟨rfl, rfl⟩ := hserves.unique hserves'
      rw [ih hrun hrun' htail]

end Store

/-- The instance that a command has brought into being. -/
def Command.opened? {ι : Type} : Command ι → Except RegistryError (Option Handle) → Option Handle
  | create .., .ok h => h
  | _, _ => none

/-! ## Commands and operations -/

/-- Which store an operation is for. -/
inductive Target where
  /-- The one under an id, whichever it is by then. -/
  | under (id : String)
  /-- The one whose handle was kept. -/
  | kept (h : Handle)

/-- What was asked, and what came of it: what the registry gave back, or which store responded and
how, if there was one. -/
inductive Deed where
  | command (c : Command OpenStore) (result : Except RegistryError (Option Handle))
  | operation (target : Target) (r : Operation) (served : Option (Handle × r.Response))

namespace Deed

/-- The instance that an operation has reached. -/
def reached? : Deed → Option Handle
  | operation _ _ served => served.map Prod.fst
  | command .. => none

/-- The instance that has come to be. -/
def opened? : Deed → Option Handle
  | command c result => c.opened? result
  | operation .. => none

/-- What an instance has been asked, and how it responded. -/
def service? (A : Handle) : Deed → Option Service
  | operation _ r (some (h, a)) => if h = A then some ⟨r, a⟩ else none
  | _ => none

theorem service?_of_ne {A : Handle} {d : Deed} (h : d.reached? ≠ some A) : d.service? A = none := by
  cases d with
  | command c result => rfl
  | operation target r served =>
    cases served with
    | none => rfl
    | some x => exact if_neg fun hA => h (congrArg some hA)

end Deed

/-- All that an instance has been asked, and how it responded. -/
def services (A : Handle) (deeds : List Deed) : List Service := deeds.filterMap (Deed.service? A)

theorem services_append (A : Handle) (deeds more : List Deed) :
    services A (deeds ++ more) = services A deeds ++ services A more :=
  List.filterMap_append

theorem services_cons (A : Handle) (d : Deed) (deeds : List Deed) :
    services A (d :: deeds) = (d.service? A).toList ++ services A deeds := by
  rw [services, List.filterMap_cons]
  cases d.service? A <;> rfl

theorem services_eq_nil {A : Handle} {deeds : List Deed} (h : ∀ d ∈ deeds, d.reached? ≠ some A) :
    services A deeds = [] :=
  List.filterMap_eq_nil_iff.mpr fun d hd => Deed.service?_of_ne (h d hd)

namespace Registry

/-- The instance that an operation reaches. -/
def reached? (r : Registry OpenStore) : Target → Option Handle
  | .under id => r.get? id
  | .kept h => if h < r.opened.length then some h else none

/-- The deed is done at the registry, which is `r'` then. -/
inductive Does (r : Registry OpenStore) : Deed → Registry OpenStore → Prop
  | command (c : Command OpenStore) : Does r (.command c (r.obey c).1) (r.obey c).2
  | missing (target : Target) (op : Operation) (hreached : r.reached? target = none) :
    Does r (.operation target op none) r
  | served (target : Target) (op : Operation) {h : Handle} {i : OpenStore} {a : op.Response}
    {b : AnyBucket} (hreached : r.reached? target = some h) (hinstance : r.instance? h = some i)
    (hserves : i.store.Serves i.bucket op a b) :
    Does r (.operation target op (some (h, a))) (r.use h fun i => (a, { i with bucket := b })).2

/-- The deeds are done in turn. -/
def Runs : Registry OpenStore → List Deed → Registry OpenStore → Prop
  | r, [], r' => r = r'
  | r, d :: deeds, r' => ∃ m, r.Does d m ∧ Runs m deeds r'

theorem runs_append {r r' : Registry OpenStore} {deeds more : List Deed} :
    Runs r (deeds ++ more) r' ↔ ∃ m, Runs r deeds m ∧ Runs m more r' := by
  induction deeds generalizing r with
  | nil => exact ⟨fun h => ⟨r, rfl, h⟩, fun ⟨_, hm, h⟩ => hm ▸ h⟩
  | cons d deeds ih =>
    constructor
    · rintro ⟨m, hd, h⟩
      obtain ⟨m', hm', h⟩ := ih.mp h
      exact ⟨m', ⟨m, hd, hm'⟩, h⟩
    · rintro ⟨m', ⟨m, hd, hm'⟩, h⟩
      exact ⟨m, hd, ih.mpr ⟨m', hm', h⟩⟩

theorem runs_singleton {r r' : Registry OpenStore} {d : Deed} : Runs r [d] r' ↔ r.Does d r' :=
  ⟨fun ⟨_, hd, h⟩ => h ▸ hd, fun h => ⟨r', h, rfl⟩⟩

/-! ## Commands do not look into instances -/

section commands

variable {ι : Type} [Pinged ι]

theorem exists_fresh (r : Registry ι) (c : Command ι) : ∃ fresh : Option ι,
    c.opened? (r.obey c).1 = (fresh.map fun _ => r.opened.length) ∧
      ∀ instances : List ι, instances.length = r.opened.length →
        obey { r with opened := instances } c =
          ((r.obey c).1, { (r.obey c).2 with opened := instances ++ fresh.toList }) := by
  cases c with
  | register name driver => exact ⟨none, rfl, fun instances _ => by simp [obey, register]⟩
  | create id driver options =>
    simp only [obey]
    cases hdriver : r.drivers.get? driver with
    | none =>
      rw [create_of_unknown hdriver]
      refine ⟨none, rfl, fun instances _ => ?_⟩
      rw [create_of_unknown (by exact hdriver)]
      simp
    | some load =>
      cases hload : load options with
      | error e =>
        rw [create_of_failed hdriver hload]
        refine ⟨none, rfl, fun instances _ => ?_⟩
        rw [create_of_failed (by exact hdriver) hload]
        simp [setError]
      | ok fresh =>
        rw [create_of_opened hdriver hload]
        refine ⟨some (Pinged.ping fresh).2, rfl, fun instances hlength => ?_⟩
        rw [create_of_opened (by exact hdriver) hload]
        simp only [Except.map, hlength, opening, Option.toList_some]
        cases (Pinged.ping fresh).1 <;> simp [judge, setError, clearError, place, enroll, hlength]
  | remove id =>
    simp only [obey]
    cases hstore : r.get? id with
    | none =>
      rw [remove_of_none hstore]
      refine ⟨none, rfl, fun instances _ => ?_⟩
      rw [remove_of_none (by exact hstore)]
      simp
    | some old =>
      rw [remove_of_some hstore]
      refine ⟨none, rfl, fun instances _ => ?_⟩
      rw [remove_of_some (by exact hstore)]
      simp [withdraw, clearError]
  | setError id text => exact ⟨none, rfl, fun instances _ => by simp [obey, setError]⟩
  | clearError id => exact ⟨none, rfl, fun instances _ => by simp [obey, clearError]⟩

theorem exists_opened_obey (r : Registry ι) (c : Command ι) : ∃ fresh : Option ι,
    c.opened? (r.obey c).1 = (fresh.map fun _ => r.opened.length) ∧
      (r.obey c).2.opened = r.opened ++ fresh.toList := by
  obtain ⟨fresh, hopened, hsame⟩ := r.exists_fresh c
  exact ⟨fresh, hopened, congrArg (fun x => x.2.opened) (hsame r.opened rfl)⟩

end commands

variable {r r' : Registry OpenStore} {d : Deed} {deeds : List Deed} {A : Handle}

theorem use_of_some {α : Type} {h : Handle} {i : OpenStore} (hi : r.instance? h = some i)
    (act : OpenStore → α × OpenStore) :
    r.use h act = (some (act i).1, { r with opened := r.opened.set h (act i).2 }) := by
  simp only [use, hi]

theorem lt_of_instance? {h : Handle} {i : OpenStore} (hi : r.instance? h = some i) :
    h < r.opened.length :=
  (List.getElem?_eq_some_iff.mp hi).1

/-! ## One deed -/

theorem Does.handles (h : r.Does d r') :
    (∀ x, d.reached? = some x → x < r.opened.length) ∧
      List.range r'.opened.length = List.range r.opened.length ++ d.opened?.toList := by
  cases h with
  | command c =>
    obtain ⟨fresh, hopened, hlist⟩ := r.exists_opened_obey c
    refine ⟨fun x hx => absurd hx.symm (Option.some_ne_none x), ?_⟩
    rw [hlist, Deed.opened?, hopened]
    cases fresh with
    | none => simp
    | some i => simp [List.range_succ]
  | missing target op hreached => exact ⟨fun x hx => absurd hx.symm (Option.some_ne_none x), (List.append_nil _).symm⟩
  | served target op hreached hinstance hserves =>
    refine ⟨fun x hx => Option.some.inj hx ▸ lt_of_instance? hinstance, ?_⟩
    rw [use_of_some hinstance]
    simp [Deed.opened?]

/-- **One deed** is to a store in memory what it asks of it, and else nothing. -/
theorem Does.own (h : r.Does d r') {s : Store} {b : Bucket}
    (hA : r.instance? A = some ⟨s, .memory b⟩) :
    ∃ b₁, r'.instance? A = some ⟨s, .memory b₁⟩ ∧ s.Runs b (d.service? A).toList b₁ := by
  cases h with
  | command c =>
    obtain ⟨fresh, -, hlist⟩ := r.exists_opened_obey c
    refine ⟨b, ?_, rfl⟩
    rw [instance?, hlist, List.getElem?_append_left (lt_of_instance? hA)]
    exact hA
  | missing target op hreached => exact ⟨b, hA, rfl⟩
  | @served target op x i a b' hreached hinstance hserves =>
    rw [use_of_some hinstance]
    by_cases hx : x = A
    · subst hx
      obtain rfl := Option.some.inj (hinstance.symm.trans hA)
      obtain ⟨b₁, rfl, hown⟩ := Store.serves_memory.mp hserves
      refine ⟨b₁, List.getElem?_set_self (lt_of_instance? hA), ?_⟩
      rw [Deed.service?, if_pos rfl]
      exact ⟨b₁, hown, rfl⟩
    · refine ⟨b, (List.getElem?_set_ne hx).trans hA, ?_⟩
      rw [Deed.service?, if_neg hx]
      rfl

/-- Two registries that show the same but for one instance. -/
structure AlikeBut (A : Handle) (r r' : Registry OpenStore) : Prop where
  tables : r' = { r with opened := r'.opened }
  length : r'.opened.length = r.opened.length
  others : ∀ B, B ≠ A → r'.instance? B = r.instance? B

theorem AlikeBut.refl (A : Handle) (r : Registry OpenStore) : AlikeBut A r r :=
  ⟨rfl, rfl, fun _ _ => rfl⟩

theorem AlikeBut.reached? (h : AlikeBut A r r') (target : Target) :
    r'.reached? target = r.reached? target := by
  cases target with
  | under id =>
    rw [h.tables]
    rfl
  | kept x => rw [Registry.reached?, Registry.reached?, h.length]

/-- **One deed** either concerns the one instance only, or is the same to both registries. -/
theorem Does.alikeBut {m : Registry OpenStore} (h : r.Does d m) (halike : AlikeBut A r r') :
    (d.reached? = some A ∧ AlikeBut A m r') ∨
      (d.reached? ≠ some A ∧ ∃ m', r'.Does d m' ∧ AlikeBut A m m') := by
  cases h with
  | command c =>
    obtain ⟨fresh, -, hsame⟩ := r.exists_fresh c
    have hobey := hsame r'.opened halike.length
    rw [← halike.tables] at hobey
    have hlist := congrArg (fun x => x.2.opened) (hsame r.opened rfl)
    dsimp only at hlist
    have hdoes := Does.command (r := r') c
    rw [hobey] at hdoes
    refine .inr ⟨(Option.some_ne_none A).symm, _, hdoes, rfl, ?_, fun B hB => ?_⟩
    · rw [hlist, List.length_append, List.length_append, halike.length]
    · have hothers := halike.others B hB
      simp only [instance?] at hothers ⊢
      rw [hlist, List.getElem?_append, List.getElem?_append, halike.length, hothers]
  | missing target op hreached =>
    have hdoes : r'.Does (.operation target op none) r' :=
      .missing target op (by rw [halike.reached?, hreached])
    exact .inr ⟨(Option.some_ne_none A).symm, r', hdoes, halike⟩
  | @served target op x i a b hreached hinstance hserves =>
    rw [use_of_some hinstance]
    by_cases hx : x = A
    · subst hx
      refine .inl ⟨rfl, halike.tables, halike.length.trans (List.length_set ..).symm,
        fun B hB => ?_⟩
      exact (halike.others B hB).trans (List.getElem?_set_ne (Ne.symm hB)).symm
    · have hinstance' := (halike.others x hx).trans hinstance
      have hdoes := Does.served target op (by rw [halike.reached?, hreached]) hinstance' hserves
      rw [use_of_some hinstance'] at hdoes
      refine .inr ⟨fun h => hx (Option.some.inj h), _, hdoes, ?_, ?_, fun B hB => ?_⟩
      · rw [halike.tables]
      · simp [halike.length]
      · have hothers := halike.others B hB
        simp only [instance?] at hothers ⊢
        rw [List.getElem?_set, List.getElem?_set, halike.length, hothers]

theorem reached?_kept (r : Registry OpenStore) (A : Handle) :
    r.reached? (.kept A) = (r.instance? A).map fun _ => A := by
  rw [reached?, instance?]
  by_cases h : A < r.opened.length
  · rw [if_pos h, List.getElem?_eq_getElem h]
    rfl
  · rw [if_neg h, List.getElem?_eq_none (Nat.le_of_not_lt h)]
    rfl

theorem Does.of_instance? {m : Registry OpenStore} {op : Operation}
    {served : Option (Handle × op.Response)} (h : r.Does (.operation (.kept A) op served) m)
    (hsame : r'.instance? A = r.instance? A) :
    ∃ m', r'.Does (.operation (.kept A) op served) m' ∧ m'.instance? A = m.instance? A := by
  cases h with
  | missing target op hreached =>
    refine ⟨r', .missing _ op ?_, hsame⟩
    rw [reached?_kept, hsame, ← reached?_kept, hreached]
  | @served target op x i a b hreached hinstance hserves =>
    have hx : x = A := by
      rw [reached?_kept, Option.map_eq_some_iff] at hreached
      obtain ⟨-, -, rfl⟩ := hreached
      rfl
    subst hx
    have hinstance' := hsame.trans hinstance
    refine ⟨_, .served _ op (by rw [reached?_kept, hinstance']; rfl) hinstance' hserves, ?_⟩
    rw [use_of_some hinstance, use_of_some hinstance']
    exact (List.getElem?_set_self (lt_of_instance? hinstance')).trans
      (List.getElem?_set_self (lt_of_instance? hinstance)).symm

/-! ## Any deeds -/

theorem Runs.handles (h : Runs r deeds r') :
    (∀ d ∈ deeds, ∀ x, d.reached? = some x → x < r'.opened.length) ∧
      List.range r'.opened.length =
        List.range r.opened.length ++ deeds.filterMap Deed.opened? := by
  induction deeds using List.reverseRecOn generalizing r' with
  | nil =>
    obtain rfl := h
    exact ⟨List.forall_mem_nil _, (List.append_nil _).symm⟩
  | append_singleton deeds d ih =>
    obtain ⟨m, hm, hd⟩ := runs_append.mp h
    rw [runs_singleton] at hd
    obtain ⟨hreached, hrange⟩ := ih hm
    obtain ⟨hreached', hrange'⟩ := hd.handles
    have hle : m.opened.length ≤ r'.opened.length := by
      have hlength := congrArg List.length hrange'
      simp only [List.length_range, List.length_append] at hlength
      omega
    refine ⟨fun d' hd' x hx => ?_, ?_⟩
    · obtain hd' | hd' := List.mem_append.mp hd'
      · exact (hreached d' hd' x hx).trans_le hle
      · obtain rfl := List.mem_singleton.mp hd'
        exact (hreached' x hx).trans_le hle
    · rw [hrange', hrange, List.append_assoc, List.filterMap_append]
      rfl

theorem Runs.own (h : Runs r deeds r') {s : Store} {b : Bucket}
    (hA : r.instance? A = some ⟨s, .memory b⟩) :
    ∃ b₁, r'.instance? A = some ⟨s, .memory b₁⟩ ∧ s.Runs b (services A deeds) b₁ := by
  induction deeds generalizing r b with
  | nil => exact ⟨b, h ▸ hA, rfl⟩
  | cons d deeds ih =>
    obtain ⟨m, hd, hm⟩ := h
    obtain ⟨b', hA', hrun⟩ := hd.own hA
    obtain ⟨b₁, hA₁, hrun₁⟩ := ih hm hA'
    rw [services_cons]
    exact ⟨b₁, hA₁, hrun.append hrun₁⟩

theorem Runs.alikeBut {m : Registry OpenStore} (h : Runs r deeds m) (halike : AlikeBut A r r') :
    ∃ m', Runs r' (deeds.filter fun d => d.reached? ≠ some A) m' ∧ AlikeBut A m m' := by
  induction deeds generalizing r r' with
  | nil => exact ⟨r', rfl, h ▸ halike⟩
  | cons d deeds ih =>
    obtain ⟨m₁, hd, hm⟩ := h
    obtain ⟨hreached, halike⟩ | ⟨hreached, m₁', hd', halike⟩ := hd.alikeBut halike
    · rw [List.filter_cons_of_neg (by simp [hreached])]
      exact ih hm halike
    · rw [List.filter_cons_of_pos (by simp [hreached])]
      obtain ⟨m', hm', halike⟩ := ih hm halike
      exact ⟨m', ⟨m₁', hd', hm'⟩, halike⟩

theorem Runs.of_instance? {m : Registry OpenStore} (h : Runs r deeds m)
    (hkept : ∀ d ∈ deeds, ∃ op served, d = .operation (.kept A) op served)
    (hsame : r'.instance? A = r.instance? A) : ∃ m', Runs r' deeds m' := by
  induction deeds generalizing r r' with
  | nil => exact ⟨r', rfl⟩
  | cons d deeds ih =>
    obtain ⟨m₁, hd, hm⟩ := h
    obtain ⟨⟨op, served, rfl⟩, hrest⟩ := List.forall_mem_cons.mp hkept
    obtain ⟨m₁', hd', hsame'⟩ := hd.of_instance? hsame
    obtain ⟨m', hm'⟩ := ih hm hrest hsame'
    exact ⟨m', m₁', hd', hm'⟩

/-! ## Stores in memory -/

theorem does_command_iff {c : Command OpenStore} {result : Except RegistryError (Option Handle)} :
    r.Does (.command c result) r' ↔ r.obey c = (result, r') :=
  ⟨fun h => by cases h; rfl, fun h => by
    have hdoes := Does.command (r := r) c
    rwa [h] at hdoes⟩

theorem Does.unique {m m' : Registry OpenStore} (h : r.Does d m) (h' : r.Does d m') : m = m' := by
  cases h with
  | command c => exact congrArg Prod.snd (does_command_iff.mp h')
  | missing target op hreached => cases h'; rfl
  | served target op hreached hinstance hserves =>
    cases h' with
    | served _ _ _ hinstance' hserves' =>
      obtain rfl := Option.some.inj (hinstance.symm.trans hinstance')
      rw [(hserves.unique hserves').2]

theorem Runs.unique {m m' : Registry OpenStore} (h : Runs r deeds m) (h' : Runs r deeds m') :
    m = m' := by
  induction deeds generalizing r with
  | nil => exact h.symm.trans h'
  | cons d deeds ih =>
    obtain ⟨m₁, hd, hm⟩ := h
    obtain ⟨m₁', hd', hm'⟩ := h'
    obtain rfl := hd.unique hd'
    exact ih hm hm'

/-- Behind the deeds before it this deed opens a store in memory, which is the instance then. -/
def OpensInMemory (before : List Deed) (d : Deed) (A : Handle) (s : MemorySettings) : Prop :=
  ∃ r id driver options, Runs .empty before r ∧
    d = .command (.create id driver options) (.ok (some A)) ∧
    r.drivers.get? driver = some Drivers.memory ∧ MemorySettings.ofJson options = .ok s

/-- One of the deeds has opened the instance in memory, with these settings. -/
def OpenedInMemory (deeds : List Deed) (A : Handle) (s : MemorySettings) : Prop :=
  ∃ before d after, deeds = before ++ d :: after ∧ OpensInMemory before d A s

theorem OpensInMemory.instance? {before : List Deed} {s : MemorySettings}
    (h : OpensInMemory before d A s) (hr : Runs .empty before r) (hd : r.Does d r') :
    r.opened.length = A ∧ r'.instance? A = some (Drivers.ofMemorySettings s) := by
  obtain ⟨r₀, id, driver, options, hr₀, rfl, hdriver, hs⟩ := h
  obtain rfl := hr₀.unique hr
  have hload : Drivers.memory options = .ok (Drivers.ofMemorySettings s) := by
    rw [Drivers.memory, hs]
  rw [does_command_iff, obey, create_of_opened hdriver hload] at hd
  obtain ⟨hA, rfl⟩ := Prod.mk.inj hd
  obtain rfl : r₀.opened.length = A := by simpa [Except.map] using hA
  refine ⟨rfl, ?_⟩
  rw [Registry.instance?, opened_opening, List.getElem?_concat_length]
  rfl

theorem OpenedInMemory.split {s : MemorySettings} (h : OpenedInMemory deeds A s)
    (hrun : Runs .empty deeds r) : ∃ before after m, deeds = before ++ after ∧
      Runs .empty before m ∧ Runs m after r ∧ (∀ d ∈ before, d.reached? ≠ some A) ∧
      m.instance? A = some (Drivers.ofMemorySettings s) := by
  obtain ⟨before, d, after, rfl, hopens⟩ := h
  obtain ⟨m₀, hbefore, m, hd, hafter⟩ := runs_append.mp hrun
  obtain ⟨hA, hinstance⟩ := hopens.instance? hbefore hd
  have hnew : Runs .empty (before ++ [d]) m := runs_append.mpr ⟨m₀, hbefore, runs_singleton.mpr hd⟩
  refine ⟨before ++ [d], after, m, by simp, hnew, hafter, fun d' hd' hreached => ?_, hinstance⟩
  obtain hd' | hd' := List.mem_append.mp hd'
  · exact absurd (hbefore.handles.1 d' hd' A hreached) (hA ▸ Nat.lt_irrefl _)
  · obtain rfl := List.mem_singleton.mp hd'
    exact absurd (hd.handles.1 A hreached) (hA ▸ Nat.lt_irrefl _)

/-- What it means for a store in memory to be independent of all else that goes on. -/
structure Independent (deeds : List Deed) (r : Registry OpenStore) (A : Handle)
    (s : MemorySettings) : Prop where
  /-- No other store has its handle. -/
  handles : (deeds.filterMap Deed.opened?).Nodup
  /-- It starts with no objects. -/
  starts : ∀ before d after, deeds = before ++ d :: after → OpensInMemory before d A s →
    ∃ m b, Runs .empty (before ++ [d]) m ∧
      m.instance? A = some ⟨.new s.scope s.acl, .memory b⟩ ∧ ∀ key, b.objects.get? key = none
  /-- It responds as it would if it were alone with its own operations. -/
  own : ∃ b, r.instance? A = some ⟨.new s.scope s.acl, .memory b⟩ ∧
    (Store.new s.scope s.acl).Runs (.new s.bucket) (services A deeds) b
  /-- All others respond as they would if it had no operations. -/
  others : ∃ r', Runs .empty (deeds.filter fun d => d.reached? ≠ some A) r' ∧ AlikeBut A r r'
  /-- With the same operations it would respond the same beside any other deeds. -/
  alike : ∀ deeds' r' A', Runs .empty deeds' r' → OpenedInMemory deeds' A' s →
    (services A' deeds').map Sigma.fst = (services A deeds).map Sigma.fst →
    services A' deeds' = services A deeds
  /-- Every operation through its handle is served. -/
  served : ∀ op, ∃ a r', r.Does (.operation (.kept A) op (some (A, a))) r'
  /-- What does not reach it, such as removing or replacing its id, changes no later response
  through its handle. -/
  kept : ∀ before between after, deeds = before ++ (between ++ after) →
    OpenedInMemory before A s → (∀ d ∈ between, d.reached? ≠ some A) →
    (∀ d ∈ after, ∃ op served, d = .operation (.kept A) op served) →
    ∃ r', Runs .empty (before ++ after) r'

theorem OpenedInMemory.own {s : MemorySettings} (h : OpenedInMemory deeds A s)
    (hrun : Runs .empty deeds r) : ∃ b, r.instance? A = some ⟨.new s.scope s.acl, .memory b⟩ ∧
      (Store.new s.scope s.acl).Runs (.new s.bucket) (services A deeds) b := by
  obtain ⟨before, after, m, rfl, -, hafter, hbefore, hinstance⟩ := h.split hrun
  rw [services_append, services_eq_nil hbefore, List.nil_append]
  exact hafter.own hinstance

/-- **Instances are independent.** -/
theorem instances_independent {deeds : List Deed} {r : Registry OpenStore}
    (hrun : Runs .empty deeds r) {A : Handle} {s : MemorySettings}
    (hopened : OpenedInMemory deeds A s) : Independent deeds r A s where
  handles := by
    have hrange : List.range r.opened.length = deeds.filterMap Deed.opened? := hrun.handles.2
    rw [← hrange]
    exact List.nodup_range
  starts := by
    rintro before d after rfl hopens
    obtain ⟨m₀, hbefore, m, hd, -⟩ := runs_append.mp hrun
    exact ⟨m, _, runs_append.mpr ⟨m₀, hbefore, runs_singleton.mpr hd⟩,
      (hopens.instance? hbefore hd).2, fun _ => rfl⟩
  own := hopened.own hrun
  others := hrun.alikeBut (.refl A .empty)
  alike := by
    intro deeds' r' A' hrun' hopened' hsame
    obtain ⟨_, -, hown⟩ := hopened.own hrun
    obtain ⟨_, -, hown'⟩ := hopened'.own hrun'
    exact hown'.eq_of_map_fst hown hsame
  served := by
    intro op
    obtain ⟨b, hinstance, hown⟩ := hopened.own hrun
    have hquiet := Store.quiet_of_runs (Bucket.quiet_new _) hown
    obtain ⟨a, b', hserves⟩ := Store.exists_serves_of_quiet hquiet op
    have hreached : r.reached? (.kept A) = some A := by
      rw [reached?_kept, hinstance]
      rfl
    exact ⟨a, _, .served _ op hreached hinstance (Store.serves_memory.mpr ⟨b', rfl, hserves⟩)⟩
  kept := by
    rintro before between after rfl hopened hbetween hkept
    obtain ⟨m, hbefore, hrest⟩ := runs_append.mp hrun
    obtain ⟨m', hm, hafter⟩ := runs_append.mp hrest
    obtain ⟨b, hinstance, -⟩ := hopened.own hbefore
    obtain ⟨b', hinstance', hown⟩ := hm.own hinstance
    rw [services_eq_nil hbetween] at hown
    obtain rfl : b = b' := hown
    obtain ⟨r', hr'⟩ := hafter.of_instance? hkept (hinstance.trans hinstance'.symm)
    exact ⟨r', runs_append.mpr ⟨m, hbefore, hr'⟩⟩

/-- A store is filled, and loses its id to a new one. -/
def replaced : List Deed :=
  [.command (.register "memory" Drivers.memory) (.ok none),
    .command (.create "ci" "memory" (.obj [])) (.ok (some 0)),
    .operation (.under "ci") (.upload "a" (.ofBytes ⟨#[120]⟩)) (some (0, some (.ok ()))),
    .command (.create "ci" "memory" (.obj [])) (.ok (some 1)),
    .operation (.under "ci") (.download "a") (some (1, .error (.notFound "a"))),
    .operation (.kept 0) (.download "a") (some (0, .ok (.ofBytes ⟨#[120]⟩)))]

theorem runs_replaced : ∃ r, Runs .empty replaced r ∧ OpenedInMemory replaced 0 .default := by
  let fresh := Drivers.ofMemorySettings .default
  let filled := (fresh.store.upload "a" (.ofBytes ⟨#[120]⟩) fresh.bucket).2
  let r₁ := Registry.empty.register "memory" Drivers.memory
  let r₂ := r₁.opening "ci" (.ok ()) fresh
  let r₃ : Registry OpenStore := { r₂ with opened := [⟨fresh.store, filled⟩] }
  let r₄ := r₃.opening "ci" (.ok ()) fresh
  have h₁ : Does .empty (.command (.register "memory" Drivers.memory) (.ok none)) r₁ :=
    does_command_iff.mpr rfl
  have h₂ : r₁.Does (.command (.create "ci" "memory" (.obj [])) (.ok (some 0))) r₂ :=
    does_command_iff.mpr rfl
  have h₃ : r₂.Does (.operation (.under "ci") (.upload "a" (.ofBytes ⟨#[120]⟩))
      (some (0, some (.ok ())))) r₃ :=
    .served (i := fresh) _ _ rfl rfl (Prod.ext rfl rfl)
  have h₄ : r₃.Does (.command (.create "ci" "memory" (.obj [])) (.ok (some 1))) r₄ :=
    does_command_iff.mpr rfl
  have hunder : r₄.reached? (.under "ci") = some 1 := get?_opening ..
  have h₅ : r₄.Does (.operation (.under "ci") (.download "a")
      (some (1, .error (.notFound "a")))) r₄ :=
    .served (i := fresh) (b := fresh.bucket) _ _ hunder rfl (Prod.ext rfl rfl)
  obtain ⟨r₅, h₆⟩ : ∃ r₅, r₄.Does (.operation (.kept 0) (.download "a")
      (some (0, .ok (.ofBytes ⟨#[120]⟩)))) r₅ :=
    ⟨_, .served (i := ⟨fresh.store, filled⟩) (b := filled) _ _ rfl rfl (Prod.ext rfl rfl)⟩
  exact ⟨r₅, ⟨r₁, h₁, r₂, h₂, r₃, h₃, r₄, h₄, r₄, h₅, r₅, h₆, rfl⟩,
    [_], _, _, rfl, r₁, "ci", "memory", .obj [], runs_singleton.mpr h₁, rfl, rfl, rfl⟩

theorem instances_independent_replaced : ∃ r, Runs .empty replaced r ∧
    OpenedInMemory replaced 0 .default ∧ Independent replaced r 0 .default := by
  obtain ⟨r, hrun, hopened⟩ := runs_replaced
  exact ⟨r, hrun, hopened, instances_independent hrun hopened⟩

end Registry

end BlobStore
