import Mathlib
import BlobStore.Proofs.Registry.Basic

/-!
# Calls section by section

While a call to a registry is under way others can come in, and what goes on at once are not calls
but their sections. A `Visit` is a call by the section that comes next. Alone the sections do what
creating and removing do (`RegistryCall.advance_visit`); with others at work a list of turns says
whose section is next.

`RegistryCall.Section` says once what a section can do to the store and the error under an id; the
invariants of the calls are read off it.
-/

namespace BlobStore

/-- A call to a registry. -/
inductive RegistryCall where
  | create (id driver : String) (options : Json)
  | remove (id : String)

/-- A call that is under way, by the section that comes next. -/
inductive Visit (ι : Type) where
  /-- To look up the driver. -/
  | finding (id driver : String) (options : Json)
  /-- To open the store and ask it whether it is ready. -/
  | opening (id : String) (load : Driver ι) (options : Json)
  /-- To keep why no store could be opened. -/
  | failing (id : String) (e : OpenError)
  /-- To put the store under the id. -/
  | placing (id : String) (h : Handle) (ready : Except StoreError Unit)
  /-- To keep what was found of it. -/
  | judging (id : String) (h : Handle) (ready : Except StoreError Unit)
  /-- To take the store away from the id. -/
  | withdrawing (id : String)
  /-- To forget what was wrong with it. -/
  | clearing (id : String) (h : Handle)
  | returned (result : Except RegistryError Handle)

variable {ι : Type}

namespace Visit

/-- The next section. -/
def advance [Pinged ι] : Visit ι → Registry ι → Visit ι × Registry ι
  | finding id driver options, r =>
    match r.drivers.get? driver with
    | none => (returned (.error (.unknownDriver driver)), r)
    | some load => (opening id load options, r)
  | opening id load options, r =>
    match load options with
    | .error e => (failing id e, r)
    | .ok fresh =>
      let (ready, fresh) := Pinged.ping fresh
      let (h, r) := r.enroll fresh
      (placing id h ready, r)
  | failing id e, r => (returned (.error (.opening e)), r.setError id e.message)
  | placing id h ready, r => (judging id h ready, r.place id h)
  | judging id h ready, r => (returned (.ok h), r.judge id ready)
  | withdrawing id, r =>
    match r.get? id with
    | none => (returned (.error (.unknownStore id)), r)
    | some h => (clearing id h, r.withdraw id)
  | clearing id h, r => (returned (.ok h), r.clearError id)
  | returned result, r => (returned result, r)

/-- How many sections are left, at most. -/
def rank : Visit ι → Nat
  | finding .. => 4
  | opening .. => 3
  | placing .. | withdrawing .. => 2
  | failing .. | judging .. | clearing .. => 1
  | returned .. => 0

/-- The call has changed the store under the id, but not yet its error. -/
def Owes (id : String) : Visit ι → Prop
  | judging id' _ _ | clearing id' _ => id = id'
  | _ => False

theorem rank_advance [Pinged ι] (v : Visit ι) (r : Registry ι) :
    (v.advance r).1.rank ≤ v.rank - 1 := by
  cases v with
  | finding id driver options =>
    simp only [advance]
    split <;> simp [rank]
  | opening id load options =>
    simp only [advance]
    split <;> simp [rank]
  | withdrawing id =>
    simp only [advance]
    split <;> simp [rank]
  | _ => exact Nat.le_refl _

theorem exists_returned {v : Visit ι} (h : v.rank = 0) : ∃ result, v = returned result := by
  cases v with
  | returned result => exact ⟨result, rfl⟩
  | _ => cases h

@[simp] theorem drivers_advance [Pinged ι] (v : Visit ι) (r : Registry ι) :
    (v.advance r).2.drivers = r.drivers := by
  cases v with
  | finding id driver options =>
    simp only [advance]
    split <;> rfl
  | opening id load options =>
    simp only [advance]
    split <;> rfl
  | judging id h ready => exact Registry.drivers_judge ..
  | withdrawing id =>
    simp only [advance]
    split <;> rfl
  | _ => rfl

end Visit

/-! ## What comes of a call -/

namespace RegistryCall

def id : RegistryCall → String
  | create id .. | remove id => id

/-- The call before its first section. -/
def visit : RegistryCall → Visit ι
  | create id driver options => .finding id driver options
  | remove id => .withdrawing id

/-- What comes of the call when nothing else goes on. -/
def perform [Pinged ι] (r : Registry ι) : RegistryCall → Except RegistryError Handle × Registry ι
  | create id driver options => r.create id driver options
  | remove id => r.remove id

/-- The instance that the call has opened. -/
def own? : RegistryCall → Visit ι → Option Handle
  | create .., .placing _ h _ | create .., .judging _ h _ | create .., .returned (.ok h) => some h
  | _, _ => none

/-- The store that the call opens, as the driver gives it. -/
def opened? (drivers : SortedMap String (Driver ι)) : RegistryCall → Option ι
  | create _ driver options => (drivers.get? driver).bind fun load => (load options).toOption
  | remove _ => none

/-- If the call is to open a store, there is a driver that does. -/
def Opens (drivers : SortedMap String (Driver ι)) : RegistryCall → Prop
  | create id driver options => (opened? drivers (create id driver options)).isSome
  | remove _ => True

/-- What the call keeps as wrong with the id: what is found of the store that it opens. -/
def verdict [Pinged ι] (drivers : SortedMap String (Driver ι)) (q : RegistryCall) : Option String :=
  (q.opened? drivers).bind fun fresh => complaint (Pinged.ping fresh).1

theorem exists_of_opens {drivers : SortedMap String (Driver ι)} {id driver : String}
    {options : Json} (h : (create id driver options).Opens drivers) :
    ∃ load fresh, drivers.get? driver = some load ∧ load options = .ok fresh := by
  simp only [Opens, opened?] at h
  cases hdriver : drivers.get? driver with
  | none => simp [hdriver] at h
  | some load =>
    cases hload : load options with
    | error e => simp [hdriver, hload, Except.toOption] at h
    | ok fresh => exact ⟨load, fresh, rfl, hload⟩

variable [Pinged ι] {drivers : SortedMap String (Driver ι)}

theorem verdict_create {id driver : String} {options : Json} {load : Driver ι} {fresh : ι}
    (hdriver : drivers.get? driver = some load) (hload : load options = .ok fresh) :
    (create id driver options).verdict drivers = complaint (Pinged.ping fresh).1 := by
  simp [verdict, opened?, hdriver, hload, Except.toOption]

theorem perform_cases {r : Registry ι} {q : RegistryCall} (hopens : q.Opens r.drivers) {h : Handle}
    (hstore : r.get? q.id = some h) :
    (∃ driver options h', q = create q.id driver options ∧ (q.perform r).1 = .ok h' ∧
        (q.perform r).2.get? q.id = some h') ∨
      (q.verdict r.drivers = none ∧ (q.perform r).2.get? q.id = none) := by
  cases q with
  | create id driver options =>
    obtain ⟨load, fresh, hdriver, hload⟩ := exists_of_opens hopens
    have hperform : (create id driver options).perform r = (.ok r.opened.length,
        r.opening id (Pinged.ping fresh).1 (Pinged.ping fresh).2) :=
      Registry.create_of_opened hdriver hload
    rw [hperform]
    exact .inl ⟨driver, options, r.opened.length, rfl, rfl,
      (Registry.get?_opening ..).trans (if_pos rfl)⟩
  | remove id =>
    have hperform : (remove id).perform r = (.ok h, (r.withdraw id).clearError id) :=
      Registry.remove_of_some hstore
    rw [hperform]
    exact .inr ⟨rfl, (Registry.get?_withdraw ..).trans (if_pos rfl)⟩

/-- **Alone** the sections of a call are the call. -/
theorem advance_visit (q : RegistryCall) (r : Registry ι) :
    (fun (v, r) => v.advance r)^[4] (q.visit, r) =
      (.returned (q.perform r).1, (q.perform r).2) := by
  cases q with
  | create id driver options =>
    simp only [visit, perform, Registry.create, Function.iterate_succ_apply,
      Function.iterate_zero_apply, Visit.advance]
    cases r.drivers.get? driver with
    | none => rfl
    | some load =>
      dsimp only
      cases load options with
      | error e => rfl
      | ok fresh => rfl
  | remove id =>
    simp only [visit, perform, Registry.remove, Function.iterate_succ_apply,
      Function.iterate_zero_apply, Visit.advance]
    cases r.get? id with
    | none => rfl
    | some h => rfl

theorem advance_create {r : Registry ι} {id driver : String} {options : Json} {load : Driver ι}
    {fresh : ι} (hdriver : r.drivers.get? driver = some load) (hload : load options = .ok fresh) :
    (fun (v, r) => v.advance r)^[3] ((create id driver options).visit, r) =
      (.judging id r.opened.length (Pinged.ping fresh).1,
        (r.enroll (Pinged.ping fresh).2).2.place id r.opened.length) := by
  simp only [visit, Function.iterate_succ_apply, Function.iterate_zero_apply, Visit.advance,
    hdriver, hload]
  rfl

/-- How far a call can have come that opens a store if it is to. -/
inductive Along (drivers : SortedMap String (Driver ι)) : RegistryCall → Visit ι → Prop
  | finding (id driver : String) (options : Json) :
    Along drivers (create id driver options) (.finding id driver options)
  | opening (id driver : String) (options : Json) (load : Driver ι)
    (hdriver : drivers.get? driver = some load) :
    Along drivers (create id driver options) (.opening id load options)
  | placing (id driver : String) (options : Json) (h : Handle) (ready : Except StoreError Unit)
    (hready : (create id driver options).verdict drivers = complaint ready) :
    Along drivers (create id driver options) (.placing id h ready)
  | judging (id driver : String) (options : Json) (h : Handle) (ready : Except StoreError Unit)
    (hready : (create id driver options).verdict drivers = complaint ready) :
    Along drivers (create id driver options) (.judging id h ready)
  | created (id driver : String) (options : Json) (h : Handle) :
    Along drivers (create id driver options) (.returned (.ok h))
  | withdrawing (id : String) : Along drivers (remove id) (.withdrawing id)
  | clearing (id : String) (h : Handle) : Along drivers (remove id) (.clearing id h)
  | removed (id : String) (result : Except RegistryError Handle) :
    Along drivers (remove id) (.returned result)

theorem along_visit (drivers : SortedMap String (Driver ι)) (q : RegistryCall) :
    q.Along drivers q.visit := by
  cases q with
  | create id driver options => exact .finding ..
  | remove id => exact .withdrawing ..

/-- What a section of a call can do to the store and the error under an id. -/
inductive Section (drivers : SortedMap String (Driver ι)) (id : String) (r : Registry ι)
    (q : RegistryCall) (v v' : Visit ι) (r' : Registry ι) : Prop
  /-- Nothing, and the call is not in the midst of changing them. -/
  | still (store : r'.get? id = r.get? id) (error : r'.error? id = r.error? id)
    (before : ¬ v.Owes id) (after : ¬ v'.Owes id)
    (given : ∀ h, q.id = id → v' = .returned (.ok h) → v = .returned (.ok h))
  | place (driver : String) (options : Json) (h : Handle) (ready : Except StoreError Unit)
    (call : q = create id driver options) (before : v = .placing id h ready)
    (after : v' = .judging id h ready) (store : r'.get? id = some h)
    (error : r'.error? id = r.error? id)
  | judge (driver : String) (options : Json) (h : Handle) (ready : Except StoreError Unit)
    (call : q = create id driver options) (before : v = .judging id h ready)
    (after : v' = .returned (.ok h)) (store : r'.get? id = r.get? id)
    (error : r'.error? id = q.verdict drivers)
  | withdraw (h : Handle) (call : q = remove id) (before : v = .withdrawing id)
    (after : v' = .clearing id h) (store : r'.get? id = none) (error : r'.error? id = r.error? id)
  | clear (h : Handle) (call : q = remove id) (before : v = .clearing id h)
    (after : v' = .returned (.ok h)) (store : r'.get? id = r.get? id) (error : r'.error? id = none)

theorem Along.advance {q : RegistryCall} {v : Visit ι} {r : Registry ι} (h : q.Along r.drivers v)
    (hopens : q.Opens r.drivers) : q.Along r.drivers (v.advance r).1 := by
  cases h with
  | finding id driver options =>
    obtain ⟨load, fresh, hdriver, -⟩ := exists_of_opens hopens
    simp only [Visit.advance, hdriver]
    exact .opening _ _ _ _ hdriver
  | opening id driver options load hdriver =>
    obtain ⟨load', fresh, hdriver', hload⟩ := exists_of_opens hopens
    obtain rfl : load = load' := Option.some.inj (hdriver.symm.trans hdriver')
    simp only [Visit.advance, hload]
    exact .placing _ _ _ _ _ (verdict_create hdriver hload)
  | placing id driver options h ready hready => exact .judging _ _ _ _ _ hready
  | judging id driver options h ready hready => exact .created ..
  | created id driver options h => exact .created ..
  | withdrawing id =>
    simp only [Visit.advance]
    split
    · exact .removed ..
    · exact .clearing ..
  | clearing id h => exact .removed ..
  | removed id result => exact .removed ..

theorem Section.of_rank_ne_zero {id : String} {q : RegistryCall} {v v' : Visit ι}
    {r r' : Registry ι} (store : r'.get? id = r.get? id) (error : r'.error? id = r.error? id)
    (before : ¬ v.Owes id) (after : ¬ v'.Owes id) (hrank : v'.rank ≠ 0) :
    q.Section drivers id r v v' r' :=
  .still store error before after fun _ _ h => absurd (h ▸ rfl) hrank

/-- **One section** does one of five things to the store and the error under an id. -/
theorem Along.section_advance {q : RegistryCall} {v : Visit ι} {r : Registry ι}
    (h : q.Along r.drivers v) (id : String) :
    q.Section r.drivers id r v (v.advance r).1 (v.advance r).2 := by
  cases h with
  | finding id' driver options =>
    simp only [Visit.advance]
    split
    · exact .still rfl rfl not_false not_false fun _ _ h => by cases h
    · exact .of_rank_ne_zero rfl rfl not_false not_false (Nat.succ_ne_zero _)
  | opening id' driver options load hdriver =>
    simp only [Visit.advance]
    split <;> exact .of_rank_ne_zero rfl rfl not_false not_false (Nat.succ_ne_zero _)
  | placing id' driver options h ready hready =>
    by_cases hid : id = id'
    · subst hid
      exact .place driver options h ready rfl rfl rfl (by simp [Visit.advance]) rfl
    · exact .of_rank_ne_zero (by simp [Visit.advance, hid]) rfl not_false hid (Nat.succ_ne_zero _)
  | judging id' driver options h ready hready =>
    by_cases hid : id = id'
    · subst hid
      exact .judge driver options h ready rfl rfl rfl (by simp [Visit.advance])
        (by simp [Visit.advance, Registry.error?_judge, hready])
    · refine .still (by simp [Visit.advance]) (by simp [Visit.advance, Registry.error?_judge, hid])
        hid not_false fun _ hid' => absurd hid'.symm hid
  | created id' driver options h => exact .still rfl rfl not_false not_false fun _ _ h => h
  | withdrawing id' =>
    simp only [Visit.advance]
    split
    · exact .still rfl rfl not_false not_false fun _ _ h => by cases h
    · next h hstore =>
      by_cases hid : id = id'
      · subst hid
        exact .withdraw h rfl rfl rfl (by simp) rfl
      · exact .of_rank_ne_zero (by simp [hid]) rfl not_false hid (Nat.succ_ne_zero _)
  | clearing id' h =>
    by_cases hid : id = id'
    · subst hid
      exact .clear h rfl rfl rfl rfl (by simp [Visit.advance])
    · exact .still rfl (by simp [Visit.advance, hid]) hid not_false
        fun _ hid' => absurd hid'.symm hid
  | removed id' result => exact .still rfl rfl not_false not_false fun _ _ h => h

theorem Section.get?_cases {id : String} {q : RegistryCall} {v v' : Visit ι} {r r' : Registry ι}
    (h : q.Section drivers id r v v' r') {x : Handle} (hstore : r'.get? id = some x) :
    r.get? id = some x ∨ (q.id = id ∧ q.own? v' = some x) := by
  cases h with
  | still store => exact .inl (store ▸ hstore)
  | place driver options h ready call before after store =>
    subst call after
    exact .inr ⟨rfl, store.symm.trans hstore⟩
  | judge driver options h ready call before after store => exact .inl (store ▸ hstore)
  | withdraw h call before after store =>
    rw [store] at hstore
    cases hstore
  | clear h call before after store => exact .inl (store ▸ hstore)

/-- **One section** opens at most one instance, and only for a call that has none. -/
theorem Along.own?_advance {q : RegistryCall} {v : Visit ι} (h : q.Along drivers v)
    (r : Registry ι) :
    (q.own? (v.advance r).1 = q.own? v ∧ (v.advance r).2.opened.length = r.opened.length) ∨
      (q.own? v = none ∧ q.own? (v.advance r).1 = some r.opened.length ∧
        (v.advance r).2.opened.length = r.opened.length + 1) := by
  cases h with
  | finding id driver options =>
    simp only [Visit.advance]
    split <;> exact .inl ⟨rfl, rfl⟩
  | opening id driver options load hdriver =>
    simp only [Visit.advance]
    split
    · exact .inl ⟨rfl, rfl⟩
    · exact .inr ⟨rfl, rfl, by simp [Registry.enroll]⟩
  | judging id driver options h ready hready => exact .inl ⟨rfl, by simp [Visit.advance]⟩
  | withdrawing id =>
    simp only [Visit.advance]
    split <;> exact .inl ⟨rfl, rfl⟩
  | _ => exact .inl ⟨rfl, rfl⟩

theorem Along.own?_mono {q : RegistryCall} {v : Visit ι} (h : q.Along drivers v) (r : Registry ι)
    {own : Handle} (hown : q.own? v = some own) : q.own? (v.advance r).1 = some own := by
  obtain ⟨hsame, -⟩ | ⟨hnone, -, -⟩ := h.own?_advance r
  · rw [hsame, hown]
  · rw [hnone] at hown
    cases hown

end RegistryCall

/-! ## Many calls -/

/-- A registry with the calls that are under way at it. -/
structure Busy (κ ι : Type) where
  visits : κ → Visit ι
  registry : Registry ι

namespace Busy

variable {κ : Type}

/-- No call has begun. -/
def start (r : Registry ι) (calls : κ → RegistryCall) : Busy κ ι := ⟨fun i => (calls i).visit, r⟩

def AllReturned (w : Busy κ ι) : Prop := ∀ i, ∃ result, w.visits i = .returned result

section given

variable {calls : κ → RegistryCall} {w : Busy κ ι}

/-- The call has given back a store that it opened under the id. -/
def Gave (w : Busy κ ι) (calls : κ → RegistryCall) (i : κ) (id : String) (h : Handle) : Prop :=
  (∃ driver options, calls i = .create id driver options) ∧ w.visits i = .returned (.ok h)

theorem Gave.own? {i : κ} {id : String} {h : Handle} (hgave : w.Gave calls i id h) :
    (calls i).own? (w.visits i) = some h := by
  obtain ⟨⟨driver, options, hcall⟩, hreturned⟩ := hgave
  rw [hcall, hreturned]
  rfl

end given

variable [DecidableEq κ] [Pinged ι]

/-- The next section of one of the calls. -/
def turn (w : Busy κ ι) (i : κ) : Busy κ ι :=
  let (v, r) := (w.visits i).advance w.registry
  ⟨Function.update w.visits i v, r⟩

def run (w : Busy κ ι) (turns : List κ) : Busy κ ι := turns.foldl turn w

section turns

variable (w : Busy κ ι) {i j : κ}

theorem run_append (turns turns' : List κ) : w.run (turns ++ turns') = (w.run turns).run turns' :=
  List.foldl_append ..

@[simp] theorem run_concat (turns : List κ) (i : κ) : w.run (turns ++ [i]) = (w.run turns).turn i :=
  List.foldl_append ..

theorem visits_turn_self : (w.turn i).visits i = ((w.visits i).advance w.registry).1 :=
  Function.update_self ..

theorem visits_turn_of_ne (h : j ≠ i) : (w.turn i).visits j = w.visits j :=
  Function.update_of_ne h ..

theorem visits_run_of_notMem {turns : List κ} (h : i ∉ turns) :
    (w.run turns).visits i = w.visits i := by
  induction turns using List.reverseRecOn with
  | nil => rfl
  | append_singleton turns j ih =>
    rw [List.mem_append, List.mem_singleton, not_or] at h
    rw [run_concat, visits_turn_of_ne _ h.2, ih h.1]

theorem rank_run (turns : List κ) (i : κ) :
    ((w.run turns).visits i).rank ≤ (w.visits i).rank - turns.count i := by
  induction turns using List.reverseRecOn with
  | nil => exact Nat.le_refl _
  | append_singleton turns j ih =>
    rw [run_concat, List.count_append, List.count_singleton]
    by_cases h : j = i
    · subst h
      have hstep := ((w.run turns).visits j).rank_advance (w.run turns).registry
      rw [visits_turn_self, if_pos (beq_self_eq_true j)]
      omega
    · rw [visits_turn_of_ne _ (Ne.symm h), if_neg (by simpa using h)]
      exact ih

theorem exists_returned_run {turns : List κ} (h : 4 ≤ turns.count i) :
    ∃ result, (w.run turns).visits i = .returned result := by
  have hrank := w.rank_run turns i
  have hfour : (w.visits i).rank ≤ 4 := by
    cases w.visits i <;> simp [Visit.rank]
  exact Visit.exists_returned (by omega)

theorem run_replicate (n : Nat) (i : κ) :
    w.run (List.replicate n i) =
      let (v, r) := (fun (v, r) => v.advance r)^[n] (w.visits i, w.registry)
      ⟨Function.update w.visits i v, r⟩ := by
  induction n with
  | zero => simp [run]
  | succ n ih =>
    rw [List.replicate_succ', run_concat, ih, Function.iterate_succ_apply']
    simp only [turn, Function.update_self, Function.update_idem]

theorem run_alone {q : RegistryCall} (h : w.visits i = q.visit) :
    w.run (List.replicate 4 i) =
      ⟨Function.update w.visits i (.returned (q.perform w.registry).1),
        (q.perform w.registry).2⟩ := by
  rw [run_replicate, h, RegistryCall.advance_visit]

end turns

/-! ## Calls that open a store if they are to -/

variable {drivers : SortedMap String (Driver ι)} {calls : κ → RegistryCall} {w : Busy κ ι}

/-- Every call is as far as it can be, no two of them have opened the same instance, and what is
under an id was opened for it. -/
structure Proper (drivers : SortedMap String (Driver ι)) (calls : κ → RegistryCall) (w : Busy κ ι) :
    Prop where
  same : w.registry.drivers = drivers
  along : ∀ i, (calls i).Along drivers (w.visits i)
  opened : ∀ i h, (calls i).own? (w.visits i) = some h → h < w.registry.opened.length
  apart : ∀ i j h, (calls i).own? (w.visits i) = some h → (calls j).own? (w.visits j) = some h →
    i = j
  under : ∀ id h, w.registry.get? id = some h →
    ∃ i, (calls i).id = id ∧ (calls i).own? (w.visits i) = some h

omit [DecidableEq κ] in
theorem proper_start {r : Registry ι} (hstores : ∀ id, r.get? id = none)
    (calls : κ → RegistryCall) : (start r calls).Proper r.drivers calls where
  same := rfl
  along i := RegistryCall.along_visit _ _
  opened i h hown := by
    cases hcall : calls i <;> simp [start, hcall, RegistryCall.visit, RegistryCall.own?] at hown
  apart i j h hown := by
    cases hcall : calls i <;> simp [start, hcall, RegistryCall.visit, RegistryCall.own?] at hown
  under id h hstore := by
    rw [show (start r calls).registry = r from rfl, hstores] at hstore
    cases hstore

theorem Proper.section_turn (h : w.Proper drivers calls) (i : κ) (id : String) :
    (calls i).Section drivers id w.registry (w.visits i) ((w.turn i).visits i)
      (w.turn i).registry := by
  obtain rfl := h.same
  rw [visits_turn_self]
  exact (h.along i).section_advance id

theorem Proper.length_le (h : w.Proper drivers calls) (i : κ) :
    w.registry.opened.length ≤ (w.turn i).registry.opened.length := by
  obtain ⟨-, hlength⟩ | ⟨-, -, hlength⟩ := (h.along i).own?_advance w.registry
  · exact hlength.ge
  · exact (Nat.le_succ _).trans hlength.ge

theorem Proper.own?_cases (h : w.Proper drivers calls) {i j : κ} {x : Handle}
    (hx : (calls j).own? ((w.turn i).visits j) = some x) :
    (calls j).own? (w.visits j) = some x ∨
      (j = i ∧ x = w.registry.opened.length ∧ x < (w.turn i).registry.opened.length) := by
  by_cases hj : j = i
  · subst hj
    rw [visits_turn_self] at hx
    obtain ⟨hsame, -⟩ | ⟨-, hnew, hlength⟩ := (h.along j).own?_advance w.registry
    · exact .inl (hsame ▸ hx)
    · obtain rfl := Option.some.inj (hnew.symm.trans hx)
      exact .inr ⟨rfl, rfl, (Nat.lt_succ_self _).trans_eq hlength.symm⟩
  · rw [visits_turn_of_ne _ hj] at hx
    exact .inl hx

theorem Proper.own?_turn (h : w.Proper drivers calls) {i j : κ} {x : Handle}
    (hx : (calls j).own? (w.visits j) = some x) :
    (calls j).own? ((w.turn i).visits j) = some x := by
  by_cases hj : j = i
  · subst hj
    rw [visits_turn_self]
    exact (h.along j).own?_mono _ hx
  · rwa [visits_turn_of_ne _ hj]

/-- **One turn**, whoever's it is: all calls go on as they should. -/
theorem Proper.turn (h : w.Proper drivers calls) (hopens : ∀ i, (calls i).Opens drivers) (i : κ) :
    (w.turn i).Proper drivers calls where
  same := (Visit.drivers_advance ..).trans h.same
  along j := by
    by_cases hj : j = i
    · subst hj
      obtain rfl := h.same
      rw [visits_turn_self]
      exact (h.along j).advance (hopens j)
    · rw [visits_turn_of_ne _ hj]
      exact h.along j
  opened j x hx := by
    obtain hx | ⟨-, -, hx⟩ := h.own?_cases hx
    · exact (h.opened j x hx).trans_le (h.length_le i)
    · exact hx
  apart j k x hj hk := by
    obtain hj' | ⟨hji, hx, -⟩ := h.own?_cases hj
    · obtain hk' | ⟨-, hx, -⟩ := h.own?_cases hk
      · exact h.apart j k x hj' hk'
      · exact absurd (h.opened j x hj') (hx ▸ Nat.lt_irrefl _)
    · obtain hk' | ⟨hki, -, -⟩ := h.own?_cases hk
      · exact absurd (h.opened k x hk') (hx ▸ Nat.lt_irrefl _)
      · rw [hji, hki]
  under id x hstore := by
    obtain hstore | ⟨hid, hx⟩ := (h.section_turn i id).get?_cases hstore
    · obtain ⟨j, hid, hx⟩ := h.under id x hstore
      exact ⟨j, hid, h.own?_turn hx⟩
    · exact ⟨i, hid, hx⟩

theorem proper_run {r : Registry ι} (hstores : ∀ id, r.get? id = none)
    (hopens : ∀ i, (calls i).Opens r.drivers) (turns : List κ) :
    ((start r calls).run turns).Proper r.drivers calls := by
  induction turns using List.reverseRecOn with
  | nil => exact proper_start hstores calls
  | append_singleton turns i ih =>
    rw [run_concat]
    exact ih.turn hopens i

end Busy

end BlobStore
