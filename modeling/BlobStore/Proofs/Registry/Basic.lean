import Mathlib
import BlobStore.Proofs.SortedMap
import BlobStore.Registry

/-!
# What a registry can be asked

All commands of a registry, as one type, and what each does to the tables. Creating has three
outcomes and removing has two; each is said once, by the sections that it is made of.

No table ever names an instance that there is not (`Sound.obey`).
-/

namespace BlobStore

/-- What is wrong with a store of which this was found. -/
def complaint : Except StoreError Unit → Option String
  | .ok _ => none
  | .error e => some e.message

/-- What can be asked of a registry. -/
inductive Command (ι : Type) where
  | register (name : String) (driver : Driver ι)
  | create (id driver : String) (options : Json)
  | remove (id : String)
  | setError (id text : String)
  | clearError (id : String)

namespace Registry

variable {ι : Type}

/-! ## Sections -/

section sections

variable (r : Registry ι) (id id' : String)

theorem error?_judge (ready : Except StoreError Unit) :
    (r.judge id ready).error? id' = if id' = id then complaint ready else r.error? id' := by
  cases ready with
  | ok _ => exact error?_clearError ..
  | error e => exact error?_setError ..

@[simp] theorem get?_judge (ready : Except StoreError Unit) :
    (r.judge id ready).get? id' = r.get? id' := by
  cases ready <;> rfl

@[simp] theorem drivers_judge (ready : Except StoreError Unit) :
    (r.judge id ready).drivers = r.drivers := by
  cases ready <;> rfl

@[simp] theorem opened_judge (ready : Except StoreError Unit) :
    (r.judge id ready).opened = r.opened := by
  cases ready <;> rfl

end sections

/-! ## Outcomes -/

section outcomes

variable {r : Registry ι} {id driver : String} {options : Json} {load : Driver ι}

theorem create_of_unknown [Pinged ι] (h : r.drivers.get? driver = none) :
    r.create id driver options = (.error (.unknownDriver driver), r) := by
  simp only [create, h]

theorem create_of_failed [Pinged ι] {e : OpenError} (h : r.drivers.get? driver = some load)
    (hload : load options = .error e) :
    r.create id driver options = (.error (.opening e), r.setError id e.message) := by
  simp only [create, h, hload]

/-- The registry after a store was opened: it is under the id, with what was found of it. -/
def opening (r : Registry ι) (id : String) (ready : Except StoreError Unit) (fresh : ι) :
    Registry ι :=
  ((r.enroll fresh).2.place id r.opened.length).judge id ready

theorem create_of_opened [Pinged ι] {fresh : ι} (h : r.drivers.get? driver = some load)
    (hload : load options = .ok fresh) :
    r.create id driver options =
      (.ok r.opened.length, r.opening id (Pinged.ping fresh).1 (Pinged.ping fresh).2) := by
  simp only [create, h, hload]
  rfl

theorem remove_of_none (h : r.get? id = none) : r.remove id = (.error (.unknownStore id), r) := by
  simp only [remove, h]

theorem remove_of_some {h : Handle} (hstore : r.get? id = some h) :
    r.remove id = (.ok h, (r.withdraw id).clearError id) := by
  simp only [remove, hstore]

variable (r id) (id' : String) (ready : Except StoreError Unit) (fresh : ι)

@[simp] theorem drivers_opening : (r.opening id ready fresh).drivers = r.drivers :=
  drivers_judge ..

@[simp] theorem opened_opening : (r.opening id ready fresh).opened = r.opened ++ [fresh] :=
  opened_judge ..

@[simp] theorem get?_opening : (r.opening id ready fresh).get? id' =
    if id' = id then some r.opened.length else r.get? id' :=
  (get?_judge ..).trans (get?_place ..)

@[simp] theorem error?_opening : (r.opening id ready fresh).error? id' =
    if id' = id then complaint ready else r.error? id' :=
  error?_judge ..

end outcomes

/-! ## Commands -/

section commands

variable [Pinged ι]

/-- What the registry gives back for a command, and the registry then. -/
def obey (r : Registry ι) : Command ι → Except RegistryError (Option Handle) × Registry ι
  | .register name driver => (.ok none, r.register name driver)
  | .create id driver options =>
    let (result, r) := r.create id driver options
    (result.map some, r)
  | .remove id => let (result, r) := r.remove id; (result.map some, r)
  | .setError id text => (.ok none, r.setError id text)
  | .clearError id => (.ok none, r.clearError id)

/-- A new registry after commands that come in turn. -/
def after (commands : List (Command ι)) : Registry ι :=
  commands.foldl (fun r c => (r.obey c).2) .empty

@[simp] theorem after_concat (commands : List (Command ι)) (c : Command ι) :
    after (commands ++ [c]) = ((after commands).obey c).2 := by
  simp [after]

/-- What is under an id has come to be. -/
def Sound (r : Registry ι) : Prop := ∀ id h, r.get? id = some h → h < r.opened.length

theorem Sound.obey {r : Registry ι} (h : r.Sound) (c : Command ι) : (r.obey c).2.Sound := by
  cases c with
  | register name driver => exact h
  | create id driver options =>
    simp only [Registry.obey]
    cases hdriver : r.drivers.get? driver with
    | none => rwa [create_of_unknown hdriver]
    | some load =>
      cases hload : load options with
      | error e => rw [create_of_failed hdriver hload]; exact h
      | ok fresh =>
        rw [create_of_opened hdriver hload]
        intro id' h' hstore
        simp only [get?_opening, opened_opening, List.length_append, List.length_singleton]
          at hstore ⊢
        split at hstore
        · obtain rfl := Option.some.inj hstore
          exact Nat.lt_succ_self _
        · exact Nat.lt_succ_of_lt (h id' h' hstore)
  | remove id =>
    simp only [Registry.obey]
    cases hstore : r.get? id with
    | none => rwa [remove_of_none hstore]
    | some old =>
      rw [remove_of_some hstore]
      intro id' h' hstore'
      have hleft : (r.withdraw id).get? id' = some h' := hstore'
      rw [get?_withdraw] at hleft
      split at hleft
      · cases hleft
      · exact h id' h' hleft
  | setError id text => exact h
  | clearError id => exact h

theorem sound_after (commands : List (Command ι)) : (after commands).Sound := by
  induction commands using List.reverseRecOn with
  | nil =>
    intro id h hstore
    cases hstore
  | append_singleton commands c ih =>
    rw [after_concat]
    exact ih.obey c

end commands

end Registry

end BlobStore
