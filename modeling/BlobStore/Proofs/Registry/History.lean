import Mathlib
import BlobStore.Proofs.Registry.Basic
import BlobStore.Proofs.Text.Bytes

/-!
# Registries by their history

All that a registry can be asked, as one type, and what came of each command as an event. A history
has no tables: what is under an id, what was wrong with it and what the name of a driver means are
read off the latest event that says so. `tables_of_history` says that the tables of a registry hold
just this.
-/

namespace BlobStore

/-- What came of a command. -/
inductive Event (ι : Type) where
  | registered (name : String) (driver : Driver ι)
  /-- A store was to be opened by a driver that there is not. -/
  | refused (id driver : String)
  /-- The driver could not open the store. -/
  | failed (id : String) (e : OpenError)
  /-- The store was opened, and found ready or not. -/
  | opened (id : String) (h : Handle) (ready : Except StoreError Unit) (fresh : ι)
  | removed (id : String) (h : Handle)
  /-- There was no store to remove. -/
  | missing (id : String)
  | errorSet (id text : String)
  | errorCleared (id : String)

/-- What came of commands, the latest first. -/
abbrev History (ι : Type) := List (Event ι)

variable {ι : Type}

/-! ## What an event says -/

namespace Event

/-- What is given back for a command of which this came. -/
def result : Event ι → Except RegistryError (Option Handle)
  | refused _ driver => .error (.unknownDriver driver)
  | failed _ e => .error (.opening e)
  | missing id => .error (.unknownStore id)
  | opened _ h _ _ | removed _ h => .ok (some h)
  | registered .. | errorSet .. | errorCleared .. => .ok none

/-- The driver that the name means from now on. -/
def driver? (name : String) : Event ι → Option (Driver ι)
  | registered name' driver => if name = name' then some driver else none
  | _ => none

/-- The store that is under the id from now on, or that there is none. -/
def store? (id : String) : Event ι → Option (Option Handle)
  | opened id' h _ _ => if id = id' then some (some h) else none
  | removed id' _ => if id = id' then some none else none
  | _ => none

/-- What is wrong under the id from now on, or that nothing is. -/
def error? (id : String) : Event ι → Option (Option String)
  | failed id' e => if id = id' then some (some e.message) else none
  | opened id' _ ready _ => if id = id' then some (complaint ready) else none
  | errorSet id' text => if id = id' then some (some text) else none
  | removed id' _ | errorCleared id' => if id = id' then some none else none
  | _ => none

/-- The instance that came to be. -/
def fresh? : Event ι → Option ι
  | opened _ _ _ fresh => some fresh
  | _ => none

/-- The command could not even be begun. -/
def IsRefusal : Event ι → Prop
  | refused .. | missing _ => True
  | _ => False

end Event

/-! ## What the latest event says -/

namespace History

def driver? (name : String) : History ι → Option (Driver ι)
  | [] => none
  | e :: before => (e.driver? name).or (driver? name before)

def store? (id : String) : History ι → Option Handle
  | [] => none
  | e :: before => (e.store? id).getD (store? id before)

def error? (id : String) : History ι → Option String
  | [] => none
  | e :: before => (e.error? id).getD (error? id before)

/-- All instances that came to be, in the order of their handles. -/
def instances : History ι → List ι
  | [] => []
  | e :: before => instances before ++ e.fresh?.toList

end History

section pinged

variable [Pinged ι]

/-- What comes of a command behind a history. -/
def Command.event (before : History ι) : Command ι → Event ι
  | register name driver => .registered name driver
  | create id name options =>
    match before.driver? name with
    | none => .refused id name
    | some load =>
      match load options with
      | .error e => .failed id e
      | .ok fresh =>
        .opened id before.instances.length (Pinged.ping fresh).1 (Pinged.ping fresh).2
  | remove id =>
    match before.store? id with
    | none => .missing id
    | some h => .removed id h
  | setError id text => .errorSet id text
  | clearError id => .errorCleared id

/-- The history of commands that come in turn. -/
def history (commands : List (Command ι)) : History ι :=
  commands.foldl (fun before c => c.event before :: before) []

@[simp] theorem history_concat (commands : List (Command ι)) (c : Command ι) :
    history (commands ++ [c]) = c.event (history commands) :: history commands := by
  simp [history]

namespace Registry

/-! ## Tables that follow a history -/

/-- The tables hold what the history tells. -/
structure Follows (events : History ι) (r : Registry ι) : Prop where
  drivers : ∀ name, r.drivers.get? name = events.driver? name
  stores : ∀ id, r.get? id = events.store? id
  errors : ∀ id, r.error? id = events.error? id
  opened : r.opened = events.instances

namespace Follows

variable {events : History ι} {r : Registry ι}

omit [Pinged ι] in
theorem of_silent {e : Event ι} (h : Follows events r) (hdriver : ∀ name, e.driver? name = none)
    (hstore : ∀ id, e.store? id = none) (herror : ∀ id, e.error? id = none)
    (hfresh : e.fresh? = none) : Follows (e :: events) r where
  drivers := fun name => by rw [History.driver?, hdriver]; exact h.drivers name
  stores := fun id => by rw [History.store?, hstore]; exact h.stores id
  errors := fun id => by rw [History.error?, herror]; exact h.errors id
  opened := by rw [History.instances, hfresh]; exact h.opened.trans (List.append_nil _).symm

theorem create (h : Follows events r) (id driver : String) (options : Json) :
    (r.obey (.create id driver options)).1 =
        ((Command.create id driver options).event events).result ∧
      Follows ((Command.create id driver options).event events :: events)
        (r.obey (.create id driver options)).2 := by
  simp only [obey, Command.event]
  cases hdriver : events.driver? driver with
  | none =>
    rw [create_of_unknown ((h.drivers driver).trans hdriver)]
    exact ⟨rfl, h.of_silent (fun _ => rfl) (fun _ => rfl) (fun _ => rfl) rfl⟩
  | some load =>
    have hload := (h.drivers driver).trans hdriver
    dsimp only
    cases hoptions : load options with
    | error e =>
      rw [create_of_failed hload hoptions]
      refine ⟨rfl, h.drivers, h.stores, fun id' => ?_, ?_⟩
      · rw [error?_setError, h.errors]
        simp only [History.error?, Event.error?]
        split <;> rfl
      · exact h.opened.trans (List.append_nil _).symm
    | ok fresh =>
      rw [create_of_opened hload hoptions, ← h.opened]
      refine ⟨rfl, fun name => ?_, fun id' => ?_, fun id' => ?_, ?_⟩
      · rw [drivers_opening]
        exact h.drivers name
      · rw [get?_opening, h.stores]
        simp only [History.store?, Event.store?]
        split <;> rfl
      · rw [error?_opening, h.errors]
        simp only [History.error?, Event.error?]
        split <;> rfl
      · rw [opened_opening, h.opened]
        rfl

theorem remove (h : Follows events r) (id : String) :
    (r.obey (.remove id)).1 = ((Command.remove id).event events).result ∧
      Follows ((Command.remove id).event events :: events) (r.obey (.remove id)).2 := by
  simp only [obey, Command.event]
  cases hstore : events.store? id with
  | none =>
    rw [remove_of_none ((h.stores id).trans hstore)]
    exact ⟨rfl, h.of_silent (fun _ => rfl) (fun _ => rfl) (fun _ => rfl) rfl⟩
  | some old =>
    rw [remove_of_some ((h.stores id).trans hstore)]
    refine ⟨rfl, h.drivers, fun id' => ?_, fun id' => ?_, ?_⟩
    · show (r.withdraw id).get? id' = _
      rw [get?_withdraw, h.stores]
      simp only [History.store?, Event.store?]
      split <;> rfl
    · rw [error?_clearError]
      simp only [History.error?, Event.error?]
      split
      · rfl
      · exact h.errors id'
    · exact h.opened.trans (List.append_nil _).symm

/-- **One command**: what is given back is what the event says, and the tables follow. -/
theorem obey (h : Follows events r) (c : Command ι) :
    (r.obey c).1 = (c.event events).result ∧
      Follows (c.event events :: events) (r.obey c).2 := by
  cases c with
  | register name driver =>
    refine ⟨rfl, fun name' => ?_, h.stores, h.errors, h.opened.trans (List.append_nil _).symm⟩
    show (r.drivers.insert name driver).get? name' = _
    rw [SortedMap.get?_insert, h.drivers]
    simp only [Command.event, History.driver?, Event.driver?]
    split <;> rfl
  | create id driver options => exact h.create id driver options
  | remove id => exact h.remove id
  | setError id text =>
    refine ⟨rfl, h.drivers, h.stores, fun id' => ?_, h.opened.trans (List.append_nil _).symm⟩
    show (r.setError id text).error? id' = _
    rw [error?_setError, h.errors]
    simp only [Command.event, History.error?, Event.error?]
    split <;> rfl
  | clearError id =>
    refine ⟨rfl, h.drivers, h.stores, fun id' => ?_, h.opened.trans (List.append_nil _).symm⟩
    show (r.clearError id).error? id' = _
    rw [error?_clearError, h.errors]
    simp only [Command.event, History.error?, Event.error?]
    split <;> rfl

end Follows

theorem follows_after (commands : List (Command ι)) :
    Follows (history commands) (after commands) := by
  induction commands using List.reverseRecOn with
  | nil => exact ⟨fun _ => rfl, fun _ => rfl, fun _ => rfl, rfl⟩
  | append_singleton commands c ih =>
    rw [history_concat, after_concat]
    exact (ih.obey c).2

theorem Follows.obey_of_isRefusal {events : History ι} {r : Registry ι} (h : Follows events r)
    {c : Command ι} (hc : (c.event events).IsRefusal) : (r.obey c).2 = r := by
  cases c with
  | register name driver => exact hc.elim
  | create id driver options =>
    simp only [Command.event] at hc
    cases hdriver : events.driver? driver with
    | none =>
      simp only [Registry.obey]
      rw [create_of_unknown ((h.drivers driver).trans hdriver)]
    | some load =>
      simp only [hdriver] at hc
      split at hc <;> exact hc.elim
  | remove id =>
    simp only [Command.event] at hc
    cases hstore : events.store? id with
    | none =>
      simp only [Registry.obey]
      rw [remove_of_none ((h.stores id).trans hstore)]
    | some old =>
      simp only [hstore] at hc
      exact hc.elim
  | setError id text => exact hc.elim
  | clearError id => exact hc.elim

end Registry

/-! ## Commands for other ids -/

/-- The command is for the id; registering a driver is for all of them. -/
def Command.Concerns (id : String) : Command ι → Bool
  | register .. => true
  | create id' .. | remove id' | setError id' _ | clearError id' => id = id'

namespace Registry

/-- The instance under an id. -/
def instanceAt? (r : Registry ι) (id : String) : Option ι := (r.get? id).bind r.instance?

section instanceAt

omit [Pinged ι]

variable {r : Registry ι} (hr : r.Sound) (id id' : String)

theorem instanceAt?_of_some {h : Handle} (hr : r.Sound) (hstore : r.get? id = some h) :
    ∃ i, r.instanceAt? id = some i :=
  ⟨r.opened.get ⟨h, hr id h hstore⟩, by simp [instanceAt?, hstore, instance?, hr id h hstore]⟩

theorem instanceAt?_of_none (hstore : r.get? id = none) : r.instanceAt? id = none := by
  rw [instanceAt?, hstore]
  rfl

include hr in
theorem instanceAt?_opening (ready : Except StoreError Unit) (fresh : ι) :
    (r.opening id ready fresh).instanceAt? id' =
      if id' = id then some fresh else r.instanceAt? id' := by
  rw [instanceAt?, get?_opening]
  split
  · show (r.opening id ready fresh).opened[r.opened.length]? = some fresh
    rw [opened_opening, List.getElem?_concat_length]
  · cases hstore : r.get? id' with
    | none => rw [instanceAt?_of_none id' hstore, Option.bind_none]
    | some h =>
      rw [instanceAt?, hstore, Option.bind_some, Option.bind_some, instance?, instance?,
        opened_opening, List.getElem?_append_left (hr id' h hstore)]

theorem instanceAt?_withdraw :
    (r.withdraw id).instanceAt? id' = if id' = id then none else r.instanceAt? id' := by
  simp only [instanceAt?, get?_withdraw]
  split <;> rfl

end instanceAt

/-- Under the id the two registries show the same, be it by other handles. -/
structure AlikeAt (id : String) (r r' : Registry ι) : Prop where
  drivers : r.drivers = r'.drivers
  store : r.instanceAt? id = r'.instanceAt? id
  error : r.error? id = r'.error? id
  sound : r.Sound
  sound' : r'.Sound

namespace AlikeAt

variable {id : String} {r r' : Registry ι}

theorem create (h : AlikeAt id r r') (driver : String) (options : Json) :
    ((r.create id driver options).1.map fun _ => ()) =
        ((r'.create id driver options).1.map fun _ => ()) ∧
      (r.create id driver options).2.drivers = (r'.create id driver options).2.drivers ∧
      (r.create id driver options).2.instanceAt? id =
        (r'.create id driver options).2.instanceAt? id ∧
      (r.create id driver options).2.error? id = (r'.create id driver options).2.error? id := by
  have hdrivers : r'.drivers.get? driver = r.drivers.get? driver := by rw [h.drivers]
  cases hdriver : r.drivers.get? driver with
  | none =>
    rw [create_of_unknown hdriver, create_of_unknown (hdrivers.trans hdriver)]
    exact ⟨rfl, h.drivers, h.store, h.error⟩
  | some load =>
    cases hload : load options with
    | error e =>
      rw [create_of_failed hdriver hload, create_of_failed (hdrivers.trans hdriver) hload]
      refine ⟨rfl, h.drivers, h.store, ?_⟩
      rw [error?_setError, error?_setError, if_pos rfl, if_pos rfl]
    | ok fresh =>
      rw [create_of_opened hdriver hload, create_of_opened (hdrivers.trans hdriver) hload]
      refine ⟨rfl, ?_, ?_, ?_⟩
      · simpa only [drivers_opening] using h.drivers
      · rw [instanceAt?_opening h.sound, instanceAt?_opening h.sound', if_pos rfl, if_pos rfl]
      · rw [error?_opening, error?_opening, if_pos rfl, if_pos rfl]

omit [Pinged ι] in
theorem remove (h : AlikeAt id r r') :
    ((r.remove id).1.map fun _ => ()) = ((r'.remove id).1.map fun _ => ()) ∧
      (r.remove id).2.drivers = (r'.remove id).2.drivers ∧
      (r.remove id).2.instanceAt? id = (r'.remove id).2.instanceAt? id ∧
      (r.remove id).2.error? id = (r'.remove id).2.error? id := by
  have hstore := h.store
  cases hget : r.get? id with
  | none =>
    cases hget' : r'.get? id with
    | none =>
      rw [remove_of_none hget, remove_of_none hget']
      exact ⟨rfl, h.drivers, h.store, h.error⟩
    | some old' =>
      obtain ⟨i, hi⟩ := instanceAt?_of_some id h.sound' hget'
      rw [instanceAt?_of_none id hget, hi] at hstore
      cases hstore
  | some old =>
    cases hget' : r'.get? id with
    | none =>
      obtain ⟨i, hi⟩ := instanceAt?_of_some id h.sound hget
      rw [instanceAt?_of_none id hget', hi] at hstore
      cases hstore
    | some old' =>
      rw [remove_of_some hget, remove_of_some hget']
      refine ⟨rfl, h.drivers, ?_, ?_⟩
      · show (r.withdraw id).instanceAt? id = (r'.withdraw id).instanceAt? id
        rw [instanceAt?_withdraw, instanceAt?_withdraw, if_pos rfl, if_pos rfl]
      · rw [error?_clearError, error?_clearError, if_pos rfl, if_pos rfl]

theorem obey (h : AlikeAt id r r') {c : Command ι} (hc : c.Concerns id = true) :
    ((r.obey c).1.map fun _ => ()) = ((r'.obey c).1.map fun _ => ()) ∧
      AlikeAt id (r.obey c).2 (r'.obey c).2 := by
  have hsound := h.sound.obey c
  have hsound' := h.sound'.obey c
  have hforget : ∀ x : Except RegistryError Handle,
      ((x.map some).map fun _ => ()) = x.map fun _ => () := by rintro (_ | _) <;> rfl
  cases c with
  | register name driver =>
    refine ⟨rfl, ?_, h.store, h.error, hsound, hsound'⟩
    exact congrArg (·.insert name driver) h.drivers
  | create id' driver options =>
    obtain rfl : id = id' := of_decide_eq_true hc
    obtain ⟨hresult, hdrivers, hstore, herror⟩ := h.create driver options
    refine ⟨?_, hdrivers, hstore, herror, hsound, hsound'⟩
    exact (hforget _).trans (hresult.trans (hforget _).symm)
  | remove id' =>
    obtain rfl : id = id' := of_decide_eq_true hc
    obtain ⟨hresult, hdrivers, hstore, herror⟩ := h.remove
    refine ⟨?_, hdrivers, hstore, herror, hsound, hsound'⟩
    exact (hforget _).trans (hresult.trans (hforget _).symm)
  | setError id' text =>
    obtain rfl : id = id' := of_decide_eq_true hc
    refine ⟨rfl, h.drivers, h.store, ?_, hsound, hsound'⟩
    show (r.setError id text).error? id = (r'.setError id text).error? id
    rw [error?_setError, error?_setError, if_pos rfl, if_pos rfl]
  | clearError id' =>
    obtain rfl : id = id' := of_decide_eq_true hc
    refine ⟨rfl, h.drivers, h.store, ?_, hsound, hsound'⟩
    show (r.clearError id).error? id = (r'.clearError id).error? id
    rw [error?_clearError, error?_clearError, if_pos rfl, if_pos rfl]

theorem obey_left (h : AlikeAt id r r') {c : Command ι} (hc : c.Concerns id = false) :
    AlikeAt id (r.obey c).2 r' := by
  have hsound := h.sound.obey c
  cases c with
  | register name driver => cases hc
  | create id' driver options =>
    have hne : id ≠ id' := of_decide_eq_false hc
    simp only [Registry.obey] at hsound ⊢
    cases hdriver : r.drivers.get? driver with
    | none => rwa [create_of_unknown hdriver]
    | some load =>
      cases hload : load options with
      | error e =>
        rw [create_of_failed hdriver hload] at hsound ⊢
        refine ⟨h.drivers, h.store, ?_, hsound, h.sound'⟩
        exact (error?_setError ..).trans ((if_neg hne).trans h.error)
      | ok fresh =>
        rw [create_of_opened hdriver hload] at hsound ⊢
        refine ⟨(drivers_opening ..).trans h.drivers, ?_, ?_, hsound, h.sound'⟩
        · rw [instanceAt?_opening h.sound, if_neg hne, h.store]
        · rw [error?_opening, if_neg hne, h.error]
  | remove id' =>
    have hne : id ≠ id' := of_decide_eq_false hc
    simp only [Registry.obey] at hsound ⊢
    cases hget : r.get? id' with
    | none => rwa [remove_of_none hget]
    | some old =>
      rw [remove_of_some hget] at hsound ⊢
      refine ⟨h.drivers, ?_, ?_, hsound, h.sound'⟩
      · exact instanceAt?_withdraw .. |>.trans ((if_neg hne).trans h.store)
      · exact (error?_clearError ..).trans ((if_neg hne).trans h.error)
  | setError id' text =>
    have hne : id ≠ id' := of_decide_eq_false hc
    refine ⟨h.drivers, h.store, ?_, hsound, h.sound'⟩
    exact (error?_setError ..).trans ((if_neg hne).trans h.error)
  | clearError id' =>
    have hne : id ≠ id' := of_decide_eq_false hc
    refine ⟨h.drivers, h.store, ?_, hsound, h.sound'⟩
    exact (error?_clearError ..).trans ((if_neg hne).trans h.error)

end AlikeAt

theorem alikeAt_filter (id : String) (commands : List (Command ι)) :
    AlikeAt id (after commands) (after (commands.filter (Command.Concerns id))) := by
  induction commands using List.reverseRecOn with
  | nil => exact ⟨rfl, rfl, rfl, sound_after [], sound_after []⟩
  | append_singleton commands c ih =>
    rw [List.filter_append, after_concat]
    cases hc : c.Concerns id with
    | true =>
      rw [List.filter_cons_of_pos hc, List.filter_nil, after_concat]
      exact (ih.obey hc).2
    | false =>
      rw [List.filter_cons_of_neg (by simp [hc]), List.filter_nil, List.append_nil]
      exact ih.obey_left hc

/-! ## Every sequence of commands -/

/-- What the commands lead to, told by their history alone. -/
structure Told (commands : List (Command ι)) : Prop where
  /-- A command gives back what comes of it behind the history. -/
  results : ∀ c, ((after commands).obey c).1 = (c.event (history commands)).result
  /-- If it is refused it changes nothing. -/
  refusals : ∀ c, (c.event (history commands)).IsRefusal →
    ((after commands).obey c).2 = after commands
  /-- A name means the driver that was last registered under it. -/
  drivers : ∀ name, (after commands).drivers.get? name = (history commands).driver? name
  driverNames : (after commands).driverNames.Pairwise (fun x y => Text.bytes x < Text.bytes y) ∧
    ∀ name, name ∈ (after commands).driverNames ↔ (history commands).driver? name ≠ none
  /-- An id has the store that was last opened under it, if that was not removed since. -/
  stores : ∀ id, (after commands).get? id = (history commands).store? id
  ids : (after commands).ids.Pairwise (fun x y => Text.bytes x < Text.bytes y) ∧
    ∀ id, id ∈ (after commands).ids ↔ (history commands).store? id ≠ none
  /-- An error is what the latest event with a say in it left. -/
  errors : ∀ id, (after commands).error? id = (history commands).error? id
  /-- A handle leads to the instance that came to be with it. -/
  instances : ∀ h, (after commands).instance? h = (history commands).instances[h]?
  /-- Commands for other ids play no part. -/
  others : ∀ id, ∃ own, own = after (commands.filter (Command.Concerns id)) ∧
    (after commands).instanceAt? id = own.instanceAt? id ∧
    (after commands).error? id = own.error? id ∧
    ∀ c, c.Concerns id = true →
      (((after commands).obey c).1.map fun _ => ()) = ((own.obey c).1.map fun _ => ())

/-- **The tables of a registry are a function of its history.** -/
theorem tables_of_history (commands : List (Command ι)) : Told commands := by
  have hfollows := follows_after commands
  exact {
    results := fun c => (hfollows.obey c).1
    refusals := fun c hc => hfollows.obey_of_isRefusal hc
    drivers := hfollows.drivers
    driverNames := by
      refine ⟨(SortedMap.pairwise_keys _).imp Text.bytes_lt, fun name => ?_⟩
      rw [driverNames, SortedMap.mem_keys, hfollows.drivers, ← Option.ne_none_iff_exists']
    stores := hfollows.stores
    ids := by
      refine ⟨(SortedMap.pairwise_keys _).imp Text.bytes_lt, fun id => ?_⟩
      rw [← hfollows.stores, Option.ne_none_iff_exists']
      exact SortedMap.mem_keys
    errors := hfollows.errors
    instances := fun h => by rw [instance?, hfollows.opened]
    others := by
      intro id
      have halike := alikeAt_filter id commands
      exact ⟨_, rfl, halike.store, halike.error, fun c hc => (halike.obey hc).1⟩ }

end Registry

end pinged

end BlobStore
