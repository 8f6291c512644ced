import Mathlib
import BlobStore.Drivers
import BlobStore.Proofs.Registry.History

/-!
# Whose error it is

As long as nobody sets or clears errors by hand, the error under an id with a store is what was
found wrong with this very store when it was opened, until opening another one in its place fails:
then it is why that failed, and the store stays (`error?_of_registered`).
-/

namespace BlobStore

variable {ι : Type}

/-- The command is not about errors as such. -/
def Command.IsOrdinary : Command ι → Prop
  | register .. | create .. | remove .. => True
  | setError .. | clearError .. => False

namespace Event

def IsOrdinary : Event ι → Prop
  | errorSet .. | errorCleared .. => False
  | _ => True

/-- Why no store could be opened under the id. -/
def failure? (id : String) : Event ι → Option String
  | failed id' e => if id = id' then some e.message else none
  | _ => none

theorem error?_of_store?_eq_none {id : String} {e : Event ι} (he : e.IsOrdinary)
    (h : e.store? id = none) : e.error? id = (e.failure? id).map some := by
  cases e with
  | failed id' e =>
    rw [error?, failure?]
    split <;> rfl
  | opened id' h' ready fresh =>
    rw [store?] at h
    split at h
    · cases h
    · next hne => rw [error?, if_neg hne]; rfl
  | removed id' h' =>
    rw [store?] at h
    split at h
    · cases h
    · next hne => rw [error?, if_neg hne]; rfl
  | errorSet id' text => exact he.elim
  | errorCleared id' => exact he.elim
  | registered name driver => rfl
  | refused id' driver => rfl
  | missing id' => rfl

theorem eq_opened_of_store? {id : String} {e : Event ι} {h : Handle}
    (hstore : e.store? id = some (some h)) : ∃ ready fresh, e = .opened id h ready fresh := by
  cases e with
  | opened id' h' ready fresh =>
    rw [store?] at hstore
    split at hstore
    · next hid =>
      obtain rfl := Option.some.inj (Option.some.inj hstore)
      exact ⟨ready, fresh, by rw [hid]⟩
    · cases hstore
  | removed id' h' =>
    rw [store?] at hstore
    split at hstore
    · cases hstore
    · cases hstore
  | _ => cases hstore

end Event

namespace History

/-- Why opening a store under the id failed last. -/
def failure? (id : String) : History ι → Option String
  | [] => none
  | e :: before => (e.failure? id).or (failure? id before)

/-- **The error of a store** by the history: what came since it was opened, the latest first, is
split off, and only a failure since then takes the place of what was found of it. -/
theorem exists_opened {id : String} {h : Handle} {events : History ι}
    (hordinary : ∀ e ∈ events, e.IsOrdinary) (hstore : events.store? id = some h) :
    ∃ since before ready fresh, events = since ++ .opened id h ready fresh :: before ∧
      (∀ e ∈ since, e.store? id = none) ∧
      events.error? id = (failure? id since).or (complaint ready) := by
  induction events with
  | nil => cases hstore
  | cons e events ih =>
    obtain ⟨he, hrest⟩ := List.forall_mem_cons.mp hordinary
    rw [store?] at hstore
    cases hevent : e.store? id with
    | none =>
      rw [hevent] at hstore
      obtain ⟨since, before, ready, fresh, rfl, hsince, herror⟩ := ih hrest hstore
      refine ⟨e :: since, before, ready, fresh, rfl, List.forall_mem_cons.mpr ⟨hevent, hsince⟩, ?_⟩
      rw [error?, failure?, herror, Event.error?_of_store?_eq_none he hevent]
      cases e.failure? id <;> rfl
    | some store =>
      rw [hevent] at hstore
      obtain rfl : store = some h := hstore
      obtain ⟨ready, fresh, rfl⟩ := Event.eq_opened_of_store? hevent
      refine ⟨[], events, ready, fresh, rfl, List.forall_mem_nil _, ?_⟩
      rw [error?, Event.error?, if_pos rfl]
      rfl

end History

namespace Registry

variable [Pinged ι]

theorem isOrdinary_event {c : Command ι} (hc : c.IsOrdinary) (before : History ι) :
    (c.event before).IsOrdinary := by
  cases c with
  | register name driver => trivial
  | create id driver options =>
    rw [Command.event]
    split
    · trivial
    · split <;> trivial
  | remove id =>
    rw [Command.event]
    split <;> trivial
  | setError id text => exact hc.elim
  | clearError id => exact hc.elim

theorem isOrdinary_history {commands : List (Command ι)} (h : ∀ c ∈ commands, c.IsOrdinary) :
    ∀ e ∈ history commands, e.IsOrdinary := by
  induction commands using List.reverseRecOn with
  | nil => exact List.forall_mem_nil _
  | append_singleton commands c ih =>
    rw [history_concat]
    refine List.forall_mem_cons.mpr ⟨isOrdinary_event (h c (by simp)) _, ?_⟩
    exact ih fun c' hc' => h c' (List.mem_append_left _ hc')

/-- **The error under an id is that of the store there**, unless opening another one in its place
has failed since: then it is why that failed last. -/
theorem error?_of_registered (commands : List (Command ι))
    (hcommands : ∀ c ∈ commands, c.IsOrdinary) {id : String} {h : Handle} (hstore : (after commands).get? id = some h) :
    ∃ since before ready fresh, history commands = since ++ .opened id h ready fresh :: before ∧
      (∀ e ∈ since, e.store? id = none) ∧
      (after commands).error? id = (History.failure? id since).or (complaint ready) := by
  have hfollows := follows_after commands
  rw [hfollows.stores] at hstore
  rw [hfollows.errors]
  exact History.exists_opened (isOrdinary_history hcommands) hstore

/-- A driver whose stores are never ready. -/
def unreadyDriver : Driver OpenStore := fun _ =>
  .ok ⟨.new "" "", .memory ((Bucket.new "logs").setUnreachable true)⟩

/-- A store that is not ready takes the place of one that is, and has its own error until another one
cannot be opened there. -/
theorem error?_of_registered_unready :
    let opened : List (Command OpenStore) :=
      [.register "memory" Drivers.memory, .register "down" unreadyDriver,
        .create "ci" "memory" (.obj []), .create "ci" "down" .null]
    let commands := opened ++ [.create "ci" "memory" (.obj [("bucket", .int 1)])]
    (∀ c ∈ commands, c.IsOrdinary) ∧ (after opened).get? "ci" = some 1 ∧
      (after opened).error? "ci" = some "bucket logs is not reachable: bucket unreachable" ∧
      (after commands).get? "ci" = some 1 ∧
      (∃ since before ready fresh,
        history commands = since ++ .opened "ci" 1 ready fresh :: before ∧
        (after commands).error? "ci" = (History.failure? "ci" since).or (complaint ready)) ∧
      (after commands).error? "ci" =
        some "配置解析失败: invalid type: integer `1`, expected a string" := by
  intro opened commands
  have hcommands : ∀ c ∈ commands, c.IsOrdinary := by
    simp only [commands, opened, List.cons_append, List.nil_append, List.forall_mem_cons]
    exact ⟨trivial, trivial, trivial, trivial, trivial, List.forall_mem_nil _⟩
  have hstore : (after commands).get? "ci" = some 1 := rfl
  obtain ⟨since, before, ready, fresh, hhistory, -, herror⟩ :=
    error?_of_registered commands hcommands hstore
  exact ⟨hcommands, rfl, rfl, hstore, ⟨since, before, ready, fresh, hhistory, herror⟩, rfl⟩

/-- A store that was ready stays under its id when another one cannot be opened there, and has its
error. -/
theorem failure_marks_ready_store :
    let commands : List (Command OpenStore) :=
      [.register "memory" Drivers.memory, .create "ci" "memory" (.obj []),
        .create "ci" "memory" (.obj [("bucket", .int 1)])]
    (∀ c ∈ commands, c.IsOrdinary) ∧ (after commands).get? "ci" = some 0 ∧
      (∃ since before fresh, history commands = since ++ .opened "ci" 0 (.ok ()) fresh :: before) ∧
      (after commands).error? "ci" =
        some "配置解析失败: invalid type: integer `1`, expected a string" := by
  refine ⟨?_, rfl, ⟨[_], [_], _, rfl⟩, rfl⟩
  simp only [List.forall_mem_cons]
  exact ⟨trivial, trivial, trivial, List.forall_mem_nil _⟩

end Registry

end BlobStore
