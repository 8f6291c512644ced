import Mathlib
import BlobStore.Proofs.Registry.Errors
import BlobStore.Proofs.Registry.Sections

/-!
# Errors when calls race

A call changes the store under an id in one section and its error in another, and a second call can
get in between. If what the calls on an id find of their stores differs, some order of the sections
leaves the error of one store to another one, or to none; if it does not, or if the calls on an id
do not get in between each other's two sections, all is as it should be
(`errors_follow_stores_iff`).
-/

namespace BlobStore

namespace Busy

variable {ι κ : Type}

/-- What is under an id was opened there by one of the calls, and the error is what was found of
this very store; where there is no store there is no error. -/
structure TruthfulAt [Pinged ι] (drivers : SortedMap String (Driver ι)) (calls : κ → RegistryCall)
    (w : Busy κ ι) (id : String) : Prop where
  given : ∀ h, w.registry.get? id = some h → ∃ i, w.Gave calls i id h
  error : ∀ i h, w.Gave calls i id h → w.registry.get? id = some h →
    w.registry.error? id = (calls i).verdict drivers
  vacant : w.registry.get? id = none → w.registry.error? id = none

/-- No call is between its two sections on the id. -/
def Calm (w : Busy κ ι) (id : String) : Prop := ∀ i, ¬ (w.visits i).Owes id

theorem AllReturned.calm {w : Busy κ ι} (h : w.AllReturned) (id : String) : w.Calm id := by
  intro i hi
  obtain ⟨result, hresult⟩ := h i
  rw [hresult] at hi
  exact hi

theorem calm_start (r : Registry ι) (calls : κ → RegistryCall) (id : String) :
    (start r calls).Calm id := by
  intro i hi
  cases hcall : calls i <;> simp [start, hcall, RegistryCall.visit, Visit.Owes] at hi

theorem not_gave_start {r : Registry ι} {calls : κ → RegistryCall} {i : κ} {id : String}
    {h : Handle} : ¬ (start r calls).Gave calls i id h := by
  rintro ⟨⟨driver, options, hcall⟩, hreturned⟩
  simp [start, hcall, RegistryCall.visit] at hreturned

variable [Pinged ι] {drivers : SortedMap String (Driver ι)}
  {calls : κ → RegistryCall} {w : Busy κ ι} {id : String}

theorem Proper.exists_gave (h : w.Proper drivers calls) (hreturned : w.AllReturned) {x : Handle}
    (hstore : w.registry.get? id = some x) : ∃ i, w.Gave calls i id x := by
  obtain ⟨i, hid, hown⟩ := h.under id x hstore
  obtain ⟨result, hresult⟩ := hreturned i
  rw [hresult] at hown
  refine ⟨i, ?_⟩
  cases hcall : calls i with
  | create id' driver options =>
    rw [hcall] at hid hown
    cases result with
    | error e => cases hown
    | ok y =>
      cases hown
      exact ⟨⟨driver, options, hid ▸ hcall⟩, hresult⟩
  | remove id' =>
    rw [hcall] at hown
    cases hown

variable [DecidableEq κ] {i : κ}

theorem Calm.turn (h : w.Calm id) (hafter : ¬ ((w.turn i).visits i).Owes id) :
    (w.turn i).Calm id := by
  intro j
  by_cases hj : j = i
  · rwa [hj]
  · rw [visits_turn_of_ne _ hj]
    exact h j

theorem Calm.of_turn (h : (w.turn i).Calm id) (hbefore : ¬ (w.visits i).Owes id) : w.Calm id := by
  intro j
  by_cases hj : j = i
  · rwa [hj]
  · have hcalm := h j
    rwa [visits_turn_of_ne _ hj] at hcalm

theorem visits_turn_cases {j : κ} {v : Visit ι} (h : (w.turn i).visits j = v) :
    w.visits j = v ∨ (j = i ∧ (w.turn i).visits i = v) := by
  by_cases hj : j = i
  · subst hj
    exact .inr ⟨rfl, h⟩
  · rw [visits_turn_of_ne _ hj] at h
    exact .inl h

theorem visits_of_turn {j : κ} {v : Visit ι} (h : (w.turn i).visits j = v)
    (hne : (w.turn i).visits i ≠ v) : w.visits j = v :=
  (visits_turn_cases h).resolve_right fun ⟨_, hnow⟩ => hne hnow

theorem gave_turn_cases {j : κ} {h : Handle} (hgave : (w.turn i).Gave calls j id h) :
    w.Gave calls j id h ∨
      (j = i ∧ (w.turn i).visits i = .returned (.ok h) ∧ (calls i).id = id) := by
  obtain ⟨⟨driver, options, hcall⟩, hreturned⟩ := hgave
  obtain hreturned | ⟨rfl, hnow⟩ := visits_turn_cases hreturned
  · exact .inl ⟨⟨driver, options, hcall⟩, hreturned⟩
  · exact .inr ⟨rfl, hnow, by rw [hcall]; rfl⟩

/-! ## Calls that find the same -/

/-- The error under an id is none or the one that all calls find there. -/
structure Agreed (calls : κ → RegistryCall) (id : String) (m : Option String) (w : Busy κ ι) :
    Prop where
  given : ∀ i h, w.Gave calls i id h → w.registry.error? id = m
  error : w.registry.error? id = none ∨ w.registry.error? id = m
  vacant : w.registry.get? id = none → m = none ∨ (w.registry.error? id = none ∧ w.Calm id)

variable {m : Option String}

theorem Agreed.turn (h : w.Agreed calls id m) (hproper : w.Proper drivers calls)
    (hagree : ∀ i, (calls i).id = id → (calls i).verdict drivers = m) (i : κ) :
    (w.turn i).Agreed calls id m := by
  cases hproper.section_turn i id with
  | still store error before after given =>
    refine ⟨fun j x hgave => ?_, ?_, fun hvacant => ?_⟩
    · rw [error]
      obtain hgave | ⟨rfl, hnow, hid⟩ := gave_turn_cases hgave
      · exact h.given j x hgave
      · obtain ⟨hcall, -⟩ := hgave
        exact h.given j x ⟨hcall, given x hid hnow⟩
    · rw [error]
      exact h.error
    · rw [store] at hvacant
      rw [error]
      exact (h.vacant hvacant).imp_right fun ⟨herror, hcalm⟩ => ⟨herror, hcalm.turn after⟩
  | place driver options x ready call before after store error =>
    refine ⟨fun j y hgave => ?_, ?_, fun hvacant => ?_⟩
    · rw [error]
      obtain hgave | ⟨-, hnow, -⟩ := gave_turn_cases hgave
      · exact h.given j y hgave
      · rw [after] at hnow
        cases hnow
    · rw [error]
      exact h.error
    · rw [store] at hvacant
      cases hvacant
  | judge driver options x ready call before after store error =>
    have hm : (w.turn i).registry.error? id = m := error.trans (hagree i (by rw [call]; rfl))
    refine ⟨fun _ _ _ => hm, .inr hm, fun hvacant => .inl ?_⟩
    rw [store] at hvacant
    obtain hm | ⟨-, hcalm⟩ := h.vacant hvacant
    · exact hm
    · refine absurd ?_ (hcalm i)
      rw [before]
      rfl
  | withdraw x call before after store error =>
    have hm : m = none := (hagree i (by rw [call]; rfl)).symm.trans (by rw [call]; rfl)
    have hnone : (w.turn i).registry.error? id = none := by
      rw [error]
      exact h.error.elim (fun h => h) (fun h => h.trans hm)
    exact ⟨fun _ _ _ => hnone.trans hm.symm, .inl hnone, fun _ => .inl hm⟩
  | clear x call before after store error =>
    have hm : m = none := (hagree i (by rw [call]; rfl)).symm.trans (by rw [call]; rfl)
    exact ⟨fun _ _ _ => error.trans hm.symm, .inl error, fun _ => .inl hm⟩

theorem agreed_run {r : Registry ι} (hstores : ∀ id, r.get? id = none)
    (herrors : ∀ id, r.error? id = none) (hopens : ∀ i, (calls i).Opens r.drivers)
    (hagree : ∀ i, (calls i).id = id → (calls i).verdict r.drivers = m) (turns : List κ) :
    ((start r calls).run turns).Agreed calls id m := by
  induction turns using List.reverseRecOn with
  | nil =>
    exact ⟨fun i h hgave => absurd hgave not_gave_start, .inl (herrors id),
      fun _ => .inr ⟨herrors id, calm_start r calls id⟩⟩
  | append_singleton turns i ih =>
    rw [run_concat]
    exact ih.turn (proper_run hstores hopens turns) hagree i

/-! ## Calls that do not get in between -/

/-- While no call is between its two sections on an id, the error there is the one of the store. -/
structure Orderly (drivers : SortedMap String (Driver ι)) (calls : κ → RegistryCall) (id : String)
    (w : Busy κ ι) : Prop where
  judging : ∀ i h ready, w.visits i = .judging id h ready → w.registry.get? id = some h
  clearing : ∀ i h, w.visits i = .clearing id h → w.registry.get? id = none
  error : w.Calm id → ∀ i h, w.Gave calls i id h → w.registry.get? id = some h →
    w.registry.error? id = (calls i).verdict drivers
  vacant : w.Calm id → w.registry.get? id = none → w.registry.error? id = none

/-- At most one call is between its two sections on an id. -/
def Single (w : Busy κ ι) (id : String) : Prop :=
  ∀ i j, (w.visits i).Owes id → (w.visits j).Owes id → i = j

theorem Orderly.turn (h : w.Orderly drivers calls id) (hproper : w.Proper drivers calls)
    (hopens : ∀ i, (calls i).Opens drivers) (hsingle : (w.turn i).Single id) :
    (w.turn i).Orderly drivers calls id := by
  -- A call that is between its sections after the turn is the one whose turn it was, if that is.
  have hmine : ∀ j v, (w.turn i).visits j = v → v.Owes id → ((w.turn i).visits i).Owes id →
      (w.turn i).visits i = v := by
    intro j v hv howes hi
    obtain rfl := hsingle i j hi (hv ▸ howes)
    exact hv
  cases hproper.section_turn i id with
  | still store error before after given =>
    refine ⟨fun j x ready hnow => ?_, fun j x hnow => ?_, fun hcalm j x hgave => ?_,
      fun hcalm => ?_⟩
    · rw [store]
      exact h.judging j x ready (visits_of_turn hnow fun hi => after (hi ▸ rfl))
    · rw [store]
      exact h.clearing j x (visits_of_turn hnow fun hi => after (hi ▸ rfl))
    · rw [store, error]
      obtain hgave | ⟨rfl, hnow, hid⟩ := gave_turn_cases hgave
      · exact h.error (hcalm.of_turn before) j x hgave
      · exact h.error (hcalm.of_turn before) j x ⟨hgave.1, given x hid hnow⟩
    · rw [store, error]
      exact h.vacant (hcalm.of_turn before)
  | place driver options x ready call before after store error =>
    have howes : ((w.turn i).visits i).Owes id := by rw [after]; rfl
    refine ⟨fun j y ready' hnow => ?_, fun j y hnow => ?_, fun hcalm => ?_, fun hcalm => ?_⟩
    · have hsame := hmine j _ hnow rfl howes
      rw [after] at hsame
      cases hsame
      exact store
    · have hsame := hmine j _ hnow rfl howes
      rw [after] at hsame
      cases hsame
    · exact absurd howes (hcalm i)
    · exact absurd howes (hcalm i)
  | judge driver options x ready call before after store error =>
    have hx := h.judging i x ready before
    refine ⟨fun j y ready' hnow => ?_, fun j y hnow => ?_, fun _ j y hgave hy => ?_, fun _ hy => ?_⟩
    · rw [store]
      exact h.judging j y ready' (visits_of_turn hnow (by simp [after]))
    · rw [store]
      exact h.clearing j y (visits_of_turn hnow (by simp [after]))
    · rw [store, hx] at hy
      obtain rfl := Option.some.inj hy
      have hown : (calls i).own? ((w.turn i).visits i) = some x := by rw [call, after]; rfl
      rw [(hproper.turn hopens i).apart j i x hgave.own? hown]
      exact error
    · rw [store, hx] at hy
      cases hy
  | withdraw x call before after store error =>
    have howes : ((w.turn i).visits i).Owes id := by rw [after]; rfl
    refine ⟨fun j y ready' hnow => ?_, fun _ _ _ => store, fun hcalm => ?_, fun hcalm => ?_⟩
    · have hsame := hmine j _ hnow rfl howes
      rw [after] at hsame
      cases hsame
    · exact absurd howes (hcalm i)
    · exact absurd howes (hcalm i)
  | clear x call before after store error =>
    have hx := h.clearing i x before
    refine ⟨fun j y ready' hnow => ?_, fun _ _ _ => store.trans hx, fun _ j y hgave hy => ?_,
      fun _ _ => error⟩
    · rw [store]
      exact h.judging j y ready' (visits_of_turn hnow (by simp [after]))
    · rw [store, hx] at hy
      cases hy

/-- The calls on an id do not get in between each other's two sections there. -/
def TakeTurns (w : Busy κ ι) (turns : List κ) : Prop :=
  ∀ before, before <+: turns → ∀ id, (w.run before).Single id

theorem TakeTurns.of_prefix {turns turns' : List κ} (h : w.TakeTurns turns)
    (hearlier : turns' <+: turns) : w.TakeTurns turns' :=
  fun before hbefore => h before (hbefore.trans hearlier)

theorem orderly_run {r : Registry ι} (hstores : ∀ id, r.get? id = none)
    (herrors : ∀ id, r.error? id = none) (hopens : ∀ i, (calls i).Opens r.drivers)
    {turns : List κ} (hturns : (start r calls).TakeTurns turns) (id : String) :
    ((start r calls).run turns).Orderly r.drivers calls id := by
  induction turns using List.reverseRecOn with
  | nil =>
    refine ⟨fun i h ready hvisit => ?_, fun _ _ _ => hstores id,
      fun _ i h hgave => absurd hgave not_gave_start, fun _ _ => herrors id⟩
    refine absurd ?_ (calm_start r calls id i)
    rw [show (start r calls).visits i = _ from hvisit]
    rfl
  | append_singleton turns i ih =>
    have hsingle := hturns _ List.prefix_rfl id
    rw [run_concat] at hsingle ⊢
    exact (ih (hturns.of_prefix (List.prefix_append ..))).turn (proper_run hstores hopens turns)
      hopens hsingle

theorem four_le_count {order : List κ} {k : κ} (h : k ∈ order) :
    4 ≤ (order.flatMap (List.replicate 4)).count k :=
  List.replicate_sublist_iff.mp (List.sublist_flatten_of_mem (List.mem_map_of_mem h))

theorem takeTurns_flatMap (r : Registry ι) (calls : κ → RegistryCall) (order : List κ) :
    (start r calls).TakeTurns (order.flatMap (List.replicate 4)) := by
  induction order using List.reverseRecOn with
  | nil =>
    intro before hbefore id i j hi
    rw [List.prefix_nil.mp hbefore] at hi
    exact absurd hi (calm_start r calls id i)
  | append_singleton order i ih =>
    intro before hbefore
    rw [List.flatMap_append, List.flatMap_singleton] at hbefore
    obtain hold | ⟨sections, rfl⟩ :=
      List.prefix_or_prefix_of_prefix hbefore (List.prefix_append ..)
    · exact ih before hold
    · rw [List.prefix_append_right_inj, List.prefix_replicate_iff] at hbefore
      intro id
      -- The calls before this one have returned, and those after it have not begun.
      have hcall : ∀ j, (((start r calls).run
          (order.flatMap (List.replicate 4) ++ sections)).visits j).Owes id → j = i := by
        intro j hj
        by_contra hne
        by_cases hmem : j ∈ order
        · have hcount : 4 ≤ (order.flatMap (List.replicate 4) ++ sections).count j := by
            rw [List.count_append]
            exact (four_le_count hmem).trans (Nat.le_add_right ..)
          obtain ⟨result, hresult⟩ := (start r calls).exists_returned_run hcount
          rw [hresult] at hj
          exact hj
        · rw [visits_run_of_notMem _ (by rw [hbefore.2]; simp [hmem, hne])] at hj
          exact calm_start r calls id j hj
      intro j k hj hk
      rw [hcall j hj, hcall k hk]

/-! ## A race -/

/-- All calls but two, each at once. -/
noncomputable def others [Fintype κ] (i j : κ) : List κ :=
  ((Finset.univ.erase i).erase j).toList.flatMap (List.replicate 4)

theorem notMem_others [Fintype κ] (i j : κ) : i ∉ others i j ∧ j ∉ others i j := by
  simp [others]

/-- The one call but for its last section, the other call, and the last section. -/
def crossed (i j : κ) : List κ := List.replicate 3 i ++ (List.replicate 4 j ++ [i])

theorem allReturned_crossed [Fintype κ] (w : Busy κ ι) (i j : κ) :
    (w.run (others i j ++ crossed i j)).AllReturned := by
  intro k
  apply exists_returned_run
  simp only [crossed, List.count_append, List.count_replicate, List.count_singleton, beq_iff_eq]
  by_cases hki : k = i
  · subst hki
    simp only [if_true]
    omega
  · by_cases hkj : k = j
    · subst hkj
      simp only [if_true]
      omega
    · exact (four_le_count (by simp [hki, hkj])).trans (Nat.le_add_right ..)

theorem run_crossed {j : κ} {q : RegistryCall} {driver : String} {options : Json} {load : Driver ι}
    {fresh : ι} (hij : j ≠ i) (hi : w.visits i = (RegistryCall.create id driver options).visit)
    (hj : w.visits j = q.visit) (hdriver : w.registry.drivers.get? driver = some load)
    (hload : load options = .ok fresh) {placed : Registry ι}
    (hplaced : placed = (w.registry.enroll (Pinged.ping fresh).2).2.place id
      w.registry.opened.length) :
    (w.run (crossed i j)).registry = (q.perform placed).2.judge id (Pinged.ping fresh).1 ∧
      (w.run (crossed i j)).visits j = .returned (q.perform placed).1 := by
  subst hplaced
  have hbefore : w.run (List.replicate 3 i) =
      ⟨Function.update w.visits i (.judging id w.registry.opened.length (Pinged.ping fresh).1),
        (w.registry.enroll (Pinged.ping fresh).2).2.place id w.registry.opened.length⟩ := by
    rw [run_replicate, hi, RegistryCall.advance_create hdriver hload]
  have hvisit : (w.run (List.replicate 3 i)).visits j = q.visit := by
    rw [hbefore]
    exact (Function.update_of_ne hij ..).trans hj
  rw [crossed, run_append, run_concat, run_alone _ hvisit, hbefore]
  constructor
  · simp only [turn, Function.update_of_ne (Ne.symm hij), Function.update_self, Visit.advance]
  · rw [visits_turn_of_ne _ hij]
    exact Function.update_self ..

/-- **A race**: whoever's store is under the id by the time that the first call says what it found
has the error of the first one. -/
theorem exists_race [Fintype κ] {r : Registry ι} (hstores : ∀ id, r.get? id = none)
    (hopens : ∀ i, (calls i).Opens r.drivers) {i j : κ} {driver : String} {options : Json}
    (hi : calls i = .create id driver options) (hj : (calls j).id = id)
    (hne : (calls i).verdict r.drivers ≠ (calls j).verdict r.drivers) :
    ∃ turns, ((start r calls).run turns).AllReturned ∧
      ¬ ((start r calls).run turns).TruthfulAt r.drivers calls id := by
  have hij : j ≠ i := by
    rintro rfl
    exact hne rfl
  obtain ⟨load, fresh, hdriver, hload⟩ := RegistryCall.exists_of_opens (hi ▸ hopens i)
  have hverdict : (calls i).verdict r.drivers = complaint (Pinged.ping fresh).1 := by
    rw [hi, RegistryCall.verdict_create hdriver hload]
  let w := (start r calls).run (others i j)
  have hproper : w.Proper r.drivers calls := proper_run hstores hopens _
  have hi₁ : w.visits i = (calls i).visit := visits_run_of_notMem _ (notMem_others i j).1
  have hj₁ : w.visits j = (calls j).visit := visits_run_of_notMem _ (notMem_others i j).2
  obtain ⟨placed, hplaced⟩ : ∃ placed, placed =
      (w.registry.enroll (Pinged.ping fresh).2).2.place id w.registry.opened.length := ⟨_, rfl⟩
  obtain ⟨hregistry, hgiven⟩ :=
    run_crossed hij (hi ▸ hi₁) hj₁ (hproper.same ▸ hdriver) hload hplaced
  refine ⟨others i j ++ crossed i j, allReturned_crossed _ i j, ?_⟩
  rw [run_append]
  intro htruthful
  have herror : (w.run (crossed i j)).registry.error? id = (calls i).verdict r.drivers := by
    rw [hregistry, Registry.error?_judge, if_pos rfl, hverdict]
  have hstore : (w.run (crossed i j)).registry.get? id =
      ((calls j).perform placed).2.get? id := by
    rw [hregistry, Registry.get?_judge]
  have hdrivers : placed.drivers = r.drivers := by
    rw [hplaced]
    exact hproper.same
  have hthere : placed.get? (calls j).id = some w.registry.opened.length := by simp [hplaced, hj]
  obtain ⟨driver', options', h', hcall, hgave, hleft⟩ | ⟨hnone, hleft⟩ :=
    RegistryCall.perform_cases (hdrivers ▸ hopens j) hthere
  · rw [hj] at hcall hleft
    rw [hgave] at hgiven
    exact hne (herror.symm.trans
      (htruthful.error j h' ⟨⟨driver', options', hcall⟩, hgiven⟩ (hstore.trans hleft)))
  · rw [hj] at hleft
    rw [hdrivers] at hnone
    exact hne (herror.symm.trans ((htruthful.vacant (hstore.trans hleft)).trans hnone.symm))

/-! ## All orders -/

/-- **Errors follow the stores** in every order of the sections exactly when all calls on an id find
the same; otherwise they do if the calls on an id do not get in between each other's two sections
there. -/
theorem errors_follow_stores_iff [Fintype κ] (r : Registry ι) (hstores : ∀ id, r.get? id = none)
    (herrors : ∀ id, r.error? id = none) (calls : κ → RegistryCall)
    (hopens : ∀ i, (calls i).Opens r.drivers) :
    ((∀ turns, ((start r calls).run turns).AllReturned →
        ∀ id, ((start r calls).run turns).TruthfulAt r.drivers calls id) ↔
      ∀ i j, (calls i).id = (calls j).id →
        (calls i).verdict r.drivers = (calls j).verdict r.drivers) ∧
    ∀ turns, (start r calls).TakeTurns turns → ((start r calls).run turns).AllReturned →
      ∀ id, ((start r calls).run turns).TruthfulAt r.drivers calls id := by
  refine ⟨⟨fun h i j hid => ?_, fun hagree turns hreturned id => ?_⟩,
    fun turns hturns hreturned id => ?_⟩
  · by_contra hne
    cases hi : calls i with
    | create id driver options =>
      have hj : (calls j).id = id := by rw [← hid, hi]; rfl
      obtain ⟨turns, hreturned, hfalse⟩ := exists_race hstores hopens hi hj hne
      exact hfalse (h turns hreturned id)
    | remove id =>
      cases hj : calls j with
      | create id' driver options =>
        have hi' : (calls i).id = id' := by rw [hid, hj]; rfl
        obtain ⟨turns, hreturned, hfalse⟩ := exists_race hstores hopens hj hi' (Ne.symm hne)
        exact hfalse (h turns hreturned id')
      | remove id' =>
        rw [hi, hj] at hne
        exact hne rfl
  · have hproper := proper_run hstores hopens turns
    refine ⟨fun x => hproper.exists_gave hreturned, fun i x hgave hstore => ?_, fun hvacant => ?_⟩
    · have hid : (calls i).id = id := by
        obtain ⟨⟨driver, options, hcall⟩, -⟩ := hgave
        rw [hcall]
        rfl
      exact (agreed_run hstores herrors hopens (fun j hj => hagree j i (hj.trans hid.symm))
        turns).given i x hgave
    · by_cases hcalled : ∃ i, (calls i).id = id
      · obtain ⟨i, hid⟩ := hcalled
        have hagreed := agreed_run hstores herrors hopens
          (fun j hj => hagree j i (hj.trans hid.symm)) turns
        obtain hm | ⟨herror, -⟩ := hagreed.vacant hvacant
        · exact hagreed.error.elim (fun h => h) (fun h => h.trans hm)
        · exact herror
      · have hagreed : ((start r calls).run turns).Agreed calls id none :=
          agreed_run hstores herrors hopens (fun j hj => absurd ⟨j, hj⟩ hcalled) turns
        exact hagreed.error.elim (fun h => h) (fun h => h)
  · have horderly := orderly_run hstores herrors hopens hturns id
    exact ⟨fun x => (proper_run hstores hopens turns).exists_gave hreturned,
      horderly.error (hreturned.calm id), horderly.vacant (hreturned.calm id)⟩

/-- A registry of a driver whose stores are ready and of one whose stores are not. -/
def readyAndDown : Registry OpenStore :=
  (Registry.empty.register "memory" Drivers.memory).register "down" Registry.unreadyDriver

/-- Two calls that each open a store under the same id, of which one is ready. -/
def rivals (ready : Bool) : RegistryCall :=
  .create "ci" (if ready then "memory" else "down") (.obj [])

theorem errors_follow_stores_iff_rivals :
    (∀ i, (rivals i).Opens readyAndDown.drivers) ∧
    (¬ ∀ turns, ((start readyAndDown rivals).run turns).AllReturned →
      ∀ id, ((start readyAndDown rivals).run turns).TruthfulAt readyAndDown.drivers rivals id) ∧
    ((start readyAndDown rivals).run ([false, true].flatMap (List.replicate 4))).TruthfulAt
      readyAndDown.drivers rivals "ci" := by
  have hopens : ∀ i, (rivals i).Opens readyAndDown.drivers := by
    intro i
    cases i <;> rfl
  obtain ⟨hiff, hturns⟩ :=
    errors_follow_stores_iff readyAndDown (fun _ => rfl) (fun _ => rfl) rivals hopens
  refine ⟨hopens, fun h => ?_, hturns _ (takeTurns_flatMap _ _ [false, true]) (fun i => ?_) "ci"⟩
  · have hsame := hiff.mp h true false rfl
    cases hsame
  · apply exists_returned_run
    cases i <;> decide

/-- The store that is ready is under the id, with the error of the one that was not. -/
theorem rivals_crossed :
    let w := (start readyAndDown rivals).run [false, false, false, true, true, true, true, false]
    w.AllReturned ∧ w.Gave rivals true "ci" 1 ∧ w.registry.get? "ci" = some 1 ∧
      (rivals true).verdict readyAndDown.drivers = none ∧
      w.registry.error? "ci" = some "bucket logs is not reachable: bucket unreachable" := by
  refine ⟨fun i => ?_, ⟨⟨_, _, rfl⟩, rfl⟩, rfl, rfl, rfl⟩
  cases i
  · exact ⟨.ok 0, rfl⟩
  · exact ⟨.ok 1, rfl⟩

end Busy

end BlobStore
