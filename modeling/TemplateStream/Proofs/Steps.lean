import TemplateStream.Pass

/-!
# Steps from a state

Steps on a tree, on the memory of taps, on a pass and on a session are functions of the state that
they start from. The rules here run a step one operation at a time: each gives the result of an
operation and the state that it leaves, which a fault keeps. A relation of states is kept by a
sequence of steps when it is transitive and each of the steps keeps it.
-/

namespace TemplateStream

section

variable {State α β : Type}

/-- A step that only gives a value changes nothing. -/
@[simp]
theorem pure_step (value : α) (state : State) :
    (pure value : ExceptT Fault (StateM State) α) state = (.ok value, state) := rfl

/-- A fault changes nothing. -/
@[simp]
theorem throw_step (fault : Fault) (state : State) :
    (throw fault : ExceptT Fault (StateM State) α) state = (.error fault, state) := rfl

/-- Reading the state changes nothing. -/
@[simp]
theorem get_step (state : State) :
    (get : ExceptT Fault (StateM State) State) state = (.ok state, state) := rfl

/-- Setting the state forgets the old one. -/
@[simp]
theorem set_step (state after : State) :
    (set after : ExceptT Fault (StateM State) PUnit) state = (.ok ⟨⟩, after) := rfl

/-- Changing the state gives the changed one. -/
@[simp]
theorem modify_step (change : State → State) (state : State) :
    (modify change : ExceptT Fault (StateM State) PUnit) state = (.ok ⟨⟩, change state) := rfl

/-- A sequence goes on from where its first step ended, unless that failed. -/
theorem bind_step (step : ExceptT Fault (StateM State) α)
    (next : α → ExceptT Fault (StateM State) β) (state : State) :
    (step >>= next) state = match step state with
      | (.ok value, after) => next value after
      | (.error fault, after) => (.error fault, after) := by
  simp only [bind, ExceptT.bind, ExceptT.mk, StateT.bind]
  rcases step state with ⟨result, after⟩
  cases result <;> rfl

/-- A result of a step that did not fail is changed as told. -/
theorem map_step (change : α → β) (step : ExceptT Fault (StateM State) α) (state : State) :
    (change <$> step) state = match step state with
      | (.ok value, after) => (.ok (change value), after)
      | (.error fault, after) => (.error fault, after) := by
  simp only [Functor.map, ExceptT.map, ExceptT.mk, bind, StateT.bind]
  rcases step state with ⟨result, after⟩
  cases result <;> rfl

/-- A step whose result is not wanted. -/
theorem discard_step (step : ExceptT Fault (StateM State) α) (state : State) :
    (discard step) state = match step state with
      | (.ok _, after) => (.ok ⟨⟩, after)
      | (.error fault, after) => (.error fault, after) :=
  map_step (fun _ => PUnit.unit) step state

/-- It does not change what a step does that its result is not wanted. -/
theorem discard_state (step : ExceptT Fault (StateM State) α) (state : State) :
    (discard step state).2 = (step state).2 := by
  rw [discard_step]
  rcases step state with ⟨_ | _, _⟩ <;> rfl

/-- A result that was computed aside changes nothing. -/
@[simp]
theorem liftExcept_step (result : Except Fault α) (state : State) :
    (liftExcept result : ExceptT Fault (StateM State) α) state = (result, state) := by
  cases result <;> rfl

/-- A sequence that succeeded did so at each of its two steps. -/
theorem bind_ok {step : ExceptT Fault (StateM State) α}
    {next : α → ExceptT Fault (StateM State) β} {state after : State} {value : β}
    (returned : (step >>= next) state = (.ok value, after)) :
    ∃ first middle, step state = (.ok first, middle) ∧ next first middle = (.ok value, after) := by
  rw [bind_step] at returned
  rcases found : step state with ⟨result, middle⟩
  rw [found] at returned
  cases result with
  | ok first => exact ⟨first, middle, rfl, returned⟩
  | error fault => cases returned

/-- A result that was computed aside succeeded by itself. -/
theorem liftExcept_ok {result : Except Fault α} {state after : State} {value : α}
    (returned : (liftExcept result : ExceptT Fault (StateM State) α) state =
      (.ok value, after)) : result = .ok value ∧ state = after := by
  rw [liftExcept_step] at returned
  cases returned
  exact ⟨rfl, rfl⟩

/-- A result that is there as an option is there. -/
theorem ok_of_toOption {result : Except Fault α} {value : α}
    (found : result.toOption = some value) : result = .ok value := by
  cases result with
  | error fault => cases found
  | ok other =>
    cases found
    rfl

/-- A run whose result is known is the run with that result. -/
theorem ran_ok {run : Except Fault α × State} {value : α} (found : run.1.toOption = some value) :
    run = (.ok value, run.2) := by
  rw [← ok_of_toOption found]

/-- What an attempt did stays done, and its fault becomes its result. -/
@[simp]
theorem attempt_step (step : ExceptT Fault (StateM State) α) (state : State) :
    attempt step state = (.ok (step state).1, (step state).2) := rfl

/-! ## Relations that steps keep -/

variable {relation : State → State → Prop} {step : ExceptT Fault (StateM State) α}

/-- A step relates the state that it starts from to the one that it leaves. -/
def Keeps (relation : State → State → Prop) (step : ExceptT Fault (StateM State) α) : Prop :=
  ∀ state, relation state (step state).2

/-- A step that was run relates the state before it to the one after it. -/
theorem Keeps.after {state after : State} {result : Except Fault α} (kept : Keeps relation step)
    (ran : step state = (result, after)) : relation state after := by
  have related := kept state
  rwa [ran] at related

/-- It does not matter whether the result of a step is wanted. -/
theorem Keeps.discard (kept : Keeps relation step) : Keeps relation (discard step) := by
  intro state
  rw [discard_state]
  exact kept state

/-- It does not matter whether a step may fail. -/
theorem Keeps.attempt (kept : Keeps relation step) : Keeps relation (attempt step) := by
  intro state
  rw [attempt_step]
  exact kept state

/-- A step that changes nothing keeps a relation of each state to itself. -/
theorem Keeps.unchanged (refl : ∀ state, relation state state)
    (same : ∀ state, (step state).2 = state) : Keeps relation step := by
  intro state
  rw [same]
  exact refl state

/-- A sequence keeps a transitive relation when its steps do. -/
theorem Keeps.bind {next : α → ExceptT Fault (StateM State) β}
    (trans : ∀ {first second third}, relation first second → relation second third →
      relation first third)
    (first : Keeps relation step) (second : ∀ value, Keeps relation (next value)) :
    Keeps relation (step >>= next) := by
  intro state
  have start := first state
  rw [bind_step]
  rcases found : step state with ⟨fault | value, middle⟩
  · rw [found] at start
    exact start
  · rw [found] at start
    exact trans start (second value middle)

/-- A fault in the way of a step keeps a relation when the fault and the step do. -/
theorem Keeps.guard {condition : Prop} [Decidable condition] {fault : Fault}
    {next : PUnit → ExceptT Fault (StateM State) β}
    (failed : Keeps relation (throw fault : ExceptT Fault (StateM State) PUnit))
    (kept : Keeps relation (next ⟨⟩)) :
    Keeps relation (if condition then MonadExcept.throw fault >>= next else next ⟨⟩) := by
  split
  · exact fun state => failed state
  · exact kept

end

namespace Pass

variable {α : Type}

/-- A step on the tree leaves the rest of the pass alone. -/
@[simp]
theorem onTree_step (step : TreeM α) (pass : Pass) :
    onTree step pass = ((step pass.tree).1, { pass with tree := (step pass.tree).2 }) := rfl

/-- A step of the taps leaves the rest of the pass alone. -/
@[simp]
theorem onTaps_step (step : TapM α) (pass : Pass) :
    onTaps step pass = ((step pass.memory).1, { pass with memory := (step pass.memory).2 }) := rfl

end Pass

end TemplateStream
