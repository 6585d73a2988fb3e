import TemplateStream.Context

/-!
# Pushes and pops

Pushes with the pops that close them leave the stack of a context as it was, however they are nested
and repeated, and with the stack all that is looked up there. The position is no part of the stack.
A pop keeps the position that it finds, so that the calls leave the one that was set last, also when
the value that came with it is gone and an iteration around it goes on.
-/

namespace TemplateStream.Context

/-- A call that changes the stack. -/
inductive StackCall where
  | push (value : Value) (index length : Option Int)
  | pop

namespace StackCall

/-- The context after a call. -/
def perform (context : Context) : StackCall → Except Fault Context
  | .push value index length => .ok (context.push value index length)
  | .pop => context.pop

/-- The position that a call sets, which takes an index and a length. -/
def position? : StackCall → Option Position
  | .push _ (some index) (some length) => some ⟨index, length⟩
  | _ => none

end StackCall

/-- The context after calls in order, up to the first that fails. -/
def performAll (context : Context) (calls : List StackCall) : Except Fault Context :=
  calls.foldlM StackCall.perform context

/-- The last position that calls set. -/
def lastPosition? (calls : List StackCall) : Option Position :=
  (calls.filterMap StackCall.position?).getLast?

/-- Calls in which each pop closes a push of its own and no push is left open. -/
inductive Bracketed : List StackCall → Prop where
  | nil : Bracketed []
  | around (value : Value) (index length : Option Int) {inside behind : List StackCall} :
      Bracketed inside → Bracketed behind →
      Bracketed (.push value index length :: (inside ++ .pop :: behind))

/-- One context answers as another one does, but for the position. -/
structure AnswersAs (after context : Context) : Prop where
  get : ∀ name default attributes,
    after.get name default attributes = context.get name default attributes
  current : after.current = context.current
  depth : after.depth = context.depth
  template : after.template = context.template
  environment : after.environment = context.environment

variable {context after : Context} {call : StackCall} {calls : List StackCall}

/-! ## Positions -/

/-- A call that sets no position keeps the one that is there. -/
theorem StackCall.perform_position (ran : call.perform context = .ok after) :
    after.position = call.position?.or context.position := by
  cases call with
  | push value index length =>
    cases ran
    cases index <;> cases length <;> rfl
  | pop =>
    rw [perform, Context.pop] at ran
    split at ran
    · cases ran
    · cases ran
      rfl

/-- The first of several calls sets the last position if the others set none. -/
theorem lastPosition?_cons (call : StackCall) (calls : List StackCall) :
    lastPosition? (call :: calls) = (lastPosition? calls).or call.position? := by
  rw [lastPosition?, lastPosition?, List.filterMap_cons]
  cases call.position? with
  | none => rw [Option.or_none]
  | some position => rw [List.getLast?_cons]; cases List.getLast? _ <;> rfl

/-- Calls leave the position that they set last, and if they set none, the one that was there. -/
theorem performAll_position (ran : context.performAll calls = .ok after) :
    after.position = (lastPosition? calls).or context.position := by
  induction calls generalizing context with
  | nil =>
    cases ran
    rfl
  | cons call rest ih =>
    rw [performAll, List.foldlM_cons] at ran
    cases performed : call.perform context with
    | error fault =>
      rw [performed] at ran
      cases ran
    | ok middle =>
      rw [performed] at ran
      rw [ih ran, StackCall.perform_position performed, lastPosition?_cons, Option.or_assoc]

/-- The index and the length are those of another context exactly when the position is. -/
theorem position_eq_iff : after.index = context.index ∧ after.length = context.length ↔
    after.position = context.position := by
  rw [index, index, length, length]
  rcases after.position with _ | ⟨here, there⟩ <;> rcases context.position with _ | ⟨other, last⟩
  all_goals simp

/-! ## Brackets -/

/-- A context of which only the position is another answers alike. -/
theorem answersAs_moved (context : Context) (position : Option Position) :
    AnswersAs { context with position } context :=
  ⟨fun _ _ _ => rfl, rfl, rfl, rfl, rfl⟩

/-- Calls in brackets succeed, and leave all but the position as it was. -/
theorem Bracketed.restores (bracketed : Bracketed calls) (context : Context) :
    ∃ position, context.performAll calls = .ok { context with position } := by
  induction bracketed generalizing context with
  | nil => exact ⟨context.position, rfl⟩
  | @around value index length inside behind _ _ within further =>
    obtain ⟨inner, entered⟩ := within (context.push value index length)
    obtain ⟨position, went⟩ := further { context with position := inner }
    refine ⟨position, ?_⟩
    rw [performAll] at entered went ⊢
    show List.foldlM _ (context.push value index length) (inside ++ .pop :: behind) = _
    rw [List.foldlM_append, entered]
    exact went

/-- Pushes with the pops that close them never fail and restore all that a context answers but the
position, which becomes the one that was set last. So the index and the length are those of before
exactly when no position was set or the last one set was that of before. -/
theorem brackets_restore_unless_positioned (bracketed : Bracketed calls) (context : Context) :
    ∃ after, context.performAll calls = .ok after ∧ after.AnswersAs context ∧
      after.position = (lastPosition? calls).or context.position ∧
      (after.index = context.index ∧ after.length = context.length ↔
        ∀ position ∈ lastPosition? calls, context.position = some position) := by
  obtain ⟨position, ran⟩ := bracketed.restores context
  have set := performAll_position ran
  refine ⟨_, ran, answersAs_moved context position, set, ?_⟩
  rw [position_eq_iff, set]
  cases lastPosition? calls with
  | none => simp
  | some last => simp [eq_comm]

/-- Within the first of three rows, a value without a position and then the second of two columns,
all popped again. -/
def rowsAndColumns : List StackCall := [
  .push (.text "row") (some 0) (some 3),
  .push (.text "note") none none, .pop,
  .push (.text "column") (some 1) (some 2), .pop,
  .pop]

/-- The names have their old values, and the position of the column is left. -/
theorem brackets_restore_unless_positioned_rows :
    let context := Context.ofValue (.mapping [(.text "a", .text "b")])
    Bracketed rowsAndColumns ∧ ∃ after, context.performAll rowsAndColumns = .ok after ∧
      after.get "a" = .ok (.text "b") ∧ after.depth = 1 ∧ context.index = none ∧
      after.index = some 1 ∧ after.length = some 2 := by
  intro context
  have bracketed : Bracketed rowsAndColumns :=
    .around _ _ _ (.around _ _ _ .nil (.around _ _ _ .nil .nil)) .nil
  obtain ⟨after, ran, answers, set, _⟩ := brackets_restore_unless_positioned bracketed context
  have position : after.position = some ⟨1, 2⟩ := set
  refine ⟨bracketed, after, ran, ?_, answers.depth, rfl, ?_, ?_⟩
  · rw [answers.get]
    rfl
  · rw [index, position]
    rfl
  · rw [length, position]
    rfl

end TemplateStream.Context
