import TemplateStream.Proofs.FailingScripts

/-!
# Taps after a helper failed

A helper that fails may have installed taps on the chunk of its call, and have removed taps, the
ones of the helpers around it included. The call remembers nothing but how many taps there were:
before it answers for the fault it removes the newest taps until there are no more than that. What
the helper did to the taps is a turnover, so many of the old ones removed and some new ones on top
of the rest; as many of the new ones, the oldest first, take the places of the old ones, and the
old ones do not come back.
-/

namespace TemplateStream

/-! ## What moves do to a stack of taps -/

/-- What is done to the taps of a chunk. -/
inductive TapMove where
  | install (tap : Tap)
  | remove

namespace TapMove

/-- Whether a move installs a tap. -/
def installs : TapMove → Bool
  | .install _ => true
  | .remove => false

/-- The taps after a move. -/
def on (stack : TapStack) : TapMove → Except Fault TapStack
  | .install tap => .ok (stack.push tap)
  | .remove => stack.pop.map Prod.snd

/-- The tap that a move removes is the newest one, and the owner's own. -/
theorem remove_ok {stack after : TapStack} (moved : remove.on stack = .ok after) :
    ∃ tap rest, stack.frames = tap :: rest ∧ stack.inherited ≤ rest.length ∧
      after = { stack with frames := rest } := by
  obtain ⟨frames, inherited⟩ := stack
  cases frames with
  | nil => cases moved
  | cons tap rest =>
    have popped : remove.on ⟨tap :: rest, inherited⟩ =
        if inherited < rest.length + 1 then .ok ⟨rest, inherited⟩
        else .error (.chunk .unmatchedUntap) := by
      simp only [on, TapStack.pop, List.length_cons]
      split <;> rfl
    rw [popped] at moved
    split at moved
    case isTrue inside =>
      cases moved
      exact ⟨tap, rest, rfl, Nat.le_of_lt_succ inside, rfl⟩
    case isFalse => cases moved

end TapMove

/-- How the taps of a chunk differ from the ones that it had: how many of these were removed, and
which ones are on top of the rest, newest first. -/
structure Turnover where
  removed : Nat := 0
  added : List Tap := []

namespace Turnover

/-- The turnover after one more move. A tap that was added is the first to be removed. -/
def next : Turnover → TapMove → Turnover
  | turnover, .install tap => { turnover with added := tap :: turnover.added }
  | ⟨removed, _ :: added⟩, .remove => ⟨removed, added⟩
  | ⟨removed, []⟩, .remove => ⟨removed + 1, []⟩

/-- The turnover of moves. -/
def of (moves : List TapMove) : Turnover := moves.foldl next {}

/-- Moves remove none of the old taps when at no time more were removed than installed. -/
theorem removed_foldl {moves : List TapMove} {turnover : Turnover} (none : turnover.removed = 0)
    (balanced : ∀ front, front <+: moves.map TapMove.installs →
      front.count false ≤ turnover.added.length + front.count true) :
    (moves.foldl next turnover).removed = 0 := by
  induction moves generalizing turnover with
  | nil => exact none
  | cons move rest ih =>
    obtain ⟨removed, added⟩ := turnover
    obtain rfl : removed = 0 := none
    have onward (front : List Bool) (stands : front <+: rest.map TapMove.installs) :=
      balanced (move.installs :: front) (List.cons_prefix_cons.mpr ⟨rfl, stands⟩)
    rw [List.foldl_cons]
    cases move with
    | install tap =>
      refine ih rfl fun front stands => ?_
      have counted : (true :: front).count false ≤ added.length + (true :: front).count true :=
        onward front stands
      rw [List.count_cons_self, List.count_cons_of_ne (by decide)] at counted
      show front.count false ≤ (tap :: added).length + front.count true
      rw [List.length_cons]
      omega
    | remove =>
      cases added with
      | nil =>
        -- The very first of these moves would remove one of the old taps.
        have counted := onward [] List.nil_prefix
        exact absurd counted (by decide)
      | cons newest added =>
        refine ih rfl fun front stands => ?_
        have counted : (false :: front).count false ≤
            (newest :: added).length + (false :: front).count true := onward front stands
        rw [List.count_cons_self, List.count_cons_of_ne (by decide), List.length_cons] at counted
        show front.count false ≤ added.length + front.count true
        omega

/-- Moves that were balanced at all times remove none of the old taps. -/
theorem removed_of {moves : List TapMove}
    (balanced : ∀ front, front <+: moves.map TapMove.installs →
      front.count false ≤ front.count true) : (of moves).removed = 0 := by
  refine removed_foldl rfl fun front stands => ?_
  have counted := balanced front stands
  simpa using counted

end Turnover

namespace TapStack

variable {stack : TapStack} {turnover : Turnover}

/-- The taps after a turnover. -/
def turned (stack : TapStack) (turnover : Turnover) : TapStack :=
  { stack with frames := turnover.added ++ stack.frames.drop turnover.removed }

/-- The taps that a call which remembers their number goes on with after a turnover: the oldest of
the added ones stand where the removed ones were, if there are as many. -/
def recovered (stack : TapStack) (turnover : Turnover) : TapStack :=
  { stack with
    frames := turnover.added.drop (turnover.added.length - turnover.removed) ++
      stack.frames.drop turnover.removed }

/-- One move is one more of a turnover, and removes no tap that is not the owner's own. -/
theorem turned_on {move : TapMove} {after : TapStack} (few : turnover.removed ≤ stack.depth)
    (moved : move.on (stack.turned turnover) = .ok after) :
    after = stack.turned (turnover.next move) ∧ (turnover.next move).removed ≤ stack.depth := by
  obtain ⟨removed, added⟩ := turnover
  cases move with
  | install tap =>
    cases moved
    exact ⟨rfl, few⟩
  | remove =>
    obtain ⟨tap, rest, frames, inside, rfl⟩ := TapMove.remove_ok moved
    cases added with
    | cons newest added =>
      obtain ⟨rfl, rfl⟩ := List.cons.inj frames
      exact ⟨rfl, few⟩
    | nil =>
      have remaining : stack.frames.drop removed = tap :: rest := frames
      have many : stack.frames.length - removed = rest.length + 1 := by
        rw [← List.length_drop, remaining, List.length_cons]
      have others : stack.frames.drop (removed + 1) = rest := by
        rw [← List.drop_drop, remaining, List.drop_succ_cons, List.drop_zero]
      have after : stack.turned ⟨removed + 1, []⟩ = { stack with frames := rest } := by
        rw [turned, others, List.nil_append]
      refine ⟨after.symm, ?_⟩
      have bound : stack.inherited ≤ rest.length := inside
      show removed + 1 ≤ stack.frames.length - stack.inherited
      omega

/-- Moves from a turnover lead to the turnover that goes on with them. -/
theorem turned_foldlM {moves : List TapMove} {after : TapStack}
    (few : turnover.removed ≤ stack.depth)
    (moved : moves.foldlM TapMove.on (stack.turned turnover) = .ok after) :
    after = stack.turned (moves.foldl Turnover.next turnover) ∧
      (moves.foldl Turnover.next turnover).removed ≤ stack.depth := by
  induction moves generalizing turnover with
  | nil =>
    cases moved
    exact ⟨rfl, few⟩
  | cons move rest ih =>
    rw [List.foldlM_cons] at moved
    cases first : move.on (stack.turned turnover) with
    | error fault =>
      rw [first] at moved
      cases moved
    | ok middle =>
      rw [first] at moved
      obtain ⟨rfl, fewer⟩ := turned_on few first
      exact ih fewer moved

/-- Moves are a turnover, which removes none but the owner's own taps. -/
theorem turned_of {moves : List TapMove} {after : TapStack}
    (moved : moves.foldlM TapMove.on stack = .ok after) :
    after = stack.turned (.of moves) ∧ (Turnover.of moves).removed ≤ stack.depth :=
  @turned_foldlM stack {} moves after (Nat.zero_le _) moved

/-- The taps that a call goes on with are the ones that it had exactly when the oldest of the added
taps are the removed ones. -/
theorem recovered_eq_iff :
    stack.recovered turnover = stack ↔
      turnover.added.drop (turnover.added.length - turnover.removed) =
        stack.frames.take turnover.removed := by
  have parts : stack = { stack with
      frames := stack.frames.take turnover.removed ++ stack.frames.drop turnover.removed } := by
    rw [List.take_append_drop]
  constructor
  · intro same
    have frames := congrArg TapStack.frames (same.trans parts)
    exact List.append_cancel_right frames
  · intro same
    rw [recovered, same]
    exact parts.symm

/-- When none of the old taps were removed a call goes on with them. -/
theorem recovered_of_none (none : turnover.removed = 0) : stack.recovered turnover = stack := by
  rw [recovered_eq_iff, none, Nat.sub_zero, List.drop_length, List.take_zero]

end TapStack

/-! ## What scripts do to the taps of their chunk -/

namespace Statement

/-- Whether a statement does no more than to write to its chunk, to install or remove a tap, to log
something or to raise a fault. -/
def handlesChunk : Statement → Bool
  | .write _ | .get _ _ | .parameter _ | .info | .logParameters | .log _ | .tap _ | .untap
  | .raise _ => true
  | _ => false

/-- Whether a statement that works on the taps of its chunk installs one. -/
def installs? : Statement → Option Bool
  | .tap (some _) => some true
  | .untap => some false
  | _ => none

end Statement

/-- A step that leaves the handles of a pass alone. -/
def Pass.HandlesAlone (before after : Pass) : Prop := after.handles = before.handles

/-- Writing leaves the handles of a pass alone. -/
theorem Chunk.write_alone (chunk : Chunk) (value : Value) :
    Keeps Pass.HandlesAlone (chunk.write value) := by
  intro pass
  cases found : pass.handles[chunk.number]? with
  | none =>
    have failed := ensureOpen_absent found .write
    simp only [Chunk.write, bind_step, failed]
    rfl
  | some handle =>
    by_cases complete : handle.complete = true
    · have failed := ensureOpen_step found .write
      simp only [Chunk.write, bind_step, failed, complete, if_true]
      rfl
    · have isOpen : handle.complete = false := Bool.eq_false_iff.mpr complete
      by_cases present : value = .null
      · rw [present, write_null found isOpen]
        rfl
      · rw [write_step found isOpen present]
        rcases handle.taps.apply value.toText pass.memory with ⟨_ | _, _⟩ <;> rfl

section scripts

variable {render : RenderBody} {scope : Scope} {handle : Handle} {pass : Pass}

/-- A statement that does not work on the taps of its chunk leaves the handles alone. -/
theorem Statement.run_alone {statement : Statement} (plain : statement.handlesChunk = true)
    (writes : statement.installs? = none) :
    Keeps Pass.HandlesAlone (statement.run render scope) := by
  have trans {first second third : Pass} (start : Pass.HandlesAlone first second)
      (rest : Pass.HandlesAlone second third) : Pass.HandlesAlone first third := rest.trans start
  have still {α : Type} {step : PassM α} (same : ∀ pass, (step pass).2 = pass) :
      Keeps Pass.HandlesAlone step := .unchanged (fun _ => rfl) same
  have written (value : Value) : Keeps Pass.HandlesAlone (do
      scope.chunk.write value
      pure (some scope.chunk) : PassM (Option Chunk)) :=
    .bind trans (scope.chunk.write_alone value) fun _ => still fun _ => rfl
  cases statement with
  | write value => exact written value
  | get name default =>
    exact .bind trans (still fun pass => by rw [liftExcept_step]) fun value => written value
  | parameter key => exact written _
  | info =>
    exact .bind trans (scope.chunk.write_alone _) fun _ => still fun _ => rfl
  | logParameters | log entry | raise fault => exact fun _ => rfl
  | tap transform =>
    cases transform with
    | none =>
      have refused : Keeps Pass.HandlesAlone (scope.chunk.tap none) :=
        .bind trans (still fun pass => Chunk.ensureOpen_same scope.chunk .tap pass) fun _ =>
          still fun _ => rfl
      exact .bind trans refused fun _ => still fun _ => rfl
    | some transform => cases writes
  | untap => cases writes
  | _ => cases plain

/-- A statement makes at most the one move that it stands for, and makes that if it succeeds. -/
theorem Statement.run_moves {statement : Statement} (plain : statement.handlesChunk = true)
    (found : pass.handles[scope.chunk.number]? = some handle) :
    ∃ (moves : List TapMove) (taps : TapStack), moves.foldlM TapMove.on handle.taps = .ok taps ∧
      (statement.run render scope pass).2.handles[scope.chunk.number]? =
        some { handle with taps := taps } ∧
      (moves = [] ∨ moves.map TapMove.installs = statement.installs?.toList) ∧
      ((statement.run render scope pass).1.isOk = true →
        moves.map TapMove.installs = statement.installs?.toList) := by
  cases stands : statement.installs? with
  | none =>
    have alone : (statement.run render scope pass).2.handles = pass.handles :=
      statement.run_alone plain stands pass
    refine ⟨[], handle.taps, rfl, ?_, .inl rfl, fun _ => rfl⟩
    rw [alone, found]
  | some installs =>
    cases statement with
    | tap transform =>
      cases transform with
      | none => cases stands
      | some transform =>
        cases stands
        by_cases complete : handle.complete = true
        · have refused : (Statement.tap (some transform)).run render scope pass =
              (.error (.chunk (.closedChunk .tap)), pass) := by
            have failed := Chunk.ensureOpen_step found .tap
            simp only [Statement.run, Chunk.tap, bind_step, failed, complete, if_true]
          rw [refused]
          exact ⟨[], handle.taps, rfl, found, .inl rfl, fun succeeded => by cases succeeded⟩
        · obtain ⟨tap, memory, installed⟩ := transform.install_ok pass.memory
          have ran : (Statement.tap (some transform)).run render scope pass =
              (.ok (some scope.chunk), { pass with memory }.changed scope.chunk
                fun handle => { handle with taps := handle.taps.push tap }) := by
            have stepped := Chunk.tap_step found (Bool.eq_false_iff.mpr complete) installed
            simp only [Statement.run, bind_step, stepped, pure_step]
          rw [ran]
          have installs : ({ pass with memory } : Pass).handles[scope.chunk.number]? =
              some handle := found
          exact ⟨[.install tap], handle.taps.push tap, rfl, Pass.changed_self installs _,
            .inr rfl, fun _ => rfl⟩
    | untap =>
      cases stands
      cases popped : handle.taps.pop with
      | error fault =>
        have refused : Statement.untap.run render scope pass = (.error fault, pass) := by
          have failed := Chunk.untap_step found
          simp only [Statement.run, bind_step, failed, popped]
        rw [refused]
        exact ⟨[], handle.taps, rfl, found, .inl rfl, fun succeeded => by cases succeeded⟩
      | ok rest =>
        have ran : Statement.untap.run render scope pass =
            (.ok (some scope.chunk),
              pass.changed scope.chunk ({ · with taps := rest.2 })) := by
          have stepped := Chunk.untap_step found
          simp only [Statement.run, bind_step, stepped, popped, pure_step]
        have moved : [TapMove.remove].foldlM TapMove.on handle.taps = .ok rest.2 := by
          rw [List.foldlM_cons, TapMove.on, popped]
          rfl
        rw [ran]
        exact ⟨[.remove], rest.2, moved, Pass.changed_self found _, .inr rfl, fun _ => rfl⟩
    | _ => cases stands

/-- A script that handles its chunk makes moves that are the first ones of those it is made of. -/
theorem runScript_moves {script : Script}
    (plain : ∀ statement ∈ script, statement.handlesChunk = true)
    (found : pass.handles[scope.chunk.number]? = some handle) :
    ∃ (moves : List TapMove) (taps : TapStack), moves.foldlM TapMove.on handle.taps = .ok taps ∧
      (runScript render scope script pass).2.handles[scope.chunk.number]? =
        some { handle with taps := taps } ∧
      moves.map TapMove.installs <+: script.filterMap Statement.installs? := by
  induction script generalizing pass handle with
  | nil => exact ⟨[], handle.taps, rfl, found, List.nil_prefix⟩
  | cons statement rest ih =>
    obtain ⟨first, others⟩ := List.forall_mem_cons.mp plain
    have stepped : runScript render scope (statement :: rest) = (do
        discard (statement.run render scope)
        runScript render scope rest) := by
      cases statement <;> first | rfl | cases first
    have whole : (statement :: rest).filterMap Statement.installs? =
        statement.installs?.toList ++ rest.filterMap Statement.installs? := by
      rw [List.filterMap_cons]
      cases statement.installs? <;> rfl
    obtain ⟨moves, taps, moved, left, within, fully⟩ :=
      @Statement.run_moves render scope handle pass statement first found
    rw [stepped, whole, bind_step, discard_step]
    rcases ran : statement.run render scope pass with ⟨fault | answer, middle⟩
    · rw [ran] at left
      refine ⟨moves, taps, moved, left, ?_⟩
      rcases within with rfl | same
      · exact List.nil_prefix
      · rw [same]
        exact List.prefix_append _ _
    · rw [ran] at left fully
      have same := fully rfl
      obtain ⟨more, last, movedOn, leftOn, withinOn⟩ := ih others left
      refine ⟨moves ++ more, last, ?_, leftOn, ?_⟩
      · rw [List.foldlM_append, moved]
        exact movedOn
      · rw [List.map_append, same]
        exact (List.prefix_append_right_inj _).mpr withinOn

end scripts

/-! ## What a call goes on with -/

namespace HelperCall

section recovery

variable {call : HelperCall} {render : RenderBody} {chunk : Chunk} {context : Context}
  {handle : Handle} {pass : Pass} {fault : Fault} {taps : TapStack}

/-- What is written in answer to a fault, once it is noted and taps were taken off. -/
def answer (call : HelperCall) (render : RenderBody) (chunk : Chunk) (context : Context)
    (fault : Fault) : PassM Chunk :=
  match bodyNamed call.bodies "error" with
  | .absent => do
    let text ← liftExcept (call.placeholder context fault)
    chunk.write (.text text)
    pure chunk
  | body => render body chunk (errorContext context fault)

/-- A call that answers for faults has an error body, or may leave a placeholder. -/
def Answering (call : HelperCall) (context : Context) : Prop :=
  bodyNamed call.bodies "error" ≠ .absent ∨
    (context.environment.getD {}).policy = .placeholder

/-- A fault that a call answers for is noted, taps are taken off, and the answer is written. -/
theorem recover_answering (answered : fault.isAnswered = true) (answering : call.Answering context)
    (depth : Nat) :
    call.recover render chunk context depth fault = (do
      Pass.noteRecovery call.helper fault
      untapTo chunk depth
      call.answer render chunk context fault) := by
  have answers : (fault.kind == .helper) = false := by
    simpa using (Bool.and_eq_true_iff.mp answered).2
  by_cases absent : bodyNamed call.bodies "error" = .absent
  · have policy : (context.environment.getD {}).policy = .placeholder :=
      answering.resolve_left fun present => present absent
    rw [recover_absent absent, answers, policy, answer, absent]
    rfl
  · rw [recover_present absent, answers, answer]
    cases named : bodyNamed call.bodies "error" with
    | absent => exact absurd named absent
    | _ => rfl

/-- After a turnover the taps are taken off down to the number that there were before. -/
theorem untapTo_turned {turnover : Turnover} (found : pass.handles[chunk.number]? = some handle)
    (turned : handle.taps = taps.turned turnover) (own : taps.inherited ≤ taps.frames.length)
    (few : turnover.removed ≤ taps.depth) :
    untapTo chunk taps.depth pass =
      (.ok (), pass.changed chunk ({ · with taps := taps.recovered turnover })) := by
  obtain ⟨removed, added⟩ := turnover
  have bound : removed ≤ taps.frames.length - taps.inherited := few
  by_cases many : removed ≤ added.length
  · have parts : handle.taps = { taps.recovered ⟨removed, added⟩ with
        frames := added.take (added.length - removed) ++
          (taps.recovered ⟨removed, added⟩).frames } := by
      rw [turned]
      simp only [TapStack.turned, TapStack.recovered]
      rw [← List.append_assoc, List.take_append_drop]
    have length : (taps.recovered ⟨removed, added⟩).frames.length = taps.frames.length := by
      simp only [TapStack.recovered, List.length_append, List.length_drop]
      omega
    have depth : taps.depth = (taps.recovered ⟨removed, added⟩).depth := by
      rw [TapStack.depth, TapStack.depth, length]
      rfl
    rw [depth]
    exact untapTo_step found parts (by rw [length]; exact own)
  · -- There are fewer taps than before, so none is taken off.
    have none : added.length - removed = 0 := by omega
    have same : taps.recovered ⟨removed, added⟩ = handle.taps := by
      rw [turned]
      simp only [TapStack.turned, TapStack.recovered, none, List.drop_zero]
    have fewer : handle.taps.depth - taps.depth = 0 := by
      rw [turned]
      simp only [TapStack.turned, TapStack.depth, List.length_append, List.length_drop]
      omega
    have unchanged : pass.changed chunk ({ · with taps := taps.recovered ⟨removed, added⟩ }) =
        pass := by
      apply Pass.changed_unchanged found
      rw [same]
    rw [unchanged, untapTo, bind_step, Chunk.tapDepth_step found]
    simp only [fewer, List.range_zero]
    rfl

/-- A call whose helper failed after a turnover of the taps of its chunk goes on with the taps that
it keeps of them. -/
theorem recover_turned {turnover : Turnover} (answered : fault.isAnswered = true)
    (answering : call.Answering context)
    (found : pass.handles[chunk.number]? = some handle)
    (turned : handle.taps = taps.turned turnover) (own : taps.inherited ≤ taps.frames.length)
    (few : turnover.removed ≤ taps.depth) :
    call.recover render chunk context taps.depth fault pass =
      call.answer render chunk context fault
        (pass.restored chunk (taps.recovered turnover) call.helper fault) := by
  have noted : ({ pass with recoveries := pass.recoveries ++ [(call.helper, fault)] } :
      Pass).handles[chunk.number]? = some handle := found
  have untapped := untapTo_turned noted turned own few
  rw [recover_answering answered answering]
  simp only [Pass.noteRecovery, bind_step, modify_step, untapped]
  rfl

/-- A step leaves the taps of a chunk as it finds them, if it succeeds. -/
def KeepsTaps {α : Type} (chunk : Chunk) (step : PassM α) : Prop :=
  ∀ ⦃origin after : Pass⦄ ⦃value : α⦄, step origin = (.ok value, after) →
    (after.handles[chunk.number]?).map Handle.taps =
      (origin.handles[chunk.number]?).map Handle.taps

/-- An answer leaves the taps as it finds them when the error body does, if there is one. -/
theorem answer_keepsTaps (keeps : bodyNamed call.bodies "error" ≠ .absent →
      KeepsTaps chunk (render (bodyNamed call.bodies "error") chunk (errorContext context fault))) :
    KeepsTaps chunk (call.answer render chunk context fault) := by
  intro origin after next answered
  by_cases absent : bodyNamed call.bodies "error" = .absent
  · rw [answer, absent] at answered
    obtain ⟨text, middle, lifted, written⟩ := bind_ok answered
    obtain ⟨_, rfl⟩ := liftExcept_ok lifted
    obtain ⟨_, last, wrote, returned⟩ := bind_ok written
    obtain rfl : last = after := (Prod.mk.inj returned).2
    have alone : last.handles = origin.handles := (chunk.write_alone (.text text)).after wrote
    rw [alone]
  · have same : call.answer render chunk context fault =
        render (bodyNamed call.bodies "error") chunk (errorContext context fault) := by
      rw [answer]
      cases named : bodyNamed call.bodies "error" with
      | absent => exact absurd named absent
      | _ => rfl
    rw [same] at answered
    exact keeps absent answered

/-- What the taps of a chunk come to when the helper of a call failed after some moves. The moves
are the first ones of its script and turn the taps over. The call writes its answer through the taps
that it keeps of them, and leaves these. -/
structure Recovers (call : HelperCall) (render : RenderBody) (chunk : Chunk) (context : Context)
    (script : Script) (pass : Pass) (handle : Handle) (fault : Fault) (middle : Pass)
    (moves : List TapMove) : Prop where
  within : moves.map TapMove.installs <+: script.filterMap Statement.installs?
  turned : middle.handles[chunk.number]? =
    some { handle with taps := handle.taps.turned (.of moves) }
  performed : call.perform render chunk context pass =
    call.answer render chunk context fault
      (middle.restored chunk (handle.taps.recovered (.of moves)) call.helper fault)
  through : (middle.restored chunk (handle.taps.recovered (.of moves)) call.helper
    fault).handles[chunk.number]? =
      some { handle with taps := handle.taps.recovered (.of moves) }
  left {next : Chunk} {after : Pass}
    (keeps : bodyNamed call.bodies "error" ≠ .absent →
      KeepsTaps chunk (render (bodyNamed call.bodies "error") chunk (errorContext context fault)))
    (returned : call.perform render chunk context pass = (.ok next, after)) :
    (after.handles[chunk.number]?).map Handle.taps = some (handle.taps.recovered (.of moves))

/-- A helper that does no more than to write, to install and remove taps and to fail makes moves
before it fails. -/
theorem outcome_moves {helper : Helper} {script : Script} {middle : Pass}
    (runs : helper.function = .scripted none script)
    (plain : ∀ statement ∈ script, statement.handlesChunk = true)
    (found : pass.handles[chunk.number]? = some handle)
    (raised : call.outcome render helper chunk context pass = (.error fault, middle)) :
    ∃ (moves : List TapMove) (taps : TapStack),
      moves.foldlM TapMove.on handle.taps = .ok taps ∧
      middle.handles[chunk.number]? = some { handle with taps := taps } ∧
      moves.map TapMove.installs <+: script.filterMap Statement.installs? := by
  simp only [outcome, bind_step, liftExcept_step, runs, HelperFunction.invoke] at raised
  cases resolved : Parameter.resolve helper (.ofList call.parameters) (some context) with
  | error refused =>
    rw [resolved] at raised
    obtain ⟨_, rfl⟩ := Prod.mk.inj raised
    exact ⟨[], handle.taps, rfl, found, List.nil_prefix⟩
  | ok parameters =>
    simp only [resolved] at raised
    have foundIn : pass.handles[(call.scope chunk context parameters).chunk.number]? =
        some handle := found
    obtain ⟨moves, taps, moved, left, within⟩ :=
      @runScript_moves render (call.scope chunk context parameters) handle pass script plain foundIn
    rcases ran : runScript render (call.scope chunk context parameters) script pass
      with ⟨early | outcome, last⟩
    · rw [ran] at raised left
      obtain ⟨_, rfl⟩ := Prod.mk.inj raised
      exact ⟨moves, taps, moved, left, within⟩
    · rw [ran] at raised left
      cases outcome with
      | awaitable work =>
        obtain ⟨_, rfl⟩ := Prod.mk.inj raised
        exact ⟨moves, taps, moved, left, within⟩
      | nothing | value _ | chunk _ => cases (Prod.mk.inj raised).1

end recovery

end HelperCall

/-- A call whose helper wrote, installed and removed taps and then failed goes on with as many taps
as there were before, if there are as many: the oldest of the added ones, on what is left of the
former ones. These are the former taps exactly when the oldest of the added ones are the removed
ones, and so whenever the helper at no time had removed more taps than it had installed. -/
theorem recovery_turnover {call : HelperCall} {render : RenderBody} {chunk : Chunk}
    {context : Context} {environment : Environment} {helper : Helper} {script : Script}
    {pass middle : Pass} {handle : Handle} {fault : Fault}
    (known : context.environment = some environment)
    (registered : environment.helpers.get call.helper = .ok helper)
    (runs : helper.function = .scripted none script)
    (plain : ∀ statement ∈ script, statement.handlesChunk = true)
    (found : pass.handles[chunk.number]? = some handle)
    (own : handle.taps.inherited ≤ handle.taps.frames.length)
    (raised : call.outcome render helper chunk context pass = (.error fault, middle))
    (answered : fault.isAnswered = true) (answering : call.Answering context) :
    ∃ moves : List TapMove,
      call.Recovers render chunk context script pass handle fault middle moves ∧
      (handle.taps.recovered (.of moves) = handle.taps ↔
        (Turnover.of moves).added.drop
            ((Turnover.of moves).added.length - (Turnover.of moves).removed) =
          handle.taps.frames.take (Turnover.of moves).removed) ∧
      ((∀ front, front <+: script.filterMap Statement.installs? →
          front.count false ≤ front.count true) →
        handle.taps.recovered (.of moves) = handle.taps) := by
  obtain ⟨moves, taps, moved, left, within⟩ := HelperCall.outcome_moves runs plain found raised
  obtain ⟨rfl, few⟩ := TapStack.turned_of moved
  have synchronous : helper.function.isAsync = false := by
    rw [runs]
    rfl
  have ordinary : fault.kind.isStructural = false := by
    simpa using (Bool.and_eq_true_iff.mp answered).1
  have performed : call.perform render chunk context pass =
      call.answer render chunk context fault
        (middle.restored chunk (handle.taps.recovered (.of moves)) call.helper fault) := by
    rw [perform_step known registered synchronous found, raised]
    simp only [ordinary, Bool.false_eq_true, if_false]
    exact HelperCall.recover_turned answered answering left rfl own few
  have through : (middle.restored chunk (handle.taps.recovered (.of moves)) call.helper
      fault).handles[chunk.number]? =
        some { handle with taps := handle.taps.recovered (.of moves) } := by
    have noted : ({ middle with recoveries := middle.recoveries ++ [(call.helper, fault)] } :
        Pass).handles[chunk.number]? =
          some { handle with taps := handle.taps.turned (.of moves) } := left
    exact Pass.changed_self noted _
  refine ⟨moves, ⟨within, left, performed, through, ?_⟩, TapStack.recovered_eq_iff, ?_⟩
  · intro next after keeps returned
    rw [performed] at returned
    rw [HelperCall.answer_keepsTaps keeps returned, through]
    rfl
  · intro balanced
    apply TapStack.recovered_of_none
    apply Turnover.removed_of
    exact fun front stands => balanced front (stands.trans within)

/-- A script that removes a tap which it did not install, installs another one and fails. -/
def swapping : Script := [.untap, .tap (some .reversing), .raise (.raised .value "boom")]

/-- A helper that runs that script. -/
def swapper : Helper where
  id := "bad"
  function := .scripted none swapping

/-- An environment with that helper and one that puts its block into upper case, in which helpers
that fail leave a placeholder. -/
def swappingEnvironment : Environment where
  helpers := {
    helpers := ((Table.empty.insert "upper" { id := "upper", function := .builtin .upper }).insert
      "bad" swapper) }
  policy := .placeholder

/-- A context in that environment. -/
def swappingContext : Context := .ofValue .null [] (some swappingEnvironment)

/-- A call of the helper that fails. -/
def swappingCall : HelperCall where
  helper := "bad"
  bodies := []
  parameters := []

/-- That call between texts, in the block of the helper that puts it into upper case. -/
def swappedDocument : Body :=
  .call "upper" [("block", .sequence [.text "a", .call "bad" [] [], .text "b"])] []

/-- A handle with the tap of a helper around. -/
def swappedHandle : Handle where
  record := 0
  taps := TapStack.push {} (.stateless fun text => .ok (Text.upper text))

/-- A pass with that handle. -/
def swappedPass : Pass := { Pass.opened true with handles := #[swappedHandle] }

/-- The placeholder, and the text after the call, go through the tap that the helper left instead of
the one that it had removed, which the helper around then removes for its own. -/
theorem recovery_turnover_swapped :
    (Pass.document swappedDocument swappingContext (Pass.start .accepting true)).1.toOption =
        some "A]dab :rorre[b" ∧
      ∃ moves : List TapMove,
        swappingCall.Recovers Body.render ⟨0⟩ swappingContext swapping swappedPass swappedHandle
          (.raised .value "boom")
          (swappingCall.outcome Body.render swapper ⟨0⟩ swappingContext swappedPass).2 moves ∧
        swappedHandle.taps.recovered (.of moves) ≠ swappedHandle.taps := by
  have turned := @recovery_turnover swappingCall Body.render ⟨0⟩ swappingContext
    swappingEnvironment swapper swapping swappedPass
    (swappingCall.outcome Body.render swapper ⟨0⟩ swappingContext swappedPass).2 swappedHandle
    (.raised .value "boom") rfl rfl rfl (by decide) rfl (Nat.zero_le 1) rfl rfl (.inr rfl)
  obtain ⟨moves, recovers, same, _⟩ := turned
  refine ⟨by decide +kernel, moves, recovers, fun kept => ?_⟩
  obtain ⟨left, applied⟩ : ∃ left,
      swappingCall.perform Body.render ⟨0⟩ swappingContext swappedPass = (.ok ⟨0⟩, left) ∧
        ((left.handles[0]?).map fun handle => (handle.taps.apply "ab" {}).1.toOption) =
          some (some "ba") := ⟨_, rfl, by decide +kernel⟩
  have after := recovers.left (fun present => absurd rfl present) applied.1
  rw [kept] at after
  obtain ⟨handle, found, taps⟩ := Option.map_eq_some_iff.mp after
  have text := applied.2
  rw [show left.handles[0]? = some handle from found] at text
  rw [Option.map_some, taps] at text
  exact absurd text (by decide +kernel)

end TemplateStream
