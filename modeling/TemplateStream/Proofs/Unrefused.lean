import TemplateStream.Proofs.Ownership

/-!
# Sinks that have refused nothing

What is done to a pass sees its sink only when that refuses a fragment. So as long as the sink has
accepted all that it was given, every operation does what it does with a sink that refuses nothing.
-/

namespace TemplateStream

namespace Sink

/-- A sink accepts fragments one after another, given what it has received before. -/
def Accepts (sink : Sink) : List String → List String → Prop
  | _, [] => True
  | received, fragment :: rest =>
    sink received fragment = none ∧ Accepts sink (received ++ [fragment]) rest

/-- Fragments are accepted in two parts when they are accepted as a whole. -/
theorem accepts_append {sink : Sink} {received first second : List String} :
    sink.Accepts received (first ++ second) ↔
      sink.Accepts received first ∧ sink.Accepts (received ++ first) second := by
  induction first generalizing received with
  | nil => simp [Accepts]
  | cons fragment rest ih =>
    simp only [List.cons_append, Accepts, ih, and_assoc, List.append_assoc, List.nil_append]

end Sink

/-! ## Steps that do not see the sink -/

/-- States with a sink that was given some fragments. -/
class HasSink (State : Type) where
  sink : State → Sink
  given : State → List String
  /-- The state with a sink that refuses nothing in the place of its own. -/
  unrefusing : State → State

open HasSink

instance : HasSink RenderTree where
  sink tree := tree.sink
  given tree := tree.delivered
  unrefusing tree := { tree with sink := .accepting }

instance : HasSink Pass where
  sink pass := pass.tree.sink
  given pass := pass.tree.delivered
  unrefusing pass := { pass with tree := unrefusing pass.tree }

namespace RenderTree

/-- The order of the records has nothing to do with the sink. -/
theorem orderFrom_unrefusing {tree : RenderTree} {count : Nat} {start : Option Nat} :
    (unrefusing tree).orderFrom count start = tree.orderFrom count start := by
  induction count generalizing start with
  | zero => rfl
  | succ count ih =>
    cases start with
    | none => rfl
    | some index => exact congrArg (index :: ·) ih

end RenderTree

/-- The sink has accepted all that it was given. -/
def Accepted {State : Type} [HasSink State] (state : State) : Prop :=
  (sink state).Accepts [] (given state)

/-- A step keeps the sink and does not see it when it is not refused: it then does the same with a
sink that refuses nothing. -/
structure SinkBlind {State α : Type} [HasSink State] (step : ExceptT Fault (StateM State) α) :
    Prop where
  stays : ∀ state, sink (step state).2 = sink state
  unseen : ∀ state, Accepted (step state).2 →
    Accepted state ∧ step (unrefusing state) = ((step state).1, unrefusing (step state).2)

namespace SinkBlind

section steps

variable {State α β : Type} [HasSink State] {step : ExceptT Fault (StateM State) α}

theorem pure (value : α) : SinkBlind (pure value : ExceptT Fault (StateM State) α) where
  stays _ := rfl
  unseen _ accepted := ⟨accepted, rfl⟩

theorem throw (fault : Fault) : SinkBlind (throw fault : ExceptT Fault (StateM State) α) where
  stays _ := rfl
  unseen _ accepted := ⟨accepted, rfl⟩

theorem lift (result : Except Fault α) :
    SinkBlind (liftExcept result : ExceptT Fault (StateM State) α) := by
  cases result with
  | ok value => exact pure value
  | error fault => exact throw fault

/-- What was accepted behind two steps was accepted between them. -/
theorem bind {next : α → ExceptT Fault (StateM State) β} (first : SinkBlind step)
    (second : ∀ value, SinkBlind (next value)) : SinkBlind (step >>= next) where
  stays state := by
    have early := first.stays state
    rw [bind_step]
    rcases ran : step state with ⟨fault | value, middle⟩
    · rw [ran] at early
      exact early
    · rw [ran] at early
      exact ((second value).stays middle).trans early
  unseen := by
    intro state accepted
    have before := first.unseen state
    rw [bind_step] at accepted ⊢
    rw [bind_step]
    rcases ran : step state with ⟨fault | value, middle⟩
    · rw [ran] at before accepted
      obtain ⟨acceptedBefore, same⟩ := before accepted
      rw [same]
      exact ⟨acceptedBefore, rfl⟩
    · rw [ran] at before accepted
      obtain ⟨acceptedBetween, after⟩ := (second value).unseen middle accepted
      obtain ⟨acceptedBefore, same⟩ := before acceptedBetween
      rw [same]
      exact ⟨acceptedBefore, after⟩

theorem discard (blind : SinkBlind step) : SinkBlind (discard step) where
  stays state := by
    rw [discard_state]
    exact blind.stays state
  unseen := by
    intro state accepted
    rw [discard_state] at accepted ⊢
    obtain ⟨before, same⟩ := blind.unseen state accepted
    refine ⟨before, ?_⟩
    rw [discard_step, discard_step, same]
    rcases step state with ⟨_ | _, _⟩ <;> rfl

/-- What a step reads of the state is no part of the sink. -/
theorem get {next : State → ExceptT Fault (StateM State) β}
    (unseen : ∀ state, next (unrefusing state) = next state)
    (blind : ∀ state, SinkBlind (next state)) : SinkBlind (get >>= next) where
  stays state := by
    rw [bind_step, get_step]
    exact (blind state).stays state
  unseen state accepted := by
    rw [bind_step, get_step] at accepted ⊢
    rw [bind_step, get_step]
    dsimp only at accepted ⊢
    rw [unseen]
    exact (blind state).unseen state accepted

/-- A change of the state that has nothing to do with the sink. -/
theorem modify {change : State → State} (stays : ∀ state, sink (change state) = sink state)
    (gives : ∀ state, given (change state) = given state)
    (same : ∀ state, change (unrefusing state) = unrefusing (change state)) :
    SinkBlind (modify change : ExceptT Fault (StateM State) PUnit) where
  stays := stays
  unseen state accepted := by
    refine ⟨?_, Prod.ext rfl (same state)⟩
    have accepts : (sink (change state)).Accepts [] (given (change state)) := accepted
    rwa [stays, gives] at accepts

theorem forM {items : List β} {one : β → ExceptT Fault (StateM State) PUnit}
    (blind : ∀ item, SinkBlind (one item)) : SinkBlind (items.forM one) := by
  induction items with
  | nil => exact pure PUnit.unit
  | cons item rest ih => exact (blind item).bind fun _ => ih

end steps

/-! ## Trees -/

/-- A fragment that is handed to the sink is accepted or refused. -/
theorem emit (fragment : String) : SinkBlind (RenderTree.emit fragment) := by
  cases empty : fragment.isEmpty with
  | true =>
    have nothing : RenderTree.emit fragment = Pure.pure () := by
      funext tree
      simp [RenderTree.emit, empty]
    exact nothing ▸ pure ()
  | false =>
    have handed (tree : RenderTree) : (RenderTree.emit fragment tree).2 = { tree with
        output := tree.output ++ [fragment]
        delivered := tree.delivered ++ [fragment] } := by
      simp only [RenderTree.emit, empty, Bool.false_eq_true, if_false, bind_step, get_step,
        set_step]
      cases tree.sink tree.delivered fragment <;> rfl
    have taken (tree : RenderTree) (free : tree.sink tree.delivered fragment = none) :
        (RenderTree.emit fragment tree).1 = .ok () := by
      simp only [RenderTree.emit, empty, Bool.false_eq_true, if_false, bind_step, get_step,
        set_step, free]
      rfl
    refine ⟨fun tree => by rw [handed]; rfl, fun tree accepted => ?_⟩
    rw [handed] at accepted ⊢
    obtain ⟨before, free, _⟩ := Sink.accepts_append.mp (show tree.sink.Accepts []
      (tree.delivered ++ [fragment]) from accepted)
    rw [List.nil_append] at free
    exact ⟨before, Prod.ext ((taken _ rfl).trans (taken tree free).symm) (handed _)⟩

theorem record (index : Nat) : SinkBlind (RenderTree.record index) := by
  refine get (fun _ => rfl) fun tree => ?_
  cases tree.records[index]? with
  | some record => exact pure record
  | none => exact throw _

theorem update (index : Nat) (change : Record → Record) :
    SinkBlind (RenderTree.update index change) :=
  modify (fun _ => rfl) (fun _ => rfl) fun _ => rfl

theorem flushUpTo (count : Nat) : SinkBlind (RenderTree.flushUpTo count) := by
  induction count with
  | zero => exact pure ()
  | succ count ih =>
    refine get (fun _ => rfl) fun tree => ?_
    cases tree.cursor with
    | none => exact pure ()
    | some index =>
      refine (record index).bind fun current => ?_
      split
      · exact (forM emit).bind fun _ => (update index _).bind fun _ =>
          bind (modify (fun _ => rfl) (fun _ => rfl) fun _ => rfl) fun _ => ih
      · exact pure ()

theorem append (index : Nat) (text : String) : SinkBlind (RenderTree.append index text) := by
  refine (record index).bind fun current => ?_
  dsimp only
  split
  · exact (throw _).bind fun _ => update index _
  · exact update index _

theorem complete (index : Nat) : SinkBlind (RenderTree.complete index) := by
  have flush : SinkBlind RenderTree.flush := get (fun _ => rfl) fun _ => flushUpTo _
  refine (record index).bind fun current => ?_
  dsimp only
  split
  · exact (throw _).bind fun _ => (update index _).bind fun _ => flush
  · exact (update index _).bind fun _ => flush

theorem spliceAfter (index : Nat) : SinkBlind (RenderTree.spliceAfter index) := by
  refine (record index).bind fun anchor => get (fun _ => rfl) fun tree => ?_
  dsimp only
  exact bind (modify (fun _ => rfl) (fun _ => rfl) fun _ => rfl) fun _ =>
    (update index _).bind fun _ => pure _

theorem fork (index : Nat) : SinkBlind (RenderTree.fork index) := by
  have splices : SinkBlind (do
      let continuation ← RenderTree.spliceAfter index
      let branch ← RenderTree.spliceAfter index
      RenderTree.complete index
      Pure.pure (branch, continuation)) :=
    (spliceAfter index).bind fun _ => (spliceAfter index).bind fun _ =>
      (complete index).bind fun _ => pure _
  refine (record index).bind fun current => ?_
  dsimp only
  split
  · exact (throw _).bind fun _ => splices
  · exact splices

/-! ## Operations on chunks -/

theorem onTree {α : Type} {step : TreeM α} (blind : SinkBlind step) :
    SinkBlind (Pass.onTree step) where
  stays pass := blind.stays pass.tree
  unseen pass accepted := by
    obtain ⟨before, same⟩ := blind.unseen pass.tree accepted
    refine ⟨before, ?_⟩
    rw [Pass.onTree_step, Pass.onTree_step]
    show ((step (unrefusing pass.tree)).1,
      { unrefusing pass with tree := (step (unrefusing pass.tree)).2 }) = _
    rw [same]
    rfl

theorem onTaps {α : Type} (step : TapM α) : SinkBlind (Pass.onTaps step) where
  stays _ := rfl
  unseen _ accepted := ⟨accepted, rfl⟩

variable (chunk : Chunk)

theorem handle : SinkBlind chunk.handle := by
  refine get (fun _ => rfl) fun pass => ?_
  cases pass.handles[chunk.number]? with
  | some handle => exact pure handle
  | none => exact throw _

theorem changeHandle (change : Handle → Handle) : SinkBlind (chunk.update change) :=
  modify (fun _ => rfl) (fun _ => rfl) fun _ => rfl

theorem ensureOpen (operation : ChunkOperation) : SinkBlind (chunk.ensureOpen operation) := by
  refine (handle chunk).bind fun held => ?_
  split
  · exact throw _
  · exact pure _

theorem create (handle : Handle) : SinkBlind (Chunk.create handle) := by
  refine get (fun _ => rfl) fun pass => ?_
  dsimp only
  exact bind (modify (fun _ => rfl) (fun _ => rfl) fun _ => rfl) fun _ => pure _

theorem root : SinkBlind Chunk.root where
  stays _ := congrArg RenderTree.sink Chunk.root_tree
  unseen pass accepted := by
    cases taken : pass.rootTaken with
    | true =>
      have refused (pass : Pass) (taken : pass.rootTaken = true) :
          Chunk.root pass = (.error (.chunk .rootTaken), pass) := by
        simp [Chunk.root, bind_step, taken]
      rw [refused pass taken] at accepted ⊢
      exact ⟨accepted, refused _ taken⟩
    | false =>
      rw [Chunk.root_step taken] at accepted ⊢
      exact ⟨accepted, Chunk.root_step taken⟩

/-- What is done to a pass does not see its sink. -/
theorem perform (operation : Operation) : SinkBlind operation.perform := by
  cases operation with
  | root => exact root.discard
  | write chunk value =>
    refine (ensureOpen chunk .write).bind fun _ => ?_
    cases value with
    | null => exact pure ()
    | _ => exact (handle chunk).bind fun _ => (onTaps _).bind fun _ => onTree (append _ _)
  | tap chunk transform =>
    refine (ensureOpen chunk .tap).bind fun _ => ?_
    cases transform with
    | none => exact throw _
    | some transform => exact (onTaps _).bind fun _ => changeHandle chunk _
  | untap chunk =>
    exact (handle chunk).bind fun _ => (lift _).bind fun _ => changeHandle chunk _
  | branch chunk =>
    exact ((ensureOpen chunk .map).bind fun _ => (handle chunk).bind fun _ =>
      (onTree (fork _)).bind fun _ => (create _).bind fun _ => (changeHandle chunk _).bind fun _ =>
        pure _).discard
  | complete chunk =>
    refine (ensureOpen chunk .finish).bind fun _ => (handle chunk).bind fun held => ?_
    dsimp only
    split
    · exact (throw _).bind fun _ => (changeHandle chunk _).bind fun _ => onTree (complete _)
    · exact (changeHandle chunk _).bind fun _ => onTree (complete _)

end SinkBlind

end TemplateStream
