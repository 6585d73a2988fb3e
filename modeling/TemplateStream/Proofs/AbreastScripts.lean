import TemplateStream.Proofs.Omissions

/-!
# Scripts that go along

Scripts that are the same but for the bodies that they render go along on twins when rendering the
bodies does, be they run to their end or up to their next pause.
-/

namespace TemplateStream

open RenderTree Outline Relation

variable {omission : Omission} {sheds : Shedding} {bodies others : List (String × Body)}
  {depth : Nat} {context : Context}

/-- Rendering related bodies, with bodies nested to at most a depth, goes along on twins. -/
def Omission.RendersAlong (omission : Omission) (sheds : Shedding) (depth : Nat) : Prop :=
  ∀ ⦃twins : List Chunk⦄ ⦃chunk other : Chunk⦄ ⦃context : Context⦄ ⦃body held : Body⦄,
    sheds depth context body held → Twin twins chunk other →
    Along (omission.accord sheds) twins Twin (Body.renderTo depth body chunk context) fun marks =>
      omission.renderTo marks depth held other context

/-- Running scripts goes along on twins, in a context and for calls with bodies of their own. -/
def Omission.RunsAlong (omission : Omission) (sheds : Shedding)
    (bodies others : List (String × Body)) (depth : Nat) (context : Context)
    (script other : Script) : Prop :=
  ∀ ⦃twins : List Chunk⦄ ⦃scope held : Scope⦄, SameScope twins scope held →
    scope.bodies = bodies → held.bodies = others → scope.context = context →
    Along (omission.accord sheds) twins (SameOutcome (omission.accord sheds))
      (runScript (Body.renderTo depth) scope script) fun marks =>
        runScript (omission.renderTo marks depth) held other

/-- Running statements, whatever they give, goes along on twins. -/
def Omission.StepsAlong (omission : Omission) (sheds : Shedding)
    (bodies others : List (String × Body)) (depth : Nat) (context : Context)
    (statement other : Statement) : Prop :=
  ∀ ⦃twins : List Chunk⦄ ⦃scope held : Scope⦄, SameScope twins scope held →
    scope.bodies = bodies → held.bodies = others → scope.context = context →
    Along (omission.accord sheds) twins (fun _ _ _ => True)
      (discard (statement.run (Body.renderTo depth) scope)) fun marks =>
        discard (other.run (omission.renderTo marks depth) held)

/-! ## Statements -/

namespace StepsAlong

variable {script other : Script}

/-- Steps that go along do so when their results are not wanted. -/
theorem unwanted {accord : Accord} {twins : List Chunk} {α β : Type} {step : PassM α}
    {follow : Marks → PassM β} (along : Along accord twins (fun _ _ _ => True) step follow) :
    Along accord twins (fun _ _ _ => True) (discard step) fun marks => discard (follow marks) :=
  along.discard

/-- Steps whose result is not wanted go along when the steps do, whatever comes of them. -/
theorem of_step {accord : Accord} {twins : List Chunk} {α β γ δ : Type}
    {relates : List Chunk → α → β → Prop} {step : PassM α} {follow : Marks → PassM β}
    {value : α → γ} {result : β → δ} (along : Along accord twins relates step follow) :
    Along accord twins (fun _ _ _ => True) (discard (do pure (value (← step)))) fun marks =>
      discard (do pure (result (← follow marks))) :=
  unwanted (along.bind fun _ _ _ _ _ => .pure trivial)

/-- Steps of which nothing is wanted go along when they do. -/
theorem of_discard {accord : Accord} {twins : List Chunk} {α β γ δ : Type}
    {relates : List Chunk → α → β → Prop} {step : PassM α} {follow : Marks → PassM β} {value : γ}
    {result : δ} (along : Along accord twins relates step follow) :
    Along accord twins (fun _ _ _ => True) (do discard step; pure value) fun marks =>
      (do discard (follow marks); pure result) :=
  along.discard.bind fun _ _ _ _ _ => .pure trivial

theorem simple {statement : Statement} (simple : statement.isSimple = true) :
    omission.StepsAlong sheds bodies others depth context statement statement := by
  intro twins scope held same _ _ _
  obtain ⟨twin, inside, parameters⟩ := same
  cases statement with
  | write value => exact of_step (Along.write twin value)
  | get name default =>
    simp only [Statement.run]
    rw [inside]
    exact unwanted (Along.lifting fun value _ =>
      (Along.write twin value).bind fun _ _ _ _ _ => .pure trivial)
  | parameter key =>
    simp only [Statement.run, parameters]
    exact of_step (Along.write twin _)
  | logParameters =>
    simp only [Statement.run, parameters]
    exact of_step (Along.note _)
  | tap transform =>
    cases transform with
    | none => exact of_step (Along.tap_none twin)
    | some transform => cases simple
  | untap => exact of_step (Along.untap twin)
  | finish value => exact of_step (Along.finish twin value)
  | save name => exact of_step (Along.saveChunk name twin)
  | info =>
    simp only [Statement.run, inside]
    exact of_step (Along.write twin _)
  | openGate name => exact of_step (Along.openGate name)
  | log entry => exact of_step (Along.note entry)
  | raise fault => exact unwanted (.throw fault)
  | sleep milliseconds | gate name =>
    exact unwanted (.pure trivial)
  | answer result | render body value | body name value | map script | spawn script
  | on name script | within value script | iterate index length script => cases simple

theorem tap (transform : String → String) :
    omission.StepsAlong sheds bodies others depth context (.tap (some (.total transform)))
      (.tap (some (.total transform))) :=
  fun _ _ _ same _ _ _ => of_step (Along.tap same.twin transform)

theorem render (renders : omission.RendersAlong sheds depth) {body held : Body}
    {value : Option Value} (related : sheds depth (context.pushed value) body held) :
    omission.StepsAlong sheds bodies others depth context (.render body value)
      (.render held value) := by
  intro twins scope held' same _ _ inside
  simp only [Statement.run, ← same.context, inside]
  exact of_step (renders related same.twin)

theorem body (renders : omission.RendersAlong sheds depth) {name : String} {value : Option Value}
    (related : sheds depth (context.pushed value) (bodyNamed bodies name) (bodyNamed others name)) :
    omission.StepsAlong sheds bodies others depth context (.body name value)
      (.body name value) := by
  intro twins scope held same own theirs inside
  simp only [Statement.run, ← same.context, inside, own, theirs]
  exact of_step (renders related same.twin)

theorem map (inner : omission.RunsAlong sheds bodies others depth context script other) :
    omission.StepsAlong sheds bodies others depth context (.map script) (.map other) :=
  fun _ _ _ same own theirs inside => of_step (Along.map same.twin fun _ _ _ _ twin =>
    inner ⟨twin, same.context, same.parameters⟩ own theirs inside)

theorem spawn
    (inner : Script.Sheds sheds bodies others Body.nestingLimit context script other) :
    omission.StepsAlong sheds bodies others depth context (.spawn script) (.spawn other) := by
  intro twins scope held same own theirs inside
  refine of_step (Along.map same.twin fun later branch twin grows branches => .pure ?_)
  refine .awaitable (.run ⟨branches, same.context, same.parameters⟩ ?_ .leave)
  rw [← own, ← theirs, ← inside] at inner
  exact inner

theorem on (name : String)
    (inner : omission.RunsAlong sheds bodies others depth context script other) :
    omission.StepsAlong sheds bodies others depth context (.on name script) (.on name other) := by
  intro twins scope held same own theirs inside
  refine unwanted ?_
  exact (Along.savedChunk name).bind fun later chunk twin grows branches =>
    of_discard (inner ⟨branches, same.context, same.parameters⟩ own theirs inside)

theorem within {value : Value}
    (inner : omission.RunsAlong sheds bodies others depth (context.push value) script other) :
    omission.StepsAlong sheds bodies others depth context (.within value script)
      (.within value other) := by
  intro twins scope held same own theirs inside
  have scopes : SameScope twins { scope with context := scope.context.push value }
      { held with context := held.context.push value } :=
    ⟨same.twin, congrArg (·.push value) same.context, same.parameters⟩
  exact unwanted
    (of_discard (inner scopes own theirs (congrArg (·.push value) inside)))

theorem iterate {index length : Option Int}
    (inner : omission.RunsAlong sheds bodies others depth (context.push .null index length) script
      other) :
    omission.StepsAlong sheds bodies others depth context (.iterate index length script)
      (.iterate index length other) := by
  intro twins scope held same own theirs inside
  have scopes : SameScope twins { scope with context := scope.context.push .null index length }
      { held with context := held.context.push .null index length } :=
    ⟨same.twin, congrArg (·.push .null index length) same.context, same.parameters⟩
  exact unwanted
    (of_discard (inner scopes own theirs (congrArg (·.push .null index length) inside)))

end StepsAlong

/-! ## Scripts -/

/-- Answering a script goes along. -/
theorem Along.answer {twins : List Chunk} {scope held : Scope} (same : SameScope twins scope held)
    (result : Answer) :
    Along (omission.accord sheds) twins (SameOutcome (omission.accord sheds)) (result.outcome scope)
      fun _ => result.outcome held := by
  cases result with
  | chunk => exact .pure (.chunk same.twin)
  | awaitable => exact .pure (.awaitable .idle)
  | value result => exact .pure (.value result)
  | parameter key =>
    simp only [Answer.outcome, same.parameters]
    exact .pure (.value _)
  | context name =>
    rw [Answer.outcome, Answer.outcome, same.context]
    exact Along.lifting fun value _ => .pure (.value value)
  | saved name => exact (Along.savedChunk name).bind fun _ _ _ _ twin => .pure (.chunk twin)

/-- A script goes on after a statement that does not end it. -/
theorem runScript_cons {render : RenderBody} {scope : Scope} {statement : Statement} {rest : Script}
    (goesOn : ∀ result, statement ≠ .answer result) :
    runScript render scope (statement :: rest) = (do
      discard (statement.run render scope)
      runScript render scope rest) := by
  cases statement with
  | answer result => exact absurd rfl (goesOn result)
  | _ => rfl

section scripts

variable {script other : Script}

/-- Scripts go along when their first statements and the others do. -/
theorem Omission.StepsAlong.runs {statement held : Statement} {rest left : Script}
    (first : omission.StepsAlong sheds bodies others depth context statement held)
    (goesOn : ∀ result, statement ≠ .answer result) (goesOnToo : ∀ result, held ≠ .answer result)
    (second : omission.RunsAlong sheds bodies others depth context rest left) :
    omission.RunsAlong sheds bodies others depth context (statement :: rest) (held :: left) := by
  intro twins scope held' same own theirs inside
  simp only [runScript_cons goesOn, runScript_cons goesOnToo]
  exact (first same own theirs inside).bind fun later _ _ grows _ =>
    second (same.mono grows) own theirs inside

/-- Running scripts to their end goes along. -/
theorem Script.Sheds.runs (scripts : Script.Sheds sheds bodies others depth context script other)
    (renders : omission.RendersAlong sheds depth) :
    omission.RunsAlong sheds bodies others depth context script other := by
  induction scripts with
  | nil => exact fun _ _ _ _ _ _ _ => .pure .nothing
  | answer result rest others => exact fun _ _ _ same _ _ _ => Along.answer same result
  | @simple _ _ statement _ _ simple _ ih =>
    have goesOn (result : Answer) : statement ≠ .answer result := by
      rintro rfl
      cases simple
    exact (StepsAlong.simple simple).runs goesOn goesOn (ih renders)
  | tap transform _ ih => exact (StepsAlong.tap transform).runs nofun nofun (ih renders)
  | render value related _ ih =>
    exact (StepsAlong.render renders related).runs nofun nofun (ih renders)
  | body name value related _ ih =>
    exact (StepsAlong.body renders related).runs nofun nofun (ih renders)
  | map _ _ inner ih => exact (StepsAlong.map (inner renders)).runs nofun nofun (ih renders)
  | spawn scripts _ _ ih => exact (StepsAlong.spawn scripts).runs nofun nofun (ih renders)
  | on name _ _ inner ih => exact (StepsAlong.on name (inner renders)).runs nofun nofun (ih renders)
  | within value _ _ inner ih =>
    exact (StepsAlong.within (inner renders)).runs nofun nofun (ih renders)
  | iterate index length _ _ inner ih =>
    exact (StepsAlong.iterate (inner renders)).runs nofun nofun (ih renders)

/-- How far two scripts got is the same, and what is left of them does the same. -/
inductive SameProgress (omission : Omission) (sheds : Shedding)
    (bodies others : List (String × Body)) (depth : Nat) (context : Context)
    (twins : List Chunk) : Progress → Progress → Prop where
  | finished {outcome result : Outcome}
      (same : SameOutcome (omission.accord sheds) twins outcome result) :
      SameProgress omission sheds bodies others depth context twins (.finished outcome)
        (.finished result)
  | paused (pause : Pause) {rest left : Script}
      (scripts : Script.Sheds sheds bodies others depth context rest left) :
      SameProgress omission sheds bodies others depth context twins (.paused pause rest)
        (.paused pause left)

/-- Running scripts up to their next pause goes along on twins. -/
def Omission.AdvancesAlong (omission : Omission) (sheds : Shedding)
    (bodies others : List (String × Body)) (depth : Nat) (context : Context)
    (script other : Script) : Prop :=
  ∀ ⦃twins : List Chunk⦄ ⦃scope held : Scope⦄, SameScope twins scope held →
    scope.bodies = bodies → held.bodies = others → scope.context = context →
    Along (omission.accord sheds) twins (SameProgress omission sheds bodies others depth context)
      (advance (Body.renderTo depth) scope script) fun marks =>
        advance (omission.renderTo marks depth) held other

/-- Scripts go along when their first statements and the others do, unless they pause there. -/
theorem Omission.StepsAlong.advances {statement held : Statement} {rest left : Script}
    (first : omission.StepsAlong sheds bodies others depth context statement held)
    (goesOn : ∀ render scope, advance render scope (statement :: rest) = (do
      discard (statement.run render scope)
      advance render scope rest))
    (goesOnToo : ∀ render scope, advance render scope (held :: left) = (do
      discard (held.run render scope)
      advance render scope left))
    (second : omission.AdvancesAlong sheds bodies others depth context rest left) :
    omission.AdvancesAlong sheds bodies others depth context (statement :: rest)
      (held :: left) := by
  intro twins scope held' same own theirs inside
  simp only [goesOn, goesOnToo]
  exact (first same own theirs inside).bind fun later _ _ grows _ =>
    second (same.mono grows) own theirs inside

/-- Running scripts up to their next pause goes along. -/
theorem Script.Sheds.advances
    (scripts : Script.Sheds sheds bodies others depth context script other)
    (renders : omission.RendersAlong sheds depth) :
    omission.AdvancesAlong sheds bodies others depth context script other := by
  induction scripts with
  | nil => exact fun _ _ _ _ _ _ _ => .pure (.finished .nothing)
  | answer result rest others =>
    exact fun _ _ _ same _ _ _ =>
      (Along.answer same result).bind fun _ _ _ _ same => .pure (.finished same)
  | @simple depth context statement rest left simple scripts ih =>
    have first : omission.StepsAlong sheds bodies others depth context statement statement :=
      StepsAlong.simple simple
    have second := ih renders
    cases statement with
    | sleep milliseconds => exact fun _ _ _ _ _ _ _ => .pure (.paused _ scripts)
    | gate name =>
      exact fun _ _ _ same own theirs inside => Along.whenOpen name (second same own theirs inside)
        (.pure (.paused (.gate name) scripts))
    | answer result => cases simple
    | _ => exact first.advances (fun _ _ => rfl) (fun _ _ => rfl) second
  | tap transform _ ih =>
    exact (StepsAlong.tap transform).advances (fun _ _ => rfl) (fun _ _ => rfl) (ih renders)
  | render value related _ ih =>
    exact (StepsAlong.render renders related).advances (fun _ _ => rfl) (fun _ _ => rfl)
      (ih renders)
  | body name value related _ ih =>
    exact (StepsAlong.body renders related).advances (fun _ _ => rfl) (fun _ _ => rfl) (ih renders)
  | map scripts _ _ ih =>
    exact (StepsAlong.map (scripts.runs renders)).advances (fun _ _ => rfl) (fun _ _ => rfl)
      (ih renders)
  | spawn scripts _ _ ih =>
    exact (StepsAlong.spawn scripts).advances (fun _ _ => rfl) (fun _ _ => rfl) (ih renders)
  | on name scripts _ _ ih =>
    exact (StepsAlong.on name (scripts.runs renders)).advances (fun _ _ => rfl) (fun _ _ => rfl)
      (ih renders)
  | within value scripts _ _ ih =>
    exact (StepsAlong.within (scripts.runs renders)).advances (fun _ _ => rfl) (fun _ _ => rfl)
      (ih renders)
  | iterate index length scripts _ _ ih =>
    exact (StepsAlong.iterate (scripts.runs renders)).advances (fun _ _ => rfl) (fun _ _ => rfl)
      (ih renders)

end scripts

end TemplateStream
