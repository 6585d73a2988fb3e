import TemplateStream.Proofs.ChunkSteps
import TemplateStream.Proofs.Forms
import TemplateStream.Proofs.Lasting

/-!
# Rendering what is composed

A ready-made body is rendered by rendering what it is made of. Both ways are shown here: a
rendering that succeeds and for which no failed helper had to be answered for does just that, and
when what a body is made of can be rendered so can the body.
-/

namespace TemplateStream

/-! ## Recoveries -/

/-- Recoveries are only ever added. -/
theorem recoveries_lasting :
    Lasting fun pass after => pass.recoveries <+: after.recoveries where
  trans := List.IsPrefix.trans
  elsewhere _ same _ := same ▸ List.prefix_rfl
  append _ _ _ := List.prefix_rfl
  fork _ _ := List.prefix_rfl
  complete _ _ := List.prefix_rfl
  recovery _ _ _ := List.prefix_append ..

/-- Whatever is done, recoveries are only ever added. -/
theorem recoveries_endure : Abiding fun pass after => pass.recoveries <+: after.recoveries where
  toEnduring := recoveries_lasting.enduring
  failure _ _ := List.prefix_rfl

/-- What grew in two parts and is the same in the end grew in neither of them. -/
theorem prefix_between {α : Type} {first middle last : List α} (early : first <+: middle)
    (late : middle <+: last) (same : last = first) : middle = first ∧ last = middle := by
  rw [same] at late ⊢
  have equal : middle = first :=
    late.eq_of_length (Nat.le_antisymm late.length_le early.length_le)
  exact ⟨equal, equal.symm⟩

/-- Who answers for a helper notes it. -/
theorem HelperCall.recover_grows {render : RenderBody} {call : HelperCall} {chunk next : Chunk}
    {context : Context} {depth : Nat} {fault : Fault} {pass after : Pass}
    (rendered : Enduring.Renders (fun pass after => pass.recoveries <+: after.recoveries) render)
    (recovered : call.recover render chunk context depth fault pass = (.ok next, after)) :
    after.recoveries ≠ pass.recoveries := by
  have noted {step : PassM Chunk}
      (kept : Keeps (fun pass after => pass.recoveries <+: after.recoveries) step)
      (ran : (Pass.noteRecovery call.helper fault >>= fun _ => step) pass = (.ok next, after)) :
      after.recoveries ≠ pass.recoveries := by
    obtain ⟨_, middle, note, rest⟩ := bind_ok ran
    cases note
    intro same
    have grown : (pass.recoveries ++ [(call.helper, fault)]).length ≤ after.recoveries.length :=
      (kept.after rest).length_le
    rw [same, List.length_append, List.length_singleton] at grown
    exact Nat.not_succ_le_self _ grown
  simp only [HelperCall.recover] at recovered
  split at recovered
  · obtain ⟨_, _, failed, _⟩ := bind_ok recovered
    cases failed
  · cases named : bodyNamed call.bodies "error" with
    | absent =>
      simp only [named] at recovered
      split at recovered
      · refine noted ?_ recovered
        refine recoveries_endure.bind (recoveries_endure.untapTo chunk depth) fun _ => ?_
        refine recoveries_endure.bind (recoveries_endure.lift _) fun _ => ?_
        exact recoveries_endure.bind (recoveries_endure.write chunk _) fun _ =>
          recoveries_endure.pure chunk
      · cases recovered
    | _ =>
      simp only [named] at recovered
      refine noted ?_ recovered
      exact recoveries_endure.bind (recoveries_endure.untapTo chunk depth) fun _ =>
        rendered _ _ _

/-! ## Rendering at once -/

/-- Renders several bodies in order. -/
def renderSites (render : RenderBody) (chunk : Chunk) (sites : List Site) : PassM Chunk :=
  sites.foldlM (fun chunk site => render site.2 chunk site.1) chunk

/-- Renders what is composed, at once even if it is to be rendered later. -/
def Composition.render (render : RenderBody) (chunk : Chunk) : Composition → PassM Chunk
  | .texts content =>
    content.foldlM (fun chunk text => do
      chunk.write (.text text)
      pure chunk) chunk
  | .parts sites | .later sites => renderSites render chunk sites
  | .tapped transform site => do
    chunk.tap (some (.total transform))
    let next ← render site.2 chunk site.1
    next.untap
    pure next

section

variable {render : RenderBody} {chunk next : Chunk} {context : Context} {pass after : Pass}

/-- Bodies that are rendered in order without a recovery are so rendered one by one. -/
theorem renderSites_cons {site : Site} {rest : List Site}
    (lasting : Enduring.Renders (fun pass after => pass.recoveries <+: after.recoveries) render)
    (rendered : renderSites render chunk (site :: rest) pass = (.ok next, after))
    (unrecovered : after.recoveries = pass.recoveries) :
    ∃ first middle, render site.2 chunk site.1 pass = (.ok first, middle) ∧
      middle.recoveries = pass.recoveries ∧
      renderSites render first rest middle = (.ok next, after) ∧
      after.recoveries = middle.recoveries := by
  obtain ⟨first, middle, start, others⟩ := bind_ok rendered
  have early := (lasting site.2 chunk site.1).after start
  have late := (recoveries_endure.foldlM (fun chunk site => lasting site.2 chunk site.1) rest
    first).after others
  obtain ⟨before, behind⟩ := prefix_between early late unrecovered
  exact ⟨first, middle, start, before, others, behind⟩

/-- A body that is rendered under a further tap without a recovery is so rendered between the
installation of the tap and its removal. -/
theorem render_tapped {transform : String → String} {site : Site}
    (lasting : Enduring.Renders (fun pass after => pass.recoveries <+: after.recoveries) render)
    (rendered : (Composition.tapped transform site).render render chunk pass = (.ok next, after))
    (unrecovered : after.recoveries = pass.recoveries) :
    ∃ tapped inside, chunk.tap (some (.total transform)) pass = (.ok (), tapped) ∧
      render site.2 chunk site.1 tapped = (.ok next, inside) ∧
      inside.recoveries = tapped.recoveries ∧ next.untap inside = (.ok (), after) := by
  obtain ⟨_, tapped, tap, rest⟩ := bind_ok rendered
  obtain ⟨_, inside, block, final⟩ := bind_ok rest
  obtain ⟨_, _, untap, done⟩ := bind_ok final
  cases done
  have early := (recoveries_endure.tap chunk _).after tap
  have within := (lasting site.2 chunk site.1).after block
  have late := (recoveries_endure.untap next).after untap
  obtain ⟨_, behind⟩ := prefix_between early (within.trans late) unrecovered
  obtain ⟨unanswered, _⟩ := prefix_between within late behind
  exact ⟨tapped, inside, tap, block, unanswered, untap⟩

/-- Rendering one body is rendering it alone. -/
theorem renderSites_singleton (site : Site) :
    renderSites render chunk [site] pass = render site.2 chunk site.1 pass := by
  rw [renderSites, List.foldlM_cons, bind_step]
  rcases render site.2 chunk site.1 pass with ⟨fault | next, after⟩ <;> rfl

/-- Writing one text is writing it alone. -/
theorem render_text (content : String) :
    (Composition.texts [content]).render render chunk pass =
      (do chunk.write (.text content); pure chunk : PassM Chunk) pass := by
  rw [Composition.render, List.foldlM_cons, bind_step]
  rcases (do chunk.write (.text content); pure chunk : PassM Chunk) pass
    with ⟨fault | next, after⟩ <;> rfl

/-- A reference writes its texts. -/
theorem write_reference {path : String} {escape : Option Bool} {value : Value}
    (got : context.get path = .ok value) :
    (Body.reference path escape).write render chunk context pass =
      (Composition.texts (referenceTexts value
        (escape.getD ((context.environment.map Environment.escapes).getD true)))).render
        render chunk pass := by
  by_cases absent : value = .null
  · subst absent
    simp only [Body.write, bind_step, got, liftExcept_step]
    rfl
  · have texts (escapes : Bool) :
        referenceTexts value escapes = [Body.referenceText value escapes] := by
      cases value <;> first | rfl | exact absurd rfl absent
    rw [texts, render_text]
    simp only [Body.write, bind_step, got, liftExcept_step]

/-- A sequence renders its bodies in order. -/
theorem write_sequence (bodies : List Body) :
    (Body.sequence bodies).write render chunk context =
      renderSites render chunk (bodies.map fun body => (context, body)) := by
  rw [renderSites, List.foldlM_map]
  rfl

/-- A section renders what it selects. -/
theorem write_each {path : String} {block otherwise : Body} {value : Value}
    (got : context.get path = .ok value) :
    (Body.each path block otherwise).write render chunk context pass =
      renderSites render chunk (sectionSites context value block otherwise) pass := by
  simp only [Body.write, bind_step, got, liftExcept_step, sectionSites]
  cases listed : value.items? with
  | none =>
    cases truthy : value.isTruthy with
    | false =>
      simp only [Bool.not_false, if_true]
      exact (renderSites_singleton (context, otherwise)).symm
    | true =>
      simp only [Bool.not_true, Bool.false_eq_true, if_false]
      cases value with
      | mapping entries =>
        exact (renderSites_singleton (context.push (.mapping entries), block)).symm
      | _ => exact (renderSites_singleton (context, block)).symm
  | some items =>
    cases items with
    | nil => exact (renderSites_singleton (context, otherwise)).symm
    | cons item rest => simp only [renderSites, List.foldlM_map]

/-- An embedded template is rendered by its own name, under the values that it was given. -/
theorem write_embed {name : String} {values : List (String × Value)} {body : Body}
    {environment : Environment} (known : context.environment = some environment)
    (got : environment.templates.get name = .ok body) :
    (Body.embed name values).write render chunk context pass =
      renderSites render chunk [(context.embedded name values, body)] pass := by
  rw [renderSites_singleton]
  simp only [Body.write, known, bind_step, got, liftExcept_step]
  rfl

/-- The separator leaves its block out at the last item. -/
theorem invoke_sep (scope : Scope) :
    (HelperFunction.builtin .sep).invoke render scope =
      if scope.context.atLast then pure (.chunk scope.chunk)
      else HelperFunction.invoke.block render scope := by
  cases position : scope.context.position <;>
    simp [HelperFunction.invoke, Context.atLast, position]

/-- A helper that comes with every registry never answers with something to be awaited. -/
theorem builtin_not_awaitable {which : Builtin} {scope : Scope} {work : Work} :
    (HelperFunction.builtin which).invoke render scope pass ≠ (.ok (.awaitable work), after) := by
  intro answered
  have block : HelperFunction.invoke.block render scope pass ≠
      (.ok (.awaitable work), after) := by
    intro answered
    obtain ⟨_, _, _, done⟩ := bind_ok answered
    cases done
  cases which with
  | upper | lower =>
    obtain ⟨_, _, _, rest⟩ := bind_ok answered
    obtain ⟨_, _, _, rest⟩ := bind_ok rest
    obtain ⟨_, _, _, done⟩ := bind_ok rest
    cases done
  | eq => cases answered
  | sep =>
    rw [invoke_sep] at answered
    split at answered
    · cases answered
    · exact block answered
  | defer => exact block answered

/-- Calling a helper that comes with every registry, and going on with its outcome, renders what
the call is made of. -/
theorem invoke_proceed {which : Builtin} {parameters : Table Value}
    {composition : Composition} (call : HelperCall) (synchronous : which ≠ .defer)
    (composed : (HelperFunction.builtin which).composition context call.bodies parameters =
      some composition) :
    ((HelperFunction.builtin which).invoke render (call.scope chunk context parameters) >>=
        call.proceed render chunk context) pass =
      composition.render render chunk pass := by
  cases which with
  | upper | lower =>
    cases composed
    simp only [HelperFunction.invoke, HelperFunction.invoke.tapped, bind_assoc, pure_bind]
    rfl
  | eq =>
    cases composed
    simp only [HelperFunction.invoke, pure_bind, HelperCall.proceed, HelperCall.scope,
      Composition.render]
    cases bodiless : call.bodies.isEmpty with
    | true => rfl
    | false =>
      simp only [Bool.not_false, if_true, Bool.false_eq_true, if_false, Value.isTruthy,
        renderSites_singleton]
      rfl
  | sep =>
    cases composed
    rw [invoke_sep]
    cases last : context.atLast with
    | true => simp [HelperCall.scope, last, HelperCall.proceed, Composition.render, renderSites]
    | false =>
      simp only [HelperCall.scope, last, Bool.false_eq_true, if_false,
        HelperFunction.invoke.block, bind_assoc, pure_bind, Composition.render,
        renderSites_singleton, HelperCall.proceed, bind_pure]
  | defer => exact absurd rfl synchronous

/-- The outcome of a helper is what its function answers under its resolved parameters. -/
theorem outcome_ok {call : HelperCall} {helper : Helper} {outcome : Outcome}
    (answered : call.outcome render helper chunk context pass = (.ok outcome, after)) :
    ∃ parameters,
      Parameter.resolve helper (.ofList call.parameters) (some context) = .ok parameters ∧
      helper.function.invoke render (call.scope chunk context parameters) pass =
        (.ok outcome, after) := by
  obtain ⟨parameters, _, lifted, invocation⟩ := bind_ok answered
  obtain ⟨resolved, rfl⟩ := liftExcept_ok lifted
  obtain ⟨given, middle, invoked, checked⟩ := bind_ok invocation
  refine ⟨parameters, resolved, ?_⟩
  cases given with
  | awaitable work => cases checked
  | nothing | value _ | chunk _ =>
    cases checked
    exact invoked

/-- A helper that is no asynchronous one is called on the chunk itself, and a fault of it is
answered for unless it is structural. -/
theorem perform_step {call : HelperCall} {environment : Environment} {helper : Helper}
    {handle : Handle} (known : context.environment = some environment)
    (got : environment.helpers.get call.helper = .ok helper)
    (immediate : helper.function.isAsync = false)
    (found : pass.handles[chunk.number]? = some handle) :
    call.perform render chunk context pass =
      match call.outcome render helper chunk context pass with
      | (.ok outcome, middle) => call.proceed render chunk context outcome middle
      | (.error fault, middle) =>
        if fault.kind.isStructural then (.error fault, middle)
        else call.recover render chunk context handle.taps.depth fault middle := by
  simp only [HelperCall.perform, known, bind_step, got, liftExcept_step, immediate,
    Bool.false_eq_true, if_false, Chunk.tapDepth_step found, attempt_step]
  rcases call.outcome render helper chunk context pass with ⟨fault | outcome, middle⟩
  · dsimp only
    split <;> rfl
  · rfl

/-- The helpers of plain calls are called on the chunk itself. -/
theorem isAsync_of_builtin {helper : Helper} {which : Builtin}
    (builtin : helper.function = .builtin which) (synchronous : which ≠ .defer) :
    helper.function.isAsync = false := by
  rw [builtin]
  cases which <;> first | rfl | exact absurd rfl synchronous

/-- A call of a plain helper is made of something once its parameters are resolved. -/
theorem builtin_composition (which : Builtin) (context : Context)
    (bodies : List (String × Body)) (parameters : Table Value) :
    ∃ composition, (HelperFunction.builtin which).composition context bodies parameters =
      some composition := by
  cases which <;> exact ⟨_, rfl⟩

/-- A call that succeeds without a recovery renders what it is made of. -/
theorem composition_of_perform {name : String} {bodies : List (String × Body)}
    {given : List (String × Value)} {handle : Handle}
    (rendered : Enduring.Renders (fun pass after => pass.recoveries <+: after.recoveries) render)
    (plain : (Body.call name bodies given).IsPlain context)
    (foundHandle : pass.handles[chunk.number]? = some handle)
    (performed : HelperCall.perform render ⟨name, bodies, given⟩ chunk context pass =
      (.ok next, after))
    (unrecovered : after.recoveries = pass.recoveries) :
    ∃ composition, (Body.call name bodies given).composition context = some composition ∧
      composition.render render chunk pass = (.ok next, after) := by
  cases known : context.environment with
  | none =>
    simp only [HelperCall.perform, known] at performed
    cases performed
  | some environment =>
    have called := performed
    simp only [HelperCall.perform, known] at called
    obtain ⟨helper, _, got, _⟩ := bind_ok called
    obtain ⟨found, _⟩ := liftExcept_ok got
    obtain ⟨which, builtin, synchronous⟩ :=
        HelperFunction.isPlain_iff.mp (plain environment helper known found)
    have immediate := isAsync_of_builtin builtin synchronous
    rw [perform_step known found immediate foundHandle] at performed
    rcases answered : HelperCall.outcome render ⟨name, bodies, given⟩ helper chunk context pass
      with ⟨fault | outcome, middle⟩
    · rw [answered] at performed
      dsimp only at performed
      split at performed
      · cases performed
      · have early := (recoveries_endure.outcome rendered ⟨name, bodies, given⟩ helper chunk
          context).after answered
        have late := (recoveries_endure.recover rendered ⟨name, bodies, given⟩ chunk context
          handle.taps.depth fault).after performed
        exact absurd (prefix_between early late unrecovered).2
          (HelperCall.recover_grows rendered performed)
    · rw [answered] at performed
      obtain ⟨parameters, resolved, invoked⟩ := outcome_ok answered
      obtain ⟨composition, composed⟩ := builtin_composition which context bodies parameters
      refine ⟨composition, ?_, ?_⟩
      · rw [Body.composition_call known found resolved, builtin, composed]
      · rw [builtin] at invoked
        rw [← invoke_proceed ⟨name, bodies, given⟩ synchronous composed, bind_step, invoked]
        exact performed

/-- A plain call can be performed when what it is made of can be rendered. -/
theorem perform_of_composition {name : String} {bodies : List (String × Body)}
    {given : List (String × Value)} {handle : Handle} {composition : Composition}
    (plain : (Body.call name bodies given).IsPlain context)
    (foundHandle : pass.handles[chunk.number]? = some handle)
    (composed : (Body.call name bodies given).composition context = some composition)
    (performed : composition.render render chunk pass = (.ok next, after)) :
    HelperCall.perform render ⟨name, bodies, given⟩ chunk context pass = (.ok next, after) := by
  obtain ⟨environment, helper, parameters, which, known, found, resolved, builtin, composed⟩ :=
    Body.call_composed composed
  obtain ⟨other, same, synchronous⟩ :=
    HelperFunction.isPlain_iff.mp (plain environment helper known found)
  obtain rfl : which = other := HelperFunction.builtin.inj (builtin.symm.trans same)
  rw [← invoke_proceed ⟨name, bodies, given⟩ synchronous composed] at performed
  obtain ⟨outcome, middle, invoked, proceeded⟩ := bind_ok performed
  have answered : HelperCall.outcome render ⟨name, bodies, given⟩ helper chunk context pass =
      (.ok outcome, middle) := by
    simp only [HelperCall.outcome, bind_step, resolved, liftExcept_step, builtin, invoked]
    cases outcome with
    | awaitable work => exact absurd invoked builtin_not_awaitable
    | nothing | value _ | chunk _ => rfl
  rw [perform_step known found (isAsync_of_builtin builtin synchronous) foundHandle, answered]
  exact proceeded

/-- A call of a helper that is asynchronous is left to work on a branch. -/
theorem write_asynchronous {name : String} {bodies : List (String × Body)}
    {given : List (String × Value)} {environment : Environment} {helper : Helper}
    (known : context.environment = some environment)
    (got : environment.helpers.get name = .ok helper)
    (asynchronous : helper.function.isAsync = true) :
    (Body.call name bodies given).write render chunk context = (do
      chunk.map fun branch =>
        pure (.awaitable (.invoke ⟨name, bodies, given⟩ helper branch context))
      pure chunk) := by
  funext pass
  simp only [Body.write, HelperCall.perform, known, bind_step, got, liftExcept_step, asynchronous,
    if_true]

/-- A call that renders its block later is left to work on a branch. -/
theorem write_defer {name : String} {bodies : List (String × Body)}
    {given : List (String × Value)} {environment : Environment} {helper : Helper}
    (known : context.environment = some environment)
    (got : environment.helpers.get name = .ok helper)
    (defers : helper.function = .builtin .defer) :
    (Body.call name bodies given).write render chunk context = (do
      chunk.map fun branch =>
        pure (.awaitable (.invoke ⟨name, bodies, given⟩ helper branch context))
      pure chunk) :=
  write_asynchronous known got (by rw [defers]; rfl)

/-- A plain body that is rendered without a recovery renders what it is made of. -/
theorem composition_of_write {body : Body} {handle : Handle}
    (rendered : Enduring.Renders (fun pass after => pass.recoveries <+: after.recoveries) render)
    (plain : body.IsPlain context) (found : pass.handles[chunk.number]? = some handle)
    (wrote : body.write render chunk context pass = (.ok next, after))
    (unrecovered : after.recoveries = pass.recoveries) :
    ∃ composition, body.composition context = some composition ∧
      composition.render render chunk pass = (.ok next, after) := by
  cases body with
  | text content => exact ⟨_, rfl, (render_text content).trans wrote⟩
  | reference path escape =>
    obtain ⟨value, _, got, _⟩ := bind_ok wrote
    obtain ⟨got, _⟩ := liftExcept_ok got
    exact ⟨_, Body.composition_reference got escape, (write_reference got).symm.trans wrote⟩
  | sequence bodies =>
    rw [write_sequence] at wrote
    exact ⟨_, rfl, wrote⟩
  | each path block otherwise =>
    obtain ⟨value, _, got, _⟩ := bind_ok wrote
    obtain ⟨got, _⟩ := liftExcept_ok got
    exact ⟨_, Body.composition_each got block otherwise, (write_each got).symm.trans wrote⟩
  | embed name values =>
    cases known : context.environment with
    | none =>
      simp only [Body.write, known] at wrote
      cases wrote
    | some environment =>
      have embedded := wrote
      simp only [Body.write, known] at embedded
      obtain ⟨body, _, got, _⟩ := bind_ok embedded
      obtain ⟨got, _⟩ := liftExcept_ok got
      exact ⟨_, Body.composition_embed known got values,
        (write_embed known got).symm.trans wrote⟩
  | call name bodies given => exact composition_of_perform rendered plain found wrote unrecovered
  | absent => exact ⟨_, rfl, wrote⟩
  | callback script | function name script | deferred style name script | inert value =>
    exact absurd plain (by simp [Body.IsReadyMade])

/-- A plain body can be rendered when what it is made of can. -/
theorem write_of_composition {body : Body} {handle : Handle} {composition : Composition}
    (plain : body.IsPlain context) (found : pass.handles[chunk.number]? = some handle)
    (composed : body.composition context = some composition)
    (performed : composition.render render chunk pass = (.ok next, after)) :
    body.write render chunk context pass = (.ok next, after) := by
  cases body with
  | text content =>
    cases composed
    exact (render_text content).symm.trans performed
  | reference path escape =>
    obtain ⟨value, got, rfl⟩ := Body.reference_composed composed
    exact (write_reference got).trans performed
  | sequence bodies =>
    cases composed
    rw [write_sequence]
    exact performed
  | each path block otherwise =>
    obtain ⟨value, got, rfl⟩ := Body.each_composed composed
    exact (write_each got).trans performed
  | embed name values =>
    obtain ⟨environment, body, known, got, rfl⟩ := Body.embed_composed composed
    exact (write_embed known got).trans performed
  | call name bodies given => exact perform_of_composition plain found composed performed
  | absent =>
    cases composed
    exact performed
  | callback script | function name script | deferred style name script | inert value =>
    exact absurd plain (by simp [Body.IsReadyMade])

end

end TemplateStream
