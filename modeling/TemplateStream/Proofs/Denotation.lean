import TemplateStream.Proofs.Composing
import TemplateStream.Proofs.Owing

/-!
# Rendering writes the meaning

A ready-made body that is rendered successfully, without a helper having failed, has a meaning in
its context, and its rendering writes just that: each text of the meaning passes through the taps
of the chunk into its record, and nothing else in the pass changes.
-/

namespace TemplateStream

open RenderTree

/-- Passes texts through every tap one after the other. -/
def TapStack.applyEach (stack : TapStack) (texts : List String) : TapM (List String) :=
  texts.mapM stack.apply

section applyEach

variable {stack : TapStack} {first second fragments others : List String}
  {memory middle last : TapMemory}

/-- Texts that pass through taps in two parts do so at once. -/
theorem TapStack.applyEach_append (early : stack.applyEach first memory = (.ok fragments, middle))
    (late : stack.applyEach second middle = (.ok others, last)) :
    stack.applyEach (first ++ second) memory = (.ok (fragments ++ others), last) := by
  simp only [TapStack.applyEach] at early late
  simp only [TapStack.applyEach, List.mapM_append, bind_step, early, late, pure_step]

/-- A single text passes through taps as it does alone. -/
theorem TapStack.applyEach_singleton {text fragment : String}
    (applied : stack.apply text memory = (.ok fragment, last)) :
    stack.applyEach [text] memory = (.ok [fragment], last) := by
  simp only [TapStack.applyEach, List.mapM_cons, List.mapM_nil, bind_step, applied, pure_step]

/-- Without taps texts stay as they are. -/
theorem TapStack.applyEach_empty (texts : List String) :
    ({} : TapStack).applyEach texts memory = (.ok texts, memory) := by
  induction texts with
  | nil => rfl
  | cons text rest ih =>
    have front : ({} : TapStack).applyEach [text] memory = (.ok [text], memory) := rfl
    exact TapStack.applyEach_append front ih

/-- A tap that refuses nothing changes the texts before they pass through the older taps. -/
theorem TapStack.applyEach_push (transform : String → String) (texts : List String) :
    (stack.push (.stateless (.ok ∘ transform))).applyEach texts memory =
      stack.applyEach (texts.map transform) memory := by
  rw [TapStack.applyEach, TapStack.applyEach, List.mapM_map]
  rfl

end applyEach

/-- A pass only changed in that texts were written through a chunk. -/
def Pass.Wrote (pass : Pass) (chunk : Chunk) (texts : List String) (after : Pass) : Prop :=
  ∃ handle fragments memory,
    pass.handles[chunk.number]? = some handle ∧ handle.complete = false ∧
    handle.taps.applyEach texts pass.memory = (.ok fragments, memory) ∧
    after = pass.wrote handle fragments memory

/-- Receiving texts in two parts is receiving them at once. -/
theorem RenderTree.received_received (tree : RenderTree) (index : Nat)
    (first second : List String) :
    (tree.received index first).received index second = tree.received index (first ++ second) := by
  rw [received, received, received, modify_modify]
  congr 2
  funext record
  simp

/-- Receiving nothing changes nothing. -/
theorem RenderTree.received_nil (tree : RenderTree) (index : Nat) :
    tree.received index [] = tree := by
  have kept : tree.records.modify index
      (fun record => { record with fragments := record.fragments ++ [] }) = tree.records := by
    refine modify_unchanged fun record _ => ?_
    rw [List.append_nil]
  rw [received, kept]

namespace Pass.Wrote

variable {pass middle after : Pass} {chunk : Chunk} {first second texts : List String}
  {handle : Handle}

/-- A pass in which nothing was written did not change. -/
theorem nil (found : pass.handles[chunk.number]? = some handle)
    (isOpen : handle.complete = false) : pass.Wrote chunk [] pass := by
  refine ⟨handle, [], pass.memory, found, isOpen, rfl, ?_⟩
  rw [wrote, received_nil]

/-- What is written in two parts is written. -/
theorem trans (early : pass.Wrote chunk first middle) (late : middle.Wrote chunk second after) :
    pass.Wrote chunk (first ++ second) after := by
  obtain ⟨handle, fragments, memory, found, isOpen, applied, rfl⟩ := early
  obtain ⟨held, others, last, foundHeld, _, appliedLate, rfl⟩ := late
  obtain rfl : handle = held := Option.some.inj (found.symm.trans foundHeld)
  refine ⟨handle, fragments ++ others, last, found, isOpen, ?_, ?_⟩
  · exact TapStack.applyEach_append applied appliedLate
  · simp only [wrote, received_received]

/-- Writing texts keeps the handle. -/
theorem keeps (wrote : pass.Wrote chunk texts after)
    (found : pass.handles[chunk.number]? = some handle) :
    after.handles[chunk.number]? = some handle := by
  obtain ⟨_, fragments, memory, _, _, _, rfl⟩ := wrote
  exact found

/-- Writing a text through a chunk does only that. -/
theorem of_write {text : String}
    (ran : chunk.write (.text text) pass = (.ok (), after)) :
    pass.Wrote chunk [text] after := by
  cases found : pass.handles[chunk.number]? with
  | none =>
    simp only [Chunk.write, bind_step, Chunk.ensureOpen_absent found] at ran
    cases ran
  | some handle =>
    cases isOpen : handle.complete with
    | true =>
      simp only [Chunk.write, bind_step, Chunk.ensureOpen_step found, isOpen, if_true] at ran
      cases ran
    | false =>
      rw [Chunk.write_step found isOpen (by simp)] at ran
      rcases applied : handle.taps.apply (Value.text text).toText pass.memory
        with ⟨fault | fragment, memory⟩
      · rw [applied] at ran
        cases ran
      · rw [applied] at ran
        refine ⟨handle, [fragment], memory, found, isOpen,
          TapStack.applyEach_singleton applied, ?_⟩
        cases record : pass.tree.isOpen handle.record with
        | false =>
          obtain ⟨fault, refused⟩ := append_refused record fragment
          simp only [onTree_step, refused] at ran
          cases ran
        | true =>
          simp only [onTree_step, append_step record] at ran
          cases ran
          rfl

/-- What is written under a further tap is written as that tap changes it. -/
theorem through {transform : String → String} {inner : Pass}
    (tapped : chunk.tap (some (.total transform)) pass = (.ok (), middle))
    (wrote : middle.Wrote chunk texts inner) (untapped : chunk.untap inner = (.ok (), after)) :
    pass.Wrote chunk (texts.map transform) after := by
  cases found : pass.handles[chunk.number]? with
  | none =>
    simp only [Chunk.tap, bind_step, Chunk.ensureOpen_absent found] at tapped
    cases tapped
  | some handle =>
    cases isOpen : handle.complete with
    | true =>
      simp only [Chunk.tap, bind_step, Chunk.ensureOpen_step found, isOpen, if_true] at tapped
      cases tapped
    | false =>
      let tap : Tap := .stateless (.ok ∘ transform)
      let push : Handle → Handle := fun handle => { handle with taps := handle.taps.push tap }
      have installed : (Transform.total transform).install pass.memory =
          (.ok tap, pass.memory) := rfl
      rw [Chunk.tap_step found isOpen installed] at tapped
      cases tapped
      have foundPushed : (pass.changed chunk push).handles[chunk.number]? =
          some (push handle) := changed_self found push
      obtain ⟨pushed, fragments, memory, foundInner, _, applied, rfl⟩ := wrote
      obtain rfl : push handle = pushed := Option.some.inj (foundPushed.symm.trans foundInner)
      rw [TapStack.applyEach_push] at applied
      refine ⟨handle, fragments, memory, found, isOpen, applied, ?_⟩
      rw [Chunk.untap_step (show ((pass.changed chunk push).wrote (push handle) fragments
        memory).handles[chunk.number]? = some (push handle) from foundPushed)] at untapped
      cases popped : (push handle).taps.pop with
      | error fault =>
        rw [popped] at untapped
        cases untapped
      | ok rest =>
        obtain ⟨other, left⟩ := rest
        obtain rfl := TapStack.pop_push popped
        rw [popped] at untapped
        cases untapped
        let pop : Handle → Handle := fun other => { other with taps := handle.taps }
        have restored : (pass.changed chunk push).changed chunk pop = pass :=
          changed_back found rfl
        show ((pass.changed chunk push).changed chunk pop).wrote handle fragments memory = _
        rw [restored]

end Pass.Wrote

section

variable {render : RenderBody} {chunk next : Chunk} {pass after : Pass} {handle : Handle}

/-- Rendering texts writes them. -/
theorem render_texts (content : List String)
    (found : pass.handles[chunk.number]? = some handle) (isOpen : handle.complete = false)
    (rendered : (Composition.texts content).render render chunk pass = (.ok next, after)) :
    next = chunk ∧ pass.Wrote chunk content after := by
  induction content generalizing pass with
  | nil =>
    cases rendered
    exact ⟨rfl, .nil found isOpen⟩
  | cons text rest ih =>
    obtain ⟨_, middle, first, others⟩ := bind_ok rendered
    obtain ⟨_, _, written, done⟩ := bind_ok first
    cases done
    have early := Pass.Wrote.of_write written
    obtain ⟨same, late⟩ := ih (early.keeps found) others
    exact ⟨same, early.trans late⟩

/-- Rendering bodies that each write what they mean writes what they mean together. -/
theorem renderSites_wrote {meaning : Context → Body → Option (List String)} (sites : List Site)
    (lasting : Enduring.Renders (fun pass after => pass.recoveries <+: after.recoveries) render)
    (writes : ∀ site ∈ sites, ∀ {pass after : Pass} {next : Chunk},
      render site.2 chunk site.1 pass = (.ok next, after) →
      after.recoveries = pass.recoveries →
      next = chunk ∧ ∃ texts, meaning site.1 site.2 = some texts ∧ pass.Wrote chunk texts after)
    (found : pass.handles[chunk.number]? = some handle) (isOpen : handle.complete = false)
    (rendered : renderSites render chunk sites pass = (.ok next, after))
    (unrecovered : after.recoveries = pass.recoveries) :
    next = chunk ∧ ∃ texts, joined meaning sites = some texts ∧ pass.Wrote chunk texts after := by
  induction sites generalizing pass with
  | nil =>
    cases rendered
    exact ⟨rfl, [], rfl, .nil found isOpen⟩
  | cons site rest ih =>
    obtain ⟨first, middle, start, before, others, behind⟩ :=
      renderSites_cons lasting rendered unrecovered
    obtain ⟨rfl, texts, meant, wrote⟩ := writes site List.mem_cons_self start before
    obtain ⟨same, more, meantMore, wroteMore⟩ :=
      ih (fun other member => writes other (List.mem_cons_of_mem _ member)) (wrote.keeps found)
        others behind
    refine ⟨same, texts ++ more, ?_, wrote.trans wroteMore⟩
    simp [joined, meant, meantMore]

/-- Rendering what is composed writes what it means, when rendering each body that it is composed
of does. -/
theorem Composition.render_wrote {inner later : Context → Body → Option (List String)}
    {composition : Composition} (now : ∀ sites, composition ≠ .later sites)
    (lasting : Enduring.Renders (fun pass after => pass.recoveries <+: after.recoveries) render)
    (writes : ∀ site ∈ composition.sites, ∀ {pass after : Pass} {next : Chunk},
      render site.2 chunk site.1 pass = (.ok next, after) →
      after.recoveries = pass.recoveries →
      next = chunk ∧ ∃ texts, inner site.1 site.2 = some texts ∧ pass.Wrote chunk texts after)
    (found : pass.handles[chunk.number]? = some handle) (isOpen : handle.complete = false)
    (rendered : composition.render render chunk pass = (.ok next, after))
    (unrecovered : after.recoveries = pass.recoveries) :
    next = chunk ∧ ∃ texts, composition.meaning inner later = some texts ∧
      pass.Wrote chunk texts after := by
  cases composition with
  | texts content =>
    obtain ⟨same, wrote⟩ := render_texts content found isOpen rendered
    exact ⟨same, content, rfl, wrote⟩
  | parts sites => exact renderSites_wrote sites lasting writes found isOpen rendered unrecovered
  | tapped transform site =>
    obtain ⟨tapped, inside, tap, block, unanswered, untap⟩ :=
      render_tapped lasting rendered unrecovered
    obtain ⟨rfl, texts, meant, wrote⟩ := writes site (List.mem_singleton_self site) block unanswered
    refine ⟨rfl, texts.map transform, ?_, wrote.through tap untap⟩
    simp [Composition.meaning, meant]
  | later sites => exact absurd rfl (now sites)

/-- A ready-made body that is rendered without a recovery writes what it means, which is found in
as many steps as its bodies are nested. -/
theorem renderTo_wrote (depth : Nat) {body : Body} {context : Context}
    (plain : body.Throughout Body.IsPlain context)
    (rendered : Body.renderTo depth body chunk context pass = (.ok next, after))
    (unrecovered : after.recoveries = pass.recoveries) :
    next = chunk ∧ ∃ texts, Body.meaningTo depth depth context body = some texts ∧
      pass.Wrote chunk texts after := by
  induction depth generalizing body context pass after next with
  | zero => cases rendered
  | succ depth ih =>
    have lasting := recoveries_endure.renderTo depth
    obtain ⟨_, _, allowed, wrote⟩ := bind_ok rendered
    obtain ⟨rfl, handle, found, isOpen⟩ := Chunk.ensureOpen_ok allowed
    obtain ⟨composition, composed, performed⟩ :=
      composition_of_write lasting plain.self found wrote unrecovered
    have now (sites : List Site) : composition ≠ .later sites := by
      rintro rfl
      exact plain.self.not_later composed
    rw [Body.meaningTo_eq composed]
    exact Composition.render_wrote now lasting
      (fun site member => ih (plain.site composed member)) found isOpen performed unrecovered

end

/-- A ready-made body that is rendered successfully, without a helper having failed, gives back
its chunk. Its texts pass through the taps of the chunk one after the other into the record of the
chunk, and else nothing in the pass changes: no other record, no handle and no tap. -/
theorem render_denotation {body : Body} {context : Context} {chunk next : Chunk}
    {pass after : Pass} (plain : body.Throughout Body.IsPlain context)
    (rendered : body.render chunk context pass = (.ok next, after))
    (unrecovered : after.recoveries = pass.recoveries) :
    next = chunk ∧ ∃ texts handle fragments memory, body.Means context texts ∧
      pass.handles[chunk.number]? = some handle ∧
      handle.taps.applyEach texts pass.memory = (.ok fragments, memory) ∧
      after = pass.wrote handle fragments memory := by
  obtain ⟨same, texts, meant, handle, fragments, memory, found, _, applied, wrote⟩ :=
    renderTo_wrote Body.nestingLimit plain rendered unrecovered
  exact ⟨same, texts, handle, fragments, memory, ⟨_, _, meant⟩, found, applied, wrote⟩

/-- Names in upper case with a registered separator between them, the last of which has a
character that is escaped. -/
def shoutedNames : Body :=
  .sequence [
    .text "<",
    .each "names" (.call "yell" [("block", .sequence [
      .reference "." none,
      .call "sep" [("block", .embed "and" [])] []])] []) .absent,
    .call "eq" [("else", .text ">")] [("key", .text "a"), ("value", .text "b")]]

/-- The helpers that come with every registry, and a separator. -/
def shoutingEnvironment : Environment where
  helpers := .builtin
  templates := .ofList [("and", .text " and ")]

/-- A context of two names. -/
def namesContext : Context :=
  .ofValue (.mapping [(.text "names", .list [.text "a", .text "b&"])]) [] (some shoutingEnvironment)

/-- The names are made of plain forms, in all that is rendered for them. -/
theorem shoutedNames_plain : shoutedNames.Throughout Body.IsPlain namesContext := by
  have built : shoutedNames.IsBuilt shoutingEnvironment Body.IsPlain := by
    refine .sequence ?_
    simp only [List.forall_mem_cons]
    refine ⟨.text _, .each _ (.call (Body.isReadyMade_call ?_) ?_) .absent,
      .call (Body.isReadyMade_call ?_) ?_, ?_⟩
    · decide +kernel
    · simp only [List.forall_mem_cons]
      refine ⟨.sequence ?_, by simp⟩
      simp only [List.forall_mem_cons]
      refine ⟨.reference _ _, .call (Body.isReadyMade_call ?_) ?_, by simp⟩
      · decide +kernel
      · simp only [List.forall_mem_cons]
        exact ⟨.embed _ _, by simp⟩
    · decide +kernel
    · simp only [List.forall_mem_cons]
      exact ⟨.text _, by simp⟩
    · simp
  refine built.throughout ?_ rfl fun name body got => ?_
  · exact fun context body simple => simple.isReadyMade context
  · obtain rfl := List.mem_singleton.mp (TemplateRegistry.mem_of_get got)
    exact .text _

/-- The names, rendered into the root. -/
def shouted : Except Fault Chunk × Pass := shoutedNames.render ⟨0⟩ namesContext (.opened false)

/-- The names are written one after the other, and the separator only between them. -/
theorem render_denotation_shoutedNames :
    shouted.2.tree.records.map Record.fragments = #[["<", "A", " AND ", "B&AMP;", ">"]] ∧
      shoutedNames.Throughout Body.IsPlain namesContext ∧ shouted = (.ok ⟨0⟩, shouted.2) ∧
      shouted.2.recoveries = (Pass.opened false).recoveries ∧
      ∃ texts handle fragments memory, shoutedNames.Means namesContext texts ∧
        (Pass.opened false).handles[0]? = some handle ∧
        handle.taps.applyEach texts (Pass.opened false).memory = (.ok fragments, memory) ∧
        shouted.2 = (Pass.opened false).wrote handle fragments memory := by
  have written : shouted.2.tree.records.map Record.fragments =
      #[["<", "A", " AND ", "B&AMP;", ">"]] := by decide +kernel
  have succeeded : shouted = (.ok ⟨0⟩, shouted.2) := ran_ok (by decide +kernel)
  have unrecovered : shouted.2.recoveries = (Pass.opened false).recoveries := by
    have none : shouted.2.recoveries.isEmpty = true := by decide +kernel
    rw [List.isEmpty_iff.mp none]
    rfl
  obtain ⟨_, denoted⟩ := render_denotation shoutedNames_plain succeeded unrecovered
  exact ⟨written, shoutedNames_plain, succeeded, unrecovered, denoted⟩

end TemplateStream
