import TemplateStream.Proofs.Composing
import TemplateStream.Proofs.Tasks

/-!
# Rendering pays what bodies mean

A chunk that owes what a body means can pay by rendering the body. Rendering then succeeds, and
what is rendered asynchronously is left as tasks on branches, each of which owes a part.
-/

namespace TemplateStream

/-- A step pays texts when it succeeds on a chunk that owes them as the taps make of them, gives
the chunk back with the same taps, and leaves tasks whose meanings are found in fewer steps. -/
def Pays (steps : Nat) (chunk : Chunk) (taps : TapStack) (step : PassM Chunk)
    (texts : List String) : Prop :=
  ∀ ⦃pass : Pass⦄ ⦃document left : List String⦄ ⦃tasks : List Task⦄,
    pass.Working document [(chunk, texts.map taps.effect ++ left)] tasks →
    pass.Tapped chunk taps →
    ∃ after new, step pass = (.ok chunk, after) ∧ (∀ task ∈ new, task.steps < steps) ∧
      after.Working document [(chunk, left)] (new ++ tasks) ∧ after.Tapped chunk taps

namespace Pays

variable {steps : Nat} {chunk : Chunk} {taps : TapStack} {step other : PassM Chunk}
  {first second texts : List String}

/-- Doing nothing pays nothing. -/
theorem nothing : Pays steps chunk taps (pure chunk) [] := by
  intro pass document left tasks working tapped
  exact ⟨pass, [], rfl, fun _ member => absurd member List.not_mem_nil, working, tapped⟩

/-- Writing a text pays it. -/
theorem write (harmless : taps.Harmless) (text : String) :
    Pays steps chunk taps (do chunk.write (.text text); pure chunk) [text] := by
  intro pass document left tasks working tapped
  obtain ⟨after, wrote, paid, kept⟩ := working.write tapped harmless
  refine ⟨after, [], ?_, fun _ member => absurd member List.not_mem_nil, paid, kept⟩
  rw [bind_step, wrote]
  rfl

/-- Two steps pay what each of them pays. -/
theorem bind {next : Chunk → PassM Chunk} (early : Pays steps chunk taps step first)
    (late : Pays steps chunk taps (next chunk) second) :
    Pays steps chunk taps (step >>= next) (first ++ second) := by
  intro pass document left tasks working tapped
  rw [List.map_append, List.append_assoc] at working
  obtain ⟨middle, new, ran, fewer, paid, kept⟩ := early working tapped
  obtain ⟨after, more, ranOn, fewerOn, paidOn, keptOn⟩ := late paid kept
  refine ⟨after, more ++ new, ?_, ?_, ?_, keptOn⟩
  · rw [bind_step, ran]
    exact ranOn
  · intro task member
    rcases List.mem_append.mp member with added | old
    · exact fewerOn task added
    · exact fewer task old
  · rw [List.append_assoc]
    exact paidOn

/-- A step under a further tap pays what that tap makes of the texts. -/
theorem tapped {transform : String → String} (harmless : taps.Harmless)
    (pays : Pays steps chunk (taps.push (.stateless (.ok ∘ transform))) step texts) :
    Pays steps chunk taps (do
      chunk.tap (some (.total transform))
      let next ← step
      next.untap
      pure next) (texts.map transform) := by
  intro pass document left tasks working tapped
  obtain ⟨middle, installed, owing, under⟩ := working.tap tapped transform
  rw [List.map_map] at owing
  obtain ⟨inner, new, ran, fewer, paid, kept⟩ := pays owing under
  obtain ⟨after, removed, settled, restored⟩ := paid.untap kept harmless
  refine ⟨after, new, ?_, fewer, settled, restored⟩
  simp only [bind_step, installed, ran, removed, pure_step]

/-- A step that leaves a task on a branch pays what the work of the task means. -/
theorem spawn {fewer : Nat} {work : Chunk → Work} (harmless : taps.Harmless)
    (less : fewer < steps) (means : ∀ branch, (work branch).Means fewer branch texts) :
    Pays steps chunk taps (do
      chunk.map fun branch => pure (.awaitable (work branch))
      pure chunk) texts := by
  intro pass document left tasks working tapped
  obtain ⟨after, task, mapped, counted, paid, kept⟩ := working.spawn tapped harmless means
  refine ⟨after, [task], ?_, ?_, paid, kept⟩
  · rw [bind_step, mapped]
    rfl
  · intro other member
    rw [List.mem_singleton.mp member, counted]
    exact less

/-- A step pays what another does that does the same on open chunks. -/
theorem of_open (pays : Pays steps chunk taps other texts)
    (same : ∀ {pass : Pass} {handle : Handle}, pass.handles[chunk.number]? = some handle →
      handle.complete = false → step pass = other pass) : Pays steps chunk taps step texts := by
  intro pass document left tasks working tapped
  obtain ⟨handle, writable, _⟩ := working.writable tapped
  rw [same writable.found writable.isOpen]
  exact pays working tapped

/-- More steps may be allowed for the tasks that are left. -/
theorem mono {more : Nat} (pays : Pays steps chunk taps step texts) (enough : steps ≤ more) :
    Pays more chunk taps step texts := by
  intro pass document left tasks working tapped
  obtain ⟨after, new, ran, fewer, paid, kept⟩ := pays working tapped
  exact ⟨after, new, ran, fun task member => Nat.lt_of_lt_of_le (fewer task member) enough,
    paid, kept⟩

end Pays

section

variable {steps : Nat} {chunk : Chunk} {taps : TapStack} {texts : List String}
  {render : RenderBody} {meaning : Context → Body → Option (List String)}

/-- Writing texts pays them. -/
theorem render_texts_pays (harmless : taps.Harmless) (content : List String) :
    Pays steps chunk taps ((Composition.texts content).render render chunk) content := by
  induction content with
  | nil => exact .nothing
  | cons text rest ih =>
    rw [Composition.render, List.foldlM_cons]
    exact Pays.bind (.write harmless text) ih

/-- Rendering several bodies pays what they mean when rendering each of them does. -/
theorem renderSites_pays {sites : List Site}
    (pays : ∀ site ∈ sites, ∀ texts, meaning site.1 site.2 = some texts →
      Pays steps chunk taps (render site.2 chunk site.1) texts)
    (means : joined meaning sites = some texts) :
    Pays steps chunk taps (renderSites render chunk sites) texts := by
  induction sites generalizing texts with
  | nil =>
    cases means
    exact .nothing
  | cons site rest ih =>
    obtain ⟨first, others, meant, meantOthers, rfl⟩ := joined_cons means
    rw [renderSites, List.foldlM_cons]
    have back := ih (fun other member => pays other (List.mem_cons_of_mem _ member)) meantOthers
    exact Pays.bind (pays site List.mem_cons_self first meant) back

/-- Rendering what is composed pays what it means, when rendering the bodies does that it is
composed of. -/
theorem Composition.render_pays {later : Context → Body → Option (List String)}
    {composition : Composition} (harmless : taps.Harmless)
    (now : ∀ sites, composition ≠ .later sites)
    (pays : ∀ site ∈ composition.sites, ∀ {taps : TapStack}, taps.Harmless → ∀ texts,
      meaning site.1 site.2 = some texts →
      Pays steps chunk taps (render site.2 chunk site.1) texts)
    (means : composition.meaning meaning later = some texts) :
    Pays steps chunk taps (composition.render render chunk) texts := by
  cases composition with
  | texts content =>
    cases means
    exact render_texts_pays harmless texts
  | parts sites => exact renderSites_pays (fun site member => pays site member harmless) means
  | tapped transform site =>
    obtain ⟨content, meant, rfl⟩ := Option.map_eq_some_iff.mp means
    have inner := pays site (List.mem_singleton_self site) (harmless.push transform) content meant
    exact Pays.tapped harmless inner
  | later sites => exact absurd rfl (now sites)

end

/-- What is composed of bodies that are rendered later is rendered by work on a branch, which means
what they mean. -/
theorem later_spawns {steps : Nat} {context : Context} {body : Body} {sites : List Site}
    {texts : List String} (composed : body.composition context = some (.later sites))
    (means : joined (Body.meaningTo steps Body.nestingLimit) sites = some texts) :
    ∃ work : Chunk → Work, (∀ branch, (work branch).Means steps branch texts) ∧
      ∀ render chunk, body.write render chunk context = (do
        chunk.map fun branch => pure (.awaitable (work branch))
        pure chunk) := by
  rcases Body.composed_later composed with calls | scripted
  · obtain ⟨name, bodies, given, environment, helper, parameters, rfl, known, got, resolved, defers,
      rfl⟩ := calls
    obtain ⟨block, rest, meant, none, rfl⟩ := joined_cons means
    cases none
    rw [List.append_nil]
    refine ⟨fun branch => .invoke ⟨name, bodies, given⟩ helper branch context, ?_, ?_⟩
    · exact fun branch => ⟨rfl, defers, ⟨parameters, resolved⟩, meant⟩
    · exact fun render chunk => write_defer known got defers
  · obtain ⟨style, name, script, bodies, rfl, rendered, rfl⟩ := scripted
    refine ⟨fun branch => .run script (.plain branch context) .close, ?_, ?_⟩
    · exact fun branch => ⟨rfl, bodies, rendered, means⟩
    · exact fun render chunk => rfl

/-- Rendering a body pays what it means. -/
theorem renderTo_pays {steps depth : Nat} {chunk : Chunk} {taps : TapStack} {context : Context}
    {body : Body} {texts : List String} (harmless : taps.Harmless)
    (means : Body.meaningTo steps depth context body = some texts) :
    Pays steps chunk taps (Body.renderTo depth body chunk context) texts := by
  induction steps generalizing depth taps context body texts with
  | zero => cases means
  | succ steps ih =>
    obtain ⟨_, above, composition, same, rfl, composed, meant⟩ := Body.meaningTo_succ means
    obtain rfl := Nat.succ.inj same
    have opened {pass : Pass} {handle : Handle}
        (found : pass.handles[chunk.number]? = some handle) (isOpen : handle.complete = false) :
        Body.renderTo (above + 1) body chunk context pass =
          body.write (Body.renderTo above) chunk context pass := by
      simp only [Body.renderTo, Body.renderWith, bind_step, Chunk.ensureOpen_step found, isOpen,
        Bool.false_eq_true, if_false]
    by_cases async : ∃ sites, composition = .later sites
    · obtain ⟨sites, rfl⟩ := async
      obtain ⟨work, promised, spawns⟩ := later_spawns composed meant
      refine (Pays.spawn harmless (Nat.lt_succ_self steps) promised).of_open fun found isOpen => ?_
      rw [opened found isOpen, spawns]
    · have now (sites : List Site) : composition ≠ .later sites := fun same => async ⟨sites, same⟩
      have plain := Body.isPlain_of_composition composed now
      have pays : Pays (steps + 1) chunk taps
          (composition.render (Body.renderTo above) chunk) texts :=
        Composition.render_pays harmless now
          (fun site _ _ harmless texts inner => (ih harmless inner).mono (Nat.le_succ steps)) meant
      intro pass document left tasks working tapped
      obtain ⟨after, new, performed, paid⟩ := pays working tapped
      obtain ⟨handle, writable, _⟩ := working.writable tapped
      refine ⟨after, new, ?_, paid⟩
      rw [opened writable.found writable.isOpen]
      exact write_of_composition plain writable.found composed performed

end TemplateStream
