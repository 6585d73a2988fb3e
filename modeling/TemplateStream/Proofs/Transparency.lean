import TemplateStream.Proofs.Completed
import TemplateStream.Proofs.Wrapping

/-!
# Asynchrony is transparent

A document comes out the same when bodies in it are wrapped so that they are rendered later. What
the original tells about its body is what the wrapped body means as well, and every schedule of
the work that is left when the wrapped document was begun ends with that.
-/

namespace TemplateStream

open Relation

/-- Whatever order its work goes on in, a pass comes to a text: no order goes on for ever, none
gets stuck, and all that are over concluded with the text. -/
structure Pass.ComesTo (pass : Pass) (text : String) : Prop where
  ends : Acc (fun later earlier : Pass => earlier.Continues later) pass
  goes : ∀ later, ReflTransGen Continues pass later → later.agenda.pending ≠ [] →
    ∃ next, later.Continues next
  concludes : ∀ later, ReflTransGen Continues pass later → later.agenda.pending = [] →
    later.conclusion = .ok text

/-- Work that is pending can go on. -/
theorem Pass.continues_of_pending {pass : Pass} (busy : pass.agenda.pending ≠ []) :
    ∃ next, pass.Continues next := by
  obtain ⟨work, rest, first⟩ := List.exists_cons_of_ne_nil busy
  have member : work ∈ pass.agenda.pending := by
    rw [first]
    exact List.mem_cons_self
  obtain ⟨waited, others, waits, ready⟩ := waited_for member
  have queue : waited.agenda.ready ≠ [] := by
    rw [ready]
    exact List.cons_ne_nil work others
  exact ⟨_, waited, waits, queue, rfl⟩

/-- A pass whose pending work is that of tasks comes to the document that they owe. -/
theorem Pass.Working.comesTo {pass : Pass} {document : List String} {tasks : List Task}
    (working : pass.Working document [] tasks) : pass.ComesTo (String.join document) where
  ends := working.ends
  goes _ _ busy := continues_of_pending busy
  concludes later goes idle := by
    obtain ⟨others, kept⟩ := working.reaches goes
    exact (kept.concluded idle).2.2

/-- A document that came out without a recovery comes out the same when bodies in it are wrapped,
there and in registered templates, if all delays are valid: the wrapped document can be begun, the
work that is left then comes to the same text in whatever order it goes on, and this is what the
pass itself gives unless it takes too long. -/
theorem asynchrony_transparent {body wrapped : Body} {context : Context}
    {other : Option Environment} {looping : Bool} {text : String} {final : Pass}
    (standard : body.Throughout Body.IsStandard context)
    (came : Pass.document body context (Pass.start .accepting looping) = (.ok text, final))
    (unrecovered : final.recoveries = [])
    (related : Option.Rel Environment.Wraps context.environment other)
    (wraps : Wraps context.environment body wrapped)
    (timely : wrapped.Throughout Body.DelaysValidly (context.under other)) :
    ∃ started,
      Pass.begin wrapped (context.under other) (Pass.start .accepting true) = (.ok (), started) ∧
      started.ComesTo text ∧
      ((Pass.document wrapped (context.under other) (Pass.start .accepting true)).1 = .ok text ∨
        (Pass.document wrapped (context.under other) (Pass.start .accepting true)).1 =
          .error .stalled) := by
  obtain ⟨steps, texts, means, rfl⟩ := document_tells standard came unrecovered
  obtain ⟨more, meansWrapped⟩ := wraps.means related rfl timely (Nat.le_refl _) means
  obtain ⟨started, tasks, begun, working⟩ := begin_pays meansWrapped
  exact ⟨started, begun, working.comesTo, Pass.document_comes begun working⟩

/-- The same names, of which some parts are rendered later: the opening text by a script that
sleeps first, each name by a call, and in it again the reference alone. -/
def delayedNames : Body :=
  .sequence [
    .deferred .function "opening" [.sleep 5, .render (.text "<") none, .answer .chunk],
    .each "names" (.call "yell" [("block", .call "defer" [("block", .sequence [
      .call "defer" [("block", .reference "." none)] [],
      .call "sep" [("block", .embed "and" [])] []])] [])] []) .absent,
    .call "eq" [("else", .text ">")] [("key", .text "a"), ("value", .text "b")]]

/-- The same environment, in which the separator is written by a script. -/
def delayingEnvironment : Environment where
  helpers := .builtin
  templates := .ofList [("and", .deferred .object "separator" [.write (.text " and ")])]

/-- The document of the names. -/
def namesDocument : Except Fault String × Pass :=
  Pass.document shoutedNames namesContext (.start .accepting false)

/-- Parts of the names were wrapped. -/
theorem delayedNames_wraps : Wraps (some shoutingEnvironment) shoutedNames delayedNames := by
  have checked : (shoutingEnvironment.helpers.get "defer").toOption.any
      (fun helper => helper.function.isBuiltin && helper.function.isAsync) = true := by
    decide +kernel
  obtain ⟨helper, got, defers⟩ := HelperRegistry.get_defer checked
  have delay {body wrapped : Body} (wraps : Wraps (some shoutingEnvironment) body wrapped) :
      Wraps (some shoutingEnvironment) body (.call "defer" [("block", wrapped)] []) :=
    .delayed [] rfl got defers wraps
  have separator : Wraps (some shoutingEnvironment) (.call "sep" [("block", .embed "and" [])] [])
      (.call "sep" [("block", .embed "and" [])] []) :=
    @Wraps.call _ "sep" [("block", .embed "and" [], .embed "and" [])] [] (by simp [Wraps.embed])
  have name := @Wraps.sequence (some shoutingEnvironment)
    [(.reference "." none, .call "defer" [("block", .reference "." none)] []),
      (.call "sep" [("block", .embed "and" [])] [], .call "sep" [("block", .embed "and" [])] [])] <|
    List.forall_mem_cons.mpr ⟨delay (.reference _ _), List.forall_mem_cons.mpr ⟨separator, by simp⟩⟩
  have yelled := @Wraps.call (some shoutingEnvironment) "yell" [("block", _, _)] [] <|
    List.forall_mem_cons.mpr ⟨delay name, by simp⟩
  have closing := @Wraps.call (some shoutingEnvironment) "eq"
    [("else", .text ">", .text ">")] [("key", .text "a"), ("value", .text "b")]
    (by simp [Wraps.text])
  have opening : Wraps (some shoutingEnvironment) (.text "<")
      (.deferred .function "opening" [.sleep 5, .render (.text "<") none, .answer .chunk]) :=
    .deferred .function "opening" rfl (.text "<")
  refine @Wraps.sequence (some shoutingEnvironment) [(_, _), (_, _), (_, _)] ?_
  simp only [List.forall_mem_cons]
  exact ⟨opening, .each "names" yelled .absent, closing, by simp⟩

/-- All delays in the wrapped names are valid. -/
theorem delayedNames_timely :
    delayedNames.Throughout Body.DelaysValidly (namesContext.under (some delayingEnvironment)) := by
  have built : delayedNames.IsBuilt delayingEnvironment Body.DelaysValidly := by
    refine .sequence ?_
    simp only [List.forall_mem_cons]
    refine ⟨.deferred (fun _ _ => trivial) rfl ?_, .each _ (.call ?_ ?_) .absent, .call ?_ ?_, ?_⟩
    · simp only [List.forall_mem_cons]
      exact ⟨.text _, by simp⟩
    · exact Body.delaysValidly_immediate (by decide +kernel)
    · simp only [List.forall_mem_cons]
      refine ⟨.call (Body.delaysValidly_bare (by decide +kernel)) ?_, by simp⟩
      simp only [List.forall_mem_cons]
      refine ⟨.sequence ?_, by simp⟩
      simp only [List.forall_mem_cons]
      refine ⟨.call (Body.delaysValidly_bare (by decide +kernel)) ?_,
        .call (Body.delaysValidly_immediate (by decide +kernel)) ?_, by simp⟩
      · simp only [List.forall_mem_cons]
        exact ⟨.reference _ _, by simp⟩
      · simp only [List.forall_mem_cons]
        exact ⟨.embed _ _, by simp⟩
    · exact Body.delaysValidly_immediate (by decide +kernel)
    · simp only [List.forall_mem_cons]
      exact ⟨.text _, by simp⟩
    · simp
  refine built.throughout ?_ rfl fun name body got => ?_
  · intro context body simple
    cases body with
    | call | callback | function | deferred | inert => exact absurd simple not_false
    | _ => trivial
  · obtain rfl := List.mem_singleton.mp (TemplateRegistry.mem_of_get got)
    have rendered : scriptBodies [.write (.text " and ")] = some [.text " and "] := rfl
    exact .deferred (fun _ _ => trivial) rendered (by simp [Body.IsBuilt.text])

/-- In the templates of the wrapped names the separator was wrapped. -/
theorem delayingEnvironment_wraps : shoutingEnvironment.Wraps delayingEnvironment where
  helpers := rfl
  escapes := rfl
  templates name body got := by
    by_cases same : name = "and"
    · subst same
      cases got
      exact ⟨_, rfl, .deferred .object "separator" rfl (.text " and ")⟩
    · have absent : (name == "and") = false := by simpa using same
      have entries : shoutingEnvironment.templates.bodies.entries = [("and", .text " and ")] := rfl
      simp [TemplateRegistry.get, Table.get?, entries, List.lookup_cons, absent] at got

/-- The names come out the same when parts of them are rendered later. -/
theorem asynchrony_transparent_delayedNames :
    namesDocument.1.toOption = some "<A AND B&AMP;>" ∧
      ∃ started,
        Pass.begin delayedNames (namesContext.under (some delayingEnvironment))
          (Pass.start .accepting true) = (.ok (), started) ∧
        started.ComesTo "<A AND B&AMP;>" := by
  have succeeded : namesDocument.1.toOption = some "<A AND B&AMP;>" := by decide +kernel
  have unrecovered : namesDocument.2.recoveries.isEmpty = true := by decide +kernel
  have came : Pass.document shoutedNames namesContext (Pass.start .accepting false) =
      (.ok "<A AND B&AMP;>", namesDocument.2) := ran_ok succeeded
  have standard := shoutedNames_plain.imp Body.IsPlain.isStandard
  obtain ⟨started, begun, comes, _⟩ := asynchrony_transparent standard came
    (List.isEmpty_iff.mp unrecovered) (.some delayingEnvironment_wraps) delayedNames_wraps
    delayedNames_timely
  exact ⟨succeeded, started, begun, comes⟩

end TemplateStream
