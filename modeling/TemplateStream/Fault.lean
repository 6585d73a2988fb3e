import TemplateStream.Fault.Causes

/-!
# Faults

A fault is the cause for which an operation was given up, with the fault behind it when it was
raised in answer to another. Its kind, its attributes and its message are functions of the
cause. Faults of readers and of the file system bring their words with them.
-/

namespace TemplateStream

/-- The stages of a render pass at which it can fail. -/
inductive Stage where
  | parse
  | pluginEvent (event : Event)
  | dataLoad
  /-- Loading of a helper module. -/
  | helperLoad
  /-- A helper call in the content. -/
  | helperCall
  /-- Anything else in the content. -/
  | content
  deriving DecidableEq

/-- The name of a stage. -/
def Stage.name : Stage → String
  | .parse => "parse"
  | .pluginEvent _ => "plugin-event"
  | .dataLoad => "data-load"
  | .helperLoad | .helperCall => "helper"
  | .content => "render"

/-- The event of a stage that is one. -/
def Stage.event? : Stage → Option Event
  | .pluginEvent event => some event
  | _ => none

/-- The causes for which operations are given up. -/
inductive Fault where
  | chunk (cause : ChunkFault)
  | number (cause : NumberFault)
  | pattern (cause : PatternFault)
  | parameter (cause : ParameterFault)
  | registry (cause : RegistryFault)
  | option (cause : OptionFault)
  | entry (cause : EntryFault)
  | data (cause : DataFault)
  | importing (cause : ImportFault)
  | plugin (cause : PluginFault)
  /-- A reader or the file system refused, in words of its own. -/
  | refusal (kind : Kind) (words : String)
  /-- An awaitable body or result needs a running event loop. -/
  | noLoop
  /-- No event loop is running. -/
  | noRunningLoop
  | emptyContext
  | partialWithoutEnvironment (name : String)
  | helperWithoutEnvironment (name : String)
  | notCallable (typeName : String)
  | notIterable (typeName : String)
  /-- Values of two types have no order. -/
  | notComparable (sign left right : String)
  | noAttribute (typeName name : String)
  | missingKey (key : Value)
  /-- A text has no character at an index. -/
  | textIndex
  /-- A helper that should answer at once returned an awaitable. -/
  | awaitableResult
  /-- A coroutine raised what tells an iteration to stop. -/
  | stoppedCoroutine (cause : Fault)
  | helperFailed (helper : String) (cause : Fault)
  | pluginImport (module : String) (cause : Fault)
  | unknownPluginEvent (plugin event : String) (cause : Fault)
  | stage (stage : Stage) (template : Option String) (cause : Fault)
  /-- What is to be rendered is neither a template name nor a body. -/
  | notRenderable (typeName : String)
  /-- Bodies are nested too deeply. -/
  | tooDeep
  /-- A pass can make no further progress. -/
  | stalled
  /-- Raised with a kind and an argument of one's own. -/
  | raised (kind : Kind) (argument : String)
  deriving Inhabited

namespace Fault

/-- A refusal that is cited by its label. -/
def cited (kind : Kind) : Fault := .refusal kind kind.citation

/-- The name of the helper that a raised helper fault carries, and the stage of a raised render
fault. -/
def raisedBy : String := "scripted"

/-- The kind of a fault. -/
def kind : Fault → Kind
  | .chunk cause => cause.kind
  | .number cause => cause.kind
  | .pattern cause => cause.kind
  | .parameter _ | .registry _ => .value
  | .option cause => cause.kind
  | .entry cause => cause.kind
  | .data cause => cause.kind
  | .importing cause => cause.kind
  | .plugin cause => cause.kind
  | .refusal kind _ => kind
  | .noLoop => .invalidState
  | .noRunningLoop => .runtime
  | .emptyContext | .partialWithoutEnvironment _ | .helperWithoutEnvironment _ => .value
  | .notCallable _ | .notIterable _ | .notComparable _ _ _ | .awaitableResult => .type
  | .noAttribute _ _ => .attribute
  | .missingKey _ => .key
  | .textIndex => .index
  | .helperFailed _ _ => .helper
  | .pluginImport _ _ | .unknownPluginEvent _ _ _ => .invalidPlugin
  | .stage _ _ _ | .notRenderable _ => .render
  | .tooDeep => .recursion
  | .stalled | .stoppedCoroutine _ => .runtime
  | .raised kind _ => kind

/-- A text followed by the stage at which a pass failed, the template when it has a name, and
the event when there is one. -/
def staged (text : String) (stage : String) (template : Option String) (event : Option Event) :
    String :=
  let template := match template with
    | some name => if name.isEmpty then [] else [s!"template={name}"]
    | none => []
  let event := (event.map fun event => s!"event={event.name}").toList
  s!"{text} [" ++ ", ".intercalate ([s!"stage={stage}"] ++ template ++ event) ++ "]"

/-- The message of a fault with the given argument: the name of a missing key is described. -/
def phrased (fault : Fault) (argument : String) : String :=
  match fault with
  | .missingKey key => key.describe
  | .pattern (.unknownField name) => Text.quoted name
  | .raised .key name => Text.quoted name
  | _ => argument

/-- The argument of a fault: its message, except that the message of a missing key describes
it. -/
def argument : Fault → String
  | .chunk cause => cause.message
  | .number cause => cause.message
  | .pattern cause => cause.message
  | .parameter cause => cause.message
  | .registry cause => cause.message
  | .option cause => cause.message
  | .entry cause => cause.message
  | .data cause => cause.message
  | .importing cause => cause.message
  | .plugin cause => cause.message
  | .refusal _ words => words
  | .noLoop => "asynchronous branch requires a running event loop."
  | .noRunningLoop => "no running event loop"
  | .emptyContext => "cannot pop an empty context."
  | .partialWithoutEnvironment name =>
    s!"cannot render partial '{name}' without a render environment."
  | .helperWithoutEnvironment name =>
    s!"cannot call helper '{name}' without a render environment."
  | .notCallable typeName => s!"'{typeName}' object is not callable"
  | .notIterable typeName => s!"'{typeName}' object is not iterable"
  | .notComparable sign left right =>
    s!"'{sign}' not supported between instances of '{left}' and '{right}'"
  | .noAttribute typeName name => s!"'{typeName}' object has no attribute '{name}'"
  | .missingKey key => key.toText
  | .textIndex => "string index out of range"
  | .awaitableResult =>
    "returned an awaitable from a synchronous call; declare it async or write through chunk.map()."
  | .stoppedCoroutine _ => "coroutine raised StopIteration"
  | .helperFailed helper cause => s!"helper '{helper}' failed: " ++ cause.phrased cause.argument
  | .pluginImport module cause =>
    s!"could not import plugin module '{module}': " ++ cause.phrased cause.argument
  | .unknownPluginEvent name event _ =>
    s!"plugin '{name}' declares unknown lifecycle event '{event}'."
  | .stage reached template cause =>
    let text := match reached with
      | .parse | .helperCall => cause.phrased cause.argument
      | .pluginEvent event =>
        s!"plugin event '{event.name}' failed: " ++ cause.phrased cause.argument
      | .dataLoad => "data loading failed: " ++ cause.phrased cause.argument
      | .helperLoad => "helper loading failed: " ++ cause.phrased cause.argument
      | .content => "render failed: " ++ cause.phrased cause.argument
    staged text reached.name template reached.event?
  | .notRenderable typeName =>
    staged s!"cannot render {typeName}; expected a template name or body." Stage.parse.name
      none none
  | .tooDeep => "maximum recursion depth exceeded"
  | .stalled => "the render pass cannot make progress"
  | .raised kind argument =>
    if kind = .render then staged argument raisedBy none none else argument

/-- The message of a fault. -/
def message (fault : Fault) : String := fault.phrased fault.argument

/-- The fault that a fault was raised in answer to. -/
def cause? : Fault → Option Fault
  | .noLoop => some .noRunningLoop
  | .stoppedCoroutine cause => some cause
  | .helperFailed _ cause => some cause
  | .pluginImport _ cause => some cause
  | .unknownPluginEvent _ _ cause => some cause
  | .stage _ _ cause => some cause
  | _ => none

/-- The fault that leaves a coroutine in which a fault was raised. What tells an iteration to stop
would stop whoever waits, and leaves it as another fault. -/
def leavingCoroutine (fault : Fault) : Fault :=
  if fault.kind = .stopIteration then .stoppedCoroutine fault else fault

/-- The helper that a helper fault names. -/
def helper? : Fault → Option String
  | .helperFailed helper _ => some helper
  | .raised .helper _ => some raisedBy
  | _ => none

/-- The stage, template and event that a render fault names. -/
def stage? : Fault → Option (String × Option String × Option Event)
  | .stage reached template _ => some (reached.name, template, reached.event?)
  | .notRenderable _ => some (Stage.parse.name, none, none)
  | .raised .render _ => some (raisedBy, none, none)
  | _ => none

end Fault

/-- A step with a state in which faults become results. What the step did stays done. -/
def attempt {State α : Type} (step : ExceptT Fault (StateM State) α) :
    ExceptT Fault (StateM State) (Except Fault α) := fun state =>
  let (result, after) := step state
  (.ok result, after)

end TemplateStream
