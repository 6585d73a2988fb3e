import TemplateStream.Context
import TemplateStream.RenderTree

/-!
# Render passes

A render pass owns a render tree, the handles through which chunks are written, and the work
that runs asynchronously. Work is kept as data: what is left to do, and on what. It waits in a
queue, for a moment of virtual time, or for a gate to open.
-/

namespace TemplateStream

/-- A chunk, by the number of its handle. -/
structure Chunk where
  number : Nat
  deriving DecidableEq, Inhabited

/-- The state of a handle: the record that it writes into, its taps, and whether it was ended. -/
structure Handle where
  record : Nat
  taps : TapStack := {}
  complete : Bool := false
  deriving Inhabited

/-- What a script works on. -/
structure Scope where
  chunk : Chunk
  context : Context
  bodies : List (String × Body) := []
  parameters : Table Value := {}
  deriving Inhabited

/-- A call of a helper, as a template writes it. -/
structure HelperCall where
  helper : String
  bodies : List (String × Body)
  parameters : List (String × Value)
  deriving Inhabited

/-- What is done with a branch when the work on it is over. -/
inductive Finish where
  /-- Nothing. -/
  | leave
  /-- The branch is ended unless it is complete. -/
  | close
  /-- The result is that of a helper call, made when its branch had so many taps of its own. -/
  | settle (call : HelperCall) (depth : Nat)

/-- Work that runs asynchronously. -/
inductive Work where
  /-- Nothing is left to do. -/
  | idle
  /-- Statements are left to run. -/
  | run (script : Script) (scope : Scope) (finish : Finish)
  /-- The block of a helper call is left to render. -/
  | block (scope : Scope) (finish : Finish)
  /-- A helper is to be called. -/
  | invoke (call : HelperCall) (helper : Helper) (branch : Chunk) (context : Context)

/-- What a script or helper gives back. -/
inductive Outcome where
  | nothing
  | value (value : Value)
  | chunk (chunk : Chunk)
  /-- Something that has to be awaited. -/
  | awaitable (work : Work)

/-- What work waits for before it goes on. -/
inductive Pause where
  /-- The rest of the queue. -/
  | turn
  /-- A length of virtual time. -/
  | delay (ticks : Nat)
  /-- A gate that is to open. -/
  | gate (name : String)

/-- The work of a pass that is not done, and the virtual time. -/
structure Agenda where
  now : Nat := 0
  /-- Work that can go on, in order. -/
  ready : List Work := []
  /-- Work that waits for a moment, in the order in which it began to wait. -/
  timed : List (Nat × Work) := []
  /-- Work that waits for a gate, in the order in which it began to wait. -/
  gated : List (String × Work) := []

/-- The amount of work that is not done. -/
def Agenda.size (agenda : Agenda) : Nat :=
  agenda.ready.length + agenda.timed.length + agenda.gated.length

/-- The gates of a pass. -/
structure Gates where
  opened : List String := []
  /-- Whether every gate counts as open. -/
  lifted : Bool := false

/-- Whether a gate is open. -/
def Gates.isOpen (gates : Gates) (name : String) : Bool :=
  gates.lifted || gates.opened.contains name

/-- What outlives a pass: the handles that scripts remembered, and the memory of their taps. -/
structure Bookmarks where
  handles : List (String × Handle) := []
  memory : TapMemory := {}
  deriving Inhabited

/-- The state of a render pass. -/
structure Pass where
  tree : RenderTree
  rootTaken : Bool := false
  handles : Array Handle := #[]
  memory : TapMemory := {}
  agenda : Agenda := {}
  gates : Gates := {}
  /-- Whether an event loop runs, without which no work can be scheduled. -/
  looping : Bool
  /-- The faults of asynchronous work, in the order of time. -/
  failures : List Fault := []
  /-- The helpers that failed and were answered for, with their faults, in the order of time. -/
  recoveries : List (String × Fault) := []
  saved : List (String × Chunk) := []
  log : List Value := []

/-- Steps of a pass, which keep their effects when they fail. -/
abbrev PassM := ExceptT Fault (StateM Pass)

namespace Pass

/-- A pass with a new tree. The handles that earlier passes remembered come along; each writes
into a record of its own that belongs to no document. -/
def start (sink : Sink) (looping : Bool) (bookmarks : Bookmarks := {}) (log : List Value := []) :
    Pass :=
  let tree := RenderTree.new sink
  { tree := { tree with
      records := tree.records ++ (bookmarks.handles.map fun _ => ({} : Record)).toArray }
    handles := (bookmarks.handles.mapIdx fun index entry =>
      { entry.2 with record := index + 1 }).toArray
    memory := bookmarks.memory
    saved := bookmarks.handles.mapIdx fun index entry => (entry.1, ⟨index⟩)
    looping
    log }

/-- The handles that scripts of this and earlier passes remembered. -/
def bookmarks (pass : Pass) : Bookmarks where
  handles := pass.saved.map fun (name, chunk) => (name, pass.handles.getD chunk.number default)
  memory := pass.memory

/-- A step on the render tree of a pass. -/
def onTree {α : Type} (step : TreeM α) : PassM α := fun pass =>
  let (result, tree) := step pass.tree
  (result, { pass with tree })

/-- A step of the taps of a pass. -/
def onTaps {α : Type} (step : TapM α) : PassM α := fun pass =>
  let (result, memory) := step pass.memory
  (result, { pass with memory })

/-- Adds an entry to the log. -/
def note (entry : Value) : PassM Unit :=
  modify fun pass => { pass with log := pass.log ++ [entry] }

/-- Notes that a helper which failed is answered for. -/
def noteRecovery (helper : String) (fault : Fault) : PassM Unit :=
  modify fun pass => { pass with recoveries := pass.recoveries ++ [(helper, fault)] }

/-- Schedules work behind everything that can go on. -/
def enqueue (work : Work) : PassM Unit :=
  modify fun pass =>
    { pass with agenda := { pass.agenda with ready := pass.agenda.ready ++ [work] } }

/-- Schedules work that has to be awaited, for which an event loop must run. -/
def spawn (work : Work) : PassM Unit := do
  if (← get).looping then enqueue work else throw .noLoop

/-- Opens a gate: the work that waits for it can go on, in the order in which it began to
wait. -/
def openGate (name : String) : PassM Unit :=
  modify fun pass =>
    let (freed, waiting) := pass.agenda.gated.partition fun entry => entry.1 == name
    { pass with
      gates := { pass.gates with opened := name :: pass.gates.opened }
      agenda := { pass.agenda with
        ready := pass.agenda.ready ++ freed.map Prod.snd
        gated := waiting } }

/-- Suspends work until what it waits for has come. -/
def suspend (pause : Pause) (work : Work) : PassM Unit :=
  modify fun pass =>
    let agenda := pass.agenda
    { pass with agenda := match pause with
        | .turn => { agenda with ready := agenda.ready ++ [work] }
        | .delay ticks => { agenda with timed := agenda.timed ++ [(agenda.now + ticks, work)] }
        | .gate name => { agenda with gated := agenda.gated ++ [(name, work)] } }

end Pass

end TemplateStream
