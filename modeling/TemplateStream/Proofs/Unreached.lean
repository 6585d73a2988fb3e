import TemplateStream.Proofs.Course

/-!
# What plugins do not reach

Whatever plugins do when they are told of an event, and whatever data files are loaded: the options
of a renderer, the helper modules that it applied and the fragments that the sink was given are not
changed by it.
-/

namespace TemplateStream.Session

/-- A session less what plugins and data files may change. -/
def unreached (session : Session) : Session :=
  { session.steady with
    made := 0
    history := []
    renderer := { session.steady.renderer with
      faults := []
      roster := {} } }

/-- Two sessions differ at most in what plugins and data files may change. -/
def Spares (session after : Session) : Prop := after.unreached = session.unreached

variable {session after : Session}

theorem Spares.options (spares : Spares session after) :
    after.renderer.options = session.renderer.options := by
  have same : after.unreached.renderer.options = session.unreached.renderer.options := by
    rw [spares]
  exact same

theorem Spares.appliedModules (spares : Spares session after) :
    after.renderer.appliedModules = session.renderer.appliedModules := by
  have same : after.unreached.renderer.appliedModules =
      session.unreached.renderer.appliedModules := by rw [spares]
  exact same

theorem Spares.delivered (spares : Spares session after) :
    after.delivered = session.delivered := by
  have same : after.unreached.delivered = session.unreached.delivered := by rw [spares]
  exact same

/-- Whatever attaches plugins spares the rest. -/
theorem spares_attending : Attending Spares :=
  Lenient.attending
    (.of_steady (fun first second => second.trans first) fun {session after} same => by
      rw [Spares, unreached, unreached, same])
    (fun _ => rfl) (fun _ _ _ => rfl) (fun _ _ => rfl)

/-- Telling plugins in a way that spares the rest does so. -/
theorem tell_spares (event : Event) (data : Value) {step : List Plugin → SessionM Unit}
    (spared : ∀ plugins, Keeps Spares (step plugins)) : Keeps Spares (tell event data step) := by
  have attending := spares_attending
  intro session
  rw [tell_step]
  exact attending.trans (spared _ session) rfl

/-- So it does when their fault is dealt with. -/
theorem inform_spares (template : Option String) (event : Event) (data : Value)
    {step : List Plugin → SessionM Unit} (spared : ∀ plugins, Keeps Spares (step plugins)) :
    Keeps Spares (inform template event data step) := by
  have attending := spares_attending
  refine attending.bind (tell_spares event data spared).attempt fun result => ?_
  cases result with
  | ok _ => exact attending.pure _
  | error fault =>
    refine attending.bind attending.get fun session => ?_
    cases session.renderer.options.pluginPolicy with
    | abort => exact attending.throw _
    | proceed => exact fun _ => rfl

theorem announce_spares (event : Event) (template : String) (data : List (String × Value)) :
    Keeps Spares (announce event template data) := by
  have attending := spares_attending
  exact inform_spares _ _ _ (attending.awaitEach _ fun _ _ _ => rfl)

theorem announceFile_spares (file : DataFile) (key : String) (content : Value) :
    Keeps Spares (announceFile file key content) := by
  have attending := spares_attending
  exact inform_spares _ _ _ (attending.callEach _ fun _ _ _ => rfl)

theorem loadFile_spares (path : Path) : Keeps Spares (loadFile announceFile path) := by
  have attending := spares_attending
  exact attending.loadFile announceFile_spares (fun _ _ _ => rfl) attending.store path

/-! ## Legs of a pass -/

theorem carryOut_event_spares (commission : Commission) (output : String) (event : Event) :
    Keeps Spares (carryOut commission output (.event event)) := by
  have attending := spares_attending
  refine attending.bind attending.get fun _ => ?_
  exact attending.bind (announce_spares _ _ _) fun _ => attending.pure _

theorem carryOut_data_spares (commission : Commission) (output : String) :
    Keeps Spares (carryOut commission output .data) := by
  have attending := spares_attending
  intro session
  rw [carryOut_data]
  exact attending.loadPaths loadFile_spares _ session

/-- Going through legs keeps a relation that loading helper modules and rendering content keep, as
far as that is done in them, and that says nothing of what plugins and data files may change. -/
theorem travel_keeps {relation : Session → Session → Prop}
    (trans : ∀ {first second third}, relation first second → relation second third →
      relation first third)
    (spared : ∀ {session after}, Spares session after → relation session after)
    (commission : Commission) {legs : List Leg}
    (helpers : .helpers ∈ legs → ∀ output, Keeps relation (carryOut commission output .helpers))
    (content : .content ∈ legs → ∀ output, Keeps relation (carryOut commission output .content))
    (output : String) : Keeps relation (travel commission output legs) := by
  have attending := spares_attending
  induction legs generalizing output with
  | nil => exact fun session => spared (attending.pure output session)
  | cons leg rest ih =>
    have first : Keeps relation (carryOut commission output leg) := by
      cases leg with
      | event event => exact fun session => spared (carryOut_event_spares _ _ event session)
      | data => exact fun session => spared (carryOut_data_spares _ _ session)
      | helpers => exact helpers List.mem_cons_self output
      | content => exact content List.mem_cons_self output
    exact Keeps.bind trans first fun next =>
      ih (fun later => helpers (List.mem_cons_of_mem _ later))
        (fun later => content (List.mem_cons_of_mem _ later)) next

/-- Going through legs in which neither helper modules are loaded nor content is rendered spares
the rest. -/
theorem travel_spares (commission : Commission) {legs : List Leg} (helpers : .helpers ∉ legs)
    (content : .content ∉ legs) (output : String) :
    Keeps Spares (travel commission output legs) := by
  have attending := spares_attending
  exact @travel_keeps Spares attending.trans (fun spares => spares) commission legs
    (fun inside => (helpers inside).elim) (fun inside => (content inside).elim) output

end TemplateStream.Session
