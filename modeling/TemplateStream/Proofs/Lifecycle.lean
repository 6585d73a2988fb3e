import TemplateStream.Proofs.Loading
import TemplateStream.Proofs.Undisturbed

/-!
# The order of events in a pass

As long as plugins look on, what they are told of in a pass is settled by its course and by the
files that there are to load: each event of the course in its place, and between two of them each
file that is loaded. A stage that fails, or under one policy a telling that fails, cuts this short.
-/

namespace TemplateStream

open Session

/-- An event, and what is said of a data file if it is about one. -/
abbrev Mark := Event × Option Value

/-- What a telling is about. -/
def Telling.mark (telling : Telling) : Mark :=
  (telling.event, if telling.event = .dataFileLoaded then some telling.data else none)

/-- What is said of a file that is loaded. -/
def Loading.mark (loading : Loading) : Mark :=
  (.dataFileLoaded, some (fileData loading.file loading.key loading.content))

/-- What plugins are told of over a whole pass in which the given files are loaded. -/
def lifecycle (loadings : List Loading) : List Mark :=
  [(.beforeRender, none), (.beforeLoadData, none)] ++ loadings.map Loading.mark ++
    [(.afterLoadData, none), (.beforeLoadHelpers, none), (.afterLoadHelpers, none),
      (.beforeRenderContent, none), (.afterRenderContent, none), (.afterRender, none)]

/-- What was loaded of a reading, if it could be stored. -/
def Reading.loading? (reading : Reading) : Option Loading :=
  (Attempt.read reading.file reading.result).loading.toOption

namespace Leg

/-- What plugins are told of in a leg of a pass in which the given files are loaded. -/
def marks (loadings : List Loading) : Leg → List Mark
  | .event told => [(told, none)]
  | .data => loadings.map Loading.mark
  | .helpers | .content => []

/-- Whether a leg is work, and not only an event that plugins are told of. -/
def isWork : Leg → Bool
  | .event _ => false
  | .data | .helpers | .content => true

/-- The legs of a pass up to the given one. -/
def upTo (leg : Leg) : List Leg := course.takeWhile (· != leg) ++ [leg]

theorem upTo_of_course {before later : List Leg} {leg : Leg}
    (split : course = before ++ leg :: later) : leg.upTo = before ++ [leg] := by
  have once : (before ++ leg :: later).Nodup := split ▸ by decide
  have fresh : ∀ other ∈ before, (other != leg) = true := by
    intro other member
    have differ := (List.nodup_append.mp once).2.2 other member leg List.mem_cons_self
    simpa using differ
  rw [upTo, split, List.takeWhile_append_of_pos fresh, List.takeWhile_cons_of_neg (by simp),
    List.append_nil]

end Leg

/-- A whole pass tells of what its legs do. -/
theorem lifecycle_eq (loadings : List Loading) :
    lifecycle loadings = Leg.course.flatMap (Leg.marks loadings) := by
  simp [lifecycle, Leg.course, Leg.marks]

/-- What is told up to a leg and what is told after it is all that a whole pass tells. -/
theorem lifecycle_upTo {before later : List Leg} {leg : Leg}
    (split : Leg.course = before ++ leg :: later) (loadings : List Loading) :
    lifecycle loadings =
      leg.upTo.flatMap (Leg.marks loadings) ++ later.flatMap (Leg.marks loadings) := by
  rw [Leg.upTo_of_course split, ← List.flatMap_append, ← List.append_cons, ← split, lifecycle_eq]

/-- A pass that did not come to the last event of the course told less than a whole pass tells. -/
theorem last_of_marks {loadings : List Loading} {before later : List Leg} {leg : Leg}
    (split : Leg.course = before ++ leg :: later)
    (whole : leg.upTo.flatMap (Leg.marks loadings) = lifecycle loadings) :
    leg = .event .afterRender := by
  have last : (before ++ leg :: later).getLast? = some (.event .afterRender) := split ▸ rfl
  have nothing : later.flatMap (Leg.marks loadings) = [] :=
    List.self_eq_append_right.mp (whole.trans (lifecycle_upTo split loadings))
  rcases List.eq_nil_or_concat later with rfl | ⟨rest, final, rfl⟩
  · rw [List.getLast?_concat] at last
    exact Option.some.inj last
  · rw [List.append_cons, List.concat_eq_append, ← List.append_assoc, List.getLast?_concat] at last
    cases last
    have told := List.flatMap_eq_nil_iff.mp nothing (.event .afterRender) (by simp)
    cases told

/-- Plugins were told of marks in order, and of all of them unless a telling ended the pass. -/
def PluginPolicy.Tells (policy : PluginPolicy) (marks : List Mark) (told : List Telling) : Prop :=
  told.map Telling.mark <+: marks ∧ (policy.Bears told → told.map Telling.mark = marks)

namespace PluginPolicy

variable {policy : PluginPolicy} {marks more : List Mark} {told later : List Telling}
  {template : String} {fault : Fault}

theorem Tells.of_eq (same : told.map Telling.mark = marks) : policy.Tells marks told :=
  ⟨same ▸ List.prefix_rfl, fun _ => same⟩

/-- What was told stood in the way of a pass if some of it did. -/
theorem Bears.of_append (bears : policy.Bears (told ++ later)) :
    policy.Bears told ∧ policy.Bears later :=
  ⟨fun abort telling member => bears abort telling (List.mem_append_left _ member),
    fun abort telling member => bears abort telling (List.mem_append_right _ member)⟩

/-- What was told of in full is followed by what is told later. -/
theorem Tells.append (same : told.map Telling.mark = marks) (second : policy.Tells more later) :
    policy.Tells (marks ++ more) (told ++ later) := by
  rw [Tells, List.map_append, same]
  refine ⟨(List.prefix_append_right_inj marks).mpr second.1, fun bears => ?_⟩
  rw [second.2 bears.of_append.2]

/-- A telling that fails and is not put up with stands in the way of a pass. -/
theorem EndsBy.not_bears (ends : policy.EndsBy template told fault) : ¬ policy.Bears told := by
  intro bears
  obtain ⟨telling, member, cause, failed, _⟩ := ends.exists_failed
  rw [bears ends.1 telling member] at failed
  cases failed

/-- Nothing is told after a telling that ends a pass. -/
theorem EndsBy.nothing_after (ends : policy.EndsBy template told fault)
    {earlier rest : List Telling} {telling : Telling} {cause : Fault}
    (split : told = earlier ++ telling :: rest)
    (failed : telling.result = .error cause) : rest = [] := by
  obtain ⟨_, before, last, rfl, fine, _⟩ := ends
  rcases List.eq_nil_or_concat rest with rfl | ⟨between, final, rfl⟩
  · rfl
  · rw [List.concat_eq_append, ← List.cons_append, ← List.append_assoc] at split
    obtain ⟨rfl, _⟩ := List.append_inj' split rfl
    rw [fine telling (by simp)] at failed
    cases failed

/-- A telling that fails and is not put up with is the last of a pass, which ends with its fault. -/
theorem stopped_by {α : Type} {result : Except Fault α} {own : Fault → Prop}
    (ends : policy.Ends template told own result) (abort : policy = .abort)
    {earlier rest : List Telling} {telling : Telling} {cause : Fault}
    (split : told = earlier ++ telling :: rest) (failed : telling.result = .error cause) :
    rest = [] ∧ result =
      .error (.stage (.pluginEvent telling.event) (telling.event.template? template) cause) := by
  have inside : telling ∈ told := split ▸ List.mem_append_right _ List.mem_cons_self
  have stands : ¬ policy.Bears told := by
    intro bears
    rw [bears abort telling inside] at failed
    cases failed
  cases result with
  | ok output => exact (stands ends).elim
  | error fault =>
    have ended := ends.resolve_right fun own => stands own.1
    exact ⟨ended.nothing_after split failed, by rw [ended.of_failed inside failed]⟩

/-- After a telling that ends the pass no more is told. -/
theorem Tells.stop (tells : policy.Tells marks told) (ends : policy.EndsBy template told fault)
    (more : List Mark) : policy.Tells (marks ++ more) told :=
  ⟨tells.1.trans (List.prefix_append marks more), fun bears => (ends.not_bears bears).elim⟩

end PluginPolicy

namespace Session

/-- The files that are loaded from the paths of the options. -/
def loadings (session : Session) : List Loading :=
  Attempt.loaded (session.attempts session.renderer.options.dataPaths)

theorem loadings_of_scene {session after : Session} (same : after.scene = session.scene) :
    after.loadings = session.loadings := by
  have options : after.renderer.options = session.renderer.options := congrArg Scene.options same
  rw [loadings, loadings, options, attempts_of_scene same]

/-! ## Tellings of one event -/

/-- Telling the plugins of an event is one telling. -/
theorem inform_tells {template : String} {event : Event} {data : Value}
    {step : List Plugin → SessionM Unit}
    (silent : ∀ plugins, Keeps (Silent template) (step plugins)) (session : Session) :
    ∃ telling : Telling, telling.event = event ∧ telling.data = data ∧
      Stretch template session (inform (event.template? template) event data step session).2
        [telling] [] ∧
      session.policy.Ends template [telling] (fun _ => False)
        (inform (event.template? template) event data step session).1 := by
  rw [inform_step silent]
  exact ⟨_, rfl, rfl, (silent _ session).heard _, session.policy.reply_ends template _ _⟩

/-- Announcing a data file is one telling of it. -/
theorem announceFile_tells (template : String) (file : DataFile) (key : String) (content : Value)
    (session : Session) :
    ∃ telling : Telling, telling.event = .dataFileLoaded ∧
      telling.data = fileData file key content ∧
      Stretch template session (announceFile file key content session).2 [telling] [] ∧
      session.policy.Ends template [telling] (fun _ => False)
        (announceFile file key content session).1 :=
  inform_tells (silent_callEach template .dataFileLoaded _) session

/-- Announcing an event of a pass is one telling of it. -/
theorem announce_tells {template : String} {event : Event}
    (named : event.template? template = some template) (data : List (String × Value))
    (session : Session) :
    ∃ telling : Telling, telling.event = event ∧
      Stretch template session (announce event template data session).2 [telling] [] ∧
      session.policy.Ends template [telling] (fun _ => False)
        (announce event template data session).1 := by
  obtain ⟨telling, same, _, stretch, ends⟩ := @inform_tells template event _ _
    (silent_awaitEach template event (.ofFields data)) session
  rw [named] at stretch ends
  exact ⟨telling, same, stretch, ends⟩

/-! ## Files -/

/-- What is remembered of an attempt is no telling. -/
theorem stretch_reads (template : String) (attempt : Attempt) (session : Session) :
    Stretch template session (session.recorded attempt.reads) []
      (attempt.reads.filterMap Happening.reading?) where
  options := rfl
  tellings := by
    rw [tellings_of_history rfl]
    cases attempt <;> rfl
  readings := List.filterMap_append
  faults := by cases session.policy <;> exact (List.append_nil _).symm

/-- An attempt that finds nothing to load fails without telling of anything. -/
theorem make_of_error (template : String) {attempt : Attempt} {fault : Fault}
    (lost : attempt.loading = .error fault) (session : Session) :
    Stretch template session (make attempt session).2 []
        (attempt.reads.filterMap Happening.reading?) ∧
      (make attempt session).1 = .error fault := by
  rw [make, bind_step, modify_step]
  dsimp only
  rw [bind_step, liftExcept_step, lost]
  exact ⟨stretch_reads template attempt session, rfl⟩

/-- An attempt that finds something to load tells of it once. -/
theorem make_of_ok (template : String) {attempt : Attempt} {loading : Loading}
    (found : attempt.loading = .ok loading) (session : Session) :
    ∃ told, Stretch template session (make attempt session).2 told
        (attempt.reads.filterMap Happening.reading?) ∧
      told.map Telling.mark = [loading.mark] ∧
      session.policy.Ends template told (fun _ => False) (make attempt session).1 := by
  rw [make, bind_step, modify_step]
  dsimp only
  rw [bind_step, liftExcept_step, found]
  dsimp only
  obtain ⟨stored, ran, early⟩ : ∃ stored,
      store loading.key loading.content (session.recorded attempt.reads) = (.ok (), stored) ∧
        Stretch template session stored [] (attempt.reads.filterMap Happening.reading? ++ []) :=
    ⟨_, rfl, (stretch_reads template attempt session).trans
      ((silent_attending template).store _ _ _)⟩
  rw [List.append_nil] at early
  rw [bind_step, ran]
  obtain ⟨telling, event, data, stretch, ends⟩ :=
    announceFile_tells template loading.file loading.key loading.content stored
  rw [early.policy_eq] at ends
  have whole := early.trans stretch
  rw [List.append_nil] at whole
  refine ⟨[telling], whole, ?_, ends⟩
  rw [List.map_singleton, Telling.mark, event, if_pos rfl, data, Loading.mark]

/-- Attempts tell of the files that are loaded by them. -/
theorem makeAll_tells (template : String) (attempts : List Attempt) (session : Session) :
    ∃ told read, Stretch template session (makeAll attempts session).2 told read ∧
      session.policy.Tells ((Attempt.loaded attempts).map Loading.mark) told := by
  induction attempts generalizing session with
  | nil => exact ⟨[], [], .of_same rfl rfl rfl, .of_eq rfl⟩
  | cons first rest ih =>
    rw [makeAll, bind_step, Attempt.loaded]
    cases found : first.loading with
    | error fault =>
      obtain ⟨stretch, failed⟩ := make_of_error template found session
      refine ⟨[], first.reads.filterMap Happening.reading?, ?_, .of_eq rfl⟩
      rcases ran : make first session with ⟨result, after⟩
      rw [ran] at stretch failed
      cases failed
      exact stretch
    | ok loading =>
      obtain ⟨told, stretch, same, ends⟩ := make_of_ok template found session
      rcases ran : make first session with ⟨fault | _, after⟩
      · rw [ran] at stretch ends
        have ended := ends.resolve_right fun own => own.2
        exact ⟨told, _, stretch, (PluginPolicy.Tells.of_eq same).stop ended _⟩
      · rw [ran] at stretch
        obtain ⟨later, more, following, tells⟩ := ih after
        rw [stretch.policy_eq] at tells
        exact ⟨told ++ later, _, stretch.trans following, .append same tells⟩

/-! ## Legs -/

/-- An event of the course leaves what announcing it leaves. -/
theorem carryOut_event_state (commission : Commission) (output : String) (event : Event)
    (session : Session) :
    (carryOut commission output (.event event) session).2 =
      (announce event commission.template (occasion commission output session.renderer event)
        session).2 := by
  rw [carryOut, bind_step, get_step]
  dsimp only
  rw [bind_step]
  rcases announce event commission.template
    (occasion commission output session.renderer event) session with ⟨_ | _, _⟩ <;> rfl

/-- An event of the course is not about a data file. -/
theorem mark_of_course {telling : Telling} (member : .event telling.event ∈ Leg.course) :
    telling.event ≠ .dataFileLoaded ∧ telling.mark = (telling.event, none) := by
  have other : telling.event ≠ .dataFileLoaded := by
    intro file
    rw [file] at member
    exact absurd member (by decide)
  exact ⟨other, by rw [Telling.mark, if_neg other]⟩

/-- A leg of the course tells of its marks, unless a telling ends the pass. -/
theorem carryOut_tells (commission : Commission) (output : String) {leg : Leg}
    (member : leg ∈ Leg.course) {session : Session} (watched : session.Watched) :
    ∃ told read,
      Stretch commission.template session (carryOut commission output leg session).2 told read ∧
        session.policy.Ends commission.template told (fun _ => leg.isWork = true)
          (carryOut commission output leg session).1 ∧
        session.policy.Tells (leg.marks session.loadings) told := by
  have conducts : Conducts commission.template (fun _ _ => leg.isWork = true)
      (carryOut commission output leg) := by
    cases leg with
    | event event => exact (carryOut_event_conducts commission output member).mono fun _ _ => nofun
    | data | helpers | content =>
      exact (carryOut_conducts commission output member).mono fun _ _ _ => rfl
  obtain ⟨told, read, stretch, ends⟩ := conducts session
  refine ⟨told, read, stretch, ends, ?_⟩
  have unique {other : List Telling} {more : List Reading} (also : Stretch commission.template
      session (carryOut commission output leg session).2 other more) : other = told := by
    have tellings := also.tellings
    rw [stretch.tellings] at tellings
    exact (List.append_cancel_left tellings).symm
  cases leg with
  | event event =>
    obtain ⟨telling, same, announced, _⟩ := announce_tells (course_named _ member)
      (occasion commission output session.renderer event) session
    rw [← carryOut_event_state] at announced
    rw [← unique announced]
    rw [← same] at member
    refine .of_eq ?_
    rw [List.map_singleton, (mark_of_course member).2, same, Leg.marks]
  | data =>
    obtain ⟨said, more, loaded, tells⟩ := makeAll_tells commission.template
      (session.attempts session.renderer.options.dataPaths) session
    rw [← loadPaths_makeAll _ watched, discard_state] at loaded
    rw [carryOut_data] at unique
    rw [← unique loaded]
    exact tells
  | helpers =>
    rw [← unique (carryOut_helpers_silent commission output commission.template session)]
    exact .of_eq rfl
  | content =>
    rw [← unique (carryOut_content_silent commission output commission.template session)]
    exact .of_eq rfl

/-! ## Files that were read -/

/-- The plugins were told of the files that were read and could be stored, each once and in the
order in which they were read. -/
def Accounts (told : List Telling) (read : List Reading) : Prop :=
  (told.map Telling.mark).filter (fun mark => mark.1 = .dataFileLoaded) =
    (read.filterMap Reading.loading?).map Loading.mark

/-- What was told and read since another session accounts for each other. -/
def Paired (session after : Session) : Prop :=
  ∃ told read, after.tellings = session.tellings ++ told ∧
    after.readings = session.readings ++ read ∧ Accounts told read

/-- What an attempt reads is what it loads. -/
theorem loading_of_reads (attempt : Attempt) :
    (attempt.reads.filterMap Happening.reading?).filterMap Reading.loading? =
      attempt.loading.toOption.toList := by
  cases attempt with
  | lost fault => rfl
  | read file result =>
    have one : (Attempt.read file result).reads.filterMap Happening.reading? = [⟨file, result⟩] :=
      rfl
    rw [one, List.filterMap_cons, Reading.loading?]
    cases (Attempt.read file result).loading <;> rfl

theorem make_paired (attempt : Attempt) : Keeps Paired (make attempt) := by
  intro session
  have loads := loading_of_reads attempt
  cases found : attempt.loading with
  | error fault =>
    obtain ⟨stretch, _⟩ := make_of_error "" found session
    rw [found] at loads
    refine ⟨[], _, stretch.tellings, stretch.readings, ?_⟩
    rw [Accounts, loads]
    rfl
  | ok loading =>
    obtain ⟨told, stretch, same, _⟩ := make_of_ok "" found session
    rw [found] at loads
    refine ⟨told, _, stretch.tellings, stretch.readings, ?_⟩
    rw [Accounts, loads, same]
    rfl

/-- A pass tells of the files that are read in it. -/
theorem paired_passing : Passing Paired where
  trans := by
    rintro session middle after ⟨told, read, tellings, readings, first⟩
      ⟨later, more, tellingsToo, readingsToo, second⟩
    refine ⟨told ++ later, read ++ more, ?_, ?_, ?_⟩
    · rw [tellingsToo, tellings, List.append_assoc]
    · rw [readingsToo, readings, List.append_assoc]
    · rw [Accounts, List.map_append, List.filter_append, List.filterMap_append, List.map_append,
        first, second]
  traveled := fun {session after} same => by
    have history : after.traveled.history = session.traveled.history := by rw [same]
    have history : after.history = session.history := history
    refine ⟨[], [], ?_, ?_, rfl⟩
    · rw [tellings, tellings, history, List.append_nil]
    · rw [readings, readings, history, List.append_nil]
  announced := by
    intro event member template data session
    obtain ⟨telling, rfl, announced, _⟩ :=
      announce_tells (course_named template member) data session
    obtain ⟨other, mark⟩ := mark_of_course member
    refine ⟨[telling], [], announced.tellings, announced.readings, ?_⟩
    rw [Accounts, List.map_singleton, mark, List.filter_cons_of_neg (by simpa using other)]
    rfl
  loaded := by
    intro path session
    rw [← discard_state, loadFile_make]
    exact make_paired _ session

/-! ## Passes -/

/-- Going through legs of the course without a fault tells of all their marks. -/
theorem travel_tells {commission : Commission} {output so : String} {legs : List Leg}
    (members : ∀ leg ∈ legs, leg ∈ Leg.course) {session reached : Session}
    (watched : session.Watched)
    (went : travel commission output legs session = (.ok so, reached)) :
    ∃ told read, Stretch commission.template session reached told read ∧
      session.policy.Bears told ∧
      told.map Telling.mark = legs.flatMap (Leg.marks session.loadings) := by
  induction legs generalizing output session with
  | nil =>
    cases went
    exact ⟨[], [], .of_same rfl rfl rfl, PluginPolicy.bears_nil, rfl⟩
  | cons leg rest ih =>
    have inside := members leg List.mem_cons_self
    obtain ⟨next, middle, first, second⟩ := bind_ok went
    obtain ⟨told, read, stretch, ends, tells⟩ := carryOut_tells commission output inside watched
    have scene := (follows_passing.carryOut commission output inside session watched).1
    rw [first] at stretch ends scene
    obtain ⟨later, more, following, bears, marks⟩ :=
      ih (fun other member => members other (List.mem_cons_of_mem _ member))
        (watched_of_scene scene watched) second
    rw [stretch.policy_eq] at bears
    rw [loadings_of_scene scene] at marks
    refine ⟨told ++ later, read ++ more, stretch.trans following, ends.append bears, ?_⟩
    rw [List.map_append, List.flatMap_cons, tells.2 ends, marks]

/-- A pass that comes to a leg that fails has told of the marks up to that leg, unless a telling
ended it. That is so when the leg is not work. -/
theorem tells_of_arrives {target : RenderTarget} {input : RenderInput}
    {session reached after : Session} {leg : Leg} {commission : Commission} {output : String} {fault : Fault}
    (arrives : Arrives target input session leg commission output reached)
    (failed : carryOut commission output leg reached = (.error fault, after))
    (watched : session.Watched) :
    ∃ told, (render target input session).2.tellings = session.tellings ++ told ∧
      session.policy.Tells (leg.upTo.flatMap (Leg.marks session.loadings)) told ∧
      (session.policy.Bears told → leg.isWork = true) := by
  have ended := arrives.render failed
  obtain ⟨opened, before, later, began, course, went⟩ := arrives
  obtain rfl := opened_cleared began
  have begins : session.cleared.Watched := watched
  have members : ∀ other ∈ before, other ∈ Leg.course := fun other member =>
    course ▸ List.mem_append_left _ member
  obtain ⟨told, read, stretch, bears, marks⟩ := travel_tells members begins went
  have scene := (follows_passing.travel commission "" members session.cleared begins).1
  rw [went] at scene
  have inside : leg ∈ Leg.course := course ▸ List.mem_append_right _ List.mem_cons_self
  obtain ⟨late, more, following, ends, tells⟩ :=
    carryOut_tells commission output inside (watched_of_scene scene watched)
  rw [failed] at following ends
  rw [stretch.policy_eq] at ends tells
  rw [loadings_of_scene scene] at tells
  refine ⟨told ++ late, ?_, ?_, fun bears => ?_⟩
  · rw [ended]
    exact (stretch.trans following).tellings
  · rw [Leg.upTo_of_course course, List.flatMap_append, List.flatMap_singleton]
    exact .append marks tells
  · exact (ends.resolve_left fun ended => ended.not_bears bears.of_append.2).2

/-- A pass that returns told of its whole lifecycle, and no telling stood in its way. -/
theorem tells_of_ok {target : RenderTarget} {input : RenderInput} {session after : Session}
    {output : String} (returned : render target input session = (.ok output, after))
    (watched : session.Watched) :
    ∃ told, after.tellings = session.tellings ++ told ∧
      told.map Telling.mark = lifecycle session.loadings ∧ session.policy.Bears told := by
  rw [render_eq] at returned
  obtain ⟨commission, opened, began, went⟩ := bind_ok returned
  obtain rfl := opened_cleared began
  have begins : session.cleared.Watched := watched
  obtain ⟨told, read, stretch, bears, marks⟩ := travel_tells (fun _ member => member) begins went
  exact ⟨told, stretch.tellings, marks.trans (lifecycle_eq _).symm, bears⟩

/-- A pass that fails told of a part of its lifecycle, or of all of it and failed by the last
telling. -/
theorem tells_of_error {target : RenderTarget} {input : RenderInput} {session after : Session}
    {fault : Fault} (failed : render target input session = (.error fault, after))
    (watched : session.Watched) :
    ∃ told, after.tellings = session.tellings ++ told ∧
      told.map Telling.mark <+: lifecycle session.loadings ∧
      (told.map Telling.mark = lifecycle session.loadings → ¬ session.policy.Bears told) := by
  rcases render_error failed with unopened | ⟨leg, commission, output, reached, arrives, stopped⟩
  · obtain rfl := opened_cleared unopened
    exact ⟨[], (List.append_nil _).symm, List.nil_prefix, nofun⟩
  · obtain ⟨told, tellings, tells, work⟩ := tells_of_arrives arrives stopped watched
    rw [failed] at tellings
    obtain ⟨_, before, later, _, split, _⟩ := arrives
    refine ⟨told, tellings, ?_, fun whole bears => ?_⟩
    · rw [lifecycle_upTo split]
      exact tells.1.trans (List.prefix_append _ _)
    · have last := last_of_marks split ((tells.2 bears).symm.trans whole)
      have work := work bears
      rw [last] at work
      cases work

end Session

/-- As long as the attached plugins look on, what they are told of in a pass is a beginning of its
lifecycle: the events of the course, and in their place the files that there are to load, each
once and in the order in which they are loaded. These are the files that were read and could be
stored. Nothing is told in a pass whose target leads to no body. A pass returns just when all of
its lifecycle was told and no telling stood in the way. When a leg fails, all up to it was told,
unless a telling ended the pass, and nothing is told after it; nor is anything after a telling that
fails and is not put up with. When the faults of plugins are put up with, the same is told as
without plugins. -/
theorem lifecycle_order (target : RenderTarget) (input : RenderInput) (session : Session)
    (looking : ∀ plugin ∈ session.attached, plugin.LooksOn) :
    let ran := render target input session
    ∃ told read, ran.2.tellings = session.tellings ++ told ∧
      ran.2.readings = session.readings ++ read ∧
      told.map Telling.mark <+: lifecycle session.loadings ∧
      Accounts told read ∧
      (∀ fault, target.bodyIn session.renderer.templates = .error fault →
        ran.1 = .error fault ∧ told = []) ∧
      ((∃ output, ran.1 = .ok output) ↔
        told.map Telling.mark = lifecycle session.loadings ∧ session.policy.Bears told) ∧
      (∀ leg commission output reached fault,
        Arrives target input session leg commission output reached →
        (carryOut commission output leg reached).1 = .error fault →
        ran.1 = .error fault ∧
          session.policy.Tells (leg.upTo.flatMap (Leg.marks session.loadings)) told) ∧
      (session.policy = .abort → ∀ earlier telling later cause,
        told = earlier ++ telling :: later → telling.result = .error cause →
        later = [] ∧ ran.1 = .error (.stage (.pluginEvent telling.event)
          (telling.event.template? target.title) cause)) ∧
      (session.policy = .proceed → ran.2.tellings.map Telling.said =
        (render target input session.unattended).2.tellings.map Telling.said) := by
  intro ran
  obtain ⟨told, read, stretch, ends⟩ := render_stretch target input session
  have heard : ran.2.tellings = session.tellings ++ told := stretch.tellings
  have unique {other : List Telling} (also : ran.2.tellings = session.tellings ++ other) :
      other = told := by
    rw [heard] at also
    exact (List.append_cancel_left also).symm
  have accounts : Accounts told read := by
    obtain ⟨said, more, also, readings, accounts⟩ := paired_passing.render target input session
    rw [show (render target input session).2.readings = _ from stretch.readings] at readings
    rwa [unique also, ← List.append_cancel_left readings] at accounts
  have legs : ∀ leg commission output reached fault,
      Arrives target input session leg commission output reached →
      (carryOut commission output leg reached).1 = .error fault →
      ran.1 = .error fault ∧
        session.policy.Tells (leg.upTo.flatMap (Leg.marks session.loadings)) told := by
    intro leg commission output reached fault arrives failed
    obtain ⟨said, also, tells, _⟩ := tells_of_arrives arrives (Prod.ext failed rfl) looking
    rw [unique also] at tells
    exact ⟨congrArg Prod.fst (arrives.render (Prod.ext failed rfl)), tells⟩
  have unresolved : ∀ fault, target.bodyIn session.renderer.templates = .error fault →
      ran.1 = .error fault ∧ told = [] := by
    intro fault found
    have stopped : ran = (.error fault, session.cleared) := render_unresolved input found
    refine ⟨congrArg Prod.fst stopped, (unique ?_).symm⟩
    rw [stopped]
    exact (List.append_nil _).symm
  refine ⟨told, read, heard, stretch.readings, ?_, accounts, unresolved, ?_, legs, ?_, ?_⟩
  · cases result : ran.1 with
    | ok output =>
      obtain ⟨said, also, marks, _⟩ := tells_of_ok (Prod.ext result rfl) looking
      rw [← unique also]
      exact marks ▸ List.prefix_rfl
    | error fault =>
      obtain ⟨said, also, part, _⟩ := tells_of_error (Prod.ext result rfl) looking
      rw [← unique also]
      exact part
  · constructor
    · rintro ⟨output, result⟩
      obtain ⟨said, also, whole⟩ := tells_of_ok (Prod.ext result rfl) looking
      rw [← unique also]
      exact whole
    · rintro ⟨whole, bears⟩
      cases result : ran.1 with
      | ok output => exact ⟨output, rfl⟩
      | error fault =>
        obtain ⟨said, also, _, stops⟩ := tells_of_error (Prod.ext result rfl) looking
        rw [unique also] at stops
        exact (stops whole bears).elim
  · intro abort earlier telling later cause all failed
    exact PluginPolicy.stopped_by ends abort all failed
  · intro proceeds
    exact (Agrees.render target input _ _ (alike_unattended looking proceeds)).2.said

/-- A session in which one of the files is missing. -/
def missingFile : Session :=
  { failingPlugins with
    renderer := { failingPlugins.renderer with
      options := { failingPlugins.renderer.options with
        dataPaths := [.text "notes.txt", .text "missing.txt"] } } }

/-- Plugins that fail are told of what there is to load, and of nothing after the file that is
missing. -/
theorem lifecycle_order_missingFile :
    (∀ plugin ∈ missingFile.attached, plugin.LooksOn) ∧
      (render (.named "page") (.value .null) missingFile).2.tellings.map Telling.event =
        [.beforeRender, .beforeLoadData, .dataFileLoaded] ∧
      (render (.named "page") (.value .null) missingFile).2.tellings.map Telling.mark <+:
        lifecycle missingFile.loadings := by
  have looking : ∀ plugin ∈ missingFile.attached, plugin.LooksOn := failingPlugins_lookOn
  obtain ⟨told, _, tellings, _, part, _⟩ :=
    lifecycle_order (.named "page") (.value .null) missingFile looking
  rw [← show (render (.named "page") (.value .null) missingFile).2.tellings = told from
    tellings] at part
  exact ⟨looking, by decide +kernel, part⟩

end TemplateStream
