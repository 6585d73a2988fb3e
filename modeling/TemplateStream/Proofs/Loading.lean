import TemplateStream.Proofs.Onlooking
import TemplateStream.Proofs.Tables

/-!
# What there is to load

The paths of the options lead to files one after the other: what is read of each, or why there is
nothing to read, is settled by the file tree and the readers before anything is loaded. As long as
the plugins that are told of the files look on, loading the paths is to go through these attempts
up to the first that fails, and each file that is loaded is told of once, in that order.
-/

namespace TemplateStream

/-- A file that was read, with the key and the value that are stored. -/
structure Loading where
  file : DataFile
  key : String
  content : Value

/-- The key and the value that are stored for a file. -/
def Loading.entry (loading : Loading) : String × Value := (loading.key, loading.content)

/-- An attempt to load something. -/
inductive Attempt where
  /-- There is nothing to read. -/
  | lost (fault : Fault)
  | read (file : DataFile) (result : Except Fault Value)

namespace Attempt

/-- What an attempt to load something comes to. -/
def loading : Attempt → Except Fault Loading
  | .lost fault => .error fault
  | .read file result =>
    (do splitStorageKey (← result) file.name).map fun (key, content) => ⟨file, key, content⟩

/-- What is remembered of an attempt to load something. -/
def reads : Attempt → List Happening
  | .lost _ => []
  | .read file result => [.read file result]

/-- The attempt to load the file at a path. -/
def atFile (scene : Session.Scene) (path : Path) : Attempt :=
  let file : DataFile := ⟨path⟩
  match scene.extensions.resolve file.extension (some path.text) with
  | .error fault => .lost fault
  | .ok reader => .read file (reader.read scene.files file scene.load)

/-- The attempts to load what lies at a path: a file, or the files below a directory that have a
reader. -/
def atPath (scene : Session.Scene) (value : Value) : List Attempt :=
  match Session.pathOf value with
  | .error fault => [.lost fault]
  | .ok path =>
    if scene.files.isFile path then [atFile scene path]
    else if scene.files.isDirectory path then
      ((scene.files.filesBelow path).filter fun path => scene.extensions.contains path.suffix).map
        (atFile scene)
    else [.lost (.data (.missingPath path.text))]

/-- The files that are loaded by attempts in order: those before the first that fails. -/
def loaded : List Attempt → List Loading
  | [] => []
  | first :: rest =>
    match first.loading with
    | .ok loading => loading :: loaded rest
    | .error _ => []

end Attempt

namespace Session

/-- The attempts to load what lies at the paths of the options. -/
def attempts (session : Session) (paths : List Value) : List Attempt :=
  paths.flatMap (Attempt.atPath session.scene)

/-- A session in which files were loaded. -/
def stocked (session : Session) (loadings : List Loading) : Session :=
  { session with
    renderer := { session.renderer with
      data := { session.renderer.data with
        data := session.renderer.data.data.insertAll (loadings.map Loading.entry) } } }

/-- Makes an attempt: stores what was read, does what is done about it, and gives its key. -/
def attend (notice : FileNotice) (attempt : Attempt) : SessionM String := do
  modify fun session => session.recorded attempt.reads
  let loading ← liftExcept attempt.loading
  store loading.key loading.content
  notice loading.file loading.key loading.content
  pure loading.key

/-- Makes an attempt: stores what was read and tells the plugins of it. -/
def make (attempt : Attempt) : SessionM Unit := do
  modify fun session => session.recorded attempt.reads
  let loading ← liftExcept attempt.loading
  store loading.key loading.content
  announceFile loading.file loading.key loading.content

/-- Makes attempts in order. -/
def makeAll : List Attempt → SessionM Unit
  | [] => pure ()
  | first :: rest => do
    make first
    makeAll rest

/-! ## Loading as attempts -/

@[simp]
theorem scene_files (session : Session) : session.scene.files = session.files := rfl

@[simp]
theorem scene_extensions (session : Session) :
    session.scene.extensions = session.renderer.data.extensions := rfl

@[simp]
theorem scene_load (session : Session) : session.scene.load = session.renderer.data.load := rfl

/-- An attempt to load nothing fails. -/
theorem attend_lost (notice : FileNotice) (fault : Fault) :
    attend notice (.lost fault) = throw fault := by
  funext session
  rw [attend, bind_step, modify_step, Attempt.reads, recorded_nil]
  rfl

theorem mapM_attend_lost (notice : FileNotice) (fault : Fault) :
    [Attempt.lost fault].mapM (attend notice) = throw fault := by
  rw [List.mapM_cons, attend_lost]
  rfl

/-- Loading a file is one attempt. -/
theorem loadFile_attend (notice : FileNotice) (path : Path) (session : Session) :
    loadFile notice path session = attend notice (.atFile session.scene path) session := by
  rw [loadFile, bind_step, get_step, Attempt.atFile, scene_files, scene_extensions, scene_load]
  dsimp only
  rw [bind_step, liftExcept_step]
  cases session.renderer.data.extensions.resolve (DataFile.mk path).extension (some path.text) with
  | error fault => exact congrFun (attend_lost notice fault).symm session
  | ok reader =>
    simp only [attend, Attempt.loading, Attempt.reads, happen, bind_step, modify_step,
      liftExcept_step]
    let result := reader.read session.files ⟨path⟩ session.renderer.data.load
    cases (do splitStorageKey (← result) (DataFile.mk path).name :
      Except Fault (String × Value)) <;> rfl

/-- What is there to load is the same after a step. -/
structure SameSupply (session after : Session) : Prop where
  files : after.files = session.files
  extensions : after.renderer.data.extensions = session.renderer.data.extensions
  load : after.renderer.data.load = session.renderer.data.load

/-- What is done about files leaves sessions of a kind in that kind, and what there is to load. -/
def Steady (kind : Session → Prop) (notice : FileNotice) : Prop :=
  ∀ attempt session, kind session →
    kind (attend notice attempt session).2 ∧ SameSupply session (attend notice attempt session).2

variable {session after : Session}

theorem SameSupply.refl (session : Session) : SameSupply session session := ⟨rfl, rfl, rfl⟩

theorem SameSupply.trans {later : Session} (first : SameSupply session after)
    (second : SameSupply after later) : SameSupply session later :=
  ⟨second.files.trans first.files, second.extensions.trans first.extensions,
    second.load.trans first.load⟩

theorem SameSupply.atFile (same : SameSupply session after) (path : Path) :
    Attempt.atFile after.scene path = .atFile session.scene path := by
  simp only [Attempt.atFile, scene_files, scene_extensions, scene_load, same.files,
    same.extensions, same.load]

theorem SameSupply.attempts (same : SameSupply session after) (paths : List Value) :
    after.attempts paths = session.attempts paths := by
  have atFile : Attempt.atFile after.scene = Attempt.atFile session.scene := funext same.atFile
  have atPath : Attempt.atPath after.scene = Attempt.atPath session.scene := by
    funext value
    unfold Attempt.atPath
    rw [atFile, scene_files, scene_files, scene_extensions, scene_extensions, same.files,
      same.extensions]
  rw [Session.attempts, atPath, Session.attempts]

theorem attempts_of_scene (same : after.scene = session.scene) (paths : List Value) :
    after.attempts paths = session.attempts paths :=
  congrArg (fun scene => paths.flatMap (Attempt.atPath scene)) same

section

variable {notice : FileNotice} {kind : Session → Prop} (steady : Steady kind notice)

include steady

/-- Attempts leave sessions of a kind in that kind, and what there is to load. -/
theorem Steady.mapM (attempts : List Attempt) (fits : kind session) :
    kind (attempts.mapM (attend notice) session).2 ∧
      SameSupply session (attempts.mapM (attend notice) session).2 := by
  induction attempts generalizing session with
  | nil => exact ⟨fits, .refl session⟩
  | cons attempt rest ih =>
    have ⟨still, same⟩ := steady attempt session fits
    rw [List.mapM_cons, bind_step]
    cases ran : attend notice attempt session with
    | mk result middle =>
      rw [ran] at still same
      cases result with
      | error fault => exact ⟨still, same⟩
      | ok key =>
        have ⟨later, sameToo⟩ := ih still
        dsimp only
        rw [bind_step]
        cases ranToo : rest.mapM (attend notice) middle with
        | mk result last =>
          rw [ranToo] at later sameToo
          cases result <;> exact ⟨later, same.trans sameToo⟩

/-- Loading the files that have a reader is to attempt each of them. -/
theorem loadFiles_attend (paths : List Path) (fits : kind session) :
    loadFiles notice paths session =
      ((paths.filter fun path => session.scene.extensions.contains path.suffix).map
        (.atFile session.scene)).mapM (attend notice) session := by
  induction paths generalizing session with
  | nil => rfl
  | cons path rest ih =>
    rw [loadFiles, bind_step, get_step, List.filter_cons, scene_extensions]
    dsimp only
    split
    · have ⟨still, same⟩ := steady (.atFile session.scene path) session fits
      rw [List.map_cons, List.mapM_cons, bind_step, bind_step, loadFile_attend]
      cases ran : attend notice (.atFile session.scene path) session with
      | mk result middle =>
        rw [ran] at still same
        cases result with
        | error fault => rfl
        | ok key =>
          have later := ih still
          have atFile : Attempt.atFile middle.scene = Attempt.atFile session.scene :=
            funext same.atFile
          rw [scene_extensions, same.extensions, atFile] at later
          dsimp only
          rw [bind_step, bind_step, later]
    · exact ih fits

/-- Loading what lies at a path is to make the attempts there. -/
theorem loadPath_attend (value : Value) (fits : kind session) :
    loadPath notice value session =
      (Attempt.atPath session.scene value).mapM (attend notice) session := by
  rw [loadPath, bind_step, liftExcept_step, Attempt.atPath]
  cases pathOf value with
  | error fault => exact congrFun (mapM_attend_lost notice fault).symm session
  | ok path =>
    dsimp only
    rw [bind_step, get_step, scene_files]
    dsimp only
    split
    · rw [List.mapM_cons, bind_step, bind_step, loadFile_attend]
      rfl
    · split
      · exact loadFiles_attend steady _ fits
      · exact congrFun (mapM_attend_lost notice _).symm session

/-- Loading paths in order is to make the attempts that they lead to. -/
theorem loadPaths_attend (paths : List Value) (fits : kind session) :
    loadPaths notice paths session = (session.attempts paths).mapM (attend notice) session := by
  induction paths generalizing session with
  | nil => rfl
  | cons value rest ih =>
    have ⟨still, same⟩ := Steady.mapM steady (Attempt.atPath session.scene value) fits
    rw [loadPaths, attempts, List.flatMap_cons, List.mapM_append, bind_step, bind_step,
      loadPath_attend steady value fits]
    cases ran : (Attempt.atPath session.scene value).mapM (attend notice) session with
    | mk result middle =>
      rw [ran] at still same
      cases result with
      | error fault => rfl
      | ok keys =>
        have later := ih still
        rw [same.attempts] at later
        dsimp only
        rw [bind_step, bind_step, later]
        rfl

end

/-! ## Loading as the plugins are told of it -/

/-- A sequence whose result is not wanted. -/
theorem discard_bind {α β : Type} (step : SessionM α) (next : α → SessionM β) :
    discard (step >>= next) = step >>= fun value => discard (next value) :=
  map_bind _ step next

theorem discard_pure {α : Type} (value : α) : discard (pure value : SessionM α) = pure () :=
  rfl

/-- An attempt whose key is not wanted. -/
theorem discard_attend (attempt : Attempt) :
    discard (attend announceFile attempt) = make attempt := by
  simp only [attend, make, discard_bind, discard_pure, bind_pure_unit]

/-- Attempts whose keys are not wanted. -/
theorem discard_mapM_attend (attempts : List Attempt) :
    discard (attempts.mapM (attend announceFile)) = makeAll attempts := by
  induction attempts with
  | nil => rfl
  | cons attempt rest ih =>
    funext session
    rw [List.mapM_cons, makeAll, ← ih, ← discard_attend, discard_bind, bind_step, bind_step,
      discard_step]
    cases attend announceFile attempt session with
    | mk result middle =>
      cases result with
      | error fault => rfl
      | ok key =>
        dsimp only
        rw [discard_step, discard_step, bind_step]
        cases rest.mapM (attend announceFile) middle with
        | mk result last => cases result <;> rfl

/-- Plugins that look on follow an attempt. -/
theorem make_follows (attempt : Attempt) : Keeps Follows (make attempt) := by
  have tolerant := follows_tolerant
  have reads (plugins : List Plugin) : Rounds plugins attempt.reads := by
    cases attempt with
    | lost fault => exact .quiet
    | read file result => exact Rounds.quiet.read file result
  exact tolerant.bind (fun session _ => ⟨rfl, _, rfl, reads session.attached⟩) fun _ =>
    tolerant.bind (tolerant.lift _) fun _ =>
      tolerant.bind (fun _ => follows_aside rfl rfl) fun _ => announceFile_follows _ _ _

/-- Plugins that look on leave what there is to load, and go on looking on. -/
theorem watched_steady : Steady Watched announceFile := by
  intro attempt session watched
  have scene := (make_follows attempt session watched).1
  rw [← discard_attend, discard_state] at scene
  have same : SameSupply session (attend announceFile attempt session).2 :=
    ⟨congrArg Scene.files scene, congrArg Scene.extensions scene, congrArg Scene.load scene⟩
  exact ⟨watched_of_scene scene watched, same⟩

/-- Loading a file is one attempt. -/
theorem loadFile_make (path : Path) (session : Session) :
    discard (loadFile announceFile path) session =
      make (.atFile session.scene path) session := by
  rw [discard_step, loadFile_attend, ← discard_step, discard_attend]

/-- Loading paths in order is to make the attempts that they lead to. -/
theorem loadPaths_makeAll (paths : List Value) (watched : session.Watched) :
    discard (loadPaths announceFile paths) session = makeAll (session.attempts paths) session := by
  rw [discard_step, loadPaths_attend watched_steady paths watched, ← discard_step,
    discard_mapM_attend]

end Session

end TemplateStream
