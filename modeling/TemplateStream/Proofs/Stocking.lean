import TemplateStream.Proofs.Loading
import TemplateStream.Proofs.Walking

/-!
# What data files leave in the store

Paths are loaded in order, and the files below a directory in ascending order of their parts,
however the tree of files holds them. What is under a key afterwards is the whole value of the last
file that was stored there, also when the loading stopped before its end, and each file is told of
once, when its value is in the store.
-/

namespace TemplateStream

/-- The key and the content that a value is stored with: under the stem of its file as it is, or
under the name that it gives less the blanks, without that name. -/
inductive Shelves (stem : String) : Value → String × Value → Prop where
  | whole {value : Value} (unmarked : ∀ entries, value = .mapping entries →
      Value.lookup (.text storageMark) entries = none) : Shelves stem value (stem, value)
  | named {entries : List (Value × Value)} {mark : Value} {name : String}
      (marked : Value.lookup (.text storageMark) entries = some mark)
      (text : mark.text? = some name) (filled : Text.isBlankText name = false) :
      Shelves stem (.mapping entries)
        (Text.strip name, .mapping (Value.eraseEntry (.text storageMark) entries))

/-- A value can be stored exactly if it gives no name or one that is not blank. -/
theorem splitStorageKey_ok_iff {value : Value} {stem : String} {entry : String × Value} :
    splitStorageKey value stem = .ok entry ↔ Shelves stem value entry := by
  constructor
  · intro stored
    unfold splitStorageKey at stored
    split at stored
    · rename_i entries
      split at stored
      · rename_i unmarked
        cases stored
        exact .whole fun others same => by cases same; exact unmarked
      · rename_i mark marked
        split at stored
        · rename_i name text
          split at stored
          · cases stored
          · rename_i filled
            cases stored
            exact .named marked text (by simpa using filled)
        · cases stored
    · rename_i plain
      cases stored
      exact .whole fun entries same => (plain entries same).elim
  · intro shelves
    cases shelves with
    | whole unmarked =>
      unfold splitStorageKey
      split
      · rw [unmarked _ rfl]
      · rfl
    | named marked text filled =>
      unfold splitStorageKey
      dsimp only
      rw [marked]
      dsimp only
      rw [text]
      dsimp only
      rw [if_neg (by simp [filled])]

namespace Session

variable {notice : FileNotice} {session after middle : Session} {loadings : List Loading}
  {attempts done : List Attempt}

/-- The values of data files that are stored. -/
def stored (session : Session) : Table Value := session.renderer.data.data

/-- The file at a path is loaded: the reader of its extension gives a value, which is stored. -/
inductive Loads (session : Session) (path : Path) : Loading → Prop where
  | intro {reader : DataReader} {value : Value} {entry : String × Value}
      (resolved : session.renderer.data.extensions.resolve (DataFile.mk path).extension
        (some path.text) = .ok reader)
      (reads : reader.read session.files ⟨path⟩ session.renderer.data.load = .ok value)
      (shelves : Shelves path.stem value entry) :
      Loads session path ⟨⟨path⟩, entry.1, entry.2⟩

/-- A file that was read is loaded if its value can be stored. -/
theorem read_ok_iff {file : DataFile} {result : Except Fault Value} {loading : Loading} :
    (Attempt.read file result).loading = .ok loading ↔
      ∃ value entry, result = .ok value ∧ splitStorageKey value file.name = .ok entry ∧
        loading = ⟨file, entry.1, entry.2⟩ := by
  cases result with
  | error fault =>
    constructor
    · intro loads
      cases loads
    · rintro ⟨_, _, reads, _⟩
      cases reads
  | ok value =>
    show (splitStorageKey value file.name).map _ = _ ↔ _
    constructor
    · intro loads
      cases stored : splitStorageKey value file.name with
      | error fault =>
        rw [stored] at loads
        cases loads
      | ok entry =>
        rw [stored] at loads
        cases loads
        exact ⟨value, entry, rfl, stored, rfl⟩
    · rintro ⟨_, entry, reads, stored, rfl⟩
      cases reads
      rw [stored]
      rfl

/-- The attempt at a path comes to what is loaded there. -/
theorem atFile_ok_iff {path : Path} {loading : Loading} :
    (Attempt.atFile session.scene path).loading = .ok loading ↔ session.Loads path loading := by
  rw [Attempt.atFile, scene_files, scene_extensions, scene_load]
  constructor
  · intro loads
    split at loads
    · cases loads
    · rename_i reader resolved
      obtain ⟨value, entry, reads, stored, same⟩ := read_ok_iff.mp loads
      rw [same]
      exact .intro resolved reads (splitStorageKey_ok_iff.mp stored)
  · intro loads
    cases loads with
    | @intro reader value entry resolved reads shelves =>
      rw [resolved]
      exact read_ok_iff.mpr ⟨value, entry, reads, splitStorageKey_ok_iff.mpr shelves, rfl⟩

/-- What is done about files succeeds, and leaves alone what there is to load and what is stored. -/
structure Passive (notice : FileNotice) : Prop where
  succeeds : ∀ file key content session, (notice file key content session).1 = .ok ()
  supply : ∀ file key content session,
    SameSupply session (notice file key content session).2
  stored : ∀ file key content session,
    (notice file key content session).2.stored = session.stored

/-- Attempts that succeed one after the other: what is loaded is stored, and then it is told of. -/
inductive Serves (notice : FileNotice) :
    List Attempt → List Loading → Session → Session → Prop where
  | done {session : Session} : Serves notice [] [] session session
  | next {attempt : Attempt} {loading : Loading} {attempts : List Attempt}
      {loadings : List Loading} {session told after : Session}
      (loads : attempt.loading = .ok loading)
      (tells : notice loading.file loading.key loading.content
        ((session.recorded attempt.reads).stocked [loading]) = (.ok (), told))
      (others : Serves notice attempts loadings told after) :
      Serves notice (attempt :: attempts) (loading :: loadings) session after

/-- How attempts end of which the first were done: with the keys of what was loaded, if these are
all, else with the fault of the next attempt, which has nothing but its reading remembered. -/
inductive Ends (attempts done : List Attempt) (loadings : List Loading) (middle : Session) :
    Except Fault (List String) × Session → Prop where
  | all (every : attempts = done) :
      Ends attempts done loadings middle (.ok (loadings.map Loading.key), middle)
  | stopped {attempt : Attempt} {rest : List Attempt} {fault : Fault}
      (split : attempts = done ++ attempt :: rest) (fails : attempt.loading = .error fault) :
      Ends attempts done loadings middle (.error fault, middle.recorded attempt.reads)

/-- What one table has after another under each key: the whole value of the last file that was
stored under it, or else what was there before. -/
structure LastWins (loadings : List Loading) (before after : Table Value) : Prop where
  last : ∀ earlier loading later, loadings = earlier ++ loading :: later →
    (∀ other ∈ later, other.key ≠ loading.key) → after.get? loading.key = some loading.content
  kept : ∀ key, (∀ loading ∈ loadings, loading.key ≠ key) → after.get? key = before.get? key

/-- Of values that are stored one after the other the last wins. -/
theorem insertAll_lastWins (loadings : List Loading) (before : Table Value) :
    LastWins loadings before (before.insertAll (loadings.map Loading.entry)) where
  last := by
    intro earlier loading later split others
    have apart : ∀ entry ∈ later.map Loading.entry, entry.1 ≠ loading.entry.1 := by
      simpa [Loading.entry] using others
    rw [split, List.map_append, List.map_cons]
    exact Table.get?_insertAll_last (earlier.map Loading.entry) apart
  kept := by
    intro key others
    have apart : ∀ entry ∈ loadings.map Loading.entry, entry.1 ≠ key := by
      simpa [Loading.entry] using others
    exact Table.get?_insertAll_other apart

/-- A passive notice leaves an attempt with what is stored of it. -/
theorem attend_step (passive : Passive notice) (attempt : Attempt) (session : Session) :
    attend notice attempt session = match attempt.loading with
      | .ok loading => (.ok loading.key, (notice loading.file loading.key loading.content
          ((session.recorded attempt.reads).stocked [loading])).2)
      | .error fault => (.error fault, session.recorded attempt.reads) := by
  rw [attend, bind_step, modify_step]
  dsimp only
  rw [bind_step, liftExcept_step]
  cases attempt.loading with
  | error fault => rfl
  | ok loading =>
    have succeeds := passive.succeeds loading.file loading.key loading.content
      ((session.recorded attempt.reads).stocked [loading])
    show (store loading.key loading.content >>= fun _ => _) (session.recorded attempt.reads) = _
    rw [bind_step, store, update, modify_step]
    show (notice loading.file loading.key loading.content >>= fun _ => pure loading.key)
      ((session.recorded attempt.reads).stocked [loading]) = _
    rw [bind_step]
    cases told : notice loading.file loading.key loading.content
        ((session.recorded attempt.reads).stocked [loading]) with
    | mk result after =>
      rw [told] at succeeds
      cases succeeds
      dsimp only
      rw [told]
      rfl

/-- A passive notice leaves what there is to load. -/
theorem Passive.steady (passive : Passive notice) : Steady (fun _ => True) notice := by
  intro attempt session _
  rw [attend_step passive]
  cases attempt.loading with
  | error fault => exact ⟨trivial, rfl, rfl, rfl⟩
  | ok loading =>
    have same := passive.supply loading.file loading.key loading.content
      ((session.recorded attempt.reads).stocked [loading])
    exact ⟨trivial, same.files, same.extensions, same.load⟩

/-- Attempts succeed up to the first that fails. -/
theorem mapM_attend_serves (passive : Passive notice) (attempts : List Attempt)
    (session : Session) :
    ∃ done loadings middle, Serves notice done loadings session middle ∧
      Ends attempts done loadings middle (attempts.mapM (attend notice) session) := by
  induction attempts generalizing session with
  | nil => exact ⟨[], [], session, .done, .all rfl⟩
  | cons attempt rest ih =>
    have step := attend_step passive attempt session
    rw [List.mapM_cons, bind_step, step]
    cases loads : attempt.loading with
    | error fault =>
      exact ⟨[], [], session, .done, .stopped (List.nil_append _).symm loads⟩
    | ok loading =>
      have succeeds := passive.succeeds loading.file loading.key loading.content
        ((session.recorded attempt.reads).stocked [loading])
      have told : notice loading.file loading.key loading.content
          ((session.recorded attempt.reads).stocked [loading]) = (.ok (), _) :=
        Prod.ext succeeds rfl
      dsimp only
      have ⟨done, loadings, middle, serves, ends⟩ := ih (notice loading.file loading.key
        loading.content ((session.recorded attempt.reads).stocked [loading])).2
      refine ⟨attempt :: done, loading :: loadings, middle, .next loads told serves, ?_⟩
      rw [bind_step]
      generalize rest.mapM (attend notice) _ = ran at ends
      cases ends with
      | all every => exact .all (congrArg (attempt :: ·) every)
      | stopped split fails => exact .stopped (congrArg (attempt :: ·) split) fails

/-- What is stored after attempts that succeed. -/
theorem Serves.stored (passive : Passive notice)
    (serves : Serves notice done loadings session middle) :
    middle.stored = session.stored.insertAll (loadings.map Loading.entry) := by
  induction serves with
  | done => rfl
  | @next attempt loading _ loadings session told _ loads tells _ ih =>
    have same := passive.stored loading.file loading.key loading.content
      ((session.recorded attempt.reads).stocked [loading])
    rw [tells] at same
    rw [ih, same]
    rfl

/-- What is loaded by attempts that succeed and others behind them. -/
theorem Serves.loaded (serves : Serves notice done loadings session middle)
    (rest : List Attempt) : Attempt.loaded (done ++ rest) = loadings ++ Attempt.loaded rest := by
  induction serves with
  | done => rfl
  | next loads _ _ ih => rw [List.cons_append, Attempt.loaded, loads, ih]; rfl

/-- What attempts that succeed come to. -/
theorem Serves.mapM (serves : Serves notice done loadings session middle) :
    done.mapM Attempt.loading = .ok loadings := by
  induction serves with
  | done => rfl
  | next loads _ _ ih => rw [List.mapM_cons, loads, ih]; rfl

variable {ran : Except Fault (List String) × Session}

/-- The store at the end is that behind the attempts that succeeded. -/
theorem Ends.stored (ends : Ends attempts done loadings middle ran) :
    ran.2.stored = middle.stored := by
  cases ends with
  | all => rfl
  | stopped => rfl

/-- Which files are loaded and what comes of it is settled by what there is to read. -/
theorem Ends.settled (serves : Serves notice done loadings session middle)
    (ends : Ends attempts done loadings middle ran) :
    loadings = Attempt.loaded attempts ∧
      ran.1 = (attempts.mapM Attempt.loading).map (·.map Loading.key) := by
  cases ends with
  | all every =>
    have all := serves.loaded []
    rw [List.append_nil, Attempt.loaded, List.append_nil] at all
    rw [every, all, serves.mapM]
    exact ⟨rfl, rfl⟩
  | @stopped attempt rest fault split fails =>
    have front := serves.loaded (attempt :: rest)
    rw [Attempt.loaded, fails, List.append_nil] at front
    rw [split, front, List.mapM_append, serves.mapM, List.mapM_cons, fails]
    exact ⟨rfl, rfl⟩

/-- In which order a tree of files holds them makes no difference to the attempts. -/
theorem attempts_of_sameContent {tree : FileTree} (same : session.files.SameContent tree)
    (paths : List Value) :
    ({ session with files := tree } : Session).attempts paths = session.attempts paths := by
  have atFile : Attempt.atFile ({ session with files := tree } : Session).scene =
      Attempt.atFile session.scene := by
    funext path
    unfold Attempt.atFile
    dsimp only [scene]
    simp only [same.read]
  have atPath : Attempt.atPath ({ session with files := tree } : Session).scene =
      Attempt.atPath session.scene := by
    funext value
    unfold Attempt.atPath
    rw [atFile]
    dsimp only [scene]
    simp only [same.isFile, same.isDirectory, same.filesBelow]
    rfl
  rw [attempts, atPath, attempts]

/-- Loading paths goes through what lies at them in order, through the files below a directory in
ascending order of their parts, and in the same way however the tree of files holds them. It stops
at the first that fails. Each file that is loaded is told of once, behind the storing of its value,
and the last that was stored under a key is what is there, whole. -/
theorem loadPaths_last_wins (passive : Passive notice) (session : Session) (paths : List Value) :
    ∃ done loadings middle,
      Serves notice done loadings session middle ∧
      Ends (session.attempts paths) done loadings middle (loadPaths notice paths session) ∧
      LastWins loadings session.stored (loadPaths notice paths session).2.stored ∧
      (∀ path loading, (Attempt.atFile session.scene path).loading = .ok loading ↔
        session.Loads path loading) ∧
      (∀ path place, session.files.find path = .ok (place, .directory) →
        (session.files.filesBelow path).Pairwise (fun file later => file.parts ≤ later.parts) ∧
        ∀ file, file ∈ session.files.filesBelow path ↔
          ∃ rest content, (place ++ rest, content) ∈ session.files.files ∧
            file = path.append rest) ∧
      ∀ tree, session.files.SameContent tree →
        (loadPaths notice paths { session with files := tree }).1 =
          (loadPaths notice paths session).1 ∧
        (loadPaths notice paths { session with files := tree }).2.stored =
          (loadPaths notice paths session).2.stored := by
  have run (session : Session) : loadPaths notice paths session =
      (session.attempts paths).mapM (attend notice) session :=
    loadPaths_attend passive.steady paths trivial
  have ⟨done, loadings, middle, serves, ends⟩ :=
    mapM_attend_serves passive (session.attempts paths) session
  rw [← run] at ends
  have stored := ends.stored.trans (serves.stored passive)
  refine ⟨done, loadings, middle, serves, ends, ?_, fun _ _ => atFile_ok_iff,
    fun _ _ => FileTree.filesBelow_spec, fun tree same => ?_⟩
  · rw [stored]
    exact insertAll_lastWins loadings session.stored
  · -- Both runs are settled by their attempts, and these are the same for both trees.
    have ⟨_, others, _, servesToo, endsToo⟩ := mapM_attend_serves passive
      (session.attempts paths) { session with files := tree }
    rw [← attempts_of_sameContent same paths, ← run] at endsToo
    have ⟨loaded, result⟩ := ends.settled serves
    have ⟨loadedToo, resultToo⟩ := endsToo.settled servesToo
    rw [attempts_of_sameContent same paths] at loadedToo resultToo
    constructor
    · rw [resultToo, result]
    · rw [endsToo.stored, servesToo.stored passive, stored, loadedToo, loaded]
      rfl

/-- Files with a reader that gives their sizes. -/
def sized (files : List (List String × List UInt8)) : Session where
  files := { files }
  renderer := { data := { extensions := ⟨.ofList [("txt", .size)]⟩ } }

/-- The second of two files of one stem wins, in whichever order the tree of files holds them. -/
theorem loadPaths_last_wins_namesakes :
    (loadPaths (fun _ _ _ => pure ()) [.text "a/x.txt", .text "b/x.txt"]
      (sized [(["b", "x.txt"], [50, 51]), (["a", "x.txt"], [49])])).1 = .ok ["x", "x"] ∧
    (loadPaths (fun _ _ _ => pure ()) [.text "a/x.txt", .text "b/x.txt"]
      (sized [(["b", "x.txt"], [50, 51]), (["a", "x.txt"], [49])])).2.stored.get? "x" =
        some (.int 2) := by
  have passive : Passive fun _ _ _ => pure () :=
    ⟨fun _ _ _ _ => rfl, fun _ _ _ session => .refl session, fun _ _ _ _ => rfl⟩
  have ⟨_, _, _, _, _, _, _, _, unordered⟩ := loadPaths_last_wins passive
    (sized [(["a", "x.txt"], [49]), (["b", "x.txt"], [50, 51])])
    [.text "a/x.txt", .text "b/x.txt"]
  have ⟨result, stored⟩ := unordered
    { files := [(["b", "x.txt"], [50, 51]), (["a", "x.txt"], [49])] }
    ⟨by decide, .swap _ _ _, .refl _, rfl⟩
  exact ⟨result.trans rfl, (congrArg (·.get? "x") stored).trans rfl⟩

/-- A notice that never fails may store a value of its own under the key that it is told of. This
is what is there then, and not the value of the file. -/
theorem notice_wins :
    let notice : FileNotice := fun _ key _ => store key .null
    let session := sized [(["x.txt"], [49])]
    (∀ file key content told, (notice file key content told).1 = .ok ()) ∧
      session.Loads (.ofText "x.txt") ⟨⟨.ofText "x.txt"⟩, "x", .int 1⟩ ∧
      (loadPaths notice [.text "x.txt"] session).1 = .ok ["x"] ∧
      (loadPaths notice [.text "x.txt"] session).2.stored.get? "x" = some .null := by
  refine ⟨fun _ _ _ _ => rfl, ?_, rfl, rfl⟩
  exact .intro rfl rfl (.whole fun _ same => by cases same)

end Session

end TemplateStream
