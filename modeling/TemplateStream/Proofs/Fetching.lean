import TemplateStream.Proofs.Pages
import TemplateStream.Proofs.Scoping
import TemplateStream.Proofs.Stocking

/-!
# Finding data under its key

A value that was read from a file is stored under one key, as it is, but a name is looked up part by
part between its dots. So a template finds what is stored under a key, as long as nothing else was
stored there and nothing is laid over the data, exactly as long as the key has no dot. The parts of
a key with dots lead into what is stored under the first of them.
-/

namespace TemplateStream

namespace Text

variable {separator : Char} {front rest : List Char}

/-- A list of characters without the separator is one part. -/
theorem splitChars_absent (absent : separator ∉ front) : splitChars separator front = [front] := by
  induction front with
  | nil => rfl
  | cons c chars ih =>
    have apart : c ≠ separator := fun same => absent (same ▸ List.mem_cons_self)
    have later := ih fun member => absent (List.mem_cons_of_mem c member)
    rw [splitChars, later]
    dsimp only
    rw [if_neg apart]

/-- What stands before the first separator is the first part. -/
theorem splitChars_append (absent : separator ∉ front) :
    splitChars separator (front ++ separator :: rest) = front :: splitChars separator rest := by
  induction front with
  | nil =>
    have ⟨part, parts, same⟩ := exists_splitChars separator rest
    rw [List.nil_append, splitChars, same]
    dsimp only
    rw [if_pos rfl]
  | cons c chars ih =>
    have apart : c ≠ separator := fun same => absent (same ▸ List.mem_cons_self)
    have later := ih fun member => absent (List.mem_cons_of_mem c member)
    rw [List.cons_append, splitChars, later]
    dsimp only
    rw [if_neg apart]

/-- A text without the separator is one part. -/
theorem split_absent {text : String} (absent : separator ∉ text.toList) :
    split separator text = [text] := by
  rw [split, splitChars_absent absent, List.map_singleton, String.ofList_toList]

end Text

open Session

/-- The entry that a reading stores. -/
def Happening.stored? : Happening → Option (String × Value)
  | .read file result => (do splitStorageKey (← result) file.name).toOption
  | _ => none

/-- The entries that what happened stores, in the order of time. -/
def entriesOf (news : List Happening) : List (String × Value) := news.filterMap Happening.stored?

namespace Session

/-- The values that are stored are those of the files that are read, and no others. -/
def Books (session after : Session) : Prop :=
  ∃ news, after.history = session.history ++ news ∧
    after.stored = session.stored.insertAll (entriesOf news)

variable {session after : Session} {notice : FileNotice}

theorem books_of_same (history : after.history = session.history)
    (stored : after.stored = session.stored) : Books session after :=
  ⟨[], history.trans (List.append_nil _).symm, stored⟩

theorem books_tolerant : Tolerant Books where
  trans := by
    rintro session middle after ⟨first, history, stored⟩ ⟨second, historyToo, storedToo⟩
    refine ⟨first ++ second, ?_, ?_⟩
    · rw [historyToo, history, List.append_assoc]
    · rw [storedToo, stored, entriesOf, entriesOf, entriesOf, List.filterMap_append,
        Table.insertAll_append]
  settled := by
    intro session after same
    have history : after.settled.history = session.settled.history := by rw [same]
    have stored : after.settled.stored = session.settled.stored := by rw [same]
    exact books_of_same history stored

/-- What a reading stores is what it is loaded as. -/
theorem stored?_read (file : DataFile) (result : Except Fault Value) :
    (Happening.read file result).stored? =
      (Attempt.read file result).loading.toOption.map Loading.entry := by
  cases result with
  | error fault => rfl
  | ok value =>
    show (splitStorageKey value file.name).toOption =
      ((splitStorageKey value file.name).map _).toOption.map Loading.entry
    cases splitStorageKey value file.name <;> rfl

/-- An attempt to load a file stores what is read. -/
theorem attend_books (books : ∀ file key content, Keeps Books (notice file key content))
    (attempt : Attempt) : Keeps Books (attend notice attempt) := by
  intro session
  rw [attend, bind_step, modify_step]
  dsimp only
  rw [bind_step, liftExcept_step]
  cases attempt with
  | lost fault => exact books_of_same (List.append_nil _) rfl
  | read file result =>
    have entry := stored?_read file result
    -- The reading is remembered before its value is stored, so it counts even if it stores nothing.
    cases loads : (Attempt.read file result).loading with
    | error fault =>
      rw [loads] at entry
      have nothing : entriesOf [.read file result] = [] := List.filterMap_cons_none entry
      refine ⟨[.read file result], rfl, ?_⟩
      rw [nothing]
      rfl
    | ok loading =>
      rw [loads] at entry
      have one : entriesOf [.read file result] = [loading.entry] := List.filterMap_cons_some entry
      have stored : Books session ((session.recorded [.read file result]).stocked [loading]) := by
        refine ⟨[.read file result], rfl, ?_⟩
        rw [one]
        rfl
      have told : Keeps Books (do
          notice loading.file loading.key loading.content
          pure loading.key) :=
        books_tolerant.bind (books _ _ _) fun _ => books_tolerant.pure _
      exact books_tolerant.trans stored (told _)

/-- Loading a file stores what is read of it. -/
theorem loadFile_books (books : ∀ file key content, Keeps Books (notice file key content))
    (path : Path) : Keeps Books (loadFile notice path) := by
  intro session
  rw [loadFile_attend]
  exact attend_books books _ session

/-- The values of a page are stored apart from those of data files. -/
theorem insertPage_data {store placed : DataStore} {name : String}
    {entries : List (Value × Value)} (inserted : store.insertPage name entries = .ok placed) :
    placed.data = store.data := by
  rw [(DataStore.insertPage_ok inserted).2]

/-- So are those of a page that is split from its source. -/
theorem addPage_data {store after : DataStore} {source name body : String}
    {entries : List (Value × Value)}
    (added : store.addPage source name = .ok (after, entries, body)) : after.data = store.data :=
  insertPage_data (DataStore.addPage_ok added).2

/-- Registering a template stores no value of a data file. -/
theorem addTemplate_books (name : String) (body : Body) (source : Option String) :
    Keeps Books (addTemplate name body source) := by
  have tolerant := books_tolerant
  refine tolerant.bind tolerant.get fun _ => tolerant.bind (tolerant.lift _) fun templates =>
    tolerant.bind (fun _ => books_of_same rfl rfl) fun _ => ?_
  cases source with
  | none => exact tolerant.pure _
  | some source =>
    intro session
    dsimp only
    rw [bind_step, get_step]
    dsimp only
    rw [bind_step, liftExcept_step]
    cases added : session.renderer.data.addPage source name with
    | error fault => exact books_of_same rfl rfl
    | ok page => exact books_of_same rfl (addPage_data added)

end Session

/-- What can be asked about data. -/
inductive DataRequest where
  | file (path : Path)
  | paths (values : List Value)
  | reader (extension : String) (reader : DataReader)
  | template (name : String) (body : Body) (source : Option String)

namespace Session

/-- Does what is asked about data. -/
def provide (notice : FileNotice) : DataRequest → SessionM Unit
  | .file path => discard (loadFile notice path)
  | .paths values => discard (loadPaths notice values)
  | .reader extension reader => addReader extension reader
  | .template name body source => addTemplate name body source

/-- Does all that is asked about data, whether or not some of it fails. -/
def provideAll (notice : FileNotice) : List DataRequest → SessionM Unit
  | [] => pure ()
  | request :: rest => do
    discard (attempt (provide notice request))
    provideAll notice rest

variable {session after : Session} {notice : FileNotice}

theorem provide_books (books : ∀ file key content, Keeps Books (notice file key content))
    (request : DataRequest) : Keeps Books (provide notice request) := by
  have tolerant := books_tolerant
  cases request with
  | file path => exact (loadFile_books books path).discard
  | paths values => exact (tolerant.loadPaths (loadFile_books books) values).discard
  | reader extension reader =>
    exact tolerant.bind tolerant.get fun _ => tolerant.bind (tolerant.lift _) fun _ =>
      fun _ => books_of_same rfl rfl
  | template name body source => exact addTemplate_books name body source

theorem provideAll_books (books : ∀ file key content, Keeps Books (notice file key content))
    (requests : List DataRequest) : Keeps Books (provideAll notice requests) := by
  induction requests with
  | nil => exact books_tolerant.pure _
  | cons request rest ih =>
    exact books_tolerant.bind (provide_books books request).attempt.discard fun _ => ih

end Session

/-! ## Looking up what is stored -/

/-- The mapping of a table has what the table has. -/
theorem Value.lookup_ofTable (entries : List (String × Value)) (key : String) :
    Value.lookup (.text key) (entries.map fun (name, value) => (.text name, value)) =
      entries.lookup key := by
  induction entries with
  | nil => rfl
  | cons entry rest ih =>
    rw [List.map_cons, Value.lookup_cons, ih, List.lookup_cons]
    by_cases same : key = entry.1
    · rw [same, if_pos (Value.same_self entry.1), beq_self_eq_true]
    · have apart : ¬(Value.text entry.1).same (.text key) = true := by
        rw [Value.same_text]
        simpa [Value.text?] using fun equal : entry.1 = key => same equal.symm
      rw [if_neg apart, beq_eq_false_iff_ne.mpr same]

/-- The global values of a template have the values of data files under the name of their space. -/
theorem DataStore.lookup_data (store : DataStore) (name : String) :
    Value.lookup (.text dataSpace) (store.contextFor name) = some (.ofTable store.data) := by
  have laid : store.contextFor name = Value.insertEntry (.text pageSpace) (.mapping store.pages)
      (Value.insertEntry (.text dataSpace) (.ofTable store.data) (store.pageData name)) := rfl
  rw [laid, Value.lookup_insertEntry_other _ _ (by decide), Value.lookup_insertEntry_self]

namespace Context

variable {context : Context} {store : DataStore} {template : String}

/-- Without anything laid over the data, a name in their space leads to what is stored under its
first part, and with the other parts into that. -/
theorem get_data (globals : context.globals = store.contextFor template)
    (bare : ∀ frame ∈ context.frames, frame.field? dataSpace = none) (key : String)
    (default : Value) {first : String} {rest : List String}
    (parts : Text.split '.' key = first :: rest) :
    context.get (dataSpace ++ "." ++ key) default =
      (descend (store.data.get? first) rest context.attributes).map (·.getD default) := by
  have segments : Text.split '.' (dataSpace ++ "." ++ key) = dataSpace :: first :: rest := by
    have space : '.' ∉ dataSpace.toList := by decide
    rw [← parts, Text.split, Text.split, String.toList_append, String.toList_append]
    show ((Text.splitChars '.' ((dataSpace.toList ++ ['.']) ++ key.toList)).map _) = _
    rw [List.append_assoc, List.singleton_append, Text.splitChars_append space, List.map_cons,
      String.ofList_toList]
  have named : ¬(dataSpace ++ "." ++ key == ".") = true := by
    rw [beq_iff_eq]
    intro same
    have lengths := congrArg String.length same
    rw [String.length_append, String.length_append] at lengths
    have space : dataSpace.length = 4 := by decide
    have dot : ".".length = 1 := by decide
    omega
  have found : context.start dataSpace = some (.ofTable store.data) := by
    have above : context.frames.findSome? (fun frame => frame.field? dataSpace) = none :=
      List.findSome?_eq_none_iff.mpr bare
    rw [start, above, globals, store.lookup_data]
  have inside : inside (.ofTable store.data) first context.attributes =
      .ok (store.data.get? first) :=
    congrArg Except.ok (Value.lookup_ofTable store.data.entries first)
  rw [get, if_neg named, segments]
  dsimp only
  rw [found]
  show ((do
    let found ← Context.inside (.ofTable store.data) first context.attributes
    descend found rest context.attributes).map _) = _
  rw [inside]
  rfl

end Context

namespace Session

variable {session after : Session} {notice : FileNotice}

/-- After whatever was asked about data, a value that was read from a file is found under its key
in the space of data files, in the context of any template over which nothing of that name is laid,
as long as no later file was stored under the key: always if the key has no dot. A key with dots is
never looked for as a whole, but followed part by part from what is stored under the first. -/
theorem loaded_found_unless_dotted
    (books : ∀ file key content, Keeps Books (notice file key content))
    (requests : List DataRequest) (session : Session) :
    ∃ news, (provideAll notice requests session).2.history = session.history ++ news ∧
      ∀ earlier reading later key content, news = earlier ++ reading :: later →
        Happening.stored? reading = some (key, content) →
        (∀ other ∈ entriesOf later, other.1 ≠ key) →
        ∀ (template : String) (context : Context),
          context.globals =
            (provideAll notice requests session).2.renderer.data.contextFor template →
          (∀ frame ∈ context.frames, frame.field? dataSpace = none) → ∀ default,
            ('.' ∉ key.toList →
              context.get (dataSpace ++ "." ++ key) default = .ok content) ∧
            ∀ first rest, Text.split '.' key = first :: rest →
              context.get (dataSpace ++ "." ++ key) default =
                (Context.descend ((provideAll notice requests session).2.stored.get? first)
                  rest context.attributes).map (·.getD default) := by
  have ⟨news, history, stored⟩ := provideAll_books books requests session
  refine ⟨news, history, fun earlier reading later key content split entry others template context
    globals bare default => ⟨fun undotted => ?_, fun first rest parts => ?_⟩⟩
  · have held : (provideAll notice requests session).2.stored.get? key = some content := by
      have split : entriesOf news = entriesOf earlier ++ (key, content) :: entriesOf later := by
        rw [split, entriesOf, List.filterMap_append, List.filterMap_cons_some entry]
        rfl
      rw [stored, split]
      exact Table.get?_insertAll_last (entriesOf earlier) others
    have whole : Text.split '.' key = [key] := Text.split_absent undotted
    rw [Context.get_data globals bare key default whole]
    show ((Context.descend ((provideAll notice requests session).2.stored.get? key) []
      context.attributes).map _) = _
    rw [held]
    rfl
  · exact Context.get_data globals bare key default parts

/-- The session after the file at a path was loaded. -/
def sizedAfter (path : String) (content : List UInt8) : Session :=
  (provideAll (fun _ _ _ => pure ()) [.file (.ofText path)]
    (sized [((Path.ofText path).parts, content)])).2

/-- The size of one file is found under its stem, and that of a file with a dot in its stem not. -/
theorem loaded_found_unless_dotted_sized :
    ({ globals := (sizedAfter "a/x.txt" [49]).renderer.data.contextFor "page" } : Context).get
      "data.x" = .ok (.int 1) ∧
    ({ globals := (sizedAfter "a/x.y.txt" [49]).renderer.data.contextFor "page" } : Context).get
      "data.x.y" = .ok .null := by
  have books : ∀ file key content,
      Keeps Books ((fun _ _ _ => pure () : FileNotice) file key content) :=
    fun _ _ _ => books_tolerant.pure ()
  have ⟨plain, history, found⟩ := loaded_found_unless_dotted books [.file (.ofText "a/x.txt")]
    (sized [((Path.ofText "a/x.txt").parts, [49])])
  have ⟨dotted, historyToo, sought⟩ := loaded_found_unless_dotted books
    [.file (.ofText "a/x.y.txt")] (sized [((Path.ofText "a/x.y.txt").parts, [49])])
  have first : [.read ⟨.ofText "a/x.txt"⟩ (.ok (.int 1))] = plain := history
  have second : [.read ⟨.ofText "a/x.y.txt"⟩ (.ok (.int 1))] = dotted := historyToo
  have whole := (found [] _ [] "x" (.int 1) first.symm rfl nofun "page"
    { globals := (sizedAfter "a/x.txt" [49]).renderer.data.contextFor "page" } rfl nofun .null).1
    (by decide)
  have parts := (sought [] _ [] "x.y" (.int 1) second.symm rfl nofun "page"
    { globals := (sizedAfter "a/x.y.txt" [49]).renderer.data.contextFor "page" } rfl nofun .null).2
    "x" ["y"] rfl
  exact ⟨whole, parts.trans rfl⟩

end Session

end TemplateStream
