import TemplateStream.CommandLine
import TemplateStream.Proofs.Applying
import TemplateStream.Proofs.Registering
import TemplateStream.Proofs.Retrieving

/-!
# Lists of the command line

The values of a switch that may be given several times become one setting, with commas between them,
and the setting is cut at its commas again. So what the options hold are the parts of the values:
each value is divided at its own commas, its parts lose the blanks around them, and those of which
nothing is left are dropped. The values come through as they are exactly when none of them has a
comma or blanks around it or is empty.
-/

namespace TemplateStream

open Text

/-! ## Cutting what was joined -/

namespace Text

/-- What stands on both sides of a separator is cut by itself. -/
theorem splitChars_joined (separator : Char) (front rest : List Char) :
    splitChars separator (front ++ separator :: rest) =
      splitChars separator front ++ splitChars separator rest := by
  induction front with
  | nil => exact splitChars_append (List.not_mem_nil)
  | cons c chars ih =>
    -- The first part of what is cut before the separator is the one that the character is put to.
    obtain ⟨part, parts, same⟩ := exists_splitChars separator chars
    rw [List.cons_append, splitChars, ih, same, splitChars, same]
    dsimp only [List.cons_append]
    split <;> rfl

/-- Texts with commas between them are cut into the parts of each. -/
theorem split_intercalate {values : List String} (filled : values ≠ []) :
    split ',' (",".intercalate values) = values.flatMap (split ',') := by
  induction values with
  | nil => exact absurd rfl filled
  | cons value rest ih =>
    cases rest with
    | nil => rw [String.intercalate_singleton, List.flatMap_singleton]
    | cons next rest =>
      have joined : (",".intercalate (value :: next :: rest)).toList =
          value.toList ++ ',' :: (",".intercalate (next :: rest)).toList := by
        rw [String.intercalate_cons_cons, String.toList_append, String.toList_append,
          List.append_assoc]
        rfl
      rw [split, joined, splitChars_joined, List.map_append, List.flatMap_cons,
        ← ih (List.cons_ne_nil next rest)]
      rfl

end Text

namespace Options

/-- A text that is its own only part. -/
structure Plain (value : String) : Prop where
  filled : value ≠ ""
  undivided : ',' ∉ value.toList
  trimmed : strip value = value

variable {value part text : String} {values : List String}

/-- The parts of a text are plain. -/
theorem plain_of_mem_splitList (member : part ∈ splitList text) : Plain part := by
  obtain ⟨inside, filled⟩ := List.mem_filter.mp member
  obtain ⟨piece, cut, rfl⟩ := List.mem_map.mp inside
  obtain ⟨chars, among, rfl⟩ := List.mem_map.mp cut
  refine { filled := by simpa using filled, undivided := fun comma => ?_, trimmed := strip_strip _ }
  have outside := (splitChars_parts ',' text.toList).1 chars among
  have source := mem_strip comma
  rw [String.toList_ofList] at source
  exact outside source

/-- A plain text is one part. -/
theorem Plain.splitList (plain : Plain value) : splitList value = [value] := by
  rw [Options.splitList, split_absent plain.undivided, List.map_singleton, plain.trimmed]
  simpa using plain.filled

/-- The parts of texts with commas between them are the parts of each. -/
theorem splitList_intercalate (values : List String) :
    splitList (",".intercalate values) = values.flatMap splitList := by
  by_cases empty : values = []
  · subst empty
    rfl
  · rw [splitList, split_intercalate empty, List.map_flatMap, List.filter_flatMap]
    rfl

/-- Texts come through as they are exactly when each is plain. -/
theorem flatMap_splitList_eq_iff : values.flatMap splitList = values ↔
    ∀ value ∈ values, Plain value := by
  constructor
  · intro same value member
    rw [← same] at member
    obtain ⟨source, _, inside⟩ := List.mem_flatMap.mp member
    exact plain_of_mem_splitList inside
  · intro plain
    rw [List.flatMap_congr fun value member => (plain value member).splitList]
    exact List.flatMap_singleton' values

end Options

/-! ## Settings that are lists -/

/-- A setting that is a list, and that a switch of the command line adds to. -/
inductive ListSetting where
  | dataPaths
  | helperModules
  | pluginModules
  deriving DecidableEq

namespace ListSetting

/-- The setting. -/
def name : ListSetting → SettingName
  | .dataPaths => .dataPaths
  | .helperModules => .helperModules
  | .pluginModules => .pluginModules

/-- The switch whose values are listed. -/
def switch : ListSetting → CommandLine.ListSwitch
  | .dataPaths => .data
  | .helperModules => .helpers
  | .pluginModules => .plugins

/-- The list that options hold. -/
def list (setting : ListSetting) (options : Options) : List Value :=
  match setting with
  | .dataPaths => options.dataPaths
  | .helperModules => options.helperModules
  | .pluginModules => options.pluginModules

/-- Options that hold another list. -/
def put (setting : ListSetting) (items : List Value) (options : Options) : Options :=
  match setting with
  | .dataPaths => { options with dataPaths := items }
  | .helperModules => { options with helperModules := items }
  | .pluginModules => { options with pluginModules := items }

variable {setting other : ListSetting} {items : List Value} {options : Options}

@[simp]
theorem list_put : setting.list (setting.put items options) = items := by
  cases setting <;> rfl

/-- Holding another list changes no list of another setting. -/
theorem list_put_other (apart : setting ≠ other) :
    setting.list (other.put items options) = setting.list options := by
  cases setting <;> cases other <;> first | rfl | exact absurd rfl apart

/-- Holding the list that is held changes nothing. -/
theorem put_list : setting.put (setting.list options) options = options := by
  cases setting <;> rfl

/-- Settings are told apart by their words. -/
theorem label_injective (same : setting.name.label = other.name.label) : setting = other := by
  revert same
  cases setting <;> cases other <;> decide

end ListSetting

namespace Options

variable {setting : ListSetting} {draft after : Draft} {name : SettingName} {raw : Value}
  {entries : List (Value × Value)} {options : Options}

/-- A text that is given for a list is cut into the items. -/
theorem Draft.set_list (draft : Draft) (setting : ListSetting) (text : String) :
    draft.set setting.name (.text text) =
      .ok { draft with options := setting.put ((splitList text).map .text) draft.options } := by
  cases setting <;> rfl

/-- The check of the policies keeps the lists. -/
theorem Draft.check_put (draft : Draft) (setting : ListSetting) (items : List Value) :
    Draft.check { draft with options := setting.put items draft.options } =
      (Draft.check draft).map (setting.put items) := by
  unfold Draft.check
  dsimp only
  cases helperPolicyOf (.text draft.helperPolicy) with
  | error fault => rfl
  | ok helperPolicy =>
    cases pluginPolicyOf (.text draft.pluginPolicy) with
    | error fault => rfl
    | ok pluginPolicy => cases setting <;> rfl

/-- The check of the policies keeps the lists that are held. -/
theorem Draft.check_list (checked : draft.check = .ok options) :
    setting.list options = setting.list draft.options := by
  have same := draft.check_put setting (setting.list draft.options)
  rw [setting.put_list, checked] at same
  have held := Except.ok.inj same
  rw [held, setting.list_put]

/-- A setting changes no list of another setting. -/
theorem Draft.set_other (apart : name ≠ setting.name) (ran : draft.set name raw = .ok after) :
    setting.list after.options = setting.list draft.options := by
  cases name with
  | helperPolicy | pluginPolicy | placeholder =>
    cases ran
    cases setting <;> rfl
  | escapes =>
    obtain ⟨truth, _, made⟩ := sequenced_ok_iff.mp ran
    cases made
    cases setting <;> rfl
  | dataPaths | helperModules | pluginModules =>
    obtain ⟨items, _, made⟩ := sequenced_ok_iff.mp ran
    cases made
    cases setting <;> first | rfl | exact absurd rfl apart

/-- A key names the setting of its word. -/
theorem label_of_settingOf {key : String} (found : settingOf (.text key) = .ok name) :
    name.label = key := by
  have named : SettingName.ofLabel? key = some name := by
    unfold settingOf at found
    split at found
    · rename_i same
      cases found
      exact same
    · cases found
  simpa using List.find?_some named

/-- A draft with an entry taken over. -/
def Draft.take (draft : Draft) (entry : Value × Value) : Except Fault Draft := do
  draft.set (← settingOf entry.1) entry.2

/-- Settings are taken over in order, and then the policies are checked. -/
theorem ofEntries_eq (entries : List (Value × Value)) :
    ofEntries entries = entries.foldlM Draft.take {} >>= Draft.check := rfl

/-- Entries of other settings change no list. -/
theorem Draft.foldlM_take_other
    (others : ∀ entry ∈ entries, settingOf entry.1 ≠ .ok setting.name)
    (ran : entries.foldlM Draft.take draft = .ok after) :
    setting.list after.options = setting.list draft.options := by
  induction entries generalizing draft with
  | nil =>
    cases ran
    rfl
  | cons entry rest ih =>
    obtain ⟨first, rest⟩ := List.forall_mem_cons.mp others
    rw [List.foldlM_cons, sequenced_ok_iff] at ran
    obtain ⟨middle, step, ran⟩ := ran
    obtain ⟨name, named, changed⟩ := sequenced_ok_iff.mp step
    have apart : name ≠ setting.name := fun same => first (same ▸ named)
    rw [ih rest ran, Draft.set_other apart changed]

/-- A list that is not among the settings is empty. -/
theorem list_of_unlisted (unlisted : ∀ entry ∈ entries, settingOf entry.1 ≠ .ok setting.name)
    (made : ofEntries entries = .ok options) : setting.list options = [] := by
  rw [ofEntries_eq, sequenced_ok_iff] at made
  obtain ⟨last, ran, checked⟩ := made
  rw [Draft.check_list checked, Draft.foldlM_take_other unlisted ran]
  cases setting <;> rfl

/-- A list that is given behind other settings is held, and all else is as they say. -/
theorem ofEntries_concat (entries : List (Value × Value)) (setting : ListSetting) (text : String) :
    ofEntries (entries ++ [(.text setting.name.label, .text text)]) =
      (ofEntries entries).map (setting.put ((splitList text).map .text)) := by
  have taken (draft : Draft) : draft.take (.text setting.name.label, .text text) =
      .ok { draft with options := setting.put ((splitList text).map .text) draft.options } := by
    rw [← draft.set_list setting text]
    cases setting <;> rfl
  rw [ofEntries_eq, ofEntries_eq, List.foldlM_append]
  cases entries.foldlM Draft.take ({} : Draft) with
  | error fault => rfl
  | ok draft =>
    show ((draft.take (.text setting.name.label, .text text) >>= pure) >>= Draft.check) = _
    rw [taken]
    exact draft.check_put setting _

end Options

namespace CommandLine

open Terminal

variable {setting other : ListSetting} {values : List String} {settings : Table Value}

/-- The options that a table of settings stands for. -/
def optionsOf (settings : Table Value) : Except Fault Options :=
  Options.ofSettings (.ofTable settings)

/-- Options with the values of a switch, unless there is something else in their place. -/
def taken (setting : ListSetting) (values : List String) (settings : Table Value)
    (options : Options) : Options :=
  if settings.contains setting.name.label then options
  else setting.put ((values.flatMap Options.splitList).map .text) options

/-- Settings are read in the order of the table. -/
theorem optionsOf_eq (settings : Table Value) : optionsOf settings =
    Options.ofEntries (settings.entries.map fun entry => (.text entry.1, entry.2)) := rfl

/-- The list of a setting after the values of a switch were taken for it. -/
theorem list_taken (setting : ListSetting) (values : List String) (settings : Table Value)
    (options : Options) : setting.list (taken setting values settings options) =
      if settings.contains setting.name.label then setting.list options
      else (values.flatMap Options.splitList).map .text := by
  unfold taken
  split
  · rfl
  · exact setting.list_put

/-- The list of a setting after the values of another switch were taken. -/
theorem list_taken_other (apart : other ≠ setting) (options : Options) :
    other.list (taken setting values settings options) = other.list options := by
  unfold taken
  split
  · rfl
  · exact ListSetting.list_put_other apart

/-- Settings became others by the values of a switch, which are held as their parts. -/
structure Joins (setting : ListSetting) (values : List String) (settings after : Table Value) :
    Prop where
  options : optionsOf after = (optionsOf settings).map (taken setting values settings)
  others : ∀ other, other ≠ setting →
    after.contains other.name.label = settings.contains other.name.label

/-- The values of a switch are listed among settings. -/
theorem joins_listSetting (setting : ListSetting) (values : List String)
    (settings : Table Value) :
    Joins setting values settings (listSetting setting.name values settings) := by
  cases present : settings.contains setting.name.label with
  | true =>
    have same : taken setting values settings = id := funext fun options => if_pos present
    rw [listSetting, if_pos present]
    refine ⟨?_, fun _ _ => rfl⟩
    rw [same]
    cases optionsOf settings <;> rfl
  | false =>
    have put : taken setting values settings =
        setting.put ((values.flatMap Options.splitList).map .text) :=
      funext fun options => if_neg (by rw [present]; decide)
    have fresh : setting.name.label ∉ settings.entries.map Prod.fst := by
      simpa [Table.contains, Table.keys] using present
    rw [listSetting, if_neg (by rw [present]; decide)]
    refine ⟨?_, fun other apart => ?_⟩
    · rw [put, optionsOf_eq, optionsOf_eq, Table.entries_insert_new fresh, List.map_append,
        List.map_singleton, Options.ofEntries_concat, Options.splitList_intercalate]
    · have different : other.name.label ≠ setting.name.label := fun same =>
        apart (ListSetting.label_injective same)
      rw [Bool.eq_iff_iff, Table.contains_iff, Table.contains_iff, Table.get?_insert,
        if_neg different]

/-- Or they are left out because there are none, and then the list is empty without them. -/
theorem joins_optionalSetting (setting : ListSetting) (values : List String)
    (settings : Table Value) :
    Joins setting values settings (optionalSetting setting.name values settings) := by
  cases values with
  | cons value rest => exact joins_listSetting setting (value :: rest) settings
  | nil =>
    refine ⟨?_, fun _ _ => rfl⟩
    show optionsOf settings = _
    cases made : optionsOf settings with
    | error fault => rfl
    | ok options =>
      -- What is not given is held as no parts, and so it already was.
      refine congrArg Except.ok ?_
      rw [taken]
      split
      · rfl
      · rename_i absent
        have empty : setting.list options = [] := by
          refine Options.list_of_unlisted (fun entry member named => ?_) made
          obtain ⟨⟨key, raw⟩, inside, rfl⟩ := List.mem_map.mp member
          have label := Options.label_of_settingOf named
          refine absent ?_
          rw [Table.contains, List.contains_iff_mem, label]
          exact List.mem_map_of_mem inside
        rw [List.flatMap_nil, List.map_nil, ← empty, setting.put_list]

/-- The parts of the values of the switch of a setting. -/
def partsOf (arguments : Arguments) (setting : ListSetting) : List Value :=
  ((arguments.listed setting.switch).flatMap Options.splitList).map .text

/-- The values of all switches are taken one after the other. -/
theorem optionsOf_joined (arguments : Arguments) {pairs plugins data helpers : Table Value}
    (first : Joins .pluginModules (arguments.listed .plugins) pairs plugins)
    (second : Joins .dataPaths (arguments.listed .data) plugins data)
    (third : Joins .helperModules (arguments.listed .helpers) data helpers) :
    ∃ change, optionsOf helpers = (optionsOf pairs).map change ∧
      ∀ (setting : ListSetting) (base : Options), setting.list (change base) =
        if pairs.contains setting.name.label then setting.list base
        else partsOf arguments setting := by
  refine ⟨fun base => taken .helperModules (arguments.listed .helpers) data
    (taken .dataPaths (arguments.listed .data) plugins
      (taken .pluginModules (arguments.listed .plugins) pairs base)), ?_, fun setting base => ?_⟩
  · rw [third.options, second.options, first.options]
    cases optionsOf pairs <;> rfl
  · cases setting with
    | pluginModules =>
      rw [list_taken_other (by decide), list_taken_other (by decide), list_taken]
      rfl
    | dataPaths =>
      rw [list_taken_other (by decide), list_taken, list_taken_other (by decide),
        first.others .dataPaths (by decide)]
      rfl
    | helperModules =>
      rw [list_taken, list_taken_other (by decide), list_taken_other (by decide),
        second.others .helperModules (by decide), first.others .helperModules (by decide)]
      rfl

/-- The options of a command are those of its pairs, but for the lists that the pairs leave out:
these are the parts of the values of the switches. -/
theorem optionsOf_settingsOf (arguments : Arguments) (pairs : Table String) :
    ∃ change, optionsOf (settingsOf arguments pairs) = (optionsOf (pairs.map .text)).map change ∧
      ∀ (setting : ListSetting) (base : Options), setting.list (change base) =
        if pairs.contains setting.name.label then setting.list base
        else partsOf arguments setting := by
  have same (setting : ListSetting) : (pairs.map Value.text).contains setting.name.label =
      pairs.contains setting.name.label := by
    simp [Table.contains, Table.keys, Table.map, Function.comp_def]
  obtain ⟨change, made, lists⟩ := optionsOf_joined arguments
    (joins_listSetting .pluginModules (arguments.listed .plugins) (pairs.map .text))
    (joins_optionalSetting .dataPaths (arguments.listed .data) _)
    (joins_optionalSetting .helperModules (arguments.listed .helpers) _)
  refine ⟨change, made, fun setting base => ?_⟩
  rw [← same]
  exact lists setting base

/-- Reports leave the session as it is. -/
theorem reports_session (warnings : List String) (terminal : Terminal) :
    ((warnings.forM report : TerminalM PUnit) terminal).2.session = terminal.session := by
  induction warnings generalizing terminal with
  | nil => rfl
  | cons warning rest ih =>
    simp only [List.forM, bind_step]
    rw [report, modify_step]
    exact ih _

/-- A renderer that is set up with settings has their options. -/
theorem setUp_options {settings : Table Value} {options : Options}
    (made : optionsOf settings = .ok options) (terminal : Terminal) :
    (setUp settings terminal).2.session.renderer.options = options := by
  have reads : Options.ofSettings (.ofTable settings) = .ok options := made
  have modules := Session.setUp_modules options [] none terminal.session
  rw [setUp, bind_step, liftExcept_step, reads]
  simp only [bind_step, onSession]
  rcases ran : Session.setUp options [] none terminal.session with ⟨fault | warnings, session⟩
  · rw [ran] at modules
    exact modules.1
  · rw [ran] at modules
    have same := reports_session warnings { terminal with session }
    exact (congrArg (fun session => session.renderer.options) same).trans modules.1

/-- Values of switches come through as they are exactly when each is its own only part. -/
theorem partsOf_eq_iff (arguments : Arguments) (setting : ListSetting) :
    partsOf arguments setting = (arguments.listed setting.switch).map .text ↔
      ∀ value ∈ arguments.listed setting.switch, Options.Plain value := by
  have injective : Function.Injective (List.map Value.text) :=
    List.map_injective_iff.mpr fun _ _ same => Value.text.inj same
  rw [partsOf, injective.eq_iff, Options.flatMap_splitList_eq_iff]

/-- If the pairs of a command are at fault, its settings have that fault. Otherwise its options, and
those of the renderer that it sets up, hold the list of the pairs where the pairs give one. Where
they leave it out, the list holds the parts of the values of its switch in order, and these are the
values as they were given exactly when none has a comma or blanks around it or is empty. -/
theorem lists_survive_unless_divided (arguments : Arguments) (pairs : Table String) :
    (∀ fault, optionsOf (pairs.map .text) = .error fault →
      optionsOf (settingsOf arguments pairs) = .error fault) ∧
    ∀ base, optionsOf (pairs.map .text) = .ok base →
      ∃ options, optionsOf (settingsOf arguments pairs) = .ok options ∧
        (∀ terminal, (setUp (settingsOf arguments pairs) terminal).2.session.renderer.options =
          options) ∧
        ∀ setting : ListSetting,
          (pairs.contains setting.name.label = true →
            setting.list options = setting.list base) ∧
          (pairs.contains setting.name.label = false →
            setting.list options = partsOf arguments setting ∧
            (setting.list options = (arguments.listed setting.switch).map .text ↔
              ∀ value ∈ arguments.listed setting.switch, Options.Plain value)) := by
  obtain ⟨change, made, lists⟩ := optionsOf_settingsOf arguments pairs
  constructor
  · intro fault refused
    rw [made, refused]
    rfl
  · intro base read
    rw [read] at made
    refine ⟨change base, made, setUp_options made, fun setting => ⟨fun present => ?_,
      fun absent => ?_⟩⟩
    · rw [lists, if_pos present]
    · have parts : setting.list (change base) = partsOf arguments setting := by
        rw [lists, if_neg (by rw [absent]; decide)]
      exact ⟨parts, by rw [parts, partsOf_eq_iff]⟩

/-- A command with a data path that has a comma, and a module with a blank before its name. -/
def commaCommand : Arguments where
  values := [(.data, "a,b.json"), (.plugins, "p"), (.data, "c.json"), (.helpers, " h")]

/-- The path is divided and the blank is gone, and the name of the plugin is as it was. -/
theorem lists_survive_unless_divided_commaCommand :
    ∃ options, optionsOf (settingsOf commaCommand {}) = .ok options ∧
      options.dataPaths = ["a", "b.json", "c.json"].map .text ∧
      options.helperModules = ["h"].map .text ∧
      options.pluginModules = ["p"].map .text ∧
      commaCommand.listed .data = ["a,b.json", "c.json"] ∧
      commaCommand.listed .helpers = [" h"] ∧
      commaCommand.listed .plugins = ["p"] := by
  obtain ⟨options, made, _, lists⟩ := (lists_survive_unless_divided commaCommand {}).2 {} rfl
  have divided : ["a,b.json", "c.json"].flatMap Options.splitList = ["a", "b.json", "c.json"] := by
    decide +kernel
  have trimmed : [" h"].flatMap Options.splitList = ["h"] := by decide +kernel
  have kept : ["p"].flatMap Options.splitList = ["p"] := by decide +kernel
  refine ⟨options, made, ?_, ?_, ?_, rfl, rfl, rfl⟩
  · rw [← divided]
    exact ((lists .dataPaths).2 rfl).1
  · rw [← trimmed]
    exact ((lists .helperModules).2 rfl).1
  · rw [← kept]
    exact ((lists .pluginModules).2 rfl).1

end CommandLine

end TemplateStream
