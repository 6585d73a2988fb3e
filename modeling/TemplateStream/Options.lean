import TemplateStream.Parameter.Resolution

/-!
# Renderer options

The options of a renderer are made from settings, which are loosely typed: a list may be written
as one text with commas, a truth value as a word. The policies are checked last, when all
settings have been read.
-/

namespace TemplateStream

/-- What becomes of a render pass when a plugin fails on an event. -/
inductive PluginPolicy where
  /-- The pass fails. -/
  | abort
  /-- The fault is recorded and the pass goes on. -/
  | proceed
  deriving DecidableEq, Inhabited

namespace PluginPolicy

/-- The word for a policy in settings. -/
def label : PluginPolicy → String
  | .abort => "abort"
  | .proceed => "continue"

/-- Every policy. -/
def all : List PluginPolicy := [.abort, .proceed]

/-- The policy that a word stands for. -/
def ofLabel? (label : String) : Option PluginPolicy :=
  all.find? fun policy => policy.label == label

end PluginPolicy

/-- The options of a renderer. -/
structure Options where
  /-- Data files and directories of data files. -/
  dataPaths : List Value := []
  helperModules : List Value := []
  pluginModules : List Value := []
  helperPolicy : HelperPolicy := .abort
  pluginPolicy : PluginPolicy := .abort
  escapes : Bool := true
  placeholder : String := defaultPlaceholder
  deriving Inhabited

/-- The names of the settings. -/
inductive SettingName where
  | dataPaths
  | helperModules
  | pluginModules
  | helperPolicy
  | pluginPolicy
  | escapes
  | placeholder
  deriving DecidableEq

namespace SettingName

/-- The word for a setting. -/
def label : SettingName → String
  | .dataPaths => "data_paths"
  | .helperModules => "helper_modules"
  | .pluginModules => "plugin_modules"
  | .helperPolicy => "on_helper_error"
  | .pluginPolicy => "on_plugin_error"
  | .escapes => "escape_html"
  | .placeholder => "error_placeholder"

/-- Every setting, in the order in which they are listed. -/
def all : List SettingName :=
  [.dataPaths, .helperModules, .pluginModules, .helperPolicy, .pluginPolicy, .escapes,
    .placeholder]

/-- The setting that a word stands for. -/
def ofLabel? (label : String) : Option SettingName :=
  all.find? fun name => name.label == label

end SettingName

namespace Options

/-- The options as settings, in the order in which they are listed. -/
def toSettings (options : Options) : Table Value :=
  .ofList [
    (SettingName.dataPaths.label, .tuple options.dataPaths),
    (SettingName.helperModules.label, .tuple options.helperModules),
    (SettingName.pluginModules.label, .tuple options.pluginModules),
    (SettingName.helperPolicy.label, .text options.helperPolicy.label),
    (SettingName.pluginPolicy.label, .text options.pluginPolicy.label),
    (SettingName.escapes.label, .bool options.escapes),
    (SettingName.placeholder.label, .text options.placeholder)]

/-- The parts of a text between commas, less the blanks around them, and without the empty
ones. -/
def splitList (text : String) : List String :=
  ((Text.split ',' text).map Text.strip).filter fun part => !part.isEmpty

/-- The items that a setting lists. A mapping lists its keys. -/
def listed (raw : Value) : Except Fault (List Value) :=
  match raw with
  | .text content | .markup content => .ok ((splitList content).map .text)
  | .list items | .tuple items => .ok items
  | .mapping entries => .ok (entries.map Prod.fst)
  | raw => .error (.option (.notIterable raw.typeName))

/-- The truth value of a setting. -/
def truth (name : SettingName) (raw : Value) : Except Fault Bool :=
  match Parameter.boolean? raw with
  | some truth => .ok truth
  | none => .error (.option (.notBoolean name.label raw))

/-- The policy on failing helpers that a setting names. -/
def helperPolicyOf (raw : Value) : Except Fault HelperPolicy :=
  match raw.text?.bind HelperPolicy.ofLabel? with
  | some policy => .ok policy
  | none =>
    .error (.option (.policy SettingName.helperPolicy.label raw
      (HelperPolicy.all.map HelperPolicy.label)))

/-- The policy on failing plugins that a setting names. -/
def pluginPolicyOf (raw : Value) : Except Fault PluginPolicy :=
  match raw.text?.bind PluginPolicy.ofLabel? with
  | some policy => .ok policy
  | none =>
    .error (.option (.policy SettingName.pluginPolicy.label raw
      (PluginPolicy.all.map PluginPolicy.label)))

/-- Options of which the policies are not checked yet. -/
structure Draft where
  options : Options := {}
  helperPolicy : String := HelperPolicy.abort.label
  pluginPolicy : String := PluginPolicy.abort.label

/-- Takes one setting over. -/
def Draft.set (draft : Draft) (name : SettingName) (raw : Value) : Except Fault Draft := do
  let options := draft.options
  match name with
  | .dataPaths => pure { draft with options := { options with dataPaths := ← listed raw } }
  | .helperModules => pure { draft with options := { options with helperModules := ← listed raw } }
  | .pluginModules => pure { draft with options := { options with pluginModules := ← listed raw } }
  | .helperPolicy => pure { draft with helperPolicy := raw.toText }
  | .pluginPolicy => pure { draft with pluginPolicy := raw.toText }
  | .escapes => pure { draft with options := { options with escapes := ← truth name raw } }
  | .placeholder => pure { draft with options := { options with placeholder := raw.toText } }

/-- The options of a draft with valid policies. -/
def Draft.check (draft : Draft) : Except Fault Options := do
  let helperPolicy ← helperPolicyOf (.text draft.helperPolicy)
  let pluginPolicy ← pluginPolicyOf (.text draft.pluginPolicy)
  pure { draft.options with helperPolicy, pluginPolicy }

/-- The setting that a key names. -/
def settingOf (key : Value) : Except Fault SettingName :=
  match key.text?.bind SettingName.ofLabel? with
  | some name => .ok name
  | none => .error (.option (.unknown key.toText (SettingName.all.map SettingName.label)))

/-- The options of loosely typed settings, which are read in order. -/
def ofEntries (settings : List (Value × Value)) : Except Fault Options := do
  let draft ← settings.foldlM (fun (draft : Draft) (key, raw) => do
    draft.set (← settingOf key) raw) {}
  draft.check

/-- The options of a mapping of settings. What is empty or null has none. -/
def ofSettings (settings : Value) : Except Fault Options :=
  match settings with
  | .mapping entries => ofEntries entries
  | settings =>
    if settings.isTruthy then .error (.noAttribute settings.typeName "items") else ofEntries []

/-- The settings of renderer options that are given exactly, over those left out. Only the
policies are checked. -/
def exactly (given : Table Value) : Except Fault (Table Value) := do
  for name in given.keys do
    if (SettingName.ofLabel? name).isNone then throw (.option (.unexpected name))
  let settings := toSettings {} |>.merge given
  discard (helperPolicyOf ((settings.get? SettingName.helperPolicy.label).getD .null))
  discard (pluginPolicyOf ((settings.get? SettingName.pluginPolicy.label).getD .null))
  pure settings

end Options

end TemplateStream
