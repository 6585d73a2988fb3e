import TemplateStream.Event
import TemplateStream.Fault.Kind
import TemplateStream.Decimal.Numeral
import TemplateStream.Value.Printing

/-!
# Causes of faults

What can go wrong, part by part of the library: one type of causes for each part, with the kind
and the wording of every cause.
-/

namespace TemplateStream

/-- Operations that need an open chunk. -/
inductive ChunkOperation where
  | write
  | tap
  | render
  | map
  | finish
  deriving DecidableEq

/-- The name of an operation on a chunk. -/
def ChunkOperation.name : ChunkOperation → String
  | .write => "write"
  | .tap => "tap"
  | .render => "render"
  | .map => "map"
  | .finish => "end"

/-- Faults in the use of render trees, chunks and taps. -/
inductive ChunkFault where
  /-- The handle is complete. -/
  | closedChunk (operation : ChunkOperation)
  | closedRecord (record : Nat)
  | forkOfClosedRecord (record : Nat)
  | noRecord
  | rootTaken
  /-- The end of a pass found chunks that were never ended. -/
  | unfinished (count : Nat)
  | unmatchedUntap
  | tapsLeft (count : Nat)
  | notTransform
  | noHandle (name : String)
  /-- A transform refused the text. -/
  | refused (reason : String)

namespace ChunkFault

/-- The kind of a chunk fault. -/
def kind : ChunkFault → Kind
  | .closedChunk _ | .closedRecord _ | .forkOfClosedRecord _ | .rootTaken | .unfinished _ =>
    .invalidState
  | .unmatchedUntap | .tapsLeft _ => .imbalancedTap
  | .noRecord => .index
  | .notTransform => .type
  | .noHandle _ => .runtime
  | .refused _ => .value

/-- The wording of a chunk fault. -/
def message : ChunkFault → String
  | .closedChunk operation => s!"cannot {operation.name}() on a completed chunk."
  | .closedRecord record => s!"chunk record {record} is already complete."
  | .forkOfClosedRecord record => s!"cannot fork completed chunk record {record}."
  | .noRecord => "list index out of range"
  | .rootTaken => "root chunk was already opened for this render tree."
  | .unfinished count =>
    s!"render finished with {count} incomplete chunk(s); every chunk must be ended."
  | .unmatchedUntap => "untap() called without a matching tap()."
  | .tapsLeft count => s!"chunk ended with {count} tap(s) still installed."
  | .notTransform => "tap() expects a callable transform."
  | .noHandle name => "no handle " ++ Text.quoted name
  | .refused reason => reason

end ChunkFault

/-- Faults of reading numerals and calendar numbers from text. -/
inductive NumberFault where
  | integer (base : Nat) (source : Value) (cause : Decimal.NumeralFault)
  | float (source : Value)
  | calendar (cause : Calendar.Fault)
  /-- An infinity has no integer. -/
  | infinite
  | notANumber
  /-- The integer is larger than every floating-point number. -/
  | tooLarge
  /-- There is no character of the number. -/
  | codePoint
  /-- There is no character of the number, which has too many bits. -/
  | codePointSize

namespace NumberFault

/-- The kind of a number fault. -/
def kind : NumberFault → Kind
  | .infinite | .tooLarge | .codePointSize => .overflow
  | _ => .value

/-- The wording of a number fault. The text that is no numeral is cited up to two hundred
characters. -/
def message : NumberFault → String
  | .integer base source .malformed =>
    s!"invalid literal for int() with base {base}: " ++
      String.ofList (source.describe.toList.take 200)
  | .integer _ _ (.tooLong digits) =>
    s!"Exceeds the limit ({Decimal.digitLimit} digits) for integer string conversion: " ++
      s!"value has {digits} digits; use sys.set_int_max_str_digits() to increase the limit"
  | .float source => "could not convert string to float: " ++ source.describe
  | .calendar cause => cause.message
  | .infinite => "cannot convert float infinity to integer"
  | .notANumber => "cannot convert float NaN to integer"
  | .tooLarge => "int too large to convert to float"
  | .codePoint => "chr() arg not in range(0x110000)"
  | .codePointSize => "Python int too large to convert to C int"

end NumberFault

/-- Faults of filling the fields of a pattern. -/
inductive PatternFault where
  /-- The pattern is malformed. -/
  | malformed (reason : String)
  /-- A field is named by a number. -/
  | numbered (position : Nat)
  | unknownField (name : String)
  | noAttribute (typeName name : String)
  | noSuchIndex (typeName : String)
  | textIndex
  | tupleIndex
  | notIndexable (typeName : String)
  | noFormat (typeName : String)

namespace PatternFault

/-- The kind of a pattern fault. -/
def kind : PatternFault → Kind
  | .malformed _ => .value
  | .numbered _ | .noSuchIndex _ => .index
  | .unknownField _ => .key
  | .noAttribute _ _ => .attribute
  | .textIndex | .tupleIndex | .notIndexable _ | .noFormat _ => .type

/-- The wording of a pattern fault. -/
def message : PatternFault → String
  | .malformed reason => reason
  | .numbered position =>
    s!"Replacement index {position} out of range for positional args tuple"
  | .unknownField name => name
  | .noAttribute typeName name =>
    Text.quoted typeName ++ " object has no attribute " ++ Text.quoted name
  | .noSuchIndex typeName => s!"{typeName} index out of range"
  | .textIndex => "string indices must be integers, not 'str'"
  | .tupleIndex => "tuple indices must be integers or slices, not str"
  | .notIndexable typeName => s!"'{typeName}' object is not subscriptable"
  | .noFormat typeName => s!"unsupported format string passed to {typeName}.__format__"

end PatternFault

/-- Types that a declared parameter can have. -/
inductive ParameterType where
  | bool
  | int
  | float
  | text
  | list
  | mapping
  deriving DecidableEq, Inhabited, Repr

/-- The name of a parameter type. -/
def ParameterType.name : ParameterType → String
  | .bool => "bool"
  | .int => "int"
  | .float => "float"
  | .text => "str"
  | .list => "list"
  | .mapping => "dict"

/-- What a parameter type expects of a value. -/
def ParameterType.expectation : ParameterType → String
  | .bool => "a boolean (true/false)"
  | .int => "an integer"
  | .float => "a float"
  | type => type.name

/-- Faults of helper parameters. -/
inductive ParameterFault where
  | pairWithoutSign (option pair : String)
  | pairWithoutKey (option pair : String)
  | duplicateKey (key helper : String)
  | mismatch (value : Value) (key helper : String) (type : ParameterType)
  | unsupportedType (type : ParameterType) (key helper : String)
  | notAChoice (value : Value) (key helper : String) (choices : List Value)
  | belowMinimum (value : Value) (key helper : String) (bound : Value)
  | aboveMaximum (value : Value) (key helper : String) (bound : Value)
  | unknown (key helper : String) (declared : List String)
  | missing (helper : String) (keys : List String)

namespace ParameterFault

/-- The words that all refusals of a parameter value begin with. -/
def refusal (value : Value) (key helper : String) : String :=
  s!"invalid value '{value.toText}' for '{key}' in helper '{helper}'. "

/-- The wording of a parameter fault. -/
def message : ParameterFault → String
  | .pairWithoutSign option pair => s!"invalid {option} '{pair}'. Expected key=value."
  | .pairWithoutKey option pair => s!"invalid {option} '{pair}'. Key cannot be empty."
  | .duplicateKey key helper =>
    s!"duplicate parameter key mapping '{key}' in helper '{helper}'."
  | .mismatch value key helper type =>
    refusal value key helper ++ s!"Expected {type.expectation}."
  | .unsupportedType type key helper =>
    s!"unsupported param type '<class '{type.name}'>' for '{key}' in '{helper}'."
  | .notAChoice value key helper choices =>
    refusal value key helper ++
      "Valid values: " ++ ", ".intercalate (choices.map Value.toText) ++ "."
  | .belowMinimum value key helper bound =>
    refusal value key helper ++ s!"Minimum allowed value is {bound.toText}."
  | .aboveMaximum value key helper bound =>
    refusal value key helper ++ s!"Maximum allowed value is {bound.toText}."
  | .unknown key helper declared =>
    s!"unknown parameter '{key}' for helper '{helper}'. Supported parameters: " ++
      ", ".intercalate declared ++ "."
  | .missing helper keys =>
    s!"missing required parameter(s) for helper '{helper}': " ++ ", ".intercalate keys ++ "."

end ParameterFault

/-- Faults of the registries of helpers and templates. -/
inductive RegistryFault where
  | blankHelper
  | helperTaken (id : String)
  | helperIsAlias (id : String)
  | blankAlias
  | aliasOfItself (name : String)
  | aliasTaken (name : String)
  | unknownHelper (name : String) (known : List String)
  | blankTemplate
  | unknownTemplate (name : String) (known : List String)
  | noFunction (id : String)
  | moduleWithoutHelpers (module : String)

namespace RegistryFault

/-- The wording of a registry fault. -/
def message : RegistryFault → String
  | .blankHelper => "helper_id cannot be empty."
  | .helperTaken id => s!"helper '{id}' is already registered."
  | .helperIsAlias id => s!"helper id '{id}' conflicts with an existing alias."
  | .blankAlias => "helper alias cannot be empty."
  | .aliasOfItself name => s!"alias '{name}' duplicates helper id '{name}'."
  | .aliasTaken name => s!"helper alias '{name}' is already registered."
  | .unknownHelper name known =>
    s!"unknown helper '{name}'. Valid helpers: " ++ ", ".intercalate known ++ "."
  | .blankTemplate => "template name cannot be empty."
  | .unknownTemplate name known =>
    s!"unknown template '{name}'. Registered templates: " ++
      (if known.isEmpty then "(none)" else ", ".intercalate known) ++ "."
  | .noFunction id => s!"add_helper('{id}') needs a helper function."
  | .moduleWithoutHelpers module =>
    s!"module '{module}' defines neither register_helpers(registry) nor HELPERS."

end RegistryFault

/-- Faults of renderer options. -/
inductive OptionFault where
  | unknown (key : String) (known : List String)
  | policy (option : String) (value : Value) (known : List String)
  | notBoolean (option : String) (value : Value)
  | unexpected (key : String)
  | notIterable (typeName : String)

namespace OptionFault

/-- The kind of an option fault. -/
def kind : OptionFault → Kind
  | .unexpected _ | .notIterable _ => .type
  | _ => .value

/-- The wording of an option fault. -/
def message : OptionFault → String
  | .unknown key known =>
    s!"unknown renderer option '{key}'. Valid options: " ++ ", ".intercalate known ++ "."
  | .policy option value known =>
    s!"invalid {option} '{value.toText}'. Valid values: " ++ ", ".intercalate known ++ "."
  | .notBoolean option value =>
    s!"invalid value '{value.toText}' for renderer option '{option}'. " ++
      "Expected a boolean (true/false)."
  | .unexpected key =>
    s!"RendererOptions.__init__() got an unexpected keyword argument '{key}'"
  | .notIterable typeName => s!"'{typeName}' object is not iterable"

end OptionFault

/-- Faults of reading a value as a list of entries. -/
inductive EntryFault where
  /-- An item is no sequence. -/
  | notPair (index : Nat)
  /-- An item is a sequence of another length than two. -/
  | pairLength (index length : Nat)
  /-- A value cannot be a key. -/
  | notKey (typeName : String)

namespace EntryFault

/-- The kind of an entry fault. -/
def kind : EntryFault → Kind
  | .pairLength _ _ => .value
  | .notPair _ | .notKey _ => .type

/-- The wording of an entry fault. -/
def message : EntryFault → String
  | .notPair index => s!"cannot convert dictionary update sequence element #{index} to a sequence"
  | .pairLength index length =>
    s!"dictionary update sequence element #{index} has length {length}; 2 is required"
  | .notKey typeName => s!"unhashable type: '{typeName}'"

end EntryFault

/-- Faults of loading and storing data. -/
inductive DataFault where
  | blankExtension (extension : String)
  | notHandler (extension : String)
  | unsupported (extension : String) (path : Option String)
  | storageKey (name : String) (value : Value)
  | missingPath (path : String)
  /-- A path is no text. -/
  | notPath (typeName : String)
  | frontMatterShape (page : String)
  | pageName (page : String)
  /-- A page path runs through a value that holds no entries. -/
  | noEntries (typeName : String)
  /-- A page path ends in a value that takes no entries. -/
  | noAssignment (typeName : String)
  | listAssignment

namespace DataFault

/-- The kind of a data fault. -/
def kind : DataFault → Kind
  | .blankExtension _ => .value
  | .notHandler _ | .notPath _ | .noAssignment _ | .listAssignment => .type
  | .unsupported _ _ => .unsupportedExtension
  | .noEntries _ => .attribute
  | _ => .data

/-- The wording of a data fault. -/
def message : DataFault → String
  | .blankExtension extension => s!"invalid data file extension '{extension}'."
  | .notHandler extension => s!"handler for extension '{extension}' is not callable."
  | .unsupported extension path =>
    s!"no data handler registered for extension '{extension}'" ++
      (match path with
        | some path => if path.isEmpty then "" else s!" (file '{path}')"
        | none => "") ++ "."
  | .storageKey name value =>
    s!"'{name}' must be a non-empty string, got {value.describe}."
  | .missingPath path => s!"data path '{path}' does not exist."
  | .notPath typeName => s!"expected str, bytes or os.PathLike object, not {typeName}"
  | .frontMatterShape page => s!"front-matter of '{page}' must be a mapping."
  | .pageName page => s!"invalid page name '{page}'."
  | .noEntries typeName => s!"'{typeName}' object has no attribute 'setdefault'"
  | .noAssignment typeName => s!"'{typeName}' object does not support item assignment"
  | .listAssignment => "list indices must be integers or slices, not str"

end DataFault

/-- Faults of importing modules. -/
inductive ImportFault where
  | blankName
  | relative (name : String)
  | missing (name : String)
  | notPackage (name parent : String)
  | noAttribute (module name : String)

namespace ImportFault

/-- The kind of an import fault. -/
def kind : ImportFault → Kind
  | .blankName => .value
  | .relative _ => .type
  | .missing _ | .notPackage _ _ => .missingModule
  | .noAttribute _ _ => .attribute

/-- The wording of an import fault. -/
def message : ImportFault → String
  | .blankName => "Empty module name"
  | .relative name =>
    s!"the 'package' argument is required to perform a relative import for {Text.quoted name}"
  | .missing name => "No module named " ++ Text.quoted name
  | .notPackage name parent =>
    "No module named " ++ Text.quoted name ++ "; " ++ Text.quoted parent ++ " is not a package"
  | .noAttribute module name => s!"module '{module}' has no attribute '{name}'"

end ImportFault

/-- Faults of plugins. -/
inductive PluginFault where
  | missing
  | wrongType (typeName : String)
  | apiVersion (module : String) (version : Value) (expected : Nat)
  | noFactory (module : String) (names : List String)
  | notPlugin
  | blankName
  | handlerNotCallable (plugin : String) (event : Event)
  | duplicate (plugin : String)
  | awaitable (plugin : String) (event : Event)
  | notAnEvent (name : Value)

namespace PluginFault

/-- The kind of a plugin fault. -/
def kind : PluginFault → Kind
  | .duplicate _ => .duplicatePlugin
  | .awaitable _ _ => .plugin
  | .notAnEvent _ => .value
  | _ => .invalidPlugin

/-- The wording of a plugin fault. -/
def message : PluginFault → String
  | .missing => "add_plugin() was called without a plugin."
  | .wrongType typeName => s!"add_plugin() was called with an invalid plugin type: {typeName}."
  | .apiVersion module version expected =>
    s!"module '{module}' targets plugin API version {version.toText}, expected {expected}."
  | .noFactory module names =>
    s!"module '{module}' does not define " ++ " or ".intercalate names ++ "."
  | .notPlugin => "plugin must resolve to a module, a class or a factory callable."
  | .blankName =>
    "add_plugin() was passed an invalid plugin. The object provided does not have a " ++
      ".plugin_name string (or it was blank), which is required for plugin identification."
  | .handlerNotCallable plugin event =>
    s!"plugin '{plugin}' handler for '{event.name}' is not callable."
  | .duplicate plugin => s!"plugin '{plugin}' is already attached."
  | .awaitable plugin event =>
    s!"plugin '{plugin}' returned an awaitable from '{event.name}', " ++
      "which is dispatched synchronously."
  | .notAnEvent name => s!"{name.describe} is not a valid LifecycleEvent"

end PluginFault

end TemplateStream
