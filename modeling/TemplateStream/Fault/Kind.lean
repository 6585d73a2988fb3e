/-!
# Kinds of faults

The kind of a fault decides how it is treated: faults in the use of chunks are never recovered
from, a faulty plugin module is only warned of, and the command line reports some kinds and lets
others pass. Each kind has a label, by which answers and messages cite it.
-/

namespace TemplateStream

/-- The kinds of faults. -/
inductive Kind where
  /-- A fault of the library that is of no narrower kind. -/
  | library
  | invalidState
  | imbalancedTap
  | data
  | unsupportedExtension
  | plugin
  | invalidPlugin
  | duplicatePlugin
  | helper
  | render
  /-- A value of the right type that is not acceptable. -/
  | value
  | type
  | key
  | index
  | lookup
  | attribute
  | importing
  | missingModule
  | runtime
  | overflow
  | recursion
  | json
  | yaml
  | toml
  | decoding
  | sectionHeader
  | sectionSyntax
  | duplicateSection
  | duplicateOption
  | missingFile
  | isDirectory
  | notDirectory
  /-- A fault of the file system that is none of the three above. -/
  | system (label : String)
  /-- Any other kind. -/
  | other (label : String)
  deriving DecidableEq, Inhabited, Repr

namespace Kind

/-- The label of a kind. -/
def label : Kind → String
  | .library => "InkstreamError"
  | .invalidState => "InvalidStateError"
  | .imbalancedTap => "ImbalancedTapError"
  | .data => "DataError"
  | .unsupportedExtension => "UnsupportedExtensionError"
  | .plugin => "PluginError"
  | .invalidPlugin => "InvalidPluginError"
  | .duplicatePlugin => "DuplicatePluginNameError"
  | .helper => "HelperError"
  | .render => "TemplateRenderError"
  | .value => "ValueError"
  | .type => "TypeError"
  | .key => "KeyError"
  | .index => "IndexError"
  | .lookup => "LookupError"
  | .attribute => "AttributeError"
  | .importing => "ImportError"
  | .missingModule => "ModuleNotFoundError"
  | .runtime => "RuntimeError"
  | .overflow => "OverflowError"
  | .recursion => "RecursionError"
  | .json => "JSONDecodeError"
  | .yaml => "YAMLError"
  | .toml => "TOMLDecodeError"
  | .decoding => "UnicodeDecodeError"
  | .sectionHeader => "MissingSectionHeaderError"
  | .sectionSyntax => "ParsingError"
  | .duplicateSection => "DuplicateSectionError"
  | .duplicateOption => "DuplicateOptionError"
  | .missingFile => "FileNotFoundError"
  | .isDirectory => "IsADirectoryError"
  | .notDirectory => "NotADirectoryError"
  | .system label => label
  | .other label => label

/-- The kinds that have a label of their own. -/
def labelled : List Kind :=
  [.library, .invalidState, .imbalancedTap, .data, .unsupportedExtension, .plugin, .invalidPlugin,
    .duplicatePlugin, .helper, .render, .value, .type, .key, .index, .lookup, .attribute,
    .importing, .missingModule, .runtime, .overflow, .recursion, .json, .yaml, .toml, .decoding,
    .sectionHeader, .sectionSyntax, .duplicateSection, .duplicateOption, .missingFile,
    .isDirectory, .notDirectory]

/-- Labels of faults of the file system other than the three with a kind of their own. -/
def systemLabels : List String :=
  ["OSError", "PermissionError", "FileExistsError", "TimeoutError", "ConnectionError",
    "InterruptedError", "BlockingIOError", "BrokenPipeError"]

/-- The kind that a label cites. -/
def ofLabel (label : String) : Kind :=
  match labelled.find? fun kind => kind.label == label with
  | some kind => kind
  | none => if systemLabels.contains label then .system label else .other label

/-- Faults of the library itself. -/
def isLibrary : Kind → Bool
  | .library | .invalidState | .imbalancedTap | .data | .unsupportedExtension | .plugin
  | .invalidPlugin | .duplicatePlugin | .helper | .render => true
  | _ => false

/-- Faults in the use of a chunk, which no helper call recovers from. -/
def isStructural : Kind → Bool
  | .invalidState | .imbalancedTap => true
  | _ => false

/-- Faults of a value: the kind itself and the narrower kinds of unreadable text. -/
def isValue : Kind → Bool
  | .value | .json | .toml | .decoding => true
  | .other label => label == "UnicodeError" || label == "UnicodeEncodeError"
  | _ => false

/-- The kind of fault by which an iteration is told to stop. -/
def stopIteration : Kind := .other "StopIteration"

/-- Faults of importing a module. -/
def isImport : Kind → Bool
  | .importing | .missingModule => true
  | _ => false

/-- The text by which descriptions cite a fault of a kind. -/
def citation (kind : Kind) : String := s!"<{kind.label}>"

/-- Kinds whose faults descriptions cite by their label alone: those of readers and of the file
system. -/
def isSilent : Kind → Bool
  | .json | .yaml | .toml | .decoding | .sectionHeader | .sectionSyntax | .duplicateSection
  | .duplicateOption | .missingFile | .isDirectory | .notDirectory | .system _ => true
  | _ => false

end Kind

end TemplateStream
