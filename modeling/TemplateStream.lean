import TemplateStream.Body
import TemplateStream.Calendar
import TemplateStream.Chunk
import TemplateStream.CommandLine
import TemplateStream.CommandLine.Arguments
import TemplateStream.CommandLine.Words
import TemplateStream.Context
import TemplateStream.Data.Extensions
import TemplateStream.Data.FrontMatter
import TemplateStream.Data.Reader
import TemplateStream.Data.Store
import TemplateStream.Decimal.Exact
import TemplateStream.Decimal.Numeral
import TemplateStream.Decimal.Shortest
import TemplateStream.Description.Bodies
import TemplateStream.Description.Files
import TemplateStream.Description.Plugins
import TemplateStream.Description.Surroundings
import TemplateStream.Description.TemplateFiles
import TemplateStream.Description.Values
import TemplateStream.Environment
import TemplateStream.Event
import TemplateStream.Fault
import TemplateStream.Fault.Causes
import TemplateStream.Fault.Kind
import TemplateStream.Files.Path
import TemplateStream.Files.Tree
import TemplateStream.Format.Ini
import TemplateStream.Format.Json
import TemplateStream.Format.Toml
import TemplateStream.Format.Toml.Draft
import TemplateStream.Format.Toml.Scalar
import TemplateStream.Format.Yaml
import TemplateStream.Format.Yaml.Block
import TemplateStream.Format.Yaml.Cursor
import TemplateStream.Format.Yaml.Node
import TemplateStream.Format.Yaml.Plain
import TemplateStream.Format.Yaml.Quotation
import TemplateStream.Format.Yaml.Scalar
import TemplateStream.Format.Yaml.Scan
import TemplateStream.Format.Yaml.Tag
import TemplateStream.Format.Yaml.Token
import TemplateStream.Main
import TemplateStream.Module
import TemplateStream.Options
import TemplateStream.Parameter
import TemplateStream.Parameter.Pairs
import TemplateStream.Parameter.Resolution
import TemplateStream.Pass
import TemplateStream.Pass.Agenda
import TemplateStream.Pass.Rendering
import TemplateStream.Pass.Script
import TemplateStream.Pattern
import TemplateStream.Plugin
import TemplateStream.Registry.Helpers
import TemplateStream.Registry.Templates
import TemplateStream.RenderTree
import TemplateStream.Renderer
import TemplateStream.Session
import TemplateStream.Session.Attaching
import TemplateStream.Session.DataFiles
import TemplateStream.Session.HelperModules
import TemplateStream.Session.Importing
import TemplateStream.Session.PluginModules
import TemplateStream.Session.Rendering
import TemplateStream.Table
import TemplateStream.Tap
import TemplateStream.Text.Blank
import TemplateStream.Text.Casing
import TemplateStream.Text.CasingTable
import TemplateStream.Text.CharSet
import TemplateStream.Text.Digit
import TemplateStream.Text.Escaped
import TemplateStream.Text.Printable
import TemplateStream.Text.Quoted
import TemplateStream.Text.Split
import TemplateStream.Value
import TemplateStream.Value.Entries
import TemplateStream.Value.Equality
import TemplateStream.Value.Printing
import TemplateStream.Proofs.Steps
import TemplateStream.Proofs.DocumentOrder
import TemplateStream.Proofs.Flow
import TemplateStream.Proofs.ChunkSteps
import TemplateStream.Proofs.FlushExactness
import TemplateStream.Proofs.Debts
import TemplateStream.Proofs.Owing
import TemplateStream.Proofs.BranchScripts
import TemplateStream.Proofs.Enduring
import TemplateStream.Proofs.Lasting
import TemplateStream.Proofs.Meaning
import TemplateStream.Proofs.Composing
import TemplateStream.Proofs.Denotation
import TemplateStream.Proofs.Tasks
import TemplateStream.Proofs.Paying
import TemplateStream.Proofs.Turns
import TemplateStream.Proofs.Schedules
import TemplateStream.Proofs.Wrapping
import TemplateStream.Proofs.Telling
import TemplateStream.Proofs.Completed
import TemplateStream.Proofs.Transparency
import TemplateStream.Proofs.HelperPaths
import TemplateStream.Proofs.Operations
import TemplateStream.Proofs.Effects
import TemplateStream.Proofs.Ownership
import TemplateStream.Proofs.Waiting
import TemplateStream.Proofs.Abreast
import TemplateStream.Proofs.AbreastBodies
import TemplateStream.Proofs.AbreastRuns
import TemplateStream.Proofs.FailingScripts
import TemplateStream.Proofs.Isolation
import TemplateStream.Proofs.Announcing
import TemplateStream.Proofs.Course
import TemplateStream.Proofs.FailureStages
import TemplateStream.Proofs.Onlooking
import TemplateStream.Proofs.Undisturbed
import TemplateStream.Proofs.Lifecycle
import TemplateStream.Proofs.Attachments
import TemplateStream.Proofs.Detaching
import TemplateStream.Proofs.Unreached
import TemplateStream.Proofs.Spent
import TemplateStream.Proofs.Pages
import TemplateStream.Proofs.Applying
import TemplateStream.Proofs.Redelivery
import TemplateStream.Proofs.Tables
import TemplateStream.Proofs.Registering
import TemplateStream.Proofs.Naming
import TemplateStream.Proofs.Retaining
import TemplateStream.Proofs.Confined
import TemplateStream.Proofs.Mirroring
import TemplateStream.Proofs.MirroredRuns
import TemplateStream.Proofs.Furnishing
import TemplateStream.Proofs.Repeating
import TemplateStream.Proofs.Escaping
import TemplateStream.Proofs.Recovering
import TemplateStream.Proofs.Declaring
import TemplateStream.Proofs.Dispatching
import TemplateStream.Proofs.Keys
import TemplateStream.Proofs.Dictionaries
import TemplateStream.Proofs.Leaves
import TemplateStream.Proofs.Descriptions
import TemplateStream.Proofs.Addressing
import TemplateStream.Proofs.Admitting
import TemplateStream.Proofs.Finding
import TemplateStream.Proofs.Reporting
import TemplateStream.Proofs.Supplying
import TemplateStream.Proofs.Resolving
import TemplateStream.Proofs.Overflow
import TemplateStream.Proofs.Refusing
import TemplateStream.Proofs.Lowering
import TemplateStream.Proofs.Suffixes
import TemplateStream.Proofs.Walking
import TemplateStream.Proofs.Stocking
import TemplateStream.Proofs.Scoping
import TemplateStream.Proofs.Fetching
import TemplateStream.Proofs.Fencing
import TemplateStream.Proofs.Rejecting
import TemplateStream.Proofs.Retrieving
import TemplateStream.Proofs.Indexing
import TemplateStream.Proofs.Retrying
import TemplateStream.Proofs.Awaiting
import TemplateStream.Proofs.Places
import TemplateStream.Proofs.Separating
import TemplateStream.Proofs.Bracketing
import TemplateStream.Proofs.Folding
import TemplateStream.Proofs.Joining
import TemplateStream.Proofs.Chaining
