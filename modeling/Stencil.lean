import Stencil.Assets
import Stencil.Context.Classes
import Stencil.Datum
import Stencil.Directive.Kind
import Stencil.Directive.Token
import Stencil.Encoding
import Stencil.Evaluation
import Stencil.Evaluation.Arithmetic
import Stencil.Evaluation.Arity
import Stencil.Evaluation.Attributes
import Stencil.Evaluation.Builtins
import Stencil.Evaluation.Comparison
import Stencil.Evaluation.Containers
import Stencil.Evaluation.Expressions
import Stencil.Evaluation.Functions
import Stencil.Evaluation.Indexing
import Stencil.Evaluation.Interpreter
import Stencil.Evaluation.Iteration
import Stencil.Evaluation.Methods
import Stencil.Evaluation.Names
import Stencil.Evaluation.Notation
import Stencil.Evaluation.Percent
import Stencil.Evaluation.Sorting
import Stencil.Evaluation.Statements
import Stencil.Evaluation.Texts
import Stencil.Evaluation.Types
import Stencil.Evaluation.Writing
import Stencil.Exposure
import Stencil.Fault
import Stencil.Fault.Construction
import Stencil.Fault.Domain
import Stencil.Files
import Stencil.Files.Wildcard
import Stencil.Json
import Stencil.Json.Printer
import Stencil.Listing
import Stencil.Listing.Opening
import Stencil.Loader
import Stencil.Number.Binary
import Stencil.Number.Reading
import Stencil.Number.Rounding
import Stencil.Number.Shortest
import Stencil.OrderedSet
import Stencil.Program
import Stencil.Proofs.AbsentLayouts
import Stencil.Proofs.Accessors
import Stencil.Proofs.AssetTags
import Stencil.Proofs.Attribution
import Stencil.Proofs.BlockStructure
import Stencil.Proofs.BlockTree
import Stencil.Proofs.Bundling
import Stencil.Proofs.Calling
import Stencil.Proofs.CodeLines
import Stencil.Proofs.Coercion
import Stencil.Proofs.Collecting
import Stencil.Proofs.Composition
import Stencil.Proofs.ConfigurationRuns
import Stencil.Proofs.Configurations
import Stencil.Proofs.Contributions
import Stencil.Proofs.CreationOrder
import Stencil.Proofs.DeclaredExposures
import Stencil.Proofs.DomainEquality
import Stencil.Proofs.DoubleTexts
import Stencil.Proofs.DoubleValues
import Stencil.Proofs.Emission
import Stencil.Proofs.EnclosingBundles
import Stencil.Proofs.EnvironmentSettings
import Stencil.Proofs.Evolution
import Stencil.Proofs.Evolution.Interpreter
import Stencil.Proofs.Exposures
import Stencil.Proofs.Failures
import Stencil.Proofs.Footprint
import Stencil.Proofs.Forgiveness
import Stencil.Proofs.HeadTags
import Stencil.Proofs.Inheritance
import Stencil.Proofs.Insertion
import Stencil.Proofs.InsertionHistory
import Stencil.Proofs.InspectedViews
import Stencil.Proofs.Inspection
import Stencil.Proofs.Ledgers
import Stencil.Proofs.LineTokens
import Stencil.Proofs.Lines
import Stencil.Proofs.LintReports
import Stencil.Proofs.LiteralText
import Stencil.Proofs.LogicalLines
import Stencil.Proofs.Lookup
import Stencil.Proofs.MaskedErrors
import Stencil.Proofs.NameLayers
import Stencil.Proofs.NamedValues
import Stencil.Proofs.NestedFailures
import Stencil.Proofs.OrderedUnions
import Stencil.Proofs.Outcome
import Stencil.Proofs.Parsing
import Stencil.Proofs.Pending
import Stencil.Proofs.PhysicalLines
import Stencil.Proofs.QuotedText
import Stencil.Proofs.Reaching
import Stencil.Proofs.RegistrationRuns
import Stencil.Proofs.Registrations
import Stencil.Proofs.Registries
import Stencil.Proofs.RegistryChanges
import Stencil.Proofs.RenderSteps
import Stencil.Proofs.RenderTraces
import Stencil.Proofs.Resolution
import Stencil.Proofs.RoundingIntervals
import Stencil.Proofs.Rules
import Stencil.Proofs.Rules.Attributes
import Stencil.Proofs.Rules.Containers
import Stencil.Proofs.Rules.Scripts
import Stencil.Proofs.Rules.Templates
import Stencil.Proofs.Rules.Values
import Stencil.Proofs.ScriptLines
import Stencil.Proofs.SegmentLines
import Stencil.Proofs.Segments
import Stencil.Proofs.Sequences
import Stencil.Proofs.SettingFiles
import Stencil.Proofs.SettingLayers
import Stencil.Proofs.SettingVariables
import Stencil.Proofs.Snapshots
import Stencil.Proofs.StageCourses
import Stencil.Proofs.StageProtocol
import Stencil.Proofs.StatementRoles
import Stencil.Proofs.TableKeys
import Stencil.Proofs.TagReading
import Stencil.Proofs.Takings
import Stencil.Proofs.TokenPieces
import Stencil.Proofs.Tokens
import Stencil.Proofs.TwinNames
import Stencil.Proofs.TwinRenders
import Stencil.Proofs.TwinTexts
import Stencil.Proofs.Twins
import Stencil.Proofs.Undisturbed
import Stencil.Proofs.ViewAssets
import Stencil.Proofs.ViewTree
import Stencil.Proofs.WritingLines
import Stencil.Rendering.Bundle
import Stencil.Rendering.Deferred
import Stencil.Rendering.Fragment
import Stencil.Rendering.Loading
import Stencil.Rendering.Run
import Stencil.Script.Expression
import Stencil.Script.Lexer
import Stencil.Script.Literal
import Stencil.Script.Patterns
import Stencil.Script.Reading
import Stencil.Script.Scope
import Stencil.Script.Statement
import Stencil.Script.Syntax
import Stencil.Script.Token
import Stencil.Script.Traversal
import Stencil.Script.Validity
import Stencil.Settings.Kind
import Stencil.Settings.Schema
import Stencil.Settings.Sources
import Stencil.Settings.Variables
import Stencil.Signature
import Stencil.Template
import Stencil.Text.Boundaries
import Stencil.Text.Casing
import Stencil.Text.Lines
import Stencil.Text.Name
import Stencil.Text.Printable
import Stencil.Text.Quoted
import Stencil.Text.Search
import Stencil.Text.Word
import Stencil.Value
import Stencil.View.Config
import Stencil.View.Naming
import Stencil.View.Rendering
import Stencil.World
import Stencil.Yaml
import Stencil.Yaml.Scalar
