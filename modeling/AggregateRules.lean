import AggregateRules.Proofs.Block.Reading
import AggregateRules.Proofs.Compilation.FirstFault
import AggregateRules.Proofs.Configuration.ReadBack
import AggregateRules.Proofs.Execution.Outcomes
import AggregateRules.Proofs.Execution.Preservation
import AggregateRules.Block.Render
import AggregateRules.Configuration.Written
import AggregateRules.Execution.Behavior
import AggregateRules.Model.Graph
import AggregateRules.Proofs.Block.Literals
import AggregateRules.Proofs.Compilation.Recovery
import AggregateRules.Proofs.Compilation.Spelling
import AggregateRules.Proofs.Compilation.Connection
import AggregateRules.Proofs.Compilation.ProducedEvents
import AggregateRules.Proofs.Compilation.CompiledText
import AggregateRules.Proofs.Script.Property
import AggregateRules.Proofs.Unicode.CaseMapping
import AggregateRules.Proofs.Label.ClassName
import AggregateRules.Proofs.Label.Splitting
import AggregateRules.Proofs.Script.Object
import AggregateRules.Proofs.Script.Text
import AggregateRules.Proofs.Json.Same
import AggregateRules.Proofs.Compilation.FieldOrder
import AggregateRules.Proofs.Configuration.MemberOrder
import AggregateRules.Proofs.Execution.Realization
import AggregateRules.Proofs.Compilation.BlockShape
import AggregateRules.Proofs.Label.AsciiWord
import AggregateRules.Proofs.Label.DerivedNames
import AggregateRules.Proofs.Model.Declarations
import AggregateRules.Proofs.Model.Services
import AggregateRules.Proofs.Compilation.Traversal
import AggregateRules.Proofs.Configuration.Defects
import AggregateRules.Proofs.Configuration.FirstDefect
import AggregateRules.Proofs.Execution.Stopping
import AggregateRules.Proofs.Block.Brackets
import AggregateRules.Proofs.Block.Layout
import AggregateRules.Proofs.Model.Kinds
import AggregateRules.Proofs.Model.BuildingOrder
import AggregateRules.Proofs.Block.Shifting
import AggregateRules.Proofs.Compilation.Composition
import AggregateRules.Proofs.Json.Numeral
import AggregateRules.Proofs.Json.ReadBack
import AggregateRules.Proofs.Record.ReadBack
