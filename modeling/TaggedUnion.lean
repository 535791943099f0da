import TaggedUnion.Batch
import TaggedUnion.Code.Anatomy
import TaggedUnion.Code.Conversions
import TaggedUnion.Code.Draft
import TaggedUnion.Code.Frame
import TaggedUnion.Code.Function
import TaggedUnion.Code.Requalify
import TaggedUnion.Code.Value
import TaggedUnion.CommandLine.Colour
import TaggedUnion.CommandLine.Command
import TaggedUnion.CommandLine.Disk
import TaggedUnion.CommandLine.Flags
import TaggedUnion.CommandLine.Listing
import TaggedUnion.Constant.Binary
import TaggedUnion.Constant.Fit
import TaggedUnion.Constant.Literal
import TaggedUnion.Constant.Number
import TaggedUnion.Constant.Value
import TaggedUnion.Decimal.Shortest
import TaggedUnion.Diagnostic
import TaggedUnion.Example.Shapes
import TaggedUnion.Layout.BuildLine
import TaggedUnion.Layout.Columns
import TaggedUnion.Layout.Expr
import TaggedUnion.Layout.Laid
import TaggedUnion.Layout.Pen
import TaggedUnion.Layout.Prose
import TaggedUnion.Layout.Remark
import TaggedUnion.Layout.Source
import TaggedUnion.Layout.Statement
import TaggedUnion.Lint.Analysis
import TaggedUnion.Lint.Plugin
import TaggedUnion.Main
import TaggedUnion.Mismatch
import TaggedUnion.Name.Candidate
import TaggedUnion.Name.Identifier
import TaggedUnion.Name.Reserved
import TaggedUnion.Program.Annotate
import TaggedUnion.Program.Assign
import TaggedUnion.Program.Bind
import TaggedUnion.Program.Check
import TaggedUnion.Program.Declare
import TaggedUnion.Program.Describe
import TaggedUnion.Program.Evaluate
import TaggedUnion.Program.Fit
import TaggedUnion.Program.Infer
import TaggedUnion.Program.Instance
import TaggedUnion.Program.Load
import TaggedUnion.Program.Object
import TaggedUnion.Program.Operand
import TaggedUnion.Program.Operation
import TaggedUnion.Program.Receiver
import TaggedUnion.Program.Site
import TaggedUnion.Program.Size
import TaggedUnion.Program.TopLevel
import TaggedUnion.Proofs.Batch.Files
import TaggedUnion.Proofs.Batch.Independence
import TaggedUnion.Proofs.Batch.Outcome
import TaggedUnion.Proofs.Batch.Results
import TaggedUnion.Proofs.Batch.Twin
import TaggedUnion.Proofs.Code.Capture
import TaggedUnion.Proofs.Code.Consistency
import TaggedUnion.Proofs.Code.Generation
import TaggedUnion.Proofs.Code.Generics
import TaggedUnion.Proofs.Code.ImportTable
import TaggedUnion.Proofs.Code.Leads
import TaggedUnion.Proofs.Code.Lockstep
import TaggedUnion.Proofs.Code.Meaning
import TaggedUnion.Proofs.Code.Nameable
import TaggedUnion.Proofs.Code.Names
import TaggedUnion.Proofs.Code.Pair
import TaggedUnion.Proofs.Code.Qualifiers
import TaggedUnion.Proofs.Code.Reading
import TaggedUnion.Proofs.Code.Reference
import TaggedUnion.Proofs.Code.References
import TaggedUnion.Proofs.Code.Referents
import TaggedUnion.Proofs.Code.Regenerated
import TaggedUnion.Proofs.Code.Repeated
import TaggedUnion.Proofs.Code.Requalified
import TaggedUnion.Proofs.Code.Rewritten
import TaggedUnion.Proofs.Code.Run
import TaggedUnion.Proofs.Code.Search
import TaggedUnion.Proofs.Code.Sections
import TaggedUnion.Proofs.Code.Spelled
import TaggedUnion.Proofs.Code.Usage
import TaggedUnion.Proofs.CommandLine.Colour
import TaggedUnion.Proofs.Lint.Agreement
import TaggedUnion.Proofs.Mismatch.Recovery
import TaggedUnion.Proofs.Name.Candidate
import TaggedUnion.Proofs.Name.Identifier
import TaggedUnion.Proofs.Name.Reserved
import TaggedUnion.Proofs.Program.Annotation
import TaggedUnion.Proofs.Program.Asking
import TaggedUnion.Proofs.Program.Characters
import TaggedUnion.Proofs.Program.Declared
import TaggedUnion.Proofs.Program.Ensures
import TaggedUnion.Proofs.Program.Evaluation
import TaggedUnion.Proofs.Program.Fields
import TaggedUnion.Proofs.Program.Keeping
import TaggedUnion.Proofs.Program.Meanings
import TaggedUnion.Proofs.Program.Reading
import TaggedUnion.Proofs.Program.TopLevel
import TaggedUnion.Proofs.Report.Findings
import TaggedUnion.Proofs.Report.Leaves
import TaggedUnion.Proofs.Report.Order
import TaggedUnion.Proofs.Session.Calls
import TaggedUnion.Proofs.Session.Output
import TaggedUnion.Proofs.Session.Repetition
import TaggedUnion.Proofs.Source.Comments
import TaggedUnion.Proofs.Source.Tokens
import TaggedUnion.Proofs.Syntax.Consumption
import TaggedUnion.Proofs.Syntax.Equality
import TaggedUnion.Proofs.Syntax.Occurrences
import TaggedUnion.Proofs.Syntax.Places
import TaggedUnion.Proofs.Syntax.Sequence
import TaggedUnion.Proofs.Text.Casing
import TaggedUnion.Proofs.Text.CodePoints
import TaggedUnion.Proofs.Text.Diverge
import TaggedUnion.Proofs.Text.Quoting
import TaggedUnion.Proofs.Text.Replacement
import TaggedUnion.Proofs.Tree.Preorder
import TaggedUnion.Proofs.Types.Code
import TaggedUnion.Proofs.Types.Equality
import TaggedUnion.Proofs.Types.Identity
import TaggedUnion.Proofs.Types.Index
import TaggedUnion.Proofs.Types.Methods
import TaggedUnion.Proofs.Types.Outline
import TaggedUnion.Proofs.Types.Spelling
import TaggedUnion.Proofs.Union.Acceptance
import TaggedUnion.Proofs.Union.Check
import TaggedUnion.Proofs.Union.Classification
import TaggedUnion.Proofs.Union.Directive
import TaggedUnion.Proofs.Union.Generated
import TaggedUnion.Proofs.Union.Order
import TaggedUnion.Proofs.Union.Origin
import TaggedUnion.Proofs.Union.Positions
import TaggedUnion.Proofs.Union.Regenerated
import TaggedUnion.Proofs.Union.Tagged
import TaggedUnion.Proofs.Union.Validation
import TaggedUnion.Report
import TaggedUnion.Session
import TaggedUnion.Source.Comment
import TaggedUnion.Source.Lexeme
import TaggedUnion.Source.Position
import TaggedUnion.Source.Token
import TaggedUnion.Syntax.CodeUnit
import TaggedUnion.Syntax.Cursor
import TaggedUnion.Syntax.Equality
import TaggedUnion.Syntax.Expr
import TaggedUnion.Syntax.File
import TaggedUnion.Syntax.Grammar
import TaggedUnion.Syntax.Parser
import TaggedUnion.Text.Bytes
import TaggedUnion.Text.Casing
import TaggedUnion.Text.Datum
import TaggedUnion.Text.Letter
import TaggedUnion.Text.Path
import TaggedUnion.Text.Printable
import TaggedUnion.Text.Quoted
import TaggedUnion.Text.Space
import TaggedUnion.Text.Template
import TaggedUnion.Text.Title
import TaggedUnion.Text.Verb
import TaggedUnion.Types.Basics
import TaggedUnion.Types.Classify
import TaggedUnion.Types.Code
import TaggedUnion.Types.Constraint
import TaggedUnion.Types.Identity
import TaggedUnion.Types.Index
import TaggedUnion.Types.MethodSet
import TaggedUnion.Types.Predeclared
import TaggedUnion.Types.Recursion
import TaggedUnion.Types.Sound
import TaggedUnion.Types.Terms
import TaggedUnion.Types.Text
import TaggedUnion.Types.Type
import TaggedUnion.Union.Build
import TaggedUnion.Union.Conversion
import TaggedUnion.Union.Directive
import TaggedUnion.Union.Fault
import TaggedUnion.Union.Subject
import TaggedUnion.Union.Union
import TaggedUnion.Union.Variant
