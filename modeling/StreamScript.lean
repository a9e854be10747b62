import StreamScript.CommandLine
import StreamScript.Expr.Arith
import StreamScript.Expr.Builtin
import StreamScript.Expr.Eval
import StreamScript.Expr.Lexer
import StreamScript.Expr.Phrase
import StreamScript.Expr.Token
import StreamScript.Expr.Tree
import StreamScript.Expr.Value
import StreamScript.Main
import StreamScript.Manager
import StreamScript.Number.Binary64
import StreamScript.Number.Integer
import StreamScript.Number.Real
import StreamScript.Number.Shortest
import StreamScript.Pattern.Basic
import StreamScript.Pattern.Cache
import StreamScript.Pattern.LiteralSet
import StreamScript.Program.Basic
import StreamScript.Program.Disk
import StreamScript.Program.Load
import StreamScript.Program.Source
import StreamScript.Proofs.Blocks.BraceStyle
import StreamScript.Proofs.Blocks.Conditionals
import StreamScript.Proofs.Blocks.Following
import StreamScript.Proofs.Blocks.JoinedLines
import StreamScript.Proofs.Blocks.Layout
import StreamScript.Proofs.Blocks.Lines
import StreamScript.Proofs.Blocks.Meaning
import StreamScript.Proofs.Blocks.Moves
import StreamScript.Proofs.Blocks.Passing
import StreamScript.Proofs.Course
import StreamScript.Proofs.Events.Calls
import StreamScript.Proofs.Events.Heeding
import StreamScript.Proofs.Events.Orders
import StreamScript.Proofs.Events.Suspension
import StreamScript.Proofs.Events.Waking
import StreamScript.Proofs.Jumping
import StreamScript.Proofs.LoopBound
import StreamScript.Proofs.NestedIndices
import StreamScript.Proofs.Runs
import StreamScript.Proofs.Standing
import StreamScript.Regex.Bracket
import StreamScript.Regex.Escape
import StreamScript.Regex.Flags
import StreamScript.Regex.Match
import StreamScript.Regex.Node
import StreamScript.Regex.Program
import StreamScript.Regex.Property
import StreamScript.Regex.Reader
import StreamScript.Regex.Size
import StreamScript.Script.Action
import StreamScript.Script.Env
import StreamScript.Script.Execute
import StreamScript.Script.Guard
import StreamScript.Script.Jump
import StreamScript.Script.Run
import StreamScript.Script.Scopes
import StreamScript.Script.State
import StreamScript.Script.Walk
import StreamScript.Settings.VariablesFile
import StreamScript.Statement.Basic
import StreamScript.Statement.Reader
import StreamScript.Text.Age
import StreamScript.Text.CaseTable
import StreamScript.Text.Category
import StreamScript.Text.CharClass
import StreamScript.Text.CodeSet
import StreamScript.Text.Cursor
import StreamScript.Text.LetterCase
import StreamScript.Text.Property.Derived
import StreamScript.Text.Property.Listed
import StreamScript.Text.Property.Segment
import StreamScript.Text.Quoted
import StreamScript.Text.Quotes
import StreamScript.Text.Runs
import StreamScript.Text.Search
import StreamScript.Text.Trim
import StreamScript.Text.WritingSystem
import StreamScript.Vars.Bindings
import StreamScript.Vars.Clock
import StreamScript.Vars.Store
import StreamScript.Vars.Substitution
import StreamScript.Proofs.InRange
import StreamScript.Proofs.Events.Happenings
import StreamScript.Proofs.Events.Soundness
import StreamScript.Proofs.Events.Lifecycle
import StreamScript.Proofs.Events.Pausing
import StreamScript.Proofs.Events.Returning
import StreamScript.Proofs.LeadingText
import StreamScript.Proofs.Words
import StreamScript.Proofs.Events.Sending
import StreamScript.Proofs.Events.Candidates
import StreamScript.Proofs.Blocks.Abreast
import StreamScript.Proofs.Blocks.Comments
import StreamScript.Proofs.Expr.Spelling
import StreamScript.Proofs.Expr.Precedence
import StreamScript.Proofs.Expr.ConditionEnd
import StreamScript.Proofs.Expr.QuotedCalls
import StreamScript.Proofs.Expr.CallAgreement
import StreamScript.Proofs.Statement.InlineConditionals
import StreamScript.Proofs.Program.Merging
import StreamScript.Proofs.Program.RootLines
import StreamScript.Proofs.Program.SelfNesting
import StreamScript.Proofs.Vars.Mirror
import StreamScript.Proofs.Events.FirstEntry
import StreamScript.Proofs.Blocks.Skipping
import StreamScript.Proofs.LabelArguments
import StreamScript.Proofs.Expr.ValueLiterals
import StreamScript.Proofs.Numerals
import StreamScript.Proofs.Vars.Settling
import StreamScript.Proofs.Vars.IndexedItems
import StreamScript.Proofs.Vars.PlainReferences
import StreamScript.Proofs.RoundTrips
import StreamScript.Proofs.Families
import StreamScript.Proofs.Number.Nearest
import StreamScript.Proofs.Number.WholeDoubles
import StreamScript.Proofs.Expr.Comparison
import StreamScript.Proofs.Vars.Unknown
import StreamScript.Proofs.Program.Labels
import StreamScript.Proofs.LabelTargets
import StreamScript.Proofs.Expr.CountConditions
import StreamScript.Proofs.Variables
import StreamScript.Proofs.Events.Deeds
import StreamScript.Proofs.ArgumentCounts
import StreamScript.Proofs.Expr.ExactArithmetic
import StreamScript.Proofs.Vars.Numbered
import StreamScript.Proofs.Vars.QuotedArguments
import StreamScript.Proofs.Settings.VariableOrders
import StreamScript.Proofs.PatternCache
import StreamScript.Proofs.ActionCommands
import StreamScript.Proofs.Expr.ReadingEnds
