import Backtrack.Builder.Basic
import Backtrack.Builder.State
import Backtrack.CommandLine
import Backtrack.Config
import Backtrack.Engine.Match
import Backtrack.Engine.Run
import Backtrack.Engine.State
import Backtrack.Engine.Step
import Backtrack.Error
import Backtrack.FrameStack
import Backtrack.FrameStack.Indexed
import Backtrack.Grammar
import Backtrack.Input.Buffer
import Backtrack.Input.Cursor
import Backtrack.Input.Job
import Backtrack.Instruction
import Backtrack.Json.Basic
import Backtrack.Json.Tag
import Backtrack.Json.Tree
import Backtrack.Json.View
import Backtrack.Lists
import Backtrack.Main
import Backtrack.Pattern
import Backtrack.Proofs.Builder.Backfill
import Backtrack.Proofs.Builder.Bare
import Backtrack.Proofs.Builder.Change
import Backtrack.Proofs.Builder.Draft
import Backtrack.Proofs.Builder.Edits
import Backtrack.Proofs.Builder.Finished
import Backtrack.Proofs.Builder.Journals
import Backtrack.Proofs.Builder.Linearization
import Backtrack.Proofs.Builder.Mirror
import Backtrack.Proofs.Builder.Muted
import Backtrack.Proofs.Builder.OpenTags
import Backtrack.Proofs.Builder.Paired
import Backtrack.Proofs.Builder.Print
import Backtrack.Proofs.Builder.Rebase
import Backtrack.Proofs.Builder.Refusal
import Backtrack.Proofs.Builder.Reparenting
import Backtrack.Proofs.Builder.Shape
import Backtrack.Proofs.Builder.Snapshot
import Backtrack.Proofs.Builder.Twin
import Backtrack.Proofs.Builder.Undo
import Backtrack.Proofs.CommandLine
import Backtrack.Proofs.Engine.Accord
import Backtrack.Proofs.Engine.Agreement
import Backtrack.Proofs.Engine.Annotation
import Backtrack.Proofs.Engine.Course
import Backtrack.Proofs.Engine.Deeper
import Backtrack.Proofs.Engine.Failure
import Backtrack.Proofs.Engine.Fault
import Backtrack.Proofs.Engine.Forward
import Backtrack.Proofs.Engine.Guard
import Backtrack.Proofs.Engine.Language
import Backtrack.Proofs.Engine.Levels
import Backtrack.Proofs.Engine.Limits
import Backtrack.Proofs.Engine.Lockstep
import Backtrack.Proofs.Engine.Lossless
import Backtrack.Proofs.Engine.Match
import Backtrack.Proofs.Engine.Observation
import Backtrack.Proofs.Engine.Paired
import Backtrack.Proofs.Engine.Reach
import Backtrack.Proofs.Engine.Rejection
import Backtrack.Proofs.Engine.Repair
import Backtrack.Proofs.Engine.Rollback
import Backtrack.Proofs.Engine.Spans
import Backtrack.Proofs.Engine.Streaming
import Backtrack.Proofs.Engine.Transition
import Backtrack.Proofs.Engine.Transparency
import Backtrack.Proofs.Engine.Twin
import Backtrack.Proofs.Engine.Written
import Backtrack.Proofs.Entries
import Backtrack.Proofs.FrameStack
import Backtrack.Proofs.FrameStack.Chronicle
import Backtrack.Proofs.FrameStack.Indexed
import Backtrack.Proofs.FrameStack.Moves
import Backtrack.Proofs.Input.Completion
import Backtrack.Proofs.Input.Content
import Backtrack.Proofs.Input.Following
import Backtrack.Proofs.Input.Forks
import Backtrack.Proofs.Input.Interleaving
import Backtrack.Proofs.Input.Runs
import Backtrack.Proofs.Json.Alike
import Backtrack.Proofs.Json.Tag
import Backtrack.Proofs.Json.Tree
import Backtrack.Proofs.Json.View
import Backtrack.Proofs.Lists.Acceptance
import Backtrack.Proofs.Lists.Patterns
import Backtrack.Proofs.Lists.Pieces
import Backtrack.Proofs.Lists.Reader
import Backtrack.Proofs.Lists.Reading
import Backtrack.Proofs.Lists.Syntax
import Backtrack.Proofs.Region
import Backtrack.Proofs.Region.Nesting
import Backtrack.Proofs.Strategy.Coroutine
import Backtrack.Proofs.Strategy.Exchange
import Backtrack.Proofs.Text.Quoted
import Backtrack.Proofs.Tokenizer
import Backtrack.Proofs.Tree.Bare
import Backtrack.Proofs.Tree.Inverse
import Backtrack.Proofs.Tree.Layout
import Backtrack.Proofs.Tree.Legible
import Backtrack.Proofs.Tree.Plain
import Backtrack.Proofs.Tree.Resolve
import Backtrack.Proofs.Tree.Slots
import Backtrack.Proofs.Tree.Units
import Backtrack.Proofs.Tree.WellFormed
import Backtrack.Regex.Basic
import Backtrack.Regex.Class
import Backtrack.Regex.Escape
import Backtrack.Regex.Flags
import Backtrack.Regex.Footprint
import Backtrack.Regex.Normal
import Backtrack.Regex.Parser
import Backtrack.Regex.Program
import Backtrack.Regex.Scan
import Backtrack.Regex.Utf8
import Backtrack.Region
import Backtrack.Strategy.Basic
import Backtrack.Strategy.Coroutine
import Backtrack.Strategy.Exchange
import Backtrack.Strategy.Script
import Backtrack.Tag.Attributes
import Backtrack.Tag.Basic
import Backtrack.Tag.Terminal
import Backtrack.Text.Alphabetic
import Backtrack.Text.CaseOrbit
import Backtrack.Text.CharClass
import Backtrack.Text.CharSet
import Backtrack.Text.GraphemeExtend
import Backtrack.Text.Property
import Backtrack.Text.Property.Age
import Backtrack.Text.Property.Binary
import Backtrack.Text.Property.Break
import Backtrack.Text.Property.Category
import Backtrack.Text.Property.Definition
import Backtrack.Text.Property.Script
import Backtrack.Text.Property.Table
import Backtrack.Text.Quoted
import Backtrack.Text.Ranges
import Backtrack.Text.Unprintable
import Backtrack.Text.WordChar
import Backtrack.Tokenizer
import Backtrack.Tree.Document
import Backtrack.Tree.Node
import Backtrack.Tree.Outline
import Backtrack.Tree.Printer
