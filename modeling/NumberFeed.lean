import NumberFeed.Check
import NumberFeed.Config.Configuration
import NumberFeed.Config.Setting
import NumberFeed.Config.Shelf
import NumberFeed.Count
import NumberFeed.Exception
import NumberFeed.Failure
import NumberFeed.Input
import NumberFeed.Limits
import NumberFeed.Main
import NumberFeed.Number.Binary64
import NumberFeed.Number.FloorDivision
import NumberFeed.Number.Integer
import NumberFeed.Number.Quantity
import NumberFeed.Number.Rounded
import NumberFeed.Number.Shortest
import NumberFeed.Pipeline
import NumberFeed.Program.Arguments
import NumberFeed.Program.Counting
import NumberFeed.Program.Version
import NumberFeed.Proofs.Config.Conversion
import NumberFeed.Proofs.Config.Hashing
import NumberFeed.Proofs.Config.IntegerOption
import NumberFeed.Proofs.Config.Keys
import NumberFeed.Proofs.Config.Ordered
import NumberFeed.Proofs.Config.Rebuilt
import NumberFeed.Proofs.Config.Texts
import NumberFeed.Proofs.Config.Typed
import NumberFeed.Proofs.Input.Agreement
import NumberFeed.Proofs.Input.Applied
import NumberFeed.Proofs.Input.Builder
import NumberFeed.Proofs.Input.Configured
import NumberFeed.Proofs.Input.CountChecks
import NumberFeed.Proofs.Input.Validated
import NumberFeed.Proofs.Number.Amounts
import NumberFeed.Proofs.Number.IntegerText
import NumberFeed.Proofs.Number.Printed
import NumberFeed.Proofs.Number.Threshold
import NumberFeed.Proofs.Number.Writable
import NumberFeed.Proofs.Pipeline.CollectLimit
import NumberFeed.Proofs.Pipeline.Collecting
import NumberFeed.Proofs.Pipeline.Logging
import NumberFeed.Proofs.Program.CommandLine
import NumberFeed.Proofs.Program.Refusal
import NumberFeed.Proofs.Program.Request
import NumberFeed.Proofs.Program.Trace
import NumberFeed.Proofs.Program.Transcript
import NumberFeed.Proofs.Reading.Life
import NumberFeed.Proofs.Reading.LimitedCount
import NumberFeed.Proofs.Reading.NestedCount
import NumberFeed.Proofs.Reading.Prefix
import NumberFeed.Proofs.Reading.Private
import NumberFeed.Proofs.Reading.ProcessingTime
import NumberFeed.Proofs.Reading.RangePieces
import NumberFeed.Proofs.Reading.Run
import NumberFeed.Proofs.Reading.StampedCount
import NumberFeed.Proofs.Reading.Stamping
import NumberFeed.Proofs.Reading.Step
import NumberFeed.Proofs.Reading.Supply
import NumberFeed.Proofs.Reading.Timeless
import NumberFeed.Proofs.Reading.Unfailing
import NumberFeed.Proofs.Reading.Usage
import NumberFeed.Proofs.Template.Places
import NumberFeed.Proofs.Template.Precondition
import NumberFeed.Proofs.Text.Digits
import NumberFeed.Proofs.Time.CivilText
import NumberFeed.Proofs.Time.CivilTime
import NumberFeed.Proofs.Time.Dates
import NumberFeed.Proofs.Time.DurationSpan
import NumberFeed.Proofs.Time.DurationText
import NumberFeed.Proofs.Time.InstantArithmetic
import NumberFeed.Proofs.Time.InstantOrder
import NumberFeed.Proofs.Time.ZoneOffsets
import NumberFeed.Proofs.Value.Alike
import NumberFeed.Proofs.Value.CountDecision
import NumberFeed.Proofs.Value.Parts
import NumberFeed.Proofs.Value.Sameness
import NumberFeed.Proofs.Value.ShownNumbers
import NumberFeed.Proofs.Workspace.Configurations
import NumberFeed.Proofs.Workspace.EagerSetting
import NumberFeed.Proofs.Workspace.Frame
import NumberFeed.Proofs.Workspace.Isolation
import NumberFeed.Proofs.Workspace.LifeCycle
import NumberFeed.Proofs.Workspace.LimitCalls
import NumberFeed.Proofs.Workspace.LookUp
import NumberFeed.Proofs.Workspace.Originals
import NumberFeed.Proofs.Workspace.Progress
import NumberFeed.Proofs.Workspace.Session
import NumberFeed.Proofs.Workspace.SettingUp
import NumberFeed.Proofs.Workspace.Shelving
import NumberFeed.Proofs.Workspace.Turn
import NumberFeed.Proofs.Workspace.Views
import NumberFeed.Reader
import NumberFeed.Source
import NumberFeed.StampRule
import NumberFeed.Stamper
import NumberFeed.Surroundings
import NumberFeed.Template
import NumberFeed.Template.Directive
import NumberFeed.Template.Field
import NumberFeed.Text.Blank
import NumberFeed.Text.Digit
import NumberFeed.Text.Printable
import NumberFeed.Text.Quoted
import NumberFeed.Time.Calendar
import NumberFeed.Time.Civil
import NumberFeed.Time.Duration
import NumberFeed.Time.DurationText
import NumberFeed.Time.Instant
import NumberFeed.Time.Moment
import NumberFeed.Time.Span
import NumberFeed.Time.Zone
import NumberFeed.Time.Zone.Table
import NumberFeed.Timestamped
import NumberFeed.Value
import NumberFeed.Value.Comparison
import NumberFeed.Value.Count
import NumberFeed.Value.Entries
import NumberFeed.Value.Equality
import NumberFeed.Value.Numeric
import NumberFeed.Value.Order
import NumberFeed.Value.Text
import NumberFeed.Value.Wording
import NumberFeed.Workspace.Argument
import NumberFeed.Workspace.Basic
import NumberFeed.Workspace.Command
import NumberFeed.Workspace.Copy
import NumberFeed.Workspace.Item
import NumberFeed.Workspace.Object
import NumberFeed.Workspace.Present
