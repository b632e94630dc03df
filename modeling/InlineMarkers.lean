import InlineMarkers.Calendar.Date
import InlineMarkers.Calendar.Month
import InlineMarkers.Calendar.PartialDate
import InlineMarkers.Completion.Cache
import InlineMarkers.Completion.Candidate
import InlineMarkers.Completion.Context
import InlineMarkers.Completion.Days
import InlineMarkers.Completion.Ranking
import InlineMarkers.Completion.Source
import InlineMarkers.Diagnostic.Basic
import InlineMarkers.Diagnostic.Code
import InlineMarkers.Diagnostic.Entry
import InlineMarkers.Diagnostic.Severity
import InlineMarkers.Editor.CompletionList
import InlineMarkers.Editor.Controller
import InlineMarkers.Editor.Decoration
import InlineMarkers.Editor.Document
import InlineMarkers.Editor.QuickFix
import InlineMarkers.Editor.Repair
import InlineMarkers.Editor.Tooltip
import InlineMarkers.Editor.Window
import InlineMarkers.Json.Reader
import InlineMarkers.Json.Writer
import InlineMarkers.Logging
import InlineMarkers.Main
import InlineMarkers.Marker.Basic
import InlineMarkers.Marker.Kind
import InlineMarkers.Marker.Lexeme
import InlineMarkers.Marker.ScanValue
import InlineMarkers.Marker.Scanner
import InlineMarkers.Marker.Vocabulary
import InlineMarkers.Proofs.Calendar.Digits
import InlineMarkers.Proofs.Calendar.Gregorian
import InlineMarkers.Proofs.Calendar.IsoText
import InlineMarkers.Proofs.Calendar.NextDay
import InlineMarkers.Proofs.Completion.CacheHistory
import InlineMarkers.Proofs.Completion.ContextWindow
import InlineMarkers.Proofs.Completion.DateUnderCursor
import InlineMarkers.Proofs.Completion.ItemOrder
import InlineMarkers.Proofs.Completion.Matching
import InlineMarkers.Proofs.Completion.MonthDays
import InlineMarkers.Proofs.Completion.OfferedValues
import InlineMarkers.Proofs.Completion.ReplacedText
import InlineMarkers.Proofs.Completion.StableOrder
import InlineMarkers.Proofs.Completion.Transparency
import InlineMarkers.Proofs.Completion.TypedDay
import InlineMarkers.Proofs.Diagnostic.Reports
import InlineMarkers.Proofs.Editor.AppliedFix
import InlineMarkers.Proofs.Editor.CurrentDiagnostics
import InlineMarkers.Proofs.Editor.DocumentEdits
import InlineMarkers.Proofs.Editor.DrawnRanges
import InlineMarkers.Proofs.Editor.RememberedResult
import InlineMarkers.Proofs.Editor.ShownLists
import InlineMarkers.Proofs.Editor.ShownTooltip
import InlineMarkers.Proofs.Editor.TooltipTimer
import InlineMarkers.Proofs.Editor.WindowRuns
import InlineMarkers.Proofs.Json.NumberReading
import InlineMarkers.Proofs.Json.ReadValues
import InlineMarkers.Proofs.Json.RoundTrip
import InlineMarkers.Proofs.Json.ScalarReading
import InlineMarkers.Proofs.Json.TextReading
import InlineMarkers.Proofs.Marker.LexemeReading
import InlineMarkers.Proofs.Marker.ScanCuts
import InlineMarkers.Proofs.Marker.ScanRefinement
import InlineMarkers.Proofs.Marker.ScanSpans
import InlineMarkers.Proofs.Marker.ScanSteps
import InlineMarkers.Proofs.Marker.Splice
import InlineMarkers.Proofs.Marker.Tokenizer
import InlineMarkers.Proofs.Marker.ValueChange
import InlineMarkers.Proofs.Marker.Walk
import InlineMarkers.Proofs.Order.StableSorting
import InlineMarkers.Proofs.Settings.Bounds
import InlineMarkers.Proofs.Settings.Defaults
import InlineMarkers.Proofs.Settings.MergedPaths
import InlineMarkers.Proofs.Settings.NormalSettings
import InlineMarkers.Proofs.Settings.SavedSettings
import InlineMarkers.Proofs.Settings.SessionRuns
import InlineMarkers.Proofs.Text.Ascii
import InlineMarkers.Proofs.Text.Runs
import InlineMarkers.Proofs.Text.SearchPlaces
import InlineMarkers.Proofs.Text.Separated
import InlineMarkers.Proofs.Text.Slices
import InlineMarkers.Proofs.Text.Trim
import InlineMarkers.Proofs.Text.UnitOffsets
import InlineMarkers.Proofs.Text.UnitPositions
import InlineMarkers.Proofs.Validation.AssigneeCheck
import InlineMarkers.Proofs.Validation.CoherentFixes
import InlineMarkers.Proofs.Validation.ColorCheck
import InlineMarkers.Proofs.Validation.DateCheck
import InlineMarkers.Proofs.Validation.DateFix
import InlineMarkers.Proofs.Validation.DateForms
import InlineMarkers.Proofs.Validation.DateLanguage
import InlineMarkers.Proofs.Validation.DateRepair
import InlineMarkers.Proofs.Validation.FailureIsolation
import InlineMarkers.Proofs.Validation.IncompleteRules
import InlineMarkers.Proofs.Validation.LocalFix
import InlineMarkers.Proofs.Validation.MarkerCheck
import InlineMarkers.Proofs.Validation.NamedDates
import InlineMarkers.Proofs.Validation.NotePasses
import InlineMarkers.Proofs.Validation.OfferedDates
import InlineMarkers.Proofs.Validation.OpenMarkers
import InlineMarkers.Proofs.Validation.Placement
import InlineMarkers.Proofs.Validation.PriorityCheck
import InlineMarkers.Proofs.Validation.RoundTrip
import InlineMarkers.Proofs.Validation.Settled
import InlineMarkers.Proofs.Validation.SuggestedMarkers
import InlineMarkers.Proofs.Validation.SuggestedWords
import InlineMarkers.Proofs.Validation.SuggestionPass
import InlineMarkers.Proofs.Validation.TagCheck
import InlineMarkers.Proofs.Validation.TypedDate
import InlineMarkers.Proofs.Validation.UnknownDates
import InlineMarkers.Proofs.Validation.WholeWords
import InlineMarkers.Proofs.Value.MemberOrder
import InlineMarkers.Proofs.Value.Rounding
import InlineMarkers.Proofs.Value.ShortestDecimal
import InlineMarkers.Settings.MarkerConfig
import InlineMarkers.Settings.Merge
import InlineMarkers.Settings.Path
import InlineMarkers.Settings.Session
import InlineMarkers.Settings.Store
import InlineMarkers.Startup
import InlineMarkers.Text.Blank
import InlineMarkers.Text.CodePointRanges
import InlineMarkers.Text.DecimalDigit
import InlineMarkers.Text.Fields
import InlineMarkers.Text.LowerCase
import InlineMarkers.Text.Printable
import InlineMarkers.Text.Search
import InlineMarkers.Text.Units
import InlineMarkers.Text.WordCharacter
import InlineMarkers.Validation.AnyValue
import InlineMarkers.Validation.Assignee
import InlineMarkers.Validation.Color
import InlineMarkers.Validation.Date
import InlineMarkers.Validation.DateForm
import InlineMarkers.Validation.Incomplete
import InlineMarkers.Validation.Note
import InlineMarkers.Validation.Priority
import InlineMarkers.Validation.Suggestions
import InlineMarkers.Validation.Tag
import InlineMarkers.Value.Basic
import InlineMarkers.Value.Binary64
import InlineMarkers.Value.Decimal
import InlineMarkers.Value.Display
import InlineMarkers.Value.Equality
import InlineMarkers.Value.Numeral
import InlineMarkers.Proofs.Editor.OwnDiagnostics
