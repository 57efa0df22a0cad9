import PasteRules.Settings.DefaultLinks
import PasteRules.Main
import PasteRules.Proofs.CommandLine.Arguments
import PasteRules.Proofs.CommandLine.Directory
import PasteRules.Proofs.CommandLine.Endings
import PasteRules.Proofs.CommandLine.FileEffects
import PasteRules.Proofs.CommandLine.Job
import PasteRules.Proofs.CommandLine.SettingsFile
import PasteRules.Proofs.CommandLine.Stages
import PasteRules.Proofs.CommandLine.Verbose
import PasteRules.Proofs.CommandLine.WriteBack
import PasteRules.Proofs.Identifier.Counting
import PasteRules.Proofs.Json.Literal
import PasteRules.Proofs.Json.RoundTrip
import PasteRules.Proofs.Json.Same
import PasteRules.Proofs.Json.Visible
import PasteRules.Proofs.Regex.Line
import PasteRules.Proofs.Regex.Numbering
import PasteRules.Proofs.Regex.Span
import PasteRules.Proofs.Regex.Tiling
import PasteRules.Proofs.Regex.Walk
import PasteRules.Proofs.Rules.AfterEdit
import PasteRules.Proofs.Rules.AwayFrom
import PasteRules.Proofs.Rules.Diagnosis
import PasteRules.Proofs.Rules.Gather
import PasteRules.Proofs.Rules.Migrated
import PasteRules.Proofs.Rules.Replacing
import PasteRules.Proofs.Rules.Winner
import PasteRules.Proofs.Session.Action
import PasteRules.Proofs.Session.BuiltIn
import PasteRules.Proofs.Session.ByPlace
import PasteRules.Proofs.Session.Cache
import PasteRules.Proofs.Session.Debug
import PasteRules.Proofs.Session.Decision
import PasteRules.Proofs.Session.Invariant
import PasteRules.Proofs.Session.LostLink
import PasteRules.Proofs.Session.Paste
import PasteRules.Proofs.Session.Pruning
import PasteRules.Proofs.Session.Refusal
import PasteRules.Proofs.Session.Reload
import PasteRules.Proofs.Session.Run
import PasteRules.Proofs.Session.Supply
import PasteRules.Proofs.Settings.Assignment
import PasteRules.Proofs.Settings.Consistent
import PasteRules.Proofs.Settings.Entities
import PasteRules.Proofs.Settings.FixedPoint
import PasteRules.Proofs.Settings.Idempotence
import PasteRules.Proofs.Settings.LinkRecords
import PasteRules.Proofs.Settings.Migration
import PasteRules.Proofs.Settings.Places
import PasteRules.Proofs.Settings.PresentForm
import PasteRules.Proofs.Settings.Records
import PasteRules.Proofs.Settings.Strays
import PasteRules.Proofs.Store.Cascade
import PasteRules.Proofs.Store.Editing
import PasteRules.Proofs.Store.Effect
import PasteRules.Proofs.Store.Frame
import PasteRules.Proofs.Store.Graph
import PasteRules.Proofs.Store.Keyed
import PasteRules.Proofs.Store.Lookup
import PasteRules.Proofs.Store.Move
import PasteRules.Proofs.Store.Named
import PasteRules.Proofs.Store.Outcome
import PasteRules.Proofs.Store.Reorder
import PasteRules.Proofs.Store.Revision
import PasteRules.Proofs.Store.Runs
import PasteRules.Proofs.Template.Escape
import PasteRules.Proofs.Template.Grammar
import PasteRules.Proofs.Template.Parse
import PasteRules.Proofs.Template.Placeholder
import PasteRules.Proofs.Template.References
