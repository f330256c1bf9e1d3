import TagAudit.Audit.Basic
import TagAudit.Check.Basic
import TagAudit.Check.Diagnostic
import TagAudit.CommandLine.Arguments
import TagAudit.CommandLine.Parse
import TagAudit.CommandLine.Run
import TagAudit.CommandLine.Validate
import TagAudit.Fault
import TagAudit.Files.OsError
import TagAudit.Files.Path
import TagAudit.Files.Tree
import TagAudit.Files.Walk
import TagAudit.Grammar.Action
import TagAudit.Grammar.Automaton
import TagAudit.Grammar.Item
import TagAudit.Grammar.Merge
import TagAudit.Grammar.Numbered
import TagAudit.Grammar.Production
import TagAudit.Grammar.Rule
import TagAudit.Grammar.Rules
import TagAudit.Grammar.TokenSet
import TagAudit.Lexical.Clash
import TagAudit.Lexical.Form
import TagAudit.Lexical.Mode
import TagAudit.Lexical.TokenMachine
import TagAudit.Main
import TagAudit.Module.Basic
import TagAudit.Module.Node
import TagAudit.Module.Outline
import TagAudit.Module.Shown
import TagAudit.Parse.Language
import TagAudit.Parse.Next
import TagAudit.Parse.Reading
import TagAudit.Parse.Recovery
import TagAudit.Parse.Stack
import TagAudit.Parse.Step
import TagAudit.Parse.Tree
import TagAudit.Pattern.Glob
import TagAudit.Pattern.Name
import TagAudit.Proofs.Agreement
import TagAudit.Proofs.ClassAddresses
import TagAudit.Proofs.ClassMembers
import TagAudit.Proofs.DefinitionNodes
import TagAudit.Proofs.EffectiveSettings
import TagAudit.Proofs.Failing
import TagAudit.Proofs.FileWrites
import TagAudit.Proofs.Findings
import TagAudit.Proofs.GlobLanguage
import TagAudit.Proofs.Independence
import TagAudit.Proofs.MarkerOrder
import TagAudit.Proofs.NameSelection
import TagAudit.Proofs.PathOrder
import TagAudit.Proofs.Positions
import TagAudit.Proofs.ReportOrder
import TagAudit.Proofs.RunEffects
import TagAudit.Proofs.ShellGlob
import TagAudit.Proofs.StableSort
import TagAudit.Proofs.Strictness
import TagAudit.Report.Basic
import TagAudit.Settings.Basic
import TagAudit.Settings.JsonFile
import TagAudit.Settings.Keys
import TagAudit.Settings.Load
import TagAudit.Settings.YamlFile
import TagAudit.Source.Cursor
import TagAudit.Source.Extent
import TagAudit.Source.Layout
import TagAudit.Source.NameChar
import TagAudit.Source.Token
import TagAudit.Tags.Resolve
import TagAudit.Tags.Tree
import TagAudit.Text.Decimal
import TagAudit.Text.Json
import TagAudit.Text.Line
import TagAudit.Text.Printable
import TagAudit.Text.Quoted
import TagAudit.Text.Ranges
import TagAudit.Yaml.Document
import TagAudit.Yaml.Event
import TagAudit.Yaml.Fault
import TagAudit.Yaml.Plain
import TagAudit.Yaml.Reader
import TagAudit.Yaml.Scalar
import TagAudit.Yaml.Tag
import TagAudit.Yaml.Token
import TagAudit.Proofs.ProperTrees
import TagAudit.Proofs.FileIsolation
import TagAudit.Proofs.JsonForms
import TagAudit.Proofs.JsonReport
import TagAudit.Proofs.CaretClass
import TagAudit.Proofs.MissingTags
import TagAudit.Proofs.WalkedFiles
import TagAudit.Proofs.LongPaths
import TagAudit.Proofs.CollectedFiles
import TagAudit.Proofs.Spellings
import TagAudit.Proofs.CollectedAgain
import TagAudit.Proofs.JsonObjects
import TagAudit.Proofs.SettingsObjects
import TagAudit.Proofs.FirstErrors
import TagAudit.Proofs.CommentedMarkers
import TagAudit.Proofs.MemberInsides
import TagAudit.Proofs.ValidRuns
import TagAudit.Proofs.StarPatterns
import TagAudit.Proofs.QuestionMarks
import TagAudit.Proofs.Templates
import TagAudit.Proofs.CommandWords
import TagAudit.Proofs.ReportLines
import TagAudit.Proofs.WrittenTrees
import TagAudit.Proofs.AddedMarkers
