import Swatch.Binary64.Basic
import Swatch.Binary64.Shortest
import Swatch.Calendar
import Swatch.CommandLine.Help
import Swatch.CommandLine.Option
import Swatch.CommandLine.Outcome
import Swatch.CommandLine.Report
import Swatch.CommandLine.Request
import Swatch.CommandLine.Run
import Swatch.CommandLine.Word
import Swatch.Description
import Swatch.Document.Display
import Swatch.Document.Merge
import Swatch.Document.Value
import Swatch.Editor.Highlight
import Swatch.Editor.Keyboard
import Swatch.Editor.Line
import Swatch.Editor.Session
import Swatch.Editor.Style
import Swatch.FormatError
import Swatch.Formatter
import Swatch.Main
import Swatch.Numeral
import Swatch.Padding
import Swatch.Preset
import Swatch.Proofs.EditorAgreement
import Swatch.Proofs.NumeralDigits
import Swatch.Proofs.TemplateBreakdown
import Swatch.Proofs.TemplateGrammar
import Swatch.Proofs.TemplatePrinting
import Swatch.Proofs.TemplateReading
import Swatch.Sample.Basic
import Swatch.Sample.Channel
import Swatch.Sample.Compaction
import Swatch.Sample.Reading
import Swatch.Settings.Assigned
import Swatch.Settings.Basic
import Swatch.Settings.Builtin
import Swatch.Settings.Check
import Swatch.Settings.Loading
import Swatch.Settings.Problem
import Swatch.Template.Basic
import Swatch.Template.Element
import Swatch.Template.Reading
import Swatch.Text.Base64
import Swatch.Text.Basic
import Swatch.Text.Blank
import Swatch.Text.Digit
import Swatch.Text.Lowercase
import Swatch.Text.Printable
import Swatch.Text.Quoted
import Swatch.Text.Surrogate
import Swatch.Workspace
import Swatch.Yaml.Cell
import Swatch.Yaml.Composition
import Swatch.Yaml.Contents
import Swatch.Yaml.Document
import Swatch.Yaml.Fault
import Swatch.Yaml.Merge
import Swatch.Yaml.Node
import Swatch.Yaml.Property
import Swatch.Yaml.Resolution
import Swatch.Yaml.ScalarText
import Swatch.Yaml.ScalarValue
import Swatch.Yaml.Token
import Swatch.Yaml.Tokens
import Swatch.Proofs.TemplateConcatenation
import Swatch.Proofs.EditorSession
import Swatch.Proofs.SettingsCheck
import Swatch.Proofs.SettingsUse
import Swatch.Proofs.SettingsDefaults
import Swatch.Proofs.TextCutting
import Swatch.Proofs.HexNumber
import Swatch.Proofs.SampleSpelling
import Swatch.Proofs.SampleExactness
import Swatch.Proofs.HexPresets
import Swatch.Proofs.CursorReading
import Swatch.Proofs.InputLines
import Swatch.Proofs.RepeatedReading
import Swatch.Proofs.ColorOutput
import Swatch.Proofs.RequestReading
import Swatch.Proofs.FormatterChoice
import Swatch.Proofs.RunEnding
import Swatch.Proofs.SettingsLoading
import Swatch.Proofs.SpanHighlighting
import Swatch.Proofs.SampleFailures
import Swatch.Proofs.MergePaths
import Swatch.Proofs.MergeLaws
import Swatch.Proofs.SettingsAcceptance
import Swatch.Proofs.SpanTiling
import Swatch.Proofs.TemplateEscaping
import Swatch.Proofs.RenderedLength
import Swatch.Proofs.PresetTemplates
import Swatch.Proofs.PaddedTriples
import Swatch.Proofs.PackedColors
import Swatch.Proofs.HighlightedLines
import Swatch.Proofs.ChannelInfluence
import Swatch.Proofs.IntegerNumerals
import Swatch.Proofs.PaddingLaws
import Swatch.Proofs.CompactableColors
