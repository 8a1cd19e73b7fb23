import PromptTemplates.Calendar.Relative
import PromptTemplates.CommandLine.Run
import PromptTemplates.Main
import PromptTemplates.Renderer
import PromptTemplates.Settings.Files
import PromptTemplates.Threshold
import PromptTemplates.Proofs.Document.ClosingLines
import PromptTemplates.Proofs.Document.LostDelimiters
import PromptTemplates.Proofs.Document.WrittenSections
import PromptTemplates.Proofs.Helper.HandlerCalls
import PromptTemplates.Proofs.Markup.Decoding
import PromptTemplates.Proofs.Rendering.HelperFaults
import PromptTemplates.Proofs.Rendering.Phases
import PromptTemplates.Proofs.Template.BlockNesting
import PromptTemplates.Proofs.Template.StoreRuns
import PromptTemplates.Proofs.Text.Readers
import PromptTemplates.Proofs.Toml.Tables
import PromptTemplates.Proofs.Journal.Outcomes
import PromptTemplates.Proofs.Settings.MergedTables
import PromptTemplates.Proofs.Settings.Layering
import PromptTemplates.Proofs.Helper.Steadiness
import PromptTemplates.Proofs.Rendering.History
import PromptTemplates.Proofs.Value.Carrying
import PromptTemplates.Proofs.Document.DocumentText
import PromptTemplates.Proofs.Template.NestedNodes
import PromptTemplates.Proofs.Template.TemplateText
import PromptTemplates.Proofs.Text.AngleBrackets
import PromptTemplates.Proofs.Helper.TameFunctions
import PromptTemplates.Proofs.Template.TameEvaluation
import PromptTemplates.Proofs.Rendering.EscapedOutput
import PromptTemplates.Proofs.Settings.DirectorySpellings
import PromptTemplates.Proofs.CommandLine.Delivery
import PromptTemplates.Proofs.Settings.StackedLayers
import PromptTemplates.Proofs.Json.Trees
import PromptTemplates.Proofs.Document.HeaderValues
import PromptTemplates.Proofs.CommandLine.JsonOutput
import PromptTemplates.Proofs.Helper.AddressReading
import PromptTemplates.Proofs.Helper.BoundNames
import PromptTemplates.Proofs.Calendar.ClockReadings
import PromptTemplates.Proofs.Helper.ConservedEntries
import PromptTemplates.Proofs.Helper.NamedOnlyParameters
import PromptTemplates.Proofs.Template.TripleBraces
import PromptTemplates.Proofs.Template.QuotedArguments
import PromptTemplates.Proofs.Text.RevertedEntities
import PromptTemplates.Proofs.Markup.FinishedMarkup
import PromptTemplates.Proofs.Markup.Conversion
import PromptTemplates.Proofs.Document.Passages
import PromptTemplates.Proofs.Calendar.ComposedStyles
import PromptTemplates.Proofs.Calendar.DayNumbers
import PromptTemplates.Proofs.Text.Octets
import PromptTemplates.Proofs.Calendar.WrittenMoments
import PromptTemplates.Proofs.Calendar.Spellings
import PromptTemplates.Proofs.Calendar.DateTexts
import PromptTemplates.Proofs.Settings.Misfits
import PromptTemplates.Proofs.Text.EntityCuts
import PromptTemplates.Proofs.Calendar.LargestUnits
