import ApiMocks.Naming
import ApiMocks.Path.Pattern
import ApiMocks.Path.Cursors
import ApiMocks.Decimal.Double
import ApiMocks.Decimal.Layout
import ApiMocks.Cli.Arguments
import ApiMocks.Cli.Command
import ApiMocks.Cli.FileTree
import ApiMocks.Cli.Inspection
import ApiMocks.Cli.Plan
import ApiMocks.Cli.Run
import ApiMocks.Main
import ApiMocks.Proofs.UrlSearch
import ApiMocks.Proofs.UrlNotation
import ApiMocks.Proofs.PathBindings
import ApiMocks.Proofs.PathWildcards
import ApiMocks.Proofs.ResponseChoice
import ApiMocks.Proofs.DialectAgreement
import ApiMocks.Proofs.FirstDeclarations
import ApiMocks.Proofs.DeclarationReading
import ApiMocks.Proofs.ModuleReadings
import ApiMocks.Proofs.FixtureUses
import ApiMocks.Proofs.QueryTolerance
import ApiMocks.Proofs.FixtureSchemas
import ApiMocks.Proofs.ResponseNames
import ApiMocks.Proofs.SuccessAnswers
import ApiMocks.Proofs.AppendedOperations
import ApiMocks.Proofs.HiddenErrors
import ApiMocks.Proofs.CapitalForms
import ApiMocks.Proofs.ExportedIdentifiers
import ApiMocks.Proofs.ExportedNames
import ApiMocks.Proofs.NameClashes
import ApiMocks.Proofs.TableViews
import ApiMocks.Proofs.AskedModules
import ApiMocks.Proofs.ReadingCosts
import ApiMocks.Proofs.RecordParts
import ApiMocks.Proofs.DocumentParts
import ApiMocks.Proofs.ParsedDocuments
import ApiMocks.Proofs.IdleInsertions
import ApiMocks.Proofs.InsertedMembers
import ApiMocks.Proofs.SchemaContents
import ApiMocks.Proofs.FilePlaces
import ApiMocks.Proofs.FileEffects
import ApiMocks.Proofs.CollectedOperations
import ApiMocks.Proofs.GlobMatches
import ApiMocks.Proofs.GlobQueries
import ApiMocks.Proofs.MadeUpIds
import ApiMocks.Proofs.IdentifierNames
import ApiMocks.Proofs.EmittedIdentifiers
import ApiMocks.Proofs.TemplateTokens
import ApiMocks.Proofs.TemplateCursors
import ApiMocks.Proofs.QueryReadings
import ApiMocks.Proofs.SegmentPlaceholders
import ApiMocks.Proofs.SlashedTemplates
import ApiMocks.Proofs.TemplateShapes
import ApiMocks.Proofs.DeclarationAccounts
import ApiMocks.Proofs.EntryAccounts
import ApiMocks.Proofs.SharedFixtures
import ApiMocks.Proofs.EscapedTexts
import ApiMocks.Proofs.RegexBodies
import ApiMocks.Proofs.LiteralTokens
import ApiMocks.Proofs.CodeReading
import ApiMocks.Proofs.ModuleLiterals
import ApiMocks.Proofs.OneLineLiterals
import ApiMocks.Proofs.ContentKeys
import ApiMocks.Proofs.StatusKeys
