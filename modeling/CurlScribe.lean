import CurlScribe.Main
import CurlScribe.Proofs.Composition
import CurlScribe.Proofs.EmittedLiterals
import CurlScribe.Proofs.Readers
import CurlScribe.Proofs.SeparateWords
import CurlScribe.Proofs.Imports
import CurlScribe.Proofs.SelfDelimiting
import CurlScribe.Proofs.DraftText
import CurlScribe.Proofs.UniqueReading
import CurlScribe.Proofs.LiteralValues
import CurlScribe.Proofs.ShellDollars
import CurlScribe.Proofs.Conformance
import CurlScribe.Proofs.OptionOrder
import CurlScribe.Proofs.ConsistentRequests
import CurlScribe.Proofs.HeaderHistory
import CurlScribe.Proofs.TypeNames
import CurlScribe.Proofs.BodyLiterals
import CurlScribe.Proofs.OwnOptions
import CurlScribe.Proofs.WholeRuns
import CurlScribe.Proofs.Spellings
import CurlScribe.Proofs.UnalteredWords
import CurlScribe.Proofs.OpenConstructs
import CurlScribe.Proofs.LineContinuations
import CurlScribe.Proofs.DataArguments
import CurlScribe.Proofs.RepeatedHeaders
import CurlScribe.Proofs.StringExpressions
import CurlScribe.Proofs.Indentation
import CurlScribe.Proofs.ObjectArrays
import CurlScribe.Proofs.EscapedDollars
import CurlScribe.Proofs.VariableNames
import CurlScribe.Proofs.ValueStubs
import CurlScribe.Proofs.StructTexts
import CurlScribe.Proofs.DistinctNames
import CurlScribe.Proofs.FieldTags
import CurlScribe.Proofs.Categories
import CurlScribe.Proofs.KeyWords
import CurlScribe.Proofs.ExportedNames
import CurlScribe.Proofs.Cursor
import CurlScribe.Proofs.CustomaryForms
import CurlScribe.Proofs.EscapeCheck
import CurlScribe.Proofs.UsableNames
import CurlScribe.Proofs.InPlace
