import SearchIndex.Value.Text
import SearchIndex.Value.Reader
import SearchIndex.Value.Record
import SearchIndex.Filter.Criteria
import SearchIndex.Text.Word
import SearchIndex.Text.LowerCase
import SearchIndex.Dialect.Compile
import SearchIndex.Filter.Meaning
import SearchIndex.KeyMap
import SearchIndex.Search.Matcher
import SearchIndex.Search.Options
import SearchIndex.Search.Engine
import SearchIndex.Store
import SearchIndex.Http.Client
import SearchIndex.Settings.Environment
import SearchIndex.Index
import SearchIndex.Proofs.FilterStructure
import SearchIndex.Proofs.FormulaReading
import SearchIndex.Proofs.CompileInversion
import SearchIndex.Proofs.OrderTests
import SearchIndex.Proofs.CompileMeaning
import SearchIndex.Proofs.CompileSentence
import SearchIndex.Proofs.DialectAgreement
import SearchIndex.Proofs.SegmentEncoding
import SearchIndex.Proofs.UrlReading
import SearchIndex.Proofs.DocumentRequests
import SearchIndex.Proofs.CompileSuccess
import SearchIndex.Proofs.TestTree
import SearchIndex.Proofs.AlgoliaShape
import SearchIndex.Proofs.Rearrangement
import SearchIndex.Proofs.NumberOrder
import SearchIndex.Proofs.SortComparison
import SearchIndex.Proofs.StableSorting
import SearchIndex.Proofs.SearchPages
import SearchIndex.Proofs.ConstantFilters
import SearchIndex.Proofs.StoreHistory
import SearchIndex.Proofs.CriteriaReading
import SearchIndex.Proofs.CriteriaResolution
import SearchIndex.Proofs.ClauseText
import SearchIndex.Proofs.FormulaText
import SearchIndex.Proofs.NumberValues
import SearchIndex.Proofs.SortedDocuments
import SearchIndex.Proofs.ServiceAnswers
import SearchIndex.Proofs.CallerFaults
import SearchIndex.Proofs.KeyedEntries
import SearchIndex.Proofs.SearchAnswers
import SearchIndex.Proofs.FacetCounts
import SearchIndex.Proofs.WrittenTrees
import SearchIndex.Proofs.TypesenseText
import SearchIndex.Proofs.TypingErrors
import SearchIndex.Proofs.DistanceTable
import SearchIndex.Proofs.MatchScores
import SearchIndex.Proofs.LiteralText
import SearchIndex.Proofs.OwnText
import SearchIndex.Proofs.StoredDocuments
import SearchIndex.Proofs.ImportLines
import SearchIndex.Proofs.PageSpellings
