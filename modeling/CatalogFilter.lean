import CatalogFilter.Main
import CatalogFilter.Filter.OfJson
import CatalogFilter.Proofs.Grammar
import CatalogFilter.Proofs.ReaderProgress
import CatalogFilter.Proofs.ReaderSoundness
import CatalogFilter.Proofs.ReaderCompleteness
import CatalogFilter.Proofs.Acceptance
import CatalogFilter.Proofs.Lexemes
import CatalogFilter.Proofs.Layout
import CatalogFilter.Proofs.WellFormed
import CatalogFilter.Proofs.Rendering
import CatalogFilter.Proofs.Recompilation
import CatalogFilter.Proofs.Decimals
import CatalogFilter.Proofs.Outcomes
import CatalogFilter.Proofs.Writing
import CatalogFilter.Proofs.Matching
import CatalogFilter.Proofs.Delivery
import CatalogFilter.Proofs.CacheContents
import CatalogFilter.Proofs.CacheHistory
import CatalogFilter.Proofs.SharedCache
import CatalogFilter.Proofs.Laws
import CatalogFilter.Proofs.Beginnings
import CatalogFilter.Proofs.BrokenOff
import CatalogFilter.Proofs.JsonText
import CatalogFilter.Proofs.JsonNumbers
import CatalogFilter.Proofs.JsonPieces
import CatalogFilter.Proofs.JsonLayout
import CatalogFilter.Proofs.JsonReading
import CatalogFilter.Proofs.JsonAcceptance
import CatalogFilter.Proofs.WellTyped
import CatalogFilter.Proofs.SafeSelection
import CatalogFilter.Proofs.LineBytes
import CatalogFilter.Proofs.Reselection
import CatalogFilter.Proofs.Counting
import CatalogFilter.Proofs.ShortCircuit
import CatalogFilter.Proofs.Nesting
import CatalogFilter.Proofs.Fragments
import CatalogFilter.Proofs.Reordering
import CatalogFilter.Proofs.ErrorOrigins
import CatalogFilter.Proofs.Composition
import CatalogFilter.Proofs.ClauseCompilation
import CatalogFilter.Proofs.NamedFilters
import CatalogFilter.Proofs.Chunks
import CatalogFilter.Proofs.NumberedLines
import CatalogFilter.Proofs.Atoms
import CatalogFilter.Proofs.JoinedItems
import CatalogFilter.Proofs.Widening
import CatalogFilter.Proofs.YearComparisons
import CatalogFilter.Proofs.YearConstants
import CatalogFilter.Proofs.EndOfTokens
import CatalogFilter.Proofs.NestingCounter
import CatalogFilter.Proofs.Quoting
import CatalogFilter.Proofs.Years
