import CatalogSchema.SortedMap
import CatalogSchema.Text.Word
import CatalogSchema.Text.Quoted
import CatalogSchema.Number.Layout
import CatalogSchema.Json.Writer
import CatalogSchema.Json.Reader
import CatalogSchema.Conversion.Codec
import CatalogSchema.Naming.EnumMember
import CatalogSchema.Node
import CatalogSchema.Config
import CatalogSchema.Resolution.Resolve
import CatalogSchema.Schema.Scalars
import CatalogSchema.Schema.Printer
import CatalogSchema.Schema.Reachable
import CatalogSchema.Pipeline.Capabilities
import CatalogSchema.Pipeline.Scope
import CatalogSchema.Pipeline.Hook
import CatalogSchema.Catalog.Basic
import CatalogSchema.Catalog.Writing
import CatalogSchema.Catalog.Builtin
import CatalogSchema.Plugin.StandardTypes
import CatalogSchema.Plugin.Tables
import CatalogSchema.Plugin.NodeIds
import CatalogSchema.Plugin.Script
import CatalogSchema.Proofs.Resolution.Closure
import CatalogSchema.Proofs.Resolution.History
import CatalogSchema.Proofs.Resolution.Depth
import CatalogSchema.Proofs.Resolution.RangeFit
import CatalogSchema.Proofs.Resolution.Identity
import CatalogSchema.Proofs.Sql.Reading
import CatalogSchema.Proofs.Conversion.Encoding
import CatalogSchema.Proofs.Conversion.Skeleton
import CatalogSchema.Proofs.Schema.Collection
import CatalogSchema.Proofs.Number.Rounding
import CatalogSchema.Proofs.Json.Tokens
import CatalogSchema.Proofs.Number.Spelling
import CatalogSchema.Proofs.Json.RoundTrip
import CatalogSchema.Proofs.Text.Base64
import CatalogSchema.Proofs.Conversion.Numbers
import CatalogSchema.Proofs.Node.Identifiers
import CatalogSchema.Proofs.Conversion.Intervals
import CatalogSchema.Proofs.Conversion.Decoding
import CatalogSchema.Proofs.Conversion.Idempotence
import CatalogSchema.Proofs.Conversion.Sending
import CatalogSchema.Proofs.Conversion.Caching
import CatalogSchema.Proofs.Number.Overflow
import CatalogSchema.Proofs.Json.Documents
import CatalogSchema.Proofs.Conversion.Documents
import CatalogSchema.Proofs.Resolution.Overrides
import CatalogSchema.Proofs.Resolution.Domains
import CatalogSchema.Proofs.Build.TableTypes
import CatalogSchema.Proofs.Build.Standard
import CatalogSchema.Proofs.Build.Serving
import CatalogSchema.Proofs.Resolution.Failures
import CatalogSchema.Proofs.Resolution.Digits
import CatalogSchema.Proofs.Node.Rows
import CatalogSchema.Proofs.Pipeline.Extending
import CatalogSchema.Proofs.Pipeline.Registrations
import CatalogSchema.Proofs.Build.Sights
import CatalogSchema.Proofs.Build.Scopes
import CatalogSchema.Proofs.Conversion.RangeLiterals
import CatalogSchema.Proofs.Number.FreeText
import CatalogSchema.Proofs.Conversion.IntervalLiterals
import CatalogSchema.Proofs.Conversion.IntervalNotation
import CatalogSchema.Proofs.Build.Orders
import CatalogSchema.Proofs.Lockstep
import CatalogSchema.Proofs.Schema.Renumbering
import CatalogSchema.Proofs.Resolution.Renumbering
import CatalogSchema.Proofs.Build.Renumbering
import CatalogSchema.Proofs.Build.Commuting
import CatalogSchema.Proofs.Conversion.IntervalSums
import CatalogSchema.Proofs.Conversion.IsoIntervals
import CatalogSchema.Proofs.Conversion.MoneyFormats
import CatalogSchema.Proofs.Conversion.RangeObjects
import CatalogSchema.Proofs.Naming.Members
import CatalogSchema.Proofs.Naming.Symbols
import CatalogSchema.Proofs.Naming.Grammar
import CatalogSchema.Proofs.Build.Wrapping
import CatalogSchema.Proofs.Build.Recognition
import CatalogSchema.Proofs.Build.PlainErrors
import CatalogSchema.Proofs.Build.Blame
import CatalogSchema.Proofs.Resolution.Faults
import CatalogSchema.Proofs.Resolution.RowRanges
import CatalogSchema.Proofs.Schema.BlockStrings
import CatalogSchema.Proofs.Number.Decimals
import CatalogSchema.Proofs.Conversion.BigNumbers
import CatalogSchema.Proofs.Conversion.MoneyTexts
import CatalogSchema.Proofs.Conversion.IntervalMarks
import CatalogSchema.Proofs.Conversion.Points
import CatalogSchema.Proofs.Catalog.Entering
import CatalogSchema.Proofs.Resolution.Detours
