import GridQuery.Calendar.Offset
import GridQuery.Declaration.Structure
import GridQuery.Field.Encoding
import GridQuery.Http.QueryString
import GridQuery.Http.Reply
import GridQuery.Json.Reader
import GridQuery.Json.Writer
import GridQuery.Pipeline.Run
import GridQuery.Request.Encoding
import GridQuery.Request.OptionsEncoding
import GridQuery.Source.Journal
import GridQuery.Source.Memory
import GridQuery.Source.Recording
import GridQuery.Sql.Answer
import GridQuery.Proofs.Pipeline.Refinement
import GridQuery.Proofs.Filter.Day
import GridQuery.Proofs.Filter.Numeric
import GridQuery.Proofs.Filter.Text
import GridQuery.Proofs.Filter.Select
import GridQuery.Proofs.Predicate
import GridQuery.Proofs.Request.RoundTrip
import GridQuery.Proofs.Search
import GridQuery.Proofs.Request.Arrangement
import GridQuery.Proofs.Pipeline.Cancellation
import GridQuery.Proofs.Pipeline.Memory
import GridQuery.Proofs.Filter.Range
import GridQuery.Proofs.Pipeline.Range
import GridQuery.Proofs.Request.OpenRange
import GridQuery.Proofs.Pipeline.Refusal
import GridQuery.Proofs.Request.Value
import GridQuery.Proofs.Request.Listing
import GridQuery.Proofs.Filter.Comparison
import GridQuery.Proofs.Field.Lookup
import GridQuery.Proofs.Source.Memory
import GridQuery.Proofs.Field.OwnName
import GridQuery.Proofs.Declaration.ValueType
import GridQuery.Proofs.Filter.Variant
import GridQuery.Proofs.Number.Numeral
import GridQuery.Proofs.Request.Numeral
import GridQuery.Proofs.Calendar.Characters
import GridQuery.Proofs.Request.Dates
import GridQuery.Proofs.Calendar.Written
import GridQuery.Proofs.Uuid
import GridQuery.Proofs.Filter.Shown
import GridQuery.Proofs.Source.Counting
import GridQuery.Proofs.Declaration.Structure
import GridQuery.Proofs.Consistency
