import SqlBuilder.Builder
import SqlBuilder.Json.Reader
import SqlBuilder.Proofs.Select.Exchange
import SqlBuilder.Proofs.Statement.Alignment
import SqlBuilder.Proofs.Statement.Rendering
import SqlBuilder.Template.Filling
import SqlBuilder.Value.Member
import SqlBuilder.Proofs.Call.Noninterference
import SqlBuilder.Proofs.Statement.Exchange
import SqlBuilder.Proofs.Builder.Noninterference
import SqlBuilder.Proofs.Chars.Search
import SqlBuilder.Proofs.Condition.Fragment
import SqlBuilder.Proofs.Condition.Verdict
import SqlBuilder.Proofs.Call.Legibility
import SqlBuilder.Proofs.Condition.Substance
import SqlBuilder.Proofs.Builder.MassWrite
import SqlBuilder.Proofs.Builder.ClauseOrder
import SqlBuilder.Proofs.Call.Groups
import SqlBuilder.Proofs.Call.Neighbours
import SqlBuilder.Proofs.Condition.Scan
import SqlBuilder.Proofs.Condition.Passage
import SqlBuilder.Proofs.Call.Perform
import SqlBuilder.Proofs.Call.Phrasing
import SqlBuilder.Proofs.Call.Expression
import SqlBuilder.Proofs.Builder.Atomicity
import SqlBuilder.Proofs.Builder.Paging
import SqlBuilder.Proofs.Builder.Correlation
import SqlBuilder.Proofs.Builder.Program
import SqlBuilder.Proofs.Builder.Provenance
import SqlBuilder.Proofs.Builder.Renewal
import SqlBuilder.Proofs.Builder.Respelling
import SqlBuilder.Proofs.Builder.BulkRows
import SqlBuilder.Proofs.Builder.Rectangle
import SqlBuilder.Proofs.Builder.Chaining
import SqlBuilder.Proofs.Builder.Conditions
import SqlBuilder.Proofs.Log.Structured
import SqlBuilder.Proofs.Builder.Turning
