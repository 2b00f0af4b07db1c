import FieldRules.Configuration.Log
import FieldRules.Main
import FieldRules.Proofs.Engine.Rows
import FieldRules.Proofs.Engine.Sequence
import FieldRules.Proofs.Engine.Untouched
import FieldRules.Proofs.Flat.Gaps
import FieldRules.Proofs.Json.Decode
import FieldRules.Proofs.Schema.Canonical
import FieldRules.Proofs.Dialect.Rule
import FieldRules.Proofs.Dialect.Canonical
import FieldRules.Proofs.Dialect.Write
import FieldRules.Proofs.Engine.Messages
import FieldRules.Proofs.Engine.Relevance
import FieldRules.Proofs.Report.Merge
import FieldRules.Proofs.Engine.MemberOrder
import FieldRules.Proofs.Command.Job
import FieldRules.Proofs.Command.Validate
import FieldRules.Proofs.Flat.Captures
import FieldRules.Proofs.Validator.Like
import FieldRules.Proofs.Flat.Culprit
import FieldRules.Proofs.Report.Row
import FieldRules.Proofs.Report.Template
import FieldRules.Proofs.Engine.Setup
import FieldRules.Proofs.Engine.Markers
import FieldRules.Proofs.Engine.Refusal
import FieldRules.Proofs.Command.Flat
import FieldRules.Proofs.Report.Document
import FieldRules.Proofs.Json.SameValue
import FieldRules.Proofs.Command.HumanReport
import FieldRules.Proofs.Text.Idempotence
import FieldRules.Proofs.Engine.Again
import FieldRules.Proofs.Flat.Position
import FieldRules.Proofs.Flat.Expression
