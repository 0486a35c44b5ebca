import Outlay.Calendar.Pattern
import Outlay.Command.Run
import Outlay.Config
import Outlay.Decimal.Layout
import Outlay.Export.File
import Outlay.Form.Prefilter
import Outlay.Form.Spending
import Outlay.Form.Token
import Outlay.Form.Transaction
import Outlay.Main
import Outlay.Proofs.Command.Settings
import Outlay.Proofs.Export.Agreement
import Outlay.Proofs.Export.AmountGrammar
import Outlay.Proofs.Export.Arrangement
import Outlay.Proofs.Export.Fate
import Outlay.Proofs.Export.Moment
import Outlay.Proofs.Export.Reimport
import Outlay.Proofs.Form.Decoding
import Outlay.Proofs.Prefilter
import Outlay.Proofs.Query.Case
import Outlay.Proofs.Query.Grammar
import Outlay.Proofs.Query.Join
import Outlay.Proofs.Query.Narrowing
import Outlay.Proofs.Query.Needle
import Outlay.Proofs.Query.Operators
import Outlay.Proofs.Query.Overlap
import Outlay.Proofs.Query.Pieces
import Outlay.Proofs.Query.Respelling
import Outlay.Proofs.Query.Spelling
import Outlay.Proofs.Spending.BudgetStatus
import Outlay.Proofs.Spending.Comparison
import Outlay.Proofs.Spending.Days
import Outlay.Proofs.Spending.Locality
import Outlay.Proofs.Spending.Minus
import Outlay.Proofs.Spending.Monthly
import Outlay.Proofs.Text.Lowercase
import Outlay.Query
import Outlay.Report
import Outlay.Spending.Budget
import Outlay.Spending.Comparison
import Outlay.Spending.Summary
import Outlay.Toml.Document
