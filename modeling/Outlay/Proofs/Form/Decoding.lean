import Outlay.Form.Prefilter
import Outlay.Form.Spending
import Outlay.Form.Token
import Outlay.Form.Transaction
import Outlay.Proofs.Command.Runs
import Outlay.Proofs.Json.Fields

/-!
# Forms are decoded as what was encoded

Each value whose floats are finite is written as JSON that is read as the same value, bit by bit.
-/

namespace Outlay

open Json

namespace Query

theorem Operator.find_symbol (op : Operator) : Operator.variants.find op.symbol = .ok op := by
  apply Variants.find_ofNames (by decide +kernel)
  cases op <;> decide

/-- The members beside the tag of a filter. -/
theorem filterOfMembers_eq (field : String) (op : Operator) (value : String) :
    Token.filterOfMembers [("field", .string field), ("operator", .string op.symbol),
      ("value", .string value)] = .ok (.filter field op value) := by
  have found : Operator.ofValue (.string op.symbol) = .ok op := op.find_symbol
  simp only [Token.filterOfMembers, List.foldlM_cons, List.foldlM_nil, Token.FilterDraft.put, once,
    Token.textOf, Value.kind, Kind.readText, found]
  rfl

theorem Tag.ofJson_ofText (tag : Token.Tag) {name : String} (named : Token.Tag.variants.find name = .ok tag) :
    Token.Tag.ofJson (.ofText name) = .ok tag := by
  rw [Token.Tag.ofJson, Node.kind_ofText]
  exact named

theorem ofJson_toJson_token (t : Token) : Token.ofJson (.ofValue t.toJson) = .ok t := by
  cases t with
  | filter field op value =>
    have members : Node.ofValue (Token.toJson (.filter field op value)) = .object (.ofList [
        ("kind", .ofText "filter"), ("field", .ofText field), ("operator", .ofText op.symbol),
        ("value", .ofText value)]) := rfl
    have named : Token.Tag.variants.find "filter" = .ok .filter := rfl
    have tag := Tag.ofJson_ofText .filter named
    rw [members]
    simp only [Token.ofJson, Members.foldRead_ofList, List.foldlM_cons, List.foldlM_nil, Token.Draft.put,
      Node.value_ofText, tag, once]
    exact filterOfMembers_eq field op value
  | text value =>
    have members : Node.ofValue (Token.toJson (.text value)) = .object (.ofList [
        ("kind", .ofText "text"), ("value", .ofText value)]) := rfl
    have named : Token.Tag.variants.find "text" = .ok .text := rfl
    have tag := Tag.ofJson_ofText .text named
    rw [members]
    simp only [Token.ofJson, Members.foldRead_ofList, List.foldlM_cons, List.foldlM_nil, Token.Draft.put,
      Node.value_ofText, tag, once]
    rfl

end Query

open Calendar

theorem Transaction.ofJson_toJson {t : Transaction} (finite : t.amount.value.isFinite = true) :
    Transaction.ofJson (.ofValue t.toJson) = .ok t := by
  have members : Node.ofValue t.toJson = .object (.ofList [("id", .ofInt t.id.toInt),
      ("description", .ofText t.description), ("amount", .ofFloat t.amount.value),
      ("category", .ofText t.category),
      ("timestamp", .ofText (String.ofList t.timestamp.text))]) := rfl
  have amount := Amount.eq_ofFloat (Binary64.isNaN_eq_false_of_isFinite finite)
  rw [members]
  change Transaction.ofMembers _ = _
  rw [Transaction.ofMembers, Members.foldRead_ofList]
  simp only [List.foldlM_cons, List.foldlM_nil, Transaction.Draft.put, once, Node.int64_ofInt,
    Node.text_ofText, Node.float_ofFloat finite, Node.timestamp_ofText]
  change Except.ok { t with amount := .ofFloat t.amount.value } = _
  rw [← amount]

theorem Prefilter.ofJson_toJson {f : Prefilter} (finite : ∀ x ∈ f.least, x.isFinite = true) :
    Prefilter.ofJson (.ofValue f.toJson) = .ok f := by
  have day (value : Option Day) :
      (Node.ofValue (.orNull (.ofChars ∘ Day.text) value)).optional Node.day = .ok value :=
    Node.optional_orNull fun d _ => ⟨Node.noConfusion, Node.day_ofText d⟩
  have category : (Node.ofValue (.orNull .string f.category)).optional Node.text = .ok f.category :=
    Node.optional_orNull fun s _ => ⟨Node.noConfusion, Node.text_ofText s⟩
  have least : (Node.ofValue (.orNull .ofFloat f.least)).optional Node.float = .ok f.least :=
    Node.optional_orNull fun x there =>
      ⟨Node.ofFloat_ne_null (finite x there), Node.float_ofFloat (finite x there)⟩
  have members : Node.ofValue f.toJson = .object (.ofList [
      ("start", .ofValue (.orNull (.ofChars ∘ Day.text) f.first)),
      ("end", .ofValue (.orNull (.ofChars ∘ Day.text) f.last)),
      ("category", .ofValue (.orNull .string f.category)),
      ("min_amount", .ofValue (.orNull .ofFloat f.least))]) := rfl
  rw [members]
  change Prefilter.ofMembers _ = _
  rw [Prefilter.ofMembers, Members.foldRead_ofList]
  simp only [List.foldlM_cons, List.foldlM_nil, Prefilter.Draft.put, once, day, category, least]
  rfl

namespace Spending

theorem Row.ofJson_toJson {r : Row} (small : r.count < UInt64.size)
    (finite : r.total.value.isFinite = true) : Row.ofJson (.ofValue r.toJson) = .ok r := by
  have members : Node.ofValue r.toJson = .object (.ofList [("key", .ofText r.key),
      ("total", .ofFloat r.total.value), ("count", .ofInt r.count)]) := rfl
  have total := Amount.eq_ofFloat (Binary64.isNaN_eq_false_of_isFinite finite)
  rw [members]
  change Row.ofMembers _ = _
  rw [Row.ofMembers, Members.foldRead_ofList]
  simp only [List.foldlM_cons, List.foldlM_nil, Row.Draft.put, once, Node.text_ofText,
    Node.float_ofFloat finite, Node.count_ofInt small]
  change Except.ok { r with total := .ofFloat r.total.value } = _
  rw [← total]

/-- The days are read after the total, from the values of the other members. -/
theorem PeriodTotal.ofJson_toJson {p : PeriodTotal} (finite : p.total.isFinite = true) (room : Nat) :
    PeriodTotal.ofJson room (.ofValue p.toJson) = .ok p := by
  let members := Members.ofList [("start", .ofText (String.ofList p.period.first.text)),
    ("end", .ofText (String.ofList p.period.last.text)), ("total", .ofFloat p.total)]
  have drafted : members.foldRead (PeriodTotal.Draft.put room) {} =
      .ok { total := some p.total, others := [("end", .string (String.ofList p.period.last.text)),
        ("start", .string (String.ofList p.period.first.text))] } := by
    rw [Members.foldRead_ofList]
    simp only [List.foldlM_cons, List.foldlM_nil, PeriodTotal.Draft.put, once, Node.value_ofText,
      Node.float_ofFloat finite]
    rfl
  have period : periodOfMembers [("start", .string (String.ofList p.period.first.text)),
      ("end", .string (String.ofList p.period.last.text))] = .ok p.period := by
    simp only [periodOfMembers, List.foldlM_cons, List.foldlM_nil, PeriodDraft.put, once, Value.kind,
      Kind.readDay_text]
    rfl
  change PeriodTotal.ofJson room (.object members) = _
  rw [PeriodTotal.ofJson, drafted]
  exact congrArg (fun read : Read Period => do return PeriodTotal.mk (← read) p.total) period

theorem Verdict.ofJson_toJson (v : Verdict) : Verdict.ofJson (.ofValue v.toJson) = .ok v := by
  apply Node.variant_ofText
  apply Variants.find_ofNames (by decide +kernel)
  cases v <;> decide

theorem BudgetStatus.ofJson_toJson (s : BudgetStatus) :
    BudgetStatus.ofJson (.ofValue s.toJson) = .ok s := by
  apply Node.variant_ofText
  apply Variants.find_ofNames (by decide +kernel)
  cases s <;> decide

/-- All floats of a comparison are finite. -/
structure Comparison.IsFinite (c : Comparison) : Prop where
  current : c.current.total.isFinite = true
  previous : c.previous.total.isFinite = true
  difference : c.difference.isFinite = true
  percentChange : c.percentChange.isFinite = true

theorem Comparison.ofJson_toJson {c : Comparison} (finite : c.IsFinite) :
    Comparison.ofJson (.ofValue c.toJson) = .ok c := by
  have members : Node.ofValue c.toJson = .object (.ofList [
      ("current", .ofValue c.current.toJson), ("previous", .ofValue c.previous.toJson),
      ("difference", .ofFloat c.difference), ("percent_change", .ofFloat c.percentChange),
      ("verdict", .ofValue c.verdict.toJson)]) := rfl
  rw [members]
  change Comparison.ofMembers _ = _
  rw [Comparison.ofMembers, Members.foldRead_ofList]
  simp only [List.foldlM_cons, List.foldlM_nil, Comparison.Draft.put, once, readTotal,
    PeriodTotal.ofJson_toJson finite.current, PeriodTotal.ofJson_toJson finite.previous,
    Node.float_ofFloat finite.difference, Node.float_ofFloat finite.percentChange, Verdict.ofJson_toJson]
  rfl

structure BudgetLine.IsFinite (l : BudgetLine) : Prop where
  budget : l.budget.isFinite = true
  spent : l.spent.isFinite = true
  remaining : l.remaining.isFinite = true
  percentUsed : l.percentUsed.isFinite = true

theorem BudgetLine.ofJson_toJson {l : BudgetLine} (finite : l.IsFinite) :
    BudgetLine.ofJson (.ofValue l.toJson) = .ok l := by
  have members : Node.ofValue l.toJson = .object (.ofList [("category", .ofText l.category),
      ("budget", .ofFloat l.budget), ("spent", .ofFloat l.spent), ("remaining", .ofFloat l.remaining),
      ("percent_used", .ofFloat l.percentUsed), ("status", .ofValue l.status.toJson)]) := rfl
  rw [members]
  change BudgetLine.ofMembers _ = _
  rw [BudgetLine.ofMembers, Members.foldRead_ofList]
  simp only [List.foldlM_cons, List.foldlM_nil, BudgetLine.Draft.put, once, Node.text_ofText,
    Node.float_ofFloat finite.budget, Node.float_ofFloat finite.spent,
    Node.float_ofFloat finite.remaining, Node.float_ofFloat finite.percentUsed,
    BudgetStatus.ofJson_toJson]
  rfl

end Spending

/-! The command that prints tokens. -/

namespace Command

open Storage

theorem ofArguments_tokens (query : String) :
    Request.ofArguments ["tokens", "--", query] = .ok (.tokens query) := by
  have name : Request.ofArguments ["tokens", "--", query] = Request.ofTokens ["--", query] := by
    rfl
  rw [name]
  rfl

/-- A run that is asked for tokens prints them whenever its settings can be read. -/
theorem runOn_tokens {e : Environment} {d : Disk} {args : List String} {query : String}
    (asked : Request.ofArguments args = .ok (.tokens query)) {config : Config}
    (found : effectiveConfig e d = .ok config) :
    (runOn e args d).1 = .printed (Report.tokensJson (Query.scanText query)) := by
  have printed : ((Request.tokens query).perform e config).on "" d =
      ((.ok (), "" ++ Report.tokensJson (Query.scanText query)), d) := rfl
  rw [String.empty_append] at printed
  rw [runOn_of_ok asked found printed]

theorem readText_tokensJson (tokens : List Query.Token) :
    readText (Node.list Query.Token.ofJson) (Report.tokensJson tokens) = .ok tokens := by
  rw [Report.tokensJson, Report.json, readText_of_isWritten (isWritten_prettyLine _)]
  change (Items.ofValues _).mapRead Query.Token.ofJson = _
  rw [Items.ofValues_eq]
  apply Items.mapRead_ofList
  rw [List.map_map, List.forall₂_map_left_iff, List.forall₂_same]
  exact fun t _ => Query.ofJson_toJson_token t

end Command

/-- Values whose floats are finite are decoded as what was encoded, and what is printed of a query is
decoded as its tokens. -/
theorem forms_decode :
    (∀ t : Query.Token, readText Query.Token.ofJson t.toJson.compactText = .ok t) ∧
    (∀ t : Transaction, t.amount.value.isFinite = true →
      readText Transaction.ofJson t.toJson.compactText = .ok t) ∧
    (∀ f : Prefilter, (∀ x ∈ f.least, x.isFinite = true) →
      readText Prefilter.ofJson f.toJson.compactText = .ok f) ∧
    (∀ r : Spending.Row, r.count < UInt64.size → r.total.value.isFinite = true →
      readText Spending.Row.ofJson r.toJson.compactText = .ok r) ∧
    (∀ (p : Spending.PeriodTotal) (room : Nat), p.total.isFinite = true →
      readText (Spending.PeriodTotal.ofJson room) p.toJson.compactText = .ok p) ∧
    (∀ c : Spending.Comparison, c.IsFinite →
      readText Spending.Comparison.ofJson c.toJson.compactText = .ok c) ∧
    (∀ l : Spending.BudgetLine, l.IsFinite →
      readText Spending.BudgetLine.ofJson l.toJson.compactText = .ok l) ∧
    (∀ query, Command.Request.ofArguments ["tokens", "--", query] = .ok (.tokens query)) ∧
    ∀ (e : Command.Environment) (d : Storage.Disk) args query config,
      Command.Request.ofArguments args = .ok (.tokens query) →
      Command.effectiveConfig e d = .ok config →
      ∃ text, (Command.runOn e args d).1 = .printed text ∧
        readText (Node.list Query.Token.ofJson) text = .ok (Query.scanText query) := by
  simp only [readText_compactText]
  refine ⟨Query.ofJson_toJson_token, fun t => Transaction.ofJson_toJson,
    fun f => Prefilter.ofJson_toJson, fun r => Spending.Row.ofJson_toJson,
    fun p room finite => Spending.PeriodTotal.ofJson_toJson finite room,
    fun c => Spending.Comparison.ofJson_toJson, fun l => Spending.BudgetLine.ofJson_toJson,
    Command.ofArguments_tokens, ?_⟩
  intro e d args query config asked found
  exact ⟨_, Command.runOn_tokens asked found, Command.readText_tokensJson _⟩

/-- Days of years with a sign, a leap second, a negative zero, the least float and the largest count. -/
theorem forms_decode_extremes :
    let first : Calendar.Day := ⟨-44, 3, 15, by decide⟩
    let last : Calendar.Day := ⟨12026, 2, 28, by decide⟩
    let record : Transaction := ⟨-1, "a\"b\n", .ofFloat (-0.0), "", last,
      ⟨23, 59, 60, 500000000, by decide, by decide, by decide, by decide⟩⟩
    let filter : Prefilter := { last := some first, least := some 5e-324 }
    let row : Spending.Row := ⟨"", .ofFloat 1e300, 18446744073709551615⟩
    let period : Spending.PeriodTotal := ⟨⟨first, last⟩, 0.1⟩
    let comparison : Spending.Comparison := ⟨period, period, -0.0, 1e21, .same⟩
    let line : Spending.BudgetLine := ⟨"Dining", 1.0, 2.0, -1.0, 200.0, .overBudget⟩
    let e : Command.Environment := { home := some "home" }
    let d := Storage.Disk.ofFiles ["w"] []
    (record.amount.value.isFinite = true ∧
      readText Transaction.ofJson record.toJson.compactText = .ok record) ∧
    ((∀ x ∈ filter.least, x.isFinite = true) ∧
      readText Prefilter.ofJson filter.toJson.compactText = .ok filter) ∧
    (row.count < UInt64.size ∧ row.total.value.isFinite = true ∧
      readText Spending.Row.ofJson row.toJson.compactText = .ok row) ∧
    (period.total.isFinite = true ∧
      readText (Spending.PeriodTotal.ofJson 126) period.toJson.compactText = .ok period) ∧
    (comparison.IsFinite ∧
      readText Spending.Comparison.ofJson comparison.toJson.compactText = .ok comparison) ∧
    (line.IsFinite ∧ readText Spending.BudgetLine.ofJson line.toJson.compactText = .ok line) ∧
    Command.Request.ofArguments ["tokens", "amount>=5", "late"] = .ok (.tokens "amount>=5 late") ∧
      Command.effectiveConfig e d = .ok {} ∧
      ∃ text, (Command.runOn e ["tokens", "amount>=5", "late"] d).1 = .printed text ∧
        readText (Node.list Query.Token.ofJson) text =
          .ok [.filter "amount" .atLeast "5", .text "late"] := by
  intro first last record filter row period comparison line e d
  obtain ⟨-, records, filters, rows, periods, comparisons, lines, -, runs⟩ := forms_decode
  have amount : record.amount.value.isFinite = true := by decide +kernel
  have least : ∀ x ∈ filter.least, x.isFinite = true := by decide +kernel
  have total : row.total.value.isFinite = true := by decide +kernel
  have spent : period.total.isFinite = true := by decide +kernel
  have compared : comparison.IsFinite := by constructor <;> decide +kernel
  have budgeted : line.IsFinite := by constructor <;> decide +kernel
  have asked : Command.Request.ofArguments ["tokens", "amount>=5", "late"] =
      .ok (.tokens "amount>=5 late") := eq_ok_of_toOption (by decide +kernel)
  have found : Command.effectiveConfig e d = .ok {} := eq_ok_of_toOption (by decide +kernel)
  have tokens : Query.scanText "amount>=5 late" = [.filter "amount" .atLeast "5", .text "late"] := by
    decide +kernel
  exact ⟨⟨amount, records record amount⟩, ⟨least, filters filter least⟩,
    ⟨by decide, total, rows row (by decide) total⟩, ⟨spent, periods period 126 spent⟩,
    ⟨compared, comparisons comparison compared⟩, ⟨budgeted, lines line budgeted⟩, asked, found,
    tokens ▸ runs e d _ _ _ asked found⟩

end Outlay
