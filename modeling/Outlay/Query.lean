import Outlay.Log
import Outlay.Query.Predicate
import Outlay.Query.Scan

/-!
A query keeps the records that satisfy all its tokens.
-/

namespace Outlay

/-- The tokens of a query together with what they demand, to be asked of many records. -/
structure Query where
  tokens : List Query.Token
  predicates : List Query.Predicate

namespace Query

def ofTokens (tokens : List Token) : Query := ⟨tokens, tokens.map Predicate.ofToken⟩

def parse (text : String) : Query :=
  if Text.isBlankText text then ofTokens [] else ofTokens (scanText text)

def isEmpty (q : Query) : Bool := q.tokens.isEmpty

def accepts (q : Query) (t : Transaction) : Bool := q.predicates.all (·.accepts t)

def filter (q : Query) (records : List Transaction) : List Transaction := records.filter q.accepts

@[simp] theorem mem_filter {q : Query} {records : List Transaction} {t : Transaction} :
    t ∈ q.filter records ↔ t ∈ records ∧ q.accepts t = true := List.mem_filter

/-- The records that match, and a report of the search unless the query is blank. -/
def search (text : String) (records : List Transaction) : List Transaction × List Event :=
  if Text.isBlankText text then (records, [])
  else
    let q := parse text
    let found := q.filter records
    (found, [.filtered text q.tokens.length records.length found.length])

end Query

end Outlay
