import Outlay.Calendar.Pattern
import Outlay.Decimal
import Outlay.Prefilter
import Outlay.Spending.Comparison
import Outlay.Spending.Summary

/-!
The command line: a command, options that may be given once each, and words. The value of an option
follows it or is attached to it.
-/

namespace Outlay.Command

open Calendar Spending

/-- What records a report is about. -/
structure Source where
  /-- The export, unless it is the one of the configuration. -/
  file : Option String := none
  filter : Prefilter := {}
  deriving DecidableEq

inductive Request where
  | search (source : Source) (query : String) (json : Bool)
  | summary (source : Source) (query : String) (grouping : Option Grouping) (limit : Option Nat)
    (json : Bool)
  | compare (file : Option String) (current previous : Period) (category : Option String)
    (json : Bool)
  | budget (file : Option String) (month : Day) (json : Bool)
  | tokens (query : String)
  | showConfig
  | initConfig
  deriving DecidableEq

/-- Why arguments make no request. -/
inductive Refusal where
  /-- They do not follow the rules. -/
  | usage
  | help
  | version
  deriving DecidableEq, Repr

/-- The options that were given. -/
structure Given where
  logLevel : Option String := none
  file : Option String := none
  first : Option Day := none
  last : Option Day := none
  category : Option String := none
  least : Option Float := none
  query : Option String := none
  grouping : Option Grouping := none
  limit : Option Nat := none
  json : Option Unit := none
  currentFirst : Option Day := none
  currentLast : Option Day := none
  previousFirst : Option Day := none
  previousLast : Option Day := none
  month : Option Day := none

/-- Takes a value that was not given before. -/
def once {α : Type} (old new : Option α) : Option (Option α) :=
  match old, new with
  | none, some a => some (some a)
  | _, _ => none

/-- What an option does to those given before it. -/
inductive Effect where
  | flag (f : Given → Option Given)
  | value (f : Given → String → Option Given)

structure Choice where
  name : String
  letter : Option Char := none
  effect : Effect

def day? (s : String) : Option Day := (readDay (Text.trim s.toList)).toOption

/-- The first day of a month such as `2026-02`. -/
def month? (s : String) : Option Day := (readDay (Text.trim s.toList ++ "-01".toList)).toOption

/-- A number of 64 bits without a minus. -/
def count? (s : String) : Option Nat :=
  let digits :=
    match s.toList with
    | '+' :: rest => rest
    | all => all
  let n := Nat.ofDigitChars 10 digits 0
  if !digits.isEmpty && digits.all Char.isDigit && n < UInt64.size then some n else none

namespace Choice

def logLevel : Choice where
  name := "log-level"
  effect := .value fun g s => (once g.logLevel (some s)).map ({ g with logLevel := · })

def file : Choice where
  name := "file"
  letter := some 'f'
  effect := .value fun g s =>
    (once g.file (if s.isEmpty then none else some s)).map ({ g with file := · })

def first : Choice where
  name := "from"
  effect := .value fun g s => (once g.first (day? s)).map ({ g with first := · })

def last : Choice where
  name := "to"
  effect := .value fun g s => (once g.last (day? s)).map ({ g with last := · })

def category : Choice where
  name := "category"
  effect := .value fun g s => (once g.category (some s)).map ({ g with category := · })

def least : Choice where
  name := "min-amount"
  effect := .value fun g s => (once g.least (readFloat? s.toList)).map ({ g with least := · })

def query : Choice where
  name := "query"
  letter := some 'q'
  effect := .value fun g s => (once g.query (some s)).map ({ g with query := · })

def grouping : Choice where
  name := "group-by"
  effect := .value fun g s =>
    (once g.grouping (Grouping.read s).toOption).map ({ g with grouping := · })

def limit : Choice where
  name := "limit"
  effect := .value fun g s => (once g.limit (count? s)).map ({ g with limit := · })

def json : Choice where
  name := "json"
  effect := .flag fun g => (once g.json (some ())).map ({ g with json := · })

def currentFirst : Choice where
  name := "current-from"
  effect := .value fun g s => (once g.currentFirst (day? s)).map ({ g with currentFirst := · })

def currentLast : Choice where
  name := "current-to"
  effect := .value fun g s => (once g.currentLast (day? s)).map ({ g with currentLast := · })

def previousFirst : Choice where
  name := "previous-from"
  effect := .value fun g s => (once g.previousFirst (day? s)).map ({ g with previousFirst := · })

def previousLast : Choice where
  name := "previous-to"
  effect := .value fun g s => (once g.previousLast (day? s)).map ({ g with previousLast := · })

def month : Choice where
  name := "month"
  effect := .value fun g s => (once g.month (month? s)).map ({ g with month := · })

/-- The options of every command. -/
def common : List Choice := [logLevel]

def source : List Choice := common ++ [file, first, last, category, least, json]

end Choice

/-- An argument by its form. -/
inductive Form where
  /-- An option by its name, and the value attached to it. -/
  | long (name : String) (attached : Option String)
  /-- An option by its letter, and what is written behind that. -/
  | short (letter : Char) (attached : List Char)
  /-- Two dashes alone: only words follow. -/
  | dashes
  | word

def Form.of (arg : String) : Form :=
  match arg.toList with
  | ['-', '-'] => .dashes
  | '-' :: '-' :: rest =>
    let attached :=
      match rest.dropWhile (· != '=') with
      | [] => none
      | _ :: value => some (String.ofList value)
    .long (String.ofList (rest.takeWhile (· != '='))) attached
  | '-' :: letter :: rest => .short letter rest
  | _ => .word

/-- The value written behind a letter, from which an equals sign may divide it. -/
def attachedValue (s : List Char) : Option String :=
  match s with
  | [] => none
  | '=' :: value => some (String.ofList value)
  | value => some (String.ofList value)

/-- What is left when the options end. -/
inductive Remainder where
  | nothing
  | words (first : String) (rest : List String)
  /-- Words behind two dashes. -/
  | plain (words : List String)

/-- The next argument as the value of an option. -/
def valueOf (next : Option String) : Option String :=
  next.filter fun arg => Form.of arg matches .word

/-- Options that ask for something else than a report. Only some commands know their version. -/
def aside? (versioned : Bool) (arg : Form) : Option Refusal :=
  match arg with
  | .long "help" none | .short 'h' _ => some .help
  | .long "version" none | .short 'V' _ => if versioned then some .version else none
  | _ => none

def Effect.apply (effect : Effect) (attached next : Option String) (g : Given) :
    Option (Given × Bool) :=
  match effect with
  | .flag f => if attached.isSome then none else (f g).map (·, false)
  | .value f =>
    match attached with
    | some s => (f g s).map (·, false)
    | none => ((valueOf next).bind (f g)).map (·, true)

/-- The options after one more, and whether the argument that comes next was its value. -/
def takeOption (choices : List Choice) (arg : Form) (next : Option String) (g : Given) :
    Option (Given × Bool) :=
  match arg with
  | .long name attached =>
    (choices.find? (·.name == name)).bind (·.effect.apply attached next g)
  | .short letter attached =>
    (choices.find? (·.letter == some letter)).bind (·.effect.apply (attachedValue attached) next g)
  | _ => none

/-- The options in front of the first word. -/
def readOptions (choices : List Choice) (versioned : Bool) (g : Given) :
    List String → Except Refusal (Given × Remainder)
  | [] => .ok (g, .nothing)
  | [arg] =>
    match Form.of arg with
    | .word => .ok (g, .words arg [])
    | .dashes => .ok (g, .plain [])
    | form =>
      match takeOption choices form none g with
      | some (g, _) => .ok (g, .nothing)
      | none => .error ((aside? versioned form).getD .usage)
  | arg :: next :: rest =>
    match Form.of arg with
    | .word => .ok (g, .words arg (next :: rest))
    | .dashes => .ok (g, .plain (next :: rest))
    | form =>
      match takeOption choices form (some next) g with
      | some (g, false) => readOptions choices versioned g (next :: rest)
      | some (g, true) => readOptions choices versioned g rest
      | none => .error ((aside? versioned form).getD .usage)

/-- What was given, or a refusal. -/
def need {α : Type} (value : Option α) : Except Refusal α :=
  match value with
  | some a => .ok a
  | none => .error .usage

/-- Options and no words. -/
def optionsOnly (choices : List Choice) (g : Given) (args : List String) :
    Except Refusal Given := do
  match ← readOptions choices false g args with
  | (g, .nothing) | (g, .plain []) => return g
  | _ => .error .usage

/-- Options and words; behind the first word everything is one. -/
def withWords (choices : List Choice) (g : Given) (args : List String) :
    Except Refusal (Given × String) := do
  match ← readOptions choices false g args with
  | (g, .nothing) => return (g, "")
  | (g, .words first rest) => return (g, String.intercalate " " (first :: rest))
  | (g, .plain words) => return (g, String.intercalate " " words)

namespace Given

def source (g : Given) : Source where
  file := g.file
  filter := { first := g.first, last := g.last, category := g.category, least := g.least }

def current? (g : Given) : Option Period := return ⟨← g.currentFirst, ← g.currentLast⟩

def previous? (g : Given) : Option Period := return ⟨← g.previousFirst, ← g.previousLast⟩

end Given

namespace Request

def ofSearch (args : List String) : Except Refusal Request := do
  let (g, query) ← withWords Choice.source {} args
  return search g.source query g.json.isSome

def ofSummary (args : List String) : Except Refusal Request := do
  let g ← optionsOnly (Choice.source ++ [Choice.query, Choice.grouping, Choice.limit]) {} args
  return summary g.source (g.query.getD "") g.grouping g.limit g.json.isSome

def ofCompare (args : List String) : Except Refusal Request := do
  let periods := [Choice.currentFirst, Choice.currentLast, Choice.previousFirst,
    Choice.previousLast]
  let g ← optionsOnly (Choice.common ++ periods ++ [Choice.file, Choice.category, Choice.json])
    {} args
  return compare g.file (← need g.current?) (← need g.previous?) g.category g.json.isSome

def ofBudget (args : List String) : Except Refusal Request := do
  let g ← optionsOnly (Choice.common ++ [Choice.file, Choice.month, Choice.json]) {} args
  return budget g.file (← need g.month) g.json.isSome

def ofTokens (args : List String) : Except Refusal Request := do
  return tokens (← withWords Choice.common {} args).2

/-- Help is given on a command that exists. -/
def refuseHelp (commands : List String) : List String → Refusal
  | [] => .help
  | [name] => if name == "help" || commands.contains name then .help else .usage
  | _ => .usage

/-- The commands below `config`. -/
def configCommands : List String := ["show", "init"]

def ofConfig (args : List String) : Except Refusal Request := do
  match ← readOptions Choice.common false {} args with
  | (_, .words name rest) =>
    let request ←
      match name with
      | "show" => .ok showConfig
      | "init" => .ok initConfig
      | "help" => .error (refuseHelp configCommands rest)
      | _ => .error .usage
    let _ ← optionsOnly Choice.common {} rest
    return request
  | _ => .error .usage

def ofCommand (name : String) (args : List String) : Except Refusal Request :=
  match name with
  | "search" => ofSearch args
  | "summary" => ofSummary args
  | "compare" => ofCompare args
  | "budget" => ofBudget args
  | "tokens" => ofTokens args
  | "config" => ofConfig args
  | "help" =>
    match args with
    | "config" :: rest => .error (refuseHelp configCommands rest)
    | _ => .error (refuseHelp ["search", "summary", "compare", "budget", "tokens"] args)
  | _ => .error .usage

/-- Reads the arguments from left to right. -/
def ofArguments (args : List String) : Except Refusal Request := do
  match ← readOptions Choice.common true {} args with
  | (_, .words name rest) => ofCommand name rest
  | _ => .error .usage

end Request

example : (Request.ofArguments ["search", "-f=a", "b", "--json"]).toOption =
    some (.search ⟨some "a", {}⟩ "b --json" false) := by
  decide +kernel
example : (Request.ofArguments ["tokens", "--", "-5"]).toOption = some (.tokens "-5") := by
  decide +kernel
example : (Request.ofArguments ["search", "--min-amount", "-5"]).toOption = none := by
  decide +kernel

end Outlay.Command
