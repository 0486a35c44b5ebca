import Outlay.Command.Arguments
import Outlay.Command.Environment
import Outlay.Command.Program
import Outlay.Config
import Outlay.Export.File
import Outlay.Query
import Outlay.Report

/-!
What the program does with its arguments. Reports are printed at once, as nothing can go wrong between
their lines; the settings are printed below a heading.
-/

namespace Outlay.Command

open Spending Storage
open Program (print)

variable {m : Type → Type} [Monad m] [Access m]

def versionText : String := "spendlens 0.1.0\n"

def helpText : String :=
  "Usage: spendlens [OPTIONS] <COMMAND>\n\n" ++
  "Commands: search, summary, compare, budget, tokens, config\n"

/-- A file that is not there leaves all at the defaults. -/
def readConfig (path : String) (entry : Entry) : Except (List Cause) Config :=
  match entry with
  | .absent => .ok {}
  | _ =>
    match entry.text? with
    | none => .error [.stated ("read " ++ path), .foreign]
    | some text =>
      match Config.read? text with
      | some config => .ok config
      | none => .error [.stated ("parse " ++ path), .foreign]

def notFound (path : String) : Cause :=
  .stated ("transaction export not found: " ++ path ++
    " (pass --file <path> or set [data] file in the config)")

def readRecords (path : String) (entry : Entry) : Except (List Cause) (List Transaction) :=
  match entry with
  | .absent => .error [notFound path]
  | _ =>
    match Export.load path entry with
    | .ok found => .ok found.records
    | .error e => .error (.stated ("loading " ++ path) :: e.causes path)

/-- Narrows by the coarse filter, then by the query. -/
def select (source : Source) (query : String) (records : List Transaction) : List Transaction :=
  (Query.search query (source.filter.apply records)).1

def noBudgets : Cause :=
  .stated "no budgets configured (add a [budgets] table to the config, e.g. Dining = 200.0)"

/-- Every command reads the configuration first. -/
def loadConfig (e : Environment) : Program m Config := do
  let path := configPath (← MonadExcept.ofExcept e.directory?)
  MonadExcept.ofExcept (readConfig path (← Access.look path))

/-- Makes the directory of the configuration. -/
def ensureDirectory (e : Environment) : Program m String := do
  let directory ← MonadExcept.ofExcept e.directory?
  if !(← Access.makeDirectory directory) then
    throw [.stated ("create " ++ directory), .foreign]
  return directory

def saveConfig (config : Config) (path : String) : Program m Unit := do
  match config.write? with
  | none => throw [.stated "serialize config", .foreign]
  | some text =>
    if !(← Access.write path text) then
      throw [.stated ("write " ++ path), .foreign]

def initConfig (e : Environment) : Program m Unit := do
  let path := configPath (← ensureDirectory e)
  if (← Access.look path) != .absent then
    print ("Config already exists: " ++ path ++ "\n")
  else
    saveConfig {} path
    print ("Wrote " ++ path ++ "\n")

def heading (directory : String) : String := "# " ++ configPath directory ++ "\n"

/-- The heading is out before the settings are written. -/
def showConfig (e : Environment) (config : Config) : Program m Unit := do
  print (heading (← MonadExcept.ofExcept e.directory?))
  match config.write? with
  | none => throw [.foreign]
  | some text => print text

namespace Request

/-- The export that a request reads. -/
def file? (config : Config) : Request → Option String
  | search source .. | summary source .. => some (source.file.getD config.dataFile)
  | compare file .. | budget file .. => some (file.getD config.dataFile)
  | _ => none

/-- The report of a request on the records that it is about. -/
def report (config : Config) (records : List Transaction) : Request → String
  | search source query json =>
    let found := select source query records
    if json then Report.searchJson found else Report.search records.length found
  | summary source query grouping limit json =>
    let found := select source query records
    let grouping := grouping.getD config.grouping
    let limit := Config.rowLimit (limit.getD config.limit)
    if json then Report.summaryJson grouping limit found else Report.summary grouping limit found
  | compare _ current previous category json =>
    let c := Spending.compare current previous category records
    if json then Report.comparisonJson c else Report.comparison category c
  | budget _ month json =>
    let lines := budgetLines month config.budgets records
    if json then Report.budgetJson lines else Report.budget month lines
  | tokens query => Report.tokensJson (Query.scanText query)
  | showConfig | initConfig => ""

/-- Without budgets there is no use in looking at records. -/
def lacksBudgets (config : Config) : Request → Bool
  | budget .. => config.budgets.isEmpty
  | _ => false

/-- The records that the request is about. -/
def readExport (config : Config) (request : Request) : Program m (List Transaction) := do
  if request.lacksBudgets config then
    throw [noBudgets]
  else
    match request.file? config with
    | none => return []
    | some path => MonadExcept.ofExcept (readRecords path (← Access.look path))

def printReport (config : Config) (request : Request) : Program m Unit := do
  print (request.report config (← request.readExport config))

def perform (e : Environment) (config : Config) : Request → Program m Unit
  | showConfig => Command.showConfig e config
  | initConfig => Command.initConfig e
  | request => request.printReport config

end Request

def runRequest (e : Environment) (request : Request) : Program m Unit := do
  request.perform e (← loadConfig e)

def run (e : Environment) (args : List String) : m Outcome :=
  match Request.ofArguments args with
  | .ok request => (runRequest e request).outcome
  | .error .usage => return ⟨"", .misused⟩
  | .error .help => return .printed helpText
  | .error .version => return .printed versionText

end Outlay.Command
