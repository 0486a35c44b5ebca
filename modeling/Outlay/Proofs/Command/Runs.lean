import Outlay.Proofs.Command.Requests

/-!
# Runs one after the other

A run that fails has printed nothing, and only setting up the configuration touches the disk: it makes the
directories of the configuration and, once, a file with the default settings. The settings of later runs
are those of earlier ones, unless the way to the directory leads up and out of one that was missing.
-/

namespace Outlay.Command

open Storage Program

variable {e : Environment} {args : List String} {d : Disk} {directory : String} {c : Config}

/-- What a run answers and leaves behind. -/
def runOn (e : Environment) (args : List String) (d : Disk) : Outcome × Disk :=
  (run e args : StateM Disk Outcome) d

/-- The disk after runs, one after the other. -/
def after (e : Environment) (runs : List (List String)) (d : Disk) : Disk :=
  runs.foldl (fun d args => (runOn e args d).2) d

theorem directory_ne_empty (named : e.directory? = .ok directory) : directory ≠ "" := by
  unfold Environment.directory? at named
  split at named
  next given =>
    rw [← Except.ok.inj named]
    have visible := (Option.filter_eq_some_iff.1 given).2
    rintro rfl
    exact absurd visible (by decide)
  next =>
    rw [← Except.ok.inj named]
    exact Path.inside_ne_empty (by decide)
  next => cases named

theorem isName_configFile : Disk.IsName "config.toml" where
  stays := by decide
  down := by decide
  single := by decide

theorem runOn_eq_outcomeOn {request : Request} (asked : Request.ofArguments args = .ok request)
    (d : Disk) : runOn e args d = (runRequest e request).outcomeOn d := by
  unfold runOn run
  rw [asked]
  rfl

/-- With settings to start from, a run does what it is asked for. -/
theorem runOn_eq_perform {request : Request} (asked : Request.ofArguments args = .ok request)
    (found : effectiveConfig e d = .ok c) :
    runOn e args d = (request.perform e c).outcomeOn d := by
  rw [runOn_eq_outcomeOn asked, outcomeOn_eq, outcomeOn_eq, runRequest,
    on_bind_of_ok (by rw [on_loadConfig, found])]

theorem runOn_of_ok {request : Request} (asked : Request.ofArguments args = .ok request)
    (found : effectiveConfig e d = .ok c) {text : String} {d' : Disk}
    (went : (request.perform e c).on "" d = ((.ok (), text), d')) :
    runOn e args d = (.printed text, d') := by
  rw [runOn_eq_perform asked found, outcomeOn_of_ok went]

/-- A run that fails has printed nothing. -/
theorem output_of_exitCode_eq_one (failed : (runOn e args d).1.exitCode = 1) :
    (runOn e args d).1.output = "" := by
  cases read : Request.ofArguments args with
  | ok request =>
    rw [runOn_eq_outcomeOn read] at failed ⊢
    exact (failsUnprinted_runRequest e request).output_eq failed
  | error refusal =>
    unfold runOn run at failed ⊢
    rw [read] at failed ⊢
    cases refusal with
    | usage => rfl
    | help | version => cases failed

theorem runOn_readOnly (other : Request.ofArguments args ≠ .ok .initConfig) (d : Disk) :
    (runOn e args d).2 = d := by
  cases read : Request.ofArguments args with
  | error refusal =>
    unfold runOn run
    rw [read]
    cases refusal <;> rfl
  | ok request =>
    have other : request ≠ .initConfig := by
      rintro rfl
      exact other read
    rw [runOn_eq_outcomeOn read]
    exact (onlyReads_loadConfig e).keepsDisk.bind (fun config => keepsDisk_perform config other) "" d

/-- Setting up needs settings to start from. -/
theorem runOn_initConfig (setup : Request.ofArguments args = .ok .initConfig) (d : Disk) :
    (runOn e args d).1.exitCode = 1 ∧ (runOn e args d).2 = d ∨
      ∃ directory, e.directory? = .ok directory ∧ runOn e args d = initOn e d := by
  cases found : effectiveConfig e d with
  | error causes =>
    have failed : (runRequest e .initConfig).on "" d = ((.error causes, ""), d) := by
      simp [runRequest, on_bind, found]
    rw [runOn_eq_outcomeOn setup, outcomeOn_of_error failed]
    exact .inl ⟨rfl, rfl⟩
  | ok config =>
    obtain ⟨directory, named⟩ := exists_directory found
    exact .inr ⟨directory, named, runOn_eq_perform setup found⟩

/-- A run that does more than look sets up a configuration. -/
theorem runOn_cases (e : Environment) (args : List String) (d : Disk) :
    (runOn e args d).2 = d ∨
      ∃ directory, e.directory? = .ok directory ∧ runOn e args d = initOn e d := by
  by_cases setup : Request.ofArguments args = .ok .initConfig
  · exact (runOn_initConfig setup d).imp And.right id
  · exact .inl (runOn_readOnly setup d)

/-! What a run leaves of the disk. -/

theorem Setup.extends {result : Outcome × Disk} (h : Setup directory d result) :
    d.Extends result.2 := by
  have first := Disk.extends_makeDirectory d directory
  cases h with
  | kept => exact first
  | created place made absent led new grown => exact first.trans grown

theorem extends_runOn (e : Environment) (args : List String) (d : Disk) :
    d.Extends (runOn e args d).2 := by
  rcases runOn_cases e args d with same | ⟨directory, named, set⟩
  · rw [same]
    exact .refl d
  · rw [set]
    exact (setup_initOn named d).extends

/-- The one file that runs make: where the configuration lies, with the default settings. -/
def Creates (e : Environment) (d d' : Disk) (place : Place) : Prop :=
  ∃ directory, e.directory? = .ok directory ∧ d'.place? (configPath directory) = some place ∧
    d.file? place = none ∧ d.changes d' = [(place, defaultFile)]

theorem changes_congr {d d' after : Disk} (same : d.files = d'.files) :
    d.changes after = d'.changes after := by
  simp only [Disk.changes, Disk.file?, same]

theorem Setup.changes {result : Outcome × Disk} (h : Setup directory d result)
    (named : e.directory? = .ok directory) :
    d.changes result.2 = [] ∨ result.1.exitCode = 0 ∧ ∃ place, Creates e d result.2 place := by
  have files := Disk.files_makeDirectory d directory
  cases h with
  | kept => exact .inl (Disk.changes_of_files files)
  | created place made absent led new grown =>
    refine .inr ⟨rfl, place, directory, named, grown.place?_eq_some led, ?_, ?_⟩
    · rwa [Disk.file?, files] at new
    · rw [changes_congr files.symm, Disk.changes_put new]

/-- A run changes no file, or it makes the one of the configuration. -/
theorem changes_runOn (e : Environment) (args : List String) (d : Disk) :
    d.changes (runOn e args d).2 = [] ∨
      (runOn e args d).1.exitCode = 0 ∧ ∃ place, Creates e d (runOn e args d).2 place := by
  rcases runOn_cases e args d with same | ⟨directory, named, set⟩
  · rw [same]
    exact .inl (Disk.changes_self d)
  · rw [set]
    exact (setup_initOn named d).changes named

theorem file?_runOn {place : Place} {content : Bytes} (there : d.file? place = some content) :
    (runOn e args d).2.file? place = some content := by
  rcases runOn_cases e args d with same | ⟨directory, named, set⟩
  · rwa [same]
  · have files := Disk.files_makeDirectory d directory
    have kept : (d.makeDirectory directory).1.file? place = some content := by
      rwa [Disk.file?, files]
    have setup := setup_initOn named d
    rw [set]
    generalize initOn e d = result at setup
    cases setup with
    | kept => exact kept
    | created newPlace made absent led new =>
      have other : place ≠ newPlace := by
        rintro rfl
        rw [new] at kept
        cases kept
      rwa [Disk.file?_put_of_ne _ _ other]

theorem file?_after {place : Place} {content : Bytes} (runs : List (List String))
    (there : d.file? place = some content) : (after e runs d).file? place = some content := by
  induction runs generalizing d with
  | nil => exact there
  | cons args runs ih => exact ih (file?_runOn there)

/-! After a configuration has been set up. -/

/-- The directory of the configuration is there, and something with the name of its file. -/
def IsSetUp (e : Environment) (d : Disk) : Prop :=
  ∃ directory, e.directory? = .ok directory ∧ d.look directory = .directory ∧
    d.look (configPath directory) ≠ .absent

theorem IsSetUp.runOn_eq (h : IsSetUp e d) (args : List String) : (runOn e args d).2 = d := by
  obtain ⟨directory, named, there, found⟩ := h
  rcases runOn_cases e args d with same | ⟨directory', named', set⟩
  · exact same
  · obtain rfl : directory = directory' := Except.ok.inj (named.symm.trans named')
    have unmade := Disk.makeDirectory_of_look there
    have setup := setup_initOn named d
    rw [set]
    generalize initOn e d = result at setup
    cases setup with
    | kept => rw [unmade]
    | created place made absent led new =>
      rw [unmade] at absent
      exact absurd absent found

theorem IsSetUp.after_eq (h : IsSetUp e d) (runs : List (List String)) : after e runs d = d := by
  induction runs with
  | nil => rfl
  | cons args runs ih => rw [after, List.foldl_cons, h.runOn_eq args, ← after, ih]

theorem isSetUp_runOn (setup : Request.ofArguments args = .ok .initConfig)
    (exited : (runOn e args d).1.exitCode = 0) : IsSetUp e (runOn e args d).2 := by
  rcases runOn_initConfig setup d with ⟨failed, -⟩ | ⟨directory, named, set⟩
  · rw [failed] at exited
    cases exited
  · have result := setup_initOn named d
    rw [set] at exited ⊢
    generalize initOn e d = result' at result exited
    have there := Disk.look_makeDirectory (d := d) (directory_ne_empty named)
    refine ⟨directory, named, ?_⟩
    cases result with
    | kept outcome done =>
      obtain ⟨made, found⟩ := done exited
      exact ⟨there made, found⟩
    | created place made absent led new grown written =>
      have before := there made
      refine ⟨?_, ?_⟩
      · rw [grown.look_eq (by rw [before]; decide), before]
      · rw [written]
        decide

/-! Settings that stay. -/

/-- Making the directory of the configuration opens no way to what was there before. -/
def IsSettled (e : Environment) (d : Disk) : Prop :=
  ∀ directory, e.directory? = .ok directory →
    ".." ∉ Path.pieces directory ∨ d.look directory = .directory

theorem IsSettled.mono {d d' : Disk} (h : IsSettled e d) (grown : d.Extends d') : IsSettled e d' := by
  intro directory named
  refine (h directory named).imp_right fun there => ?_
  rw [grown.look_eq (by rw [there]; decide), there]

theorem IsSettled.look_makeDirectory (h : IsSettled e d) (named : e.directory? = .ok directory) :
    (d.makeDirectory directory).1.look (configPath directory) = d.look (configPath directory) := by
  rcases h directory named with down | there
  · exact Disk.look_inside_makeDirectory isName_configFile (directory_ne_empty named) down
  · rw [Disk.makeDirectory_of_look there]

theorem readConfig_text {c : Config} (limit : Config.IsLimit c.limit) (path : String) :
    readConfig path (.file (.ofText c.text)) = .ok c := by
  simp only [readConfig, Entry.text?, Bytes.text?_ofText, Config.read?_text limit]

theorem readConfig_default (path : String) : readConfig path (.file defaultFile) = .ok {} :=
  readConfig_text (Config.isLimit_of_lt (by decide)) path

/-- A run leaves the settings as it found them. -/
theorem effectiveConfig_runOn (settled : IsSettled e d) {config : Config}
    (found : effectiveConfig e d = .ok config) (args : List String) :
    effectiveConfig e (runOn e args d).2 = .ok config := by
  rcases runOn_cases e args d with same | ⟨directory, named, set⟩
  · rwa [same]
  · have result := setup_initOn named d
    have looked := settled.look_makeDirectory named
    rw [effectiveConfig_eq named] at found ⊢
    rw [set]
    generalize initOn e d = result' at result
    cases result with
    | kept => rwa [looked]
    | created place made absent led new grown written =>
      rw [looked] at absent
      rw [absent] at found
      rw [written, readConfig_default]
      exact found

theorem effectiveConfig_after (settled : IsSettled e d) {config : Config}
    (found : effectiveConfig e d = .ok config) (runs : List (List String)) :
    effectiveConfig e (after e runs d) = .ok config := by
  induction runs generalizing d with
  | nil => exact found
  | cons args runs ih =>
    exact ih (settled.mono (extends_runOn e args d)) (effectiveConfig_runOn settled found args)

/-- Behind a directory that is missing, a name that leads up keeps the settings out of sight until the
directory is made. -/
theorem effectiveConfig_changes_behind_missing :
    ¬∀ (e : Environment) (d : Disk) (runs : List (List String)) (config : Config),
      effectiveConfig e d = .ok config → effectiveConfig e (after e runs d) = .ok config := by
  intro same
  have changed := same { directory := some "x/../y" }
    (.ofFiles ["w"] [(["w", "y", "config.toml"], .ofText "[summary]\nlimit = 3\n")])
    [["config", "init"]] {} (eq_ok_of_toOption (by decide +kernel))
  exact absurd (congrArg Except.toOption changed) (by decide +kernel)

/-- Failing runs and those that only look leave all files alone; one file is made at most, and never one
that is there already; the settings stay once they are known. -/
theorem runs_keep_files (e : Environment) :
    (∀ d args, (runOn e args d).1.exitCode = 1 →
      (runOn e args d).1.output = "" ∧ d.changes (runOn e args d).2 = []) ∧
    (∀ d args, Request.ofArguments args ≠ .ok .initConfig → (runOn e args d).2 = d) ∧
    (∀ d args, d.changes (runOn e args d).2 = [] ∨ ∃ place, Creates e d (runOn e args d).2 place) ∧
    (∀ d runs place content, d.file? place = some content →
      (after e runs d).file? place = some content) ∧
    (∀ d args between args', d.changes (runOn e args d).2 ≠ [] →
      let later := after e between (runOn e args d).2
      later.changes (runOn e args' later).2 = []) ∧
    (∀ d args runs, Request.ofArguments args = .ok .initConfig → (runOn e args d).1.exitCode = 0 →
      after e runs (runOn e args d).2 = (runOn e args d).2) ∧
    ∀ d runs config, IsSettled e d → effectiveConfig e d = .ok config →
      effectiveConfig e (after e runs d) = .ok config := by
  refine ⟨?_, fun d args other => runOn_readOnly other d,
    fun d args => (changes_runOn e args d).imp_right And.right,
    fun d runs place content there => file?_after runs there, ?_,
    fun d args runs setup exited => (isSetUp_runOn setup exited).after_eq runs,
    fun d runs config settled found => effectiveConfig_after settled found runs⟩
  · intro d args failed
    refine ⟨output_of_exitCode_eq_one failed, ?_⟩
    rcases changes_runOn e args d with none | ⟨exited, -⟩
    · exact none
    · rw [failed] at exited
      cases exited
  · intro d args between args' changed
    rcases changes_runOn e args d with none | ⟨exited, -⟩
    · exact absurd none changed
    · have setup : Request.ofArguments args = .ok .initConfig := by
        refine Classical.byContradiction fun other => changed ?_
        rw [runOn_readOnly other, Disk.changes_self]
      have settled := isSetUp_runOn setup exited
      simp only [settled.after_eq, settled.runOn_eq, Disk.changes_self]

/-- A budget without budgets, a first and a second configuration in a directory that has to be made. -/
theorem runs_keep_files_newHome :
    let e : Environment := { directory := some "home/ledger" }
    let d := Disk.ofFiles ["w"] [(["w", "t.csv"], Bytes.ofText "description,amount,date\n")]
    let first := (runOn e ["config", "init"] d).2
    let budget := runOn e ["budget", "--month", "2026-01"] d
    (budget.1.exitCode = 1 ∧ budget.1.output = "" ∧ d.changes budget.2 = []) ∧
    (Request.ofArguments ["config", "show"] ≠ .ok .initConfig ∧
      (runOn e ["config", "show"] d).2 = d) ∧
    (∃ place, Creates e d first place) ∧
    (first.file? ["w", "home", "ledger", "config.toml"] = some defaultFile ∧
      (after e [["config", "init"]] first).file? ["w", "home", "ledger", "config.toml"] =
        some defaultFile) ∧
    (d.changes first ≠ [] ∧ first.changes (runOn e ["config", "init"] first).2 = []) ∧
    (Request.ofArguments ["config", "init"] = .ok .initConfig ∧
      (runOn e ["config", "init"] d).1.exitCode = 0 ∧ after e [["config", "init"]] first = first) ∧
    IsSettled e d ∧ effectiveConfig e d = .ok {} ∧
      effectiveConfig e (after e [["config", "init"], ["tokens", "a"]] d) = .ok {} := by
  intro e d first budget
  obtain ⟨failing, looking, making, keeping, once, settled, staying⟩ := runs_keep_files e
  have failed : budget.1.exitCode = 1 := by decide +kernel
  have show? : Request.ofArguments ["config", "show"] ≠ .ok .initConfig :=
    fun setup => absurd (congrArg Except.toOption setup) (by decide +kernel)
  have changed : d.changes first ≠ [] := by decide +kernel
  have there : first.file? ["w", "home", "ledger", "config.toml"] = some defaultFile := by
    decide +kernel
  have init : Request.ofArguments ["config", "init"] = .ok .initConfig :=
    eq_ok_of_toOption (by decide +kernel)
  have exited : (runOn e ["config", "init"] d).1.exitCode = 0 := by decide +kernel
  have down : IsSettled e d := by
    rintro directory ⟨⟩
    exact .inl (by decide +kernel)
  have found : effectiveConfig e d = .ok {} := eq_ok_of_toOption (by decide +kernel)
  exact ⟨⟨failed, failing d _ failed⟩, ⟨show?, looking d _ show?⟩,
    (making d ["config", "init"]).resolve_left changed, ⟨there, keeping first _ _ _ there⟩,
    ⟨changed, once d _ [] _ changed⟩, ⟨init, exited, settled d _ _ init exited⟩, down, found,
    staying d _ _ down found⟩

end Outlay.Command
