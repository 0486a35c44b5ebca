import Outlay.Command.Run
import Outlay.Proofs.Command.Program
import Outlay.Proofs.Config
import Outlay.Proofs.Except
import Outlay.Proofs.Storage.Path

/-!
# What a request prints and touches

Only the settings are printed in more than one step, and what has been read of them can be written; so a
request that fails has printed nothing. Only setting up the configuration touches the disk.
-/

namespace Outlay.Command

open Storage Program

variable {e : Environment} {d : Disk} {directory : String} {c : Config}

/-- The settings that a run starts from. -/
def effectiveConfig (e : Environment) (d : Disk) : Except (List Cause) Config :=
  e.directory?.bind fun directory => readConfig (configPath directory) (d.look (configPath directory))

theorem effectiveConfig_eq (named : e.directory? = .ok directory) (d : Disk) :
    effectiveConfig e d = readConfig (configPath directory) (d.look (configPath directory)) := by
  rw [effectiveConfig, named]
  rfl

theorem effectiveConfig_eq_error {causes : List Cause} (unnamed : e.directory? = .error causes)
    (d : Disk) : effectiveConfig e d = .error causes := by
  rw [effectiveConfig, unnamed]
  rfl

/-- Settings in force come from a directory. -/
theorem exists_directory (found : effectiveConfig e d = .ok c) :
    ∃ directory, e.directory? = .ok directory := by
  cases named : e.directory? with
  | error causes =>
    rw [effectiveConfig_eq_error named] at found
    cases found
  | ok directory => exact ⟨directory, rfl⟩

@[simp] theorem on_loadConfig (e : Environment) (s : String) (d : Disk) :
    (loadConfig e).on s d = ((effectiveConfig e d, s), d) := by
  cases named : e.directory? with
  | error causes => simp [loadConfig, on_bind, named, effectiveConfig_eq_error named]
  | ok directory => simp [loadConfig, on_bind, named, effectiveConfig_eq named]

theorem onlyReads_loadConfig (e : Environment) :
    (loadConfig e : Program (StateM Disk) Config).OnlyReads :=
  (onlyReads_ofExcept _).bind fun _ => (onlyReads_look _).bind fun _ => onlyReads_ofExcept _

/-! Limits that come from a file. -/

/-- What is read of a file can be written again. -/
theorem isLimit_of_readConfig {path : String} {entry : Entry} (read : readConfig path entry = .ok c) :
    Config.IsLimit c.limit := by
  unfold readConfig at read
  split at read
  next => exact Except.ok.inj read ▸ rfl
  next =>
    split at read
    next => cases read
    next =>
      split at read
      next found => exact Except.ok.inj read ▸ Config.isLimit_of_read? found
      next => cases read

theorem isLimit_of_effectiveConfig (found : effectiveConfig e d = .ok c) : Config.IsLimit c.limit := by
  obtain ⟨directory, named⟩ := exists_directory found
  rw [effectiveConfig_eq named] at found
  exact isLimit_of_readConfig found

/-! Showing the settings. -/

theorem on_showConfig (named : e.directory? = .ok directory) (limit : Config.IsLimit c.limit)
    (s : String) (d : Disk) :
    (showConfig e c).on s d = ((.ok (), s ++ heading directory ++ c.text), d) := by
  simp [showConfig, on_bind, named, Config.write?_eq_some limit]

/-- The heading stays where the settings cannot be written. -/
theorem on_showConfig_of_large (named : e.directory? = .ok directory) (large : 2 ^ 63 ≤ c.limit)
    (s : String) (d : Disk) :
    (showConfig e c).on s d = ((.error [.foreign], s ++ heading directory), d) := by
  simp [showConfig, on_bind, named, Config.write?_eq_none large]

theorem keepsDisk_showConfig (e : Environment) (c : Config) :
    (showConfig e c : Program (StateM Disk) Unit).KeepsDisk := by
  refine (onlyReads_ofExcept _).keepsDisk.bind fun directory => (keepsDisk_print _).bind fun _ => ?_
  cases c.write? with
  | none => exact (onlyReads_throw _).keepsDisk
  | some text => exact keepsDisk_print text

theorem failsUnprinted_showConfig (limit : Config.IsLimit c.limit) :
    (showConfig e c : Program (StateM Disk) Unit).FailsUnprinted := by
  intro s d causes failed
  cases named : e.directory? with
  | error causes => simp [showConfig, on_bind, named]
  | ok directory =>
    rw [on_showConfig named limit] at failed
    cases failed

/-! Setting up. -/

theorem on_saveConfig (limit : Config.IsLimit c.limit) (path s : String) (d : Disk) :
    (saveConfig c path).on s d =
      let written := d.write path (.ofText c.text)
      ((if written.2 then .ok () else .error [.stated ("write " ++ path), .foreign], s), written.1) := by
  simp only [saveConfig, Config.write?_eq_some limit, on_bind, on_write]
  cases (d.write path (.ofText c.text)).2 <;> rfl

theorem on_ensureDirectory (named : e.directory? = .ok directory) (s : String) (d : Disk) :
    (ensureDirectory e).on s d =
      let made := d.makeDirectory directory
      ((if made.2 then .ok directory else .error [.stated ("create " ++ directory), .foreign], s),
        made.1) := by
  simp only [ensureDirectory, on_bind, on_ofExcept, named, on_makeDirectory]
  cases (d.makeDirectory directory).2 <;> rfl

theorem neverPrints_saveConfig (c : Config) (path : String) :
    (saveConfig c path : Program (StateM Disk) Unit).NeverPrints := by
  unfold saveConfig
  cases c.write? with
  | none => exact (onlyReads_throw _).neverPrints
  | some text =>
    refine (neverPrints_write path text).bind fun written => ?_
    cases written with
    | false => exact (onlyReads_throw _).neverPrints
    | true => exact (onlyReads_pure ()).neverPrints

theorem neverPrints_ensureDirectory (e : Environment) :
    (ensureDirectory e : Program (StateM Disk) String).NeverPrints := by
  refine (onlyReads_ofExcept _).neverPrints.bind fun directory =>
    (neverPrints_makeDirectory directory).bind fun made => ?_
  cases made with
  | false => exact (onlyReads_throw _).neverPrints
  | true => exact (onlyReads_pure directory).neverPrints

/-- Setting up on a disk. -/
def initOn (e : Environment) (d : Disk) : Outcome × Disk := (initConfig e).outcomeOn d

/-- The text of the default settings. -/
def defaultFile : Bytes := Bytes.ofText (Config.text {})

/-- What setting up comes to: no file is made, or the default settings are in a new one. -/
inductive Setup (directory : String) (d : Disk) : Outcome × Disk → Prop where
  | kept (outcome : Outcome)
      (done : outcome.exitCode = 0 → (d.makeDirectory directory).2 = true ∧
        (d.makeDirectory directory).1.look (configPath directory) ≠ .absent) :
      Setup directory d (outcome, (d.makeDirectory directory).1)
  | created (place : Place) (made : (d.makeDirectory directory).2 = true)
      (absent : (d.makeDirectory directory).1.look (configPath directory) = .absent)
      (led : (d.makeDirectory directory).1.place? (configPath directory) = some place)
      (new : (d.makeDirectory directory).1.file? place = none)
      (grown : (d.makeDirectory directory).1.Extends
        ((d.makeDirectory directory).1.put place defaultFile))
      (written : ((d.makeDirectory directory).1.put place defaultFile).look (configPath directory) =
        .file defaultFile) :
      Setup directory d (.printed ("Wrote " ++ configPath directory ++ "\n"),
        (d.makeDirectory directory).1.put place defaultFile)

/-- Behind the directory, setting up looks for the file and saves the default settings if it is missing. -/
theorem on_initConfig (named : e.directory? = .ok directory) (made : (d.makeDirectory directory).2 = true)
    (s : String) :
    (initConfig e).on s d =
      if (d.makeDirectory directory).1.look (configPath directory) = .absent then
        (do
          saveConfig {} (configPath directory)
          print ("Wrote " ++ configPath directory ++ "\n") : Program (StateM Disk) Unit).on s
            (d.makeDirectory directory).1
      else
        ((.ok (), s ++ ("Config already exists: " ++ configPath directory ++ "\n")),
          (d.makeDirectory directory).1) := by
  simp only [initConfig, on_bind, on_ensureDirectory named, made, if_true, on_look]
  by_cases absent : (d.makeDirectory directory).1.look (configPath directory) = .absent
  · simp [absent, on_bind]
  · simp [absent]

theorem setup_initOn (named : e.directory? = .ok directory) (d : Disk) :
    Setup directory d (initOn e d) := by
  cases made : (d.makeDirectory directory).2 with
  | false =>
    have failed : (initConfig e).on "" d =
        ((.error [.stated ("create " ++ directory), .foreign], ""), (d.makeDirectory directory).1) := by
      simp [initConfig, on_bind, on_ensureDirectory named, made]
    rw [initOn, outcomeOn_of_error failed]
    exact .kept _ fun exited => nomatch exited
  | true =>
    have went := on_initConfig named made ""
    by_cases absent : (d.makeDirectory directory).1.look (configPath directory) = .absent
    · rw [if_pos absent, on_bind, on_saveConfig (Config.isLimit_of_lt (by decide))] at went
      rcases Disk.write_cases absent (Bytes.ofText (Config.text {})) with
        failed | ⟨place, led, new, wrote, grown, written⟩
      · rw [failed] at went
        rw [initOn, outcomeOn_of_error went]
        exact .kept _ fun exited => nomatch exited
      · simp only [wrote, if_true, on_print, String.empty_append] at went
        rw [initOn, outcomeOn_of_ok went]
        exact .created place made absent led new grown written
    · rw [if_neg absent, String.empty_append] at went
      rw [initOn, outcomeOn_of_ok went]
      exact .kept _ fun _ => ⟨made, absent⟩

/-- Whichever way setting up goes, it prints at last. -/
theorem failsUnprinted_initConfig (e : Environment) :
    (initConfig e : Program (StateM Disk) Unit).FailsUnprinted := by
  refine (neverPrints_ensureDirectory e).bind_failsUnprinted fun directory _ => ?_
  refine (onlyReads_look _).neverPrints.bind_failsUnprinted fun entry _ => ?_
  split
  next => exact failsUnprinted_print _
  next => exact (neverPrints_saveConfig {} _).bind_failsUnprinted fun _ _ => failsUnprinted_print _

/-! Reports. -/

theorem onlyReads_readExport (config : Config) (request : Request) :
    (request.readExport config : Program (StateM Disk) (List Transaction)).OnlyReads := by
  unfold Request.readExport
  split
  next => exact onlyReads_throw _
  next =>
    split
    next => exact onlyReads_pure []
    next => exact (onlyReads_look _).bind fun entry => onlyReads_ofExcept _

theorem keepsDisk_printReport (config : Config) (request : Request) :
    (request.printReport config : Program (StateM Disk) Unit).KeepsDisk :=
  (onlyReads_readExport config request).keepsDisk.bind fun _ => keepsDisk_print _

theorem failsUnprinted_printReport (config : Config) (request : Request) :
    (request.printReport config : Program (StateM Disk) Unit).FailsUnprinted :=
  (onlyReads_readExport config request).neverPrints.bind_failsUnprinted fun _ _ => failsUnprinted_print _

/-! All requests. -/

theorem keepsDisk_perform (config : Config) {request : Request} (other : request ≠ .initConfig) :
    (request.perform e config : Program (StateM Disk) Unit).KeepsDisk := by
  cases request with
  | initConfig => exact absurd rfl other
  | showConfig => exact keepsDisk_showConfig e config
  | _ => exact keepsDisk_printReport config _

theorem failsUnprinted_perform (limit : Config.IsLimit c.limit) (request : Request) :
    (request.perform e c : Program (StateM Disk) Unit).FailsUnprinted := by
  cases request with
  | initConfig => exact failsUnprinted_initConfig e
  | showConfig => exact failsUnprinted_showConfig limit
  | _ => exact failsUnprinted_printReport c _

/-- Whatever fails on the way to an answer, it fails before anything is printed. -/
theorem failsUnprinted_runRequest (e : Environment) (request : Request) :
    (runRequest e request : Program (StateM Disk) Unit).FailsUnprinted := by
  refine (onlyReads_loadConfig e).neverPrints.bind_failsUnprinted fun config ⟨s, d, loaded⟩ => ?_
  rw [on_loadConfig] at loaded
  exact failsUnprinted_perform (isLimit_of_effectiveConfig loaded) request

end Outlay.Command
