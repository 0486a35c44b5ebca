import Outlay.Proofs.Command.Runs

/-!
# Settings survive their text

What is printed of the settings, or saved of them, is read as the settings again, and setting up leaves
those in force as they are.
-/

namespace Outlay.Command

open Storage Program

variable {e : Environment} {args : List String} {d : Disk} {c : Config}

theorem runOn_showConfig (asked : Request.ofArguments args = .ok .showConfig)
    (found : effectiveConfig e d = .ok c) :
    ∃ directory, e.directory? = .ok directory ∧
      (runOn e args d).1 = .printed ("# " ++ configPath directory ++ "\n" ++ c.text) := by
  obtain ⟨directory, named⟩ := exists_directory found
  have shown : (Request.showConfig.perform e c).on "" d =
      ((.ok (), "" ++ heading directory ++ c.text), d) :=
    on_showConfig named (isLimit_of_effectiveConfig found) "" d
  rw [String.empty_append] at shown
  exact ⟨directory, named, congrArg Prod.fst (runOn_of_ok asked found shown)⟩

/-- Saving settings on a disk. -/
def saveOn (c : Config) (path : String) (d : Disk) : Outcome × Disk := (saveConfig c path).outcomeOn d

theorem saveOn_eq (limit : Config.IsLimit c.limit) {path : String} {place : Place}
    (led : d.place? path = some place) (noDirectory : d.isDirectory place = false) :
    saveOn c path d = (.printed "", d.put place (.ofText c.text)) := by
  have saved : (saveConfig c path).on "" d = ((.ok (), ""), d.put place (.ofText c.text)) := by
    rw [on_saveConfig limit, Disk.write_eq_put led noDirectory]
    rfl
  rw [saveOn, outcomeOn_of_ok saved]

/-- Setting up writes the settings that were in force, unless a file comes to light with the directory. -/
theorem effectiveConfig_initConfig {directory : String}
    (asked : Request.ofArguments args = .ok .initConfig) (named : e.directory? = .ok directory)
    (missing : (d.makeDirectory directory).1.look (configPath directory) = .absent) :
    effectiveConfig e (runOn e args d).2 = effectiveConfig e d := by
  have before : d.look (configPath directory) = .absent := by
    by_contra there
    rw [(Disk.extends_makeDirectory d directory).look_eq there] at missing
    exact there missing
  rcases runOn_initConfig asked d with ⟨-, same⟩ | ⟨directory', named', set⟩
  · rw [same]
  · obtain rfl : directory = directory' := Except.ok.inj (named.symm.trans named')
    have setup := setup_initOn named d
    rw [effectiveConfig_eq named, effectiveConfig_eq named, before, set]
    generalize initOn e d = result at setup
    cases setup with
    | kept => rw [missing]
    | created place made absent led new grown written =>
      rw [written, readConfig_default]
      rfl

/-- Settings are read back from what is printed or saved of them, and setting up where the file is
missing, with its directory made, leaves those in force as they are. -/
theorem settings_survive_text (e : Environment) (d : Disk) :
    (∀ path entry c, readConfig path entry = .ok c →
      ∀ copy, readConfig copy (.file (.ofText c.text)) = .ok c) ∧
    (∀ args c, Request.ofArguments args = .ok .showConfig → effectiveConfig e d = .ok c →
      (∃ directory, e.directory? = .ok directory ∧
        (runOn e args d).1 = .printed ("# " ++ configPath directory ++ "\n" ++ c.text)) ∧
      ∀ copy, readConfig copy (.file (.ofText c.text)) = .ok c) ∧
    (∀ (c : Config) path place, c.limit < 2 ^ 63 → d.place? path = some place →
      d.isDirectory place = false →
      let saved := d.write path (.ofText c.text)
      saveOn c path d = (.printed "", saved.1) ∧ saved.2 = true ∧
        readConfig path (saved.1.look path) = .ok c) ∧
    ∀ args directory, Request.ofArguments args = .ok .initConfig → e.directory? = .ok directory →
      (d.makeDirectory directory).1.look (configPath directory) = .absent →
      effectiveConfig e (runOn e args d).2 = effectiveConfig e d := by
  refine ⟨fun _ _ c read => readConfig_text (isLimit_of_readConfig read),
    fun args c asked found =>
      ⟨runOn_showConfig asked found, readConfig_text (isLimit_of_effectiveConfig found)⟩, ?_,
    fun args directory asked named missing => effectiveConfig_initConfig asked named missing⟩
  intro c path place small led noDirectory saved
  have limit := Config.isLimit_of_lt small
  have written : saved = (d.put place (.ofText c.text), true) := Disk.write_eq_put led noDirectory _
  rw [written]
  refine ⟨saveOn_eq limit led noDirectory, rfl, ?_⟩
  rw [Disk.look_put led noDirectory]
  exact readConfig_text limit path

/-- Keys that need quotes, an infinity and a negative zero, in a directory that is there and in one that
has to be made. -/
theorem settings_survive_text_quoted :
    let c : Config := {
      dataFile := "a\\b", logLevel := "\"'\x01", grouping := .day, limit := 0,
      budgets := ⟨[("", -0.0), ("a.b", 1.0 / 0.0), ("q\"\n", 2.0)], by decide +kernel⟩ }
    let file := Bytes.ofText ("data.file = 'a\\b'\n[log]\nlevel = \"\\\"'\\u0001\"\n" ++
      "[summary]\ngroup_by = 'day'\nlimit = 0x0\n" ++
      "[budgets]\n\"q\\\"\\n\" = 2\n'a.b' = inf\n\"\" = -0e1\n")
    let e : Environment := { directory := some "cfg" }
    let d := Disk.ofFiles ["w"] [(["w", "cfg", "config.toml"], file)]
    let bare := Disk.ofFiles ["w"] []
    (readConfig "x" (.file file) = .ok c ∧ readConfig "y" (.file (.ofText c.text)) = .ok c) ∧
    (Request.ofArguments ["config", "show"] = .ok .showConfig ∧ effectiveConfig e d = .ok c ∧
      (∃ directory, e.directory? = .ok directory ∧ (runOn e ["config", "show"] d).1 =
        .printed ("# " ++ configPath directory ++ "\n" ++ c.text)) ∧
      readConfig "y" (.file (.ofText c.text)) = .ok c) ∧
    (c.limit < 2 ^ 63 ∧ d.place? "new.toml" = some ["w", "new.toml"] ∧
      d.isDirectory ["w", "new.toml"] = false ∧
      saveOn c "new.toml" d = (.printed "", (d.write "new.toml" (.ofText c.text)).1) ∧
      readConfig "new.toml" ((d.write "new.toml" (.ofText c.text)).1.look "new.toml") = .ok c) ∧
    (Request.ofArguments ["config", "init"] = .ok .initConfig ∧ e.directory? = .ok "cfg" ∧
      (bare.makeDirectory "cfg").1.look (configPath "cfg") = .absent ∧
      effectiveConfig e (runOn e ["config", "init"] bare).2 = effectiveConfig e bare) := by
  intro c file e d bare
  obtain ⟨reading, showing, saving, -⟩ := settings_survive_text e d
  obtain ⟨-, -, -, settingUp⟩ := settings_survive_text e bare
  have read : readConfig "x" (.file file) = .ok c := eq_ok_of_toOption (by decide +kernel)
  have show? : Request.ofArguments ["config", "show"] = .ok .showConfig :=
    eq_ok_of_toOption (by decide +kernel)
  have init? : Request.ofArguments ["config", "init"] = .ok .initConfig :=
    eq_ok_of_toOption (by decide +kernel)
  have found : effectiveConfig e d = .ok c := eq_ok_of_toOption (by decide +kernel)
  have led : d.place? "new.toml" = some ["w", "new.toml"] := by decide +kernel
  have noDirectory : d.isDirectory ["w", "new.toml"] = false := by decide +kernel
  have missing : (bare.makeDirectory "cfg").1.look (configPath "cfg") = .absent := by decide +kernel
  obtain ⟨shown, copied⟩ := showing _ c show? found
  obtain ⟨saved, -, kept⟩ := saving c _ _ (by decide) led noDirectory
  exact ⟨⟨read, reading _ _ c read "y"⟩, ⟨show?, found, shown, copied "y"⟩,
    ⟨by decide, led, noDirectory, saved, kept⟩,
    ⟨init?, rfl, missing, settingUp _ _ init? rfl missing⟩⟩

/-- A file that is out of sight as long as a directory is missing takes effect once that is made. -/
theorem initConfig_uncovers_settings :
    ¬∀ (e : Environment) (d : Disk) (args : List String) (directory : String),
      Request.ofArguments args = .ok .initConfig → e.directory? = .ok directory →
      d.look (configPath directory) = .absent →
      effectiveConfig e (runOn e args d).2 = effectiveConfig e d := by
  intro same
  have kept := same { directory := some "new/../old" }
    (.ofFiles ["w"] [(["w", "old", "config.toml"], .ofText "[budgets]\nRent = 1\n")])
    ["config", "init"] "new/../old" (eq_ok_of_toOption (by decide +kernel)) rfl (by decide +kernel)
  exact absurd (congrArg Except.toOption kept) (by decide +kernel)

end Outlay.Command
