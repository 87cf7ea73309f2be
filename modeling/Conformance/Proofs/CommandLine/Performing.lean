import Conformance.CommandLine.Run
import Conformance.Proofs.Fixture.Comparing

/-!
# Invocations on a disk

What an invocation does on a disk, in terms of the settings that it finds there and of the work of
its command.

* **Settings** (`Disk.settings`): those of the file that is named, or else of the settings file in
  the working directory if that is a file, or else the default ones. Loading them changes nothing
  (`run_settingsFor`).
* **Runs** (`run_perform`): an error in the settings is all there is to a run. Otherwise the outcome
  is that of the command, with what is said about the log level and the log lines before it
  (`Outcome.logged`).
* **Commands** (`run_execute_check`, `run_execute_generate`): checking and generating are comparing
  and writing the standard suite in the directory that is asked for.

The words for a settings file that is no document are left open (`Toml.Wording`): what is proved of
settings and runs holds whatever they are.
-/

namespace Conformance

open Disk

section settings

variable [Toml.Wording]

/-! ## Settings -/

/-- The settings in the file at a path. -/
def Disk.settingsIn (disk : Disk) (path : Path) : Except Error Settings :=
  match disk.readText path with
  | .ok content => (Settings.parse content).mapError (.settings · path)
  | .error cause => .error (.settings (.unreadable cause) path)

/-- The path of the settings file in the working directory. -/
def discoveredPath : Path := Path.join ⟨"."⟩ ⟨settingsFile⟩

/-- The settings that hold on a disk, if a file for them may be named. -/
def Disk.settings (disk : Disk) : Option Path → Except Error Settings
  | some path => disk.settingsIn path
  | none => if disk.isFile discoveredPath then disk.settingsIn discoveredPath else .ok {}

/-- Loading settings from a file gives those in it. -/
lemma run_load (path : Path) (disk : Disk) :
    (Settings.load path : StateM Disk _).run disk = (disk.settingsIn path, disk) := by
  have hread : (Storage.readText path : StateM Disk _).run disk = (disk.readText path, disk) := rfl
  rw [Settings.load, run_bind, hread, settingsIn]
  cases disk.readText path <;> rfl

namespace CommandLine

/-- **Loading** the settings of an invocation changes nothing. -/
lemma run_settingsFor (invocation : Invocation) (disk : Disk) :
    (settingsFor invocation : StateM Disk _).run disk =
      (disk.settings invocation.config, disk) := by
  unfold settingsFor
  cases invocation.config with
  | some path => exact run_load path disk
  | none =>
      have hfile : (Storage.isFile discoveredPath : StateM Disk _).run disk =
          (disk.isFile discoveredPath, disk) := rfl
      change (Settings.discover ⟨"."⟩ : StateM Disk _).run disk = _
      rw [Settings.discover, ← discoveredPath, run_bind, hfile, Disk.settings]
      cases disk.isFile discoveredPath with
      | true => exact run_load discoveredPath disk
      | false => rfl

/-! ## Runs -/

/-- An outcome with what is said about the log level that was asked for, and the log lines. -/
def Outcome.logged (outcome : Outcome) (level : String) (events : List Event) : Outcome :=
  { outcome with
    warning := (verbosity level).2
    log := logLines (verbosity level).1 events }

/-- **Runs**: an error in the settings, or the command with its log. -/
lemma run_perform (invocation : Invocation) (disk : Disk) :
    (perform invocation : StateM Disk _).run disk =
      match disk.settings invocation.config with
      | .error error => (.failed error, disk)
      | .ok settings =>
        match (execute settings invocation.command : StateM Disk _).run disk with
        | ((events, outcome), after) =>
          (outcome.logged (invocation.logLevel.getD settings.logLevel) events, after) := by
  rw [perform, run_bind, run_settingsFor]
  cases disk.settings invocation.config <;> rfl

/-- An accepted command line is an invocation. -/
lemma run_of_read {arguments : List String} {invocation : Invocation}
    (h : read arguments = .ok invocation) :
    (run arguments : StateM Disk _) = perform invocation := by
  rw [run, h]

end CommandLine

end settings

namespace CommandLine

/-! ## Commands -/

/-- Checking compares the standard suite with the directory. -/
lemma run_execute_check (settings : Settings) (dir : Option Path) (disk : Disk) :
    (execute settings (.check dir) : StateM Disk _).run disk =
      match (Suite.standard.inspect (dir.getD settings.outputDir) : StateM Disk _).run disk with
      | (inspection, after) =>
        ((inspection.events, ofInspection (dir.getD settings.outputDir) inspection), after) := rfl

/-- Generating writes the standard suite to the directory. -/
lemma run_execute_generate (settings : Settings) (out : Option Path) (disk : Disk) :
    (execute settings (.generate out) : StateM Disk _).run disk =
      match (Suite.standard.store (out.getD settings.outputDir) : StateM Disk _).run disk with
      | (emission, after) => ((emission.events, ofEmission emission), after) := rfl

end CommandLine

end Conformance
