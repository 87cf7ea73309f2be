import Conformance.Proofs.CommandLine.Performing
import Conformance.Proofs.Fixture.RoundTrip

/-!
# Runs with different log levels

What the log level of a run has to do with the rest of it: nothing.

* **Severity of a line** (`LogLevel.ofLine?`): a log line begins with the label of its severity, so
  the severity of the event that it reports can be read off it (`LogLevel.ofLine?_line`).
* **More and less verbose** (`logLines_of_rank_le`): of the same events, a level prints those lines
  of a more verbose level whose severity it admits, in their order.
* **One run** (`SaysAtLevel`): the error output is the warning about an unknown level, if there is
  one, then log lines that the level admits, then what the command has to say.
* **Two runs** (`SameButLogging`): they have the status, the standard output and what the command
  has to say in common, and the lines of the less verbose one are lines of the other.
* **Main statement** (`sameButLogging_run`): this holds of all runs of one command from one disk
  with two log levels, and they leave the same disk behind.
-/

namespace Conformance

/-! ## Severity of a line -/

namespace LogLevel

/-- All levels, from the gravest on. -/
def all : List LogLevel := [error, warn, info, debug, trace]

/-- The severity of a log line, which begins with its label. -/
def ofLine? (line : String) : Option LogLevel :=
  all.find? fun level => level.label.toList.isPrefixOf line.toList

/-- Whether a verbosity admits the severity of a log line. -/
def admitsLine (verbosity : LogLevel) (line : String) : Bool :=
  (ofLine? line).any verbosity.admits

/-- A text that begins with the label of a level is of that severity. -/
lemma ofLine?_label_append (level : LogLevel) (rest : String) :
    ofLine? (level.label ++ rest) = some level := by
  unfold ofLine? all
  cases level <;> simp [label]

/-- **The severity of an event** can be read off its line. -/
lemma ofLine?_line (event : Event) : ofLine? event.line = some event.severity := by
  unfold Event.line
  rw [String.append_assoc, String.append_assoc]
  exact ofLine?_label_append event.severity _

/-- A verbosity admits the line of an event if it admits the event. -/
lemma admitsLine_line (verbosity : LogLevel) (event : Event) :
    verbosity.admitsLine event.line = verbosity.admits event.severity := by
  rw [admitsLine, ofLine?_line, Option.any_some]

/-- What a verbosity admits, a more verbose one admits too. -/
lemma admits_of_rank_le {verbosity other severity : LogLevel} (h : verbosity.rank ≤ other.rank)
    (hadmits : verbosity.admits severity = true) : other.admits severity = true := by
  unfold admits at hadmits ⊢
  exact decide_eq_true (Nat.le_trans (of_decide_eq_true hadmits) h)

end LogLevel

/-- A log line reports an event that the verbosity admits. -/
lemma exists_event_of_mem_logLines {verbosity : LogLevel} {events : List Event} {line : String}
    (h : line ∈ logLines verbosity events) :
    ∃ event ∈ events, line = event.line ∧ verbosity.admits event.severity = true := by
  obtain ⟨event, hevent, rfl⟩ := List.mem_map.mp h
  obtain ⟨hmem, hadmits⟩ := List.mem_filter.mp hevent
  exact ⟨event, hmem, rfl, hadmits⟩

/-- **Less verbose** is to leave out, of the lines of a more verbose log, those that are not
admitted. -/
lemma logLines_of_rank_le {verbosity other : LogLevel} (h : verbosity.rank ≤ other.rank)
    (events : List Event) :
    logLines verbosity events = (logLines other events).filter verbosity.admitsLine := by
  unfold logLines
  rw [List.filter_map, List.filter_filter]
  congr 1
  apply List.filter_congr
  intro event _
  rw [Function.comp_apply, LogLevel.admitsLine_line]
  cases hadmits : verbosity.admits event.severity with
  | false => rfl
  | true => simp [LogLevel.admits_of_rank_le h hadmits]

namespace CommandLine

/-! ## One run -/

/-- What a run says on the error output whose log level is given by a text. -/
structure SaysAtLevel (level : String) (outcome : Outcome) : Prop where
  /-- Log lines come after what is said about the level, and before what the command has to say. -/
  stderr_eq : outcome.stderr =
    outcome.warning ++ String.join outcome.log ++ outcome.messages
  /-- Nothing is said about the level, or that it is unknown and warnings are logged. -/
  warning_eq : outcome.warning = "" ∨
    LogLevel.ofText? level = none ∧
      outcome.warning = "warning: unknown log level '" ++ level ++ "', using warn\n"
  /-- Every log line reports an event that the level admits. -/
  line_eq : ∀ line ∈ outcome.log, ∃ event : Event, line = event.line ∧
    (verbosity level).1.admits event.severity = true

/-- An error in the settings is told without a word about the level. -/
lemma saysAtLevel_failed (level : String) (error : Error) :
    SaysAtLevel level (.failed error) :=
  ⟨rfl, .inl rfl, nofun⟩

/-- An outcome with a log says what its level asks for. -/
lemma saysAtLevel_logged (level : String) (events : List Event) (outcome : Outcome) :
    SaysAtLevel level (outcome.logged level events) := by
  refine ⟨rfl, ?_, fun line hline => ?_⟩
  · unfold Outcome.logged verbosity
    cases hlevel : LogLevel.ofText? level with
    | some known => exact .inl rfl
    | none => exact .inr ⟨rfl, rfl⟩
  · obtain ⟨event, -, hevent⟩ := exists_event_of_mem_logLines hline
    exact ⟨event, hevent⟩

/-! ## Two runs -/

/-- What two runs have in common that differ in nothing but their log levels. -/
structure SameButLogging (level other : String) (first second : Outcome) : Prop where
  /-- They end with the same status. -/
  code_eq : first.code = second.code
  /-- They print the same on the standard output. -/
  stdout_eq : first.stdout = second.stdout
  /-- They say the same on the error output, apart from their levels and their logs. -/
  messages_eq : first.messages = second.messages
  /-- What else the first says is said at its level. -/
  first_says : SaysAtLevel level first
  /-- What else the second says is said at its level. -/
  second_says : SaysAtLevel other second
  /-- If the first is not more verbose, its log lines are those of the second that its level
  admits. -/
  log_eq : (verbosity level).1.rank ≤ (verbosity other).1.rank →
    first.log = second.log.filter (verbosity level).1.admitsLine

/-- **The log level only affects logging.** Two accepted command lines that ask for one command with
one settings file, each with a log level, leave one disk behind, end with one status and say the
same but for the log; and the less verbose log is what its level admits of the other. -/
theorem sameButLogging_run [Toml.Wording] {arguments others : List String}
    {config : Option Path} {command : Command} {level other : String}
    (hread : read arguments = .ok ⟨config, some level, command⟩)
    (hother : read others = .ok ⟨config, some other, command⟩) (disk : Disk) :
    ∃ first second after, (run arguments : StateM Disk _).run disk = (first, after) ∧
      (run others : StateM Disk _).run disk = (second, after) ∧
        SameButLogging level other first second := by
  rw [run_of_read hread, run_of_read hother]
  have hfirst := run_perform ⟨config, some level, command⟩ disk
  have hsecond := run_perform ⟨config, some other, command⟩ disk
  cases hsettings : disk.settings config with
  | error error =>
      simp only [hsettings] at hfirst hsecond
      exact ⟨_, _, _, hfirst, hsecond, rfl, rfl, rfl, saysAtLevel_failed level error,
        saysAtLevel_failed other error, fun _ => rfl⟩
  | ok settings =>
      rcases hexecute : (execute settings command : StateM Disk _).run disk with
        ⟨⟨events, outcome⟩, after⟩
      simp only [hsettings, hexecute, Option.getD_some] at hfirst hsecond
      exact ⟨_, _, _, hfirst, hsecond, rfl, rfl, rfl, saysAtLevel_logged level events outcome,
        saysAtLevel_logged other events outcome, fun hrank => logLines_of_rank_le hrank events⟩

/-- Two generations into a directory with a stale file, one at a level that is not known and one
that logs everything. -/
theorem sameButLogging_run_cluttered :
    read ["--log-level", "loud", "generate", "-o", "old"] =
        .ok ⟨none, some "loud", .generate (some ⟨"old"⟩)⟩ ∧
      read ["generate", "--log-level=Trace", "--out", "old"] =
        .ok ⟨none, some "Trace", .generate (some ⟨"old"⟩)⟩ ∧
      (verbosity "loud").1.rank ≤ (verbosity "Trace").1.rank ∧
      ∃ first second after,
        (run ["--log-level", "loud", "generate", "-o", "old"] : StateM Disk _).run .cluttered =
            (first, after) ∧
          (run ["generate", "--log-level=Trace", "--out", "old"] : StateM Disk _).run .cluttered =
            (second, after) ∧
          SameButLogging "loud" "Trace" first second := by
  have hread : read ["--log-level", "loud", "generate", "-o", "old"] =
      .ok ⟨none, some "loud", .generate (some ⟨"old"⟩)⟩ := by decide +kernel
  have hother : read ["generate", "--log-level=Trace", "--out", "old"] =
      .ok ⟨none, some "Trace", .generate (some ⟨"old"⟩)⟩ := by decide +kernel
  exact ⟨hread, hother, by decide +kernel, sameButLogging_run hread hother .cluttered⟩

end CommandLine

end Conformance
