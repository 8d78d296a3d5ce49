import TraceRelay.Program
import TraceRelay.Proofs.CommandLine.Parse
import TraceRelay.Proofs.Settings.Render
import TraceRelay.Proofs.Text.Utf8

/-!
# Dry runs

A dry run that succeeds prints a document: the target as a field of its own and then the sections of
the settings it resolved. The target is no setting, so the document holds just these settings, with
all overrides in them; and a dry run on the document that overrides nothing prints it again.
-/

namespace TraceRelay

open Toml

/-! ## Options that override nothing -/

/-- Whether none of the options stands in place of a setting. -/
structure CommandLine.Options.OverridesNothing (options : CommandLine.Options) : Prop where
  intervalMs : options.intervalMs = none
  maxAttempts : options.maxAttempts = none
  strace : options.strace = none
  stringLimit : options.stringLimit = none
  fds : options.fds = []

theorem CommandLine.Options.OverridesNothing.override_eq {options : CommandLine.Options}
    (h : options.OverridesNothing) (settings : Settings) :
    options.override settings = settings := by
  simp [CommandLine.Options.override, h.intervalMs, h.maxAttempts, h.strace, h.stringLimit, h.fds]

namespace Program

variable {options : CommandLine.Options} {invocation : Invocation} {settings : Settings}
  {rendered : String}

/-! ## What a dry run resolves -/

/-- The settings that are resolved are those of the file, with the overrides applied. -/
theorem resolve_eq_ok_iff {directory : Settings.WorkingDirectory} :
    (resolve options directory).value = .ok settings ↔
      ∃ loaded, (Settings.load directory options.config).value = .ok loaded ∧
        settings = options.override loaded := by
  show ((Settings.load directory options.config).value.map options.override) = .ok settings ↔ _
  cases (Settings.load directory options.config).value with
  | error error => simp [Except.map]
  | ok loaded => simp [Except.map, eq_comm]

/-! ## What a dry run prints -/

/-- The line that names the target. -/
def heading : String :=
  "target = " ++ Text.quote targetName ++ "\n"

/-- Whether there is a filter for the log depends on the environment only. -/
theorem isSome_logFilter? (options options' : CommandLine.Options) (given : Option String) :
    (logFilter? options given).isSome = (logFilter? options' given).isSome := by
  unfold logFilter?
  split <;> rfl

/-- A dry run of settings that can be resolved and written prints them. -/
theorem runOn_dryRun (hparse : CommandLine.parse invocation.args = .ok options)
    (hdry : options.dryRun = true) (hfilter : (logFilter? options invocation.logFilter).isSome)
    (hresolve : (resolve options invocation.directory).value = .ok settings)
    (hrender : settings.render = .ok rendered) (sink : Sink) :
    (runOn sink invocation).exitCode = exitSuccess ∧
      (runOn sink invocation).stdout = textBytes (heading ++ rendered) := by
  obtain ⟨filter, hfilter⟩ := Option.isSome_iff_exists.mp hfilter
  simp [runOn, hparse, hfilter, runWith, hresolve, hdry, dryRun, hrender, heading]

/-- A dry run succeeds only if its settings can be resolved and written. -/
theorem exists_of_dryRun (hparse : CommandLine.parse invocation.args = .ok options)
    (hdry : options.dryRun = true) {sink : Sink}
    (hexit : (runOn sink invocation).exitCode = exitSuccess) :
    (logFilter? options invocation.logFilter).isSome ∧
      ∃ settings rendered, (resolve options invocation.directory).value = .ok settings ∧
        settings.render = .ok rendered := by
  unfold runOn at hexit
  simp only [hparse] at hexit
  cases hfilter : logFilter? options invocation.logFilter with
  | none =>
    rw [hfilter] at hexit
    cases hexit
  | some filter =>
    refine ⟨rfl, ?_⟩
    simp only [hfilter, runWith] at hexit
    rcases hresolve : (resolve options invocation.directory).value with error | settings
    · rw [hresolve] at hexit
      cases hexit
    · refine ⟨settings, ?_⟩
      simp only [hresolve, hdry, dryRun, if_true] at hexit
      rcases hrender : settings.render with error | rendered
      · rw [hrender] at hexit
        cases hexit
      · exact ⟨rendered, rfl, rfl⟩

/-! ## Reading it back -/

/-- The heading is a field of the document. -/
theorem heading_eq_line : heading.toList = (Field.ofText "target" targetName).line := by
  decide

/-- What a dry run prints holds the settings. -/
theorem ofBytes_printed (hrender : settings.render = .ok rendered) (path fault : String) :
    Settings.ofBytes path fault (textBytes (heading ++ rendered)) = .ok settings := by
  have hsound : (Field.ofText "target" targetName).Sound :=
    ⟨isRun_of_isBareName (by rfl), Field.denotes_ofText ..⟩
  have hname : "target" ∉ settings.sections.map Section.name := by
    rw [Settings.names_sections]
    decide
  have htext := Settings.ofText?_render hrender hsound hname
  rw [← heading_eq_line, ← String.toList_append] at htext
  rw [Settings.ofBytes, textBytes, Text.decodeStrict?_encode]
  simp only [htext]

theorem load_of_read {dir : Settings.WorkingDirectory} {path : String} {bytes : List UInt8}
    (h : dir.read path = .ok bytes) :
    (Settings.load dir path).value = Settings.ofBytes path dir.fault bytes := by
  rw [Settings.load, h]
  rfl

/-! ## One dry run on the output of another -/

/-- A program that exits with success, and not for a text that was asked for, could read its command
line. -/
theorem exists_options (hhelp : CommandLine.parse invocation.args ≠ .error .displayHelp)
    (hversion : CommandLine.parse invocation.args ≠ .error .displayVersion) {sink : Sink}
    (hexit : (runOn sink invocation).exitCode = exitSuccess) :
    ∃ options, CommandLine.parse invocation.args = .ok options := by
  unfold runOn at hexit
  split at hexit
  · next refusal hrefusal =>
    cases refusal with
    | displayHelp => exact absurd hrefusal hhelp
    | displayVersion => exact absurd hrefusal hversion
    | _ => cases hexit
  · next options hparse => exact ⟨options, hparse⟩

/-- **A dry run prints settings that reproduce themselves.** Take a dry run that succeeds, on any
arguments and any working directory, and a second one in the same environment that overrides nothing
and whose settings stand in a file with the output of the first. The first resolves the settings of
its own file with its overrides applied. The second loads from the output exactly these, limits that
are not set included; it succeeds, and prints the same bytes. -/
theorem dry_run_reproduces_itself {first second : Invocation} {again : CommandLine.Options}
    (hfirst : "--dry-run" ∈ first.args)
    (hhelp : CommandLine.parse first.args ≠ .error .displayHelp)
    (hversion : CommandLine.parse first.args ≠ .error .displayVersion)
    (hexit : (run first).exitCode = exitSuccess) (hsecond : "--dry-run" ∈ second.args)
    (hagain : CommandLine.parse second.args = .ok again) (hplain : again.OverridesNothing)
    (hfilter : second.logFilter = first.logFilter)
    (hread : second.directory.read again.config = .ok (run first).stdout) :
    ∃ options loaded settings, CommandLine.parse first.args = .ok options ∧
      (Settings.load first.directory options.config).value = .ok loaded ∧
      settings = options.override loaded ∧
      (resolve options first.directory).value = .ok settings ∧
      (Settings.load second.directory again.config).value = .ok settings ∧
      (resolve again second.directory).value = .ok settings ∧
      (run second).exitCode = exitSuccess ∧ (run second).stdout = (run first).stdout := by
  obtain ⟨options, hparse⟩ := exists_options hhelp hversion hexit
  have hdry := CommandLine.dryRun_of_parse hfirst hparse
  have hdryAgain := CommandLine.dryRun_of_parse hsecond hagain
  obtain ⟨hsome, settings, rendered, hresolve, hrender⟩ := exists_of_dryRun hparse hdry hexit
  have hprinted := (runOn_dryRun hparse hdry hsome hresolve hrender steadySink).2
  have hload : (Settings.load second.directory again.config).value = .ok settings := by
    rw [load_of_read hread, run, hprinted, ofBytes_printed hrender]
  have hresolveAgain : (resolve again second.directory).value = .ok settings :=
    resolve_eq_ok_iff.mpr ⟨settings, hload, (hplain.override_eq settings).symm⟩
  have hsomeAgain : (logFilter? again second.logFilter).isSome := by
    rwa [hfilter, isSome_logFilter? again options]
  have hsame := runOn_dryRun hagain hdryAgain hsomeAgain hresolveAgain hrender steadySink
  obtain ⟨loaded, hloaded, hoverride⟩ := resolve_eq_ok_iff.mp hresolve
  exact ⟨options, loaded, settings, hparse, hloaded, hoverride, hresolve, hload, hresolveAgain,
    hsame.1, hsame.2.trans hprinted.symm⟩

/-- A dry run that overrides some settings of a file, with texts that need quotes. -/
def overridingDryRun : Invocation where
  args := ["--interval-ms", "250", "--strace", "it's \"strace\"", "--dry-run", "--fd=2", "--fd=1"]
  directory := { stored := some (.file (textBytes "[lookup]\nargs = ['-f', \"\\u0007\"]\n")) }

/-- The settings of that run: one is from its file, and four are from its arguments. -/
def overriddenSettings : Settings where
  lookup := { args := ["-f", "\u0007"], retryInterval := 250 }
  tracer := { command := "it's \"strace\"" }
  filter := { fds := [2, 1] }

/-- A dry run on what that one printed. -/
def repeatedDryRun : Invocation where
  args := ["--dry-run", "-c", "printed.toml"]
  directory := { path := "printed.toml", stored := some (.file (run overridingDryRun).stdout) }

theorem dry_run_reproduces_itself_overridden :
    ∃ options, CommandLine.parse overridingDryRun.args = .ok options ∧
      (Settings.load overridingDryRun.directory options.config).value =
        .ok { lookup := { args := ["-f", "\u0007"] } } ∧
      (resolve options overridingDryRun.directory).value = .ok overriddenSettings ∧
      (Settings.load repeatedDryRun.directory "printed.toml").value = .ok overriddenSettings ∧
      (resolve { config := "printed.toml", dryRun := true } repeatedDryRun.directory).value =
        .ok overriddenSettings ∧
      (run repeatedDryRun).exitCode = exitSuccess ∧
      (run repeatedDryRun).stdout = (run overridingDryRun).stdout := by
  obtain ⟨options, loaded, settings, hparse, hloaded, hoverride, hresolve, hload, hagain, hexit,
      hstdout⟩ :=
    @dry_run_reproduces_itself overridingDryRun repeatedDryRun
      { config := "printed.toml", dryRun := true } (by decide) (by decide +kernel)
      (by decide +kernel) (by decide +kernel) (by decide) (by decide +kernel)
      ⟨rfl, rfl, rfl, rfl, rfl⟩ rfl rfl
  have hoptions : CommandLine.parse overridingDryRun.args = .ok
      { intervalMs := some 250, strace := some "it's \"strace\"", fds := [2, 1],
        dryRun := true } := by decide +kernel
  rw [hoptions] at hparse
  cases hparse
  have hfile : (Settings.load overridingDryRun.directory "follow.toml").value =
      .ok { lookup := { args := ["-f", "\u0007"] } } := by decide +kernel
  rw [hfile] at hloaded
  cases hloaded
  -- What was resolved is thereby computed from the file's settings and the overrides.
  have hsettings : settings = overriddenSettings := hoverride.trans (by decide)
  rw [hsettings] at hresolve hload hagain
  exact ⟨_, hoptions, hfile, hresolve, hload, hagain, hexit, hstdout⟩

end Program

end TraceRelay
