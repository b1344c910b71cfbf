import Mathlib
import VersionStamp.Proofs.Store
import VersionStamp.Program

/-! # How a run ends: its exit status, its failure and the store it leaves, for every command line,
configuration and answer of the store. -/

namespace VersionStamp

/-! ## The configuration, check by check -/

/-- The profile a parsed command line runs under: the one it names, else the build profile. -/
def Command.Parsed.runProfile (p : Command.Parsed) : Profile := p.profile.getD .build

/-- The constant it bumps: the one it names, else its profile's. -/
def Command.Parsed.constantText (p : Command.Parsed) : String :=
  p.constant.getD p.runProfile.constant

/-- Its ceiling: none with `--no-max`, else the one it gives, else its profile's. -/
def Command.Parsed.ceiling (p : Command.Parsed) : Option UInt64 :=
  if p.noMax then none else p.max.or p.runProfile.ceiling

section Config

variable {p : Command.Parsed} {path : FilePath}

theorem Config.ofParsed_of_file_none (h : p.file = none) :
    Config.ofParsed p = .error (.of .missingFile) := by
  simp only [Config.ofParsed, h]
  rfl

theorem Config.ofParsed_of_name_error {e : DomainError} (hf : p.file = some path)
    (hn : ConstantName.ofString? p.constantText = .error e) :
    Config.ofParsed p = .error (.of (.domain e)) := by
  simp only [Command.Parsed.constantText, Command.Parsed.runProfile] at hn
  simp only [Config.ofParsed, hf, hn]
  rfl

theorem Config.ofParsed_of_rule_error {name : ConstantName} {e : DomainError}
    (hf : p.file = some path) (hn : ConstantName.ofString? p.constantText = .ok name)
    (hr : Rule.make name p.ceiling = .error e) :
    Config.ofParsed p = .error (.of (.domain e)) := by
  simp only [Command.Parsed.constantText, Command.Parsed.ceiling, Command.Parsed.runProfile]
    at hn hr
  simp only [Config.ofParsed, hf, hn, pure_bind, hr]
  rfl

theorem Config.ofParsed_of_rule_ok {name : ConstantName} {rule : Rule}
    (hf : p.file = some path) (hn : ConstantName.ofString? p.constantText = .ok name)
    (hr : Rule.make name p.ceiling = .ok rule) :
    Config.ofParsed p = .ok ⟨path, p.runProfile, rule, p.dryRun, p.format.getD .text⟩ := by
  simp only [Command.Parsed.constantText, Command.Parsed.ceiling, Command.Parsed.runProfile]
    at hn hr
  simp only [Config.ofParsed, hf, hn, pure_bind, hr]
  rfl

/-- A configuration that comes out names the file, and takes the profile and the dry run from
the command line. -/
theorem Config.ofParsed_eq_ok {cfg : Config} (h : Config.ofParsed p = .ok cfg) :
    p.file = some cfg.path ∧ cfg.profile = p.runProfile ∧ cfg.dryRun = p.dryRun := by
  cases hf : p.file with
  | none => rw [Config.ofParsed_of_file_none hf] at h; cases h
  | some path =>
      cases hn : ConstantName.ofString? p.constantText with
      | error e => rw [Config.ofParsed_of_name_error hf hn] at h; cases h
      | ok name =>
          cases hr : Rule.make name p.ceiling with
          | error e => rw [Config.ofParsed_of_rule_error hf hn hr] at h; cases h
          | ok rule =>
              rw [Config.ofParsed_of_rule_ok hf hn hr] at h
              cases h
              exact ⟨rfl, rfl, rfl⟩

end Config

/-! ## The ways a run ends -/

/-- Whether a stop of the command line answers it, with the help or the version, rather than
refusing it. -/
def Command.Stop.informs : Command.Stop → Bool
  | .help _ => true
  | .version => true
  | _ => false

theorem Profile.exitCode_ne_zero (p : Profile) (c : Category) : p.exitCode c ≠ 0 := by
  cases p <;> cases c <;> decide

variable {σ : Type} [FileStore σ]

section Run

variable {inv : Invocation} {s : σ}

theorem Invocation.run_of_help {long : Bool} (h : Command.parse inv.args = .error (.help long)) :
    inv.run s =
      ⟨0, if inv.stdoutFull then "" else Command.helpText long, "", some (.help long), none,
        s⟩ := by
  simp only [Invocation.run, h]

theorem Invocation.run_of_version (h : Command.parse inv.args = .error .version) :
    inv.run s =
      ⟨0, if inv.stdoutFull then "" else Command.versionText, "", some .version, none, s⟩ := by
  simp only [Invocation.run, h]

theorem Invocation.run_of_refusal {stop : Command.Stop} (h : Command.parse inv.args = .error stop)
    (hs : stop.informs = false) :
    inv.run s =
      ⟨(Profile.sniffCommandLine inv.argv).exitCode .usage, "", stop.errorText, some stop, none,
        s⟩ := by
  simp only [Invocation.run, h]
  split
  · cases hs
  · cases hs
  · rfl

theorem Invocation.run_of_informs {stop : Command.Stop} (h : Command.parse inv.args = .error stop)
    (hs : stop.informs = true) :
    (inv.run s).exitCode = 0 ∧ (inv.run s).stop = some stop ∧ (inv.run s).failure = none ∧
      (inv.run s).store = s := by
  cases stop with
  | help long => rw [Invocation.run_of_help h]; exact ⟨rfl, rfl, rfl, rfl⟩
  | version => rw [Invocation.run_of_version h]; exact ⟨rfl, rfl, rfl, rfl⟩
  | unknown | invalidValue | badNumber | invalidUtf8 | conflict | repeated | unexpectedValue =>
    cases hs

theorem Invocation.run_of_stop {stop : Command.Stop} (h : Command.parse inv.args = .error stop) :
    (inv.run s).stop = some stop ∧ (inv.run s).failure = none ∧ (inv.run s).store = s := by
  cases hs : stop.informs with
  | false => rw [Invocation.run_of_refusal h hs]; exact ⟨rfl, rfl, rfl⟩
  | true =>
      obtain ⟨-, hstop, hfailure, hstore⟩ := Invocation.run_of_informs (s := s) h hs
      exact ⟨hstop, hfailure, hstore⟩

/-- A run that stops at the command line never looks at the store. -/
theorem Invocation.run_of_parse_error {stop : Command.Stop}
    (h : Command.parse inv.args = .error stop) (s' : σ) :
    inv.run s' = { inv.run s with store := s' } := by
  simp only [Invocation.run, h]
  split <;> rfl

theorem Invocation.run_of_config_error {parsed : Command.Parsed} {f : Failure}
    (h : Command.parse inv.args = .ok parsed) (hc : Config.ofParsed parsed = .error f) :
    inv.run s =
      ⟨parsed.runProfile.exitCode f.category, "", f.errorLine ++ "\n", none, some f, s⟩ := by
  simp only [Invocation.run, h, hc]
  rfl

variable {parsed : Command.Parsed} {cfg : Config}
  (h : Command.parse inv.args = .ok parsed) (hc : Config.ofParsed parsed = .ok cfg)
include h hc

theorem Invocation.run_of_bump_error {f : Failure} (hf : (cfg.request.run s).result = .error f) :
    (inv.run s).exitCode = parsed.runProfile.exitCode f.category ∧ (inv.run s).stop = none ∧
      (inv.run s).failure = some f ∧ (inv.run s).store = (cfg.request.run s).store := by
  obtain ⟨-, hprofile, -⟩ := Config.ofParsed_eq_ok hc
  simp only [Invocation.run, h, hc, hf, hprofile, and_self]

/-- A bump that went through ends the run with status `0`, whether its report line can be made
and whether the output stream takes it or not. -/
theorem Invocation.run_of_bump_ok {o : Outcome} (hf : (cfg.request.run s).result = .ok o) :
    (inv.run s).exitCode = 0 ∧ (inv.run s).stop = none ∧ (inv.run s).failure = none ∧
      (inv.run s).store = (cfg.request.run s).store := by
  simp only [Invocation.run, h, hc, hf]
  split
  · exact ⟨rfl, rfl, rfl, rfl⟩
  · split <;> exact ⟨rfl, rfl, rfl, rfl⟩

theorem Invocation.store_run_of_config_ok : (inv.run s).store = (cfg.request.run s).store := by
  cases hr : (cfg.request.run s).result with
  | error f => exact (Invocation.run_of_bump_error h hc hr).2.2.2
  | ok o => exact (Invocation.run_of_bump_ok h hc hr).2.2.2

end Run

section Ends

variable (inv : Invocation) (s : σ)

/-- Status `0` comes from the help, the version and a bump that went through, and from nothing
else; in particular not from whether the report line could be written. -/
theorem Invocation.exitCode_run_eq_zero_iff :
    (inv.run s).exitCode = 0 ↔
      (∃ stop, Command.parse inv.args = .error stop ∧ stop.informs = true) ∨
      ∃ parsed cfg o, Command.parse inv.args = .ok parsed ∧ Config.ofParsed parsed = .ok cfg ∧
        (cfg.request.run s).result = .ok o := by
  constructor
  · intro h0
    cases h : Command.parse inv.args with
    | error stop =>
        cases hs : stop.informs with
        | false =>
            rw [Invocation.run_of_refusal h hs] at h0
            exact absurd h0 (Profile.exitCode_ne_zero _ _)
        | true => exact .inl ⟨stop, rfl, hs⟩
    | ok parsed =>
        cases hc : Config.ofParsed parsed with
        | error f =>
            rw [Invocation.run_of_config_error h hc] at h0
            exact absurd h0 (Profile.exitCode_ne_zero _ _)
        | ok cfg =>
            cases hr : (cfg.request.run s).result with
            | error f =>
                rw [(Invocation.run_of_bump_error h hc hr).1] at h0
                exact absurd h0 (Profile.exitCode_ne_zero _ _)
            | ok o => exact .inr ⟨parsed, cfg, o, rfl, hc, hr⟩
  · rintro (⟨stop, h, hs⟩ | ⟨parsed, cfg, o, h, hc, hr⟩)
    · exact (Invocation.run_of_informs h hs).1
    · exact (Invocation.run_of_bump_ok h hc hr).1

variable {inv s} {parsed : Command.Parsed} (h : Command.parse inv.args = .ok parsed)
include h

/-- Once the command line is read, every failure takes its status from the parsed profile. -/
theorem Invocation.exitCode_run_of_failure {f : Failure} (hf : (inv.run s).failure = some f) :
    (inv.run s).exitCode = parsed.runProfile.exitCode f.category := by
  cases hc : Config.ofParsed parsed with
  | error f' =>
      rw [Invocation.run_of_config_error h hc] at hf ⊢
      cases hf
      rfl
  | ok cfg =>
      cases hr : (cfg.request.run s).result with
      | error f' =>
          obtain ⟨h0, -, hf', -⟩ := Invocation.run_of_bump_error h hc hr
          rw [hf'] at hf
          cases hf
          exact h0
      | ok o =>
          rw [(Invocation.run_of_bump_ok h hc hr).2.2.1] at hf
          cases hf

theorem Invocation.store_run_of_dryRun (hd : parsed.dryRun = true) : (inv.run s).store = s := by
  cases hc : Config.ofParsed parsed with
  | error f => rw [Invocation.run_of_config_error h hc]
  | ok cfg =>
      rw [Invocation.store_run_of_config_ok h hc]
      exact cfg.request.store_run_of_dryRun s ((Config.ofParsed_eq_ok hc).2.2.trans hd)

end Ends

/-- A run that does not end with status `0` leaves the store as it was: nothing is written
before the bump went through, and a refused write changes nothing. -/
theorem Invocation.store_run_of_exitCode_ne_zero (inv : Invocation) (s : σ)
    (h0 : (inv.run s).exitCode ≠ 0) : (inv.run s).store = s := by
  cases h : Command.parse inv.args with
  | error stop =>
      cases hs : stop.informs with
      | false => rw [Invocation.run_of_refusal h hs]
      | true => exact (Invocation.run_of_informs h hs).2.2.2
  | ok parsed =>
      cases hc : Config.ofParsed parsed with
      | error f => rw [Invocation.run_of_config_error h hc]
      | ok cfg =>
          cases hr : (cfg.request.run s).result with
          | error f =>
              rw [(Invocation.run_of_bump_error h hc hr).2.2.2]
              exact cfg.request.store_run_of_error s hr
          | ok o => exact absurd (Invocation.run_of_bump_ok h hc hr).1 h0

/-- How a run ends. Status `0` exactly for the help, the version and a bump that went through,
however the report line fares. A command line that stops otherwise has the usage status of the
profile its raw arguments name, and never looks at the store. After it, the first check that
fails decides the failure: the file named, the constant's name, its pattern, the read, the rule,
the write; and every failure has the status of the parsed profile for its class, which context
does not change. A configuration that fails never looks at the store, and a run that does not
end with `0` or is a dry run leaves it as it was; a bump that went through leaves the store
that the write gave. -/
theorem run_exit_status (inv : Invocation) (s : σ) :
    ((inv.run s).exitCode = 0 ↔
      (∃ stop, Command.parse inv.args = .error stop ∧ stop.informs = true) ∨
      ∃ parsed cfg o, Command.parse inv.args = .ok parsed ∧ Config.ofParsed parsed = .ok cfg ∧
        (cfg.request.run s).result = .ok o) ∧
    (∀ stop, Command.parse inv.args = .error stop →
      (inv.run s).stop = some stop ∧ (inv.run s).failure = none ∧ (inv.run s).store = s ∧
      (stop.informs = false →
        (inv.run s).exitCode = (Profile.sniffCommandLine inv.argv).exitCode .usage) ∧
      ∀ s' : σ, inv.run s' = { inv.run s with store := s' }) ∧
    (∀ parsed, Command.parse inv.args = .ok parsed →
      (∀ f, (inv.run s).failure = some f →
        (inv.run s).exitCode = parsed.runProfile.exitCode f.category) ∧
      (parsed.file = none → (inv.run s).failure = some (.of .missingFile)) ∧
      (∀ path e, parsed.file = some path →
        ConstantName.ofString? parsed.constantText = .error e →
        (inv.run s).failure = some (.of (.domain e))) ∧
      (∀ path name e, parsed.file = some path →
        ConstantName.ofString? parsed.constantText = .ok name →
        Rule.make name parsed.ceiling = .error e →
        (inv.run s).failure = some (.of (.domain e))) ∧
      (∀ f, Config.ofParsed parsed = .error f →
        ∀ s' : σ, inv.run s' = { inv.run s with store := s' }) ∧
      (parsed.dryRun = true → (inv.run s).store = s) ∧
      ∀ cfg, Config.ofParsed parsed = .ok cfg →
        (∀ fault, FileStore.read s cfg.path = .error fault →
          (inv.run s).failure = some (.of (.store (.read cfg.path fault)))) ∧
        (∀ content e, FileStore.read s cfg.path = .ok content →
          cfg.rule.apply content = .error e →
          (inv.run s).failure = some ((Failure.of (.domain e)).within cfg.path.display) ∧
          (inv.run s).exitCode = parsed.runProfile.exitCode e.category) ∧
        (∀ content b fault, FileStore.read s cfg.path = .ok content →
          cfg.rule.apply content = .ok b → parsed.dryRun = false →
          FileStore.replace s cfg.path b.content = .error fault →
          (inv.run s).failure = some (.of (.store (.write cfg.path fault)))) ∧
        (∀ content b s', FileStore.read s cfg.path = .ok content →
          cfg.rule.apply content = .ok b → parsed.dryRun = false →
          FileStore.replace s cfg.path b.content = .ok s' →
          (inv.run s).exitCode = 0 ∧ (inv.run s).store = s')) ∧
    ((inv.run s).exitCode ≠ 0 → (inv.run s).store = s) := by
  refine ⟨inv.exitCode_run_eq_zero_iff s, fun stop h => ?_, fun parsed h => ?_,
    inv.store_run_of_exitCode_ne_zero s⟩
  · obtain ⟨hstop, hfailure, hstore⟩ := Invocation.run_of_stop (s := s) h
    exact ⟨hstop, hfailure, hstore, fun hs => by rw [Invocation.run_of_refusal h hs],
      Invocation.run_of_parse_error h⟩
  refine ⟨fun f hf => Invocation.exitCode_run_of_failure h hf, fun hf => ?_,
    fun path e hf hn => ?_, fun path name e hf hn hr => ?_,
    fun f hc s' => by rw [Invocation.run_of_config_error h hc, Invocation.run_of_config_error h hc],
    Invocation.store_run_of_dryRun h, fun cfg hc => ?_⟩
  · rw [Invocation.run_of_config_error h (Config.ofParsed_of_file_none hf)]
  · rw [Invocation.run_of_config_error h (Config.ofParsed_of_name_error hf hn)]
  · rw [Invocation.run_of_config_error h (Config.ofParsed_of_rule_error hf hn hr)]
  have hd : cfg.request.dryRun = parsed.dryRun := (Config.ofParsed_eq_ok hc).2.2
  refine ⟨fun fault hread => ?_, fun content e hread he => ?_,
    fun content b fault hread hb hdry hw => ?_, fun content b s' hread hb hdry hw => ?_⟩
  · have hread' : FileStore.read s cfg.request.path = .error fault := hread
    exact (Invocation.run_of_bump_error h hc
      (congrArg RunResult.result (Request.run_of_read_error hread'))).2.2.1
  · have hread' : FileStore.read s cfg.request.path = .ok content := hread
    obtain ⟨h0, -, hf, -⟩ := Invocation.run_of_bump_error h hc
      (congrArg RunResult.result (Request.run_of_apply_error hread' he))
    exact ⟨hf, h0⟩
  · have hread' : FileStore.read s cfg.request.path = .ok content := hread
    exact (Invocation.run_of_bump_error h hc
      (congrArg RunResult.result (Request.run_of_replace_error hread' hb (hd.trans hdry) hw))).2.2.1
  · have hread' : FileStore.read s cfg.request.path = .ok content := hread
    have hr := Request.run_of_replace_ok hread' hb (hd.trans hdry) hw
    obtain ⟨h0, -, -, hstore⟩ := Invocation.run_of_bump_ok h hc (congrArg RunResult.result hr)
    rw [hr] at hstore
    exact ⟨h0, hstore⟩

end VersionStamp
