import VersionStamp.Config
import VersionStamp.Log
import VersionStamp.Command.Message
import VersionStamp.Command.Help

/-! # A run of the program: the command line, the configuration, the bump in a store, and the
exit status, output and error streams and store that it ends with. -/

namespace VersionStamp

/-- How the program is started: the command line as the system hands it over, the program name
and then each argument as a byte string; the log filter from the environment; and whether the
output stream refuses everything written to it. -/
structure Invocation where
  argv : List ByteArray
  logSpec : Option String := none
  stdoutFull : Bool := false

/-- The arguments after the program name. -/
def Invocation.args (inv : Invocation) : List ByteArray := inv.argv.drop 1

/-- What a run shows and leaves. -/
structure Report (σ : Type) where
  exitCode : UInt8
  stdout : String
  stderr : String
  /-- Where reading the command line stopped, if it did. -/
  stop : Option Command.Stop
  /-- The failure that ended the run, if one did. -/
  failure : Option Failure
  store : σ

/-- The log record of a note, under the target of the part of the program that writes it. -/
def Note.record : Note → Log.Record
  | .read path size => ⟨.debug, "header_bump_infra::filesystem", s!"read {size} bytes from {path}"⟩
  | .located name start stop path =>
    ⟨.debug, "header_bump_usecase::orchestrator", s!"{name} declared at bytes {start}..{stop} of {path}"⟩
  | .untouched path => ⟨.info, "header_bump_usecase::orchestrator", s!"dry run: leaving {path} untouched"⟩
  | .wrote path size => ⟨.debug, "header_bump_infra::filesystem", s!"wrote {size} bytes to {path}"⟩

/-- The record that opens a bump. -/
def startRecord (c : Config) : Log.Record :=
  let ceiling := match c.rule.ceiling with
    | some m => toString m
    | none => "none"
  ⟨.info, "header_bump::app", s!"bumping {c.rule.name.text} in {c.path} (ceiling: {ceiling})"⟩

/-- The warning logged when the report line of a finished bump cannot be given, with the
problem. -/
def unreportedRecord (o : Outcome) (problem : String) : Log.Record :=
  ⟨.warn, "header_bump::presentation", s!"{problem} ({o.name} is now {o.current})"⟩

/-- The problem of an output stream that refuses the report line. -/
def refusedOutputProblem : String := "failed to write outcome: " ++ IoFault.noSpace.message

/-- The problem of a report line that cannot be made. -/
def unrenderedProblem (why : String) : String := "failed to render outcome: " ++ why

variable {σ : Type} [FileStore σ]

/-- Runs the program against the store `s`. -/
def Invocation.run (inv : Invocation) (s : σ) : Report σ :=
  match Command.parse inv.args with
  | .error stop =>
    match stop with
    | .help long =>
      ⟨0, if inv.stdoutFull then "" else Command.helpText long, "", some stop, none, s⟩
    | .version => ⟨0, if inv.stdoutFull then "" else Command.versionText, "", some stop, none, s⟩
    | _ =>
      ⟨(Profile.sniffCommandLine inv.argv).exitCode .usage, "", stop.errorText, some stop, none, s⟩
  | .ok parsed =>
    let filter := Log.Filter.choose inv.logSpec (Log.flagLevel parsed.verbose parsed.quiet)
    let profile := parsed.profile.getD .build
    match Config.ofParsed parsed with
    | .error f => ⟨profile.exitCode f.category, "", f.errorLine ++ "\n", none, some f, s⟩
    | .ok cfg =>
      let r := cfg.request.run s
      let records := startRecord cfg :: r.notes.map Note.record
      match r.result with
      | .error f =>
        ⟨cfg.profile.exitCode f.category, "", filter.render records ++ f.errorLine ++ "\n",
          none, some f, r.store⟩
      | .ok o =>
        match o.render cfg.format with
        | .error why =>
          ⟨0, "", filter.render (records ++ [unreportedRecord o (unrenderedProblem why)]), none,
            none, r.store⟩
        | .ok line =>
          if inv.stdoutFull then
            ⟨0, "", filter.render (records ++ [unreportedRecord o refusedOutputProblem]), none,
              none, r.store⟩
          else ⟨0, line ++ "\n", filter.render records, none, none, r.store⟩

/-- The file that a run reads, when the command line and the configuration allow a bump. -/
def Invocation.path? (inv : Invocation) : Option FilePath :=
  match Command.parse inv.args with
  | .error _ => none
  | .ok parsed =>
    match Config.ofParsed parsed with
    | .ok cfg => some cfg.path
    | .error _ => none

end VersionStamp
