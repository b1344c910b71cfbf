import VersionStamp.Command.Parse
import VersionStamp.Store

/-! # The configuration of a run, made from what the command line says by checks in a fixed
order. -/

namespace VersionStamp

/-- Everything a run needs. -/
structure Config where
  path : FilePath
  profile : Profile
  rule : Rule
  dryRun : Bool
  format : Format

/-- The configuration that the parsed command line asks for: a file must be named, then the
constant (the one given, else the profile's) must be a valid name whose pattern fits. The ceiling
is the one given with `--max`, else the profile's, and none with `--no-max`. -/
def Config.ofParsed (p : Command.Parsed) : Except Failure Config := do
  let path ← match p.file with
    | some path => pure path
    | none => throw (Failure.of .missingFile)
  let profile := p.profile.getD .build
  let name ← match ConstantName.ofString? (p.constant.getD profile.constant) with
    | .ok name => pure name
    | .error e => throw (Failure.of (.domain e))
  let ceiling := if p.noMax then none else p.max.or profile.ceiling
  let rule ← match Rule.make name ceiling with
    | .ok rule => pure rule
    | .error e => throw (Failure.of (.domain e))
  return ⟨path, profile, rule, p.dryRun, p.format.getD .text⟩

/-- The bump that a configuration asks for. -/
def Config.request (c : Config) : Request := ⟨c.path, c.rule, c.dryRun⟩

end VersionStamp
