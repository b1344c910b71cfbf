import VersionStamp.Store

/-! # A store of one file in memory that may refuse every write, and sessions of steps run on it. -/

namespace VersionStamp

/-- One file, perhaps absent, and whether writes are refused. -/
structure MemoryFile where
  content : Option (List UInt8)
  refuseWrites : Bool := false
  deriving DecidableEq, Repr

instance : FileStore MemoryFile where
  read m _ :=
    match m.content with
    | some bytes => .ok bytes
    | none => .error (.refused "stub: no such file")
  replace m _ bytes :=
    if m.refuseWrites then .error (.refused "stub: read-only") else .ok { m with content := some bytes }

/-- A step of a session. -/
inductive SessionStep
  /-- Bump the constant `name` with an optional ceiling, perhaps only as a dry run. -/
  | bump (name : String) (ceiling : Option UInt64) (dryRun : Bool)
  /-- Replace the file, or delete it with `none`. -/
  | set (content : Option (List UInt8))
  /-- Refuse writes from now on, or stop refusing them. -/
  | refuseWrites (on : Bool)

/-- What a bump step concluded: a refused name or ceiling before the run, or the run's result. -/
inductive StepReport
  | refused (e : DomainError)
  | ran (result : Except Failure Outcome)

/-- The request of a bump step, unless its name is refused. -/
def Request.make (path : FilePath) (name : String) (ceiling : Option UInt64) (dryRun : Bool) :
    Except DomainError Request := do
  let n ← ConstantName.ofString? name
  let rule ← Rule.make n ceiling
  return ⟨path, rule, dryRun⟩

/-- Runs one step on the file at `path`. -/
def MemoryFile.step (m : MemoryFile) (path : FilePath) :
    SessionStep → MemoryFile × Option StepReport
  | .bump name ceiling dryRun =>
    match Request.make path name ceiling dryRun with
    | .error e => (m, some (.refused e))
    | .ok req =>
      let r := req.run m
      (r.store, some (.ran r.result))
  | .set content => ({ m with content }, none)
  | .refuseWrites on => ({ m with refuseWrites := on }, none)

/-- Runs the steps in order; each step's store and report. -/
def MemoryFile.session (m : MemoryFile) (path : FilePath) :
    List SessionStep → List (MemoryFile × Option StepReport)
  | [] => []
  | s :: rest =>
    let (m', report) := m.step path s
    (m', report) :: m'.session path rest

end VersionStamp
