import VersionStamp.Rule
import VersionStamp.Outcome

/-! # Bumping a file in a store: a run is a program of calls to the store, which answers and
records each call in turn. -/

namespace VersionStamp

/-- A place that holds files: reading a file's bytes and replacing them may each be refused. -/
class FileStore (σ : Type) where
  read : σ → FilePath → Except IoFault (List UInt8)
  replace : σ → FilePath → List UInt8 → Except IoFault σ

/-- A call that a run makes to its store. -/
inductive Call
  | read (path : FilePath)
  | replace (path : FilePath) (content : List UInt8)
  deriving DecidableEq, Repr

/-- A computation that talks to a store: it ends with a value, or makes a call and goes on with
the store's answer. -/
inductive StoreProgram (α : Type) where
  | done (a : α)
  | read (path : FilePath) (next : Except IoFault (List UInt8) → StoreProgram α)
  | replace (path : FilePath) (content : List UInt8) (next : Except IoFault Unit → StoreProgram α)

/-- What a program left after it ran against a store: its value, the store, and the calls it
made, in order. -/
structure Execution (σ α : Type) where
  value : α
  store : σ
  calls : List Call

/-- Runs a program against the store `s`. A refused replacement leaves the store as it was. -/
def StoreProgram.exec {σ α : Type} [FileStore σ] : StoreProgram α → σ → Execution σ α
  | .done a, s => ⟨a, s, []⟩
  | .read path next, s =>
    let e := (next (FileStore.read s path)).exec s
    { e with calls := .read path :: e.calls }
  | .replace path content next, s =>
    let e := match FileStore.replace s path content with
      | .ok s' => (next (.ok ())).exec s'
      | .error fault => (next (.error fault)).exec s
    { e with calls := .replace path content :: e.calls }

/-- One bump: of which file, by which rule, and whether only to report what would change. -/
structure Request where
  path : FilePath
  rule : Rule
  dryRun : Bool

/-- What a run reports as it goes. -/
inductive Note
  /-- The file was read; it has `size` bytes. -/
  | read (path : FilePath) (size : Nat)
  /-- The declaration spans the bytes from `start` to `stop`. -/
  | located (name : String) (start stop : Nat) (path : FilePath)
  /-- A dry run leaves the file as it is. -/
  | untouched (path : FilePath)
  /-- The file was replaced by `size` bytes. -/
  | wrote (path : FilePath) (size : Nat)
  deriving DecidableEq, Repr

/-- The store after a run, what the run concluded, its notes, and the calls it made. -/
structure RunResult (σ : Type) where
  store : σ
  result : Except Failure Outcome
  notes : List Note
  calls : List Call

/-- Reads, bumps and, unless it is a dry run, writes back: nothing is written unless the rule
succeeded. A failure of the rule carries the path, as it is shown, as its one context; a refused
read or write is passed on as it is. -/
def Request.program (req : Request) : StoreProgram (Except Failure Outcome × List Note) :=
  .read req.path fun
    | .error fault => .done (.error (.of (.store (.read req.path fault))), [])
    | .ok content =>
      let readNote := Note.read req.path content.length
      match req.rule.apply content with
      | .error e => .done (.error ((Failure.of (.domain e)).within req.path.display), [readNote])
      | .ok bump =>
        let located :=
          Note.located req.rule.name.text bump.declaration.start bump.declaration.stop req.path
        let outcome (written : Bool) : Outcome :=
          ⟨req.path, req.rule.name.text, bump.previous, bump.next, written⟩
        if req.dryRun then
          .done (.ok (outcome false), [readNote, located, .untouched req.path])
        else
          .replace req.path bump.content fun
            | .error fault =>
              .done (.error (.of (.store (.write req.path fault))), [readNote, located])
            | .ok () =>
              .done (.ok (outcome true), [readNote, located, .wrote req.path bump.content.length])

variable {σ : Type} [FileStore σ]

/-- Runs the bump against the store `s`. -/
def Request.run (req : Request) (s : σ) : RunResult σ :=
  let e := req.program.exec s
  ⟨e.store, e.value.1, e.value.2, e.calls⟩

end VersionStamp
