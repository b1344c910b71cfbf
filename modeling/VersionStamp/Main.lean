import VersionStamp.Program

/-! # The `bump` command: a run on the file named on the command line, written back and printed;
a refused write or report is told to the run, which is done again with that fact. -/

namespace VersionStamp

/-- The file named on the command line as the system gave it: its bytes or why they were
refused, why a write is refused if it is, and the bytes written. -/
structure DiskFile where
  content : Except IoFault (List UInt8)
  writeFault : Option IoFault := none
  written : Option (List UInt8) := none

instance : FileStore DiskFile where
  read d _ := d.content
  replace d _ bytes :=
    match d.writeFault with
    | some fault => .error fault
    | none => .ok { d with written := some bytes }

/-- The system's error number of an error, where it carries one. -/
def systemCode? : IO.Error → Option UInt32
  | .noFileOrDirectory _ code _ => some code
  | .inappropriateType _ code _ => some code
  | .otherError code _ => some code
  | .resourceExhausted _ code _ => some code
  | .permissionDenied _ code _ => some code
  | _ => none

/-- The fault of a refused access. -/
def faultOf (e : IO.Error) : IoFault :=
  match systemCode? e with
  | some 2 => .noEntry
  | some 20 => .notDirectory
  | some 21 => .isDirectory
  | some 28 => .noSpace
  | some 36 => .nameTooLong
  | some 40 => .linkLoop
  | _ => .refused (toString e)

end VersionStamp

open VersionStamp in
/-- Runs `bump` on the real file system. -/
def main (args : List String) : IO UInt32 := do
  let argv := "bump".toUTF8 :: args.map String.toUTF8
  let inv : Invocation := { argv, logSpec := ← IO.getEnv "RUST_LOG" }
  let content ← match inv.path? with
    | some path =>
      try pure (.ok (← IO.FS.readBinFile path.display).toList)
      catch e => pure (.error (faultOf e))
    | none => pure (.error .noEntry)
  let first := inv.run ({ content } : DiskFile)
  let report ← match first.store.written, inv.path? with
    | some bytes, some path =>
      try
        IO.FS.writeBinFile path.display ⟨bytes.toArray⟩
        pure first
      catch e => pure (inv.run ({ content, writeFault := some (faultOf e) } : DiskFile))
    | _, _ => pure first
  let stderr ← IO.getStderr
  let stdout ← IO.getStdout
  stderr.putStr report.stderr
  try
    stdout.putStr report.stdout
    stdout.flush
  catch _ =>
    let refused := { inv with stdoutFull := true }.run report.store
    stderr.putStr (refused.stderr.drop report.stderr.length).toString
  return report.exitCode.toUInt32
