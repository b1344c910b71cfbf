import VersionStamp.Store

/-! # A directory tree below the working directory, how paths resolve in it, and the atomic
write that replaces a file there; a disk is such a tree with what its system refuses a writer. -/

namespace VersionStamp

/-- An entry of the tree. -/
inductive Node
  | file (content : List UInt8) (mode : Nat)
  | dir
  | link (target : String)
  deriving DecidableEq, Repr

/-- The entries below the working directory, by path; the components of a path are joined by
`/`. -/
structure Tree where
  entries : List (String × Node) := []
  deriving Repr

/-- The bits of a mode that a file keeps: the permissions with the set-user, set-group and
sticky bits. The kind of file is not part of it. -/
def permissionBits (mode : Nat) : Nat := mode % 4096

/-- Where a walk through the file system stands. -/
inductive Place
  /-- Inside the tree, at these components below the working directory. -/
  | inside (components : List String)
  /-- Outside the tree, at these components below the root. -/
  | outside (components : List String)
  deriving DecidableEq, Repr

/-- The directory that holds the working directory, as components below the root. -/
def workParent : List String := ["tmp"]

/-- The directory above a place: above the working directory lies `workParent`, and the root
is its own parent. -/
def Place.parent : Place → Place
  | .inside [] => .outside workParent
  | .inside cs => .inside cs.dropLast
  | .outside cs => .outside cs.dropLast

/-- The key of a place inside the tree. -/
def Place.key : Place → Option String
  | .inside cs => some ("/".intercalate cs)
  | .outside _ => none

/-- The entries outside the tree that a path can name. -/
def outsideNode : List String → Option Node
  | [] => some .dir
  | ["tmp"] => some .dir
  | ["dev"] => some .dir
  | ["dev", "null"] => some (.file [] 438)
  | _ => none

/-- The entry at a place: the working directory is a directory. -/
def Tree.nodeAt (t : Tree) : Place → Option Node
  | .inside [] => some .dir
  | .inside cs => t.entries.lookup ("/".intercalate cs)
  | .outside cs => outsideNode cs

/-- The place of the entry named `c` in the directory at `p`. -/
def Place.child : Place → String → Place
  | .inside cs, c => .inside (cs ++ [c])
  | .outside cs, c => .outside (cs ++ [c])

/-- The entry named `c` in the directory at `p`, with its place. -/
def Tree.childOf (t : Tree) (p : Place) (c : String) : Option (Place × Node) :=
  (t.nodeAt (p.child c)).map fun n => (p.child c, n)

/-- Whether a path starts at the root, and its components. -/
def startOf (path : String) : Bool × List String :=
  match path.splitOn "/" with
  | "" :: rest => if path.isEmpty then (false, []) else (true, rest)
  | cs => (false, cs)

/-- The longest component of a path, in bytes. -/
def nameLimit : Nat := 255

/-- The longest path, in bytes. -/
def pathLimit : Nat := 4095

/-- Resolves `components` from the directory at `p`, with `fuel` links left to follow. The
result is the place of the last entry reached and the links still left. -/
def Tree.walk (t : Tree) (fuel : Nat) (p : Place) (components : List String) :
    Except IoFault (Place × Nat) :=
  match components with
  | [] => .ok (p, fuel)
  | c :: rest =>
    match t.nodeAt p with
    | some (.file _ _) => .error .notDirectory
    | _ =>
      if c = "" ∨ c = "." then t.walk fuel p rest
      else if c = ".." then t.walk fuel p.parent rest
      else if nameLimit < c.utf8ByteSize then .error .nameTooLong
      else
        match t.childOf p c with
        | none => .error .noEntry
        | some (_, .link target) =>
          match fuel with
          | 0 => .error .linkLoop
          | fuel + 1 =>
            let (absolute, cs) := startOf target
            match t.walk fuel (if absolute then .outside [] else p) cs with
            | .error e => .error e
            | .ok (r, left) => t.walk (min left fuel) r rest
        | some (q, _) => t.walk fuel q rest
termination_by (fuel, components.length)
decreasing_by
  all_goals simp_wf
  all_goals first
    | exact Prod.Lex.right _ (by simp)
    | exact Prod.Lex.left _ _ (by omega)

/-- The most links that one resolution follows. -/
def linkLimit : Nat := 40

/-- The place that a path leads to, every link followed. -/
def Tree.resolve (t : Tree) (path : String) : Except IoFault Place :=
  if path.isEmpty then .error .noEntry
  else if pathLimit < path.utf8ByteSize then .error .nameTooLong
  else
    let (absolute, cs) := startOf path
    (t.walk linkLimit (if absolute then .outside [] else .inside []) cs).map Prod.fst

/-- The bytes of the file that `path` leads to. -/
def Tree.read (t : Tree) (path : String) : Except IoFault (List UInt8) := do
  let p ← t.resolve path
  match t.nodeAt p with
  | some (.file content _) => return content
  | some .dir => throw .isDirectory
  | _ => throw .noEntry

/-- Sets the entry at `key`, in place of an entry there or after all others. -/
def Tree.set (t : Tree) (key : String) (n : Node) : Tree :=
  if t.entries.any (·.1 == key) then
    ⟨t.entries.map fun e => if e.1 == key then (key, n) else e⟩
  else ⟨t.entries ++ [(key, n)]⟩

/-- Removes the entry at `key`. -/
def Tree.remove (t : Tree) (key : String) : Tree := ⟨t.entries.filter (·.1 != key)⟩

/-- What a replacement asks of the system beyond the tree: the process number and the clock,
which name the temp file, the mode that a created file gets, and which of its steps the system
refuses. The superuser on a disk with room is refused nothing. -/
structure WriteSystem where
  pid : Nat := 0
  nanos : Nat := 0
  /-- `0o666` less the mask of the process. -/
  newFileMode : Nat := 420
  /-- Opening the file for writing, refused for want of permission. -/
  openFault : Option IoFault := none
  /-- Creating the temp file, refused although no entry has its name. -/
  createFault : Option IoFault := none
  /-- Writing the bytes, refused after the first so many of them. -/
  writeFault : Option (Nat × IoFault) := none
  /-- Flushing a file written in place to the disk. -/
  syncFault : Option IoFault := none
  /-- Giving the temp file the permission bits of the file it replaces. -/
  chmodFault : Option IoFault := none
  /-- Renaming the temp file over the file. -/
  renameFault : Option IoFault := none
  /-- Whether removing the temp file after a failed step succeeds. -/
  removes : Bool := true

/-- The temp file's name: hidden, after the process and the time. -/
def WriteSystem.tempName (sys : WriteSystem) : String := s!".{sys.pid}.{sys.nanos}.tmp"

/-- The answer of a replacement and the tree it leaves, whether it succeeded or not. -/
structure WriteResult where
  result : Except IoFault Unit
  tree : Tree

/-- Writes `data` over the file at `key` where it stands: truncated, written, then flushed. A
refused write leaves the bytes written so far. -/
def Tree.overwrite (t : Tree) (sys : WriteSystem) (key : String) (mode : Nat)
    (data : List UInt8) : WriteResult :=
  match sys.writeFault with
  | some (n, fault) => ⟨.error fault, t.set key (.file (data.take n) mode)⟩
  | none =>
    match sys.syncFault with
    | some fault => ⟨.error fault, t.set key (.file data mode)⟩
    | none => ⟨.ok (), t.set key (.file data mode)⟩

/-- Writes `data` to a new temp file at `tmpKey`, gives it the permission bits `mode` and
renames it over the file at `key`. A failed step removes the temp file again, if it can. -/
def Tree.writeThroughTemp (t : Tree) (sys : WriteSystem) (key tmpKey : String) (mode : Nat)
    (data : List UInt8) : WriteResult :=
  let created := t.set tmpKey (.file [] sys.newFileMode)
  let failed (t' : Tree) (fault : IoFault) : WriteResult :=
    ⟨.error fault, if sys.removes then t'.remove tmpKey else t'⟩
  match sys.writeFault with
  | some (n, fault) => failed (created.set tmpKey (.file (data.take n) sys.newFileMode)) fault
  | none =>
    let written := created.set tmpKey (.file data sys.newFileMode)
    match sys.chmodFault with
    | some fault => failed written fault
    | none =>
      let moded := written.set tmpKey (.file data mode)
      match sys.renameFault with
      | some fault => failed moded fault
      | none => ⟨.ok (), (moded.remove tmpKey).set key (.file data mode)⟩

/-- Replaces the bytes of the file that `path` leads to, keeping the old file whole until the
new one is complete. Every link is followed, and the file opened for writing to see that it
may be; the bytes go to a temp file beside it, which gets the file's permission bits and is
renamed over it. Where no temp file can be made, the file is written in place. The root has
no directory to hold a temp file, and files outside the tree are not written. -/
def Tree.writeAtomically (t : Tree) (sys : WriteSystem) (path : String) (data : List UInt8) :
    WriteResult :=
  match t.resolve path with
  | .error fault => ⟨.error fault, t⟩
  | .ok p =>
    if p = .outside [] then ⟨.error (.refused "path has no parent"), t⟩
    else
      match t.nodeAt p, p.key with
      | some (.file _ mode), some key =>
        match sys.openFault with
        | some fault => ⟨.error fault, t⟩
        | none =>
          let tmp := p.parent.child sys.tempName
          match tmp.key, t.nodeAt tmp, sys.createFault with
          | some tmpKey, none, none => t.writeThroughTemp sys key tmpKey mode data
          | _, _, _ => t.overwrite sys key mode data
      | some .dir, _ => ⟨.error .isDirectory, t⟩
      | _, _ => ⟨.error .noEntry, t⟩

/-- What resolving a path that is not UTF-8 meets. No entry has a name that is not UTF-8, so the
walk ends at the first such component, unless the path's length, a component before it or its own
length stops it first. -/
def Tree.untextFault (t : Tree) (path : FilePath) : IoFault :=
  if pathLimit < path.bytes.length then .nameTooLong
  else
    let (absolute, cs) := match path.bytes.splitOn 0x2F with
      | [] :: rest => (true, rest)
      | cs => (false, cs)
    let isText (c : Utf8.Bytes) : Bool := (Utf8.text? c).isSome
    match cs.dropWhile isText with
    | [] => .noEntry
    | bad :: _ =>
      let start := if absolute then Place.outside [] else .inside []
      match t.walk linkLimit start ((cs.takeWhile isText).filterMap Utf8.text?) with
      | .error fault => fault
      | .ok (p, _) =>
        match t.nodeAt p with
        | some (.file _ _) => .notDirectory
        | _ => if nameLimit < bad.length then .nameTooLong else .noEntry

/-- A tree and what its system refuses a writer. -/
structure Disk where
  tree : Tree
  system : WriteSystem := {}

/-- The bytes of the file that `path` leads to. -/
def Disk.read (d : Disk) (path : FilePath) : Except IoFault (List UInt8) :=
  match path.text? with
  | some text => d.tree.read text
  | none => .error (d.tree.untextFault path)

/-- Replaces the bytes of the file that `path` leads to, as the disk's system lets a writer do;
its permission bits stay. A refused write is answered as refused and the tree taken as it was,
which the writer ensures except where a write in place stops midway or a temp file cannot be
removed. -/
def Disk.replace (d : Disk) (path : FilePath) (content : List UInt8) : Except IoFault Disk :=
  match path.text? with
  | some text =>
    let w := d.tree.writeAtomically d.system text content
    w.result.map fun _ => { d with tree := w.tree }
  | none => .error (d.tree.untextFault path)

instance : FileStore Disk where
  read := Disk.read
  replace := Disk.replace

/-- The directories that hold `path`, outermost first. -/
def ancestors (path : String) : List String :=
  let cs := (path.splitOn "/").filter (!·.isEmpty)
  (List.range (cs.length - 1)).map fun k => "/".intercalate (cs.take (k + 1))

/-- Adds an entry and, as directories, every directory above it that is missing. -/
def Tree.add (t : Tree) (path : String) (n : Node) : Tree :=
  let withParents := (ancestors path).foldl (fun t d =>
    if t.entries.any (·.1 == d) then t else t.set d .dir) t
  let key := "/".intercalate ((path.splitOn "/").filter (!·.isEmpty))
  withParents.set key n

/-- Permission bits as octal digits. -/
def modeText (mode : Nat) : String := String.ofList (Nat.toDigits 8 mode)

end VersionStamp
