import VersionStamp.Command.Spec
import VersionStamp.Command.Similar

/-! # Reading the command line, its arguments byte strings as the system hands them over, from
the left until one stops the reading. -/

namespace VersionStamp.Command

/-- Why reading the command line stopped without a result. -/
inductive Stop
  /-- Help was asked for, the long form or the short one. -/
  | help (long : Bool)
  /-- The version was asked for. -/
  | version
  /-- An unknown argument, perhaps with a similar known one to suggest, perhaps with the hint
  to pass it after `--`, and the arguments given so far for the usage line. -/
  | unknown (arg : String) (similar : Option String) (valueTip : Bool) (usage : List Arg)
  /-- A value outside the argument's choices, or an empty one where a value is needed. -/
  | invalidValue (arg : Arg) (value : String)
  /-- A value that is no unsigned 64-bit number. -/
  | badNumber (arg : Arg) (value : String) (why : Decimal.ReadError)
  /-- A value that had to be text and is not UTF-8. -/
  | invalidUtf8
  /-- Two arguments that cannot go together. -/
  | conflict (arg other : Arg) (usage : List Arg)
  /-- An argument given twice. -/
  | repeated (arg : Arg)
  /-- A value attached to a switch, with the arguments for the usage line and whether one of the
  command's own arguments was given before it. -/
  | unexpectedValue (arg : Arg) (value : String) (usage : List Arg) (grouped : Bool)
  deriving DecidableEq, Repr

/-- What the command line says. -/
structure Parsed where
  file : Option FilePath := none
  profile : Option Profile := none
  constant : Option String := none
  max : Option UInt64 := none
  noMax : Bool := false
  dryRun : Bool := false
  format : Option Format := none
  verbose : Nat := 0
  quiet : Bool := false
  /-- The arguments given, in the order they are held. -/
  given : List Arg := []
  deriving DecidableEq, Repr

/-- How an argument was spelled. -/
inductive Spelling
  | long
  | short
  | position
  deriving DecidableEq, Repr

/-- A value-taking argument whose values are held back. -/
structure Pending where
  arg : Arg
  spelling : Spelling
  values : List Utf8.Bytes
  deriving DecidableEq, Repr

/-- Where the reading stands. -/
structure State where
  parsed : Parsed := {}
  pending : Option Pending := none
  /-- The option whose value the next argument is. -/
  expecting : Option Arg := none
  fileTaken : Bool := false
  /-- Whether `--` was met. -/
  trailing : Bool := false
  deriving DecidableEq, Repr

/-- Records that `a` was given, keeping its place if it was given before. -/
def Parsed.note (p : Parsed) (a : Arg) : Parsed :=
  if p.given.contains a then p else { p with given := p.given ++ [a] }

/-- The text of a value that must be text. -/
def readText (v : Utf8.Bytes) : Except Stop String :=
  match Utf8.text? v with
  | some s => .ok s
  | none => .error .invalidUtf8

/-- The choice that a value of `a` names; a value that is not UTF-8 names none. -/
def readChoice {α : Type} (a : Arg) (ofName? : String → Option α) (v : Utf8.Bytes) :
    Except Stop α :=
  match Utf8.text? v with
  | some s =>
    match ofName? s with
    | some x => .ok x
    | none => .error (.invalidValue a s)
  | none => .error (.invalidValue a (Utf8.lossyText v))

/-- Stores the value of a value-taking argument, or says why it cannot be stored. The file is
kept as bytes; a name or a number must be UTF-8, and a choice that is not names none. -/
def Parsed.store (p : Parsed) (a : Arg) (v : Utf8.Bytes) : Except Stop Parsed :=
  match a with
  | .file => if v.isEmpty then .error (.invalidValue .file "") else .ok { p with file := some ⟨v⟩ }
  | .profile => (readChoice .profile Profile.ofName? v).map fun pr => { p with profile := some pr }
  | .constant => (readText v).map fun s => { p with constant := some s }
  | .max => do
    let s ← readText v
    match Decimal.readU64 s with
    | .ok n => .ok { p with max := some n }
    | .error e => .error (.badNumber .max s e)
  | .format => (readChoice .format Format.ofName? v).map fun f => { p with format := some f }
  | _ => .ok p

/-- Turns a switch on. -/
def Parsed.switch (p : Parsed) : Arg → Parsed
  | .noMax => { p with noMax := true }
  | .dryRun => { p with dryRun := true }
  | .quiet => { p with quiet := true }
  | _ => p

/-- Gives argument `a` with `values`. A counted flag moves to the end of the given arguments. -/
def State.take (st : State) (a : Arg) (sp : Spelling) (values : List Utf8.Bytes) :
    State × Option Stop :=
  if a.takesValue && values.isEmpty then (st, some (.invalidValue a ""))
  else
    match a.action with
    | .set =>
      if st.parsed.given.contains a then (st, some (.repeated a))
      else
        let st := { st with parsed := st.parsed.note a }
        match values with
        | v :: _ =>
          match st.parsed.store a v with
          | .ok p => ({ st with parsed := p }, none)
          | .error e => (st, some e)
        | [] => (st, none)
    | .setTrue =>
      if st.parsed.given.contains a then (st, some (.repeated a))
      else ({ st with parsed := (st.parsed.note a).switch a }, none)
    | .count =>
      let p := st.parsed
      ({ st with parsed := { p with given := p.given.erase a ++ [a],
                                    verbose := min 255 (p.verbose + 1) } }, none)
    | .help => (st, some (.help (sp != .short)))
    | .version => (st, some .version)

/-- Stores the values held back, if any. -/
def State.resolve (st : State) : State × Option Stop :=
  match st.pending with
  | none => (st, none)
  | some p => { st with pending := none }.take p.arg p.spelling p.values

/-- Stores the values held back, then gives `a`. -/
def State.react (st : State) (a : Arg) (sp : Spelling) (values : List Utf8.Bytes) :
    State × Option Stop :=
  match st.resolve with
  | (st, some e) => (st, some e)
  | (st, none) => st.take a sp values

/-- Reads `--name` or `--name=value`. At an unknown option the value held back is stored if it
can be, and a failure to store it is passed over: the unknown option is the one reported. -/
def State.long (st : State) (name : String) (value : Option Utf8.Bytes) : State × Option Stop :=
  match Arg.ofLong? name with
  | some a =>
    if a.takesValue then
      match value with
      | some v =>
        let (st, e) := st.react a .long [v]
        ({ st with expecting := none }, e)
      | none =>
        match st.resolve with
        | (st, some e) => (st, some e)
        | (st, none) => ({ st with pending := some ⟨a, .long, []⟩, expecting := some a }, none)
    else
      match value with
      | some v =>
        let used := st.parsed.given ++ [a]
        ((st.resolve).1,
          some (.unexpectedValue a (Utf8.lossyText v) used (st.parsed.given.any Arg.isOwn)))
      | none =>
        let (st, e) := st.react a .long []
        ({ st with expecting := none }, e)
  | none =>
    let st := st.resolve.1
    let similar := suggest? name longNames
    let parsed := match similar.bind Arg.ofLong? with
      | some s => st.parsed.note s
      | none => st.parsed
    ({ st with parsed }, some (.unknown ("--" ++ name) (similar.map ("--" ++ ·)) similar.isNone
      parsed.given))

/-- Reads a cluster of short flags, then the bytes after them that are not UTF-8, if any. -/
def State.shorts (st : State) (invalid : Option Utf8.Bytes) : List Char → State × Option Stop
  | [] =>
    match invalid with
    | none => ({ st with expecting := none }, none)
    | some rest => ((st.resolve).1, some (.unknown ("-" ++ Utf8.lossyText rest) none true []))
  | c :: rest =>
    match Arg.ofShort? c with
    | some a =>
      match st.react a .short [] with
      | (st, some e) => (st, some e)
      | (st, none) => st.shorts invalid rest
    | none => ((st.resolve).1, some (.unknown ("-" ++ c.toString) none true []))

/-- Whether an argument is spelled like an option. -/
def looksLikeOption (tok : String) : Bool :=
  (tok.startsWith "-" && tok != "-") && tok != "--"

/-- Reads a positional argument: the file, or one too many. -/
def State.positional (st : State) (tok : Utf8.Bytes) : State × Option Stop :=
  if !st.fileTaken then
    match st.resolve with
    | (st, some e) => (st, some e)
    | (st, none) =>
      ({ st with pending := some ⟨.file, .position, [tok]⟩, fileTaken := true, expecting := none },
        none)
  else
    let shown := Utf8.lossyText tok
    ((st.resolve).1, some (.unknown shown none (!st.trailing && looksLikeOption shown) []))

/-- How an argument before `--` reads. -/
inductive Token
  /-- `--` itself. -/
  | escape
  /-- A long option: its name, shown as text, and the bytes after the first `=`, if any. -/
  | long (name : String) (value : Option Utf8.Bytes)
  /-- Short flags: the characters of the longest UTF-8 front after the dash, then the bytes
  after it, if any. -/
  | shorts (flags : List Char) (invalid : Option Utf8.Bytes)
  /-- A value or a positional argument, `-` among them. -/
  | plain
  deriving DecidableEq, Repr

/-- Sorts an argument by its leading dashes. -/
def Token.ofBytes : Utf8.Bytes → Token
  | [0x2D, 0x2D] => .escape
  | 0x2D :: 0x2D :: body =>
    let (name, rest) := body.span (· != 0x3D)
    .long (Utf8.lossyText name) rest.tail?
  | [0x2D] => .plain
  | 0x2D :: body =>
    let flags := Utf8.chars body
    let rest := body.drop (String.ofList flags).utf8ByteSize
    .shorts flags (if rest.isEmpty then none else some rest)
  | _ => .plain

/-- Reads one argument. -/
def State.step (st : State) (tok : Utf8.Bytes) : State × Option Stop :=
  if st.trailing then st.positional tok
  else
    match Token.ofBytes tok with
    | .escape => ({ st with trailing := true }, none)
    | .long name value => st.long name value
    | .shorts flags invalid => st.shorts invalid flags
    | .plain =>
      match st.expecting, st.pending with
      | some _, some p =>
        ({ st with pending := some { p with values := p.values ++ [tok] }, expecting := none },
          none)
      | _, _ => st.positional tok

/-- Reads the arguments from the left until one stops the reading. `--` makes every later
argument positional. A long option takes its value after `=` or from the next argument, and a
cluster of short flags is read flag by flag. The value of an option, and the file, are held back
and stored when the next option or positional argument comes, or at the end; a value that cannot
be stored stops the reading there, as do an option given twice, a value for a switch, an unknown
option and a second file. -/
def State.steps : State → List Utf8.Bytes → State × Option Stop
  | st, [] => (st, none)
  | st, tok :: rest =>
    match st.step tok with
    | (st, some e) => (st, some e)
    | (st, none) => st.steps rest

/-- The first given argument that cannot go with another given one. -/
def Parsed.conflict? (p : Parsed) : Option Stop :=
  p.given.findSome? fun a =>
    (p.given.find? fun b => b != a && a.conflictsWith b).map fun b =>
      .conflict a b (p.given.filter (· != b))

/-- Reads the arguments of the command line, without the program name; after the last one, two
given arguments that cannot go together stop it. -/
def parse (args : List ByteArray) : Except Stop Parsed :=
  match ({} : State).steps (args.map (·.data.toList)) with
  | (_, some e) => .error e
  | (st, none) =>
    match st.resolve with
    | (_, some e) => .error e
    | (st, none) =>
      match st.parsed.conflict? with
      | some e => .error e
      | none => .ok st.parsed

end VersionStamp.Command
