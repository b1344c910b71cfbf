import VersionStamp.Decimal
import VersionStamp.Log.ValuePattern

/-! # Log levels, filters of directives, how a filter is read from its text, and the lines of the
records that it lets through. -/

namespace VersionStamp.Log

/-- Levels of records, from the most to the least severe. -/
inductive Level
  | error
  | warn
  | info
  | debug
  | trace
  deriving DecidableEq, Repr

/-- The rank of a level: `1` for errors up to `5` for traces. A threshold of `0` lets nothing
through. -/
def Level.rank : Level → Nat
  | .error => 1
  | .warn => 2
  | .info => 3
  | .debug => 4
  | .trace => 5

/-- The name of a level in capitals. -/
def Level.name : Level → String
  | .error => "ERROR"
  | .warn => "WARN"
  | .info => "INFO"
  | .debug => "DEBUG"
  | .trace => "TRACE"

/-- The level that the verbosity flags choose: errors only when quiet, otherwise warnings and
one level more for each `-v`, up to traces. -/
def flagLevel (verbose : Nat) (quiet : Bool) : Level :=
  if quiet then .error
  else match verbose with
    | 0 => .warn
    | 1 => .info
    | 2 => .debug
    | _ => .trace

/-- A field that a directive names, perhaps with the value it asks for. -/
structure FieldFilter where
  name : String
  value : Option String := none
  deriving DecidableEq, Repr

/-- One directive of a filter. -/
structure Directive where
  target : Option String := none
  /-- The span the directive names, when it names one. -/
  span : Option String := none
  fields : List FieldFilter := []
  /-- The rank of the most verbose level let through; `0` for none. -/
  threshold : Nat
  deriving DecidableEq, Repr

/-- A filter: its directives in the order they were written. -/
abbrev Filter := List Directive

/-- The filter that lets through `level` and everything more severe, whatever the target. -/
def Filter.upTo (level : Level) : Filter := [{ threshold := level.rank }]

/-- The fields that every record carries: its message and where it was written. -/
def recordFields : List String :=
  ["message", "log.target", "log.module_path", "log.file", "log.line"]

/-- Whether the directive is static: it names no span and asks no field for a value. -/
def Directive.isStatic (d : Directive) : Bool :=
  d.span.isNone && d.fields.all (·.value.isNone)

/-- Whether the directive concerns a record of `target` outside spans. -/
def Directive.concerns (d : Directive) (target : String) : Bool :=
  d.isStatic && d.target.all (fun t => t.isPrefixOf target) &&
    d.fields.all (recordFields.contains ·.name)

/-- Compares lists of texts entry by entry, a list before its extensions. -/
def compareTexts : List String → List String → Ordering
  | [], [] => .eq
  | [], _ :: _ => .lt
  | _ :: _, [] => .gt
  | a :: as, b :: bs => (compare a b).then (compareTexts as bs)

/-- Compares how specific two directives are: by the length of the target in bytes (no target
is shortest), the number of fields, the target (no target first), then the field names. -/
def Directive.compareSpecificity (d b : Directive) : Ordering :=
  let targetLength (t : Option String) : Nat := match t with
    | some t => t.utf8ByteSize + 1
    | none => 0
  let targetOrder : Ordering := match d.target, b.target with
    | none, none => .eq
    | none, some _ => .lt
    | some _, none => .gt
    | some x, some y => compare x y
  (compare (targetLength d.target) (targetLength b.target)).then <|
    (compare d.fields.length b.fields.length).then <|
    targetOrder.then (compareTexts (d.fields.map (·.name)) (b.fields.map (·.name)))

/-- The directive that decides for a record of `target`: the most specific one that concerns
it, the later of two equally specific ones. Only static directives concern records outside
spans, and this program writes none inside them. -/
def Filter.decisive? (f : Filter) (target : String) : Option Directive :=
  f.foldl (fun best d =>
    if d.concerns target then
      match best with
      | some b => if d.compareSpecificity b == .lt then best else some d
      | none => some d
    else best) none

/-- Whether the filter lets through a record of `level` and `target`: no directive concerns it,
and it is dropped, or the decisive one lets its level through. -/
def Filter.enables (f : Filter) (target : String) (level : Level) : Bool :=
  match f.decisive? target with
  | some d => level.rank ≤ d.threshold
  | none => false

/-- The threshold that a level names: a number of at most `5` (`0` lets nothing through), with
one optional `+` and any leading zeros, or a level word in any case (`off` for none). The empty
text names errors. -/
def thresholdOf? (s : String) : Option Nat :=
  let number : Option Nat := match Decimal.readU64 s with
    | .ok n => if n.toNat ≤ 5 then some n.toNat else none
    | .error _ => none
  let w := s.toLower
  match number with
  | some n => some n
  | none =>
    if w = "" then some 1
    else if w = "off" then some 0
    else if w = "error" then some 1
    else if w = "warn" then some 2
    else if w = "info" then some 3
    else if w = "debug" then some 4
    else if w = "trace" then some 5
    else none

/-- A field of a directive as written: a name, or a name, `=` and the value asked for (what
stands after a second `=` is dropped). The value must read. -/
def FieldFilter.parse? (s : String) : Option FieldFilter :=
  match s.splitOn "=" with
  | [name] => some { name }
  | name :: value :: _ => if valueReads value then some { name, value := some value } else none
  | [] => none

/-- The characters of a text with the byte offset of each. -/
def withOffsets : Nat → List Char → List (Nat × Char)
  | _, [] => []
  | n, c :: cs => (n, c) :: withOffsets (n + c.utf8Size) cs

/-- The part of `cs` between the byte offsets `a` and `b`, or from `a` to the end; none when an
offset falls inside a character or beyond the end. -/
def slice (cs : List Char) (a : Nat) (b : Option Nat) : Option String :=
  let marked := withOffsets 0 cs
  let total := (String.ofList cs).utf8ByteSize
  let stop := b.getD total
  let boundary (n : Nat) : Bool := n == total || marked.any (·.1 == n)
  if boundary a && boundary stop && a ≤ stop then
    some (String.ofList ((marked.filter fun (n, _) => a ≤ n && n < stop).map Prod.snd))
  else none

/-- Where the reading of a directive stands. -/
inductive ReadState
  /-- Nothing read yet. -/
  | start
  /-- A level or a target that began at this offset. -/
  | levelOrTarget (offset : Nat)
  /-- Inside the brackets of a span, whose name began at this offset. -/
  | span (offset : Nat)
  /-- Inside the braces of fields, the current one begun at this offset. -/
  | field (offset : Nat)
  /-- After the closing brace of the fields. -/
  | fields
  /-- After the closing bracket. -/
  | target
  /-- A level that began at this offset. -/
  | level (offset : Nat)
  deriving DecidableEq, Repr

/-- Reads one character `c` at byte offset `i` of the trimmed directive; `src` is the untrimmed
text, from which the parts are cut. -/
def ReadState.step (src : List Char) (acc : ReadState × Directive) (ic : Nat × Char) :
    Option (ReadState × Directive) :=
  let (st, d) := acc
  let (i, c) := ic
  match st with
  | .start =>
    if c = '[' then some (.span (i + 1), d)
    else if c = '-' ∨ c = ':' ∨ c = '_' ∨ Text.isAlphanumeric c then some (.levelOrTarget i, d)
    else none
  | .levelOrTarget offset =>
    if c = '=' then do
      let t ← slice src offset (some i)
      some (.level (i + 1), { d with target := some t })
    else if c = '[' then do
      let t ← slice src offset (some i)
      some (.span (i + 1), { d with target := some t })
    else some (st, d)
  | .span offset =>
    if c = ']' then do
      let name ← slice src offset (some i)
      some (.target, { d with span := some name })
    else if c = '\x7b' then do
      let name ← slice src offset (some i)
      some (.field (i + 1), { d with span := if name.isEmpty then none else some name })
    else some (st, d)
  | .field offset =>
    if c = '\x7d' then do
      let text ← slice src offset (some i)
      if text.isEmpty then none
      else
        let f ← FieldFilter.parse? text
        some (.fields, { d with fields := d.fields ++ [f] })
    else some (st, d)
  | .fields => if c = ']' then some (.target, d) else none
  | .target => if c = '=' then some (.level (i + 1), d) else none
  | .level _ => some (st, d)

/-- Ends the reading of a directive: a level or target still open is read to the end of the
untrimmed text, and so is a level after `=`, where nothing means every level. -/
def ReadState.finish (src : List Char) : ReadState × Directive → Option Directive
  | (.levelOrTarget offset, d) => do
    let text ← slice src offset none
    if text.isEmpty then some { d with threshold := 5 }
    else
      match thresholdOf? text with
      | some n => some { d with threshold := n, target := none }
      | none => some { d with threshold := 5, target := some text }
  | (.level offset, d) => do
    let text ← slice src offset none
    if text.isEmpty then some { d with threshold := 5 }
    else
      let n ← thresholdOf? text
      some { d with threshold := n }
  | (.target, d) => some d
  | _ => none

/-- One directive, unless it breaks the grammar. It is read one character at a time from its text
with the blanks at both ends trimmed, but the parts it cuts are cut from the untrimmed text at
the same offsets, so blanks at the front shift every part. It is a level on its own (`warn`,
`3`), or a target, then perhaps a span in brackets (`target[span]`,
`target[span{field,field=value}]`, `[{field}]`), then perhaps `=` and a level. The first
character is a letter, a digit, `-`, `:`, `_` or `[`; a target may hold any character but `=`
and `[`; nothing may follow the closing bracket but `=`. A target without a level lets
everything through, and a target that reads as a level is a level. -/
def Directive.parse? (s : String) : Option Directive :=
  let src := s.toList
  let trimmed := ((src.dropWhile Text.isBlank).reverse.dropWhile Text.isBlank).reverse
  let read := (withOffsets 0 trimmed).foldlM (ReadState.step src) (ReadState.start, { threshold := 5 })
  read.bind (ReadState.finish src)

/-- The filter written in `spec`, unless a directive breaks the grammar. Empty parts between
commas are passed over, and a filter with no directive lets nothing through. -/
def Filter.parse? (spec : String) : Option Filter :=
  (spec.splitOn ",").filter (!·.isEmpty) |>.mapM Directive.parse?

/-- The filter of a run: the written one if there is one and it reads, else the one of the
flags' level. -/
def Filter.choose (spec : Option String) (level : Level) : Filter :=
  match spec.bind Filter.parse? with
  | some f => f
  | none => Filter.upTo level

/-- A record of the log: its level, its target (the path of the module that wrote it) and its
message. -/
structure Record where
  level : Level
  target : String
  message : String
  deriving DecidableEq, Repr

/-- The level as the log line shows it, right-aligned in five columns. -/
def Level.label (l : Level) : String :=
  let n := l.name
  String.ofList (List.replicate (5 - n.length) ' ') ++ n

/-- The line of a record: its level, a space, its message. -/
def Record.line (r : Record) : String := r.level.label ++ " " ++ r.message ++ "\n"

/-- The lines of the records that the filter lets through, in order. -/
def Filter.render (f : Filter) (records : List Record) : String :=
  String.join ((records.filter fun r => f.enables r.target r.level).map Record.line)

end VersionStamp.Log
