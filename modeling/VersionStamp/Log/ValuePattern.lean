import VersionStamp.Text.Blank
import VersionStamp.Text.Alnum

/-! # Values that a field filter asks for: a number, or a regular expression that reads. -/

namespace VersionStamp.Log

open Text

/-! ## Numbers -/

/-- Whether `cs` is a non-empty run of ASCII digits. -/
def allDigits (cs : List Char) : Bool := !cs.isEmpty && cs.all Char.isDigit

/-- Whether `cs` is empty or an exponent: `e` or `E`, an optional sign, then digits. -/
def exponentReads : List Char → Bool
  | [] => true
  | e :: rest =>
    (e == 'e' || e == 'E') &&
      match rest with
      | '+' :: ds | '-' :: ds => allDigits ds
      | ds => allDigits ds

/-- Whether `cs`, its sign taken off, is a number with digits: `12`, `1.5`, `.5` or `1.`, then
an optional exponent. -/
def mantissaReads (cs : List Char) : Bool :=
  let whole := cs.takeWhile Char.isDigit
  match cs.drop whole.length with
  | '.' :: rest =>
    let fraction := rest.takeWhile Char.isDigit
    (whole.length + fraction.length != 0) && exponentReads (rest.drop fraction.length)
  | rest => !whole.isEmpty && exponentReads rest

/-- Whether `s` reads as a floating-point number: an optional sign, then `inf`, `infinity` or
`nan` in any case, or digits with an optional point and fraction and an optional exponent. -/
def numberReads (s : String) : Bool :=
  let cs := match s.toList with
    | '+' :: rest | '-' :: rest => rest
    | cs => cs
  let word := (String.ofList cs).toLower
  word == "inf" || word == "infinity" || word == "nan" || mantissaReads cs

/-! ## Patterns -/

/-- How the rest of a pattern reads: whether blanks and comments are skipped (flag `x`) and
whether it matches characters rather than bytes (flag `u`). -/
structure PatternMode where
  spaced : Bool := false
  unicode : Bool := true
  deriving DecidableEq, Repr

/-- Skips blanks and comments; `inComment` says whether a comment is open. A comment runs from
`#` to the end of its line. -/
def skipBlanksFrom : Bool → List Char → List Char
  | _, [] => []
  | true, c :: cs => if c = '\n' then skipBlanksFrom false cs else skipBlanksFrom true cs
  | false, c :: cs =>
    if isBlank c then skipBlanksFrom false cs
    else if c = '#' then skipBlanksFrom true cs
    else c :: cs

/-- Skipping blanks never lengthens the text. -/
theorem skipBlanksFrom_length_le (b : Bool) (cs : List Char) :
    (skipBlanksFrom b cs).length ≤ cs.length := by
  induction cs generalizing b with
  | nil => cases b <;> simp [skipBlanksFrom]
  | cons c cs ih =>
    cases b with
    | true =>
      simp only [skipBlanksFrom]
      split
      · exact Nat.le_succ_of_le (ih false)
      · exact Nat.le_succ_of_le (ih true)
    | false =>
      simp only [skipBlanksFrom]
      split
      · exact Nat.le_succ_of_le (ih false)
      · split
        · exact Nat.le_succ_of_le (ih true)
        · exact Nat.le_refl _

/-- What follows once the blanks and comments that the mode skips are skipped. -/
def PatternMode.skip (m : PatternMode) (cs : List Char) : List Char :=
  if m.spaced then skipBlanksFrom false cs else cs

/-- Skipping never lengthens the text. -/
theorem PatternMode.skip_length_le (m : PatternMode) (cs : List Char) :
    (m.skip cs).length ≤ cs.length := by
  unfold PatternMode.skip
  split
  · exact skipBlanksFrom_length_le false cs
  · exact Nat.le_refl _

/-- What an escape stands for. -/
inductive Escape
  /-- One character; `byte` when it was written as two hexadecimal digits after `\x`. -/
  | literal (c : Char) (byte : Bool)
  /-- Digits, blanks or word characters, or their complement when `negated`. -/
  | perl (negated : Bool)
  /-- The characters with a property. -/
  | property
  /-- A position in the text; `word` for the boundaries of words. -/
  | assertion (word : Bool)
  deriving DecidableEq, Repr

/-- The value of a hexadecimal digit. -/
def hexDigit? (c : Char) : Option Nat :=
  if '0' ≤ c ∧ c ≤ '9' then some (c.toNat - '0'.toNat)
  else if 'a' ≤ c ∧ c ≤ 'f' then some (c.toNat - 'a'.toNat + 10)
  else if 'A' ≤ c ∧ c ≤ 'F' then some (c.toNat - 'A'.toNat + 10)
  else none

/-- The character that hexadecimal digits denote, unless the number is no scalar value. -/
def hexChar? (ds : List Nat) : Option Char :=
  let n := ds.foldl (fun acc d => acc * 16 + d) 0
  if n.isValidChar then some (Char.ofNat n) else none

/-- Reads `n` hexadecimal digits, the first at the front of `cs` and each later one after what
the mode skips; then skips once more. -/
def readHexDigits (m : PatternMode) : Nat → List Char → Option (List Nat × List Char)
  | 0, cs => some ([], cs)
  | _ + 1, [] => none
  | n + 1, c :: cs => do
    let d ← hexDigit? c
    match n with
    | 0 => some ([d], m.skip cs)
    | n + 1 =>
      let cs := m.skip cs
      if cs.isEmpty then none
      else
        let (ds, rest) ← readHexDigits m (n + 1) cs
        some (d :: ds, rest)

/-- Reads hexadecimal digits up to `}`, each after what the mode skips, and what follows the
brace once the mode skips. -/
def readHexBraced (m : PatternMode) : List Char → Option (List Nat × List Char)
  | [] => none
  | c :: rest =>
    if c = '}' then some ([], m.skip rest)
    else do
      let d ← hexDigit? c
      let (ds, after) ← readHexBraced m (m.skip rest)
      some (d :: ds, after)
termination_by cs => cs.length
decreasing_by
  have := m.skip_length_le rest
  simp only [List.length_cons]
  omega

/-- Reads a character written in hexadecimal after `\x`, `\u` or `\U` (named by `kind`): two,
four or eight digits, or any number of them in braces. -/
def readHex (m : PatternMode) (kind : Char) : List Char → Option (Escape × List Char)
  | [] => none
  | '{' :: rest => do
    let (ds, after) ← readHexBraced m (m.skip rest)
    if ds.isEmpty then none
    else
      let c ← hexChar? ds
      some (.literal c false, after)
  | cs => do
    let width := if kind = 'x' then 2 else if kind = 'u' then 4 else 8
    let (ds, after) ← readHexDigits m width cs
    let c ← hexChar? ds
    some (.literal c (kind = 'x'), after)

/-- Reads the name of a property in braces up to `}`, each character after what the mode skips;
the name and what follows the brace. -/
def readPropertyName (m : PatternMode) : List Char → Option (List Char × List Char)
  | [] => none
  | c :: rest =>
    if c = '}' then some ([], rest)
    else do
      let (name, after) ← readPropertyName m (m.skip rest)
      some (c :: name, after)
termination_by cs => cs.length
decreasing_by
  have := m.skip_length_le rest
  simp only [List.length_cons]
  omega

/-- Whether a one-letter property name is known: the general categories other, letter, mark,
number, punctuation, symbol and separator, in either case. -/
def oneLetterProperty (c : Char) : Bool := "clmnpszCLMNPSZ".contains c

/-- Reads a property after `\p` or `\P`: a name in braces or one letter. -/
def readProperty (m : PatternMode) : List Char → Option (List Char)
  | [] => none
  | c :: rest =>
    if c = '{' then do
      let (name, after) ← readPropertyName m (m.skip rest)
      if name.isEmpty then none else some after
    else if c = '\\' then none
    else if oneLetterProperty c then some (m.skip rest)
    else none

/-- Whether `c` may follow `\` and stand for itself: ASCII characters that are no letter, no
digit and neither `<` nor `>`. -/
def escapable (c : Char) : Bool :=
  c.val < 128 && !c.isAlphanum && c != '<' && c != '>'

/-- The names of the boundaries written `\b{name}`. -/
def boundaryNames : List String := ["start", "end", "start-half", "end-half"]

/-- Whether `c` may stand in the name of a boundary. -/
def boundaryChar (c : Char) : Bool := c.isAlpha || c == '-'

/-- Reads what follows `\b`: perhaps a boundary name in braces. A brace that is not followed by
a letter or `-` belongs to what comes next. -/
def readBoundary (m : PatternMode) (rest : List Char) : Option (Escape × List Char) :=
  match rest with
  | '{' :: more =>
    match m.skip more with
    | [] => none
    | inner@(c :: _) =>
      if !boundaryChar c then some (.assertion true, rest)
      else
        let name := inner.takeWhile boundaryChar
        match inner.drop name.length with
        | '}' :: after =>
          if boundaryNames.contains (String.ofList name) then some (.assertion true, after)
          else none
        | _ => none
  | _ => some (.assertion true, rest)

/-- Reads an escape, `cs` being what follows the backslash. -/
def readEscape (m : PatternMode) : List Char → Option (Escape × List Char)
  | [] => none
  | c :: rest =>
    if c.isDigit then none
    else if c = 'x' ∨ c = 'u' ∨ c = 'U' then readHex m c (m.skip rest)
    else if c = 'p' ∨ c = 'P' then (readProperty m (m.skip rest)).map (.property, ·)
    else if "dswDSW".contains c then some (.perl c.isUpper, rest)
    else if escapable c then some (.literal c false, rest)
    else match c with
      | 'a' => some (.literal '\x07' false, rest)
      | 'f' => some (.literal '\x0C' false, rest)
      | 't' => some (.literal '\t' false, rest)
      | 'n' => some (.literal '\n' false, rest)
      | 'r' => some (.literal '\r' false, rest)
      | 'v' => some (.literal '\x0B' false, rest)
      | 'A' | 'z' => some (.assertion false, rest)
      | 'b' => readBoundary m rest
      | 'B' | '<' | '>' => some (.assertion true, rest)
      | _ => none

/-- Whether an escape may stand outside a class in mode `m`: no boundary of words while `u` is
on, and with `u` off nothing that can match a byte that is not a whole character. -/
def Escape.fitsPattern (m : PatternMode) : Escape → Bool
  | .assertion word => !(word && m.unicode)
  | .literal c byte => m.unicode || !byte || c.val < 128
  | .perl negated => m.unicode || !negated
  | .property => m.unicode

/-- Whether an escape may stand inside a class in mode `m`: no position at all, and with `u`
off only ASCII characters. -/
def Escape.fitsClass (m : PatternMode) : Escape → Bool
  | .assertion _ => false
  | .literal c _ => m.unicode || c.val < 128
  | .perl negated => m.unicode || !negated
  | .property => m.unicode

/-- The names of the classes written `[:name:]`. -/
def asciiClassNames : List String :=
  ["alnum", "alpha", "ascii", "blank", "cntrl", "digit", "graph", "lower", "print", "punct",
    "space", "upper", "word", "xdigit"]

/-- What follows a class `[:name:]` or `[:^name:]` at the front of `cs`, when one stands there;
in mode `m`, a complemented one only when `u` is on. -/
def asciiClass? (m : PatternMode) : List Char → Option (List Char)
  | '[' :: ':' :: rest =>
    let (negated, rest) := match rest with
      | '^' :: more => (true, more)
      | more => (false, more)
    let name := rest.takeWhile (· != ':')
    match rest.drop name.length with
    | ':' :: ']' :: after =>
      if asciiClassNames.contains (String.ofList name) && (m.unicode || !negated) then some after
      else none
    | _ => none
  | _ => none

/-- One member of a class at the front of `cs`: an escape, or any other character as itself. -/
def readClassItem (m : PatternMode) : List Char → Option (Escape × List Char)
  | [] => none
  | c :: rest => if c = '\\' then readEscape m rest else some (.literal c false, rest)

/-- Reads a member of a class or a range `a-b` of them. A `-` before `]` or before another `-`
is no range. -/
def readRange (m : PatternMode) (cs : List Char) : Option (List Char) := do
  let (first, cs) ← readClassItem m cs
  match m.skip cs with
  | [] => none
  | '-' :: more =>
    match (m.skip more).head? with
    | some ']' | some '-' => if first.fitsClass m then some ('-' :: more) else none
    | _ =>
      let (second, rest) ← readClassItem m (m.skip more)
      match first, second with
      | .literal a _, .literal b _ =>
        if a ≤ b && first.fitsClass m && second.fitsClass m then some rest else none
      | _, _ => none
  | after => if first.fitsClass m then some after else none

/-- Reads the `-` that open a class as members; the class must not end there. -/
def readDashes (m : PatternMode) : List Char → Option (Bool × List Char)
  | [] => none
  | c :: rest =>
    if c = '-' then
      if (m.skip rest).isEmpty then none
      else (readDashes m (m.skip rest)).map fun (_, after) => (true, after)
    else some (false, c :: rest)
termination_by cs => cs.length
decreasing_by
  have := m.skip_length_le rest
  simp only [List.length_cons]
  omega

/-- Reads the opening of a class at the front of `cs`, which starts with `[`: an optional `^`,
any `-` and then a `]` that comes first, the last two as members. With `u` off, a complemented
class does not read. -/
def openClass (m : PatternMode) (cs : List Char) : Option (List Char) := do
  let cs := m.skip cs.tail
  let (negated, cs) ← match cs with
    | [] => none
    | '^' :: rest => some (true, m.skip rest)
    | rest => some (false, rest)
  if cs.isEmpty || (negated && !m.unicode) then none
  else
    let (dashes, cs) ← readDashes m cs
    match dashes, cs with
    | false, ']' :: rest =>
      let rest := m.skip rest
      if rest.isEmpty then none else some rest
    | _, rest => some rest

/-- Reads a class, `depth` brackets deep, up to and past its last `]`; `fuel` bounds the steps,
each of which takes at least one character. -/
def readClass (m : PatternMode) : Nat → Nat → List Char → Option (List Char)
  | 0, _, _ => none
  | fuel + 1, depth, cs =>
    match m.skip cs with
    | [] => none
    | '[' :: more =>
      match (if depth = 0 then none else asciiClass? m ('[' :: more)) with
      | some rest => readClass m fuel depth rest
      | none => do
        let rest ← openClass m ('[' :: more)
        readClass m fuel (depth + 1) rest
    | ']' :: rest => if depth ≤ 1 then some rest else readClass m fuel (depth - 1) rest
    | '&' :: '&' :: rest | '-' :: '-' :: rest | '~' :: '~' :: rest => readClass m fuel depth rest
    | other => do
      let rest ← readRange m other
      readClass m fuel depth rest

/-- Reads a decimal count: blanks, digits (each followed by what the mode skips), blanks. The
count, when there are digits and it fits in 32 bits, and what follows. -/
def readDigits (m : PatternMode) : List Char → List Char × List Char
  | [] => ([], [])
  | c :: rest =>
    if c.isDigit then
      let (ds, after) := readDigits m (m.skip rest)
      (c :: ds, after)
    else ([], c :: rest)
termination_by cs => cs.length
decreasing_by
  have := m.skip_length_le rest
  simp only [List.length_cons]
  omega

/-- Reads a count: blanks, digits, blanks. -/
def readCountNumber (m : PatternMode) (cs : List Char) : Option Nat × List Char :=
  let (ds, after) := readDigits m (cs.dropWhile isBlank)
  let value := ds.foldl (fun acc d => acc * 10 + (d.toNat - '0'.toNat)) 0
  (if ds.isEmpty || Nat.pow 2 32 ≤ value then none else some value, after.dropWhile isBlank)

/-- Reads a counted repetition after `{`: `n}`, `n,}` or `n,m}` with `n ≤ m`, and an optional
`?` after it. -/
def readCount (m : PatternMode) (cs : List Char) : Option (List Char) := do
  let cs := m.skip cs
  if cs.isEmpty then none
  else
    let (low, cs) := readCountNumber m cs
    let lowValue ← low
    let rest ← match cs with
      | [] => none
      | ',' :: more =>
        match m.skip more with
        | [] => none
        | '}' :: after => some ('}' :: after)
        | after =>
          let (high, rest) := readCountNumber m after
          let highValue ← high
          if lowValue ≤ highValue then some rest else none
      | other => some other
    match rest with
    | '}' :: after =>
      match m.skip after with
      | '?' :: lazy => some lazy
      | after => some after
    | _ => none

/-- Whether `c` may stand in a group name: a letter or `_` first, then also digits, `.`, `[`
and `]`. -/
def nameChar (first : Bool) (c : Char) : Bool :=
  if first then c == '_' || isAlphabetic c
  else c == '_' || c == '.' || c == '[' || c == ']' || isAlphanumeric c

/-- Reads a group name up to `>`: the name and what follows. -/
def readGroupName (cs : List Char) : Option (String × List Char) :=
  let name := cs.takeWhile (· != '>')
  match cs.drop name.length with
  | '>' :: after =>
    match name with
    | [] => none
    | c :: rest =>
      if nameChar true c && rest.all (nameChar false) then some (String.ofList name, after)
      else none
  | _ => none

/-- The flags of a flag group, from after `(?` up to `:` or `)`: the mode they make, whether
there were any, the character that ends them and what follows it. -/
def readFlags (m : PatternMode) (seen : List Char) (negated lastNegation : Bool) :
    List Char → Option (PatternMode × Bool × Char × List Char)
  | [] => none
  | c :: rest =>
    if c = ':' ∨ c = ')' then
      if lastNegation then none else some (m, !seen.isEmpty || negated, c, rest)
    else if rest.isEmpty then none
    else if c = '-' then
      if negated then none else readFlags m seen true true rest
    else if "imsUuRx".contains c then
      if seen.contains c then none
      else
        let m := if c = 'x' then { m with spaced := !negated }
          else if c = 'u' then { m with unicode := !negated }
          else m
        readFlags m (c :: seen) negated false rest
    else none

/-- What the reader holds while it reads a pattern. -/
structure PatternState where
  mode : PatternMode := {}
  /-- The modes outside the groups still open, the innermost first. -/
  outer : List PatternMode := []
  /-- Whether the last item read may take a repetition. -/
  repeatable : Bool := false
  /-- The names of the named groups so far. -/
  names : List String := []

/-- Opens a named group. -/
def PatternState.named (st : PatternState) (cs : List Char) :
    Option (PatternState × List Char) := do
  let (name, after) ← readGroupName cs
  if st.names.contains name then none
  else some ({ st with outer := st.mode :: st.outer, repeatable := false,
                       names := name :: st.names }, after)

/-- Reads what follows `(`: look-around, which does not read; a named group; flags for the rest
of the group or a group with its own flags; or a plain group. -/
def PatternState.openGroup (st : PatternState) (cs : List Char) :
    Option (PatternState × List Char) :=
  match st.mode.skip cs with
  | '?' :: '=' :: _ | '?' :: '!' :: _ | '?' :: '<' :: '=' :: _ | '?' :: '<' :: '!' :: _ => none
  | '?' :: 'P' :: '<' :: rest => st.named rest
  | '?' :: '<' :: rest => st.named rest
  | '?' :: rest => do
    let (mode, any, close, after) ← readFlags st.mode [] false false rest
    if close = ')' then
      if any then some ({ st with mode, repeatable := false }, after) else none
    else some ({ st with mode, outer := st.mode :: st.outer, repeatable := false }, after)
  | rest => some ({ st with outer := st.mode :: st.outer, repeatable := false }, rest)

/-- Reads a pattern to its end; `fuel` bounds the steps, each of which takes at least one
character. -/
def PatternState.read : Nat → PatternState → List Char → Bool
  | 0, _, _ => false
  | fuel + 1, st, cs =>
    match st.mode.skip cs with
    | [] => st.outer.isEmpty
    | c :: rest =>
      if c = '(' then
        match st.openGroup rest with
        | some (st, after) => PatternState.read fuel st after
        | none => false
      else if c = ')' then
        match st.outer with
        | [] => false
        | m :: ms => PatternState.read fuel { st with mode := m, outer := ms, repeatable := true } rest
      else if c = '|' then PatternState.read fuel { st with repeatable := false } rest
      else if c = '[' then
        match readClass st.mode (rest.length + 2) 0 (c :: rest) with
        | some after => PatternState.read fuel { st with repeatable := true } after
        | none => false
      else if c = '?' ∨ c = '*' ∨ c = '+' then
        st.repeatable &&
          PatternState.read fuel st (match rest with
            | '?' :: lazy => lazy
            | other => other)
      else if c = '{' then
        st.repeatable &&
          match readCount st.mode rest with
          | some after => PatternState.read fuel st after
          | none => false
      else if c = '\\' then
        match readEscape st.mode rest with
        | some (e, after) =>
          e.fitsPattern st.mode && PatternState.read fuel { st with repeatable := true } after
        | none => false
      else if c = '.' then
        st.mode.unicode && PatternState.read fuel { st with repeatable := true } rest
      else PatternState.read fuel { st with repeatable := true } rest

/-- Whether `s` reads as a pattern, a regular expression in the usual syntax: alternatives with
`|`; groups `(...)`, named groups `(?P<name>...)` and `(?<name>...)`, flag groups `(?flags)` and
`(?flags:...)` with the flags `i m s U u R x` and `-` before those to turn off; classes in
brackets with ranges, nested classes, the operators `&&`, `--` and `~~` and the named classes
`[:alpha:]`; the repetitions `?`, `*`, `+`, `{n}`, `{n,}` and `{n,m}`, each perhaps followed by
`?`; and escapes. With the flag `x`, blanks are skipped and `#` starts a comment that runs to the
end of the line.

A pattern does not read when a group or a class is left open, or a group is closed that was
never opened; a repetition has nothing before it, or a count is missing, too large or
decreasing; a range in a class runs backwards or has a class for an end; an escape is unknown or
incomplete, or names a digit (references back are not supported); a group name is empty,
repeated or holds a character that names may not hold; a flag is unknown, repeated, or a `-` is
repeated or ends the flags; look-around is asked for; or it asks for a boundary of words while
the flag `u` is on, as the matcher decides those only for ASCII text, or, with the flag `u` off,
for something that can match a byte that is not a whole character, such as `.`, a complemented
class or `\xFF`. -/
def patternReads (s : String) : Bool :=
  ({} : PatternState).read (s.length + 1) s.toList

/-- Whether a field filter may ask for the value `s`: a number or a pattern. When it is
neither, the filter does not read, and neither does the filter text that holds it. -/
def valueReads (s : String) : Bool := numberReads s || patternReads s

end VersionStamp.Log
