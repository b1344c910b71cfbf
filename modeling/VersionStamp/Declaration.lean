import VersionStamp.Constant
import VersionStamp.Decimal
import VersionStamp.Text.Utf8
import VersionStamp.Text.Word
import VersionStamp.Text.Alnum
import VersionStamp.Text.Blank

/-! # Declarations of a constant: the name, white space and ASCII digits standing apart from the
text around them, found by one scan from the left. -/

namespace VersionStamp

open Utf8 Text

/-- The longest front of `bs` made of complete encodings of white space characters; its
length in bytes. -/
def blankRun (bs : Bytes) : Nat :=
  match _hd : decodeFront bs with
  | some (c, n) => if isBlank c then n + blankRun (bs.drop n) else 0
  | none => 0
termination_by bs.length
decreasing_by
  have := decodeFront_length _hd
  simp only [List.length_drop]
  omega

/-- The length of the longest front of `bs` made of ASCII digits. -/
def digitRun (bs : Bytes) : Nat := (bs.takeWhile Decimal.isDigitByte).length

/-- Whether the character that ends `before` (nearest byte first) is a word character. -/
def wordBefore (before : Bytes) : Bool := (decodeBack before).any isWordChar

/-- Whether a declaration may end in front of `after`: the bytes there do not start with an
alphanumeric character, `_` or `.`. -/
def endsApart (after : Bytes) : Bool :=
  match decodeFront after with
  | some (c, _) => !(isAlphanumeric c || c == '_' || c == '.')
  | none => true

/-- The separator and digit lengths of the shape `name blanks digits` at the front of `rest`. -/
def shapeAt (name rest : Bytes) : Option (Nat × Nat) :=
  if name.isPrefixOf rest then
    let afterName := rest.drop name.length
    let w := blankRun afterName
    let d := digitRun (afterName.drop w)
    if 0 < w ∧ 0 < d then some (w, d) else none
  else none

/-- The separator and digit lengths of a declaration that starts at the front of `rest`, after
the bytes `before` (nearest first): the shape is there and no word character precedes it. The
first byte is compared before the character behind it is decoded, which keeps the scan
linear. -/
def startsAt (name before rest : Bytes) : Option (Nat × Nat) :=
  if name.head? == rest.head? && !wordBefore before then shapeAt name rest else none

/-- A place where the shape was found: where it starts, its separator and its digits. -/
structure Site where
  start : Nat
  separator : Bytes
  digits : Bytes
  deriving DecidableEq, Repr

/-- The sites that the scan keeps, from `rest` on; `before` holds the bytes before `rest`,
nearest first, and `pos` is the offset of `rest`. -/
def scanSites (name : Bytes) (before rest : Bytes) (pos : Nat) : List Site :=
  match rest with
  | [] => []
  | b :: tail =>
    match startsAt name before (b :: tail) with
    | some (w, d) =>
      let len := name.length + w + d
      let whole := b :: tail
      let site : Site :=
        ⟨pos, (whole.drop name.length).take w, (whole.drop (name.length + w)).take d⟩
      let after := tail.drop (len - 1)
      let kept := if endsApart after then [site] else []
      kept ++ scanSites name ((whole.take len).reverse ++ before) after (pos + len)
    | none => scanSites name (b :: before) tail (pos + 1)
termination_by rest.length
decreasing_by
  all_goals simp only [List.length_cons, List.length_drop]
  all_goals omega

/-- The sites of declarations of `name` in `content`, from the left. A declaration is the name,
one or more white space characters and one or more ASCII digits; it counts only where no word
character stands before the name and the bytes after the digits do not start with an
alphanumeric character, `_` or `.`. Where the shape is found the scan takes the longest runs of
white space and digits, keeps the site if it stands apart and goes on after the digits;
elsewhere it moves one byte on. -/
def sitesOf (name : Bytes) (content : Bytes) : List Site := scanSites name [] content 0

/-- The longest name whose compiled pattern stays within the size limit of 10 MiB; every
character of a name costs the same. -/
def patternLimit : Nat := 327648

/-- A name whose pattern fits the size limit. -/
structure Pattern where
  name : ConstantName
  fits : name.text.length ≤ patternLimit

/-- The pattern of `name`, unless it passes the size limit. -/
def Pattern.compile? (name : ConstantName) : Option Pattern :=
  if h : name.text.length ≤ patternLimit then some ⟨name, h⟩ else none

/-- The unique declaration found by a pattern: its separator is kept as the text it decodes to,
and `start` and `stop` bound the bytes of the whole declaration. -/
structure Declaration where
  name : ConstantName
  blanks : String
  value : UInt64
  start : Nat
  stop : Nat

/-- The text of the name, the separator and the digits of `value`, in UTF-8: the declaration
with a new value. -/
def Declaration.render (d : Declaration) (value : UInt64) : Bytes :=
  utf8Bytes (d.name.text ++ d.blanks ++ toString value)

/-- The declaration at a site. Separator and digits are decoded as text, and the digits are read
as an unsigned 64-bit number; any failure to read them is an overflow. -/
def Site.declaration (name : ConstantName) (s : Site) : Except DomainError Declaration :=
  let digits := String.ofList (decodeLossy s.digits)
  match Decimal.readU64 digits with
  | .ok value =>
    .ok ⟨name, String.ofList (decodeLossy s.separator), value, s.start,
      s.start + name.bytes.length + s.separator.length + s.digits.length⟩
  | .error _ => .error (.valueOverflow name.text digits)

/-- The one declaration of the pattern's name in `content`: none or several are failures, and
only a single site has its digits read. -/
def Pattern.find (p : Pattern) (content : Bytes) : Except DomainError Declaration :=
  match sitesOf p.name.bytes content with
  | [] => .error (.notFound p.name.text)
  | [s] => s.declaration p.name
  | sites => .error (.ambiguous p.name.text sites.length)

end VersionStamp
