/-! # Decimal numerals: the value of a run of digits, the digits of a number, and an unsigned 64-bit
number read from a command-line text. -/

namespace VersionStamp.Decimal

/-- An ASCII digit byte. -/
def isDigitByte (b : UInt8) : Bool := 0x30 ≤ b && b ≤ 0x39

/-- The number that the digit bytes `ds` denote, leading zeros allowed. -/
def digitsValue (ds : List UInt8) : Nat :=
  ds.foldl (fun acc d => acc * 10 + (d.toNat - 0x30)) 0

/-- The ASCII digits of `n`, without leading zeros. -/
def decimalBytes (n : Nat) : List UInt8 :=
  (Nat.toDigits 10 n).map fun c => c.toNat.toUInt8

/-- The least number that does not fit in 64 bits. -/
def wordBound : Nat := Nat.pow 2 64

/-- Why a text is no unsigned 64-bit number. -/
inductive ReadError
  | empty
  | invalidDigit
  | tooLarge
  deriving DecidableEq, Repr

/-- The text of a refused number. -/
def ReadError.message : ReadError → String
  | .empty => "cannot parse integer from empty string"
  | .invalidDigit => "invalid digit found in string"
  | .tooLarge => "number too large to fit in target type"

/-- Reads digits onto `acc` from the left; a non-digit is reported before an overflow at the
same place. -/
def readDigitsFrom (acc : Nat) : List Char → Except ReadError Nat
  | [] => .ok acc
  | c :: rest =>
    if !c.isDigit then .error .invalidDigit
    else
      let next := acc * 10 + (c.toNat - '0'.toNat)
      if next < wordBound then readDigitsFrom next rest else .error .tooLarge

/-- Reads an unsigned 64-bit number: digits with at most one leading `+`, from the left, naming
the first fault: an empty text, a character that is not a digit, or a number past `2^64 - 1`. -/
def readU64 (s : String) : Except ReadError UInt64 :=
  let digits : Except ReadError (List Char) :=
    match s.toList with
    | [] => .error .empty
    | ['+'] => .error .invalidDigit
    | '+' :: rest => .ok rest
    | cs => .ok cs
  match digits with
  | .error e => .error e
  | .ok cs => (readDigitsFrom 0 cs).map Nat.toUInt64

end VersionStamp.Decimal
