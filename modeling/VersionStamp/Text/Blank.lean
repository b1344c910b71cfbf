import VersionStamp.Text.Ranges

/-! # White space: the characters with the Unicode property White_Space. -/

namespace VersionStamp.Text

/-- Characters with the property White_Space. -/
def blankRanges : CharRanges := #[
  (0x0009, 0x000D), (0x0020, 0x0020), (0x0085, 0x0085), (0x00A0, 0x00A0), (0x1680, 0x1680),
  (0x2000, 0x200A), (0x2028, 0x2029), (0x202F, 0x202F), (0x205F, 0x205F), (0x3000, 0x3000)]

/-- Whether `c` has the property White_Space: the ASCII controls tab to carriage return, space,
next line, no-break space and the spaces and separators of the General Punctuation and CJK
blocks, but not zero width space, byte order mark or the Mongolian vowel separator. -/
def isBlank (c : Char) : Bool := blankRanges.contains c

end VersionStamp.Text
