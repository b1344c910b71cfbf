import VersionStamp.Text.Utf8

/-! # Paths: byte strings, shown with a replacement character for each stretch that is not UTF-8 -/

namespace VersionStamp

/-- A path as the system takes it: any bytes. -/
structure FilePath where
  bytes : Utf8.Bytes
  deriving DecidableEq, Repr

/-- The path that a text names. -/
def FilePath.ofText (s : String) : FilePath := ⟨Utf8.utf8Bytes s⟩

/-- The text of a path whose bytes are UTF-8. -/
def FilePath.text? (p : FilePath) : Option String := Utf8.text? p.bytes

/-- How a path is shown. -/
def FilePath.display (p : FilePath) : String := Utf8.lossyText p.bytes

instance : ToString FilePath := ⟨FilePath.display⟩

end VersionStamp
