import Attribution.Text.Utf8

/-!
File contents as bytes, and their reading as text.
-/

namespace Attribution

abbrev Bytes := List UInt8

namespace Bytes

/-- The UTF-8 bytes of a string. -/
def ofString (s : String) : Bytes := Text.Utf8.encode s.toList

/-- The text of the bytes, with a replacement character for what encodes none. -/
def toText (b : Bytes) : List Char := Text.Utf8.decodeLossy b

end Bytes

end Attribution
