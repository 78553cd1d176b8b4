-- Blank space, in three sizes: that of JSON, that of ASCII and that of Unicode.

namespace HttpCalls.Blank

/-- The four characters that JSON allows between its tokens. -/
def isJson (b : UInt8) : Bool := b = 0x20 || b = 0x09 || b = 0x0A || b = 0x0D

/-- ASCII blank space, with the form feed. -/
def isAscii (b : UInt8) : Bool := isJson b || b = 0x0C

/-- The characters with the Unicode property `White_Space`. -/
def isUnicode (c : Char) : Bool :=
  let n := c.toNat
  (0x09 ≤ n && n ≤ 0x0D) || n = 0x20 || n = 0x85 || n = 0xA0 || n = 0x1680 ||
    (0x2000 ≤ n && n ≤ 0x200A) || n = 0x2028 || n = 0x2029 || n = 0x202F || n = 0x205F || n = 0x3000

/-- The text without the characters of a class at both ends. -/
def strip (blank : Char → Bool) (text : List Char) : List Char :=
  ((text.dropWhile blank).reverse.dropWhile blank).reverse

/-- The text without Unicode blank space at both ends. -/
def trim (text : List Char) : List Char := strip isUnicode text

end HttpCalls.Blank
