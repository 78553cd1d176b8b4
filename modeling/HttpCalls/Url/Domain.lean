-- Domain names in a URL: the characters of a name are brought to one form, names
-- beyond ASCII are written in Punycode, and characters that would end a host or
-- confuse a reader are refused. The form covers case, full width, the dots of other
-- scripts and characters without a trace; the other replacements that IDNA makes, of
-- ligatures, compatibility forms and characters that can be composed, are not made here.
import HttpCalls.Text.Letters
import HttpCalls.Text.Quoted
import HttpCalls.Text.Pieces
import HttpCalls.Url.Punycode

namespace HttpCalls.Url

open Text

/-- The ASCII characters that no domain name has. -/
def isForbidden (c : Char) : Bool :=
  c.toNat ≤ 0x20 || c.toNat = 0x7F || "#/:<>?@[\\]^|%".toList.contains c

/-- Whether a character leaves no trace in a name. -/
def isIgnored (c : Char) : Bool :=
  let n := c.toNat
  n = 0xAD || n = 0x200B || n = 0x2060 || n = 0xFEFF || (0xFE00 ≤ n && n ≤ 0xFE0F)

/-- The form of a character in a name: lower case, of common width, with one kind of dot. A
character that IDNA maps in another way keeps its form. -/
def fold (c : Char) : List Char :=
  let n := c.toNat
  if isIgnored c then []
  else if n = 0x3002 || n = 0xFF0E || n = 0xFF61 then ['.']
  else if 0xFF01 ≤ n && n ≤ 0xFF5E then Letters.lower (Char.ofNat (n - 0xFEE0))
  else Letters.lower c

/-- A label in ASCII. -/
def asciiLabel? (label : List Char) : Option (List Char) :=
  if label.all (·.toNat < 0x80) then
    match dropStart? "xn--".toList label with
    | none => some label
    | some encoded =>
      (Punycode.decode? encoded).bind fun text =>
        if text.isEmpty || text.all (·.toNat < 0x80) || text.flatMap fold ≠ text then none
        else some label
  else if label.any fun c => 0x80 ≤ c.toNat && Letters.inRanges Quoted.hiddenTable c.toNat &&
      !Letters.isAlphanumeric c then none
  else some ("xn--".toList ++ Punycode.encode label)

/-- A domain name in ASCII, if it is one. The direction of its letters is not judged. -/
def asciiDomain? (name : List Char) : Option (List Char) :=
  ((pieces '.' (name.flatMap fold)).mapM asciiLabel?).bind fun labels =>
    let domain := joined ['.'] labels
    if domain.any isForbidden then none else some domain

end HttpCalls.Url
