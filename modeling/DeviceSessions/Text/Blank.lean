/-!
# White space

Unicode white space, and trimming it from both ends of a text.
-/

namespace DeviceSessions.Text

/-- The characters with the Unicode property White_Space. -/
def isBlank (c : Char) : Bool :=
  let n := c.toNat
  (9 ≤ n && n ≤ 13) || n == 0x20 || n == 0x85 || n == 0xa0 || n == 0x1680 ||
    (0x2000 ≤ n && n ≤ 0x200a) || n == 0x2028 || n == 0x2029 || n == 0x202f || n == 0x205f ||
    n == 0x3000

/-- `cs` without the white space in front. -/
def dropBlank (cs : List Char) : List Char := cs.dropWhile isBlank

/-- `cs` without the white space at both ends. -/
def trimList (cs : List Char) : List Char := (dropBlank (dropBlank cs).reverse).reverse

/-- `text` without the white space at both ends. -/
def trim (text : String) : String := String.ofList (trimList text.toList)

end DeviceSessions.Text
