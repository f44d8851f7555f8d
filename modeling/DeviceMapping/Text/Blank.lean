/-
**White space and trimming.**

`isBlank` is the Unicode property `White_Space`; `trim` drops such characters from both ends of a
text. A text is blank when it holds nothing else, the test behind every "must not be empty" check.
-/

namespace DeviceMapping.Text

/-- The Unicode property `White_Space`. -/
def isBlank (c : Char) : Bool :=
  let code := c.toNat
  (9 ≤ code && code ≤ 13) || code == 0x20 || code == 0x85 || code == 0xA0 || code == 0x1680 ||
    (0x2000 ≤ code && code ≤ 0x200A) || code == 0x2028 || code == 0x2029 || code == 0x202F ||
    code == 0x205F || code == 0x3000

/-- The characters between the first and the last one that is not blank. -/
def trimList (characters : List Char) : List Char :=
  ((characters.dropWhile isBlank).reverse.dropWhile isBlank).reverse

/-- A text without the blanks at its two ends. -/
def trim (text : String) : String :=
  String.ofList (trimList text.toList)

/-- A text of blanks only, the empty text included. -/
def isBlankText (text : String) : Bool :=
  text.toList.all isBlank

end DeviceMapping.Text
