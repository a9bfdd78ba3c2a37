/-!
# Blanks at the ends of a text

* `isBlank` — the property `White_Space` of Unicode;
* `Text.trim`, `Text.trimEnd` — a text without the blanks around it, or without those at its end
  (`str::trim`, `str::trim_end`);
* `Text.isBlankText` — whether nothing is left.
-/

namespace ConsumerCheck

/-- The characters with the Unicode property `White_Space`. -/
def isBlank (c : Char) : Bool :=
  let n := c.toNat
  (0x9 ≤ n && n ≤ 0xD) || n == 0x20 || n == 0x85 || n == 0xA0 || n == 0x1680 ||
    (0x2000 ≤ n && n ≤ 0x200A) || n == 0x2028 || n == 0x2029 || n == 0x202F || n == 0x205F ||
    n == 0x3000

namespace Text

/-- The characters without those at the end that are blank. -/
def dropBlankEnd (cs : List Char) : List Char := (cs.reverse.dropWhile isBlank).reverse

/-- A text without the blanks at its end. -/
def trimEnd (text : String) : String := String.ofList (dropBlankEnd text.toList)

/-- A text without the blanks at its beginning and end. -/
def trim (text : String) : String :=
  String.ofList (dropBlankEnd (text.toList.dropWhile isBlank))

/-- Whether a text has no character other than blanks. -/
def isBlankText (text : String) : Bool := text.toList.all isBlank

end Text

end ConsumerCheck
