/-!
White space. One class serves every place that trims text or tells words apart: the Unicode white
space characters together with the four information separators U+001C to U+001F.
-/
namespace Provenance.Text

/-- Unicode white space and the information separators; neither the zero width space nor the byte
order mark is blank. -/
def isBlank (c : Char) : Bool :=
  let n := c.toNat
  (9 ≤ n && n ≤ 13) || (28 ≤ n && n ≤ 32) || n == 0x85 || n == 0xA0 || n == 0x1680 ||
    (0x2000 ≤ n && n ≤ 0x200A) || n == 0x2028 || n == 0x2029 || n == 0x202F || n == 0x205F ||
    n == 0x3000

/-- The list without the leading and the trailing elements that satisfy `p`. -/
def trimWhile {α : Type} (p : α → Bool) (xs : List α) : List α :=
  ((xs.dropWhile p).reverse.dropWhile p).reverse

/-- The list without its trailing elements that satisfy `p`. -/
def trimEndWhile {α : Type} (p : α → Bool) (xs : List α) : List α :=
  (xs.reverse.dropWhile p).reverse

/-- The text without leading and trailing blanks. -/
def strip (s : String) : String :=
  String.ofList (trimWhile isBlank s.toList)

end Provenance.Text
