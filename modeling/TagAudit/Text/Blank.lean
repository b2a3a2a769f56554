/-!
White space. A character is blank when it separates words in text: the ASCII layout characters and
separators, and the space, line and paragraph separators beyond ASCII. Zero-width characters are not
blank.

The characters that `isspace` accepts and that `strip` takes off.
-/

namespace TagAudit.Text

def isBlank (c : Char) : Bool :=
  let n := c.toNat
  (0x09 ≤ n && n ≤ 0x0D) || (0x1C ≤ n && n ≤ 0x20) || n == 0x85 || n == 0xA0 || n == 0x1680
    || (0x2000 ≤ n && n ≤ 0x200A) || n == 0x2028 || n == 0x2029 || n == 0x202F || n == 0x205F
    || n == 0x3000

def trimStart (cs : List Char) : List Char :=
  cs.dropWhile isBlank

def trim (cs : List Char) : List Char :=
  (trimStart (trimStart cs).reverse).reverse

def trimmed (s : String) : String :=
  String.ofList (trim s.toList)

/-- What is left after trimming at the start is a final part of the text. -/
theorem trimStart_suffix (cs : List Char) : trimStart cs <:+ cs :=
  List.dropWhile_suffix isBlank

/-- A text that starts with a character that is not blank has nothing to trim at its start. -/
theorem trimStart_cons_of_not_blank (c : Char) (cs : List Char) (h : isBlank c = false) :
    trimStart (c :: cs) = c :: cs := by
  simp [trimStart, h]

end TagAudit.Text
