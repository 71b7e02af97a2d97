/-!
# Blank characters

The characters that count as white space in Unicode, and the text between the outermost blanks. A
byte order mark is no blank, but it may stand in front of a text.
-/

namespace TimestampChain

def isBlank (c : Char) : Bool :=
  let n := c.toNat
  (9 ≤ n && n ≤ 13) || n == 0x20 || n == 0x85 || n == 0xa0 || n == 0x1680
    || (0x2000 ≤ n && n ≤ 0x200a) || n == 0x2028 || n == 0x2029 || n == 0x202f || n == 0x205f
    || n == 0x3000

def trimBlanks (text : List Char) : List Char :=
  ((text.dropWhile isBlank).reverse.dropWhile isBlank).reverse

def trimText (text : String) : String := String.ofList (trimBlanks text.toList)

/-- The text behind a byte order mark, if there is one. -/
def dropOrderMark : List Char → List Char
  | '\ufeff' :: rest => rest
  | text => text

end TimestampChain
