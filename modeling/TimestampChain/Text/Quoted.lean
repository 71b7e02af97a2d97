/-!
# Quoted characters

How a single character is shown inside an error text: between apostrophes, with the usual short
escapes, and by its number when it cannot be printed. Only the characters of a single byte occur.
-/

namespace TimestampChain.Quoted

def hexNumber (n : Nat) : String := String.ofList (Nat.toDigits 16 n)

def shortEscape? (n : Nat) : Option String :=
  if n = 0 then some "\\0"
  else if n = 9 then some "\\t"
  else if n = 10 then some "\\n"
  else if n = 13 then some "\\r"
  else if n = 39 then some "\\'"
  else if n = 92 then some "\\\\"
  else none

/-- Whether the character of a byte can be printed: it is no control character, no space other than
the plain one, and no soft hyphen. -/
def isPrintable (n : Nat) : Bool := (32 ≤ n && n ≤ 126) || (161 ≤ n && n != 173)

def byte (b : UInt8) : String :=
  let n := b.toNat
  let inner :=
    match shortEscape? n with
    | some text => text
    | none =>
      if isPrintable n then (Char.ofNat n).toString
      else "\\u\x7b" ++ hexNumber n ++ "\x7d"
  "'" ++ inner ++ "'"

end TimestampChain.Quoted
