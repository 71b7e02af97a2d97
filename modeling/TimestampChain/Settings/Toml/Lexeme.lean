import TimestampChain.Text.Numbered

/-!
# Lexemes of TOML text

Blanks, comments, line ends, strings and keys. Each reader takes the characters that are left and
hands on those behind what it read.
-/

namespace TimestampChain.Toml

/-! ## Blanks, comments and line ends -/

def skipBlanks (text : List Char) : List Char := text.dropWhile fun c => c = ' ' || c = '\t'

/-- Whether a character may stand in a comment or a literal string. -/
def isPlain (c : Char) : Bool := c = '\t' || (32 ≤ c.toNat && c.toNat ≠ 127)

def skipComment : List Char → List Char
  | '#' :: rest => rest.dropWhile isPlain
  | text => text

/-- Skip the end of a line. The end of the text counts as one. -/
def lineEnd? (text : List Char) : Option (List Char) :=
  match skipComment (skipBlanks text) with
  | [] => some []
  | '\n' :: rest => some rest
  | '\r' :: '\n' :: rest => some rest
  | _ => none

def skipLines : Nat → List Char → List Char
  | 0, text => text
  | fuel + 1, text =>
    match skipComment (skipBlanks text) with
    | '\n' :: rest => skipLines fuel rest
    | '\r' :: '\n' :: rest => skipLines fuel rest
    | rest => rest

/-! ## Strings -/

def escape? : List Char → Option (Char × List Char)
  | 'b' :: rest => some ('\x08', rest)
  | 't' :: rest => some ('\t', rest)
  | 'n' :: rest => some ('\n', rest)
  | 'f' :: rest => some ('\x0c', rest)
  | 'r' :: rest => some ('\r', rest)
  | '"' :: rest => some ('"', rest)
  | '\\' :: rest => some ('\\', rest)
  | 'e' :: rest => some ('\x1b', rest)
  | 'x' :: rest => numberedChar? 2 rest
  | 'u' :: rest => numberedChar? 4 rest
  | 'U' :: rest => numberedChar? 8 rest
  | _ => none

def basicTail? : Nat → List Char → Option (List Char × List Char)
  | 0, _ => none
  | _ + 1, '"' :: rest => some ([], rest)
  | fuel + 1, '\\' :: rest => do
    let (c, rest) ← escape? rest
    let (cs, rest) ← basicTail? fuel rest
    return (c :: cs, rest)
  | fuel + 1, c :: rest =>
    if isPlain c then (basicTail? fuel rest).map fun (cs, rest) => (c :: cs, rest) else none
  | _ + 1, [] => none

def literalTail? : List Char → Option (List Char × List Char)
  | '\'' :: rest => some ([], rest)
  | c :: rest =>
    if isPlain c then (literalTail? rest).map fun (cs, rest) => (c :: cs, rest) else none
  | [] => none

def skipBreaks : List Char → List Char
  | ' ' :: rest => skipBreaks rest
  | '\t' :: rest => skipBreaks rest
  | '\n' :: rest => skipBreaks rest
  | '\r' :: '\n' :: rest => skipBreaks rest
  | text => text

/-- The rest of a string of several lines, after its opening quotes. The mark is the quote that it
is written with, and only one kind has escapes. Of the quotes at its end, three close it. -/
def blockTail? (mark : Char) (escapes : Bool) : Nat → List Char → Option (List Char × List Char)
  | 0, _ => none
  | _ + 1, [] => none
  | fuel + 1, c :: rest =>
    if c = mark ∧ rest.take 2 = [mark, mark] then
      let quotes := (rest.drop 2).takeWhile (· = mark)
      if 2 < quotes.length then none else some (quotes, (rest.drop 2).drop quotes.length)
    else if c = '\\' ∧ escapes = true then
      let next := skipBlanks rest
      if next.head? = some '\n' ∨ next.take 2 = ['\r', '\n'] then
        blockTail? mark escapes fuel (skipBreaks next)
      else do
        let (c, rest) ← escape? rest
        let (cs, rest) ← blockTail? mark escapes fuel rest
        return (c :: cs, rest)
    else if isPlain c ∨ c = '\n' ∨ (c = '\r' ∧ rest.head? = some '\n') then
      (blockTail? mark escapes fuel rest).map fun (cs, rest) => (c :: cs, rest)
    else none

/-- The first line end of a string of several lines does not belong to it. -/
def dropFirstLineEnd : List Char → List Char
  | '\n' :: rest => rest
  | '\r' :: '\n' :: rest => rest
  | text => text

def string? (text : List Char) : Option (String × List Char) :=
  let fuel := text.length + 1
  let found :=
    match text with
    | '"' :: '"' :: '"' :: rest => blockTail? '"' true fuel (dropFirstLineEnd rest)
    | '\'' :: '\'' :: '\'' :: rest => blockTail? '\'' false fuel (dropFirstLineEnd rest)
    | '"' :: rest => basicTail? fuel rest
    | '\'' :: rest => literalTail? rest
    | _ => none
  found.map fun (cs, rest) => (String.ofList cs, rest)

/-! ## Keys -/

def isKeyChar (c : Char) : Bool := c.isAlphanum || c = '_' || c = '-'

def keyPart? (text : List Char) : Option (String × List Char) :=
  match text with
  | '"' :: rest =>
    (basicTail? (text.length + 1) rest).map fun (cs, rest) => (String.ofList cs, rest)
  | '\'' :: rest => (literalTail? rest).map fun (cs, rest) => (String.ofList cs, rest)
  | _ =>
    let name := text.takeWhile isKeyChar
    if name.isEmpty then none else some (String.ofList name, text.drop name.length)

/-- A key of at most the given number of parts, with points between them. -/
def keyOf? : Nat → List Char → Option (List String × List Char)
  | 0, _ => none
  | parts + 1, text => do
    let (part, rest) ← keyPart? (skipBlanks text)
    match skipBlanks rest with
    | '.' :: rest => do
      let (others, rest) ← keyOf? parts rest
      return (part :: others, rest)
    | rest => return ([part], rest)

/-- How many parts a key has at most, and how deep values may be nested. -/
def depthLimit : Nat := 80

def key? (text : List Char) : Option (List String × List Char) := keyOf? depthLimit text

end TimestampChain.Toml
