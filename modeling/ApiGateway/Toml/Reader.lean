import ApiGateway.Toml.Document
import ApiGateway.Toml.Scalar
/-!
# TOML — reading a document

A document is read line by line (`Toml.parse?`): blanks, a header or a
pair, and a comment. Strings come in four kinds, with or without escapes
and on one line or several. A value may hold arrays and tables in braces,
nested less than 80 deep.
-/

namespace ApiGateway

namespace Toml

/-- A space or a tab. -/
def isGap (c : Char) : Bool := c = ' ' || c = '\t'

def skipGap (s : List Char) : List Char := s.dropWhile isGap

/-- Whether a character may stand in a comment, and for itself in a
string. -/
def isPlain (c : Char) : Bool := c = '\t' || (0x20 ≤ c.toNat && c.toNat ≠ 0x7F)

/-- What follows a line break. -/
def afterBreak? : List Char → Option (List Char)
  | '\n' :: rest => some rest
  | '\r' :: '\n' :: rest => some rest
  | _ => none

/-- What follows blanks and a comment, of which neither has to be
there. -/
def afterComment (s : List Char) : List Char :=
  match skipGap s with
  | '#' :: rest => rest.dropWhile isPlain
  | rest => rest

/-- What follows the end of a line; the end of the text is one. -/
def afterLine? (s : List Char) : Option (List Char) :=
  match afterComment s with
  | [] => some []
  | rest => afterBreak? rest

/-- What follows blanks, comments and line breaks. -/
def skipLines : Nat → List Char → List Char
  | 0, s => s
  | fuel + 1, s =>
    let rest := afterComment s
    match afterBreak? rest with
    | some more => skipLines fuel more
    | none => rest

/-- The character of an escape with so many hexadecimal digits, and what
follows. -/
def codePoint? (width : Nat) (s : List Char) : Option (Char × List Char) :=
  let digits := s.take width
  if digits.length = width ∧ digits.all fun c => (digit? 16 c).isSome then
    let n := numberOf 16 digits
    if n.isValidChar then some (Char.ofNat n, s.drop width) else none
  else none

/-- The character of an escape after its backslash, and what follows. -/
def escape? : List Char → Option (Char × List Char)
  | 'b' :: rest => some (Char.ofNat 8, rest)
  | 't' :: rest => some ('\t', rest)
  | 'n' :: rest => some ('\n', rest)
  | 'f' :: rest => some (Char.ofNat 12, rest)
  | 'r' :: rest => some ('\r', rest)
  | '"' :: rest => some ('"', rest)
  | '\\' :: rest => some ('\\', rest)
  | 'u' :: rest => codePoint? 4 rest
  | 'U' :: rest => codePoint? 8 rest
  | _ => none

/-- The rest of a string on one line, and what follows its closing
quote. Every step takes a character, so the length bounds them. -/
def basicString? : Nat → List Char → Option (List Char × List Char)
  | 0, _ => none
  | fuel + 1, s =>
    match s with
    | [] => none
    | '"' :: rest => some ([], rest)
    | '\\' :: rest =>
      match escape? rest with
      | some (c, more) => (basicString? fuel more).map fun p => (c :: p.1, p.2)
      | none => none
    | c :: rest =>
      if isPlain c then (basicString? fuel rest).map fun p => (c :: p.1, p.2) else none

/-- The rest of a string without escapes on one line. -/
def literalString? (s : List Char) : Option (List Char × List Char) :=
  let plain := fun (c : Char) => isPlain c && c ≠ '\''
  match s.dropWhile plain with
  | '\'' :: rest => some (s.takeWhile plain, rest)
  | _ => none

/-- What follows a backslash at the end of a line: the next character
that is no blank, on this line or a later one. -/
def afterJoin? (s : List Char) : Option (List Char) :=
  (afterBreak? (skipGap s)).map fun rest =>
    rest.dropWhile fun c => isGap c || c = '\n' || c = '\r'

/-- Whether carriage returns stand only before line feeds in the blanks
at the start of a text. -/
def hasCleanBlanks : List Char → Bool
  | '\r' :: '\n' :: rest => hasCleanBlanks rest
  | '\r' :: _ => false
  | c :: rest => if isGap c || c = '\n' then hasCleanBlanks rest else true
  | [] => true

/-- The rest of a string over several lines. Up to two quotes may stand
anywhere in it, also before the three that close it. -/
def multilineString? (quote : Char) (escapes : Bool) :
    Nat → List Char → Option (List Char × List Char)
  | 0, _ => none
  | fuel + 1, s =>
    match s with
    | [] => none
    | c :: rest =>
      if c = quote then
        let run := (s.takeWhile (· = quote)).length
        if run < 3 then
          (multilineString? quote escapes fuel (s.drop run)).map fun p =>
            (List.replicate run quote ++ p.1, p.2)
        else
          let inside := min (run - 3) 2
          some (List.replicate inside quote, s.drop (inside + 3))
      else if c = '\\' ∧ escapes then
        match escape? rest with
        | some (d, more) => (multilineString? quote escapes fuel more).map fun p => (d :: p.1, p.2)
        | none =>
          match afterBreak? (skipGap rest) with
          | some next =>
            if hasCleanBlanks next then
              (afterJoin? rest).bind (multilineString? quote escapes fuel)
            else none
          | none => none
      else
        match afterBreak? s with
        | some more => (multilineString? quote escapes fuel more).map fun p => ('\n' :: p.1, p.2)
        | none =>
          if isPlain c then
            (multilineString? quote escapes fuel rest).map fun p => (c :: p.1, p.2)
          else none

/-- What follows a line break right after the opening quotes. -/
def skipFirstBreak (s : List Char) : List Char := (afterBreak? s).getD s

/-- A string of any kind at the start of a text. -/
def string? (s : List Char) : Option (List Char × List Char) :=
  match s with
  | '"' :: '"' :: '"' :: rest =>
    multilineString? '"' true (rest.length + 1) (skipFirstBreak rest)
  | '\'' :: '\'' :: '\'' :: rest =>
    multilineString? '\'' false (rest.length + 1) (skipFirstBreak rest)
  | '"' :: rest => basicString? (rest.length + 1) rest
  | '\'' :: rest => literalString? rest
  | _ => none

/-- Whether a character may stand in a key without quotes. -/
def isBareChar (c : Char) : Bool := c.isAlphanum || c = '-' || c = '_'

/-- One piece of a key, and what follows. -/
def keyPiece? (s : List Char) : Option (String × List Char) :=
  match s with
  | '"' :: rest => (basicString? (rest.length + 1) rest).map fun p => (String.ofList p.1, p.2)
  | '\'' :: rest => (literalString? rest).map fun p => (String.ofList p.1, p.2)
  | _ =>
    let bare := s.takeWhile isBareChar
    if bare = [] then none else some (String.ofList bare, s.dropWhile isBareChar)

/-- The pieces of a key between dots, and what follows; every piece takes
a character, so the length bounds them. -/
def keyPieces? : Nat → List Char → Option (List String × List Char)
  | 0, _ => none
  | fuel + 1, s =>
    match keyPiece? (skipGap s) with
    | none => none
    | some (piece, after) =>
      match skipGap after with
      | '.' :: rest => (keyPieces? fuel rest).map fun p => (piece :: p.1, p.2)
      | rest => some ([piece], rest)

/-- Values may be nested, and keys dotted, less deep than this. -/
def depthBound : Nat := 80

/-- A key, and what follows the blanks after it. -/
def key? (s : List Char) : Option (Key × List Char) :=
  match keyPieces? (s.length + 1) s with
  | none => none
  | some (pieces, rest) =>
    match pieces.getLast? with
    | none => none
    | some last =>
      if pieces.length < depthBound then some ((pieces.dropLast, last), rest) else none

mutual

/-- A value at the start of a text, inside `depth` others. -/
def value? : Nat → Nat → List Char → Option (Json × List Char)
  | 0, _, _ => none
  | fuel + 1, depth, s =>
    match s with
    | [] => none
    | 't' :: 'r' :: 'u' :: 'e' :: rest => some (.bool true, rest)
    | 'f' :: 'a' :: 'l' :: 's' :: 'e' :: rest => some (.bool false, rest)
    | 'i' :: _ => number? s
    | 'n' :: _ => number? s
    | '[' :: rest =>
      if depth + 1 < depthBound then
        (elements? fuel (depth + 1) rest).map fun p => (.array p.1, p.2)
      else none
    | '\x7b' :: rest =>
      if depth + 1 < depthBound then
        match skipGap rest with
        | '\x7d' :: after => some (.object [], after)
        | other =>
          match pairs? fuel (depth + 1) other with
          | some (ps, after) => (inlineTable? ps).map fun j => (j, after)
          | none => none
      else none
    | c :: _ =>
      if c = '"' ∨ c = '\'' then (string? s).map fun p => (.string (String.ofList p.1), p.2)
      else if c.isDigit ∨ c = '+' ∨ c = '-' then scalar? s
      else none

/-- The elements of an array up to its closing bracket; a comma may stand
after the last one. -/
def elements? : Nat → Nat → List Char → Option (List Json × List Char)
  | 0, _, _ => none
  | fuel + 1, depth, s =>
    match skipLines s.length s with
    | ']' :: rest => some ([], rest)
    | start =>
      match value? fuel depth start with
      | none => none
      | some (v, after) =>
        match skipLines after.length after with
        | ',' :: rest => (elements? fuel depth rest).map fun p => (v :: p.1, p.2)
        | ']' :: rest => some ([v], rest)
        | _ => none

/-- The pairs of a table in braces up to the closing one. -/
def pairs? : Nat → Nat → List Char → Option (List (Key × Json) × List Char)
  | 0, _, _ => none
  | fuel + 1, depth, s =>
    match key? s with
    | some (key, '=' :: start) =>
      match value? fuel depth (skipGap start) with
      | none => none
      | some (v, after) =>
        match skipGap after with
        | ',' :: rest => (pairs? fuel depth rest).map fun p => ((key, v) :: p.1, p.2)
        | '\x7d' :: rest => some ([(key, v)], rest)
        | _ => none
    | _ => none

end

/-- A header or a pair at the start of a text, and what follows. -/
def line? (s : List Char) : Option (Line × List Char) :=
  match s with
  | '[' :: '[' :: rest =>
    match key? rest with
    | some (key, ']' :: ']' :: after) => some (.element key, after)
    | _ => none
  | '[' :: rest =>
    match key? rest with
    | some (key, ']' :: after) => some (.table key, after)
    | _ => none
  | _ =>
    match key? s with
    | some (key, '=' :: start) =>
      (value? (start.length + 2) 0 (skipGap start)).map fun p => (.pair key p.1, p.2)
    | _ => none

/-- The lines of a text; every one takes a character, so the length
bounds them. -/
def lines? : Nat → List Char → Option (List Line)
  | fuel, s =>
    match skipLines s.length s with
    | [] => some []
    | start =>
      match fuel, line? start with
      | fuel + 1, some (l, after) =>
        match afterLine? after with
        | some rest => (lines? fuel rest).map (l :: ·)
        | none => none
      | _, _ => none

/-- The text without a mark of the byte order at its start. -/
def withoutMark (s : List Char) : List Char :=
  match s with
  | c :: rest => if c.toNat = 0xFEFF then rest else s
  | [] => []

/-- The object that a document denotes. -/
def parse? (text : String) : Option Json :=
  let s := withoutMark text.toList
  (lines? (s.length + 1) s).bind Document.ofLines?

end Toml

end ApiGateway
