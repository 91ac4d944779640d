import ApiGateway.Text.Blank
/-!
# HTTP — request targets

The target of a request is a path with an optional query, the same after
a scheme and an authority, an authority alone, or `*`. A fragment is
dropped. Nothing is decoded: path and query stay as they are written.
-/

namespace ApiGateway

namespace Http

/-- Path and query of a request. The path of an authority alone is
empty. -/
structure Target where
  path : String
  query : Option String
  deriving DecidableEq, Repr

namespace Target

/-- Targets may have this many bytes. -/
def maxBytes : Nat := 65534

/-- Schemes may have this many characters. -/
def maxScheme : Nat := 64

/-- Whether a character may stand in a path. -/
def isPathChar (c : Char) : Bool :=
  let n := c.toNat
  n = 0x21 || (0x24 ≤ n && n ≤ 0x3B) || n = 0x3D || (0x40 ≤ n && n ≤ 0x5F)
    || (0x61 ≤ n && n ≤ 0x7A) || n = 0x7C || n = 0x7E || 0x80 ≤ n || c = '"' || c = '\x7b'
    || c = '\x7d'

/-- Whether a character may stand in a query. -/
def isQueryChar (c : Char) : Bool :=
  let n := c.toNat
  n = 0x21 || (0x24 ≤ n && n ≤ 0x3B) || n = 0x3D || (0x3F ≤ n && n ≠ 0x7F)

/-- Whether a character may stand in a scheme. -/
def isSchemeChar (c : Char) : Bool := c.isAlphanum || ['+', '-', '.', '~'].contains c

/-- Whether a character may stand in an authority, the percent sign and
the colons, brackets and at signs apart. -/
def isAuthorityChar (c : Char) : Bool :=
  c.isAlphanum ||
    ['!', '$', '&', '\'', '(', ')', '*', '+', ',', '-', '.', ';', '=', '_', '~'].contains c

/-- The text before a fragment. -/
def withoutFragment (s : List Char) : List Char := s.takeWhile (· ≠ '#')

/-- Path and query of a text; an empty path is the root. -/
def pathAndQuery? (s : List Char) : Option Target :=
  let whole := withoutFragment s
  let path := whole.takeWhile (· ≠ '?')
  let root := if path = [] then ['/'] else path
  if path.all isPathChar then
    match whole.dropWhile (· ≠ '?') with
    | [] => some ⟨String.ofList root, none⟩
    | _ :: query =>
      if query.all isQueryChar then some ⟨String.ofList root, some (String.ofList query)⟩ else none
  else none

/-- What an authority has shown so far. Colons and percent signs are
forgotten after an at sign, which ends the user information, and after
the closing bracket of an address. -/
structure Authority where
  colons : Nat
  opened : Bool
  closed : Bool
  percent : Bool
  /-- Whether the last character was an at sign. -/
  atSign : Bool

/-- One character of an authority. -/
def Authority.step (a : Authority) (c : Char) : Option Authority :=
  if c = ':' then
    if a.colons < 8 then some { a with colons := a.colons + 1, atSign := false } else none
  else if c = '[' then
    if a.percent ∨ a.opened then none else some { a with opened := true, atSign := false }
  else if c = ']' then
    if ¬a.opened ∨ a.closed then none
    else some { a with closed := true, colons := 0, percent := false, atSign := false }
  else if c = '@' then some { a with colons := 0, percent := false, atSign := true }
  else if c = '%' then some { a with percent := true, atSign := false }
  else if isAuthorityChar c then some { a with atSign := false }
  else none

/-- Whether an authority may end here. -/
def Authority.isComplete (a : Authority) : Bool :=
  a.opened = a.closed && a.colons ≤ 1 && !a.atSign && !a.percent

/-- Whether a text is an authority. -/
def isAuthority (s : List Char) : Bool :=
  match s.foldlM Authority.step ⟨0, false, false, false, false⟩ with
  | some a => a.isComplete
  | none => false

/-- Where an authority ends. -/
def endsAuthority (c : Char) : Bool := c = '/' || c = '?' || c = '#'

/-- The text after `scheme://`, and whether the scheme is short enough;
none if no scheme begins the text. -/
def afterScheme? (s : List Char) : Option (Bool × List Char) :=
  let scheme := s.takeWhile isSchemeChar
  match s.dropWhile isSchemeChar with
  | ':' :: '/' :: '/' :: rest =>
    if 3 < s.length then some (scheme.length ≤ maxScheme, rest) else none
  | _ => none

/-- The target that a text denotes. -/
def parse? (s : String) : Option Target :=
  let chars := s.toList
  if s.utf8ByteSize > maxBytes then none
  else
    match chars with
    | [] => none
    | ['*'] => some ⟨"*", none⟩
    | '/' :: _ => pathAndQuery? chars
    | _ =>
      match afterScheme? chars with
      | some (short, rest) =>
        let authority := rest.takeWhile fun c => !endsAuthority c
        if short ∧ authority ≠ [] ∧ isAuthority authority then
          pathAndQuery? (rest.dropWhile fun c => !endsAuthority c)
        else none
      | none =>
        if isAuthority chars then some ⟨"", none⟩ else none

end Target

end Http

end ApiGateway
