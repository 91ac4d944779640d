import ApiGateway.Form
import ApiGateway.Url.Address
import ApiGateway.Url.Domain
/-!
# URLs — the host of an address

The host is what stands between the user information and the port of the
authority (`Url.host?`). In the well-known schemes it is a domain name or
an address, and has one written form: percent-decoded, in lower case,
beyond ASCII in the encoding for domain names, addresses in their own
notation. In any other scheme it is kept, percent-encoded where that is
needed.
-/

namespace ApiGateway

namespace Url

/-- The schemes whose hosts are domain names, and in which a backslash is
a slash. -/
inductive SchemeKind where
  | wellKnown
  | file
  | other
  deriving DecidableEq, Repr

/-- The kind of a scheme in lower case. -/
def SchemeKind.of (scheme : List Char) : SchemeKind :=
  let name := String.ofList scheme
  if ["http", "https", "ws", "wss", "ftp"].contains name then .wellKnown
  else if name = "file" then .file
  else .other

/-- The text without control characters and spaces at its ends and
without tabs and line breaks anywhere. -/
def cleaned (s : List Char) : List Char :=
  let start := s.dropWhile (·.toNat ≤ 0x20)
  let inner := (start.reverse.dropWhile (·.toNat ≤ 0x20)).reverse
  inner.filter fun c => c ≠ '\t' ∧ c ≠ '\n' ∧ c ≠ '\r'

/-- The scheme of a text, in lower case, and what follows its colon. -/
def scheme? (s : List Char) : Option (List Char × List Char) :=
  match Text.cutFirst ':' s with
  | some (first :: name, rest) =>
    if first.isAlpha ∧ name.all fun c => c.isAlphanum || c = '+' || c = '-' || c = '.' then
      some (Text.lower (first :: name), rest)
    else none
  | _ => none

/-- Whether a character ends the authority. -/
def endsAuthority (kind : SchemeKind) (c : Char) : Bool :=
  c = '/' || c = '?' || c = '#' || (c = '\\' && kind ≠ .other)

/-- The authority at the start of a text, and what follows it. -/
def cutAuthority (kind : SchemeKind) (s : List Char) : List Char × List Char :=
  (s.takeWhile fun c => !endsAuthority kind c, s.dropWhile fun c => !endsAuthority kind c)

/-- The authority after the colon of the scheme, and what follows it. -/
def authority? (kind : SchemeKind) (s : List Char) : Option (List Char × List Char) :=
  match kind with
  | .wellKnown => some (cutAuthority kind (s.dropWhile fun c => c = '/' || c = '\\'))
  | .file =>
    match s with
    | a :: b :: rest =>
      if (a = '/' ∨ a = '\\') ∧ (b = '/' ∨ b = '\\') then some (cutAuthority kind rest) else none
    | _ => none
  | .other =>
    match s with
    | '/' :: '/' :: rest => some (cutAuthority kind rest)
    | _ => none

/-- The text after the user information, which ends at the last at
sign. -/
def afterUser (s : List Char) : List Char :=
  match Text.cutLast '@' s with
  | some (_, rest) => rest
  | none => s

/-- The host and what follows it, which begins with a colon if there is a
port; inside brackets a colon is part of the host. -/
def cutHost (bracketed : Bool) : List Char → List Char × List Char
  | [] => ([], [])
  | c :: rest =>
    if c = ':' ∧ !bracketed then ([], c :: rest)
    else
      let bracketed := if c = '[' then true else if c = ']' then false else bracketed
      let (host, after) := cutHost bracketed rest
      (c :: host, after)

/-- Whether what follows a host is nothing or a port below `2 ^ 16`,
whose digits may be missing. A backslash ends a port in every scheme. -/
def isPort : List Char → Bool
  | [] => true
  | ':' :: after =>
    let digits := after.takeWhile (· ≠ '\\')
    digits.all Char.isDigit && digits.foldl (fun n c => n * 10 + (c.toNat - '0'.toNat)) 0 < 65536
  | _ => false

/-- The host between brackets, if brackets open it. -/
def bracketed? (s : List Char) : Option (Option (List Char)) :=
  match s with
  | '[' :: inside =>
    if inside.getLast? = some ']' then some ((Ipv6.parse? inside.dropLast).map Ipv6.text)
    else some none
  | _ => none

/-- The host of a well-known scheme in its written form. -/
def domainHost? (s : List Char) : Option (List Char) :=
  match bracketed? s with
  | some address => address
  | none =>
    match asciiDomain? (Utf8.decodeLossy (Form.decodePercent (Utf8.encode s))) with
    | none => none
    | some domain =>
      if domain = [] then none
      else if Ipv4.isMeant domain then (Ipv4.parse? domain).map Ipv4.text
      else some domain

/-- A byte behind a percent sign. -/
def percentEncoded (b : UInt8) : List Char :=
  ['%', (b.toNat / 16).digitChar.toUpper, (b.toNat % 16).digitChar.toUpper]

/-- The host of any other scheme in its written form. -/
def opaqueHost? (s : List Char) : Option (List Char) :=
  match bracketed? s with
  | some address => address
  | none =>
    if s.any fun c => forbiddenMarks.contains c || c = ' ' || c.toNat = 0 then none
    else
      some (s.flatMap fun c =>
        if 0x20 ≤ c.toNat ∧ c.toNat < 0x7F then [c] else (Utf8.encode [c]).flatMap percentEncoded)

/-! ## Files

A file on a drive has no host: one that is given is dropped. -/

/-- Whether a segment of a path names a drive. -/
def isDrive (segment : List Char) : Bool :=
  match segment with
  | [letter, mark] => letter.isAlpha && (mark = ':' || mark = '|')
  | _ => false

/-- The number of dots that a segment consists of, if it consists of
dots. They may be percent-encoded. -/
def dots? : List Char → Option Nat
  | [] => some 0
  | '.' :: rest => (dots? rest).map (· + 1)
  | '%' :: '2' :: 'e' :: rest => (dots? rest).map (· + 1)
  | '%' :: '2' :: 'E' :: rest => (dots? rest).map (· + 1)
  | _ => none

/-- Whether segments lead to a drive, from so far below the topmost
directory. -/
def leadToDrive : Nat → List (List Char) → Bool
  | _, [] => false
  | depth, segment :: rest =>
    match dots? segment with
    | some 1 => leadToDrive depth rest
    | some 2 => leadToDrive (depth - 1) rest
    | _ => (depth = 0 && isDrive segment) || leadToDrive (depth + 1) rest

/-- The segments of the path that follows an authority. -/
def segments (afterAuthority : List Char) : List (List Char) :=
  let path := afterAuthority.takeWhile fun c => c ≠ '?' && c ≠ '#'
  (Text.pieces '/' (path.map fun c => if c = '\\' then '/' else c)).tail

/-- The host of a file. -/
def fileHost? (authority after : List Char) : Option (List Char) :=
  if authority = [] ∨ leadToDrive 0 (segments after) then none
  else (domainHost? authority).bind fun h => if h = "localhost".toList then none else some h

/-- The host of an authority in any scheme but that of files; an empty
one is no host. -/
def authorityHost? (kind : SchemeKind) (authority : List Char) : Option (List Char) :=
  let (host, port) := cutHost false (afterUser authority)
  if host = [] ∨ !isPort port then none
  else
    match kind with
    | .other => opaqueHost? host
    | _ => domainHost? host

/-- The host of the address that a text denotes; none if it has none or
is not valid. -/
def host? (address : String) : Option String := do
  let (scheme, rest) ← scheme? (cleaned address.toList)
  let kind := SchemeKind.of scheme
  let (authority, after) ← authority? kind rest
  let host ←
    match kind with
    | .file => fileHost? authority after
    | _ => authorityHost? kind authority
  return String.ofList host

end Url

end ApiGateway
