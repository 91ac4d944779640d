import ApiGateway.Text.Canonical
import ApiGateway.Url.Direction
import ApiGateway.Url.Joining
import ApiGateway.Url.Mapping
import ApiGateway.Url.Punycode
/-!
# URLs — domain names

A domain name is labels with dots between them. Its characters are mapped
and put into the canonical form, so that names that are meant to be the
same come out the same. A label is then ASCII, or it is written in the
encoding for domain names; one that is encoded already has to stand for a
label that could have been written itself (`asciiDomain?`).
-/

namespace ApiGateway

namespace Url

/-- The visible characters of ASCII that no host may have. -/
def forbiddenMarks : List Char :=
  ['#', '/', ':', '<', '>', '?', '@', '[', '\\', ']', '^', '|']

/-- Whether a character may not stand in a domain name once it is
mapped. -/
def isForbiddenInDomain (c : Char) : Bool :=
  c.toNat ≤ 0x20 || c.toNat = 0x7F || c = '%' || forbiddenMarks.contains c

/-- The beginning of a label that is written in the encoding for domain
names. -/
def encodedMark : List Char := ['x', 'n', '-', '-']

/-- A label beyond ASCII may have this many characters. -/
def maxLabel : Nat := 1000

/-- What follows the mark of an encoded label may have this many
characters. -/
def maxEncoded : Nat := 2000

/-- The label that an encoded one stands for. It has to be one that
mapping leaves alone, and beyond ASCII. -/
def decodedLabel? (encoded : List Char) : Option (List Char) :=
  if maxEncoded < encoded.length ∨ encoded.getLast? = some '-' then none
  else
    (Punycode.decode? encoded).filter fun label =>
      label.any (fun c => !Punycode.isAscii c)
        && label.all (fun c => isKept c && !isForbiddenInDomain c && c ≠ '.')
        && Text.canonical label = label

/-- A mapped label as it is meant. -/
def meantLabel? (label : List Char) : Option (List Char) :=
  if label.take encodedMark.length = encodedMark then
    if label.all Punycode.isAscii then decodedLabel? (label.drop encodedMark.length) else none
  else some label

/-- Whether a label may be written as it is meant: it is ASCII or not too
long, does not begin with a mark, and has its joiners where they may
stand. -/
def isProper (label : List Char) : Bool :=
  (label.all Punycode.isAscii || label.length ≤ maxLabel)
    && !label.head?.any Text.isMark && joinersFit [] label

/-- Whether labels keep to one direction each, if that matters. -/
def keepDirections (labels : List (List Char)) : Bool :=
  !(labels.any fun label => label.any Direction.isFromRight) || labels.all keepsDirection

/-- A mapped label in ASCII. -/
def asciiLabel (label : List Char) : List Char :=
  if label.all Punycode.isAscii then label else encodedMark ++ Punycode.encode label

/-- A domain name in ASCII. -/
def asciiDomain? (s : List Char) : Option (List Char) := do
  let mapped ← s.mapM mapping?
  let name := Text.canonical mapped.flatten
  let labels := Text.pieces '.' name
  let meant ← labels.mapM meantLabel?
  if name.any isForbiddenInDomain ∨ !meant.all isProper ∨ !keepDirections meant then none
  else return Text.join ['.'] (labels.map asciiLabel)

end Url

end ApiGateway
