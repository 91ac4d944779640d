import ApiGateway.Json.Basic
/-!
# TOML — tables that are built up line by line

A TOML document is a sequence of headers and of pairs under the last
header. Tables come into being by a header, by a dotted key, or because
a longer header passes through them, and which of these it was decides
what may still be added: a header names a table once, a dotted key adds
only to tables that dotted keys made, and nothing adds to a value. The
finished document is an object.
-/

namespace ApiGateway

namespace Toml

/-- How a table came into being. -/
inductive Origin where
  /-- By its own header, or in braces. -/
  | header
  /-- A longer header passes through it. -/
  | passed
  /-- By a dotted key. -/
  | dotted
  deriving DecidableEq, Repr

/-- What stands under a key. -/
inductive Node where
  | value (j : Json)
  | table (origin : Origin) (members : List (String × Node))
  /-- The tables that repeated headers made. -/
  | tables (elements : List (List (String × Node)))

/-- The members of a table. -/
abbrev Members := List (String × Node)

/-- The members with the table at a path changed. Tables that are not
there are made; a path of a dotted key leads only through tables that no
header names, and the path of a header into the last of repeated
tables. -/
def within (dotted : Bool) : List String → Origin → Members → (Origin → Members → Option Members) →
    Option Members
  | [], origin, ms, change => change origin ms
  | key :: path, _, ms, change =>
    match OrderedMap.get? ms key with
    | none =>
      let made : Origin := if dotted then .dotted else .passed
      (within dotted path made [] change).map fun t => OrderedMap.insert ms key (.table made t)
    | some (.value _) => none
    | some (.table origin t) =>
      if dotted ∧ origin = .header then none
      else
        (within dotted path origin t change).map fun t' =>
          OrderedMap.insert ms key (.table origin t')
    | some (.tables ts) =>
      match ts.getLast? with
      | none => none
      | some t =>
        (within dotted path .header t change).map fun t' =>
          OrderedMap.insert ms key (.tables (ts.dropLast ++ [t']))

/-- The members with a value under a new key. -/
def addValue (key : String) (j : Json) (ms : Members) : Option Members :=
  if OrderedMap.contains ms key then none else some (OrderedMap.insert ms key (.value j))

/-- A key that may be dotted: the path to a table and the key in it. -/
abbrev Key := List String × String

/-- The members with a value under a key. A dotted key adds to a table
that dotted keys made, a plain one to any other. -/
def addPair (key : Key) (j : Json) (ms : Members) : Option Members :=
  within true key.1 .header ms fun origin t =>
    if (origin = .dotted) = (key.1 = []) then none else addValue key.2 j t

mutual

/-- The value that stands under a key. -/
def Node.toJson : Node → Json
  | .value j => j
  | .table _ ms => .object (membersJson ms)
  | .tables ts => .array (tablesJson ts)

def membersJson : List (String × Node) → List (String × Json)
  | [] => []
  | (k, n) :: ms => (k, n.toJson) :: membersJson ms

def tablesJson : List (List (String × Node)) → List Json
  | [] => []
  | t :: ts => .object (membersJson t) :: tablesJson ts

end

/-- The object of the pairs between braces. -/
def inlineTable? (pairs : List (Key × Json)) : Option Json :=
  (pairs.foldlM (fun ms p => addPair p.1 p.2 ms) []).map fun ms => .object (membersJson ms)

/-- A line of a document. -/
inductive Line where
  | pair (key : Key) (value : Json)
  /-- The header of a table. -/
  | table (key : Key)
  /-- The header of one of repeated tables. -/
  | element (key : Key)

/-- A document of which some lines are read: the tables before the last
header, that header, and the members under it. -/
structure Document where
  root : Members
  header : Option Line
  members : Members

namespace Document

def empty : Document := ⟨[], none, []⟩

/-- The root with the members under the last header put in their
place. -/
def closed? (d : Document) : Option Members :=
  match d.header with
  | some (.table (path, key)) =>
    within false path .header d.root fun _ t =>
      some (OrderedMap.insert t key (.table .header d.members))
  | some (.element (path, key)) =>
    within false path .header d.root fun _ t =>
      match OrderedMap.get? t key with
      | some (.tables ts) => some (OrderedMap.insert t key (.tables (ts ++ [d.members])))
      | _ => none
  | _ => some d.members

/-- The members that a table has before its header, which a longer header
may have given it. -/
def membersBefore? (path : List String) (key : String) (root : Members) : Option Members :=
  match path with
  | [] =>
    match OrderedMap.get? root key with
    | none => some []
    | some (.table .passed ms) => some ms
    | some _ => none
  | step :: more =>
    match OrderedMap.get? root step with
    | none => some []
    | some (.value _) => none
    | some (.table _ t) => membersBefore? more key t
    | some (.tables ts) => membersBefore? more key (ts.getLast?.getD [])

/-- The document with one more line. -/
def add? (d : Document) : Line → Option Document
  | .pair key j => (addPair key j d.members).map fun ms => { d with members := ms }
  | .table (path, key) => do
    let root ← d.closed?
    let members ← membersBefore? path key root
    let root ← within false path .header root fun _ t => some (OrderedMap.erase t key)
    return ⟨root, some (.table (path, key)), members⟩
  | .element (path, key) => do
    let root ← d.closed?
    let root ← within false path .header root fun _ t =>
      match OrderedMap.get? t key with
      | none => some (OrderedMap.insert t key (.tables []))
      | some (.tables ts) => some (OrderedMap.insert t key (.tables ts))
      | some _ => none
    return ⟨root, some (.element (path, key)), []⟩

/-- The object that the lines make. -/
def ofLines? (lines : List Line) : Option Json := do
  let d ← lines.foldlM add? empty
  return .object (membersJson (← d.closed?))

end Document

end Toml

end ApiGateway
