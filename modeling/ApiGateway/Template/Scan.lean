import ApiGateway.Text.Pieces
/-!
# Templates — literal text and placeholders

A URL template is literal text with placeholders between braces, as in
`/routes/{id}`. The scanner reads it once, character by character. Any
run of opening braces opens a placeholder and any run of closing braces
closes it; an opening brace inside a placeholder turns everything since
the last one into literal text, and so does the end of the template. A
closing brace that closes nothing is literal.
-/

namespace ApiGateway

namespace Template

/-- A part of a template. A placeholder remembers how many braces it
stood between. -/
inductive Segment where
  | literal (text : List Char)
  | placeholder (opens : Nat) (name : List Char) (closes : Nat)
  deriving DecidableEq, Repr

namespace Segment

def isPlaceholder : Segment → Bool
  | literal _ => false
  | placeholder .. => true

/-- The text or the name of a segment, without braces. -/
def body : Segment → List Char
  | literal t => t
  | placeholder _ n _ => n

/-- The segment as the template has it. -/
def written : Segment → List Char
  | literal t => t
  | placeholder o n c => List.replicate o '\x7b' ++ n ++ List.replicate c '\x7d'

/-- The segment with one brace on either side of a placeholder. -/
def simplified : Segment → Segment
  | literal t => literal t
  | placeholder _ n _ => placeholder 1 n 1

end Segment

/-- What the scanner holds after some part of a template: literal text,
and what follows it. -/
inductive Scanner where
  /-- Nothing follows. -/
  | text (pending : List Char)
  /-- A placeholder is open. -/
  | opened (pending : List Char) (opens : Nat) (name : List Char)
  /-- A placeholder is closed; more closing braces may come. -/
  | closed (pending : List Char) (opens : Nat) (name : List Char) (closes : Nat)

namespace Scanner

/-- Literal text as a segment, none if it is empty. -/
def flush (pending : List Char) : List Segment :=
  if pending = [] then [] else [.literal pending]

/-- The segments that the scanner holds when the template ends. -/
def finish : Scanner → List Segment
  | text pending => flush pending
  | opened pending opens name => flush (pending ++ List.replicate opens '\x7b' ++ name)
  | closed pending opens name closes => flush pending ++ [.placeholder opens name closes]

/-- One character: the segments it completes and what is held then. -/
def step : Scanner → Char → List Segment × Scanner
  | text pending, c =>
    if c = '\x7b' then ([], opened pending 1 []) else ([], text (pending ++ [c]))
  | opened pending opens name, c =>
    if c = '\x7b' then
      if name = [] then ([], opened pending (opens + 1) [])
      else ([], opened (pending ++ List.replicate opens '\x7b' ++ name) 1 [])
    else if c = '\x7d' then ([], closed pending opens name 1)
    else ([], opened pending opens (name ++ [c]))
  | closed pending opens name closes, c =>
    if c = '\x7d' then ([], closed pending opens name (closes + 1))
    else
      (flush pending ++ [.placeholder opens name closes],
        if c = '\x7b' then opened [] 1 [] else text [c])

end Scanner

/-- The segments of the rest of a template. -/
def scanFrom (state : Scanner) : List Char → List Segment
  | [] => state.finish
  | c :: rest =>
    let (done, next) := state.step c
    done ++ scanFrom next rest

/-- The segments of a template, in order. -/
def scan (template : List Char) : List Segment := scanFrom (.text []) template

/-- Whether a text has a placeholder. -/
def hasPlaceholder (text : List Char) : Bool := (scan text).any Segment.isPlaceholder

/-- The sum of the positions, from `index` on, of the pieces that have a
placeholder. -/
def scoreFrom (index : Nat) : List (List Char) → Nat
  | [] => 0
  | p :: ps => (if hasPlaceholder p then index else 0) + scoreFrom (index + 1) ps

/-- Scores are counted in 32 bits. -/
abbrev Score := Fin (Nat.pow 2 32)

/-- A number counted in 32 bits. -/
def Score.ofNat (n : Nat) : Score := ⟨n % Nat.pow 2 32, Nat.mod_lt n (by decide)⟩

/-- The score that no other exceeds. -/
def Score.greatest : Score := ⟨Nat.pow 2 32 - 1, by decide⟩

/-- The score of a template: the sum of the positions of its pieces
between slashes that have a placeholder, the piece before the first
slash having position zero. The lower the score, the more specific the
template; without placeholders it is zero. -/
def matchingScore (template : List Char) : Score :=
  .ofNat (scoreFrom 0 (Text.pieces '/' template))

end Template

end ApiGateway
