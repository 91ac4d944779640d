import ApiGateway.Text.Pieces
/-!
# Text — tables over code points

A property of characters is given by a table: ranges of code points in
order, each with the values that belong to it. A table is written as
lines of rows between spaces, such as `41-5A:61`, all numbers in base 16.
The row of a character is found by halving (`CodeTable.row?`). A row that
is found does hold the character (`mem_of_row?`), and where the rows are
in order the one that holds a character is found (`row?_eq_some`).
-/

namespace ApiGateway

namespace Text

/-- A range of code points, both ends included, and what belongs to
it. -/
structure CodeRow where
  first : Nat
  last : Nat
  values : List Nat
  deriving DecidableEq, Repr

namespace CodeRow

/-- The number that digits of base 16 denote. -/
def number (digits : List Char) : Nat :=
  digits.foldl
    (fun n c => n * 16 + (if c.isDigit then c.toNat - '0'.toNat else c.toNat - 'A'.toNat + 10)) 0

/-- The row that a text denotes: a code point or two with a dash between
them, and after a colon the values, with dots between them. -/
def read (s : List Char) : CodeRow :=
  let (codes, values) := (cutFirst ':' s).getD (s, [])
  let (first, last) := (cutFirst '-' codes).getD (codes, codes)
  { first := number first
    last := number last
    values := if values = [] then [] else (pieces '.' values).map number }

/-- Whether the row holds a character. -/
def contains (r : CodeRow) (c : Char) : Bool := r.first ≤ c.toNat && c.toNat ≤ r.last

end CodeRow

/-- Rows in the order of their code points. -/
abbrev CodeTable := Array CodeRow

namespace CodeTable

/-- The table that lines denote. -/
def ofLines (lines : List String) : CodeTable :=
  (lines.flatMap fun line => (pieces ' ' line.toList).map CodeRow.read).toArray

/-- How many rows begin at a code point or before it, if the first `low`
do, and `count` rows follow of which that is not known. -/
def begun (t : CodeTable) (n low count : Nat) : Nat :=
  if count = 0 then low
  else
    match t[low + count / 2]? with
    | none => low
    | some r =>
      if r.first ≤ n then begun t n (low + count / 2 + 1) (count - count / 2 - 1)
      else begun t n low (count / 2)
termination_by count

/-- The row that holds a character. -/
def row? (t : CodeTable) (c : Char) : Option CodeRow :=
  match t.begun c.toNat 0 t.size with
  | 0 => none
  | n + 1 => t[n]?.filter fun r => r.contains c

/-- A row that is found is of the table and holds the character. -/
theorem mem_of_row? {t : CodeTable} {c : Char} {r : CodeRow} (h : t.row? c = some r) :
    r ∈ t ∧ r.contains c = true := by
  unfold row? at h
  split at h
  · cases h
  · obtain ⟨hr, hc⟩ := Option.filter_eq_some_iff.1 h
    exact ⟨Array.mem_of_getElem? hr, hc⟩

/-- Rows that are in order and do not meet. -/
def Ordered (t : CodeTable) : Prop :=
  ∀ i j (_ : i < j) (hj : j < t.size), t[i].first ≤ t[i].last ∧ t[i].last < t[j].first

/-- In a table in order, halving counts the rows that have begun. -/
theorem begun_spec {t : CodeTable} (ht : t.Ordered) (n low count : Nat)
    (hsize : low + count ≤ t.size)
    (hbefore : ∀ i (h : i < t.size), i < low → t[i].first ≤ n)
    (hafter : ∀ i (h : i < t.size), low + count ≤ i → n < t[i].first) :
    t.begun n low count ≤ t.size ∧
      ∀ i (h : i < t.size), i < t.begun n low count ↔ t[i].first ≤ n := by
  fun_induction begun t n low count with
  | case1 low =>
    refine ⟨by omega, fun i h => ⟨hbefore i h, fun hle => ?_⟩⟩
    have := hafter i h
    omega
  | case2 low count hcount hnone =>
    have : low + count / 2 < t.size := by omega
    simp [Array.getElem?_eq_getElem this] at hnone
  | case3 low count hcount r hr hle ih =>
    obtain ⟨hlt, rfl⟩ := Array.getElem?_eq_some_iff.1 hr
    refine ih (by omega) (fun i h hi => ?_) (fun i h hi => hafter i h (by omega))
    rcases Nat.lt_or_ge i (low + count / 2) with hlow | hge
    · have := ht i (low + count / 2) hlow hlt
      omega
    · have : i = low + count / 2 := by omega
      subst this
      exact hle
  | case4 low count hcount r hr hgt ih =>
    obtain ⟨hlt, rfl⟩ := Array.getElem?_eq_some_iff.1 hr
    refine ih (by omega) hbefore (fun i h hi => ?_)
    rcases Nat.lt_or_ge (low + count / 2) i with hhigh | hle
    · have := ht (low + count / 2) i hhigh h
      omega
    · have : i = low + count / 2 := by omega
      subst this
      omega

/-- In a table in order, the row that holds a character is found. -/
theorem row?_eq_some {t : CodeTable} (ht : t.Ordered) {c : Char} {r : CodeRow} (hr : r ∈ t)
    (hc : r.contains c = true) : t.row? c = some r := by
  obtain ⟨i, hi, rfl⟩ := Array.mem_iff_getElem.1 hr
  have hcontains := hc
  simp only [CodeRow.contains, Bool.and_eq_true, decide_eq_true_eq] at hc
  obtain ⟨hsize, hbegun⟩ := begun_spec ht c.toNat 0 t.size (by omega)
    (fun i _ h => absurd h (Nat.not_lt_zero i)) (fun i h hle => absurd h (by omega))
  have hlt := (hbegun i hi).2 hc.1
  unfold row?
  split
  · omega
  · next n hn =>
    have hni : i = n := by
      rcases Nat.lt_or_ge i n with hlow | hge
      · have hfirst := (hbegun n (by omega)).1 (by omega)
        have := ht i n hlow (by omega)
        omega
      · omega
    subst hni
    simp [Array.getElem?_eq_getElem hi, Option.filter, hcontains]

/-- Whether a row holds the character. -/
def contains (t : CodeTable) (c : Char) : Bool := (t.row? c).isSome

end CodeTable

end Text

end ApiGateway
