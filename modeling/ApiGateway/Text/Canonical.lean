import ApiGateway.Text.Composite
import ApiGateway.Text.Mark
/-!
# Text — the canonical form

One text can be written in several ways: with composites or with what
they stand for, and with its marks in several orders. In the canonical
form (`canonical`) everything is taken apart, the marks behind a character
are put in the order of their classes, and what can be put together
again is.
-/

namespace ApiGateway

namespace Text

/-- A character put in front of a text in order. It moves behind the
marks at the front that have smaller classes than its own. -/
def insertMark (c : Char) : List Char → List Char
  | [] => [c]
  | d :: rest =>
    if combiningClass d ≠ 0 ∧ combiningClass d < combiningClass c then d :: insertMark c rest
    else c :: d :: rest

/-- The text with its marks in order. -/
def inMarkOrder (s : List Char) : List Char := s.foldr insertMark []

/-- The text with everything taken apart, in order. -/
def takenApart (s : List Char) : List Char := inMarkOrder (s.flatMap (parts 4))

/-- What is put together so far, both lists backwards: what is done, the
last character of class zero, and the marks behind it. -/
structure Composer where
  done : List Char
  base : Option Char
  marks : List Char

namespace Composer

/-- One more character. It joins the base unless a character between
them is in the way, which is one of its own class or a greater one. -/
def step (k : Composer) (c : Char) : Composer :=
  match k.base with
  | none => if combiningClass c = 0 then { k with base := some c } else { k with done := c :: k.done }
  | some base =>
    let inTheWay := k.marks.head?.any fun m => combiningClass c ≤ combiningClass m
    match if inTheWay then none else composite? base c with
    | some joined => { k with base := some joined }
    | none =>
      if combiningClass c = 0 then ⟨k.marks ++ base :: k.done, some c, []⟩
      else { k with marks := c :: k.marks }

/-- The text that was put together. -/
def text (k : Composer) : List Char := (k.marks ++ k.base.toList ++ k.done).reverse

end Composer

/-- The canonical form of a text. -/
def canonical (s : List Char) : List Char :=
  ((takenApart s).foldl Composer.step ⟨[], none, []⟩).text

/-- Putting marks in order neither adds nor loses a character. -/
theorem insertMark_perm (c : Char) (s : List Char) : (insertMark c s).Perm (c :: s) := by
  induction s with
  | nil => exact List.Perm.refl _
  | cons d rest ih =>
    unfold insertMark
    split
    · exact (List.Perm.cons d ih).trans (List.Perm.swap c d rest)
    · exact List.Perm.refl _

theorem inMarkOrder_perm (s : List Char) : (inMarkOrder s).Perm s := by
  induction s with
  | nil => exact List.Perm.refl _
  | cons c rest ih => exact (insertMark_perm c _).trans (List.Perm.cons c ih)

end Text

end ApiGateway
