import ApiGateway.Proofs.Text.Bytes
import ApiGateway.Record.Snapshot
import ApiGateway.Store.TreePath
import Mathlib.Data.List.Basic
import Mathlib.Data.List.Induction
/-!
# Snapshots — the texts of ids

The text of an id is its number in decimal with zeros in front
(`digits_eq_leftpad`), and it is the only text that denotes the id
(`parse?_eq_some_iff`): so many digits denote a number in one way only
(`Decimal.eq_of_ofDigits_eq`). All texts have five digits, so they stand in
the order of the numbers (`text_lt_iff`), and so do the directories that are
named by them (`isBefore_child_text`).
-/

namespace ApiGateway

namespace Decimal

/-- A digit and what it denotes. -/
theorem digit_spec {c : Char} (h : c.isDigit = true) :
    c.toNat - '0'.toNat < 10 ∧ c.toNat = '0'.toNat + (c.toNat - '0'.toNat) := by
  obtain ⟨hlow, hhigh⟩ := Char.isDigit_iff_toNat.1 h
  have hten : '9'.toNat < '0'.toNat + 10 := by decide
  omega

/-- **Of so many digits**, a number is denoted in one way only. -/
theorem eq_of_ofDigits_eq {s t : List Char} (hlength : s.length = t.length)
    (hs : ∀ c ∈ s, c.isDigit = true) (ht : ∀ c ∈ t, c.isDigit = true)
    (h : ofDigits s = ofDigits t) : s = t := by
  induction s using List.reverseRecOn generalizing t with
  | nil => exact (List.length_eq_zero_iff.1 hlength.symm).symm
  | append_singleton s c ih =>
    obtain rfl | ⟨t, d, rfl⟩ := List.eq_nil_or_concat' t
    · simp at hlength
    · simp only [List.forall_mem_append, List.forall_mem_singleton] at hs ht
      simp only [ofDigits, List.foldl_concat] at h
      rw [← ofDigits, ← ofDigits] at h
      -- the last digit is what is left over by ten
      obtain ⟨hc, hcval⟩ := digit_spec hs.2
      obtain ⟨hd, hdval⟩ := digit_spec ht.2
      have hlast : c = d := Char.toNat_inj.1 (by omega)
      have hfront : s = t := ih (by simpa using hlength) hs.1 ht.1 (by omega)
      rw [hlast, hfront]

end Decimal

/-! ## Names in one directory -/

namespace PathStep

theorem isBefore_self (a : PathStep) : a.isBefore a = false := by
  cases a with
  | up => rfl
  | name s => exact decide_eq_false (String.lt_irrefl s)

end PathStep

namespace TreePath

/-- Names in one directory have the order of their paths. -/
theorem areBefore_append (p : List PathStep) (s t : String) :
    areBefore (p ++ [.name s]) (p ++ [.name t]) = decide (s < t) := by
  induction p with
  | nil => simp [areBefore, PathStep.isBefore]
  | cons a p ih => simp [areBefore, PathStep.isBefore_self, ih]

end TreePath

/-! ## Texts -/

namespace SnapshotId

/-- The digits of an id are five, and denote its number. -/
theorem digits_spec (i : SnapshotId) :
    i.digits.length = 5 ∧ (∀ c ∈ i.digits, c.isDigit = true) ∧
      Decimal.ofDigits i.digits = i.number := by
  have hlt := i.number_lt
  have hmod : ∀ p, i.number / p % 10 < 10 := fun p => Nat.mod_lt _ (by decide)
  have hvalue : ∀ p, (i.number / p % 10).digitChar.toNat - '0'.toNat = i.number / p % 10 :=
    fun p => Nat.toNat_digitChar_sub_48_of_lt_ten (hmod p)
  refine ⟨rfl, fun c hc => ?_, ?_⟩
  · obtain ⟨p, -, rfl⟩ := List.mem_map.1 hc
    rw [Nat.isDigit_digitChar, decide_eq_true (hmod p)]
  · simp only [Decimal.ofDigits, digits, List.map_cons, List.map_nil, List.foldl_cons,
      List.foldl_nil, hvalue]
    -- five digits are enough below 65536
    omega

/-- What is read as an id, in five digits. -/
theorem ofDigits?_eq_some_iff {s : List Char} {i : SnapshotId} :
    ofDigits? s = some i ↔
      s.length = 5 ∧ (∀ c ∈ s, c.isDigit = true) ∧ Decimal.ofDigits s = i.number := by
  rw [ofDigits?, Option.ite_none_right_eq_some, List.all_eq_true]
  constructor
  · rintro ⟨⟨hlength, hall⟩, h⟩
    obtain ⟨_, hi⟩ := Option.dite_none_right_eq_some.1 h
    exact ⟨hlength, hall, congrArg number (Option.some.inj hi)⟩
  · rintro ⟨hlength, hall, hvalue⟩
    refine ⟨⟨hlength, hall⟩, ?_⟩
    rw [dif_pos (hvalue ▸ i.number_lt)]
    cases i
    simp only [hvalue]

/-- **The text of an id is the only one that denotes it.** -/
theorem parse?_eq_some_iff {s : String} {i : SnapshotId} : parse? s = some i ↔ s = i.text := by
  obtain ⟨hlength, hall, hvalue⟩ := digits_spec i
  rw [parse?, ofDigits?_eq_some_iff, text, ← String.toList_inj, String.toList_ofList]
  constructor
  · rintro ⟨hlength', hall', hvalue'⟩
    exact Decimal.eq_of_ofDigits_eq (hlength'.trans hlength.symm) hall' hall
      (hvalue'.trans hvalue.symm)
  · intro hs
    rw [hs]
    exact ⟨hlength, hall, hvalue⟩

/-- The text of an id denotes it. -/
theorem parse?_text (i : SnapshotId) : parse? i.text = some i := parse?_eq_some_iff.2 rfl

theorem text_injective {i j : SnapshotId} (h : i.text = j.text) : i = j := by
  have hi := parse?_text i
  rw [h, parse?_text j] at hi
  exact (Option.some.inj hi).symm

/-- **Which texts are ids**: five bytes that are digits, of a number below
65536. -/
theorem exists_parse?_iff {s : String} :
    (∃ i, parse? s = some i) ↔
      s.utf8.length = 5 ∧ (∀ b ∈ s.utf8, 0x30 ≤ b ∧ b ≤ 0x39) ∧
        Decimal.ofDigits s.toList < 65536 := by
  simp only [parse?, ofDigits?_eq_some_iff]
  rw [String.utf8, ← and_assoc, Utf8.digits_encode_iff, List.all_eq_true, and_assoc]
  constructor
  · rintro ⟨i, hlength, hall, hvalue⟩
    exact ⟨hlength, hall, hvalue ▸ i.number_lt⟩
  · rintro ⟨hlength, hall, hlt⟩
    exact ⟨⟨_, hlt⟩, hlength, hall, rfl⟩

/-- **The text of an id** is its number in decimal, with zeros in front. -/
theorem digits_eq_leftpad (i : SnapshotId) :
    i.digits = List.leftpad 5 '0' (Nat.toDigits 10 i.number) := by
  obtain ⟨hlength, hall, hvalue⟩ := digits_spec i
  have hfew : (Nat.toDigits 10 i.number).length ≤ 5 :=
    (Nat.length_toDigits_le_iff (by decide) (by decide)).2
      (Nat.lt_trans i.number_lt (by decide))
  refine Decimal.eq_of_ofDigits_eq ?_ hall (fun c hc => ?_) ?_
  · rw [hlength, List.length_leftpad, Nat.max_eq_left hfew]
  · rcases List.mem_append.1 hc with hc | hc
    · rw [List.eq_of_mem_replicate hc]
      rfl
    · exact Nat.isDigit_of_mem_toDigits (by decide) (by decide) hc
  · change _ = Nat.ofDigitChars 10 (List.replicate _ '0' ++ _) 0
    rw [Nat.ofDigitChars_append, Nat.ofDigitChars_replicate_zero, Nat.mul_zero,
      Nat.ofDigitChars_ten_toDigits, hvalue]

/-! ## Order -/

/-- Digits stand in the order of what they denote. -/
theorem digitChar_lt_iff {d e : Nat} (hd : d < 10) (he : e < 10) :
    (d.digitChar < e.digitChar ↔ d < e) ∧ (d.digitChar = e.digitChar ↔ d = e) := by
  have all : ∀ d e : Fin 10, (d.val.digitChar < e.val.digitChar ↔ d.val < e.val) ∧
      (d.val.digitChar = e.val.digitChar ↔ d.val = e.val) := by decide
  exact all ⟨d, hd⟩ ⟨e, he⟩

/-- Numbers are compared by a digit first, and then by what is below it. -/
theorem mod_lt_mod_iff {p : Nat} (hp : 0 < p) (m n : Nat) :
    m % (p * 10) < n % (p * 10) ↔
      m / p % 10 < n / p % 10 ∨ m / p % 10 = n / p % 10 ∧ m % p < n % p := by
  rw [Nat.mod_mul, Nat.mod_mul]
  have hm := Nat.mod_lt m hp
  have hn := Nat.mod_lt n hp
  have hstep : ∀ {d e : Nat}, d < e → p * d + p ≤ p * e := fun h => Nat.mul_le_mul_left p h
  rcases Nat.lt_trichotomy (m / p % 10) (n / p % 10) with h | h | h
  · have := hstep h
    omega
  · rw [h]
    omega
  · have := hstep h
    omega

/-- **Ids stand in the order of their texts.** -/
theorem text_lt_iff {i j : SnapshotId} : i.text < j.text ↔ i.number < j.number := by
  have hmod : ∀ n p : Nat, n / p % 10 < 10 := fun _ _ => Nat.mod_lt _ (by decide)
  have hwhole : ∀ k : SnapshotId, k.number % (10000 * 10) = k.number := fun k =>
    Nat.mod_eq_of_lt (Nat.lt_trans k.number_lt (by decide))
  have hdigit : ∀ p, 0 < p → _ := fun p hp => mod_lt_mod_iff (p := p) hp i.number j.number
  rw [← hwhole i, ← hwhole j, hdigit 10000 (by decide), hdigit 1000 (by decide),
    hdigit 100 (by decide), hdigit 10 (by decide), hdigit 1 (by decide), Nat.mod_one, Nat.mod_one]
  simp only [String.lt_iff, text, String.toList_ofList, digits, List.map_cons, List.map_nil,
    List.cons_lt_cons_iff, (digitChar_lt_iff (hmod _ _) (hmod _ _)).1,
    (digitChar_lt_iff (hmod _ _) (hmod _ _)).2, List.not_lt_nil, Nat.lt_irrefl]

/-- Texts are compared as the numbers are. -/
theorem compare_text (i j : SnapshotId) : compare i.text j.text = compare i.number j.number := by
  have heq : i.text = j.text ↔ i.number = j.number := by
    constructor
    · exact fun h => congrArg number (text_injective h)
    · exact fun h => congrArg text (show i = j by cases i; cases j; simpa using h)
  change compareOfLessAndEq i.text j.text = compareOfLessAndEq i.number j.number
  simp only [compareOfLessAndEq, text_lt_iff, heq]

/-- **Directories named by ids stand in the order of the ids.** -/
theorem isBefore_child_text (root : TreePath) (i j : SnapshotId) :
    (root.child i.text).isBefore (root.child j.text) = decide (i.number < j.number) := by
  rw [TreePath.isBefore, TreePath.child, TreePath.child, TreePath.areBefore_append]
  exact decide_eq_decide.2 text_lt_iff

/-- **The text format of ids.** A text denotes an id exactly if it is the id's
own text, which is its number in decimal, filled up with zeros to five digits.
So the texts that denote some id are five bytes, all of them digits, with a
number below 65536. The texts are compared as the numbers are, and directories
named by them stand in that order. -/
theorem text_format :
    (∀ (s : String) (i : SnapshotId), parse? s = some i ↔ s = i.text) ∧
      (∀ i : SnapshotId,
        i.text = String.ofList (List.leftpad 5 '0' (Nat.toDigits 10 i.number))) ∧
      (∀ s : String, (∃ i, parse? s = some i) ↔
        s.utf8.length = 5 ∧ (∀ b ∈ s.utf8, 0x30 ≤ b ∧ b ≤ 0x39) ∧
          Decimal.ofDigits s.toList < 65536) ∧
      (∀ i j : SnapshotId, compare i.text j.text = compare i.number j.number) ∧
      ∀ (root : TreePath) (i j : SnapshotId),
        (root.child i.text).isBefore (root.child j.text) = decide (i.number < j.number) := by
  refine ⟨fun s i => parse?_eq_some_iff, fun i => ?_, fun s => exists_parse?_iff, compare_text,
    isBefore_child_text⟩
  rw [text, digits_eq_leftpad]

/-- Digits of another script, a sign, and a number that is too great. -/
example : parse? "٠٠٠٤٢" = none ∧ parse? "+0042" = none ∧ parse? "65536" = none := by decide

end SnapshotId

end ApiGateway
