import ApiGateway.Text.Utf8
import Mathlib.Data.List.Basic
/-!
# Text — the bytes of a text

An ASCII character is one byte, and that byte occurs nowhere else
(`mem_utf8EncodeChar_iff`): all bytes of any other character are above the
ASCII range. So what is asked of the bytes of a text and holds of ASCII alone
is asked of its characters (`forall_mem_encode_iff`).

A text is cut at an offset into its bytes only where a character ends
(`splitAt?_eq_some_iff`, `slice?_eq_some_iff`). The ASCII characters tell
where that is: where the byte of one stands, there stands the character
(`head?_encode_eq_iff`).
-/

namespace ApiGateway

namespace Utf8

variable {c : Char} {b : UInt8} {s : List Char}

theorem encode_cons (c : Char) (s : List Char) :
    encode (c :: s) = String.utf8EncodeChar c ++ encode s := List.flatMap_cons

theorem encode_append (s t : List Char) : encode (s ++ t) = encode s ++ encode t :=
  List.flatMap_append

/-- The bytes of a text tell the text. -/
theorem encode_injective : Function.Injective encode := by
  intro s t h
  have hdecode : ∀ s : List Char, (encode s).toByteArray.utf8Decode? = some s.toArray :=
    fun _ => List.utf8Decode?_utf8Encode
  have hsame : some s.toArray = some t.toArray := by rw [← hdecode s, ← hdecode t, h]
  exact congrArg Array.toList (Option.some.inj hsame)

/-- An ASCII character is one byte. -/
theorem utf8EncodeChar_of_lt (h : c.toNat < 0x80) :
    String.utf8EncodeChar c = [UInt8.ofNat c.toNat] := by
  have hle : c.val.toNat ≤ 127 := Nat.le_of_lt_succ h
  rw [String.utf8EncodeChar, if_pos hle]
  rfl

/-- The bytes of any other character are not ASCII. -/
theorem le_of_mem_utf8EncodeChar (hc : 0x80 ≤ c.toNat) (hb : b ∈ String.utf8EncodeChar c) :
    0x80 ≤ b.toNat := by
  have hlt : ¬ c.val.toNat ≤ 127 := Nat.not_le_of_lt hc
  rw [String.utf8EncodeChar, if_neg hlt] at hb
  -- every byte is a remainder with the marks of a first or a later byte added to it
  have hhigh : ∀ {n m k : Nat}, 0 < m → m ≤ 64 → 128 ≤ k → m + k ≤ 256 →
      0x80 ≤ (UInt8.ofNat (n % m + k)).toNat := by
    intro n m k hm _ hk hsum
    have := Nat.mod_lt n hm
    rw [UInt8.toNat_ofNat']
    omega
  split at hb
  · simp only [List.mem_cons, List.not_mem_nil, or_false] at hb
    rcases hb with rfl | rfl <;> exact hhigh (by decide) (by decide) (by decide) (by decide)
  · split at hb <;> simp only [List.mem_cons, List.not_mem_nil, or_false] at hb
    · rcases hb with rfl | rfl | rfl <;>
        exact hhigh (by decide) (by decide) (by decide) (by decide)
    · rcases hb with rfl | rfl | rfl | rfl <;>
        exact hhigh (by decide) (by decide) (by decide) (by decide)

/-- **An ASCII byte is one of a character** exactly if it is the character. -/
theorem mem_utf8EncodeChar_iff (hb : b.toNat < 0x80) :
    b ∈ String.utf8EncodeChar c ↔ c.toNat = b.toNat := by
  by_cases hc : c.toNat < 0x80
  · rw [utf8EncodeChar_of_lt hc, List.mem_singleton, ← UInt8.toNat_inj, UInt8.toNat_ofNat']
    omega
  · refine ⟨fun h => ?_, fun h => ?_⟩
    · have := le_of_mem_utf8EncodeChar (Nat.le_of_not_lt hc) h
      omega
    · omega

/-- **What holds of ASCII bytes alone** is asked of the characters. -/
theorem forall_mem_encode_iff {P : UInt8 → Prop} (hP : ∀ b, P b → b.toNat < 0x80) :
    (∀ b ∈ encode s, P b) ↔ ∀ c ∈ s, c.toNat < 0x80 ∧ P (UInt8.ofNat c.toNat) := by
  have hchar : ∀ c : Char, (∀ b ∈ String.utf8EncodeChar c, P b) ↔
      c.toNat < 0x80 ∧ P (UInt8.ofNat c.toNat) := by
    intro c
    by_cases hc : c.toNat < 0x80
    · simp [utf8EncodeChar_of_lt hc, hc]
    · obtain ⟨b, hb⟩ := List.exists_mem_of_ne_nil _ (String.utf8EncodeChar_ne_nil (c := c))
      have hle := le_of_mem_utf8EncodeChar (Nat.le_of_not_lt hc) hb
      refine ⟨fun h => absurd (hP b (h b hb)) (Nat.not_lt_of_le hle), fun h => absurd h.1 hc⟩
  simp only [encode, List.mem_flatMap, forall_exists_index, and_imp, ← hchar]
  exact ⟨fun h c hc b hb => h b c hc hb, fun h b c hc hb => h c hc b hb⟩

/-- ASCII text has as many bytes as characters. -/
theorem length_encode_of_ascii (h : ∀ c ∈ s, c.toNat < 0x80) : (encode s).length = s.length := by
  induction s with
  | nil => rfl
  | cons c s ih =>
    obtain ⟨hc, hs⟩ := List.forall_mem_cons.1 h
    rw [encode_cons, List.length_append, ih hs, utf8EncodeChar_of_lt hc, List.length_singleton,
      List.length_cons, Nat.add_comm]

/-- **Five digits, say, are five bytes that are digits**, and the other way
round. -/
theorem digits_encode_iff {n : Nat} :
    (encode s).length = n ∧ (∀ b ∈ encode s, 0x30 ≤ b ∧ b ≤ 0x39) ↔
      s.length = n ∧ s.all Char.isDigit = true := by
  have hascii : ∀ b : UInt8, 0x30 ≤ b ∧ b ≤ 0x39 → b.toNat < 0x80 := by
    intro b h
    have hle : b.toNat ≤ 0x39 := UInt8.le_iff_toNat_le.1 h.2
    omega
  have hdigit : ∀ c : Char, c.isDigit = true ↔ 0x30 ≤ c.toNat ∧ c.toNat ≤ 0x39 :=
    fun c => Char.isDigit_iff_toNat
  have hall : (∀ b ∈ encode s, 0x30 ≤ b ∧ b ≤ 0x39) ↔ s.all Char.isDigit = true := by
    rw [forall_mem_encode_iff hascii, List.all_eq_true]
    refine forall_congr' fun c => forall_congr' fun _ => ?_
    simp only [hdigit, UInt8.le_iff_toNat_le, UInt8.toNat_ofNat', UInt8.reduceToNat]
    omega
  rw [hall, and_congr_left_iff, List.all_eq_true]
  intro h
  rw [length_encode_of_ascii fun c hc => ?_]
  have := (hdigit c).1 (h c hc)
  omega

/-! ## Cutting a text at offsets into its bytes -/

/-- How many bytes a text has. -/
def size (s : List Char) : Nat := (encode s).length

@[simp] theorem size_nil : size [] = 0 := rfl

theorem size_cons (c : Char) (s : List Char) : size (c :: s) = c.utf8Size + size s := by
  rw [size, encode_cons, List.length_append, String.length_utf8EncodeChar, size]

@[simp] theorem size_append (s t : List Char) : size (s ++ t) = size s + size t := by
  rw [size, encode_append, List.length_append, size, size]

/-- The text before an offset and the text behind it. There are none if the
offset lies inside a character or behind the end. -/
def splitAt? : List Char → Nat → Option (List Char × List Char)
  | s, 0 => some ([], s)
  | [], _ + 1 => none
  | c :: s, n + 1 =>
    if c.utf8Size ≤ n + 1 then
      (splitAt? s (n + 1 - c.utf8Size)).map fun parts => (c :: parts.1, parts.2)
    else none

/-- The text between two offsets. -/
def slice? (s : List Char) (start stop : Nat) : Option (List Char) :=
  if start ≤ stop then
    (splitAt? s start).bind fun parts => (splitAt? parts.2 (stop - start)).map Prod.fst
  else none

theorem splitAt?_append (p r : List Char) : splitAt? (p ++ r) (size p) = some (p, r) := by
  induction p with
  | nil => rw [List.nil_append, size_nil, splitAt?]
  | cons c p ih =>
    have hpos := c.utf8Size_pos
    obtain ⟨n, hn⟩ : ∃ n, size (c :: p) = n + 1 := ⟨size (c :: p) - 1, by rw [size_cons]; omega⟩
    have hle : c.utf8Size ≤ n + 1 := by rw [← hn, size_cons]; omega
    have hrest : n + 1 - c.utf8Size = size p := by rw [← hn, size_cons]; omega
    rw [hn, List.cons_append, splitAt?, if_pos hle, hrest, ih, Option.map_some]

theorem splitAt?_eq_some_iff {n : Nat} {p r : List Char} :
    splitAt? s n = some (p, r) ↔ s = p ++ r ∧ size p = n := by
  constructor
  · intro h
    fun_induction splitAt? generalizing p with
    | case1 s =>
      obtain ⟨rfl, rfl⟩ := Prod.mk.inj (Option.some.inj h)
      exact ⟨rfl, rfl⟩
    | case2 => cases h
    | case3 c s n hle ih =>
      obtain ⟨⟨p', r'⟩, hparts, heq⟩ := Option.map_eq_some_iff.1 h
      obtain ⟨rfl, rfl⟩ := Prod.mk.inj heq
      obtain ⟨rfl, hsize⟩ := ih hparts
      exact ⟨rfl, by rw [size_cons, hsize]; omega⟩
    | case4 => cases h
  · rintro ⟨rfl, rfl⟩
    exact splitAt?_append p r

/-- **A text between offsets** is what stands between two others of those
sizes. -/
theorem slice?_eq_some_iff {start stop : Nat} {m : List Char} :
    slice? s start stop = some m ↔
      ∃ p r, s = p ++ m ++ r ∧ size p = start ∧ size (p ++ m) = stop := by
  constructor
  · intro h
    rw [slice?] at h
    split at h
    next hle =>
      obtain ⟨⟨p, tail⟩, hp, hm⟩ := Option.bind_eq_some_iff.1 h
      obtain ⟨⟨m', r⟩, hm', rfl⟩ := Option.map_eq_some_iff.1 hm
      obtain ⟨rfl, hstart⟩ := splitAt?_eq_some_iff.1 hp
      obtain ⟨htail, hstop⟩ := splitAt?_eq_some_iff.1 hm'
      refine ⟨p, r, ?_, hstart, ?_⟩
      · rw [List.append_assoc, ← htail]
      · rw [size_append]
        dsimp only at hstop ⊢
        omega
    next => cases h
  · rintro ⟨p, r, rfl, rfl, rfl⟩
    have hle : size p ≤ size (p ++ m) := by rw [size_append]; omega
    have hm : size (p ++ m) - size p = size m := by rw [size_append]; omega
    rw [slice?, if_pos hle, List.append_assoc, splitAt?_append, Option.bind_some, hm,
      splitAt?_append, Option.map_some]

/-! ## An ASCII character at an offset -/

/-- What stands at an offset is the first byte of the text from there on. -/
theorem getElem?_encode_append (p r : List Char) :
    (encode (p ++ r))[size p]? = (encode r).head? := by
  rw [encode_append, size, List.getElem?_append_right (Nat.le_refl _), Nat.sub_self,
    List.head?_eq_getElem?]

/-- A text begins with the byte of an ASCII character exactly if it begins
with the character. -/
theorem head?_encode_eq_iff {a : Char} (ha : a.toNat < 0x80) :
    (encode s).head? = some (UInt8.ofNat a.toNat) ↔ s.head? = some a := by
  cases s with
  | nil => exact ⟨nofun, nofun⟩
  | cons c s =>
    rw [encode_cons, List.head?_append_of_ne_nil _ String.utf8EncodeChar_ne_nil, List.head?_cons,
      Option.some_inj]
    constructor
    · intro h
      have hmem := List.mem_of_head? h
      have hbyte : (UInt8.ofNat a.toNat).toNat = a.toNat := by rw [UInt8.toNat_ofNat']; omega
      rw [mem_utf8EncodeChar_iff (by omega), hbyte] at hmem
      exact Char.toNat_inj.1 hmem
    · rintro rfl
      rw [utf8EncodeChar_of_lt ha, List.head?_cons]

theorem encode_replicate {a : Char} (ha : a.toNat < 0x80) (k : Nat) :
    encode (List.replicate k a) = List.replicate k (UInt8.ofNat a.toNat) := by
  induction k with
  | zero => rfl
  | succ k ih =>
    rw [List.replicate_succ, encode_cons, ih, utf8EncodeChar_of_lt ha, List.singleton_append,
      List.replicate_succ]

theorem size_replicate {a : Char} (ha : a.toNat < 0x80) (k : Nat) :
    size (List.replicate k a) = k := by
  rw [size, encode_replicate ha, List.length_replicate]

end Utf8

end ApiGateway
