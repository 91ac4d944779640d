import ApiGateway.Proofs.Template.Canonical
import ApiGateway.Proofs.Text.Bytes
/-!
# Templates — scanned by offsets

A template can be scanned in place: the bytes are looked at one by one, a
brace is followed to where its run ends, and the text between two offsets is
cut out where a segment is complete (`pass`). An offset may then lie inside a
character, and the loop goes back to an opening brace that it has passed.

What carries the loop is where it stands (`Standing`): in front of the offset
are what is cut up already and text that is held and opens no brace from there
on, and the scanner makes of the held text and the rest what is still to come.
Each pass gets further or ends the loop (`Standing.pass`). So the loop ends,
never cuts inside a character, and has the segments of `scan`
(`Standing.passes_eq`), the one canonical cut of the template (`scan_exact`).
-/

namespace ApiGateway

namespace Template

open Utf8 (encode size splitAt? slice?)

/-! ## The loop -/

/-- What the loop goes on with. -/
structure Cursor where
  /-- Where the literal text begins that has not come out. -/
  start : Nat
  /-- The byte that is looked at next. -/
  index : Nat
  /-- The segments that have come out. -/
  found : List Segment
  deriving DecidableEq, Repr

/-- What one pass leaves. -/
inductive Reading where
  | going (c : Cursor)
  | over (segments : List Segment)
  deriving DecidableEq, Repr

/-- The first offset, from one on, at which the run of a byte ends. -/
def runEnd (b : UInt8) (bytes : List UInt8) (i : Nat) : Nat :=
  i + ((bytes.drop i).takeWhile (· = b)).length

/-- The offset of the first brace. -/
def braceOffset? : List Char → Option Nat
  | [] => none
  | c :: s => if c = '\x7b' ∨ c = '\x7d' then some 0 else (braceOffset? s).map (c.utf8Size + ·)

/-- The text between two offsets as a literal, none if there is no text. -/
def literal? (t : List Char) (start stop : Nat) : Option (List Segment) :=
  if start < stop then (slice? t start stop).map fun m => [.literal m] else some []

/-- Behind the loop the text comes out that is left. -/
def conclude (t : List Char) (c : Cursor) : Option Reading :=
  (literal? t c.start (encode t).length).map fun last => .over (c.found ++ last)

/-- What a pass does with a name: an opening brace behind it is where the loop
starts over, and any other byte begins a run of closing braces. -/
def followName (t : List Char) (c : Cursor) (nameStart nameEnd : Nat) : Option Reading :=
  (encode t)[nameEnd]?.bind fun brace =>
    if brace = 0x7b then some (.going { c with index := nameEnd }) else
      let close := runEnd 0x7d (encode t) nameEnd
      (literal? t c.start c.index).bind fun before =>
        (slice? t nameStart nameEnd).map fun name =>
          .going ⟨close, close, c.found ++ before ++
            [.placeholder (nameStart - c.index) name (close - nameEnd)]⟩

/-- **One pass of the loop**, `none` where a text is cut inside a character or
a byte is read behind the end. -/
def pass (t : List Char) (c : Cursor) : Option Reading :=
  match (encode t)[c.index]? with
  | none => conclude t c
  | some b =>
    if b ≠ 0x7b then some (.going { c with index := c.index + 1 }) else
      let nameStart := runEnd 0x7b (encode t) c.index
      (splitAt? t nameStart).bind fun parts =>
        match braceOffset? parts.2 with
        | none => conclude t c
        | some offset => followName t c nameStart (nameStart + offset)

/-- Up to so many passes. -/
def passes (t : List Char) : Nat → Cursor → Option Reading
  | 0, c => some (.going c)
  | n + 1, c =>
    match pass t c with
    | some (.going next) => passes t n next
    | reading => reading

variable {t x n r : List Char} {a : Char} {c : Cursor} {done pending rest : List Char}

/-! ## Offsets that are found -/

/-- A run is followed to its end. -/
theorem runEnd_append (ha : a.toNat < 0x80) (k : Nat) (hr : r.head? ≠ some a) :
    runEnd (UInt8.ofNat a.toNat) (encode (x ++ (List.replicate k a ++ r))) (size x) =
      size x + k := by
  have hstop : (encode r).takeWhile (· = UInt8.ofNat a.toNat) = [] := by
    rw [ne_eq, ← Utf8.head?_encode_eq_iff ha] at hr
    cases hbytes : encode r with
    | nil => rfl
    | cons b bytes =>
      have hb : b ≠ UInt8.ofNat a.toNat := fun hb => hr (by rw [hbytes, List.head?_cons, hb])
      exact List.takeWhile_cons_of_neg (by simpa using hb)
  rw [runEnd, Utf8.encode_append, size, List.drop_left, Utf8.encode_append,
    Utf8.encode_replicate ha, List.takeWhile_append_of_pos (by simp), hstop, List.append_nil,
    List.length_replicate]

/-- A name without braces is passed. -/
theorem braceOffset?_append (hopen : '\x7b' ∉ n) (hclose : '\x7d' ∉ n) :
    braceOffset? (n ++ r) = (braceOffset? r).map (size n + ·) := by
  induction n with
  | nil => simp
  | cons d n ih =>
    obtain ⟨hd, hopen⟩ := not_or.1 fun h => hopen (List.mem_cons.2 h)
    obtain ⟨hd', hclose⟩ := not_or.1 fun h => hclose (List.mem_cons.2 h)
    rw [List.cons_append, braceOffset?, if_neg (not_or.2 ⟨Ne.symm hd, Ne.symm hd'⟩),
      ih hopen hclose, Option.map_map, Utf8.size_cons]
    congr 1
    funext i
    simp [Nat.add_assoc]

theorem literal?_append (x m r : List Char) :
    literal? (x ++ m ++ r) (size x) (size (x ++ m)) = some (Scanner.flush m) := by
  have hslice : slice? (x ++ m ++ r) (size x) (size (x ++ m)) = some m :=
    Utf8.slice?_eq_some_iff.2 ⟨x, r, rfl, rfl, rfl⟩
  cases m with
  | nil => rw [literal?, if_neg (by simp)]; rfl
  | cons d m =>
    have := d.utf8Size_pos
    rw [literal?, if_pos (by rw [Utf8.size_append, Utf8.size_cons]; omega), hslice]
    rfl

/-! ## What is done with a name -/

/-- Where another brace opens behind a name, the loop starts over. -/
theorem followName_again (c : Cursor) (nameStart : Nat) (x r : List Char) :
    followName (x ++ '\x7b' :: r) c nameStart (size x) =
      some (.going { c with index := size x }) := by
  have hbrace : (encode (x ++ '\x7b' :: r))[size x]? = some 0x7b := by
    rw [Utf8.getElem?_encode_append]
    rfl
  rw [followName, hbrace]
  rfl

/-- Where closing braces stand behind it, a placeholder comes out. -/
theorem followName_closed {k : Nat} {before : List Segment}
    (ht : x ++ n ++ (List.replicate k '\x7d' ++ r) = t) (hk : 0 < k)
    (hr : r.head? ≠ some '\x7d') (hbefore : literal? t c.start c.index = some before) :
    followName t c (size x) (size (x ++ n)) =
      some (.going ⟨size (x ++ n) + k, size (x ++ n) + k,
        c.found ++ before ++ [.placeholder (size x - c.index) n k]⟩) := by
  have hbrace : (encode t)[size (x ++ n)]? = some 0x7d := by
    rw [← ht, Utf8.getElem?_encode_append]
    exact (Utf8.head?_encode_eq_iff (by decide)).2 (head?_replicate_append hk r)
  have hrun : runEnd 0x7d (encode t) (size (x ++ n)) = size (x ++ n) + k := by
    rw [← ht]
    exact runEnd_append (by decide) k hr
  have hname : slice? t (size x) (size (x ++ n)) = some n :=
    Utf8.slice?_eq_some_iff.2 ⟨x, _, ht.symm, rfl, rfl⟩
  rw [followName, hbrace, Option.bind_some, if_neg (by decide)]
  simp only [hbefore, hname, hrun, Option.bind_some, Option.map_some, Nat.add_sub_cancel_left]

/-! ## Where the loop stands -/

/-- **Where the loop stands** in a template. -/
structure Standing (t : List Char) (c : Cursor) (done pending rest : List Char) : Prop where
  whole : done ++ pending ++ rest = t
  start : c.start = size done
  /-- The next byte may be one of the text that is held. -/
  le : c.index ≤ size (done ++ pending)
  /-- It opens no brace from there on. -/
  plain : 0x7b ∉ (encode (done ++ pending)).drop c.index
  found : c.found ++ scanFrom (.text pending) rest = scan t

/-- The loop begins in front of the template. -/
theorem standing_first (t : List Char) : Standing t ⟨0, 0, []⟩ [] [] t where
  whole := rfl
  start := rfl
  le := Nat.le_refl 0
  plain := List.not_mem_nil
  found := rfl

theorem Standing.index_le (h : Standing t c done pending rest) : c.index ≤ size t := by
  have := h.le
  rw [← h.whole, Utf8.size_append]
  omega

/-- Where what is left is text, the loop ends with all segments. -/
theorem Standing.conclude_eq (h : Standing t c done pending rest)
    (hrest : scanFrom (.text pending) rest = Scanner.flush (pending ++ rest)) :
    conclude t c = some (.over (scan t)) := by
  have hlast := literal?_append done (pending ++ rest) []
  rw [List.append_nil, ← List.append_assoc, h.whole, ← h.start] at hlast
  rw [conclude, ← size, hlast, Option.map_some, ← hrest, h.found]

/-- The loop goes on, from further behind. -/
def GoesOn (t : List Char) (c : Cursor) : Prop :=
  ∃ next done pending rest, pass t c = some (.going next) ∧
    Standing t next done pending rest ∧ c.index < next.index

/-- Behind the last character the loop is over. -/
theorem Standing.pass_of_nil (h : Standing t c done pending [])
    (hindex : c.index = size (done ++ pending)) : pass t c = some (.over (scan t)) := by
  have hbyte : (encode t)[c.index]? = none := by
    rw [hindex, ← h.whole, Utf8.getElem?_encode_append]
    rfl
  rw [pass, hbyte]
  exact h.conclude_eq (by rw [List.append_nil]; rfl)

/-- A byte of the text that is held is passed. -/
theorem Standing.goesOn_of_lt (h : Standing t c done pending rest)
    (hindex : c.index < size (done ++ pending)) : GoesOn t c := by
  obtain ⟨b, hb⟩ : ∃ b, (encode (done ++ pending))[c.index]? = some b :=
    ⟨_, List.getElem?_eq_getElem hindex⟩
  have hbyte : (encode t)[c.index]? = some b := by
    rw [← h.whole, Utf8.encode_append, List.getElem?_append_left hindex, hb]
  have hne : b ≠ 0x7b := by
    rintro rfl
    rw [← Nat.add_zero c.index, ← List.getElem?_drop] at hb
    exact h.plain (List.mem_of_getElem? hb)
  refine ⟨_, done, pending, rest, by rw [pass, hbyte]; exact if_pos hne, ?_, Nat.lt_succ_self _⟩
  refine { h with le := hindex, plain := fun hmem => h.plain ?_ }
  rw [← List.drop_drop] at hmem
  exact List.mem_of_mem_drop hmem

/-- So is the first byte of a character that is no opening brace; the others
are held with it. -/
theorem Standing.goesOn_of_plain {d : Char} (h : Standing t c done pending (d :: rest))
    (hindex : c.index = size (done ++ pending)) (hd : d ≠ '\x7b') : GoesOn t c := by
  have hbyte : (encode t)[c.index]? = (encode (d :: rest)).head? := by
    rw [hindex, ← h.whole, Utf8.getElem?_encode_append]
  have hbytes : (0x7b : UInt8) ∉ String.utf8EncodeChar d := by
    rw [Utf8.mem_utf8EncodeChar_iff (by decide)]
    exact fun heq => hd (Char.toNat_inj.1 heq)
  obtain ⟨b, more, hmore⟩ := List.exists_cons_of_ne_nil (String.utf8EncodeChar_ne_nil (c := d))
  rw [hmore] at hbytes
  obtain ⟨hne, hplain⟩ := not_or.1 fun hmem => hbytes (List.mem_cons.2 hmem)
  have hmem : '\x7b' ∉ [d] := by simpa using Ne.symm hd
  refine ⟨⟨c.start, c.index + 1, c.found⟩, done, pending ++ [d], rest, ?_, ?_, Nat.lt_succ_self _⟩
  · rw [pass, hbyte, Utf8.encode_cons, hmore]
    exact if_pos (Ne.symm hne)
  · have hpos := d.utf8Size_pos
    refine ⟨?_, h.start, ?_, ?_, ?_⟩
    · rw [← h.whole]
      simp
    · rw [← List.append_assoc, Utf8.size_append, ← hindex, Utf8.size_cons]
      dsimp only
      omega
    · rw [← List.append_assoc, Utf8.encode_append, hindex, ← List.drop_drop, size, List.drop_left,
        Utf8.encode_cons, hmore]
      simpa [encode] using hplain
    · rw [← scanFrom_text_append pending hmem]
      exact h.found

/-- Where an opening brace stands, the run of them is followed. -/
theorem Standing.reads_opens {o : Nat}
    (h : Standing t c done pending (List.replicate o '\x7b' ++ r))
    (hindex : c.index = size (done ++ pending)) (ho : 0 < o) (hr : r.head? ≠ some '\x7b') :
    (encode t)[c.index]? = some 0x7b ∧
      runEnd 0x7b (encode t) c.index = size (done ++ pending ++ List.replicate o '\x7b') ∧
      splitAt? t (size (done ++ pending ++ List.replicate o '\x7b')) =
        some (done ++ pending ++ List.replicate o '\x7b', r) := by
  refine ⟨?_, ?_, ?_⟩
  · rw [hindex, ← h.whole, Utf8.getElem?_encode_append]
    exact (Utf8.head?_encode_eq_iff (by decide)).2 (head?_replicate_append ho r)
  · have hend := runEnd_append (x := done ++ pending) (a := '\x7b') (by decide) o hr
    rw [h.whole, ← hindex] at hend
    rw [Utf8.size_append, ← hindex, Utf8.size_replicate (by decide)]
    exact hend
  · rw [← h.whole, ← List.append_assoc, Utf8.splitAt?_append]

/-- A brace that is open at the end is text. -/
theorem Standing.pass_of_unclosed {o : Nat}
    (h : Standing t c done pending (List.replicate o '\x7b' ++ n))
    (hindex : c.index = size (done ++ pending)) (ho : 0 < o) (hopen : '\x7b' ∉ n)
    (hclose : '\x7d' ∉ n) : pass t c = some (.over (scan t)) := by
  have hname : n.head? ≠ some '\x7b' := fun hhead => hopen (List.mem_of_head? hhead)
  obtain ⟨hbyte, hrun, hsplit⟩ := h.reads_opens hindex ho hname
  have hnone : braceOffset? n = none := by
    have hbrace := braceOffset?_append (r := []) hopen hclose
    rwa [List.append_nil] at hbrace
  have hrest := scanFrom_text_unclosed (p := pending) ho hopen hclose
  rw [List.append_assoc] at hrest
  simp only [pass, hbyte, hrun, hsplit, Option.bind_some, hnone, h.conclude_eq hrest]
  rfl

/-- A name in front of a brace is followed. -/
theorem Standing.pass_eq_followName {o : Nat}
    (h : Standing t c done pending (List.replicate o '\x7b' ++ (n ++ r)))
    (hindex : c.index = size (done ++ pending)) (ho : 0 < o) (hopen : '\x7b' ∉ n)
    (hclose : '\x7d' ∉ n) (hne : n = [] → r.head? ≠ some '\x7b')
    (hr : r.head? = some '\x7b' ∨ r.head? = some '\x7d') :
    Template.pass t c = followName t c (size (done ++ pending ++ List.replicate o '\x7b'))
      (size (done ++ pending ++ List.replicate o '\x7b' ++ n)) := by
  have hname : (n ++ r).head? ≠ some '\x7b' := by
    cases n with
    | nil => exact hne rfl
    | cons d n => exact fun hd => hopen (Option.some.inj hd ▸ List.mem_cons_self)
  obtain ⟨hbyte, hrun, hsplit⟩ := h.reads_opens hindex ho hname
  have hoffset : braceOffset? (n ++ r) = some (size n) := by
    rw [braceOffset?_append hopen hclose]
    rcases hr with hr | hr <;> obtain ⟨r, rfl⟩ := List.head?_eq_some_iff.1 hr <;> rfl
  rw [Utf8.size_append _ n]
  simp only [Template.pass, hbyte, hrun, hsplit, hoffset, Option.bind_some]
  rfl

/-- Where another brace opens behind it, what was open is held as text. -/
theorem Standing.goesOn_of_again {o : Nat}
    (h : Standing t c done pending (List.replicate o '\x7b' ++ n ++ '\x7b' :: rest))
    (hindex : c.index = size (done ++ pending)) (ho : 0 < o) (hne : n ≠ [])
    (hopen : '\x7b' ∉ n) (hclose : '\x7d' ∉ n) : GoesOn t c := by
  have hfound := h.found
  rw [scanFrom_text_again ho hne hopen hclose] at hfound
  have hwhole : done ++ (pending ++ List.replicate o '\x7b' ++ n) ++ '\x7b' :: rest = t := by
    rw [← h.whole]
    simp only [List.append_assoc]
  have hsame : done ++ pending ++ List.replicate o '\x7b' ++ n =
      done ++ (pending ++ List.replicate o '\x7b' ++ n) := by
    simp only [List.append_assoc]
  rw [List.append_assoc] at h
  refine ⟨{ c with index := size (done ++ (pending ++ List.replicate o '\x7b' ++ n)) }, done,
    pending ++ List.replicate o '\x7b' ++ n, '\x7b' :: rest, ?_, ?_, ?_⟩
  · rw [h.pass_eq_followName hindex ho hopen hclose (absurd · hne) (.inl rfl), hsame, ← hwhole,
      followName_again]
  · exact ⟨hwhole, h.start, Nat.le_refl _, by simp [size], hfound⟩
  · have := Utf8.size_replicate (a := '\x7b') (by decide) o
    simp only [Utf8.size_append] at hindex ⊢
    omega

/-- Where closing braces stand behind it, a placeholder is out. -/
theorem Standing.goesOn_of_closed {o k : Nat}
    (h : Standing t c done pending ((Segment.placeholder o n k).written ++ rest))
    (hindex : c.index = size (done ++ pending))
    (hproper : (Segment.placeholder o n k).Proper) (hrest : rest.head? ≠ some '\x7d') :
    GoesOn t c := by
  have hfound := h.found
  rw [scanFrom_text_placeholder hproper hrest] at hfound
  have hbefore : literal? t c.start c.index = some (Scanner.flush pending) := by
    rw [h.start, hindex, ← h.whole, literal?_append]
  have hwhole := h.whole
  rw [Segment.written, List.append_assoc, List.append_assoc] at h
  obtain ⟨ho, hopen, hclose, hk⟩ := hproper
  have hhead := head?_replicate_append (a := '\x7d') hk rest
  have hclosed := followName_closed (x := done ++ pending ++ List.replicate o '\x7b') (n := n)
    (by rw [← h.whole]; simp only [List.append_assoc]) hk hrest hbefore
  have hopens := Utf8.size_replicate (a := '\x7b') (by decide) o
  have hcloses := Utf8.size_replicate (a := '\x7d') (by decide) k
  have hend : size (done ++ pending ++ List.replicate o '\x7b' ++ n) + k =
      size (done ++ pending ++ (Segment.placeholder o n k).written) := by
    simp only [Segment.written, Utf8.size_append]
    omega
  have hcount : size (done ++ pending ++ List.replicate o '\x7b') - c.index = o := by
    rw [Utf8.size_append, ← hindex, hopens, Nat.add_sub_cancel_left]
  rw [hend, hcount, ← h.pass_eq_followName hindex ho hopen hclose (by simp [hhead]) (.inr hhead)]
    at hclosed
  refine ⟨_, done ++ pending ++ (Segment.placeholder o n k).written, [], rest, hclosed, ?_, ?_⟩
  · refine ⟨?_, rfl, ?_, ?_, ?_⟩
    · rw [← hwhole]
      simp only [List.append_assoc, List.nil_append]
    · rw [List.append_nil]
    · simp [size]
    · rw [← hfound]
      simp only [List.append_assoc, List.singleton_append]
      rfl
  · simp only [Utf8.size_append] at hindex hend ⊢
    omega

/-- **Each pass gets further or ends the loop.** -/
theorem Standing.pass (h : Standing t c done pending rest) :
    Template.pass t c = some (.over (scan t)) ∨ GoesOn t c := by
  rcases Nat.lt_or_eq_of_le h.le with hindex | hindex
  · exact .inr (h.goesOn_of_lt hindex)
  cases begins rest with
  | ends => exact .inl (h.pass_of_nil hindex)
  | plain hd => exact .inr (h.goesOn_of_plain hindex hd)
  | unclosed ho hopen hclose => exact .inl (h.pass_of_unclosed hindex ho hopen hclose)
  | again ho hne hopen hclose => exact .inr (h.goesOn_of_again hindex ho hne hopen hclose)
  | closed hproper hhead => exact .inr (h.goesOn_of_closed hindex hproper hhead)

/-- **More passes than bytes end the loop.** -/
theorem Standing.passes_eq {l : Nat} (h : Standing t c done pending rest)
    (hl : size t < l + c.index) : passes t l c = some (.over (scan t)) := by
  induction l generalizing c done pending rest with
  | zero =>
    have := h.index_le
    omega
  | succ l ih =>
    rcases h.pass with hover | ⟨next, done, pending, rest, hgoing, hnext, hlt⟩
    · rw [passes, hover]
    · rw [passes, hgoing]
      exact ih hnext (by omega)

/-- **Scanning loses nothing, and cuts a template in one way.** In place, the
loop ends after no more passes than there are bytes and one, has cut at no
offset inside a character, and has the segments of `scan`. These make up the
template, with the braces that each placeholder had. No literal is empty or
beside another one, and no name has a brace in it. With one brace on either
side of each placeholder the template is cut into the same segments. They are
the only ones that are canonical and make up the template. -/
theorem scan_exact (t : List Char) :
    (∀ l, size t < l → passes t l ⟨0, 0, []⟩ = some (.over (scan t))) ∧
      writtenAll (scan t) = t ∧
      (∀ m, .literal m ∈ scan t → m ≠ []) ∧
      (scan t).IsChain (fun s s' => s.isPlaceholder = true ∨ s'.isPlaceholder = true) ∧
      (∀ o n k, .placeholder o n k ∈ scan t → 0 < o ∧ '\x7b' ∉ n ∧ '\x7d' ∉ n ∧ 0 < k) ∧
      scan (writtenAll ((scan t).map Segment.simplified)) = (scan t).map Segment.simplified ∧
      ∀ segments, scan t = segments ↔ Canonical segments ∧ writtenAll segments = t := by
  have hbeside : ∀ s s' : Segment, s.MayPrecede s' →
      s.isPlaceholder = true ∨ s'.isPlaceholder = true := by
    rintro (_ | _) (_ | _) hs
    · exact hs.elim
    · exact .inr rfl
    · exact .inl rfl
    · exact .inl rfl
  refine ⟨fun l hl => (standing_first t).passes_eq (by omega), writtenAll_scan t,
    fun m hm => proper_of_mem_scan _ hm, (canonical_scan t).chain.imp hbeside,
    fun o n k hk => proper_of_mem_scan _ hk, scan_writtenAll_simplified t,
    fun segments => scan_eq_iff⟩

/-- A brace that is open where another one opens, and characters of several
bytes. -/
example : passes "\x7bä\x7b\x7bß\x7d\x7dé\x7d".toList 13 ⟨0, 0, []⟩ = some (.over
    [.literal "\x7bä".toList, .placeholder 2 "ß".toList 2, .literal "é\x7d".toList]) := by
  decide +kernel

end Template

end ApiGateway
