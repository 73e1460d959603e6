import MediaTransport.Bytes

/-!
# Octet strings by position

The decoders take octet strings apart from the front. A grammar speaks of positions
instead: the octet at `i`, the last octet, what is left after the first `n`. `octet`
reads a position as a number and gives zero where there is no octet, so that a
condition on a position needs no bound of its own.

The rest of the module says when the splitting, counting and padding functions
succeed and what they return: `split?`, `words` and `unpad?` lose nothing.
-/

namespace MediaTransport.Bytes

/-- The number in the octet at `i`, zero behind the end. -/
def octet (b : Bytes) (i : Nat) : Nat :=
  (b.getD i 0).toNat

/-- The number in the last octet. -/
def last (b : Bytes) : Nat :=
  octet b (b.length - 1)

/-- Whether the first octet of a packet announces padding. -/
def hasPadding (b : Bytes) : Bool :=
  octet b 0 / 32 % 2 = 1

@[simp] theorem octet_cons_zero (x : UInt8) (b : Bytes) : octet (x :: b) 0 = x.toNat := rfl

@[simp] theorem octet_cons_succ (x : UInt8) (b : Bytes) (i : Nat) :
    octet (x :: b) (i + 1) = octet b i := rfl

theorem octet_drop (b : Bytes) (n i : Nat) : octet (b.drop n) i = octet b (n + i) := by
  simp only [octet, List.getD_eq_getElem?_getD, List.getElem?_drop]

theorem octet_append_left {a b : Bytes} {i : Nat} (h : i < a.length) :
    octet (a ++ b) i = octet a i := by
  simp only [octet, List.getD_eq_getElem?_getD, List.getElem?_append_left h]

theorem octet_append_right {a b : Bytes} {i : Nat} (h : a.length ≤ i) :
    octet (a ++ b) i = octet b (i - a.length) := by
  simp only [octet, List.getD_eq_getElem?_getD, List.getElem?_append_right h]

theorem lt_length_of_octet_pos {b : Bytes} {i : Nat} (h : 0 < octet b i) : i < b.length := by
  apply Nat.lt_of_not_le
  intro hle
  rw [octet, List.getD_eq_getElem?_getD, List.getElem?_eq_none hle] at h
  exact absurd h (by decide)

theorem length_pos_of_last_pos {b : Bytes} (h : 0 < last b) : 0 < b.length := by
  have hlt := lt_length_of_octet_pos h
  omega

/-- The last octet stays the last when octets are dropped in front of it. -/
theorem last_drop {b : Bytes} {n : Nat} (h : n < b.length) : last (b.drop n) = last b := by
  rw [last, octet_drop, List.length_drop, last]
  congr 1
  omega

theorem exists_cons_four {b : Bytes} (h : 4 ≤ b.length) :
    ∃ x3 x2 x1 x0 rest, b = x3 :: x2 :: x1 :: x0 :: rest := by
  match b, h with
  | x3 :: x2 :: x1 :: x0 :: rest, _ => exact ⟨x3, x2, x1, x0, rest, rfl⟩

theorem exists_cons_twelve {b : Bytes} (h : 12 ≤ b.length) :
    ∃ w3 w2 w1 w0 x3 x2 x1 x0 y3 y2 y1 y0 rest,
      b = w3 :: w2 :: w1 :: w0 :: x3 :: x2 :: x1 :: x0 :: y3 :: y2 :: y1 :: y0 :: rest ∧
        b.length = 12 + rest.length := by
  match b, h with
  | w3 :: w2 :: w1 :: w0 :: x3 :: x2 :: x1 :: x0 :: y3 :: y2 :: y1 :: y0 :: rest, _ =>
      refine ⟨w3, w2, w1, w0, x3, x2, x1, x0, y3, y2, y1, y0, rest, rfl, ?_⟩
      simp only [List.length_cons]
      omega

theorem word16_toNat (a b : UInt8) : (word16 a b).toNat = a.toNat * 256 + b.toNat := by
  have ha : a.toNat < 256 := a.toNat_lt
  have hb : b.toNat < 256 := b.toNat_lt
  rw [word16, UInt16.toNat_ofNat', Nat.mod_eq_of_lt (by omega)]

/-- A set flag of the value 32 is cleared by taking its value off. -/
theorem and_clear_flag : ∀ n < 256, n / 32 % 2 = 0 → (n + 32) &&& 0xDF = n := by
  decide +kernel

theorem split?_append (front rest : Bytes) :
    split? front.length (front ++ rest) = some (front, rest) :=
  split?_eq_some_iff.mpr ⟨rfl, rfl⟩

theorem split?_of_le {n : Nat} {b : Bytes} (h : n ≤ b.length) :
    split? n b = some (b.take n, b.drop n) := by
  rw [split?_eq_some_iff, List.take_append_drop, List.length_take]
  exact ⟨rfl, Nat.min_eq_left h⟩

@[simp] theorem length_words (b : Bytes) : (words b).length = b.length / 4 := by
  fun_induction words b with
  | case1 a b c d rest ih =>
      rw [List.length_cons, ih]
      simp only [List.length_cons]
      omega
  | case2 b h =>
      have hb : b.length < 4 := by
        apply Nat.lt_of_not_le
        intro hle
        obtain ⟨a, b, c, d, rest, rfl⟩ := exists_cons_four hle
        exact h a b c d rest rfl
      rw [Nat.div_eq_of_lt hb]
      rfl

/-- Whole words are written back as they were read. -/
theorem octetsList_words {b : Bytes} (h : b.length % 4 = 0) : octetsList (words b) = b := by
  fun_induction words b with
  | case1 a b c d rest ih =>
      have hrest : rest.length % 4 = 0 := by
        simp only [List.length_cons] at h
        omega
      change octets32 (word32 a b c d) ++ octetsList (words rest) = _
      rw [octets32_word, ih hrest]
      rfl
  | case2 b hb =>
      match b, hb with
      | [], _ => rfl
      | a :: b :: c :: d :: rest, hb => exact absurd rfl (hb a b c d rest)

/-- Padding can be taken off exactly when the last octet counts between one octet
and all of them. -/
theorem unpad?_eq_some_iff {b rest : Bytes} :
    unpad? b = some rest ↔
      1 ≤ last b ∧ last b ≤ b.length ∧ rest = b.take (b.length - last b) := by
  rw [unpad?, last, octet, List.getD_eq_getElem?_getD, ← List.getLast?_eq_getElem?]
  cases b.getLast? with
  | none => simp
  | some k =>
      dsimp only [Option.getD_some]
      by_cases hbad : k.toNat = 0 ∨ b.length < k.toNat
      · rw [if_pos hbad]
        constructor
        · intro h
          cases h
        · intro h
          rcases h with ⟨hpos, hle, -⟩
          omega
      · rw [if_neg hbad, Option.some.injEq]
        constructor
        · rintro rfl
          exact ⟨by omega, by omega, rfl⟩
        · intro h
          rcases h with ⟨-, -, rfl⟩
          rfl

end MediaTransport.Bytes
