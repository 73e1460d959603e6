import MediaTransport.Text.Utf8

/-!
# Reading text that was written

Octets that were written for a text are read as that text, whatever follows them
(`decodeLossy_encode_append`). If they are cut after so many octets, the characters that are
whole are read as they are, and the one that the cut goes through, if there is one, is read as
one U+FFFD (`decodeLossy_take_encode`). So the octets in front of a cut are text themselves
exactly when it goes through no character (`isSome_decode?_take_encode_iff`).

Both come down to one character. `Begun.Completes` says what it takes to finish a character
that has begun, and every character is a single octet or a beginning with what completes it
(`completes_of_encode`): the ranges of the first continuation octet are what keeps this true
for the least and the greatest code points of each length.
-/

namespace MediaTransport.Utf8

/-- The octets make up the character, once it has begun like this. -/
inductive Begun.Completes : Begun → Bytes → Char → Prop
  | last {value : Nat} {low high b : UInt8} (hlow : low ≤ b) (hhigh : b ≤ high) :
      Completes ⟨value, 0, low, high⟩ [b] (Char.ofNat (value * 64 + (b.toNat - 0x80)))
  | more {value owed : Nat} {low high b : UInt8} {tail : Bytes} {c : Char}
      (hlow : low ≤ b) (hhigh : b ≤ high)
      (htail : Completes ⟨value * 64 + (b.toNat - 0x80), owed, 0x80, 0xBF⟩ tail c) :
      Completes ⟨value, owed + 1, low, high⟩ (b :: tail) c

namespace Begun.Completes

variable {s : Begun} {tail : Bytes} {c : Char}

theorem decodeFrom_append (h : s.Completes tail c) (rest : Bytes) :
    decodeFrom (some s) (tail ++ rest) = c :: decodeFrom none rest := by
  induction h with
  | last hlow hhigh => rw [List.cons_append, List.nil_append, decodeFrom, if_pos ⟨hlow, hhigh⟩]
  | more hlow hhigh _ ih =>
      rw [List.cons_append, decodeFrom, if_pos ⟨hlow, hhigh⟩]
      exact ih

/-- Too few octets leave the character unfinished. -/
theorem decodeFrom_take (h : s.Completes tail c) {n : Nat} (hn : n < tail.length) :
    decodeFrom (some s) (tail.take n) = [replacement] := by
  induction h generalizing n with
  | last hlow hhigh =>
      obtain rfl : n = 0 := Nat.lt_one_iff.mp hn
      rfl
  | more hlow hhigh _ ih =>
      cases n with
      | zero => rfl
      | succ n =>
          rw [List.take_succ_cons, decodeFrom, if_pos ⟨hlow, hhigh⟩]
          exact ih (Nat.lt_of_succ_lt_succ hn)

/-! The same for octets that are written from a number, of which they carry six bits. -/

variable {value owed n : Nat} {low high : UInt8}

theorem toNat_ofNat_mod (n : Nat) : (UInt8.ofNat (n % 64 + 128)).toNat = n % 64 + 128 := by
  rw [UInt8.toNat_ofNat', Nat.mod_eq_of_lt (by omega)]

theorem last_ofNat (hlow : low.toNat ≤ n % 64 + 128) (hhigh : n % 64 + 128 ≤ high.toNat)
    (hc : value * 64 + n % 64 = c.toNat) :
    Completes ⟨value, 0, low, high⟩ [UInt8.ofNat (n % 64 + 128)] c := by
  have hb := toNat_ofNat_mod n
  rw [← hb, ← UInt8.le_iff_toNat_le] at hlow hhigh
  have hlast : Completes ⟨value, 0, low, high⟩ [UInt8.ofNat (n % 64 + 128)] _ :=
    last hlow hhigh
  rw [hb, Nat.add_sub_cancel, hc, Char.ofNat_toNat] at hlast
  exact hlast

theorem more_ofNat (hlow : low.toNat ≤ n % 64 + 128) (hhigh : n % 64 + 128 ≤ high.toNat)
    (htail : Completes ⟨value * 64 + n % 64, owed, 0x80, 0xBF⟩ tail c) :
    Completes ⟨value, owed + 1, low, high⟩ (UInt8.ofNat (n % 64 + 128) :: tail) c := by
  have hb := toNat_ofNat_mod n
  rw [← hb, ← UInt8.le_iff_toNat_le] at hlow hhigh
  refine more hlow hhigh ?_
  rw [hb, Nat.add_sub_cancel]
  exact htail

end Begun.Completes

/-! ## One character -/

theorem lead_ofNat {n : Nat} (h : n < 256) :
    lead (UInt8.ofNat n) =
      if n < 0x80 then .single (Char.ofNat n)
      else if n < 0xC2 then .refused
      else if n < 0xE0 then .begins ⟨n - 0xC0, 0, 0x80, 0xBF⟩
      else if n = 0xE0 then .begins ⟨0, 1, 0xA0, 0xBF⟩
      else if n = 0xED then .begins ⟨0xD, 1, 0x80, 0x9F⟩
      else if n < 0xF0 then .begins ⟨n - 0xE0, 1, 0x80, 0xBF⟩
      else if n = 0xF0 then .begins ⟨0, 2, 0x90, 0xBF⟩
      else if n < 0xF4 then .begins ⟨n - 0xF0, 2, 0x80, 0xBF⟩
      else if n = 0xF4 then .begins ⟨4, 2, 0x80, 0x8F⟩
      else .refused := by
  have hn : (UInt8.ofNat n).toNat = n := by
    rw [UInt8.toNat_ofNat', Nat.mod_eq_of_lt h]
  rw [lead, hn]

theorem utf8EncodeChar_eq (c : Char) :
    String.utf8EncodeChar c =
      if c.toNat ≤ 0x7F then [UInt8.ofNat c.toNat]
      else if c.toNat ≤ 0x7FF then
        [UInt8.ofNat (c.toNat / 64 % 32 + 192), UInt8.ofNat (c.toNat % 64 + 128)]
      else if c.toNat ≤ 0xFFFF then
        [UInt8.ofNat (c.toNat / 4096 % 16 + 224), UInt8.ofNat (c.toNat / 64 % 64 + 128),
          UInt8.ofNat (c.toNat % 64 + 128)]
      else
        [UInt8.ofNat (c.toNat / 262144 % 8 + 240), UInt8.ofNat (c.toNat / 4096 % 64 + 128),
          UInt8.ofNat (c.toNat / 64 % 64 + 128), UInt8.ofNat (c.toNat % 64 + 128)] :=
  rfl

open Begun.Completes

theorem exists_lead_two {c : Char} (hlow : 0x7F < c.toNat) (hhigh : c.toNat ≤ 0x7FF) :
    ∃ s, lead (UInt8.ofNat (c.toNat / 64 % 32 + 192)) = .begins s ∧
      s.Completes [UInt8.ofNat (c.toNat % 64 + 128)] c := by
  have hlead := lead_ofNat (n := c.toNat / 64 % 32 + 192) (by omega)
  rw [if_neg (by omega), if_neg (by omega), if_pos (by omega)] at hlead
  refine ⟨_, hlead, last_ofNat ?_ ?_ (by omega)⟩
  · exact Nat.le_add_left _ _
  · change c.toNat % 64 + 128 ≤ 191
    omega

/-- A beginning of three octets, of which the second has the given range. -/
theorem completes_three {c : Char} {value : Nat} {low high : UInt8}
    (hvalue : c.toNat / 4096 = value) (hlow : low.toNat ≤ c.toNat / 64 % 64 + 128)
    (hhigh : c.toNat / 64 % 64 + 128 ≤ high.toNat) :
    Begun.Completes ⟨value, 1, low, high⟩
      [UInt8.ofNat (c.toNat / 64 % 64 + 128), UInt8.ofNat (c.toNat % 64 + 128)] c := by
  refine more_ofNat hlow hhigh (last_ofNat ?_ ?_ (by omega))
  · exact Nat.le_add_left _ _
  · change c.toNat % 64 + 128 ≤ 191
    omega

theorem exists_lead_three {c : Char} (hlow : 0x7FF < c.toNat) (hhigh : c.toNat ≤ 0xFFFF) :
    ∃ s, lead (UInt8.ofNat (c.toNat / 4096 % 16 + 224)) = .begins s ∧
      s.Completes [UInt8.ofNat (c.toNat / 64 % 64 + 128), UInt8.ofNat (c.toNat % 64 + 128)] c := by
  have hvalid : c.toNat < 0xD800 ∨ 0xDFFF < c.toNat ∧ c.toNat < 0x110000 := c.valid
  have hlead := lead_ofNat (n := c.toNat / 4096 % 16 + 224) (by omega)
  rw [if_neg (by omega), if_neg (by omega), if_neg (by omega)] at hlead
  -- Overlong forms stay out by the least second octet, surrogates by the greatest.
  by_cases hzero : c.toNat / 4096 = 0
  · rw [if_pos (by omega)] at hlead
    refine ⟨_, hlead, completes_three hzero ?_ ?_⟩
    · change 160 ≤ _
      omega
    · change _ ≤ 191
      omega
  rw [if_neg (by omega)] at hlead
  by_cases hlast : c.toNat / 4096 = 0xD
  · rw [if_pos (by omega)] at hlead
    refine ⟨_, hlead, completes_three hlast ?_ ?_⟩
    · exact Nat.le_add_left _ _
    · change _ ≤ 159
      omega
  rw [if_neg (by omega), if_pos (by omega)] at hlead
  refine ⟨_, hlead, completes_three (by omega) ?_ ?_⟩
  · exact Nat.le_add_left _ _
  · change _ ≤ 191
    omega

/-- A beginning of four octets, of which the second has the given range. -/
theorem completes_four {c : Char} {value : Nat} {low high : UInt8}
    (hvalue : c.toNat / 262144 = value) (hlow : low.toNat ≤ c.toNat / 4096 % 64 + 128)
    (hhigh : c.toNat / 4096 % 64 + 128 ≤ high.toNat) :
    Begun.Completes ⟨value, 2, low, high⟩
      [UInt8.ofNat (c.toNat / 4096 % 64 + 128), UInt8.ofNat (c.toNat / 64 % 64 + 128),
        UInt8.ofNat (c.toNat % 64 + 128)] c := by
  refine more_ofNat hlow hhigh (more_ofNat ?_ ?_ (last_ofNat ?_ ?_ (by omega)))
  · exact Nat.le_add_left _ _
  · change c.toNat / 64 % 64 + 128 ≤ 191
    omega
  · exact Nat.le_add_left _ _
  · change c.toNat % 64 + 128 ≤ 191
    omega

theorem exists_lead_four {c : Char} (hlow : 0xFFFF < c.toNat) :
    ∃ s, lead (UInt8.ofNat (c.toNat / 262144 % 8 + 240)) = .begins s ∧
      s.Completes [UInt8.ofNat (c.toNat / 4096 % 64 + 128), UInt8.ofNat (c.toNat / 64 % 64 + 128),
        UInt8.ofNat (c.toNat % 64 + 128)] c := by
  have hvalid : c.toNat < 0xD800 ∨ 0xDFFF < c.toNat ∧ c.toNat < 0x110000 := c.valid
  have hlead := lead_ofNat (n := c.toNat / 262144 % 8 + 240) (by omega)
  rw [if_neg (by omega), if_neg (by omega), if_neg (by omega), if_neg (by omega),
    if_neg (by omega), if_neg (by omega)] at hlead
  -- Overlong forms stay out by the least second octet, what is above U+10FFFF by the greatest.
  by_cases hzero : c.toNat / 262144 = 0
  · rw [if_pos (by omega)] at hlead
    refine ⟨_, hlead, completes_four hzero ?_ ?_⟩
    · change 144 ≤ _
      omega
    · change _ ≤ 191
      omega
  rw [if_neg (by omega)] at hlead
  by_cases hlast : c.toNat / 262144 = 4
  · rw [if_neg (by omega), if_pos (by omega)] at hlead
    refine ⟨_, hlead, completes_four hlast ?_ ?_⟩
    · exact Nat.le_add_left _ _
    · change _ ≤ 143
      omega
  rw [if_pos (by omega)] at hlead
  refine ⟨_, hlead, completes_four (by omega) ?_ ?_⟩
  · exact Nat.le_add_left _ _
  · change _ ≤ 191
    omega

/-- A character is written as one octet, or as a beginning and what completes it. -/
theorem completes_of_encode (c : Char) :
    (∃ b, String.utf8EncodeChar c = [b] ∧ lead b = .single c) ∨
      ∃ b tail s, String.utf8EncodeChar c = b :: tail ∧ lead b = .begins s ∧
        s.Completes tail c := by
  rw [utf8EncodeChar_eq]
  by_cases hone : c.toNat ≤ 0x7F
  · left
    refine ⟨_, if_pos hone, ?_⟩
    rw [lead_ofNat (by omega), if_pos (by omega), Char.ofNat_toNat]
  right
  rw [if_neg hone]
  by_cases htwo : c.toNat ≤ 0x7FF
  · rw [if_pos htwo]
    obtain ⟨s, hlead, hs⟩ := exists_lead_two (Nat.lt_of_not_le hone) htwo
    exact ⟨_, _, s, rfl, hlead, hs⟩
  rw [if_neg htwo]
  by_cases hthree : c.toNat ≤ 0xFFFF
  · rw [if_pos hthree]
    obtain ⟨s, hlead, hs⟩ := exists_lead_three (Nat.lt_of_not_le htwo) hthree
    exact ⟨_, _, s, rfl, hlead, hs⟩
  · rw [if_neg hthree]
    obtain ⟨s, hlead, hs⟩ := exists_lead_four (Nat.lt_of_not_le hthree)
    exact ⟨_, _, s, rfl, hlead, hs⟩

/-! ## Texts -/

theorem encode_cons (c : Char) (text : List Char) :
    encode (c :: text) = String.utf8EncodeChar c ++ encode text :=
  rfl

theorem encode_append (a b : List Char) : encode (a ++ b) = encode a ++ encode b :=
  List.flatMap_append

theorem decodeLossy_encodeChar_append (c : Char) (rest : Bytes) :
    decodeLossy (String.utf8EncodeChar c ++ rest) = c :: decodeLossy rest := by
  rcases completes_of_encode c with ⟨b, hencode, hlead⟩ | ⟨b, tail, s, hencode, hlead, hs⟩
  · rw [hencode, List.cons_append, List.nil_append, decodeLossy, decodeFrom, hlead]
    rfl
  · rw [hencode, List.cons_append, decodeLossy, decodeFrom, hlead]
    exact hs.decodeFrom_append rest

/-- A character that is cut in two is no text. -/
theorem decodeLossy_take_encodeChar {c : Char} {n : Nat} (hpos : 0 < n)
    (hn : n < (String.utf8EncodeChar c).length) :
    decodeLossy ((String.utf8EncodeChar c).take n) = [replacement] := by
  obtain ⟨n, rfl⟩ := Nat.exists_eq_succ_of_ne_zero (Nat.ne_of_gt hpos)
  rcases completes_of_encode c with ⟨b, hencode, hlead⟩ | ⟨b, tail, s, hencode, hlead, hs⟩
  · rw [hencode] at hn
    exact absurd (Nat.lt_of_succ_lt_succ hn) (Nat.not_lt_zero n)
  · rw [hencode] at hn ⊢
    rw [List.take_succ_cons, decodeLossy, decodeFrom, hlead]
    exact hs.decodeFrom_take (Nat.lt_of_succ_lt_succ hn)

theorem decodeLossy_encode_append (text : List Char) (rest : Bytes) :
    decodeLossy (encode text ++ rest) = text ++ decodeLossy rest := by
  induction text with
  | nil => rfl
  | cons c text ih =>
      rw [encode_cons, List.append_assoc, decodeLossy_encodeChar_append, ih, List.cons_append]

theorem decodeLossy_encode (text : List Char) : decodeLossy (encode text) = text := by
  have hread := decodeLossy_encode_append text []
  rw [List.append_nil] at hread
  exact hread.trans (List.append_nil text)

/-- Where a cut behind `n` octets of a text falls: behind a character, or through one. -/
theorem decodeLossy_take_encode {text : List Char} {n : Nat} (hn : n < (encode text).length) :
    ∃ front c rest, text = front ++ c :: rest ∧ (encode front).length ≤ n ∧
      n < (encode front).length + (String.utf8EncodeChar c).length ∧
      decodeLossy ((encode text).take n) =
        front ++ if (encode front).length = n then [] else [replacement] := by
  induction text generalizing n with
  | nil => exact absurd hn (Nat.not_lt_zero n)
  | cons c text ih =>
      rw [encode_cons, List.length_append] at hn
      rw [encode_cons]
      by_cases hfirst : n < (String.utf8EncodeChar c).length
      · refine ⟨[], c, text, rfl, Nat.zero_le n, ?_, ?_⟩
        · rw [show (encode []).length = 0 from rfl, Nat.zero_add]
          exact hfirst
        · rw [List.take_append_of_le_length (Nat.le_of_lt hfirst)]
          cases n with
          | zero => rfl
          | succ n => exact decodeLossy_take_encodeChar (Nat.succ_pos n) hfirst
      · obtain ⟨k, rfl⟩ := Nat.exists_eq_add_of_le (Nat.not_lt.mp hfirst)
        obtain ⟨front, d, rest, rfl, hle, hlt, hread⟩ :=
          ih (Nat.lt_of_add_lt_add_left hn)
        refine ⟨c :: front, d, rest, rfl, ?_, ?_, ?_⟩
        · rw [encode_cons, List.length_append]
          exact Nat.add_le_add_left hle _
        · rw [encode_cons, List.length_append, Nat.add_assoc]
          exact Nat.add_lt_add_left hlt _
        · rw [List.take_length_add_append, decodeLossy_encodeChar_append, hread, encode_cons,
            List.length_append, List.cons_append]
          simp only [Nat.add_left_cancel_iff]

theorem three_le_length_encode {text : List Char} (h : text.getLast? = some replacement) :
    3 ≤ (encode text).length := by
  obtain ⟨front, rfl⟩ := List.getLast?_eq_some_iff.mp h
  rw [encode_append, List.length_append]
  exact Nat.le_add_left 3 _

/-- What a text that is cut behind `n` octets reads as is the whole text only if nothing is cut
off, or if all that is lost is the end of a last U+FFFD. -/
theorem decodeLossy_take_encode_eq_iff {text : List Char} {n : Nat} :
    decodeLossy ((encode text).take n) = text ↔
      (encode text).length ≤ n ∨
        (encode text).length ≤ n + 2 ∧ text.getLast? = some replacement := by
  by_cases hn : (encode text).length ≤ n
  · rw [List.take_of_length_le hn]
    exact iff_of_true (decodeLossy_encode text) (Or.inl hn)
  · rw [or_iff_right hn]
    obtain ⟨front, c, rest, rfl, hle, hlt, hread⟩ := decodeLossy_take_encode (Nat.lt_of_not_le hn)
    rw [hread, List.append_cancel_left_eq, encode_append, encode_cons, List.length_append,
      List.length_append]
    constructor
    · intro h
      split at h
      · cases h
      · rename_i hcut
        cases h
        refine ⟨?_, List.getLast?_concat⟩
        change (encode front).length + (3 + 0) ≤ n + 2
        omega
    · intro h
      rcases h with ⟨hlength, hlast⟩
      rw [List.getLast?_append, List.getLast?_cons, Option.some_or, Option.some.injEq] at hlast
      cases hrest : rest.getLast? with
      | some d =>
          rw [hrest, Option.getD_some] at hlast
          have hthree := three_le_length_encode (hlast ▸ hrest)
          omega
      | none =>
          obtain rfl := List.getLast?_eq_none_iff.mp hrest
          obtain rfl : c = replacement := hlast
          have hcut : (encode front).length ≠ n := by
            change (encode front).length + (3 + 0) ≤ n + 2 at hlength
            omega
          rw [if_neg hcut]

/-! ## Cuts -/

theorem isSome_decode?_iff {b : Bytes} : (decode? b).isSome ↔ ∃ text, encode text = b := by
  have hvalid : (decode? b).isSome ↔ (ByteArray.mk b.toArray).IsValidUTF8 := by
    rw [decode?, String.fromUTF8?]
    split <;> rename_i h <;> simp [h]
  have hencode (text : List Char) : ByteArray.mk b.toArray = text.utf8Encode ↔ encode text = b := by
    rw [ByteArray.ext_iff, ← Array.toList_inj, List.utf8Encode, List.data_toByteArray, eq_comm]
    rfl
  rw [hvalid]
  constructor
  · rintro ⟨text, htext⟩
    exact ⟨text, (hencode text).mp htext⟩
  · rintro ⟨text, htext⟩
    exact ⟨text, (hencode text).mpr htext⟩

/-- A cut behind `n` octets of a text goes through the character `c`, so that the octets of `c`
are on both sides of it. -/
def CutsThrough (n : Nat) (text : List Char) (c : Char) : Prop :=
  ∃ front rest, text = front ++ c :: rest ∧ (encode front).length < n ∧
    n < (encode front).length + c.utf8Size

section

variable {n : Nat} {text front rest : List Char} {c : Char}

theorem decodeLossy_take_of_cut (hlow : (encode front).length < n)
    (hhigh : n < (encode front).length + c.utf8Size) :
    decodeLossy ((encode (front ++ c :: rest)).take n) = front ++ [replacement] := by
  obtain ⟨k, rfl⟩ := Nat.exists_eq_add_of_lt hlow
  have hk : k + 1 < (String.utf8EncodeChar c).length := by
    rw [String.length_utf8EncodeChar]
    omega
  rw [Nat.add_assoc, encode_append, encode_cons, List.take_length_add_append,
    List.take_append_of_le_length (Nat.le_of_lt hk), decodeLossy_encode_append,
    decodeLossy_take_encodeChar (Nat.succ_pos k) hk]

theorem exists_take_encode_eq (hwhole : ∀ c, ¬CutsThrough n text c) :
    ∃ front rest, text = front ++ rest ∧ (encode text).take n = encode front := by
  by_cases hn : n < (encode text).length
  · obtain ⟨front, c, rest, rfl, hle, hlt, -⟩ := decodeLossy_take_encode hn
    rw [String.length_utf8EncodeChar] at hlt
    rcases Nat.eq_or_lt_of_le hle with rfl | hlow
    · refine ⟨front, c :: rest, rfl, ?_⟩
      rw [encode_append, List.take_left]
    · exact absurd ⟨front, rest, rfl, hlow, hlt⟩ (hwhole c)
  · exact ⟨text, [], (List.append_nil text).symm, List.take_of_length_le (Nat.le_of_not_lt hn)⟩

theorem prefix_of_encode_eq_take (h : encode front = (encode text).take n) : front <+: text := by
  refine ⟨decodeLossy ((encode text).drop n), ?_⟩
  rw [← decodeLossy_encode_append, h, List.take_append_drop, decodeLossy_encode]

/-- What is in front of a cut is text unless the cut goes through a character. -/
theorem isSome_decode?_take_encode_iff :
    (decode? ((encode text).take n)).isSome ↔ ∀ c, ¬CutsThrough n text c := by
  rw [isSome_decode?_iff]
  constructor
  · rintro ⟨whole, hwhole⟩ c ⟨front, rest, rfl, hlow, hhigh⟩
    -- The octets would be those of the front and a U+FFFD, so this is the character that is
    -- cut; but then nothing of it is missing.
    obtain rfl : front ++ [replacement] = whole := by
      rw [← decodeLossy_take_of_cut hlow hhigh, ← hwhole, decodeLossy_encode]
    obtain ⟨tail, htail⟩ := prefix_of_encode_eq_take hwhole
    rw [List.append_assoc, List.append_cancel_left_eq, List.singleton_append,
      List.cons.injEq] at htail
    have hlength := congrArg List.length hwhole
    rw [encode_append, List.length_append, List.length_take] at hlength
    change (encode front).length + 3 = _ at hlength
    rw [← htail.1] at hhigh
    change n < (encode front).length + 3 at hhigh
    omega
  · intro hwhole
    obtain ⟨front, -, -, hfront⟩ := exists_take_encode_eq hwhole
    exact ⟨front, hfront.symm⟩

/-- What is in front of a cut reads as a front of the text, unless the cut goes through a
character and this is not U+FFFD. -/
theorem decodeLossy_take_encode_prefix_iff :
    decodeLossy ((encode text).take n) <+: text ↔ ∀ c, CutsThrough n text c → c = replacement := by
  constructor
  · rintro hprefix c ⟨front, rest, rfl, hlow, hhigh⟩
    rw [decodeLossy_take_of_cut hlow hhigh, List.prefix_append_right_inj, List.cons_prefix_cons]
      at hprefix
    exact hprefix.1.symm
  · intro hcut
    by_cases hwhole : ∀ c, ¬CutsThrough n text c
    · obtain ⟨front, rest, rfl, hfront⟩ := exists_take_encode_eq hwhole
      rw [hfront, decodeLossy_encode]
      exact List.prefix_append front rest
    · obtain ⟨c, hc⟩ := Classical.not_forall_not.mp hwhole
      obtain rfl := hcut c hc
      obtain ⟨front, rest, rfl, hlow, hhigh⟩ := hc
      rw [decodeLossy_take_of_cut hlow hhigh, List.prefix_append_right_inj, List.cons_prefix_cons]
      exact ⟨rfl, List.nil_prefix⟩

end

end MediaTransport.Utf8
