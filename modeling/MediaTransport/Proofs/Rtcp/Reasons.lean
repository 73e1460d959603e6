import MediaTransport.Proofs.Rtcp.Forwarding

/-!
# Reasons of goodbyes

The reason of a goodbye is sent as its first 255 octets, wherever they end. If they end between
two characters, or the reason is not longer, they are text, and a front of the reason is read. If
they end inside a character (`Utf8.CutsThrough`), what is sent is no text, and in the place of the
character there is one U+FFFD at the end of what is read. So a reason is shortened only, and not
changed, exactly when no character is cut, other than U+FFFD itself.
-/

namespace MediaTransport.Rtcp

namespace Goodbye

/-- The octets of the reason in a written goodbye with so many sources. -/
def reasonPart (count : Nat) (d : Bytes) : Bytes :=
  (d.drop (5 + 4 * count)).take (Bytes.octet d (4 + 4 * count))

/-- Where the reason stands in a written goodbye. -/
theorem exists_octets_goodbye (sources : List UInt32) (reason : String) :
    ∃ front tail : Bytes, front.length = 4 + 4 * sources.length ∧
      (Packet.goodbye ⟨sources, some reason⟩).toFrame.octets =
        front ++ UInt8.ofNat (reasonOctets reason).length :: (reasonOctets reason ++ tail) := by
  have hwhole := length_encodeBody_mod ⟨sources, some reason⟩
  refine ⟨UInt8.ofNat (128 + sources.length) :: Packet.goodbyeType ::
    (Bytes.octets16 (UInt16.ofNat ((encodeBody ⟨sources, some reason⟩).length / 4)) ++
      Bytes.octetsList sources), Bytes.wordPadding ((reasonOctets reason).length + 1), ?_, ?_⟩
  · simp only [List.length_cons, List.length_append, Bytes.length_octets16,
      Bytes.length_octetsList]
    omega
  · change _ :: _ :: (Bytes.octets16 (UInt16.ofNat ((Bytes.padToWord (encodeBody _)).length / 4)) ++
      Bytes.padToWord (encodeBody _)) = _
    rw [Bytes.padToWord_of_whole hwhole]
    simp only [List.cons_append, List.append_assoc]
    rfl

theorem reasonPart_octets (sources : List UInt32) (reason : String) :
    reasonPart sources.length (Packet.goodbye ⟨sources, some reason⟩).toFrame.octets =
      reasonOctets reason := by
  have hle := length_reasonOctets_le reason
  obtain ⟨front, tail, hfront, hoctets⟩ := exists_octets_goodbye sources reason
  have hbehind : 5 + 4 * sources.length = front.length + 1 := by omega
  rw [reasonPart, hbehind, ← hfront, hoctets, Bytes.octet_append_right le_rfl, Nat.sub_self,
    Bytes.octet_cons_zero, UInt8.toNat_ofNat', Nat.mod_eq_of_lt (by omega),
    List.drop_length_add_append]
  exact List.take_left

/-- A goodbye can be written with any reason, and is read back with what is sent of it. -/
theorem exists_encode_goodbye {sources : List UInt32} (hsources : sources.length ≤ 31)
    (reason : String) :
    ∃ d, Packet.encode (.goodbye ⟨sources, some reason⟩) = .ok d ∧
      Packet.decodeAll d = .ok [.goodbye ⟨sources, some (clipped reason)⟩] ∧
      reasonPart sources.length d = reasonOctets reason := by
  have hfits : (Packet.goodbye ⟨sources, some reason⟩).toFrame.Fits :=
    Packet.fits_of_count_le hsources nofun
  refine ⟨_, Frame.encode_eq_ok_iff.mpr ⟨hfits, rfl⟩, ?_, reasonPart_octets sources reason⟩
  exact Packet.decodeAll_of_reads (Packet.reads_octets hfits nofun)

theorem isSome_decode?_reasonOctets_iff {reason : String} :
    (Utf8.decode? (reasonOctets reason)).isSome ↔
      ∀ c, ¬Utf8.CutsThrough reasonLimit reason.toList c :=
  Utf8.isSome_decode?_take_encode_iff

theorem clipped_prefix_iff {reason : String} :
    (clipped reason).toList <+: reason.toList ↔
      ∀ c, Utf8.CutsThrough reasonLimit reason.toList c → c = Utf8.replacement := by
  rw [clipped_eq, String.toList_ofList]
  exact Utf8.decodeLossy_take_encode_prefix_iff

theorem toList_clipped_of_cut {reason : String} {front rest : List Char} {c : Char}
    (hreason : reason.toList = front ++ c :: rest)
    (hlow : (Utf8.encode front).length < reasonLimit)
    (hhigh : reasonLimit < (Utf8.encode front).length + c.utf8Size) :
    (clipped reason).toList = front ++ [Utf8.replacement] := by
  rw [clipped_eq, String.toList_ofList, hreason]
  exact Utf8.decodeLossy_take_of_cut hlow hhigh

end Goodbye

namespace Packet

/-- What is sent of a reason is text exactly when the cut behind 255 octets goes through no
character, and what is read is a front of the reason exactly when it goes through none but U+FFFD.
A character that is cut reads as U+FFFD, behind all that is in front of it. A reason of at most
255 octets comes back as it was. -/
theorem goodbye_reason_intact_iff {sources : List UInt32} (hsources : sources.length ≤ 31)
    (reason : String) :
    ∃ d back, encode (.goodbye ⟨sources, some reason⟩) = .ok d ∧
      decodeAll d = .ok [.goodbye ⟨sources, some back⟩] ∧
      ((Utf8.decode? (Goodbye.reasonPart sources.length d)).isSome ↔
        ∀ c, ¬Utf8.CutsThrough 255 reason.toList c) ∧
      (back.toList <+: reason.toList ↔
        ∀ c, Utf8.CutsThrough 255 reason.toList c → c = Utf8.replacement) ∧
      (∀ front c rest, reason.toList = front ++ c :: rest → (Utf8.encode front).length < 255 →
        255 < (Utf8.encode front).length + c.utf8Size →
          back.toList = front ++ [Utf8.replacement]) ∧
      (reason.utf8ByteSize ≤ 255 → back = reason) := by
  obtain ⟨d, hencode, hdecode, hpart⟩ := Goodbye.exists_encode_goodbye hsources reason
  refine ⟨d, _, hencode, hdecode, ?_, Goodbye.clipped_prefix_iff,
    fun _ _ _ => Goodbye.toList_clipped_of_cut, ?_⟩
  · rw [hpart]
    exact Goodbye.isSome_decode?_reasonOctets_iff
  · intro hshort
    exact Goodbye.clipped_eq_iff.mpr (Or.inl hshort)

theorem goodbye_reason_intact_iff_longReason :
    ∃ d, encode (.goodbye ⟨[7], some (longReason 'é')⟩) = .ok d ∧
      decodeAll d = .ok [.goodbye ⟨[7], some (longReason Utf8.replacement)⟩] := by
  obtain ⟨d, back, hencode, hdecode, -, -, hback, -⟩ :=
    goodbye_reason_intact_iff (show [7].length ≤ 31 by decide) (longReason 'é')
  have hcut := hback _ _ [] String.toList_ofList length_accents_lt lt_length_accents
  obtain rfl : back = longReason Utf8.replacement := by
    rw [← String.toList_inj, hcut, longReason, String.toList_ofList]
  exact ⟨d, hencode, hdecode⟩

/-- A character of two octets across the cut: no text is sent, and no front of the reason is
read. -/
theorem garbled_longReason :
    ∃ d back, encode (.goodbye ⟨[7], some (longReason 'é')⟩) = .ok d ∧
      decodeAll d = .ok [.goodbye ⟨[7], some back⟩] ∧
      Utf8.decode? (Goodbye.reasonPart 1 d) = none ∧
      ¬back.toList <+: (longReason 'é').toList := by
  obtain ⟨d, hencode, hdecode, hpart⟩ :=
    Goodbye.exists_encode_goodbye (show [7].length ≤ 31 by decide) (longReason 'é')
  have hcut : Utf8.CutsThrough 255 (longReason 'é').toList 'é' :=
    ⟨_, [], String.toList_ofList, length_accents_lt, lt_length_accents⟩
  refine ⟨d, _, hencode, hdecode, ?_, fun hprefix => ?_⟩
  · rw [← Option.not_isSome_iff_eq_none]
    change ¬(Utf8.decode? (Goodbye.reasonPart [(7 : UInt32)].length d)).isSome
    rw [hpart, Goodbye.isSome_decode?_reasonOctets_iff]
    exact fun hwhole => hwhole 'é' hcut
  · exact absurd (Goodbye.clipped_prefix_iff.mp hprefix 'é' hcut) (by decide)

end Packet

end MediaTransport.Rtcp
