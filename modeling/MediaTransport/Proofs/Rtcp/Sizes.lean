import MediaTransport.Proofs.Rtcp.RoundTrip

/-!
# Sizes of control packets

A packet announces how long its body is before it is written: a report by its blocks, a goodbye
by its sources and by what is sent of its reason. The body is put together by other rules, which
bring a reason to a whole number of words by itself, and every body once more. The two agree
for every packet (`Packet.length_padToWord_body`), so the length field is what was announced.

The main statement says when a packet can be written, and what its head says then.
-/

namespace MediaTransport.Rtcp

/-! ## Bodies -/

namespace Goodbye

theorem length_reasonOctets (reason : String) :
    (reasonOctets reason).length = reasonLength reason := by
  rw [reasonOctets, List.length_take, Utf8.length_encode_toList, reasonLength, Nat.min_comm]

theorem length_encodeBody (g : Goodbye) : g.encodeBody.length = g.size := by
  rw [encodeBody, size, List.length_append, Bytes.length_octetsList]
  cases g.reason with
  | none => rfl
  | some reason =>
      rw [Option.map_some, Option.getD_some, Option.map_some, Option.getD_some, encodeReason,
        Bytes.length_padToWord, List.length_cons, length_reasonOctets,
        Nat.add_comm (reasonLength reason)]

theorem size_le (g : Goodbye) : g.size ≤ 4 * g.sources.length + 256 := by
  rw [size]
  cases g.reason with
  | none => exact Nat.le_add_right _ _
  | some reason =>
      have hle : reasonLength reason ≤ 255 := Nat.min_le_right _ _
      rw [Option.map_some, Option.getD_some]
      omega

end Goodbye

namespace Packet

/-- The octets that are announced for a body: what the packet says of it, and for a packet that
is not looked into what its body has up to the next word. -/
def announced : Packet → Nat
  | .senderReport r => r.size
  | .receiverReport r => r.size
  | .goodbye g => g.size
  | .other f => (f.body.length + 3) / 4 * 4

/-- A body is as long as it was announced. -/
theorem length_padToWord_body (p : Packet) : (Bytes.padToWord p.body).length = p.announced := by
  cases p with
  | senderReport r =>
      rw [body, Bytes.padToWord_of_whole r.length_encodeBody_mod,
        SenderReport.length_encodeBody, announced]
  | receiverReport r =>
      rw [body, Bytes.padToWord_of_whole r.length_encodeBody_mod,
        ReceiverReport.length_encodeBody, announced]
  | goodbye g =>
      rw [body, Bytes.padToWord_of_whole g.length_encodeBody_mod,
        Goodbye.length_encodeBody, announced]
  | other f =>
      rw [body, Bytes.length_padToWord, announced]

/-- Whatever a report or a goodbye says has room as soon as its count has. -/
theorem fits_of_count_le {p : Packet} (hcount : p.count ≤ 31)
    (hother : ∀ f, p = .other f → f.body.length ≤ 262140) : p.toFrame.Fits := by
  refine ⟨hcount, ?_⟩
  change (Bytes.padToWord p.body).length ≤ 262140
  rw [length_padToWord_body]
  cases p with
  | senderReport r =>
      have hblocks : r.blocks.length ≤ 31 := hcount
      rw [announced, SenderReport.size, SenderReport.fixedSize, ReportBlock.size]
      omega
  | receiverReport r =>
      have hblocks : r.blocks.length ≤ 31 := hcount
      rw [announced, ReceiverReport.size, ReceiverReport.fixedSize, ReportBlock.size]
      omega
  | goodbye g =>
      have hsources : g.sources.length ≤ 31 := hcount
      have hsize := g.size_le
      rw [announced]
      omega
  | other f =>
      have hbody := hother f rfl
      rw [announced]
      omega

/-! ## Heads -/

theorem exists_encode_eq_ok_iff {p : Packet} : (∃ d, p.encode = .ok d) ↔ p.toFrame.Fits := by
  constructor
  · intro h
    obtain ⟨d, hd⟩ := h
    exact (Frame.encode_eq_ok_iff.mp hd).1
  · intro hfits
    exact ⟨_, Frame.encode_eq_ok_iff.mpr ⟨hfits, rfl⟩⟩

theorem length_octets (p : Packet) : p.toFrame.octets.length = 4 + p.announced := by
  rw [← length_padToWord_body, Frame.octets, List.length_cons, List.length_cons,
    List.length_append, Bytes.length_octets16]
  change 2 + (Bytes.padToWord p.body).length + 1 + 1 = _
  omega

/-- A packet can be written exactly when its count has room in five bits and its body in the
length field. It is then as long as was announced, its length field says so, and its head holds
its count and its type and announces no padding. -/
theorem encode_isOk_iff_and_head (p : Packet) :
    ((∃ d, p.encode = .ok d) ↔ p.count ≤ 31 ∧ (p.body.length + 3) / 4 * 4 ≤ 262140) ∧
    ∀ d, p.encode = .ok d →
      d.length % 4 = 0 ∧ d.length = 4 + p.announced ∧
      Bytes.octet d 0 = 0x80 + p.count ∧ Bytes.hasPadding d = false ∧
      d[1]? = some p.packetType ∧
      4 * (Bytes.octet d 2 * 256 + Bytes.octet d 3) + 4 = d.length := by
  refine ⟨?_, ?_⟩
  · rw [exists_encode_eq_ok_iff, ← Bytes.length_padToWord]
    exact ⟨fun hfits => ⟨hfits.count_le, hfits.length_le⟩, fun h => ⟨h.1, h.2⟩⟩
  · intro d hd
    obtain ⟨hfits, rfl⟩ := Frame.encode_eq_ok_iff.mp hd
    have hframed := hfits.isFramed_octets.length_eq
    refine ⟨?_, p.length_octets, hfits.toNat_first, hfits.hasPadding_octets, rfl, ?_⟩
    · omega
    · omega

/-- A packet with the greatest count, whose body is no whole number of words. -/
def unevenPacket : Packet :=
  .other ⟨204, 31, [1, 2, 3, 4, 5]⟩

theorem encode_isOk_iff_and_head_unevenPacket :
    ∃ d, unevenPacket.encode = .ok d ∧ d.length = 12 ∧ Bytes.octet d 0 = 0x9F ∧
      Bytes.octet d 2 * 256 + Bytes.octet d 3 = 2 := by
  obtain ⟨hok, hhead⟩ := encode_isOk_iff_and_head unevenPacket
  obtain ⟨d, hd⟩ := hok.mpr ⟨by decide, by decide⟩
  obtain ⟨-, hlength, hfirst, -, -, hwords⟩ := hhead d hd
  have hlength : d.length = 12 := hlength
  refine ⟨d, hd, hlength, hfirst, ?_⟩
  omega

end Packet

end MediaTransport.Rtcp
