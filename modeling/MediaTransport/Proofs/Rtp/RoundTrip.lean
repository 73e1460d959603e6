import MediaTransport.Proofs.Rtp.Image

/-!
# Reading back a packet that was written

A packet can be written exactly when its header fits the wire format, and the
datagram is the octets of the header in front of the payload. Reading that datagram
gives the packet back without its padding flag, which is not written; a version that
is not 2 in its two low bits is written and then refused.
-/

namespace MediaTransport.Rtp

namespace Header

theorem encode_eq_ok_iff {h : Header} {octets : Bytes} :
    h.encode = .ok octets ↔ h.Fits ∧ octets = h.octets := by
  rw [encode, ← fault?_eq_none_iff]
  cases h.fault? with
  | none =>
      constructor
      · intro hok
        cases hok
        exact ⟨rfl, rfl⟩
      · intro h
        rcases h with ⟨-, rfl⟩
        rfl
  | some fault => simp

theorem not_fits_of_encode_eq_error {h : Header} {e : WireError} (hencode : h.encode = .error e) :
    ¬ h.Fits := by
  intro hfits
  rw [encode_eq_ok_iff.mpr ⟨hfits, rfl⟩] at hencode
  cases hencode

/-- A buffer grows by the header, or stays as it was. -/
theorem appendTo_eq_iff {buffer after : Bytes} {h : Header} {result : Except WireError Unit} :
    appendTo buffer h = (after, result) ↔
      (h.Fits ∧ after = buffer ++ h.octets ∧ result = .ok ()) ∨
        ∃ e, h.encode = .error e ∧ after = buffer ∧ result = .error e := by
  rw [appendTo]
  cases hencode : h.encode with
  | ok octets =>
      obtain ⟨hfits, rfl⟩ := encode_eq_ok_iff.mp hencode
      simp [hfits, eq_comm]
  | error e =>
      have hfits := not_fits_of_encode_eq_error hencode
      simp [hfits, eq_comm]

theorem exists_appendTo_eq_ok_iff {buffer : Bytes} {h : Header} :
    (∃ after, appendTo buffer h = (after, .ok ())) ↔ h.Fits := by
  constructor
  · intro hok
    rcases hok with ⟨after, hafter⟩
    rcases appendTo_eq_iff.mp hafter with ⟨hfits, -⟩ | ⟨e, -, -, he⟩
    · exact hfits
    · cases he
  · intro hfits
    exact ⟨_, appendTo_eq_iff.mpr (Or.inl ⟨hfits, rfl, rfl⟩)⟩

theorem fits_and_eq_append_of_appendTo_eq_ok {buffer after : Bytes} {h : Header}
    (hafter : appendTo buffer h = (after, .ok ())) : h.Fits ∧ after = buffer ++ h.octets := by
  rcases appendTo_eq_iff.mp hafter with ⟨hfits, hoctets, -⟩ | ⟨e, -, -, he⟩
  · exact ⟨hfits, hoctets⟩
  · cases he

theorem eq_of_appendTo_eq_error {buffer after : Bytes} {h : Header} {e : WireError}
    (hafter : appendTo buffer h = (after, .error e)) : after = buffer := by
  rcases appendTo_eq_iff.mp hafter with ⟨-, -, he⟩ | ⟨e', -, hbuffer, -⟩
  · cases he
  · exact hbuffer

end Header

namespace Packet

theorem encode_eq_ok_iff {p : Packet} {d : Bytes} :
    p.encode = .ok d ↔ p.header.Fits ∧ d = p.header.octets ++ p.payload := by
  rw [encode]
  cases hencode : p.header.encode with
  | ok octets =>
      obtain ⟨hfits, rfl⟩ := Header.encode_eq_ok_iff.mp hencode
      simp [hfits, eq_comm]
  | error e =>
      have hfits := Header.not_fits_of_encode_eq_error hencode
      simp [hfits]

theorem exists_encode_eq_ok_iff {p : Packet} : (∃ d, p.encode = .ok d) ↔ p.header.Fits := by
  constructor
  · intro hok
    rcases hok with ⟨d, hd⟩
    exact (encode_eq_ok_iff.mp hd).1
  · intro hfits
    exact ⟨_, encode_eq_ok_iff.mpr ⟨hfits, rfl⟩⟩

/-- A written header in front of a payload is read as the two, less the padding flag. -/
theorem decode_octets_append {h : Header} (hfits : h.Fits) (payload : Bytes) :
    decode (h.octets ++ payload) =
      if h.version.toNat % 4 = 2 then
        .ok ⟨{ h with version := formatVersion, padding := false }, payload⟩
      else .error (.invalidVersion (UInt8.ofNat (h.version.toNat % 4))) := by
  have hplain : Header.Fits { h with padding := false } :=
    ⟨hfits.csrc_le, hfits.payloadType_le, hfits.extension⟩
  have himage : h.octets = Header.image { h with padding := false } :=
    (Header.image_of_padding_eq_false (h := { h with padding := false }) rfl).symm
  rw [decode, himage, Header.decode_image_append hplain]
  by_cases hformat : h.version.toNat % 4 = 2
  · simp only [hformat, if_true]
    rfl
  · simp only [hformat, if_false]

/-- A packet can be written exactly when its header fits. What is written has the
announced size and is read back as the packet, unless its version is not 2. A buffer
that already holds something grows by the header, or is left as it was. -/
theorem encode_ok_iff_and_decode_encode (p : Packet) :
    ((∃ d, p.encode = .ok d) ↔
      p.header.csrc.length ≤ 15 ∧ p.header.payloadType.toNat ≤ 127 ∧
        ∀ x ∈ p.header.extension, x.data.length % 4 = 0 ∧ x.data.length / 4 ≤ 65535) ∧
    (∀ d, p.encode = .ok d →
      d.length = p.size ∧
      decode d =
        if p.header.version.toNat % 4 = 2 then
          .ok { p with header := { p.header with version := 2, padding := false } }
        else .error (.invalidVersion (UInt8.ofNat (p.header.version.toNat % 4)))) ∧
    ∀ buffer : Bytes,
      ((∃ after, Header.appendTo buffer p.header = (after, .ok ())) ↔ ∃ d, p.encode = .ok d) ∧
      (∀ after, Header.appendTo buffer p.header = (after, .ok ()) →
        ∃ written, after = buffer ++ written ∧ written.length = p.header.size ∧
          p.encode = .ok (written ++ p.payload)) ∧
      ∀ after e, Header.appendTo buffer p.header = (after, .error e) → after = buffer := by
  refine ⟨?_, ?_, ?_⟩
  · rw [exists_encode_eq_ok_iff]
    exact ⟨fun h => ⟨h.csrc_le, h.payloadType_le, h.extension⟩, fun h => ⟨h.1, h.2.1, h.2.2⟩⟩
  · intro d hd
    obtain ⟨hfits, rfl⟩ := encode_eq_ok_iff.mp hd
    rw [List.length_append, Header.length_octets, decode_octets_append hfits]
    exact ⟨rfl, rfl⟩
  · intro buffer
    refine ⟨?_, ?_, ?_⟩
    · rw [Header.exists_appendTo_eq_ok_iff, exists_encode_eq_ok_iff]
    · intro after hafter
      obtain ⟨hfits, hoctets⟩ := Header.fits_and_eq_append_of_appendTo_eq_ok hafter
      exact ⟨_, hoctets, Header.length_octets _, encode_eq_ok_iff.mpr ⟨hfits, rfl⟩⟩
    · intro after e hafter
      exact Header.eq_of_appendTo_eq_error hafter

/-- A packet with everything a header can carry. -/
def fullPacket : Packet where
  header :=
    { padding := true, marker := true, payloadType := 127, sequenceNumber := 65535,
      timestamp := 160, ssrc := 0x11223344, csrc := [7, 8], extension := some ⟨0xBEDE, [1, 2, 3, 4]⟩ }
  payload := [0xFF, 0x7F, 0, 0x80]

theorem encode_ok_iff_and_decode_encode_fullPacket :
    ∃ d, fullPacket.encode = .ok d ∧ d.length = 32 ∧
      decode d = .ok { fullPacket with header := { fullPacket.header with padding := false } } := by
  have h := encode_ok_iff_and_decode_encode fullPacket
  obtain ⟨d, hd⟩ := h.1.mpr (by decide)
  obtain ⟨hlength, hdecode⟩ := h.2.1 d hd
  exact ⟨d, hd, hlength, hdecode⟩

end Packet

end MediaTransport.Rtp
