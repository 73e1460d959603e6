import MediaTransport.Proofs.Rtp.RoundTrip

/-!
# Which datagrams are packets

`IsHeader` and `IsPacket` are the grammar of media packets, said in positions of the
datagram: where the contributing sources end, where the extension ends, and how much
padding the last octet counts. Nothing of the reader is used to say it.

The main statement is that the reader accepts exactly this grammar, and that writing
what it returns gives the datagram back. Padding is the only thing that is lost: its
octets, and the flag that announces it.
-/

namespace MediaTransport.Rtp

/-! ## Positions in a datagram -/

namespace Layout

/-- How many contributing sources are announced. -/
def sourceCount (d : Bytes) : Nat :=
  Bytes.octet d 0 % 16

/-- Whether an extension is announced. -/
def hasExtension (d : Bytes) : Bool :=
  Bytes.octet d 0 / 16 % 2 = 1

/-- Where the contributing sources end. -/
def sourcesEnd (d : Bytes) : Nat :=
  12 + 4 * sourceCount d

/-- Octets of the extension's data, from the length field in its head. -/
def extensionLength (d : Bytes) : Nat :=
  4 * (Bytes.octet d (sourcesEnd d + 2) * 256 + Bytes.octet d (sourcesEnd d + 3))

/-- Where the header ends. -/
def headerEnd (d : Bytes) : Nat :=
  if hasExtension d then sourcesEnd d + 4 + extensionLength d else sourcesEnd d

end Layout

open Layout

/-- A datagram that begins with a header. -/
structure IsHeader (d : Bytes) : Prop where
  fixed_le : 12 ≤ d.length
  version : Bytes.octet d 0 / 64 = 2
  sources_le : sourcesEnd d ≤ d.length
  extensionHead_le : hasExtension d → sourcesEnd d + 4 ≤ d.length
  extensionData_le : hasExtension d → sourcesEnd d + 4 + extensionLength d ≤ d.length

/-- A datagram that is a packet: a header, a payload, and padding if it is announced. -/
structure IsPacket (d : Bytes) : Prop extends IsHeader d where
  padding : Bytes.hasPadding d →
    headerEnd d < d.length ∧ 1 ≤ Bytes.last d ∧ Bytes.last d ≤ d.length - headerEnd d

/-- A datagram without its padding: the flag is cleared, and the padding is cut off. -/
def withoutPadding (d : Bytes) : Bytes :=
  (d.set 0 (d.getD 0 0 &&& 0xDF)).take (d.length - Bytes.last d)

/-! ## The layout of an image -/

namespace Header

variable {h : Header}

theorem Fits.sourceCount_image (hfits : h.Fits) (payload : Bytes) :
    sourceCount (h.image ++ payload) = h.csrc.length :=
  hfits.fields_imageFirst.2.2.2

theorem Fits.hasExtension_image (hfits : h.Fits) (payload : Bytes) :
    hasExtension (h.image ++ payload) = h.extension.isSome :=
  hfits.fields_imageFirst.2.2.1

theorem Fits.hasPadding_image (hfits : h.Fits) (payload : Bytes) :
    Bytes.hasPadding (h.image ++ payload) = h.padding :=
  hfits.fields_imageFirst.2.1

theorem Fits.sourcesEnd_image (hfits : h.Fits) (payload : Bytes) :
    sourcesEnd (h.image ++ payload) = fixedSize + 4 * h.csrc.length := by
  rw [sourcesEnd, hfits.sourceCount_image]
  rfl

/-- Behind the sources of an image stands the extension. -/
theorem octet_image_sourcesEnd (payload : Bytes) (i : Nat) :
    Bytes.octet (h.image ++ payload) (fixedSize + 4 * h.csrc.length + i) =
      Bytes.octet (extensionOctets h.extension ++ payload) i := by
  have hsplit : h.image ++ payload =
      (h.imageFirst :: h.secondOctet :: (Bytes.octets16 h.sequenceNumber ++
        Bytes.octets32 h.timestamp ++ Bytes.octets32 h.ssrc ++ Bytes.octetsList h.csrc)) ++
      (extensionOctets h.extension ++ payload) := by
    rw [image_append]
    simp only [List.cons_append, List.append_assoc]
  rw [hsplit, Bytes.octet_append_right] <;>
    simp only [List.length_cons, List.length_append, Bytes.length_octets16,
      Bytes.length_octets32, Bytes.length_octetsList, fixedSize]
  · congr 1
    omega
  · omega

theorem Fits.extensionLength_image (hfits : h.Fits) {x : Extension} (hx : h.extension = some x)
    (payload : Bytes) : extensionLength (h.image ++ payload) = x.data.length := by
  have hwhole : x.IsWhole := hfits.extension x hx
  rw [extensionLength, hfits.sourcesEnd_image, octet_image_sourcesEnd, octet_image_sourcesEnd, hx,
    ← hwhole.length_eq]
  have hwords := UInt16.toNat_lt (UInt16.ofNat (x.data.length / 4))
  change 4 * ((UInt8.ofNat ((UInt16.ofNat (x.data.length / 4)).toNat / 256)).toNat * 256 +
    (UInt8.ofNat (UInt16.ofNat (x.data.length / 4)).toNat).toNat) = _
  rw [UInt8.toNat_ofNat', UInt8.toNat_ofNat']
  omega

theorem Fits.headerEnd_image (hfits : h.Fits) (payload : Bytes) :
    headerEnd (h.image ++ payload) = h.size := by
  rw [headerEnd, hfits.hasExtension_image, hfits.sourcesEnd_image, size]
  cases hx : h.extension with
  | none => rfl
  | some x =>
      rw [hfits.extensionLength_image hx, Option.map_some, Option.getD_some, Extension.size]
      simp only [Option.isSome_some, if_true]
      omega

theorem isHeader_of_decode {d rest : Bytes} (hdecode : decode d = .ok (h, rest)) :
    IsHeader d := by
  obtain ⟨hversion, hfits, rfl⟩ := decode_eq_ok_iff.mp hdecode
  have hlength : (h.image ++ rest).length = h.size + rest.length := by
    rw [List.length_append, length_image]
  have hfixed : sourcesEnd (h.image ++ rest) ≤ h.size := by
    rw [hfits.sourcesEnd_image, size]
    omega
  have hend := hfits.headerEnd_image rest
  refine ⟨?_, ?_, ?_, ?_, ?_⟩
  · rw [sourcesEnd] at hfixed
    omega
  · have hfirst := hfits.fields_imageFirst.1
    rw [hversion] at hfirst
    exact FirstOctet.version_eq_iff.mp hfirst
  · omega
  · intro hx
    rw [headerEnd, if_pos hx] at hend
    omega
  · intro hx
    rw [headerEnd, if_pos hx] at hend
    omega

theorem layout_of_decode {d rest : Bytes} (hdecode : decode d = .ok (h, rest)) :
    Bytes.hasPadding d = h.padding ∧ rest = d.drop (headerEnd d) := by
  obtain ⟨-, hfits, rfl⟩ := decode_eq_ok_iff.mp hdecode
  rw [hfits.hasPadding_image, hfits.headerEnd_image, ← length_image, List.drop_left]
  exact ⟨rfl, rfl⟩

end Header

/-! ## What the grammar describes is read -/

theorem Extension.exists_decode {b : Bytes} (offset : Nat) (hhead : 4 ≤ b.length)
    (hdata : 4 + 4 * (Bytes.octet b 2 * 256 + Bytes.octet b 3) ≤ b.length) :
    ∃ r, decode offset b = .ok r := by
  obtain ⟨p1, p0, n1, n0, rest, rfl⟩ := Bytes.exists_cons_four hhead
  have hlength : 4 * (Bytes.word16 n1 n0).toNat ≤ rest.length := by
    rw [Bytes.word16_toNat]
    simp only [List.length_cons, Bytes.octet_cons_succ, Bytes.octet_cons_zero] at hdata
    omega
  simp only [decode, Bytes.split?_of_le hlength]
  exact ⟨_, rfl⟩

theorem Header.exists_decodeExtension {first : UInt8} {b : Bytes}
    (h : FirstOctet.extension first →
      4 ≤ b.length ∧ 4 + 4 * (Bytes.octet b 2 * 256 + Bytes.octet b 3) ≤ b.length) :
    ∃ x rest, decodeExtension first b = .ok (x, rest) := by
  rw [decodeExtension]
  cases hx : FirstOctet.extension first with
  | false => exact ⟨none, b, rfl⟩
  | true =>
      obtain ⟨hhead, hdata⟩ := h hx
      obtain ⟨⟨x, rest⟩, hdecode⟩ := Extension.exists_decode
        (fixedSize + 4 * FirstOctet.sources first) hhead hdata
      rw [if_pos rfl, hdecode]
      exact ⟨some x, rest, rfl⟩

theorem Header.exists_decodeSources {first : UInt8} {b : Bytes}
    (h : 4 * FirstOctet.sources first ≤ b.length) :
    ∃ csrc, decodeSources first b = .ok (csrc, b.drop (4 * FirstOctet.sources first)) := by
  rw [decodeSources, Bytes.split?_of_le h]
  exact ⟨_, rfl⟩

theorem IsHeader.extension_le {d : Bytes} (hd : IsHeader d) (hx : hasExtension d) :
    4 ≤ (d.drop (sourcesEnd d)).length ∧
      4 + 4 * (Bytes.octet (d.drop (sourcesEnd d)) 2 * 256 +
        Bytes.octet (d.drop (sourcesEnd d)) 3) ≤ (d.drop (sourcesEnd d)).length := by
  have hhead := hd.extensionHead_le hx
  have hdata := hd.extensionData_le hx
  rw [extensionLength] at hdata
  rw [Bytes.octet_drop, Bytes.octet_drop, List.length_drop]
  constructor <;> omega

theorem IsHeader.exists_decode {d : Bytes} (hd : IsHeader d) :
    ∃ h rest, Header.decode d = .ok (h, rest) := by
  obtain ⟨b0, b1, s1, s0, t3, t2, t1, t0, c3, c2, c1, c0, tail, rfl, hlength⟩ :=
    Bytes.exists_cons_twelve hd.fixed_le
  have hversion : FirstOctet.version b0 = formatVersion :=
    FirstOctet.version_eq_iff.mpr hd.version
  have hsources : 4 * FirstOctet.sources b0 ≤ tail.length := by
    have hle : 12 + 4 * FirstOctet.sources b0 ≤ _ := hd.sources_le
    omega
  have hdrop : tail.drop (4 * FirstOctet.sources b0) =
      (b0 :: b1 :: s1 :: s0 :: t3 :: t2 :: t1 :: t0 :: c3 :: c2 :: c1 :: c0 :: tail).drop
        (12 + 4 * FirstOctet.sources b0) := by
    rw [← List.drop_drop]
    rfl
  obtain ⟨csrc, hcsrc⟩ := Header.exists_decodeSources hsources
  rw [hdrop] at hcsrc
  obtain ⟨x, rest, hx⟩ := Header.exists_decodeExtension hd.extension_le
  have hx' : Header.decodeExtension b0 (List.drop (12 + 4 * FirstOctet.sources b0) _) =
    .ok (x, rest) := hx
  simp only [Header.decode, hversion, if_true, hcsrc, hx']
  exact ⟨_, rest, rfl⟩

/-! ## Padding -/

namespace Packet

theorem removePadding_eq_ok_iff {payload rest : Bytes} :
    removePadding payload = .ok rest ↔ Bytes.unpad? payload = some rest := by
  rw [removePadding]
  cases Bytes.unpad? payload with
  | some b => simp
  | none => cases payload.getLast? <;> simp

/-- A packet is a header and what is left of the octets behind it. -/
theorem decode_eq_ok_iff {d : Bytes} {p : Packet} :
    decode d = .ok p ↔
      ∃ rest, Header.decode d = .ok (p.header, rest) ∧
        if p.header.padding then Bytes.unpad? rest = some p.payload else rest = p.payload := by
  rw [decode]
  cases hdecode : Header.decode d with
  | error refusal => simp
  | ok r =>
      obtain ⟨h, rest⟩ := r
      dsimp only
      constructor
      · intro hp
        split at hp
        · rename_i hpadding
          split at hp
          · cases hp
          · rename_i payload hremove
            cases hp
            exact ⟨rest, rfl, by rw [if_pos hpadding]; exact removePadding_eq_ok_iff.mp hremove⟩
        · rename_i hpadding
          cases hp
          exact ⟨rest, rfl, by rw [if_neg hpadding]⟩
      · intro h
        rcases h with ⟨rest', heq, hpayload⟩
        cases heq
        split at hpayload
        · rename_i hpadding
          rw [if_pos hpadding, removePadding_eq_ok_iff.mpr hpayload]
        · rename_i hpadding
          rw [if_neg hpadding, hpayload]

theorem isPacket_of_decode {d : Bytes} {p : Packet} (hp : decode d = .ok p) : IsPacket d := by
  obtain ⟨rest, hdecode, hpayload⟩ := decode_eq_ok_iff.mp hp
  refine ⟨Header.isHeader_of_decode hdecode, ?_⟩
  intro hpadding
  obtain ⟨hflag, hrest⟩ := Header.layout_of_decode hdecode
  rw [if_pos (hflag ▸ hpadding)] at hpayload
  obtain ⟨hpos, hle, -⟩ := Bytes.unpad?_eq_some_iff.mp hpayload
  have hlength : rest.length = d.length - headerEnd d := by rw [hrest, List.length_drop]
  have hend : headerEnd d < d.length := by
    have hlt := Bytes.length_pos_of_last_pos hpos
    omega
  rw [hrest, Bytes.last_drop hend] at hpos hle
  rw [List.length_drop] at hle
  exact ⟨hend, hpos, hle⟩

theorem exists_decode_of_isPacket {d : Bytes} (hd : IsPacket d) : ∃ p, decode d = .ok p := by
  obtain ⟨h, rest, hdecode⟩ := hd.toIsHeader.exists_decode
  obtain ⟨hflag, hrest⟩ := Header.layout_of_decode hdecode
  cases hpadding : h.padding with
  | false =>
      exact ⟨⟨h, rest⟩, decode_eq_ok_iff.mpr ⟨rest, hdecode, by simp [hpadding]⟩⟩
  | true =>
      obtain ⟨hend, hpos, hle⟩ := hd.padding (hflag.trans hpadding)
      have hunpad : ∃ payload, Bytes.unpad? rest = some payload := by
        refine ⟨_, Bytes.unpad?_eq_some_iff.mpr ⟨?_, ?_, rfl⟩⟩
        · rw [hrest, Bytes.last_drop hend]
          exact hpos
        · rw [hrest, Bytes.last_drop hend, List.length_drop]
          exact hle
      obtain ⟨payload, hpayload⟩ := hunpad
      exact ⟨⟨h, payload⟩, decode_eq_ok_iff.mpr ⟨rest, hdecode, by simp [hpadding, hpayload]⟩⟩

/-- Clearing the padding flag of an image gives what is written. -/
theorem octets_append_eq_set {h : Header} (hfits : h.Fits) (hpadding : h.padding = true)
    (rest : Bytes) :
    (h.image ++ rest).set 0 ((h.image ++ rest).getD 0 0 &&& 0xDF) = h.octets ++ rest := by
  have hclear : h.imageFirst &&& 0xDF = h.firstOctet := by
    apply UInt8.toNat_inj.mp
    have hfirst := h.firstOctet.toNat_lt
    have himage : h.imageFirst.toNat = h.firstOctet.toNat + 32 := by
      rw [hfits.toNat_imageFirst, hfits.toNat_firstOctet, hpadding, if_pos rfl]
      omega
    have hflag : h.firstOctet.toNat / 32 % 2 = 0 := by
      have hcsrc := hfits.csrc_le
      rw [hfits.toNat_firstOctet]
      split <;> omega
    rw [UInt8.toNat_and, himage]
    exact Bytes.and_clear_flag _ hfirst hflag
  change (h.imageFirst &&& 0xDF) :: (h.octets.tail ++ rest) = h.octets ++ rest
  rw [hclear, Header.octets_eq_cons]
  rfl

/-- What was read is written as the datagram, less its padding. -/
theorem encode_of_decode {d : Bytes} {p : Packet} (hp : decode d = .ok p) :
    p.encode = .ok (if Bytes.hasPadding d then withoutPadding d else d) := by
  obtain ⟨rest, hdecode, hpayload⟩ := decode_eq_ok_iff.mp hp
  obtain ⟨hflag, hrest⟩ := Header.layout_of_decode hdecode
  obtain ⟨-, hfits, hd⟩ := Header.decode_eq_ok_iff.mp hdecode
  refine encode_eq_ok_iff.mpr ⟨hfits, ?_⟩
  rw [hflag]
  cases hpadding : p.header.padding with
  | false =>
      rw [hpadding, if_neg (by simp)] at hpayload
      rw [if_neg (by simp), hd, hpayload, Header.image_of_padding_eq_false hpadding]
  | true =>
      obtain ⟨hend, -, hle⟩ := (isPacket_of_decode hp).padding (hflag.trans hpadding)
      rw [hpadding, if_pos rfl] at hpayload
      obtain ⟨-, -, hcut⟩ := Bytes.unpad?_eq_some_iff.mp hpayload
      have hlast : Bytes.last rest = Bytes.last d := by rw [hrest, Bytes.last_drop hend]
      have hle' : Bytes.last d ≤ rest.length := by
        rw [hrest, List.length_drop]
        exact hle
      have hlength : d.length = p.header.octets.length + rest.length := by
        rw [hd, List.length_append, Header.length_image, Header.length_octets]
      have hset := octets_append_eq_set hfits hpadding rest
      rw [← hd] at hset
      rw [if_pos rfl, withoutPadding, hset, hcut, hlast, hlength, Nat.add_sub_assoc hle',
        List.take_length_add_append]

/-- The reader accepts exactly the datagrams that the grammar describes. What it
returns can be written, and is written as the datagram itself, or as the datagram
without its padding when there is any. -/
theorem decode_isOk_iff_and_encode_decode (d : Bytes) :
    ((∃ p, decode d = .ok p) ↔ IsPacket d) ∧
      ∀ p, decode d = .ok p →
        p.encode = .ok (if Bytes.hasPadding d then withoutPadding d else d) := by
  refine ⟨⟨?_, exists_decode_of_isPacket⟩, ?_⟩
  · intro h
    rcases h with ⟨p, hp⟩
    exact isPacket_of_decode hp
  · intro p hp
    exact encode_of_decode hp

/-- Two octets of payload in front of two octets of padding. -/
def paddedDatagram : Bytes :=
  [0xA0, 0, 0, 7, 0, 0, 0, 0, 0, 0, 0, 1, 0xAA, 0xBB, 0, 2]

theorem decode_isOk_iff_and_encode_decode_paddedDatagram :
    ∃ p, decode paddedDatagram = .ok p ∧
      p.encode = .ok [0x80, 0, 0, 7, 0, 0, 0, 0, 0, 0, 0, 1, 0xAA, 0xBB] := by
  have h := decode_isOk_iff_and_encode_decode paddedDatagram
  have hpacket : IsPacket paddedDatagram :=
    ⟨⟨by decide, by decide, by decide, by decide, by decide⟩, by decide⟩
  obtain ⟨p, hp⟩ := h.1.mpr hpacket
  exact ⟨p, hp, h.2 p hp⟩

end Packet

end MediaTransport.Rtp
