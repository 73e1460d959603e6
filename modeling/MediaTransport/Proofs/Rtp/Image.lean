import MediaTransport.Proofs.Octets
import MediaTransport.Rtp.Packet

/-!
# What a header looks like on the wire

`Header.Fits h` says that the wire format has room for the fields of `h`, and
`Header.image h` is the one octet string that then stands for `h`, with its padding
flag. Writing a header never sets that flag, so `image` and `octets` differ for a
header that came with padding, and only there.

The main statement, `Header.decode_eq_ok_iff`, says that reading a header is taking
its image off the front: nothing else is accepted, and nothing is lost. Each of the
parts that a header is read in has a statement of the same shape.
-/

namespace MediaTransport

namespace FirstOctet

/-- An octet put together from its fields has these fields. -/
theorem fields_of_toNat_eq {b : UInt8} {v c : Nat} {p x : Bool} (hc : c < 16)
    (hb : b.toNat = v * 64 + (if p then 32 else 0) + (if x then 16 else 0) + c) :
    version b = UInt8.ofNat v ∧ padding b = p ∧ extension b = x ∧ sources b = c := by
  have hfields : b.toNat / 64 = v ∧ b.toNat / 32 % 2 = (if p then 1 else 0) ∧
      b.toNat / 16 % 2 = (if x then 1 else 0) ∧ b.toNat % 16 = c := by
    cases p <;> cases x <;> simp at hb ⊢ <;> omega
  obtain ⟨hversion, hpadding, hextension, hsources⟩ := hfields
  refine ⟨by rw [version, hversion], ?_, ?_, hsources⟩
  · rw [padding, hpadding]
    cases p <;> rfl
  · rw [extension, hextension]
    cases x <;> rfl

/-- An octet is put together from its fields. -/
theorem toNat_eq (b : UInt8) :
    b.toNat = b.toNat / 64 * 64 + (if padding b then 32 else 0) +
      (if extension b then 16 else 0) + sources b := by
  simp only [padding, extension, sources, decide_eq_true_eq]
  split <;> split <;> omega

end FirstOctet

namespace Rtp

namespace Extension

theorem encode_append (x : Extension) (rest : Bytes) :
    x.encode ++ rest =
      Bytes.octets16 x.profile ++ (Bytes.octets16 (UInt16.ofNat (x.data.length / 4)) ++
        (x.data ++ rest)) := by
  rw [encode, List.append_assoc, List.append_assoc]

/-- The length field of a whole extension says how long its data is. -/
theorem IsWhole.length_eq {x : Extension} (h : x.IsWhole) :
    4 * (UInt16.ofNat (x.data.length / 4)).toNat = x.data.length := by
  obtain ⟨hmod, hdiv⟩ := h
  rw [UInt16.toNat_ofNat', Nat.mod_eq_of_lt (by omega)]
  omega

theorem decode_encode_append (offset : Nat) {x : Extension} (h : x.IsWhole) (rest : Bytes) :
    decode offset (x.encode ++ rest) = .ok (x, rest) := by
  rw [encode_append]
  simp only [Bytes.octets16, List.cons_append, List.nil_append, decode, Bytes.word16_octets,
    h.length_eq, Bytes.split?_append]

theorem decode_eq_ok_iff {offset : Nat} {b rest : Bytes} {x : Extension} :
    decode offset b = .ok (x, rest) ↔ x.IsWhole ∧ b = x.encode ++ rest := by
  constructor
  · intro h
    unfold decode at h
    split at h
    · rename_i p1 p0 n1 n0 tail
      dsimp only at h
      split at h
      · rename_i data tail' hsplit
        obtain ⟨rfl, hlength⟩ := Bytes.split?_eq_some_iff.mp hsplit
        cases h
        have hwords : (Bytes.word16 n1 n0).toNat < 65536 := UInt16.toNat_lt _
        have hdiv : data.length / 4 = (Bytes.word16 n1 n0).toNat := by omega
        refine ⟨⟨by dsimp only; omega, by dsimp only; omega⟩, ?_⟩
        rw [encode_append, hdiv, UInt16.ofNat_toNat, Bytes.octets16_word, Bytes.octets16_word]
        rfl
      · cases h
    · cases h
  · intro h
    rcases h with ⟨hwhole, rfl⟩
    exact decode_encode_append offset hwhole rest

end Extension

namespace Header

/-- The fields of a header that the wire format has room for. -/
structure Fits (h : Header) : Prop where
  csrc_le : h.csrc.length ≤ 15
  payloadType_le : h.payloadType.toNat ≤ 127
  extension : ∀ x ∈ h.extension, x.data.length % 4 = 0 ∧ x.data.length / 4 ≤ 65535

/-- A header has no fault exactly when the wire format has room for it. -/
theorem fault?_eq_none_iff {h : Header} : h.fault? = none ↔ h.Fits := by
  rw [fault?]
  by_cases hcsrc : 15 < h.csrc.length
  · rw [if_pos hcsrc]
    exact ⟨fun hsome => absurd hsome (by simp), fun hfits => absurd hfits.csrc_le (by omega)⟩
  · by_cases htype : 127 < h.payloadType.toNat
    · rw [if_neg hcsrc, if_pos htype]
      exact ⟨fun hsome => absurd hsome (by simp),
        fun hfits => absurd hfits.payloadType_le (by omega)⟩
    · rw [if_neg hcsrc, if_neg htype]
      constructor
      · intro hfault
        refine ⟨by omega, by omega, ?_⟩
        intro x hx
        rw [Option.mem_def.mp hx] at hfault
        by_cases hwhole : x.IsWhole
        · exact hwhole
        · exact absurd hfault (by simp [hwhole])
      · intro hfits
        cases hx : h.extension with
        | none => rfl
        | some x => exact if_pos (hfits.extension x hx)

/-- The octets of the extension part of a header. -/
def extensionOctets (x : Option Extension) : Bytes :=
  (x.map Extension.encode).getD []

theorem decodeSources_eq_ok_iff {first : UInt8} {b rest : Bytes} {csrc : List UInt32} :
    decodeSources first b = .ok (csrc, rest) ↔
      csrc.length = FirstOctet.sources first ∧ b = Bytes.octetsList csrc ++ rest := by
  constructor
  · intro h
    unfold decodeSources at h
    dsimp only at h
    split at h
    · rename_i sources tail hsplit
      obtain ⟨rfl, hlength⟩ := Bytes.split?_eq_some_iff.mp hsplit
      cases h
      rw [Bytes.octetsList_words (by omega), Bytes.length_words]
      exact ⟨by omega, rfl⟩
    · cases h
  · intro h
    rcases h with ⟨hlength, rfl⟩
    rw [decodeSources, ← hlength, ← Bytes.length_octetsList]
    simp only [Bytes.split?_append, Bytes.words_octetsList]

theorem decodeExtension_eq_ok_iff {first : UInt8} {b rest : Bytes} {x : Option Extension} :
    decodeExtension first b = .ok (x, rest) ↔
      x.isSome = FirstOctet.extension first ∧ (∀ e ∈ x, e.IsWhole) ∧
        b = extensionOctets x ++ rest := by
  rw [decodeExtension]
  cases hfirst : FirstOctet.extension first with
  | false =>
      rw [if_neg (by simp)]
      constructor
      · intro h
        cases h
        exact ⟨rfl, by simp, rfl⟩
      · intro h
        rcases h with ⟨hnone, -, rfl⟩
        rw [Option.isSome_eq_false_iff, Option.isNone_iff_eq_none] at hnone
        rw [hnone]
        rfl
  | true =>
      rw [if_pos rfl]
      constructor
      · intro h
        split at h
        · rename_i e tail hdecode
          obtain ⟨hwhole, rfl⟩ := Extension.decode_eq_ok_iff.mp hdecode
          cases h
          exact ⟨rfl, by simpa using hwhole, rfl⟩
        · cases h
      · intro h
        rcases h with ⟨hsome, hwhole, rfl⟩
        obtain ⟨e, rfl⟩ := Option.isSome_iff_exists.mp hsome
        simp only [extensionOctets, Option.map_some, Option.getD_some]
        rw [Extension.decode_encode_append _ (hwhole e rfl)]

/-! ## The first two octets -/

/-- The first octet of an image: the one that is written, with the padding flag. -/
def imageFirst (h : Header) : UInt8 :=
  UInt8.ofNat (h.firstOctet.toNat + if h.padding then 32 else 0)

theorem Fits.toNat_firstOctet {h : Header} (hfits : h.Fits) :
    h.firstOctet.toNat =
      h.version.toNat % 4 * 64 + (if h.extension.isSome then 16 else 0) + h.csrc.length := by
  have hcsrc := hfits.csrc_le
  rw [firstOctet, UInt8.toNat_ofNat', Nat.mod_eq_of_lt]
  split <;> omega

theorem Fits.toNat_imageFirst {h : Header} (hfits : h.Fits) :
    h.imageFirst.toNat =
      h.version.toNat % 4 * 64 + (if h.padding then 32 else 0) +
        (if h.extension.isSome then 16 else 0) + h.csrc.length := by
  have hcsrc := hfits.csrc_le
  rw [imageFirst, hfits.toNat_firstOctet, UInt8.toNat_ofNat', Nat.mod_eq_of_lt]
  · omega
  · split <;> split <;> omega

theorem Fits.fields_imageFirst {h : Header} (hfits : h.Fits) :
    FirstOctet.version h.imageFirst = UInt8.ofNat (h.version.toNat % 4) ∧
      FirstOctet.padding h.imageFirst = h.padding ∧
      FirstOctet.extension h.imageFirst = h.extension.isSome ∧
      FirstOctet.sources h.imageFirst = h.csrc.length := by
  have hcsrc := hfits.csrc_le
  exact FirstOctet.fields_of_toNat_eq (by omega) hfits.toNat_imageFirst

theorem Fits.toNat_secondOctet {h : Header} (hfits : h.Fits) :
    h.secondOctet.toNat = (if h.marker then 128 else 0) + h.payloadType.toNat := by
  have htype := hfits.payloadType_le
  rw [secondOctet, UInt8.toNat_ofNat', Nat.mod_eq_of_lt]
  split <;> omega

theorem Fits.fields_secondOctet {h : Header} (hfits : h.Fits) :
    markerOf h.secondOctet = h.marker ∧ payloadTypeOf h.secondOctet = h.payloadType := by
  have htype := hfits.payloadType_le
  rw [markerOf, payloadTypeOf, hfits.toNat_secondOctet]
  constructor
  · cases h.marker with
    | false =>
        simp only [Bool.false_eq_true, if_false, decide_eq_false_iff_not]
        omega
    | true =>
        simp only [if_true, decide_eq_true_eq]
        omega
  · apply UInt8.toNat_inj.mp
    rw [UInt8.toNat_ofNat']
    split <;> omega

theorem Fits.imageFirst_eq {h : Header} {b : UInt8} (hfits : h.Fits)
    (hversion : h.version = FirstOctet.version b) (hpadding : h.padding = FirstOctet.padding b)
    (hextension : h.extension.isSome = FirstOctet.extension b)
    (hsources : h.csrc.length = FirstOctet.sources b) : h.imageFirst = b := by
  apply UInt8.toNat_inj.mp
  have hb : b.toNat < 256 := b.toNat_lt
  have htop : (FirstOctet.version b).toNat % 4 = b.toNat / 64 := by
    rw [FirstOctet.version, UInt8.toNat_ofNat']
    omega
  rw [hfits.toNat_imageFirst, hversion, hpadding, hextension, hsources, htop,
    ← FirstOctet.toNat_eq b]

theorem Fits.secondOctet_eq {h : Header} {b : UInt8} (hfits : h.Fits)
    (hmarker : h.marker = markerOf b) (htype : h.payloadType = payloadTypeOf b) :
    h.secondOctet = b := by
  apply UInt8.toNat_inj.mp
  have hb : b.toNat < 256 := b.toNat_lt
  rw [hfits.toNat_secondOctet, hmarker, htype, markerOf, payloadTypeOf, UInt8.toNat_ofNat',
    Nat.mod_eq_of_lt (by omega)]
  simp only [decide_eq_true_eq]
  split <;> omega

/-! ## The whole header -/

theorem octets_eq_cons (h : Header) :
    h.octets = h.firstOctet :: h.secondOctet ::
      (Bytes.octets16 h.sequenceNumber ++ Bytes.octets32 h.timestamp ++
        Bytes.octets32 h.ssrc ++ (Bytes.octetsList h.csrc ++ extensionOctets h.extension)) := by
  simp only [octets, extensionOctets, List.append_assoc]

/-- The octets that stand for a header, its padding flag included. -/
def image (h : Header) : Bytes :=
  h.imageFirst :: h.octets.tail

theorem length_image (h : Header) : h.image.length = h.size := by
  rw [← length_octets, octets_eq_cons, image, octets_eq_cons]
  rfl

theorem image_of_padding_eq_false {h : Header} (hpadding : h.padding = false) :
    h.image = h.octets := by
  rw [image, imageFirst, hpadding, octets_eq_cons]
  simp

theorem image_append (h : Header) (rest : Bytes) :
    h.image ++ rest = h.imageFirst :: h.secondOctet ::
      (Bytes.octets16 h.sequenceNumber ++ (Bytes.octets32 h.timestamp ++
        (Bytes.octets32 h.ssrc ++ (Bytes.octetsList h.csrc ++
          (extensionOctets h.extension ++ rest))))) := by
  rw [image, octets_eq_cons]
  simp only [List.tail_cons, List.cons_append, List.append_assoc]

/-- An image in front of other octets is read as its header, and the other octets are
left, unless the version that was written is not the one that is read. -/
theorem decode_image_append {h : Header} (hfits : h.Fits) (rest : Bytes) :
    decode (h.image ++ rest) =
      if h.version.toNat % 4 = 2 then .ok ({ h with version := formatVersion }, rest)
      else .error ⟨.invalidVersion (UInt8.ofNat (h.version.toNat % 4)), 1⟩ := by
  obtain ⟨hversion, hpadding, hextension, hsources⟩ := hfits.fields_imageFirst
  obtain ⟨hmarker, htype⟩ := hfits.fields_secondOctet
  have hread : UInt8.ofNat (h.version.toNat % 4) = formatVersion ↔ h.version.toNat % 4 = 2 := by
    rw [← UInt8.toNat_inj, UInt8.toNat_ofNat', Nat.mod_eq_of_lt (by omega)]
    rfl
  rw [image_append]
  simp only [Bytes.octets16, Bytes.octets32, List.cons_append, List.nil_append, decode]
  rw [hversion]
  by_cases hformat : h.version.toNat % 4 = 2
  · have hcsrc : decodeSources h.imageFirst
        (Bytes.octetsList h.csrc ++ (extensionOctets h.extension ++ rest)) =
        .ok (h.csrc, extensionOctets h.extension ++ rest) :=
      decodeSources_eq_ok_iff.mpr ⟨hsources.symm, rfl⟩
    have hdecode : decodeExtension h.imageFirst (extensionOctets h.extension ++ rest) =
        .ok (h.extension, rest) :=
      decodeExtension_eq_ok_iff.mpr ⟨hextension.symm, hfits.extension, rfl⟩
    rw [if_pos (hread.mpr hformat), if_pos hformat, hcsrc]
    simp only [hdecode, hread.mpr hformat, hpadding, hmarker, htype, Bytes.word16_octets,
      Bytes.word32_octets]
  · rw [if_neg (mt hread.mp hformat), if_neg hformat]

/-- What was read as a header is its image. -/
theorem eq_image_append_of_decode {b rest : Bytes} {h : Header}
    (hdecode : decode b = .ok (h, rest)) :
    h.version = formatVersion ∧ h.Fits ∧ b = h.image ++ rest := by
  unfold decode at hdecode
  split at hdecode
  · rename_i b0 b1 s1 s0 t3 t2 t1 t0 c3 c2 c1 c0 tail
    split at hdecode
    · rename_i hversion
      split at hdecode
      · cases hdecode
      · rename_i csrc tail' hcsrc
        split at hdecode
        · cases hdecode
        · rename_i x tail'' hx
          obtain ⟨hlength, rfl⟩ := decodeSources_eq_ok_iff.mp hcsrc
          obtain ⟨hsome, hwhole, rfl⟩ := decodeExtension_eq_ok_iff.mp hx
          simp only [Except.ok.injEq, Prod.mk.injEq] at hdecode
          obtain ⟨hh, rfl⟩ := hdecode
          have hfits : h.Fits := by
            have hsources : FirstOctet.sources b0 < 16 := Nat.mod_lt _ (by decide)
            have htype : (payloadTypeOf b1).toNat < 128 := by
              rw [payloadTypeOf, UInt8.toNat_ofNat']
              omega
            rw [← hh]
            exact ⟨by dsimp only; omega, by dsimp only; omega, hwhole⟩
          have hfirst : h.imageFirst = b0 := by
            apply hfits.imageFirst_eq <;> rw [← hh]
            · exact hsome
            · exact hlength
          have hsecond : h.secondOctet = b1 := by
            apply hfits.secondOctet_eq <;> rw [← hh]
          refine ⟨by rw [← hh]; exact hversion, hfits, ?_⟩
          rw [image_append, hfirst, hsecond, ← hh, Bytes.octets16_word, Bytes.octets32_word,
            Bytes.octets32_word]
          rfl
    · cases hdecode
  · cases hdecode

/-- Reading a header takes its image off the front of a datagram. -/
theorem decode_eq_ok_iff {b rest : Bytes} {h : Header} :
    decode b = .ok (h, rest) ↔
      h.version = formatVersion ∧ h.Fits ∧ b = h.image ++ rest := by
  constructor
  · exact eq_image_append_of_decode
  · intro h
    rcases h with ⟨hversion, hfits, rfl⟩
    have hformat : h.version.toNat % 4 = 2 := by
      rw [hversion]
      rfl
    rw [decode_image_append hfits, if_pos hformat, ← hversion]

end Header

end Rtp

end MediaTransport
