import MediaTransport.Proofs.Rtp.Grammar

/-!
# Headers that are cut short

A header is read in four parts, and each part has to be there before it is read. `Header.Demands`
says in positions of the datagram which octets the reader asks for, and `Header.StopsAt` at which of
these demands it stops, unless the version stops it (`Header.decode_eq_error_iff`).

All that octets behind a datagram can do follows from two facts. A demand depends on octets in
front of it alone, so it stays when more octets follow (`Header.Demands.append`); and the demands of
one datagram do not overlap (`Header.Demands.disjoint`), so a reader that has got what it asked for
gets further.
-/

namespace MediaTransport.Rtp

open Layout

/-! ## Positions in front of more octets -/

namespace Layout

variable {d : Bytes}

theorem sourceCount_append (h : 0 < d.length) (more : Bytes) :
    sourceCount (d ++ more) = sourceCount d := by
  rw [sourceCount, Bytes.octet_append_left h, sourceCount]

theorem hasExtension_append (h : 0 < d.length) (more : Bytes) :
    hasExtension (d ++ more) = hasExtension d := by
  rw [hasExtension, Bytes.octet_append_left h, hasExtension]

theorem sourcesEnd_append (h : 0 < d.length) (more : Bytes) :
    sourcesEnd (d ++ more) = sourcesEnd d := by
  rw [sourcesEnd, sourceCount_append h, sourcesEnd]

theorem extensionLength_append (h : sourcesEnd d + 4 ≤ d.length) (more : Bytes) :
    extensionLength (d ++ more) = extensionLength d := by
  rw [extensionLength, sourcesEnd_append (by omega), Bytes.octet_append_left (by omega),
    Bytes.octet_append_left (by omega), extensionLength]

end Layout

namespace Header

/-- The reader has consumed so many octets of a datagram and asks for so many more. -/
inductive Demands (d : Bytes) : Nat → Nat → Prop
  | fixedPart : Demands d 0 12
  | sources (hversion : Bytes.octet d 0 / 64 = 2) (hfixed : 12 ≤ d.length) :
      Demands d 12 (4 * sourceCount d)
  | extensionHead (hversion : Bytes.octet d 0 / 64 = 2) (hextension : hasExtension d)
      (hsources : sourcesEnd d ≤ d.length) : Demands d (sourcesEnd d) 4
  | extensionData (hversion : Bytes.octet d 0 / 64 = 2) (hextension : hasExtension d)
      (hhead : sourcesEnd d + 4 ≤ d.length) : Demands d (sourcesEnd d + 4) (extensionLength d)

/-- Where the reader stops, and what it says then. -/
inductive StopsAt (d : Bytes) : Refusal → Prop
  | shortage {consumed required : Nat} (hdemand : Demands d consumed required)
      (hshort : d.length < consumed + required) :
      StopsAt d ⟨.bufferTooSmall required (d.length - consumed), consumed⟩
  | version (hfixed : 12 ≤ d.length) (hversion : Bytes.octet d 0 / 64 ≠ 2) :
      StopsAt d ⟨.invalidVersion (FirstOctet.version (d.getD 0 0)), 1⟩

namespace Demands

variable {d : Bytes} {consumed required consumed' required' : Nat}

theorem consumed_le (h : Demands d consumed required) : consumed ≤ d.length := by
  cases h with
  | fixedPart => exact Nat.zero_le _
  | sources _ hfixed => exact hfixed
  | extensionHead _ _ hsources => exact hsources
  | extensionData _ _ hhead => exact hhead

/-- What the reader asks for does not depend on what follows. -/
theorem append (h : Demands d consumed required) (more : Bytes) :
    Demands (d ++ more) consumed required := by
  have hle : d.length ≤ (d ++ more).length := by
    rw [List.length_append]
    exact Nat.le_add_right _ _
  have hversion (hpos : 0 < d.length) (hversion : Bytes.octet d 0 / 64 = 2) :
      Bytes.octet (d ++ more) 0 / 64 = 2 := by
    rw [Bytes.octet_append_left hpos]
    exact hversion
  cases h with
  | fixedPart => exact .fixedPart
  | sources hformat hfixed =>
      have hpos : 0 < d.length := by omega
      rw [← sourceCount_append hpos more]
      exact .sources (hversion hpos hformat) (Nat.le_trans hfixed hle)
  | extensionHead hformat hextension hsources =>
      have hpos : 0 < d.length := by
        rw [sourcesEnd] at hsources
        omega
      rw [← sourcesEnd_append hpos more] at hsources ⊢
      rw [← hasExtension_append hpos more] at hextension
      exact .extensionHead (hversion hpos hformat) hextension (Nat.le_trans hsources hle)
  | extensionData hformat hextension hhead =>
      have hpos : 0 < d.length := by omega
      rw [← extensionLength_append hhead more]
      rw [← sourcesEnd_append hpos more] at hhead ⊢
      rw [← hasExtension_append hpos more] at hextension
      exact .extensionData (hversion hpos hformat) hextension (Nat.le_trans hhead hle)

/-- Of two demands, one begins behind the other. -/
theorem disjoint (h : Demands d consumed required) (h' : Demands d consumed' required') :
    consumed + required ≤ consumed' ∨ consumed' + required' ≤ consumed ∨
      consumed = consumed' ∧ required = required' := by
  have hend : sourcesEnd d = 12 + 4 * sourceCount d := rfl
  cases h <;> cases h' <;> omega

end Demands

/-! ## The reader stops there -/

theorem decodeSources_of_lt {first : UInt8} {b : Bytes}
    (h : b.length < 4 * FirstOctet.sources first) :
    decodeSources first b =
      .error ⟨.bufferTooSmall (4 * FirstOctet.sources first) b.length, fixedSize⟩ := by
  rw [decodeSources, Bytes.split?_eq_none_iff.mpr h]

end Header

theorem Extension.decode_of_lt_four {b : Bytes} (offset : Nat) (h : b.length < 4) :
    decode offset b = .error ⟨.bufferTooSmall 4 b.length, offset⟩ := by
  unfold decode
  split
  · simp only [List.length_cons] at h
    omega
  · rfl

theorem Extension.decode_of_lt {b : Bytes} (offset : Nat) (hhead : 4 ≤ b.length)
    (h : b.length < 4 + 4 * (Bytes.octet b 2 * 256 + Bytes.octet b 3)) :
    decode offset b =
      .error ⟨.bufferTooSmall (4 * (Bytes.octet b 2 * 256 + Bytes.octet b 3)) (b.length - 4),
        offset + 4⟩ := by
  obtain ⟨p1, p0, n1, n0, rest, rfl⟩ := Bytes.exists_cons_four hhead
  simp only [List.length_cons, Bytes.octet_cons_succ, Bytes.octet_cons_zero,
    ← Bytes.word16_toNat] at h ⊢
  have hsplit : Bytes.split? (4 * (Bytes.word16 n1 n0).toNat) rest = none :=
    Bytes.split?_eq_none_iff.mpr (by omega)
  simp only [decode, hsplit]
  rfl

namespace Header

variable {d : Bytes} {r : Refusal}

theorem decodeExtension_of_error {first : UInt8} {b : Bytes}
    (hextension : FirstOctet.extension first = true)
    (h : Extension.decode (fixedSize + 4 * FirstOctet.sources first) b = .error r) :
    decodeExtension first b = .error r := by
  rw [decodeExtension, if_pos hextension, h]

/-- Behind the fixed part, the sources decide. -/
theorem decode_of_decodeSources_error (hfixed : 12 ≤ d.length)
    (hversion : Bytes.octet d 0 / 64 = 2)
    (h : decodeSources (d.getD 0 0) (d.drop 12) = .error r) : decode d = .error r := by
  obtain ⟨b0, b1, s1, s0, t3, t2, t1, t0, c3, c2, c1, c0, tail, rfl, -⟩ :=
    Bytes.exists_cons_twelve hfixed
  have hsources : decodeSources b0 tail = .error r := h
  have hformat : FirstOctet.version b0 = formatVersion := FirstOctet.version_eq_iff.mpr hversion
  simp only [decode, hformat, if_true, hsources]

/-- Behind the sources, the extension decides. -/
theorem decode_of_decodeExtension_error (hversion : Bytes.octet d 0 / 64 = 2)
    (hsources : sourcesEnd d ≤ d.length)
    (h : decodeExtension (d.getD 0 0) (d.drop (sourcesEnd d)) = .error r) :
    decode d = .error r := by
  have hfixed : 12 ≤ d.length := by
    rw [sourcesEnd] at hsources
    omega
  obtain ⟨b0, b1, s1, s0, t3, t2, t1, t0, c3, c2, c1, c0, tail, rfl, hlength⟩ :=
    Bytes.exists_cons_twelve hfixed
  have hle : 12 + 4 * FirstOctet.sources b0 ≤ _ := hsources
  have hroom : 4 * FirstOctet.sources b0 ≤ tail.length := by
    omega
  obtain ⟨csrc, hcsrc⟩ := exists_decodeSources hroom
  have hrest : tail.drop (4 * FirstOctet.sources b0) =
      (b0 :: b1 :: s1 :: s0 :: t3 :: t2 :: t1 :: t0 :: c3 :: c2 :: c1 :: c0 :: tail).drop
        (12 + 4 * FirstOctet.sources b0) := by
    rw [← List.drop_drop]
    rfl
  have hextension : decodeExtension b0 (tail.drop (4 * FirstOctet.sources b0)) = .error r := by
    rw [hrest]
    exact h
  have hformat : FirstOctet.version b0 = formatVersion := FirstOctet.version_eq_iff.mpr hversion
  simp only [decode, hformat, if_true, hcsrc, hextension]

theorem decode_of_demands {consumed required : Nat} (h : Demands d consumed required)
    (hshort : d.length < consumed + required) :
    decode d = .error ⟨.bufferTooSmall required (d.length - consumed), consumed⟩ := by
  cases h with
  | fixedPart =>
      unfold decode
      split
      · simp only [List.length_cons] at hshort
        omega
      · rfl
  | sources hversion hfixed =>
      have hless : (d.drop 12).length < 4 * FirstOctet.sources (d.getD 0 0) := by
        change d.length < 12 + 4 * FirstOctet.sources (d.getD 0 0) at hshort
        rw [List.length_drop]
        omega
      refine decode_of_decodeSources_error hfixed hversion ?_
      rw [decodeSources_of_lt hless, List.length_drop]
      rfl
  | extensionHead hversion hextension hsources =>
      refine decode_of_decodeExtension_error hversion hsources
        (decodeExtension_of_error hextension ?_)
      rw [Extension.decode_of_lt_four _ (by rw [List.length_drop]; omega), List.length_drop]
      rfl
  | extensionData hversion hextension hhead =>
      have hlength : extensionLength d =
          4 * (Bytes.octet (d.drop (sourcesEnd d)) 2 * 256 +
            Bytes.octet (d.drop (sourcesEnd d)) 3) := by
        rw [Bytes.octet_drop, Bytes.octet_drop, extensionLength]
      refine decode_of_decodeExtension_error hversion (by omega)
        (decodeExtension_of_error hextension ?_)
      rw [Extension.decode_of_lt, ← hlength, List.length_drop, Nat.sub_sub]
      · rfl
      · rw [List.length_drop]
        omega
      · rw [← hlength, List.length_drop]
        omega

theorem decode_of_stopsAt (h : StopsAt d r) : decode d = .error r := by
  cases h with
  | shortage hdemand hshort => exact decode_of_demands hdemand hshort
  | version hfixed hversion =>
      obtain ⟨b0, b1, s1, s0, t3, t2, t1, t0, c3, c2, c1, c0, tail, rfl, -⟩ :=
        Bytes.exists_cons_twelve hfixed
      exact if_neg (mt FirstOctet.version_eq_iff.mp hversion)

/-- The reader stops where a datagram is no header. -/
theorem exists_stopsAt_of_not_isHeader (h : ¬IsHeader d) : ∃ r, StopsAt d r := by
  by_cases hfixed : 12 ≤ d.length
  case neg => exact ⟨_, .shortage .fixedPart (by omega)⟩
  by_cases hversion : Bytes.octet d 0 / 64 = 2
  case neg => exact ⟨_, .version hfixed hversion⟩
  by_cases hsources : sourcesEnd d ≤ d.length
  case neg => exact ⟨_, .shortage (.sources hversion hfixed) (Nat.lt_of_not_le hsources)⟩
  by_cases hextension : hasExtension d
  case neg =>
    exact absurd ⟨hfixed, hversion, hsources, fun hx => absurd hx hextension,
      fun hx => absurd hx hextension⟩ h
  by_cases hhead : sourcesEnd d + 4 ≤ d.length
  case neg =>
    exact ⟨_, .shortage (.extensionHead hversion hextension hsources) (Nat.lt_of_not_le hhead)⟩
  by_cases hdata : sourcesEnd d + 4 + extensionLength d ≤ d.length
  case neg =>
    exact ⟨_, .shortage (.extensionData hversion hextension hhead) (Nat.lt_of_not_le hdata)⟩
  exact absurd ⟨hfixed, hversion, hsources, fun _ => hhead, fun _ => hdata⟩ h

/-- The reader refuses a datagram exactly where it stops. -/
theorem decode_eq_error_iff : decode d = .error r ↔ StopsAt d r := by
  refine ⟨fun hdecode => ?_, decode_of_stopsAt⟩
  have hheader : ¬IsHeader d := by
    intro hd
    obtain ⟨h, rest, hok⟩ := hd.exists_decode
    rw [hdecode] at hok
    cases hok
  obtain ⟨r', hr'⟩ := exists_stopsAt_of_not_isHeader hheader
  rw [decode_of_stopsAt hr'] at hdecode
  cases hdecode
  exact hr'

/-! ## More octets -/

namespace StopsAt

variable {required available consumed : Nat}

theorem shortage_iff : StopsAt d ⟨.bufferTooSmall required available, consumed⟩ ↔
    Demands d consumed required ∧ available < required ∧ consumed + available = d.length := by
  constructor
  · intro h
    cases h with
    | shortage hdemand hshort =>
        have hle := hdemand.consumed_le
        exact ⟨hdemand, by omega, by omega⟩
  · intro h
    obtain ⟨hdemand, hless, hlength⟩ := h
    obtain rfl : available = d.length - consumed := by omega
    exact .shortage hdemand (by omega)

/-- A shortage stays the same shortage while it lasts. -/
theorem append_of_lt (h : StopsAt d ⟨.bufferTooSmall required available, consumed⟩)
    {more : Bytes} (hmore : more.length < required - available) :
    StopsAt (d ++ more) ⟨.bufferTooSmall required (available + more.length), consumed⟩ := by
  obtain ⟨hdemand, -, hlength⟩ := shortage_iff.mp h
  refine shortage_iff.mpr ⟨hdemand.append more, by omega, ?_⟩
  rw [List.length_append]
  omega

/-- A reader that has got what it asked for stops further on, if it stops. -/
theorem consumed_lt (h : StopsAt d ⟨.bufferTooSmall required available, consumed⟩)
    {more : Bytes} (hmore : required - available ≤ more.length) (hr : StopsAt (d ++ more) r) :
    consumed < r.consumed := by
  obtain ⟨hdemand, hless, hlength⟩ := shortage_iff.mp h
  have hall : (d ++ more).length = d.length + more.length := List.length_append
  cases hr with
  | shortage hdemand' hshort =>
      have hle := hdemand'.consumed_le
      have hle' := (hdemand.append more).consumed_le
      have hdisjoint := (hdemand.append more).disjoint hdemand'
      dsimp only
      omega
  | version hfixed hversion =>
      have hdemand := hdemand.append more
      cases hdemand with
      | fixedPart => exact Nat.zero_lt_one
      | sources hformat _ => exact absurd hformat hversion
      | extensionHead hformat _ _ => exact absurd hformat hversion
      | extensionData hformat _ _ => exact absurd hformat hversion

/-- A version is read from the first octet, whatever follows. -/
theorem version_append {version : UInt8}
    (h : StopsAt d ⟨.invalidVersion version, consumed⟩) (more : Bytes) :
    consumed = 1 ∧ StopsAt (d ++ more) ⟨.invalidVersion version, consumed⟩ := by
  cases h with
  | version hfixed hversion =>
      have hpos : 0 < d.length := by omega
      have hfirst : (d ++ more).getD 0 0 = d.getD 0 0 := by
        rw [List.getD_eq_getElem?_getD, List.getElem?_append_left hpos,
          List.getD_eq_getElem?_getD]
      refine ⟨rfl, ?_⟩
      rw [← hfirst]
      refine .version ?_ ?_
      · rw [List.length_append]
        exact Nat.le_add_right_of_le hfixed
      · rw [Bytes.octet_append_left hpos]
        exact hversion

end StopsAt

variable {h : Header} {rest : Bytes}

theorem decode_append_of_ok (hdecode : decode d = .ok (h, rest)) (more : Bytes) :
    decode (d ++ more) = .ok (h, rest ++ more) := by
  obtain ⟨hversion, hfits, rfl⟩ := decode_eq_ok_iff.mp hdecode
  exact decode_eq_ok_iff.mpr ⟨hversion, hfits, List.append_assoc _ _ _⟩

theorem length_and_drop_of_decode (hdecode : decode d = .ok (h, rest)) :
    d.length = h.size + rest.length ∧ d.drop h.size = rest := by
  obtain ⟨-, -, rfl⟩ := decode_eq_ok_iff.mp hdecode
  rw [List.length_append, length_image, ← length_image, List.drop_left]
  exact ⟨rfl, rfl⟩

/-- A header without its end is too short, wherever it ends. -/
theorem exists_shortage_of_take (hdecode : decode d = .ok (h, rest)) {n : Nat}
    (hn : n < h.size) :
    ∃ required available consumed,
      decode (d.take n) = .error ⟨.bufferTooSmall required available, consumed⟩ := by
  cases hcut : decode (d.take n) with
  | ok result =>
      -- The rest of the datagram would not change what has been read.
      obtain ⟨h', rest'⟩ := result
      have hwhole := decode_append_of_ok hcut (d.drop n)
      rw [List.take_append_drop, hdecode] at hwhole
      cases hwhole
      have hlength := (length_and_drop_of_decode hcut).1
      rw [List.length_take] at hlength
      omega
  | error r =>
      have hstops := decode_eq_error_iff.mp hcut
      cases hstops with
      | shortage _ _ => exact ⟨_, _, _, rfl⟩
      | version hfixed hversion =>
          have hwhole := ((StopsAt.version hfixed hversion).version_append (d.drop n)).2
          rw [List.take_append_drop, ← decode_eq_error_iff, hdecode] at hwhole
          cases hwhole

/-- A header is read the same way whatever follows it, and its octets are exactly what is
consumed; with fewer of them the reader says that it is too short. A reader that is too short of
octets has consumed all others, goes on asking for the same as long as it has not got them, and
stops only further on when it has. A wrong version is found in the first octet, and stays wrong. -/
theorem decode_append_and_decode_take (d : Bytes) :
    (∀ h rest, decode d = .ok (h, rest) →
      d.length = h.size + rest.length ∧ d.drop h.size = rest ∧
      (∀ more, decode (d ++ more) = .ok (h, rest ++ more)) ∧
      ∀ n < h.size, ∃ required available consumed,
        decode (d.take n) = .error ⟨.bufferTooSmall required available, consumed⟩) ∧
    (∀ required available consumed,
      decode d = .error ⟨.bufferTooSmall required available, consumed⟩ →
      available < required ∧ consumed + available = d.length ∧
      (∀ more : Bytes, more.length < required - available →
        decode (d ++ more) =
          .error ⟨.bufferTooSmall required (available + more.length), consumed⟩) ∧
      ∀ more : Bytes, required - available ≤ more.length →
        ∀ r, decode (d ++ more) = .error r → consumed < r.consumed) ∧
    ∀ version consumed, decode d = .error ⟨.invalidVersion version, consumed⟩ →
      consumed = 1 ∧
        ∀ more, decode (d ++ more) = .error ⟨.invalidVersion version, consumed⟩ := by
  refine ⟨?_, ?_, ?_⟩
  · intro h rest hdecode
    obtain ⟨hlength, hdrop⟩ := length_and_drop_of_decode hdecode
    exact ⟨hlength, hdrop, decode_append_of_ok hdecode,
      fun n hn => exists_shortage_of_take hdecode hn⟩
  · intro required available consumed hdecode
    have hstops := decode_eq_error_iff.mp hdecode
    obtain ⟨-, hless, hlength⟩ := StopsAt.shortage_iff.mp hstops
    refine ⟨hless, hlength, ?_, ?_⟩
    · intro more hmore
      exact decode_of_stopsAt (hstops.append_of_lt hmore)
    · intro more hmore r hr
      exact hstops.consumed_lt hmore (decode_eq_error_iff.mp hr)
  · intro version consumed hdecode
    have hstops := decode_eq_error_iff.mp hdecode
    exact ⟨(hstops.version_append []).1,
      fun more => decode_of_stopsAt (hstops.version_append more).2⟩

/-- A header with a contributing source and an extension of one word. -/
def extendedHeader : Bytes :=
  [0x91, 0, 0, 7, 0, 0, 0, 0, 0, 0, 0, 1, 0, 0, 0, 9, 0xBE, 0xDE, 0, 1, 1, 2, 3, 4]

/-- A header of another version. -/
def foreignHeader : Bytes :=
  [0x40, 0, 0, 7, 0, 0, 0, 0, 0, 0, 0, 1]

theorem decode_append_and_decode_take_extendedHeader :
    (∀ more, ∃ h, h.size = 24 ∧ decode (extendedHeader ++ more) = .ok (h, more)) ∧
      decode (extendedHeader.take 18 ++ [0]) = .error ⟨.bufferTooSmall 4 3, 16⟩ ∧
      (∀ r, decode (extendedHeader.take 18 ++ [0, 1]) = .error r → 16 < r.consumed) ∧
      ∀ more, decode (foreignHeader ++ more) = .error ⟨.invalidVersion 1, 1⟩ := by
  have hdecode : ∃ h, decode extendedHeader = .ok (h, []) ∧ h.size = 24 := ⟨_, rfl, rfl⟩
  obtain ⟨h, hdecode, hsize⟩ := hdecode
  have hwhole := (decode_append_and_decode_take extendedHeader).1 h [] hdecode
  have hshort := (decode_append_and_decode_take (extendedHeader.take 18)).2.1 4 2 16 rfl
  have hforeign := (decode_append_and_decode_take foreignHeader).2.2 1 1 rfl
  exact ⟨fun more => ⟨h, hsize, hwhole.2.2.1 more⟩, hshort.2.2.1 [0] (by decide),
    hshort.2.2.2 [0, 1] (by decide), hforeign.2⟩

end Header

end MediaTransport.Rtp
