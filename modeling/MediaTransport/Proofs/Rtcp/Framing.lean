import MediaTransport.Proofs.Octets
import MediaTransport.Rtcp.Packet
import Mathlib.Data.List.Forall2

/-!
# Frames one after another

`IsFramed raw` says that an octet string is one frame: its length field counts it, its
version is 2, and its padding, if it has any, lies within the body. `Frame.ofOctets`
reads such a string by position. The reader of a datagram is then compared with the
division of the datagram into framed strings:

* `Frame.split_eq_ok_iff` takes one framed string off the front, whatever follows it;
* `Packet.decodeFrames_append` is one step of the reader over such a string;
* `Packet.decodeFrames_eq_ok_iff` is a whole run: the packets of a datagram are those
  of the framed strings it consists of, each read alone;
* `Packet.decodeAll_eq_ok_iff` adds that there is at least one.

What the writer makes of a frame is a framed string (`Frame.Fits.isFramed_octets`), so that
both directions meet here.
-/

namespace MediaTransport.Rtcp

/-- An octet string that is one frame, whatever its body holds. -/
structure IsFramed (raw : Bytes) : Prop where
  length_eq : raw.length = 4 * (Bytes.octet raw 2 * 256 + Bytes.octet raw 3 + 1)
  version : Bytes.octet raw 0 / 64 = 2
  padding : Bytes.hasPadding raw →
    4 < raw.length ∧ 1 ≤ Bytes.last raw ∧ Bytes.last raw ≤ raw.length - 4

namespace Frame

/-- What stands between the head of a frame and its padding. -/
def bodyOf (raw : Bytes) : Bytes :=
  if Bytes.hasPadding raw then (raw.drop 4).take (raw.length - 4 - Bytes.last raw)
  else raw.drop 4

/-- The frame that an octet string is. -/
def ofOctets (raw : Bytes) : Frame where
  packetType := raw.getD 1 0
  count := Bytes.octet raw 0 % 32
  body := bodyOf raw

theorem removePadding_eq_ok_iff {body rest : Bytes} :
    removePadding body = .ok rest ↔ Bytes.unpad? body = some rest := by
  rw [removePadding]
  cases Bytes.unpad? body <;> simp

theorem exists_cons_of_isFramed {raw : Bytes} (h : IsFramed raw) :
    ∃ first packetType n1 n0 body, raw = first :: packetType :: n1 :: n0 :: body ∧
      body.length = 4 * (Bytes.word16 n1 n0).toNat := by
  have hlength := h.length_eq
  obtain ⟨first, packetType, n1, n0, body, rfl⟩ :=
    Bytes.exists_cons_four (b := raw) (by omega)
  refine ⟨first, packetType, n1, n0, body, rfl, ?_⟩
  simp only [List.length_cons, Bytes.octet_cons_succ, Bytes.octet_cons_zero] at hlength
  rw [Bytes.word16_toNat]
  omega

/-- A framed string is taken off a datagram, whatever follows it. -/
theorem split_append {raw : Bytes} (h : IsFramed raw) (rest : Bytes) :
    split (raw ++ rest) = .ok (ofOctets raw, rest) := by
  obtain ⟨first, packetType, n1, n0, body, rfl, hlength⟩ := exists_cons_of_isFramed h
  have hversion : FirstOctet.version first = formatVersion :=
    FirstOctet.version_eq_iff.mpr h.version
  simp only [List.cons_append, split, hversion, if_true, ← hlength, Bytes.split?_append]
  have hflag : Bytes.hasPadding (first :: packetType :: n1 :: n0 :: body) =
    FirstOctet.padding first := rfl
  cases hpadding : FirstOctet.padding first with
  | false =>
      rw [if_neg (by simp), ofOctets, bodyOf, hflag, hpadding, if_neg (by simp)]
      rfl
  | true =>
      obtain ⟨hhead, hpos, hle⟩ := h.padding (hflag.trans hpadding)
      have hlast : Bytes.last body = Bytes.last (first :: packetType :: n1 :: n0 :: body) :=
        Bytes.last_drop (n := 4) hhead
      have hremove : removePadding body = .ok (body.take (body.length - Bytes.last body)) := by
        rw [removePadding_eq_ok_iff, Bytes.unpad?_eq_some_iff, hlast]
        exact ⟨hpos, hle, rfl⟩
      rw [if_pos rfl, hremove, ofOctets, bodyOf, hflag, hpadding, if_pos rfl, ← hlast]
      rfl

theorem isFramed_cons {first n1 n0 : UInt8} {body : Bytes} (packetType : UInt8)
    (hversion : FirstOctet.version first = formatVersion)
    (hlength : body.length = 4 * (Bytes.word16 n1 n0).toNat)
    (hpadding : FirstOctet.padding first → ∃ rest, removePadding body = .ok rest) :
    IsFramed (first :: packetType :: n1 :: n0 :: body) := by
  refine ⟨?_, FirstOctet.version_eq_iff.mp hversion, ?_⟩
  · rw [Bytes.word16_toNat] at hlength
    simp only [List.length_cons, Bytes.octet_cons_succ, Bytes.octet_cons_zero]
    omega
  · intro hflag
    obtain ⟨rest, hremove⟩ := hpadding hflag
    obtain ⟨hpos, hle, -⟩ := Bytes.unpad?_eq_some_iff.mp (removePadding_eq_ok_iff.mp hremove)
    have hhead : 4 < (first :: packetType :: n1 :: n0 :: body).length := by
      have hbody := Bytes.length_pos_of_last_pos hpos
      simp only [List.length_cons]
      omega
    have hlast : Bytes.last body = Bytes.last (first :: packetType :: n1 :: n0 :: body) :=
      Bytes.last_drop (n := 4) hhead
    rw [hlast] at hpos hle
    exact ⟨hhead, hpos, hle⟩

theorem exists_isFramed_of_split {d rest : Bytes} {f : Frame} (h : split d = .ok (f, rest)) :
    ∃ raw rest', IsFramed raw ∧ d = raw ++ rest' := by
  unfold split at h
  split at h
  · rename_i first packetType n1 n0 tail
    split at h
    · rename_i hversion
      dsimp only at h
      split at h
      · cases h
      · rename_i body tail' hsplit
        obtain ⟨rfl, hlength⟩ := Bytes.split?_eq_some_iff.mp hsplit
        refine ⟨_, tail', isFramed_cons packetType hversion hlength ?_, rfl⟩
        intro hflag
        rw [if_pos hflag] at h
        split at h
        · cases h
        · rename_i body' hremove
          exact ⟨body', hremove⟩
    · cases h
  · cases h

/-- Taking a frame off a datagram is taking a framed string off it. -/
theorem split_eq_ok_iff {d rest : Bytes} {f : Frame} :
    split d = .ok (f, rest) ↔ ∃ raw, IsFramed raw ∧ f = ofOctets raw ∧ d = raw ++ rest := by
  constructor
  · intro h
    obtain ⟨raw, rest', hraw, rfl⟩ := exists_isFramed_of_split h
    rw [split_append hraw] at h
    cases h
    exact ⟨raw, hraw, rfl, rfl⟩
  · intro h
    rcases h with ⟨raw, hraw, rfl, rfl⟩
    exact split_append hraw rest

end Frame

/-! ## Frames that are written -/

namespace Frame

/-- The parts of a frame that the wire format has room for. -/
structure Fits (f : Frame) : Prop where
  count_le : f.count ≤ 31
  length_le : (Bytes.padToWord f.body).length ≤ 262140

theorem fault?_eq_none_iff {f : Frame} : f.fault? = none ↔ f.Fits := by
  rw [fault?, countLimit, bodyLimit]
  split
  · rename_i hcount
    exact ⟨fun hsome => absurd hsome (by simp), fun hfits => absurd hfits.count_le (by omega)⟩
  · split
    · rename_i hlength
      exact ⟨fun hsome => absurd hsome (by simp),
        fun hfits => absurd hfits.length_le (by omega)⟩
    · exact ⟨fun _ => ⟨by omega, by omega⟩, fun _ => rfl⟩

theorem encode_eq_ok_iff {f : Frame} {d : Bytes} :
    f.encode = .ok d ↔ f.Fits ∧ d = f.octets := by
  rw [encode, ← fault?_eq_none_iff]
  cases f.fault? with
  | none => simp [eq_comm]
  | some fault => simp

theorem Fits.toNat_first {f : Frame} (hfits : f.Fits) :
    (UInt8.ofNat (128 + f.count)).toNat = 128 + f.count := by
  have hcount := hfits.count_le
  rw [UInt8.toNat_ofNat', Nat.mod_eq_of_lt (by omega)]

theorem Fits.hasPadding_octets {f : Frame} (hfits : f.Fits) :
    Bytes.hasPadding f.octets = false := by
  have hcount := hfits.count_le
  change decide ((UInt8.ofNat (128 + f.count)).toNat / 32 % 2 = 1) = false
  rw [hfits.toNat_first]
  simp only [decide_eq_false_iff_not]
  omega

/-- What is written for a frame is one frame. -/
theorem Fits.isFramed_octets {f : Frame} (hfits : f.Fits) : IsFramed f.octets := by
  have hcount := hfits.count_le
  have hlength := hfits.length_le
  have hwords := Bytes.length_padToWord f.body
  refine ⟨?_, ?_, ?_⟩
  · rw [octets]
    simp only [Bytes.octets16, List.cons_append, List.nil_append, List.length_cons,
      Bytes.octet_cons_succ, Bytes.octet_cons_zero, UInt8.toNat_ofNat', UInt16.toNat_ofNat']
    omega
  · change (UInt8.ofNat (128 + f.count)).toNat / 64 = 2
    rw [hfits.toNat_first]
    omega
  · intro hpadding
    rw [hfits.hasPadding_octets] at hpadding
    cases hpadding

/-- A written frame is read as itself, with its body brought to a whole number of
words. -/
theorem Fits.ofOctets_octets {f : Frame} (hfits : f.Fits) :
    ofOctets f.octets = { f with body := Bytes.padToWord f.body } := by
  have hcount := hfits.count_le
  have hbody : bodyOf f.octets = Bytes.padToWord f.body := by
    rw [bodyOf, hfits.hasPadding_octets, if_neg (by simp)]
    rfl
  have hitems : Bytes.octet f.octets 0 % 32 = f.count := by
    change (UInt8.ofNat (128 + f.count)).toNat % 32 = f.count
    rw [hfits.toNat_first]
    omega
  rw [ofOctets, hbody, hitems]
  rfl

end Frame

/-! ## Runs of the reader -/

namespace Packet

/-- The octet string is one frame, and the frame alone reads as the packet. -/
structure Reads (raw : Bytes) (p : Packet) : Prop where
  framed : IsFramed raw
  ofFrame_eq : ofFrame (Frame.ofOctets raw) = .ok p

theorem decodeFrames_nil : decodeFrames [] = .ok [] := by
  rw [decodeFrames, if_pos rfl]

/-- One step of the reader. -/
theorem decodeFrames_append {raw : Bytes} (h : IsFramed raw) (rest : Bytes) :
    decodeFrames (raw ++ rest) =
      match ofFrame (Frame.ofOctets raw) with
      | .error e => .error e
      | .ok p =>
          match decodeFrames rest with
          | .error e => .error e
          | .ok ps => .ok (p :: ps) := by
  have hne : raw ++ rest ≠ [] := by
    obtain ⟨first, packetType, n1, n0, body, rfl, -⟩ := Frame.exists_cons_of_isFramed h
    simp
  rw [decodeFrames, if_neg hne]
  split
  · rename_i e hsplit
    rw [Frame.split_append h] at hsplit
    cases hsplit
  · rename_i frame tail hsplit
    rw [Frame.split_append h] at hsplit
    cases hsplit
    rfl

/-- What one step of an accepted run has done. -/
theorem exists_step_of_decodeFrames {d : Bytes} {ps : List Packet} (h : decodeFrames d = .ok ps) :
    (d = [] ∧ ps = []) ∨
      ∃ raw rest p ps', Reads raw p ∧ d = raw ++ rest ∧ decodeFrames rest = .ok ps' ∧
        ps = p :: ps' := by
  by_cases hd : d = []
  · rw [hd, decodeFrames_nil] at h
    cases h
    exact Or.inl ⟨hd, rfl⟩
  · right
    rw [decodeFrames, if_neg hd] at h
    split at h
    · cases h
    · rename_i frame rest hsplit
      obtain ⟨raw, hraw, rfl, rfl⟩ := Frame.split_eq_ok_iff.mp hsplit
      split at h
      · cases h
      · rename_i p hp
        split at h
        · cases h
        · rename_i ps' hps
          cases h
          exact ⟨raw, rest, p, ps', ⟨hraw, hp⟩, rfl, hps, rfl⟩

/-- A run of the reader reads framed strings one by one, each by itself. -/
theorem decodeFrames_eq_ok_iff {d : Bytes} {ps : List Packet} :
    decodeFrames d = .ok ps ↔
      ∃ fs : List Bytes, d = fs.flatten ∧ List.Forall₂ Reads fs ps := by
  constructor
  · intro h
    -- The packets are as many as the steps of the run.
    induction ps generalizing d with
    | nil =>
        rcases exists_step_of_decodeFrames h with ⟨rfl, -⟩ | ⟨raw, rest, p, ps', -, -, -, hps⟩
        · exact ⟨[], rfl, List.Forall₂.nil⟩
        · cases hps
    | cons p ps ih =>
        rcases exists_step_of_decodeFrames h with
          ⟨-, hps⟩ | ⟨raw, rest, p', ps', hraw, rfl, hrest, hps⟩
        · cases hps
        · cases hps
          obtain ⟨fs, rfl, hfs⟩ := ih hrest
          exact ⟨raw :: fs, rfl, List.Forall₂.cons hraw hfs⟩
  · intro h
    rcases h with ⟨fs, rfl, hfs⟩
    induction hfs with
    | nil => exact decodeFrames_nil
    | cons hraw _ ih =>
        rw [List.flatten_cons, decodeFrames_append hraw.framed, hraw.ofFrame_eq]
        dsimp only
        rw [ih]

theorem four_mul_length_le_of_reads {fs : List Bytes} {ps : List Packet}
    (h : List.Forall₂ Reads fs ps) : 4 * fs.length ≤ fs.flatten.length := by
  induction h with
  | nil => simp
  | cons hraw _ ih =>
      have hlength := hraw.framed.length_eq
      rw [List.length_cons, List.flatten_cons, List.length_append]
      omega

/-- A datagram is read when it is a row of frames that are read, and not empty. -/
theorem decodeAll_eq_ok_iff {d : Bytes} {ps : List Packet} :
    decodeAll d = .ok ps ↔
      ∃ fs : List Bytes, fs ≠ [] ∧ d = fs.flatten ∧ List.Forall₂ Reads fs ps := by
  rw [decodeAll]
  constructor
  · intro h
    split at h
    · cases h
    · rename_i hd
      obtain ⟨fs, rfl, hfs⟩ := decodeFrames_eq_ok_iff.mp h
      refine ⟨fs, ?_, rfl, hfs⟩
      rintro rfl
      exact hd rfl
  · intro h
    rcases h with ⟨fs, hne, rfl, hfs⟩
    have hpos := List.length_pos_iff.mpr hne
    have hlength := four_mul_length_le_of_reads hfs
    have hd : fs.flatten ≠ [] := List.length_pos_iff.mp (by omega)
    rw [if_neg hd]
    exact decodeFrames_eq_ok_iff.mpr ⟨fs, rfl, hfs⟩

/-- What is written for packets is what is written for their frames, in order. -/
theorem encodeAll_eq_ok_iff {ps : List Packet} {d : Bytes} :
    encodeAll ps = .ok d ↔
      (∀ p ∈ ps, p.toFrame.Fits) ∧ d = (ps.map fun p => p.toFrame.octets).flatten := by
  induction ps generalizing d with
  | nil => simp [encodeAll, eq_comm]
  | cons p ps ih =>
      rw [encodeAll, encode, List.forall_mem_cons, List.map_cons, List.flatten_cons]
      constructor
      · intro h
        split at h
        · cases h
        · rename_i front hfront
          obtain ⟨hfits, rfl⟩ := Frame.encode_eq_ok_iff.mp hfront
          split at h
          · cases h
          · rename_i rest hrest
            obtain ⟨hall, rfl⟩ := ih.mp hrest
            cases h
            exact ⟨⟨hfits, hall⟩, rfl⟩
      · intro h
        rcases h with ⟨⟨hfits, hall⟩, rfl⟩
        rw [Frame.encode_eq_ok_iff.mpr ⟨hfits, rfl⟩]
        dsimp only
        rw [ih.mpr ⟨hall, rfl⟩]

end Packet

end MediaTransport.Rtcp
