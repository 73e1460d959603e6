import MediaTransport.Proofs.Rtcp.Grammar
import MediaTransport.Proofs.Rtcp.Sizes
import MediaTransport.Proofs.Text.Utf8

/-!
# Forwarding control packets

What has been read can be written again: a packet that comes from a datagram has room for all
of its parts (`Packet.Reads.fits`). It is then read as its normal form, and most packets are
their normal form already. A cumulative loss that was read has 24 bits, so reports come back as
they are. Two things can change. A body that is not looked into and is no whole number of words,
as padding can leave it, gets zeros; and a reason that needs more octets as text than it had on
the wire can be too long, and is cut. `Packet.IsKept` says exactly when neither happens.

Normal forms are kept. So packets that were written and read settle after one hop, whatever was
written at first (`Packet.exists_encodeAll_of_encodeAll`).
-/

namespace MediaTransport.Rtcp

theorem exists_of_map_eq_ok {α β : Type} {x : Except WireError α} {f : α → β} {b : β}
    (h : x.map f = .ok b) : ∃ a, x = .ok a ∧ b = f a := by
  cases x with
  | error e => cases h
  | ok a =>
      cases h
      exact ⟨a, rfl, rfl⟩

/-! ## Blocks and bodies that were read -/

namespace ReportBlock

theorem normalForm_of_decode {b rest : Bytes} {block : ReportBlock}
    (h : decode b = .ok (block, rest)) : block.normalForm = block := by
  have hloss : block.cumulativeLost.toNat ≤ 0xFFFFFF := by
    unfold decode at h
    split at h
    · rename_i s3 s2 s1 s0 fraction l2 l1 l0 h3 h2 h1 h0 j3 j2 j1 j0 r3 r2 r1 r0 d3 d2 d1 d0 rest'
      cases h
      have h2 : l2.toNat < 256 := l2.toNat_lt
      have h1 : l1.toNat < 256 := l1.toNat_lt
      have h0 : l0.toNat < 256 := l0.toNat_lt
      change (Bytes.word32 0 l2 l1 l0).toNat ≤ _
      rw [Bytes.word32, UInt32.toNat_ofNat', UInt8.toNat_zero]
      omega
    · cases h
  rw [normalForm, Nat.min_eq_left hloss, UInt32.ofNat_toNat]

theorem of_decodeMany {n : Nat} {b rest : Bytes} {blocks : List ReportBlock}
    (h : decodeMany n b = .ok (blocks, rest)) :
    blocks.length = n ∧ blocks.map normalForm = blocks := by
  induction n generalizing b blocks with
  | zero =>
      cases h
      exact ⟨rfl, rfl⟩
  | succ n ih =>
      rw [decodeMany] at h
      split at h
      · cases h
      · rename_i block rest' hblock
        split at h
        · cases h
        · rename_i blocks' rest'' hblocks
          cases h
          obtain ⟨hlength, hmap⟩ := ih hblocks
          rw [List.length_cons, hlength, List.map_cons, hmap, normalForm_of_decode hblock]
          exact ⟨rfl, rfl⟩

end ReportBlock

theorem SenderReport.of_decodeBody {count : Nat} {b : Bytes} {r : SenderReport}
    (h : decodeBody count b = .ok r) :
    r.blocks.length = count ∧ r.blocks.map ReportBlock.normalForm = r.blocks := by
  unfold decodeBody at h
  split at h
  · split at h
    · cases h
    · rename_i blocks rest hblocks
      cases h
      exact ReportBlock.of_decodeMany hblocks
  · cases h

theorem ReceiverReport.of_decodeBody {count : Nat} {b : Bytes} {r : ReceiverReport}
    (h : decodeBody count b = .ok r) :
    r.blocks.length = count ∧ r.blocks.map ReportBlock.normalForm = r.blocks := by
  unfold decodeBody at h
  split at h
  · split at h
    · cases h
    · rename_i blocks rest hblocks
      cases h
      exact ReportBlock.of_decodeMany hblocks
  · cases h

namespace Goodbye

theorem length_sources_of_decodeBody {count : Nat} {b : Bytes} {g : Goodbye}
    (h : decodeBody count b = .ok g) : g.sources.length = count := by
  rw [decodeBody] at h
  split at h
  · cases h
  · rename_i sources rest hsplit
    split at h
    · cases h
    · cases h
      rw [Bytes.length_words, (Bytes.split?_eq_some_iff.mp hsplit).2,
        Nat.mul_div_cancel_left count (by decide)]

/-! ## Reasons -/

/-- The reason is sent whole, or all that is cut off is the end of a last U+FFFD. -/
def IsKept (reason : String) : Prop :=
  reason.utf8ByteSize ≤ 255 ∨
    reason.utf8ByteSize ≤ 257 ∧ reason.toList.getLast? = some Utf8.replacement

theorem clipped_eq (reason : String) :
    clipped reason =
      String.ofList (Utf8.decodeLossy ((Utf8.encode reason.toList).take 255)) := by
  rw [clipped, ← reasonOctets_eq]
  rfl

theorem clipped_eq_iff {reason : String} : clipped reason = reason ↔ IsKept reason := by
  rw [clipped_eq, ← String.toList_inj, String.toList_ofList, Utf8.decodeLossy_take_encode_eq_iff,
    Utf8.length_encode_toList]
  rfl

/-- What a reason is cut to is kept. -/
theorem isKept_clipped (reason : String) : IsKept (clipped reason) := by
  rw [IsKept, ← Utf8.length_encode_toList, clipped_eq, String.toList_ofList]
  by_cases hlength : (Utf8.encode reason.toList).length ≤ 255
  · rw [List.take_of_length_le hlength, Utf8.decodeLossy_encode]
    exact Or.inl hlength
  · obtain ⟨front, c, rest, -, hle, -, hread⟩ :=
      Utf8.decodeLossy_take_encode (Nat.lt_of_not_le hlength)
    rw [hread]
    split
    · rw [List.append_nil]
      exact Or.inl hle
    · rename_i hcut
      right
      refine ⟨?_, List.getLast?_concat⟩
      rw [Utf8.encode_append, List.length_append]
      change (Utf8.encode front).length + 3 ≤ 257
      omega

end Goodbye

/-! ## Packets that were read -/

namespace Frame

theorem count_ofOctets_le (raw : Bytes) : (ofOctets raw).count ≤ 31 := by
  change Bytes.octet raw 0 % 32 ≤ 31
  omega

theorem length_body_ofOctets_le {raw : Bytes} (h : IsFramed raw) :
    (ofOctets raw).body.length ≤ 262140 := by
  have hlength := h.length_eq
  have hhigh : Bytes.octet raw 2 < 256 := UInt8.toNat_lt _
  have hlow : Bytes.octet raw 3 < 256 := UInt8.toNat_lt _
  have hbody : (bodyOf raw).length ≤ raw.length - 4 := by
    rw [bodyOf]
    split
    · rw [List.length_take, List.length_drop]
      omega
    · rw [List.length_drop]
  rw [ofOctets]
  dsimp only
  omega

end Frame

namespace Packet

/-- The packet is what it is read back as. -/
def IsKept : Packet → Prop
  | .senderReport _ => True
  | .receiverReport _ => True
  | .goodbye g => ∀ reason, g.reason = some reason → Goodbye.IsKept reason
  | .other f => f.body.length % 4 = 0

theorem ofFrame_cases {f : Frame} {p : Packet} (h : ofFrame f = .ok p) :
    (∃ r, SenderReport.decodeBody f.count f.body = .ok r ∧ p = .senderReport r) ∨
    (∃ r, ReceiverReport.decodeBody f.count f.body = .ok r ∧ p = .receiverReport r) ∨
    (∃ g, Goodbye.decodeBody f.count f.body = .ok g ∧ p = .goodbye g) ∨
    (p = .other f ∧ f.packetType ≠ 200 ∧ f.packetType ≠ 201 ∧ f.packetType ≠ 203) := by
  rw [ofFrame] at h
  split at h
  · exact Or.inl (exists_of_map_eq_ok h)
  · rename_i hsender
    split at h
    · exact Or.inr (Or.inl (exists_of_map_eq_ok h))
    · rename_i hreceiver
      split at h
      · exact Or.inr (Or.inr (Or.inl (exists_of_map_eq_ok h)))
      · rename_i hgoodbye
        cases h
        exact Or.inr (Or.inr (Or.inr ⟨rfl, hsender, hreceiver, hgoodbye⟩))

namespace Reads

variable {raw : Bytes} {p : Packet}

/-- A packet that was read can be written. -/
theorem fits (h : Reads raw p) : p.toFrame.Fits := by
  have hcount := Frame.count_ofOctets_le raw
  rcases ofFrame_cases h.ofFrame_eq with ⟨r, hr, rfl⟩ | ⟨r, hr, rfl⟩ | ⟨g, hg, rfl⟩ | ⟨rfl, -⟩
  · have hblocks := (SenderReport.of_decodeBody hr).1
    exact fits_of_count_le (Nat.le_trans (Nat.le_of_eq hblocks) hcount) nofun
  · have hblocks := (ReceiverReport.of_decodeBody hr).1
    exact fits_of_count_le (Nat.le_trans (Nat.le_of_eq hblocks) hcount) nofun
  · have hsources := Goodbye.length_sources_of_decodeBody hg
    exact fits_of_count_le (Nat.le_trans (Nat.le_of_eq hsources) hcount) nofun
  · refine fits_of_count_le hcount ?_
    rintro f ⟨⟩
    exact Frame.length_body_ofOctets_le h.framed

theorem packetType_ne (h : Reads raw p) {f : Frame} (hp : p = .other f) :
    f.packetType ≠ 200 ∧ f.packetType ≠ 201 ∧ f.packetType ≠ 203 := by
  rcases ofFrame_cases h.ofFrame_eq with
    ⟨r, -, rfl⟩ | ⟨r, -, rfl⟩ | ⟨g, -, rfl⟩ | ⟨rfl, htypes⟩
  · cases hp
  · cases hp
  · cases hp
  · cases hp
    exact htypes

theorem normalForm_eq_iff (h : Reads raw p) : p.normalForm = p ↔ p.IsKept := by
  rcases ofFrame_cases h.ofFrame_eq with
    ⟨r, hr, rfl⟩ | ⟨r, hr, rfl⟩ | ⟨g, -, rfl⟩ | ⟨rfl, -⟩
  · rw [normalForm, (SenderReport.of_decodeBody hr).2]
    exact iff_of_true rfl trivial
  · rw [normalForm, (ReceiverReport.of_decodeBody hr).2]
    exact iff_of_true rfl trivial
  · obtain ⟨sources, reason⟩ := g
    rw [normalForm, IsKept, Packet.goodbye.injEq, Goodbye.mk.injEq, and_iff_right rfl]
    cases reason with
    | none => exact iff_of_true rfl fun reason h => absurd h.symm (Option.some_ne_none reason)
    | some reason =>
        simp only [Option.map_some, Option.some.injEq, Goodbye.clipped_eq_iff, forall_eq']
  · rw [normalForm, IsKept, ← Bytes.padToWord_eq, Packet.other.injEq]
    constructor
    · intro hpad
      have hlength := congrArg (fun f => f.body.length) hpad
      rw [Bytes.length_padToWord] at hlength
      omega
    · intro hwhole
      rw [Bytes.padToWord_of_whole hwhole]

end Reads

/-- What has come back once is kept from then on. -/
theorem isKept_normalForm (p : Packet) : p.normalForm.IsKept := by
  cases p with
  | senderReport r => exact trivial
  | receiverReport r => exact trivial
  | goodbye g =>
      intro reason hreason
      obtain ⟨first, -, rfl⟩ := Option.map_eq_some_iff.mp hreason
      exact Goodbye.isKept_clipped first
  | other f =>
      rw [normalForm, IsKept, ← Bytes.padToWord_eq, Bytes.length_padToWord]
      exact Nat.mul_mod_left _ 4

/-! ## Datagrams -/

section

variable {fs : List Bytes} {ps : List Packet}

theorem exists_reads_of_mem (h : List.Forall₂ Reads fs ps) : ∀ p ∈ ps, ∃ raw, Reads raw p := by
  induction h with
  | nil => exact List.forall_mem_nil _
  | cons hraw _ ih => exact List.forall_mem_cons.mpr ⟨⟨_, hraw⟩, ih⟩

theorem encodeAll_of_reads (h : List.Forall₂ Reads fs ps) :
    encodeAll ps = .ok (ps.map fun p => p.toFrame.octets).flatten := by
  refine encodeAll_eq_ok_iff.mpr ⟨?_, rfl⟩
  intro p hp
  obtain ⟨raw, hraw⟩ := exists_reads_of_mem h p hp
  exact hraw.fits

theorem decodeAll_octets_of_reads (hne : fs ≠ []) (h : List.Forall₂ Reads fs ps) :
    decodeAll (ps.map fun p => p.toFrame.octets).flatten = .ok (ps.map normalForm) := by
  refine decodeAll_of_encodeAll ?_ ?_ (encodeAll_of_reads h)
  · rw [← List.length_pos_iff, ← h.length_eq, List.length_pos_iff]
    exact hne
  · intro f hf
    obtain ⟨raw, hraw⟩ := exists_reads_of_mem h _ hf
    exact hraw.packetType_ne rfl

theorem map_normalForm_eq_iff (h : List.Forall₂ Reads fs ps) :
    ps.map normalForm = ps ↔ ∀ p ∈ ps, p.IsKept := by
  calc
    ps.map normalForm = ps ↔ ps.map normalForm = ps.map id := by rw [List.map_id]
    _ ↔ ∀ p ∈ ps, p.normalForm = p := List.map_inj_left
    _ ↔ ∀ p ∈ ps, p.IsKept := by
      refine forall₂_congr ?_
      intro p hp
      obtain ⟨raw, hraw⟩ := exists_reads_of_mem h p hp
      exact hraw.normalForm_eq_iff

end

/-- What a datagram has been read as can be written, and comes back in its normal form. It comes
back as it was if this changes no packet of it, and always when it is forwarded once more. -/
theorem exists_encodeAll_of_decodeAll {d : Bytes} {ps : List Packet} (h : decodeAll d = .ok ps) :
    ∃ d', encodeAll ps = .ok d' ∧ decodeAll d' = .ok (ps.map normalForm) ∧
      (decodeAll d' = .ok ps ↔ ∀ p ∈ ps, p.IsKept) ∧
      ∀ p ∈ ps.map normalForm, p.IsKept := by
  obtain ⟨fs, hne, -, hfs⟩ := decodeAll_eq_ok_iff.mp h
  have hdecode := decodeAll_octets_of_reads hne hfs
  refine ⟨_, encodeAll_of_reads hfs, hdecode, ?_, ?_⟩
  · rw [hdecode, Except.ok.injEq, map_normalForm_eq_iff hfs]
  · rw [List.forall_mem_map]
    intro p _
    exact p.isKept_normalForm

/-- A body of three octets that nobody looks into, with one octet of padding. -/
def unevenFrame : Bytes :=
  [0xA0, 204, 0, 1, 97, 98, 99, 1]

/-- A goodbye whose reason is no text at all. -/
def garbledFrame : Bytes :=
  [0x80, 203, 0, 22, 86] ++ List.replicate 86 0xFF ++ [0]

theorem reads_unevenFrame : Reads unevenFrame (.other ⟨204, 0, [97, 98, 99]⟩) :=
  ⟨⟨by decide, by decide, by decide⟩, rfl⟩

theorem reads_garbledFrame :
    Reads garbledFrame
      (.goodbye ⟨[], some (String.ofList (List.replicate 86 Utf8.replacement))⟩) :=
  ⟨⟨by decide, by decide, by decide⟩, rfl⟩

theorem exists_encodeAll_of_decodeAll_unevenFrame :
    ∃ d', encodeAll [.other ⟨204, 0, [97, 98, 99]⟩] = .ok d' ∧
      decodeAll d' = .ok [.other ⟨204, 0, [97, 98, 99, 0]⟩] := by
  obtain ⟨d', hencode, hdecode, -⟩ :=
    exists_encodeAll_of_decodeAll (decodeAll_of_reads reads_unevenFrame)
  refine ⟨d', hencode, ?_⟩
  rw [hdecode, List.map_cons, List.map_nil, normalForm, Bytes.shortfall_eq]
  rfl

/-- The zeros, and the cut. -/
theorem decodeAll_encodeAll_ne_of_decodeAll :
    (∃ ps d', decodeAll unevenFrame = .ok ps ∧ encodeAll ps = .ok d' ∧ decodeAll d' ≠ .ok ps) ∧
    ∃ ps d', decodeAll garbledFrame = .ok ps ∧ encodeAll ps = .ok d' ∧ decodeAll d' ≠ .ok ps := by
  have hchanged {raw : Bytes} {p : Packet} (hraw : Reads raw p) (hp : ¬p.IsKept) :
      ∃ ps d', decodeAll raw = .ok ps ∧ encodeAll ps = .ok d' ∧ decodeAll d' ≠ .ok ps := by
    have hfs := List.Forall₂.cons hraw List.Forall₂.nil
    refine ⟨[p], _, decodeAll_of_reads hraw, encodeAll_of_reads hfs, ?_⟩
    rw [decodeAll_octets_of_reads (List.cons_ne_nil raw []) hfs, Ne, Except.ok.injEq,
      map_normalForm_eq_iff hfs, List.forall_mem_singleton]
    exact hp
  refine ⟨hchanged reads_unevenFrame (show ¬(3 % 4 = 0) by decide),
    hchanged reads_garbledFrame ?_⟩
  intro hkept
  have hsize := hkept _ rfl
  have hlength : (Utf8.encode (List.replicate 86 Utf8.replacement)).length = 258 := by
    rw [Utf8.encode, List.length_flatMap, List.map_replicate, List.sum_replicate_nat]
    rfl
  rw [Goodbye.IsKept, ← Utf8.length_encode_toList, String.toList_ofList, hlength] at hsize
  omega

/-- Packets that have been written and read once settle: they can be written again, and what is
read then is what was read before, a reason that was cut inside a character included. -/
theorem exists_encodeAll_of_encodeAll {ps : List Packet} {d : Bytes} (hne : ps ≠ [])
    (hother : ∀ f, Packet.other f ∈ ps →
      f.packetType ≠ 200 ∧ f.packetType ≠ 201 ∧ f.packetType ≠ 203)
    (hencode : encodeAll ps = .ok d) :
    ∃ qs d', decodeAll d = .ok qs ∧ encodeAll qs = .ok d' ∧ decodeAll d' = .ok qs := by
  have hdecode := decodeAll_of_encodeAll hne hother hencode
  obtain ⟨fs, hfs_ne, -, hfs⟩ := decodeAll_eq_ok_iff.mp hdecode
  have hkept : (ps.map normalForm).map normalForm = ps.map normalForm := by
    rw [map_normalForm_eq_iff hfs, List.forall_mem_map]
    exact fun p _ => p.isKept_normalForm
  refine ⟨_, _, hdecode, encodeAll_of_reads hfs, ?_⟩
  rw [decodeAll_octets_of_reads hfs_ne hfs, hkept]

/-- A reason of 254 octets and one more character. -/
def longReason (last : Char) : String :=
  String.ofList (List.replicate 127 'é' ++ [last])

theorem length_encode_accents : (Utf8.encode (List.replicate 127 'é')).length = 254 := by
  rw [Utf8.encode, List.length_flatMap, List.map_replicate, List.sum_replicate_nat]
  rfl

theorem length_accents_lt : (Utf8.encode (List.replicate 127 'é')).length < 255 := by
  rw [length_encode_accents]
  decide

theorem lt_length_accents : 255 < (Utf8.encode (List.replicate 127 'é')).length + 'é'.utf8Size := by
  rw [length_encode_accents]
  decide

theorem clipped_longReason :
    Goodbye.clipped (longReason 'é') = longReason Utf8.replacement := by
  rw [Goodbye.clipped_eq, longReason, String.toList_ofList, longReason]
  exact congrArg String.ofList (Utf8.decodeLossy_take_of_cut length_accents_lt lt_length_accents)

theorem exists_encodeAll_of_encodeAll_longReason :
    let whole : List Packet := [.goodbye ⟨[7], some (longReason 'é')⟩, .other ⟨204, 0, [1]⟩]
    let cut : List Packet :=
      [.goodbye ⟨[7], some (longReason Utf8.replacement)⟩, .other ⟨204, 0, [1, 0, 0, 0]⟩]
    ∃ d d', encodeAll whole = .ok d ∧ decodeAll d = .ok cut ∧
      encodeAll cut = .ok d' ∧ decodeAll d' = .ok cut := by
  intro whole cut
  have hfits : ∀ p ∈ whole, p.toFrame.Fits := by
    refine List.forall_mem_cons.mpr ⟨fits_of_count_le (by decide) nofun, List.forall_mem_singleton.mpr ?_⟩
    exact ⟨by decide, by decide⟩
  have hencode := encodeAll_eq_ok_iff.mpr ⟨hfits, rfl⟩
  have hother : ∀ f, Packet.other f ∈ whole →
      f.packetType ≠ 200 ∧ f.packetType ≠ 201 ∧ f.packetType ≠ 203 := by
    simp [whole]
  have hcut : whole.map normalForm = cut := by
    simp only [whole, List.map_cons, List.map_nil, normalForm, Option.map_some, clipped_longReason,
      Bytes.shortfall_eq]
    rfl
  have hdecode := decodeAll_of_encodeAll (List.cons_ne_nil _ _) hother hencode
  rw [hcut] at hdecode
  obtain ⟨qs, d', hqs, hd', hagain⟩ :=
    exists_encodeAll_of_encodeAll (List.cons_ne_nil _ _) hother hencode
  obtain rfl : cut = qs := Except.ok.inj (hdecode.symm.trans hqs)
  exact ⟨_, d', hencode, hqs, hd', hagain⟩

end Packet

end MediaTransport.Rtcp
