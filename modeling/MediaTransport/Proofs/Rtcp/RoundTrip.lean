import MediaTransport.Proofs.Rtcp.Framing
import Mathlib.Data.Nat.Find

/-!
# Reading back control packets that were written

A control packet is read back in its normal form. The normal form is said without the
writer: a cumulative loss is cut to 24 bits, a reason becomes what its first 255 octets
read as, and the body of a packet that is not looked into gets the fewest zeros that
make it a whole number of words. Nothing else changes.

Each kind of packet has its own body, so there is one inverse for each kind. The main
statement lifts them to compound datagrams.
-/

namespace MediaTransport

namespace Bytes

theorem exists_dvd_add (n : Nat) : ∃ k, 4 ∣ n + k :=
  ⟨3 * n, by omega⟩

/-- The fewest octets that bring a length of `n` up to a multiple of four. -/
def shortfall (n : Nat) : Nat :=
  Nat.find (exists_dvd_add n)

theorem shortfall_eq (n : Nat) : shortfall n = (4 - n % 4) % 4 := by
  rw [shortfall, Nat.find_eq_iff]
  refine ⟨by omega, ?_⟩
  intro k hk hdvd
  omega

theorem padToWord_eq (b : Bytes) : padToWord b = b ++ List.replicate (shortfall b.length) 0 := by
  rw [padToWord, wordPadding, shortfall_eq]

theorem padToWord_of_whole {b : Bytes} (h : b.length % 4 = 0) : padToWord b = b := by
  rw [padToWord, wordPadding, h]
  exact List.append_nil b

end Bytes

theorem Utf8.encode_toList (s : String) : Utf8.encode s.toList = s.toByteArray.data.toList := by
  rw [← String.utf8Encode_toList, List.utf8Encode, List.data_toByteArray]
  rfl

theorem Utf8.length_encode_toList (s : String) :
    (Utf8.encode s.toList).length = s.utf8ByteSize := by
  rw [Utf8.encode_toList]
  rfl

namespace Rtcp

/-! ## Normal forms -/

/-- The block as it is read back: its cumulative loss has 24 bits. -/
def ReportBlock.normalForm (b : ReportBlock) : ReportBlock :=
  { b with cumulativeLost := UInt32.ofNat (min b.cumulativeLost.toNat 0xFFFFFF) }

/-- The reason as it is read back: what its first 255 octets read as. -/
def Goodbye.clipped (reason : String) : String :=
  String.ofList (Utf8.decodeLossy
    (reason.toByteArray.data.toList.take (min 255 reason.utf8ByteSize)))

/-- The packet as it is read back. -/
def Packet.normalForm : Packet → Packet
  | .senderReport r => .senderReport { r with blocks := r.blocks.map ReportBlock.normalForm }
  | .receiverReport r => .receiverReport { r with blocks := r.blocks.map ReportBlock.normalForm }
  | .goodbye g => .goodbye { g with reason := g.reason.map Goodbye.clipped }
  | .other f =>
      .other { f with body := f.body ++ List.replicate (Bytes.shortfall f.body.length) 0 }

/-! ## Bodies -/

theorem ReportBlock.decodeMany_encodeMany (blocks : List ReportBlock) (rest : Bytes) :
    decodeMany blocks.length (encodeMany blocks ++ rest) =
      .ok (blocks.map normalForm, rest) := by
  induction blocks with
  | nil => rfl
  | cons b blocks ih =>
      have hencode : encodeMany (b :: blocks) ++ rest =
          b.encode ++ (encodeMany blocks ++ rest) := by
        rw [encodeMany, List.flatMap_cons, List.append_assoc]
        rfl
      rw [hencode, List.length_cons, decodeMany, decode_encode]
      dsimp only
      rw [ih]
      rfl

theorem SenderReport.decodeBody_encodeBody (r : SenderReport) :
    decodeBody r.blocks.length r.encodeBody =
      .ok { r with blocks := r.blocks.map ReportBlock.normalForm } := by
  have hblocks := ReportBlock.decodeMany_encodeMany r.blocks []
  rw [List.append_nil] at hblocks
  simp only [encodeBody, NtpTime.encode, Bytes.octets32, List.cons_append, List.nil_append,
    decodeBody, hblocks, Bytes.word32_octets]

theorem SenderReport.length_encodeBody_mod (r : SenderReport) : r.encodeBody.length % 4 = 0 := by
  rw [length_encodeBody, size, fixedSize, ReportBlock.size]
  omega

theorem ReceiverReport.decodeBody_encodeBody (r : ReceiverReport) :
    decodeBody r.blocks.length r.encodeBody =
      .ok { r with blocks := r.blocks.map ReportBlock.normalForm } := by
  have hblocks := ReportBlock.decodeMany_encodeMany r.blocks []
  rw [List.append_nil] at hblocks
  simp only [encodeBody, Bytes.octets32, List.cons_append, List.nil_append,
    decodeBody, hblocks, Bytes.word32_octets]

theorem ReceiverReport.length_encodeBody_mod (r : ReceiverReport) :
    r.encodeBody.length % 4 = 0 := by
  rw [length_encodeBody, size, fixedSize, ReportBlock.size]
  omega

namespace Goodbye

theorem reasonOctets_eq (reason : String) :
    reasonOctets reason = reason.toByteArray.data.toList.take (min 255 reason.utf8ByteSize) := by
  rw [reasonOctets, reasonLimit, List.take_eq_take_min, Utf8.length_encode_toList,
    Utf8.encode_toList]

theorem length_reasonOctets_le (reason : String) : (reasonOctets reason).length ≤ 255 :=
  List.length_take_le _ _

theorem decodeReason_encodeReason (reason : String) :
    decodeReason (encodeReason reason) = .ok (some (clipped reason)) := by
  have hlength : (UInt8.ofNat (reasonOctets reason).length).toNat =
      (reasonOctets reason).length := by
    have hle := length_reasonOctets_le reason
    rw [UInt8.toNat_ofNat', Nat.mod_eq_of_lt (by omega)]
  rw [encodeReason, Bytes.padToWord, List.cons_append, decodeReason, hlength,
    Bytes.split?_append, clipped, ← reasonOctets_eq]

theorem decodeBody_encodeBody (g : Goodbye) :
    decodeBody g.sources.length g.encodeBody =
      .ok { g with reason := g.reason.map clipped } := by
  rw [encodeBody, decodeBody, ← Bytes.length_octetsList, Bytes.split?_append]
  dsimp only
  rw [Bytes.words_octetsList]
  cases g.reason with
  | none => rfl
  | some reason =>
      rw [Option.map_some, Option.getD_some, decodeReason_encodeReason]
      rfl

theorem length_encodeBody_mod (g : Goodbye) : g.encodeBody.length % 4 = 0 := by
  rw [encodeBody, List.length_append, Bytes.length_octetsList]
  cases g.reason with
  | none =>
      simp
  | some reason =>
      rw [Option.map_some, Option.getD_some, encodeReason, Bytes.length_padToWord]
      omega

end Goodbye

/-! ## Packets -/

namespace Packet

/-- The frame of a packet, with its body brought to a whole number of words, stands for
the normal form of the packet. -/
theorem ofFrame_padToWord (p : Packet)
    (hp : ∀ f, p = .other f → f.packetType ≠ 200 ∧ f.packetType ≠ 201 ∧ f.packetType ≠ 203) :
    ofFrame { p.toFrame with body := Bytes.padToWord p.body } = .ok p.normalForm := by
  cases p with
  | senderReport r =>
      simp only [body, Bytes.padToWord_of_whole r.length_encodeBody_mod]
      change (SenderReport.decodeBody r.blocks.length r.encodeBody).map Packet.senderReport = _
      rw [SenderReport.decodeBody_encodeBody]
      rfl
  | receiverReport r =>
      simp only [body, Bytes.padToWord_of_whole r.length_encodeBody_mod]
      change (ReceiverReport.decodeBody r.blocks.length r.encodeBody).map Packet.receiverReport = _
      rw [ReceiverReport.decodeBody_encodeBody]
      rfl
  | goodbye g =>
      simp only [body, Bytes.padToWord_of_whole g.length_encodeBody_mod]
      change (Goodbye.decodeBody g.sources.length g.encodeBody).map Packet.goodbye = _
      rw [Goodbye.decodeBody_encodeBody]
      rfl
  | other f =>
      obtain ⟨hsender, hreceiver, hgoodbye⟩ := hp f rfl
      rw [normalForm, ← Bytes.padToWord_eq]
      change (if f.packetType = 200 then _ else if f.packetType = 201 then _
        else if f.packetType = 203 then _ else _) = _
      rw [if_neg hsender, if_neg hreceiver, if_neg hgoodbye]
      rfl

/-- A written packet is one frame, which stands for the normal form of the packet. -/
theorem reads_octets {p : Packet} (hfits : p.toFrame.Fits)
    (hp : ∀ f, p = .other f → f.packetType ≠ 200 ∧ f.packetType ≠ 201 ∧ f.packetType ≠ 203) :
    Reads p.toFrame.octets p.normalForm := by
  refine ⟨hfits.isFramed_octets, ?_⟩
  rw [hfits.ofOctets_octets]
  exact ofFrame_padToWord p hp

theorem decodeAll_of_encodeAll {ps : List Packet} {d : Bytes} (hne : ps ≠ [])
    (hother : ∀ f, Packet.other f ∈ ps →
      f.packetType ≠ 200 ∧ f.packetType ≠ 201 ∧ f.packetType ≠ 203)
    (hencode : encodeAll ps = .ok d) : decodeAll d = .ok (ps.map normalForm) := by
  obtain ⟨hfits, rfl⟩ := encodeAll_eq_ok_iff.mp hencode
  refine decodeAll_eq_ok_iff.mpr ⟨_, ?_, rfl, ?_⟩
  · rw [Ne, List.map_eq_nil_iff]
    exact hne
  · rw [List.forall₂_map_left_iff, List.forall₂_map_right_iff, List.forall₂_same]
    intro p hp
    refine reads_octets (hfits p hp) ?_
    rintro f rfl
    exact hother f hp

/-- Packets that can be written are read back in their normal forms, in order, when no
packet that is not looked into has the type of one that is. No packets are written as
an empty datagram, which is refused. A missing reason and an empty one stay what they
are. -/
theorem decodeAll_encodeAll :
    (∀ ps d, ps ≠ [] →
      (∀ f, Packet.other f ∈ ps →
        f.packetType ≠ 200 ∧ f.packetType ≠ 201 ∧ f.packetType ≠ 203) →
      encodeAll ps = .ok d → decodeAll d = .ok (ps.map normalForm)) ∧
    encodeAll [] = .ok [] ∧
    decodeAll [] = .error (.invalidPacket .emptyDatagram) ∧
    ∀ sources,
      normalForm (.goodbye ⟨sources, none⟩) = .goodbye ⟨sources, none⟩ ∧
      normalForm (.goodbye ⟨sources, some ""⟩) = .goodbye ⟨sources, some ""⟩ := by
  refine ⟨?_, rfl, rfl, fun sources => ⟨rfl, rfl⟩⟩
  intro ps d hne hother hencode
  exact decodeAll_of_encodeAll hne hother hencode

/-- A report whose loss does not fit, a goodbye, and a body that is no whole number of
words. -/
def compound : List Packet :=
  [.senderReport
    { ssrc := 1, time := ⟨2, 3⟩, timestamp := 4, packetCount := 5, octetCount := 6,
      blocks := [{ ssrc := 7, cumulativeLost := 0xFFFFFFFF }] },
    .goodbye ⟨[8, 9], some "café"⟩,
    .other ⟨204, 31, [1, 2, 3, 4, 5]⟩]

theorem decodeAll_encodeAll_compound :
    ∃ d, encodeAll compound = .ok d ∧
      decodeAll d = .ok
        [.senderReport
          { ssrc := 1, time := ⟨2, 3⟩, timestamp := 4, packetCount := 5, octetCount := 6,
            blocks := [{ ssrc := 7, cumulativeLost := 0xFFFFFF }] },
          .goodbye ⟨[8, 9], some "café"⟩,
          .other ⟨204, 31, [1, 2, 3, 4, 5, 0, 0, 0]⟩] := by
  have hencode : ∃ d, encodeAll compound = .ok d := ⟨_, rfl⟩
  obtain ⟨d, hd⟩ := hencode
  have hreason : Goodbye.clipped "café" = "café" := by decide
  have hother : normalForm (.other ⟨204, 31, [1, 2, 3, 4, 5]⟩) =
      .other ⟨204, 31, [1, 2, 3, 4, 5, 0, 0, 0]⟩ := by
    rw [normalForm, Bytes.shortfall_eq]
    rfl
  refine ⟨d, hd, ?_⟩
  rw [decodeAll_encodeAll.1 compound d (by decide) (by simp [compound]) hd]
  simp only [compound, List.map_cons, List.map_nil, hother]
  simp only [normalForm, Option.map_some, hreason]
  rfl

end Packet

end Rtcp

end MediaTransport
