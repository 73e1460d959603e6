import MediaTransport.Proofs.Rtcp.Framing

/-!
# Which datagrams are compound

`IsFrame` is the grammar of one control packet, said in positions of its octets: the
framing, and for each packet type that is looked into how long the body has to be for
the items that its head counts. `Frame.BodyFits` is the part about the body.

The main statement is that the reader accepts exactly the rows of such frames, and that
each packet is the one that its frame gives when it is read alone.
-/

namespace MediaTransport.Rtcp

/-- The body of a frame holds what the count in its head announces. A goodbye ends
behind its sources, or goes on with the length of a reason and so many octets. -/
structure Frame.BodyFits (f : Frame) : Prop where
  senderReport : f.packetType = 200 → 24 + 24 * f.count ≤ f.body.length
  receiverReport : f.packetType = 201 → 4 + 24 * f.count ≤ f.body.length
  goodbye : f.packetType = 203 →
    f.body.length = 4 * f.count ∨
      4 * f.count + 1 + Bytes.octet f.body (4 * f.count) ≤ f.body.length

/-- An octet string that is one control packet. -/
structure IsFrame (raw : Bytes) : Prop extends IsFramed raw where
  body : (Frame.ofOctets raw).BodyFits

/-! ## Bodies that can be read -/

namespace ReportBlock

theorem exists_decode {b : Bytes} (h : 24 ≤ b.length) :
    ∃ block, decode b = .ok (block, b.drop 24) := by
  obtain ⟨s3, s2, s1, s0, fraction, l2, l1, l0, h3, h2, h1, h0, tail, rfl, hlength⟩ :=
    Bytes.exists_cons_twelve (b := b) (by omega)
  obtain ⟨j3, j2, j1, j0, r3, r2, r1, r0, d3, d2, d1, d0, rest, rfl, -⟩ :=
    Bytes.exists_cons_twelve (b := tail) (by omega)
  exact ⟨_, rfl⟩

theorem length_of_decode {b rest : Bytes} {block : ReportBlock}
    (h : decode b = .ok (block, rest)) : b.length = 24 + rest.length := by
  unfold decode at h
  split at h
  · cases h
    simp only [List.length_cons]
    omega
  · cases h

theorem decodeMany_isOk_iff {n : Nat} {b : Bytes} :
    (∃ r, decodeMany n b = .ok r) ↔ 24 * n ≤ b.length := by
  induction n generalizing b with
  | zero => simp [decodeMany]
  | succ n ih =>
      rw [decodeMany]
      constructor
      · intro h
        rcases h with ⟨r, hr⟩
        split at hr
        · cases hr
        · rename_i block rest hblock
          split at hr
          · cases hr
          · rename_i blocks rest' hblocks
            have hrest := ih.mp ⟨_, hblocks⟩
            have hlength := length_of_decode hblock
            omega
      · intro hle
        obtain ⟨block, hblock⟩ := exists_decode (b := b) (by omega)
        have hrest : 24 * n ≤ (b.drop 24).length := by
          rw [List.length_drop]
          omega
        obtain ⟨⟨blocks, rest⟩, hblocks⟩ := ih.mpr hrest
        rw [hblock]
        dsimp only
        rw [hblocks]
        exact ⟨_, rfl⟩

end ReportBlock

theorem SenderReport.decodeBody_isOk_iff {count : Nat} {b : Bytes} :
    (∃ r, decodeBody count b = .ok r) ↔ 24 + 24 * count ≤ b.length := by
  constructor
  · intro h
    rcases h with ⟨r, hr⟩
    unfold decodeBody at hr
    split at hr
    · split at hr
      · cases hr
      · rename_i blocks rest hblocks
        have hle := ReportBlock.decodeMany_isOk_iff.mp ⟨_, hblocks⟩
        simp only [List.length_cons]
        omega
    · cases hr
  · intro hle
    obtain ⟨s3, s2, s1, s0, n3, n2, n1, n0, f3, f2, f1, f0, tail, rfl, hlength⟩ :=
      Bytes.exists_cons_twelve (b := b) (by omega)
    obtain ⟨t3, t2, t1, t0, p3, p2, p1, p0, o3, o2, o1, o0, rest, rfl, hlength'⟩ :=
      Bytes.exists_cons_twelve (b := tail) (by omega)
    have hrest : 24 * count ≤ rest.length := by omega
    obtain ⟨⟨blocks, rest'⟩, hblocks⟩ := ReportBlock.decodeMany_isOk_iff.mpr hrest
    simp only [decodeBody, hblocks]
    exact ⟨_, rfl⟩

theorem ReceiverReport.decodeBody_isOk_iff {count : Nat} {b : Bytes} :
    (∃ r, decodeBody count b = .ok r) ↔ 4 + 24 * count ≤ b.length := by
  constructor
  · intro h
    rcases h with ⟨r, hr⟩
    unfold decodeBody at hr
    split at hr
    · split at hr
      · cases hr
      · rename_i blocks rest hblocks
        have hle := ReportBlock.decodeMany_isOk_iff.mp ⟨_, hblocks⟩
        simp only [List.length_cons]
        omega
    · cases hr
  · intro hle
    obtain ⟨s3, s2, s1, s0, rest, rfl⟩ := Bytes.exists_cons_four (b := b) (by omega)
    have hrest : 24 * count ≤ rest.length := by
      simp only [List.length_cons] at hle
      omega
    obtain ⟨⟨blocks, rest'⟩, hblocks⟩ := ReportBlock.decodeMany_isOk_iff.mpr hrest
    simp only [decodeBody, hblocks]
    exact ⟨_, rfl⟩

namespace Goodbye

theorem decodeReason_isOk_iff {b : Bytes} :
    (∃ reason, decodeReason b = .ok reason) ↔ b = [] ∨ 1 + Bytes.octet b 0 ≤ b.length := by
  cases b with
  | nil => simp [decodeReason]
  | cons n rest =>
      rw [decodeReason, Bytes.octet_cons_zero, List.length_cons]
      by_cases hle : n.toNat ≤ rest.length
      · rw [Bytes.split?_of_le hle]
        simp only [Except.ok.injEq, exists_eq', reduceCtorEq, false_or, true_iff]
        omega
      · rw [Bytes.split?_eq_none_iff.mpr (by omega)]
        simp only [reduceCtorEq, exists_false, false_or, false_iff]
        omega

theorem decodeBody_isOk_iff {count : Nat} {b : Bytes} :
    (∃ g, decodeBody count b = .ok g) ↔
      b.length = 4 * count ∨ 4 * count + 1 + Bytes.octet b (4 * count) ≤ b.length := by
  rw [decodeBody]
  by_cases hle : 4 * count ≤ b.length
  · rw [Bytes.split?_of_le hle]
    dsimp only
    have hreason := decodeReason_isOk_iff (b := b.drop (4 * count))
    rw [Bytes.octet_drop, List.length_drop, Nat.add_zero, List.drop_eq_nil_iff] at hreason
    constructor
    · intro h
      rcases h with ⟨g, hg⟩
      split at hg
      · cases hg
      · rename_i reason hok
        have hend := hreason.mp ⟨reason, hok⟩
        omega
    · intro hend
      obtain ⟨reason, hok⟩ := hreason.mpr (by omega)
      rw [hok]
      exact ⟨_, rfl⟩
  · rw [Bytes.split?_eq_none_iff.mpr (by omega)]
    simp only [reduceCtorEq, exists_false, false_iff]
    omega

end Goodbye

/-! ## Rows of frames -/

namespace Packet

theorem exists_map_eq_ok_iff {α β : Type} {x : Except WireError α} {f : α → β} :
    (∃ b, x.map f = .ok b) ↔ ∃ a, x = .ok a := by
  cases x with
  | ok a => exact ⟨fun _ => ⟨a, rfl⟩, fun _ => ⟨f a, rfl⟩⟩
  | error e => simp [Except.map]

/-- A frame stands for a packet exactly when its body fits. -/
theorem ofFrame_isOk_iff {f : Frame} : (∃ p, ofFrame f = .ok p) ↔ f.BodyFits := by
  rw [ofFrame, senderReportType, receiverReportType, goodbyeType]
  by_cases hsender : f.packetType = 200
  · rw [if_pos hsender, exists_map_eq_ok_iff, SenderReport.decodeBody_isOk_iff]
    constructor
    · intro hle
      exact ⟨fun _ => hle, fun h => by simp [hsender] at h, fun h => by simp [hsender] at h⟩
    · intro hfits
      exact hfits.senderReport hsender
  rw [if_neg hsender]
  by_cases hreceiver : f.packetType = 201
  · rw [if_pos hreceiver, exists_map_eq_ok_iff, ReceiverReport.decodeBody_isOk_iff]
    constructor
    · intro hle
      exact ⟨fun h => absurd h hsender, fun _ => hle, fun h => by simp [hreceiver] at h⟩
    · intro hfits
      exact hfits.receiverReport hreceiver
  rw [if_neg hreceiver]
  by_cases hgoodbye : f.packetType = 203
  · rw [if_pos hgoodbye, exists_map_eq_ok_iff, Goodbye.decodeBody_isOk_iff]
    constructor
    · intro hend
      exact ⟨fun h => absurd h hsender, fun h => absurd h hreceiver, fun _ => hend⟩
    · intro hfits
      exact hfits.goodbye hgoodbye
  rw [if_neg hgoodbye]
  constructor
  · intro _
    exact ⟨fun h => absurd h hsender, fun h => absurd h hreceiver, fun h => absurd h hgoodbye⟩
  · intro _
    exact ⟨_, rfl⟩

theorem isFrame_iff {raw : Bytes} :
    IsFrame raw ↔ ∃ p, Reads raw p := by
  constructor
  · intro h
    obtain ⟨p, hp⟩ := ofFrame_isOk_iff.mpr h.body
    exact ⟨p, h.toIsFramed, hp⟩
  · intro h
    obtain ⟨p, hp⟩ := h
    exact ⟨hp.framed, ofFrame_isOk_iff.mp ⟨p, hp.ofFrame_eq⟩⟩

theorem decodeAll_of_reads {raw : Bytes} {p : Packet} (h : Reads raw p) :
    decodeAll raw = .ok [p] := by
  refine decodeAll_eq_ok_iff.mpr ⟨[raw], List.cons_ne_nil _ _, ?_, ?_⟩
  · rw [List.flatten_cons, List.flatten_nil, List.append_nil]
  · exact List.Forall₂.cons h List.Forall₂.nil

/-- Every frame of a row is read. -/
theorem exists_reads_of_isFrame {fs : List Bytes} (hfs : ∀ f ∈ fs, IsFrame f) :
    ∃ ps, List.Forall₂ Reads fs ps := by
  induction fs with
  | nil => exact ⟨[], List.Forall₂.nil⟩
  | cons f fs ih =>
      rw [List.forall_mem_cons] at hfs
      obtain ⟨p, hp⟩ := isFrame_iff.mp hfs.1
      obtain ⟨ps, hps⟩ := ih hfs.2
      exact ⟨p :: ps, List.Forall₂.cons hp hps⟩

theorem isFrame_of_reads {fs : List Bytes} {ps : List Packet} (h : List.Forall₂ Reads fs ps) :
    ∀ f ∈ fs, IsFrame f := by
  induction h with
  | nil => simp
  | cons hraw _ ih =>
      rw [List.forall_mem_cons]
      exact ⟨isFrame_iff.mpr ⟨_, hraw⟩, ih⟩

/-- However a datagram is divided into frames, its packets are those of the frames. -/
theorem reads_of_decodeAll {d : Bytes} {fs : List Bytes} {ps : List Packet}
    (hfs : ∀ f ∈ fs, IsFrame f) (hd : d = fs.flatten) (hps : decodeAll d = .ok ps) :
    List.Forall₂ Reads fs ps := by
  obtain ⟨ps', hreads⟩ := exists_reads_of_isFrame hfs
  have hne : fs ≠ [] := by
    rintro rfl
    rw [hd] at hps
    cases hps
  rw [decodeAll_eq_ok_iff.mpr ⟨fs, hne, hd, hreads⟩] at hps
  cases hps
  exact hreads

/-- The reader accepts exactly the rows of frames, of which there is at least one. Its
packets are those of the frames, in order, each as it is read from its frame alone. -/
theorem decodeAll_isOk_iff_isFrame (d : Bytes) :
    ((∃ ps, decodeAll d = .ok ps) ↔
      ∃ fs : List Bytes, fs ≠ [] ∧ (∀ f ∈ fs, IsFrame f) ∧ d = fs.flatten) ∧
    ∀ (fs : List Bytes) (ps : List Packet), (∀ f ∈ fs, IsFrame f) → d = fs.flatten →
      decodeAll d = .ok ps →
      List.Forall₂ (fun f p => decodeAll f = .ok [p]) fs ps ∧ ps.length = fs.length ∧
        ps.length ≤ d.length / 4 := by
  refine ⟨⟨?_, ?_⟩, ?_⟩
  · intro h
    rcases h with ⟨ps, hps⟩
    obtain ⟨fs, hne, hd, hfs⟩ := decodeAll_eq_ok_iff.mp hps
    exact ⟨fs, hne, isFrame_of_reads hfs, hd⟩
  · intro h
    rcases h with ⟨fs, hne, hfs, hd⟩
    obtain ⟨ps, hps⟩ := exists_reads_of_isFrame hfs
    exact ⟨ps, decodeAll_eq_ok_iff.mpr ⟨fs, hne, hd, hps⟩⟩
  · intro fs ps hfs hd hps
    have hreads := reads_of_decodeAll hfs hd hps
    have hlength := four_mul_length_le_of_reads hreads
    rw [← hd, hreads.length_eq] at hlength
    refine ⟨hreads.imp ?_, hreads.length_eq.symm, by omega⟩
    intro raw p hp
    exact decodeAll_of_reads hp

/-- A receiver report without blocks. -/
def reportFrame : Bytes :=
  [0x80, 201, 0, 1, 0, 0, 0, 7]

/-- A body of one octet that nobody looks into, with three octets of padding. -/
def paddedFrame : Bytes :=
  [0xA5, 204, 0, 1, 9, 0, 0, 3]

theorem decodeAll_isOk_iff_isFrame_padded :
    ∃ p q, decodeAll (reportFrame ++ paddedFrame) = .ok [p, q] ∧
      decodeAll reportFrame = .ok [p] ∧ decodeAll paddedFrame = .ok [q] := by
  have hreport : IsFrame reportFrame :=
    ⟨⟨by decide, by decide, by decide⟩, ⟨by decide, by decide, by decide⟩⟩
  have hpadded : IsFrame paddedFrame :=
    ⟨⟨by decide, by decide, by decide⟩, ⟨by decide, by decide, by decide⟩⟩
  have hfs : ∀ f ∈ [reportFrame, paddedFrame], IsFrame f := by
    simp [hreport, hpadded]
  have h := decodeAll_isOk_iff_isFrame (reportFrame ++ paddedFrame)
  obtain ⟨ps, hps⟩ := h.1.mpr ⟨[reportFrame, paddedFrame], by decide, hfs, rfl⟩
  obtain ⟨hread, -, -⟩ := h.2 [reportFrame, paddedFrame] ps hfs rfl hps
  match ps, hread with
  | [p, q], .cons hp (.cons hq .nil) => exact ⟨p, q, hps, hp, hq⟩

end Packet

end MediaTransport.Rtcp
