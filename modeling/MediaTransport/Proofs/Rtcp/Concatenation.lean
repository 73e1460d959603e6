import MediaTransport.Proofs.Rtcp.Grammar

/-!
# Datagrams one after another

A datagram is read frame by frame, and a frame does not know where in a datagram it stands. So
behind frames that have been read, the reader does with the rest what it would do with the rest
alone: it returns the same packets, or fails with the same error, whose numbers count from the
frame that cannot be read (`Packet.decodeFrames_flatten_append`).

Writing respects concatenation for the same reason. What decides there is the first packet of
the list that cannot be written (`Packet.FirstFault`).
-/

namespace MediaTransport.Rtcp.Packet

/-! ## Reading -/

theorem decodeFrames_of_split_eq_error {d : Bytes} {e : WireError} (hne : d ≠ [])
    (h : Frame.split d = .error e) : decodeFrames d = .error e := by
  rw [decodeFrames, if_neg hne]
  split
  · rename_i e' hsplit
    rw [h] at hsplit
    cases hsplit
    rfl
  · rename_i frame rest hsplit
    rw [h] at hsplit
    cases hsplit

/-- A row of frames in front is read by itself, and so is what follows it. -/
theorem decodeFrames_flatten_append {fs : List Bytes} {ps : List Packet}
    (h : List.Forall₂ Reads fs ps) (rest : Bytes) :
    decodeFrames (fs.flatten ++ rest) = (decodeFrames rest).map (ps ++ ·) := by
  induction h with
  | nil =>
      rw [List.flatten_nil, List.nil_append]
      cases decodeFrames rest <;> rfl
  | cons hraw _ ih =>
      rw [List.flatten_cons, List.append_assoc, decodeFrames_append hraw.framed, hraw.ofFrame_eq]
      dsimp only
      rw [ih]
      cases decodeFrames rest <;> rfl

theorem decodeAll_of_ne_nil {d : Bytes} (hne : d ≠ []) : decodeAll d = decodeFrames d := by
  rw [decodeAll, if_neg hne]

theorem decodeAll_append {d rest : Bytes} {ps : List Packet} (h : decodeAll d = .ok ps)
    (hrest : rest ≠ []) : decodeAll (d ++ rest) = (decodeAll rest).map (ps ++ ·) := by
  obtain ⟨fs, -, rfl, hfs⟩ := decodeAll_eq_ok_iff.mp h
  rw [decodeAll_of_ne_nil (List.append_ne_nil_of_right_ne_nil _ hrest),
    decodeAll_of_ne_nil hrest, decodeFrames_flatten_append hfs]

/-! ## Writing -/

/-- Why the first of some packets that cannot be written cannot be. -/
def FirstFault (ps : List Packet) (e : WireError) : Prop :=
  ∃ front p back, ps = front ++ p :: back ∧ (∀ q ∈ front, ∃ octets, q.encode = .ok octets) ∧
    p.encode = .error e

theorem encodeAll_cons_of_ok {p : Packet} {ps : List Packet} {octets : Bytes}
    (h : p.encode = .ok octets) :
    encodeAll (p :: ps) = (encodeAll ps).map (octets ++ ·) := by
  rw [encodeAll, h]
  cases encodeAll ps <;> rfl

theorem encodeAll_cons_of_error {p : Packet} {ps : List Packet} {e : WireError}
    (h : p.encode = .error e) : encodeAll (p :: ps) = .error e := by
  rw [encodeAll, h]

theorem encodeAll_append {ps qs : List Packet} {front back : Bytes}
    (hps : encodeAll ps = .ok front) (hqs : encodeAll qs = .ok back) :
    encodeAll (ps ++ qs) = .ok (front ++ back) := by
  obtain ⟨hfront, rfl⟩ := encodeAll_eq_ok_iff.mp hps
  obtain ⟨hback, rfl⟩ := encodeAll_eq_ok_iff.mp hqs
  rw [encodeAll_eq_ok_iff, List.map_append, List.flatten_append]
  exact ⟨List.forall_mem_append.mpr ⟨hfront, hback⟩, rfl⟩

theorem exists_firstFault_of_encodeAll {ps : List Packet} {e : WireError}
    (h : encodeAll ps = .error e) : FirstFault ps e := by
  induction ps with
  | nil => cases h
  | cons p ps ih =>
      cases hp : p.encode with
      | error e' =>
          rw [encodeAll_cons_of_error hp] at h
          cases h
          exact ⟨[], p, ps, rfl, List.forall_mem_nil _, hp⟩
      | ok octets =>
          rw [encodeAll_cons_of_ok hp] at h
          cases hps : encodeAll ps with
          | ok rest =>
              rw [hps] at h
              cases h
          | error e' =>
              rw [hps] at h
              cases h
              obtain ⟨front, q, back, rfl, hfront, hq⟩ := ih hps
              exact ⟨p :: front, q, back, rfl, List.forall_mem_cons.mpr ⟨⟨octets, hp⟩, hfront⟩, hq⟩

theorem exists_encodeAll_of_append {ps qs : List Packet} {d : Bytes}
    (h : encodeAll (ps ++ qs) = .ok d) :
    (∃ front, encodeAll ps = .ok front) ∧ ∃ back, encodeAll qs = .ok back := by
  obtain ⟨hfits, -⟩ := encodeAll_eq_ok_iff.mp h
  obtain ⟨hps, hqs⟩ := List.forall_mem_append.mp hfits
  exact ⟨⟨_, encodeAll_eq_ok_iff.mpr ⟨hps, rfl⟩⟩, ⟨_, encodeAll_eq_ok_iff.mpr ⟨hqs, rfl⟩⟩⟩

/-- Behind a datagram that can be read, another one is read as it is alone, also when it cannot
be read. Packets that can be written are written one list behind the other; if some cannot, the
first of them decides. -/
theorem decodeAll_append_and_encodeAll_append :
    (∀ (d rest : Bytes) (ps : List Packet), decodeAll d = .ok ps → rest ≠ [] →
      (∀ qs, decodeAll rest = .ok qs → decodeAll (d ++ rest) = .ok (ps ++ qs)) ∧
      ∀ e, decodeAll rest = .error e → decodeAll (d ++ rest) = .error e) ∧
    ∀ ps qs : List Packet,
      (∀ front back, encodeAll ps = .ok front → encodeAll qs = .ok back →
        encodeAll (ps ++ qs) = .ok (front ++ back)) ∧
      (¬((∃ front, encodeAll ps = .ok front) ∧ ∃ back, encodeAll qs = .ok back) →
        ∃ e, FirstFault (ps ++ qs) e ∧ encodeAll (ps ++ qs) = .error e) := by
  refine ⟨?_, ?_⟩
  · intro d rest ps hd hrest
    have happend := decodeAll_append hd hrest
    refine ⟨?_, ?_⟩
    · intro qs hqs
      rw [happend, hqs]
      rfl
    · intro e he
      rw [happend, he]
      rfl
  · intro ps qs
    refine ⟨fun front back => encodeAll_append, ?_⟩
    intro hfail
    cases hall : encodeAll (ps ++ qs) with
    | ok d => exact absurd (exists_encodeAll_of_append hall) hfail
    | error e => exact ⟨e, exists_firstFault_of_encodeAll hall, rfl⟩

/-- The head of a sender report without its body. -/
def headAlone : Bytes :=
  [0x80, 200, 0, 6]

/-- One item more than a count can say. -/
def crowded : Packet :=
  .goodbye ⟨List.replicate 32 7, none⟩

theorem decodeAll_append_and_encodeAll_append_headAlone :
    decodeAll (reportFrame ++ headAlone) = .error (.bufferTooSmall 28 4) ∧
      encodeAll ([.goodbye ⟨[7], none⟩] ++ [crowded]) =
        .error (.invalidPacket (.controlCount 32)) ∧
      FirstFault ([.goodbye ⟨[7], none⟩] ++ [crowded]) (.invalidPacket (.controlCount 32)) := by
  have hreport : Reads reportFrame (.receiverReport ⟨7, []⟩) :=
    ⟨⟨by decide, by decide, by decide⟩, rfl⟩
  have hhead : decodeAll headAlone = .error (.bufferTooSmall 28 4) :=
    decodeFrames_of_split_eq_error (by decide) rfl
  have hcrowded : ¬∃ back, encodeAll [crowded] = .ok back := by
    rintro ⟨back, hback⟩
    cases hback
  obtain ⟨hread, hwrite⟩ := decodeAll_append_and_encodeAll_append
  obtain ⟨e, hfirst, he⟩ :=
    (hwrite [.goodbye ⟨[7], none⟩] [crowded]).2 (fun h => hcrowded h.2)
  obtain rfl : e = .invalidPacket (.controlCount 32) := Except.error.inj (he.symm.trans rfl)
  exact ⟨(hread _ _ _ (decodeAll_of_reads hreport) (by decide)).2 _ hhead, he, hfirst⟩

end MediaTransport.Rtcp.Packet
