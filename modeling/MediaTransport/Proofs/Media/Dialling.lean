import MediaTransport.Proofs.Media.Interleaving

/-!
# Dialling

A digit is sent as seven events, one packet each, and the first packet that cannot be sent ends
this (`Writer.Ends`). What a packet carries depends only on its place in the burst and on where
the writer stood before it, so a receiver that gets some of the packets can tell the digit from any
of them (`Writer.IsBurstPart`).

The main statement follows a digit from the writer to the octets on the wire and back. A character
that is no digit leaves the writer alone. A burst that breaks off has taken a number for each
packet that was tried, has counted those that were sent, and has not moved the timestamp.
-/

namespace MediaTransport

/-! ## Events of a burst -/

namespace Rtp.TelephoneEvent

variable {digit : Char} {code : UInt8}

theorem digitOf?_of_codeOf (h : codeOf digit = .ok code) : digitOf? code = some digit := by
  rw [codeOf] at h
  cases hfind : digits.findIdx? (· == digit) with
  | none =>
      rw [hfind] at h
      cases h
  | some i =>
      rw [hfind] at h
      cases h
      obtain ⟨hi, heq, -⟩ := List.findIdx?_eq_some_iff_getElem.mp hfind
      have hlength : i < 16 := hi
      rw [digitOf?, UInt8.toNat_ofNat', Nat.mod_eq_of_lt (by omega),
        List.getElem?_eq_getElem hi, eq_of_beq heq]

theorem mem_digits_of_codeOf (h : codeOf digit = .ok code) : digit ∈ digits :=
  List.mem_of_getElem? (digitOf?_of_codeOf h)

theorem of_codeOf_eq_error {e : WireError} (h : codeOf digit = .error e) :
    digit ∉ digits ∧ e = .unknownDigit digit := by
  rw [codeOf] at h
  cases hfind : digits.findIdx? (· == digit) with
  | none =>
      rw [hfind] at h
      cases h
      rw [List.findIdx?_eq_none_iff] at hfind
      refine ⟨fun hmem => ?_, rfl⟩
      exact absurd (hfind digit hmem) (by simp)
  | some i =>
      rw [hfind] at h
      cases h

theorem exists_codeOf (h : digit ∈ digits) : ∃ code, codeOf digit = .ok code := by
  cases hcode : codeOf digit with
  | error e => exact absurd h (of_codeOf_eq_error hcode).1
  | ok code => exact ⟨code, rfl⟩

/-- The event at a place of a burst. -/
theorem of_getElem?_burstOf {i : Nat} {event : TelephoneEvent}
    (h : (burstOf code)[i]? = some event) :
    event.code = code ∧ event.volume = 10 ∧
      [160, 320, 480, 640, 800, 800, 800][i]? = some event.duration.toNat ∧
      (event.ended = true ↔ 4 ≤ i) := by
  have hburst : burstOf code =
      [160, 320, 480, 640, 800, 800, 800].mapIdx
        fun i duration => ⟨code, decide (4 ≤ i), 10, UInt16.ofNat duration⟩ := rfl
  rw [hburst, List.getElem?_mapIdx] at h
  obtain ⟨duration, hduration, rfl⟩ := Option.map_eq_some_iff.mp h
  have hle : duration ≤ 800 := by
    have hall : ∀ n ∈ [160, 320, 480, 640, 800, 800, 800], n ≤ 800 := by decide
    exact hall duration (List.mem_of_getElem? hduration)
  refine ⟨rfl, rfl, ?_, decide_eq_true_iff⟩
  rw [hduration, UInt16.toNat_ofNat', Nat.mod_eq_of_lt (by omega)]

end Rtp.TelephoneEvent

namespace Media

open Net

/-! ## How a burst ends -/

namespace Writer

/-- All packets are sent, or all up to the first that cannot be. -/
inductive Ends (deliver : Rtp.Packet → Except Error Datagram) (y : Written Unit) : Prop
  | whole (outcome : y.outcome = .ok ()) (sent : y.built.map deliver = y.sent.map .ok)
  | stopped {front : List Rtp.Packet} {p : Rtp.Packet} {e : Error}
      (outcome : y.outcome = .error e) (built : y.built = front ++ [p])
      (sent : front.map deliver = y.sent.map .ok) (lost : deliver p = .error e)

/-- The packet carries the event at place `i`, and is marked when it is the first of the packets
and `marker` says so. -/
def Carries (marker : Bool) (events : List Rtp.TelephoneEvent) (i : Nat) (p : Rtp.Packet) : Prop :=
  ∃ event, events[i]? = some event ∧ p.payload = event.encode ∧
    p.header.marker = (marker && i == 0)

theorem carries_packetFor_cons {marker : Bool} {event : Rtp.TelephoneEvent}
    {events : List Rtp.TelephoneEvent} {later : List Rtp.Packet} (w : Writer) (payloadType : UInt8)
    (h : ∀ i p, later[i]? = some p → Carries false events i p) (i : Nat) (p : Rtp.Packet)
    (hp : (w.packetFor event.encode marker payloadType :: later)[i]? = some p) :
    Carries marker (event :: events) i p := by
  cases i with
  | zero =>
      cases hp
      exact ⟨event, rfl, rfl, (Bool.and_true marker).symm⟩
  | succ i =>
      obtain ⟨event', hevent, hpayload, hmarker⟩ := h i p hp
      exact ⟨event', hevent, hpayload, hmarker.trans (Bool.and_false marker).symm⟩

/-- What sending some events one after the other puts into packets, and how it ends. -/
structure Dials (net : Network) (s : Session) (marker : Bool) (events : List Rtp.TelephoneEvent)
    (y : Written Unit) : Prop where
  carries : ∀ i p, y.built[i]? = some p → Carries marker events i p
  ends : Ends (fun p => (s.writeRtp net p).1) y

/-- One packet is sent, or not, as the session says. -/
theorem writeSamples_cases (net : Network) (s : Session) (w : Writer) (payload : Bytes)
    (ticks : Rtp.Timestamp) (marker : Bool) (payloadType : UInt8) :
    let one := w.writeSamples net s payload ticks marker payloadType
    let p := w.packetFor payload marker payloadType
    one.built = [p] ∧
      ((∃ e, one.outcome = .error e ∧ (s.writeRtp net p).1 = .error e ∧ one.sent = []) ∨
        ∃ n d, one.outcome = .ok n ∧ (s.writeRtp net p).1 = .ok d ∧ one.sent = [d]) := by
  intro one p
  refine ⟨(writeSamples_frame net s w payload ticks marker payloadType).1, ?_⟩
  dsimp only [one, writeSamples]
  cases hwrite : s.writeRtp net p with
  | mk outcome notices =>
      cases outcome with
      | error e => exact Or.inl ⟨e, rfl, rfl, rfl⟩
      | ok d => exact Or.inr ⟨payload.length, d, rfl, rfl, rfl⟩

theorem Ends.cons {deliver : Rtp.Packet → Except Error Datagram} {one : Written Nat}
    {rest : Written Unit} {p : Rtp.Packet} {d : Datagram} (hbuilt : one.built = [p])
    (hsent : one.sent = [d]) (hp : deliver p = .ok d) (h : Ends deliver rest) :
    Ends deliver (goOn one rest) := by
  cases h with
  | whole outcome sent =>
      refine .whole outcome ?_
      rw [goOn, hbuilt, hsent, List.singleton_append, List.singleton_append, List.map_cons,
        List.map_cons, hp, sent]
  | @stopped front q e outcome built sent lost =>
      refine @stopped _ _ (p :: front) q e outcome ?_ ?_ lost
      · rw [goOn, hbuilt, built]
        rfl
      · rw [goOn, hsent, List.singleton_append, List.map_cons, List.map_cons, hp, sent]

theorem dials_writeEvents (net : Network) (s : Session) (payloadType : UInt8) (marker : Bool)
    (events : List Rtp.TelephoneEvent) (w : Writer) (now : Nat) :
    Dials net s marker events (writeEvents net s payloadType marker events w now).1 := by
  refine writeEvents_induction (motive := fun marker events _ y => Dials net s marker events y)
    ?nil ?stop ?next marker events w now
  case nil => exact fun _ _ => ⟨nofun, .whole rfl rfl⟩
  case stop =>
    intro marker event events w e one houtcome
    obtain ⟨hbuilt, ⟨e', hlost, hwrite, hsent⟩ | ⟨n, d, hok, -⟩⟩ :=
      writeSamples_cases net s w event.encode 0 marker payloadType
    · obtain rfl : e = e' := Except.error.inj (houtcome.symm.trans hlost)
      refine ⟨?_, @Ends.stopped _ _ [] _ e rfl hbuilt ?_ hwrite⟩
      · dsimp only
        rw [hbuilt]
        exact carries_packetFor_cons w payloadType nofun
      · dsimp only [one]
        rw [hsent]
        rfl
    · cases houtcome.symm.trans hok
  case next =>
    intro marker event events w n now rest one houtcome hrest
    obtain ⟨hbuilt, ⟨e, hlost, -⟩ | ⟨n, d, -, hwrite, hsent⟩⟩ :=
      writeSamples_cases net s w event.encode 0 marker payloadType
    · cases houtcome.symm.trans hlost
    · refine ⟨?_, hrest.ends.cons hbuilt hsent hwrite⟩
      rw [goOn, hbuilt]
      exact carries_packetFor_cons w payloadType hrest.carries

/-! ## What the end says -/

namespace Ends

variable {deliver : Rtp.Packet → Except Error Datagram} {y : Written Unit}
  {front : List Rtp.Packet} {sent : List Datagram}

theorem withWriter (h : Ends deliver y) (w : Writer) : Ends deliver { y with writer := w } := by
  cases h with
  | whole outcome sent => exact .whole outcome sent
  | stopped outcome built sent lost => exact .stopped outcome built sent lost

theorem isOk_of_map_eq (h : front.map deliver = sent.map .ok) :
    ∀ p ∈ front, (deliver p).isOk := by
  intro p hp
  have hmem : deliver p ∈ sent.map .ok := h ▸ List.mem_map_of_mem hp
  obtain ⟨d, -, hd⟩ := List.mem_map.mp hmem
  rw [← hd]
  rfl

theorem exists_of_map_eq (h : front.map deliver = sent.map .ok) {i : Nat} {d : Datagram}
    (hd : sent[i]? = some d) : ∃ p, front[i]? = some p ∧ deliver p = .ok d := by
  have hmap : (front.map deliver)[i]? = some (.ok d) := by
    rw [h, List.getElem?_map, hd]
    rfl
  rw [List.getElem?_map] at hmap
  exact Option.map_eq_some_iff.mp hmap

theorem exists_built (h : Ends deliver y) {i : Nat} {d : Datagram} (hd : y.sent[i]? = some d) :
    ∃ p, y.built[i]? = some p ∧ deliver p = .ok d := by
  cases h with
  | whole outcome sent => exact exists_of_map_eq sent hd
  | stopped outcome built sent lost =>
      obtain ⟨p, hp, hdeliver⟩ := exists_of_map_eq sent hd
      refine ⟨p, ?_, hdeliver⟩
      rw [built, List.getElem?_append_left (List.getElem?_eq_some_iff.mp hp).1]
      exact hp

/-- What can be sent of the packets that were built is what was sent. -/
theorem length_filter (h : Ends deliver y) :
    (y.built.filter fun p => (deliver p).isOk).length = y.sent.length := by
  cases h with
  | whole outcome sent =>
      have hlength := congrArg List.length sent
      rw [List.length_map, List.length_map] at hlength
      rw [List.filter_eq_self.mpr (isOk_of_map_eq sent), hlength]
  | @stopped front p e outcome built sent lost =>
      have hlength := congrArg List.length sent
      rw [List.length_map, List.length_map] at hlength
      have hp : ([p].filter fun p => (deliver p).isOk) = [] := by
        rw [List.filter_singleton, lost]
        rfl
      rw [built, List.filter_append, List.filter_eq_self.mpr (isOk_of_map_eq sent), hp,
        List.append_nil, hlength]

theorem of_forall_isOk (h : Ends deliver y) (hall : ∀ p ∈ y.built, (deliver p).isOk) :
    y.outcome = .ok () ∧ y.sent.length = y.built.length := by
  have hlength := h.length_filter
  rw [List.filter_eq_self.mpr hall] at hlength
  cases h with
  | whole outcome sent => exact ⟨outcome, hlength.symm⟩
  | @stopped front p e outcome built sent lost =>
      have hp := hall p (built ▸ List.mem_append_right front (List.mem_singleton_self p))
      rw [lost] at hp
      cases hp

theorem of_error (h : Ends deliver y) {p : Rtp.Packet} {e : Error} (hp : p ∈ y.built)
    (he : deliver p = .error e) :
    y.outcome = .error e ∧ y.built.length = y.sent.length + 1 := by
  have hnot : ¬(deliver p).isOk := by
    rw [he]
    exact Bool.false_ne_true
  cases h with
  | whole outcome sent => exact absurd (isOk_of_map_eq sent p hp) hnot
  | @stopped front q e' outcome built sent lost =>
      rw [built] at hp
      rcases List.mem_append.mp hp with hfront | hlast
      · exact absurd (isOk_of_map_eq sent p hfront) hnot
      · obtain rfl := List.mem_singleton.mp hlast
        obtain rfl : e = e' := Except.error.inj (he.symm.trans lost)
        have hlength := congrArg List.length sent
        rw [List.length_map, List.length_map] at hlength
        rw [built, List.length_append, hlength]
        exact ⟨outcome, rfl⟩

end Ends

/-! ## Digits -/

section

variable {net : Network} {s : Session} {w : Writer} {digit : Char} {payloadType code : UInt8}
  {now : Nat}

theorem writeDigit_of_unknown (hdigit : digit ∉ Rtp.TelephoneEvent.digits) :
    (w.writeDigit net s digit payloadType now).1 =
      { outcome := .error (.packet (.unknownDigit digit)), writer := w } := by
  rcases w.writeDigit_cases net s digit payloadType now with ⟨e, he, hrefused⟩ | ⟨code, hcode, -⟩
  · obtain ⟨-, rfl⟩ := Rtp.TelephoneEvent.of_codeOf_eq_error he
    rw [hrefused]
  · exact absurd (Rtp.TelephoneEvent.mem_digits_of_codeOf hcode) hdigit

theorem dials_writeDigit (hcode : Rtp.TelephoneEvent.codeOf digit = .ok code) :
    Dials net s true (Rtp.TelephoneEvent.burstOf code)
      (w.writeDigit net s digit payloadType now).1 := by
  rcases w.writeDigit_cases net s digit payloadType now with
    ⟨e, he, -⟩ | ⟨code', hcode', hend⟩
  · cases hcode.symm.trans he
  · obtain rfl : code = code' := Except.ok.inj (hcode.symm.trans hcode')
    have hdials := dials_writeEvents net s payloadType true (Rtp.TelephoneEvent.burstOf code) w now
    rcases hend with ⟨e, -, hstopped⟩ | ⟨-, hwhole⟩
    · rw [hstopped]
      exact hdials
    · rw [hwhole]
      exact ⟨hdials.carries, hdials.ends.withWriter _⟩

/-- The packet at place `i` of the burst for a digit, from a writer that stood as `w`. -/
structure IsBurstPart (w : Writer) (digit : Char) (payloadType : UInt8) (i : Nat)
    (p : Rtp.Packet) : Prop where
  sequenceNumber : p.header.sequenceNumber.toNat = (w.sequencer.upcoming.toNat + i) % 65536
  timestamp : p.header.timestamp = w.timestamp
  ssrc : p.header.ssrc = w.ssrc
  payloadType : p.header.payloadType = payloadType
  marker : p.header.marker = true ↔ i = 0
  /-- The event can be read whatever follows it. -/
  event : ∃ event, (∀ more, Rtp.TelephoneEvent.decode (p.payload ++ more) = .ok event) ∧
    event.digit? = some digit ∧ event.volume = 10 ∧
    [160, 320, 480, 640, 800, 800, 800][i]? = some event.duration.toNat ∧
    (event.ended = true ↔ 4 ≤ i)

theorem isBurstPart_of_built (hcode : Rtp.TelephoneEvent.codeOf digit = .ok code) {i : Nat}
    {p : Rtp.Packet} (hp : (w.writeDigit net s digit payloadType now).1.built[i]? = some p) :
    w.IsBurstPart digit payloadType i p := by
  obtain ⟨-, hnumber, htimestamp, hssrc⟩ :=
    (w.sendsDigit_writeDigit net s digit payloadType now).emits.header i p hp
  have htype := (w.posts_writeDigit net s digit payloadType now).payloadType_eq p
    (List.mem_of_getElem? hp)
  obtain ⟨event, hevent, hpayload, hmarker⟩ := (dials_writeDigit hcode).carries i p hp
  obtain ⟨hdigit, hvolume, hduration, hended⟩ := Rtp.TelephoneEvent.of_getElem?_burstOf hevent
  refine ⟨?_, htimestamp, hssrc, htype, ?_, event, ?_, ?_, hvolume, hduration, hended⟩
  · rw [hnumber, Rtp.Sequencer.toNat_upcoming_skip]
  · rw [hmarker, Bool.true_and, beq_iff_eq]
  · intro more
    have hkept : UInt8.ofNat (event.volume.toNat % 64) = event.volume := by
      rw [hvolume]
      rfl
    rw [hpayload, Rtp.TelephoneEvent.decode_encode, hkept]
  · rw [Rtp.TelephoneEvent.digit?, hdigit]
    exact Rtp.TelephoneEvent.digitOf?_of_codeOf hcode

theorem length_built_writeDigit_le (hcode : Rtp.TelephoneEvent.codeOf digit = .ok code) :
    (w.writeDigit net s digit payloadType now).1.built.length ≤ 7 := by
  apply Nat.le_of_not_lt
  intro hlt
  obtain ⟨event, hevent, -⟩ :=
    (dials_writeDigit hcode).carries 7 _ (List.getElem?_eq_getElem hlt)
  cases hevent

/-- What is sent is read as the packet of the burst that stands at its place. -/
theorem exists_decode_of_sent (hcode : Rtp.TelephoneEvent.codeOf digit = .ok code) {i : Nat}
    {d : Datagram} (hd : (w.writeDigit net s digit payloadType now).1.sent[i]? = some d) :
    ∃ p, Rtp.Packet.decode d.payload = .ok p ∧ w.IsBurstPart digit payloadType i p := by
  obtain ⟨p, hp, hdeliver⟩ := (dials_writeDigit hcode).ends.exists_built hd
  have hplain := ((w.sendsDigit_writeDigit net s digit payloadType now).emits.header i p hp).plain
  obtain ⟨hfits, hoctets⟩ := Rtp.Packet.encode_eq_ok_iff.mp (Session.encode_of_writeRtp hdeliver)
  refine ⟨p, ?_, isBurstPart_of_built hcode hp⟩
  rw [hoctets]
  exact Rtp.Packet.decode_datagram hfits hplain

theorem length_payload_of_built (hcode : Rtp.TelephoneEvent.codeOf digit = .ok code)
    {p : Rtp.Packet} (hp : p ∈ (w.writeDigit net s digit payloadType now).1.built) :
    p.payload.length = 4 := by
  obtain ⟨i, hi⟩ := List.mem_iff_getElem?.mp hp
  obtain ⟨event, -, hpayload, -⟩ := (dials_writeDigit hcode).carries i p hi
  rw [hpayload]
  rfl

/-- Only what was sent is counted. -/
theorem counts_writeDigit (hcode : Rtp.TelephoneEvent.codeOf digit = .ok code) :
    let y := (w.writeDigit net s digit payloadType now).1
    y.writer.packetsSent = w.packetsSent + UInt32.ofNat y.sent.length ∧
      y.writer.octetsSent = w.octetsSent + UInt32.ofNat (4 * y.sent.length) := by
  intro y
  have hemits := (w.sendsDigit_writeDigit net s digit payloadType now).emits
  have hlength : (y.built.filter fun p => (s.writeRtp net p).1.isOk).length = y.sent.length :=
    (dials_writeDigit hcode).ends.length_filter
  have hpayload : (y.built.filter fun p => (s.writeRtp net p).1.isOk).map
      (fun p => p.payload.length) = List.replicate y.sent.length 4 := by
    rw [← hlength, ← List.map_const']
    exact List.map_congr_left fun p hp =>
      length_payload_of_built hcode (List.mem_of_mem_filter hp)
  refine ⟨?_, ?_⟩
  · rw [hemits.packetsSent, hlength]
  · rw [hemits.octetsSent, hpayload, List.sum_replicate_nat, Nat.mul_comm]

end

/-- A character that is no digit is refused, and the writer is as it was. A digit goes out as
seven packets, each of which can be read by itself, and the timestamp moves past the event. If a
packet cannot be sent, that is how the call ends; each packet that was tried has taken a number,
those before the last were sent and counted, and the timestamp is where it was. -/
theorem writeDigit_burst (net : Network) (s : Session) (w : Writer) (digit : Char)
    (payloadType : UInt8) (now : Nat) :
    let y := (w.writeDigit net s digit payloadType now).1
    (digit ∉ "0123456789*#ABCD".toList →
      y = { outcome := .error (.packet (.unknownDigit digit)), writer := w }) ∧
    (digit ∈ "0123456789*#ABCD".toList →
      (∀ i d, y.sent[i]? = some d → ∃ p, Rtp.Packet.decode d.payload = .ok p ∧
        w.IsBurstPart digit payloadType i p) ∧
      ((∀ p ∈ y.built, (s.writeRtp net p).1.isOk) →
        y.outcome = .ok () ∧ y.sent.length = 7 ∧ y.built.length = 7 ∧
          y.writer.timestamp.toNat = (w.timestamp.toNat + 800) % 4294967296) ∧
      (∀ p ∈ y.built, ∀ e, (s.writeRtp net p).1 = .error e →
        y.outcome = .error e ∧ y.built.length = y.sent.length + 1 ∧ y.sent.length < 7 ∧
          y.writer.timestamp = w.timestamp) ∧
      y.writer.sequencer.upcoming.toNat =
        (w.sequencer.upcoming.toNat + y.built.length) % 65536 ∧
      y.writer.packetsSent.toNat = (w.packetsSent.toNat + y.sent.length) % 4294967296 ∧
      y.writer.octetsSent.toNat = (w.octetsSent.toNat + 4 * y.sent.length) % 4294967296) := by
  intro y
  refine ⟨fun hdigit => writeDigit_of_unknown hdigit, fun hdigit => ?_⟩
  obtain ⟨code, hcode⟩ := Rtp.TelephoneEvent.exists_codeOf hdigit
  have hends : Ends (fun p => (s.writeRtp net p).1) y := (dials_writeDigit hcode).ends
  have hle : y.built.length ≤ 7 := length_built_writeDigit_le hcode
  obtain ⟨hemits, htimestamp, -, hwhole⟩ := w.sendsDigit_writeDigit net s digit payloadType now
  have hcounts : y.writer.packetsSent = w.packetsSent + UInt32.ofNat y.sent.length ∧
      y.writer.octetsSent = w.octetsSent + UInt32.ofNat (4 * y.sent.length) :=
    counts_writeDigit hcode
  refine ⟨fun i d => exists_decode_of_sent hcode, ?_, ?_, ?_, ?_, ?_⟩
  · intro hall
    obtain ⟨houtcome, hlength⟩ := hends.of_forall_isOk hall
    have hseven : y.built.length = 7 := hwhole (by rw [houtcome]; rfl)
    refine ⟨houtcome, hlength.trans hseven, hseven, ?_⟩
    rw [htimestamp, houtcome, UInt32.toNat_add]
    rfl
  · intro p hp e he
    obtain ⟨houtcome, hlength⟩ := hends.of_error hp he
    refine ⟨houtcome, hlength, by omega, ?_⟩
    rw [htimestamp, houtcome]
    exact UInt32.add_zero _
  · rw [hemits.sequencer, Rtp.Sequencer.toNat_upcoming_skip]
  · rw [hcounts.1, UInt32.toNat_add, UInt32.toNat_ofNat', Nat.add_mod_mod]
  · rw [hcounts.2, UInt32.toNat_add, UInt32.toNat_ofNat', Nat.add_mod_mod]

/-- A digit from a writer whose numbers and timestamps are about to wrap. -/
def dialled (net : Network) (digit : Char) : Written Unit :=
  (wrappingWriter.writeDigit net loopback digit 101 0).1

theorem writeDigit_burst_wrapping :
    (dialled .lossless '5').outcome = .ok () ∧ (dialled .lossless '5').sent.length = 7 ∧
      (dialled .lossless '5').writer.timestamp.toNat = 794 ∧
      (dialled .lossless '5').writer.sequencer.upcoming.toNat = 6 ∧
    (dialled .isolated '5').outcome = .error (.io .unreachable) ∧
      (dialled .isolated '5').writer.timestamp = wrappingWriter.timestamp ∧
      (dialled .isolated '5').writer.sequencer.upcoming.toNat = 0 ∧
    dialled .lossless 'x' =
      { outcome := .error (.packet (.unknownDigit 'x')), writer := wrappingWriter } := by
  have hcarried : ∀ p ∈ (dialled .lossless '5').built,
      (loopback.writeRtp .lossless p).1.isOk := by
    decide
  have hlost : ∃ p ∈ (dialled .isolated '5').built,
      (loopback.writeRtp .isolated p).1 = .error (.io .unreachable) :=
    ⟨_, List.mem_singleton_self _, rfl⟩
  obtain ⟨p, hp, he⟩ := hlost
  obtain ⟨-, hwhole, -, hnumber, -⟩ :=
    (writeDigit_burst .lossless loopback wrappingWriter '5' 101 0).2 (by decide)
  obtain ⟨houtcome, hlength, hbuilt, htimestamp⟩ := hwhole hcarried
  rw [hbuilt] at hnumber
  obtain ⟨-, -, hstopped, hnumber', -⟩ :=
    (writeDigit_burst .isolated loopback wrappingWriter '5' 101 0).2 (by decide)
  obtain ⟨houtcome', -, -, htimestamp'⟩ := hstopped p hp _ he
  exact ⟨houtcome, hlength, htimestamp, hnumber, houtcome', htimestamp', hnumber',
    (writeDigit_burst .lossless loopback wrappingWriter 'x' 101 0).1 (by decide)⟩

end Writer

end Media

end MediaTransport
