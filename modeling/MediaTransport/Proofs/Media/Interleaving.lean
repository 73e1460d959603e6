import MediaTransport.Proofs.Media.EndToEnd
import MediaTransport.Proofs.Media.Writing

/-!
# Digits among frames

A writer numbers all of its packets in one row, whatever their type (`Posted`). A reader turns
packets of another type away before it looks at their numbers, so what it accepts of the row are
the frames alone, and a digit that was sent between two of them is a gap of seven numbers. The
reader counts it as disorder, although nothing was lost, repeated or moved.

The main statement says exactly when it counts none: the numbers of two frames follow each other
only where no digit was sent in between, or so many that the numbers have wrapped around.
-/

namespace MediaTransport.Media

open Net

/-- A frame or a digit, and what it meets. -/
inductive Utterance
  | frame (network : Network) (session : Session) (payload : Bytes) (now : Nat)
  | digit (network : Network) (session : Session) (digit : Char) (payloadType : UInt8) (now : Nat)

namespace Utterance

def call : Utterance → WriterCall
  | frame network session payload now => .send ⟨network, session, payload, .frame now⟩
  | digit network session key payloadType now => .digit network session key payloadType now

/-- The type of its packets, from a writer that has one of its own. -/
def payloadType (own : UInt8) : Utterance → UInt8
  | frame _ _ _ _ => own
  | digit _ _ _ payloadType _ => payloadType

/-- How many packets it is sent as. -/
def size : Utterance → Nat
  | frame _ _ _ _ => 1
  | digit _ _ _ _ _ => 7

/-- A digit has another type than the frames. -/
def IsApart (own : UInt8) : Utterance → Prop
  | frame _ _ _ _ => True
  | digit _ _ _ payloadType _ => payloadType ≠ own

/-- The places of the frames in the row of all packets, which begins at the place `n`. -/
def framePlaces (n : Nat) : List Utterance → List Nat
  | [] => []
  | frame _ _ _ _ :: xs => n :: framePlaces (n + 1) xs
  | digit _ _ _ _ _ :: xs => framePlaces (n + 7) xs

theorem framePlaces_cons (n : Nat) (x : Utterance) (xs : List Utterance) :
    framePlaces n [x] ++ framePlaces (n + x.size) xs = framePlaces n (x :: xs) := by
  cases x <;> rfl

/-- How many digits stand between a frame and the next one, for all frames but the last. So many
have come since the last frame, if there was one. -/
def digitsBetween (since : Option Nat) : List Utterance → List Nat
  | [] => []
  | frame _ _ _ _ :: xs => since.toList ++ digitsBetween (some 0) xs
  | digit _ _ _ _ _ :: xs => digitsBetween (since.map (· + 1)) xs

/-! ## Places that follow each other -/

section

variable {xs : List Utterance}

theorem isChain_cons_framePlaces_iff {a k : Nat} :
    (a :: framePlaces (a + 1 + 7 * k) xs).IsChain (fun a b => b % 65536 = (a + 1) % 65536) ↔
      ∀ n ∈ digitsBetween (some k) xs, 65536 ∣ n := by
  -- `k` digits have come since the frame at the place `a`.
  induction xs generalizing a k with
  | nil => exact iff_of_true (.singleton a) (List.forall_mem_nil _)
  | cons x xs ih =>
      cases x with
      | frame _ _ _ _ =>
          -- Seven is odd, so a multiple of seven is one of 65536 only if the other factor is.
          have hgap : (a + 1 + 7 * k) % 65536 = (a + 1) % 65536 ↔ 65536 ∣ k := by omega
          have hrest := ih (a := a + 1 + 7 * k) (k := 0)
          rw [Nat.mul_zero, Nat.add_zero] at hrest
          rw [framePlaces, List.isChain_cons_cons, hgap, hrest, digitsBetween, Option.toList_some,
            List.singleton_append, List.forall_mem_cons]
      | digit _ _ _ _ _ =>
          have hplace : a + 1 + 7 * k + 7 = a + 1 + 7 * (k + 1) := by omega
          rw [framePlaces, hplace, ih, digitsBetween, Option.map_some]

theorem isChain_framePlaces_iff {n : Nat} :
    (framePlaces n xs).IsChain (fun a b => b % 65536 = (a + 1) % 65536) ↔
      ∀ n ∈ digitsBetween none xs, 65536 ∣ n := by
  induction xs generalizing n with
  | nil => exact iff_of_true .nil (List.forall_mem_nil _)
  | cons x xs ih =>
      cases x with
      | frame _ _ _ _ => exact isChain_cons_framePlaces_iff (k := 0)
      | digit _ _ _ _ _ => exact ih

end

end Utterance

/-! ## Packets in a row -/

/-- A row of packets with plain headers, of any types, and the datagrams that they are sent as. -/
structure Posted (ssrc : UInt32) (first : Nat) (packets : List Rtp.Packet)
    (datagrams : List Bytes) : Prop where
  datagrams_eq : datagrams = packets.map Rtp.Packet.datagram
  row : Rtp.History.IsRow ssrc first (packets.map Rtp.Packet.header)
  fits : ∀ p ∈ packets, p.header.Fits
  plain : ∀ p ∈ packets, p.header.IsPlain

namespace Posted

variable {ssrc : UInt32} {first : Nat} {early late : List Rtp.Packet}
  {datagrams rest : List Bytes}

theorem nil (ssrc : UInt32) (first : Nat) : Posted ssrc first [] [] :=
  ⟨rfl, .nil ssrc first, List.forall_mem_nil _, List.forall_mem_nil _⟩

theorem append (hearly : Posted ssrc first early datagrams)
    (hlate : Posted ssrc (first + early.length) late rest) :
    Posted ssrc first (early ++ late) (datagrams ++ rest) := by
  refine ⟨?_, ?_, ?_, ?_⟩
  · rw [hearly.datagrams_eq, hlate.datagrams_eq, List.map_append]
  · rw [List.map_append]
    refine hearly.row.append ?_
    rw [List.length_map]
    exact hlate.row
  · exact List.forall_mem_append.mpr ⟨hearly.fits, hlate.fits⟩
  · exact List.forall_mem_append.mpr ⟨hearly.plain, hlate.plain⟩

end Posted

/-! ## One call -/

namespace Writer

/-- What a call does with the types of its packets, and with the packets if all can be sent. -/
structure Posts (w : Writer) (payloadType : UInt8) (y : Written Unit) : Prop where
  payloadType_eq : ∀ p ∈ y.built, p.header.payloadType = payloadType
  own : y.writer.payloadType = w.payloadType
  fits : y.outcome.isOk → ∀ p ∈ y.built, p.header.Fits
  sent : y.outcome.isOk → y.sent.map Datagram.payload = y.built.map Rtp.Packet.datagram

variable {w : Writer} {payloadType : UInt8}

theorem Sends.posts {payload : Bytes} {y : Written Nat} (h : w.Sends payload payloadType y) :
    w.Posts payloadType { y with outcome := y.outcome.map fun _ => () } := by
  obtain ⟨⟨marker, hbuilt⟩, -, -, hown, hsent⟩ := h
  have hencode (hok : (y.outcome.map fun _ => ()).isOk) : ∃ d, y.sent = [d] ∧
      (w.packetFor payload marker payloadType).encode = .ok d.payload := by
    have hok : y.outcome.isOk := by
      cases houtcome : y.outcome with
      | error e =>
          rw [houtcome] at hok
          cases hok
      | ok n => rfl
    obtain ⟨d, hd, hencode⟩ := hsent hok
    rw [hbuilt] at hencode
    exact ⟨d, hd, hencode _ (List.mem_singleton_self _)⟩
  refine ⟨?_, hown, ?_, ?_⟩
  · rw [hbuilt, List.forall_mem_singleton]
    rfl
  · intro hok
    obtain ⟨d, -, hencode⟩ := hencode hok
    rw [hbuilt, List.forall_mem_singleton]
    exact (Rtp.Packet.encode_eq_ok_iff.mp hencode).1
  · intro hok
    obtain ⟨d, hd, hencode⟩ := hencode hok
    rw [hbuilt, hd, List.map_singleton, List.map_singleton,
      (Rtp.Packet.encode_eq_ok_iff.mp hencode).2]
    rfl

theorem posts_writeEvents (net : Network) (s : Session) (payloadType : UInt8) (marker : Bool)
    (events : List Rtp.TelephoneEvent) (w : Writer) (now : Nat) :
    w.Posts payloadType (writeEvents net s payloadType marker events w now).1 := by
  refine writeEvents_induction (motive := fun _ _ w y => w.Posts payloadType y)
    ?nil ?stop ?next marker events w now
  case nil =>
    exact fun _ _ =>
      ⟨List.forall_mem_nil _, rfl, fun _ => List.forall_mem_nil _, fun _ => rfl⟩
  case stop =>
    intro marker event events w e one _
    obtain ⟨htype, hown, -, -⟩ :=
      (sends_writeSamples net s w event.encode 0 marker payloadType).posts
    exact ⟨htype, hown, fun hok => (by cases hok), fun hok => (by cases hok)⟩
  case next =>
    intro marker event events w n now rest one houtcome hrest
    obtain ⟨htype, hown, hfits, hsent⟩ :=
      (sends_writeSamples net s w event.encode 0 marker payloadType).posts
    rw [houtcome] at hfits hsent
    refine ⟨?_, hrest.own.trans hown, ?_, ?_⟩
    · exact List.forall_mem_append.mpr ⟨htype, hrest.payloadType_eq⟩
    · intro hok
      exact List.forall_mem_append.mpr ⟨hfits rfl, hrest.fits hok⟩
    · intro hok
      rw [goOn, List.map_append, List.map_append, hsent rfl, hrest.sent hok]

theorem posts_writeDigit (net : Network) (s : Session) (w : Writer) (digit : Char)
    (payloadType : UInt8) (now : Nat) :
    w.Posts payloadType (w.writeDigit net s digit payloadType now).1 := by
  rcases w.writeDigit_cases net s digit payloadType now with
    ⟨e, -, hrefused⟩ | ⟨code, -, ⟨e, houtcome, hstopped⟩ | ⟨houtcome, hwhole⟩⟩
  · rw [hrefused]
    exact ⟨List.forall_mem_nil _, rfl, fun hok => (by cases hok), fun hok => (by cases hok)⟩
  · rw [hstopped]
    exact posts_writeEvents net s payloadType true _ w now
  · obtain ⟨htype, hown, hfits, hsent⟩ := posts_writeEvents net s payloadType true
      (Rtp.TelephoneEvent.burstOf code) w now
    rw [hwhole]
    exact ⟨htype, hown, hfits, hsent⟩

theorem posts_call (w : Writer) (x : Utterance) :
    w.Posts (x.payloadType w.payloadType) (Writing.result ⟨w, x.call⟩) := by
  cases x with
  | frame net s payload now => exact (w.sends_send ⟨net, s, payload, .frame now⟩).posts
  | digit net s digit payloadType now => exact w.posts_writeDigit net s digit payloadType now

theorem Emits.isRow {delivers : Rtp.Packet → Bool} {built : List Rtp.Packet} {after : Writer}
    {first : Nat} (h : Emits delivers w built after)
    (hnumber : w.sequencer.upcoming = UInt16.ofNat first) :
    Rtp.History.IsRow w.ssrc first (built.map Rtp.Packet.header) := by
  refine ⟨?_, ?_⟩
  · rw [List.forall_mem_map]
    intro p hp
    obtain ⟨i, hi⟩ := List.mem_iff_getElem?.mp hp
    exact (h.header i p hi).ssrc
  · rw [List.length_map, List.map_map]
    refine List.ext_getElem? fun i => ?_
    rw [List.getElem?_map, List.getElem?_map]
    by_cases hi : i < built.length
    · have hnumber' := (h.header i _ (List.getElem?_eq_getElem hi)).sequenceNumber
      rw [List.getElem?_eq_getElem hi, List.getElem?_range hi, Option.map_some, Option.map_some,
        Function.comp_apply, hnumber', Rtp.Sequencer.skip, hnumber, UInt16.ofNat_add]
    · have hle : built.length ≤ i := Nat.le_of_not_lt hi
      rw [List.getElem?_eq_none hle, List.getElem?_eq_none (List.length_range.symm ▸ hle)]
      rfl

/-! ## All calls -/

/-- What a call leaves for the next one. -/
structure GoesOn (w : Writer) (first : Nat) (x : Utterance) (after : Writer) : Prop where
  number : after.sequencer.upcoming = UInt16.ofNat (first + x.size)
  ssrc : after.ssrc = w.ssrc
  own : after.payloadType = w.payloadType

variable {first : Nat} {x : Utterance} {xs : List Utterance}

theorem length_built_of_isOk (hok : (Writing.result ⟨w, x.call⟩).outcome.isOk) :
    (Writing.built ⟨w, x.call⟩).length = x.size := by
  cases x with
  | frame net s payload now =>
      obtain ⟨marker, hbuilt⟩ := (w.sends_send ⟨net, s, payload, .frame now⟩).built
      exact congrArg List.length hbuilt
  | digit net s digit payloadType now =>
      exact (w.sendsDigit_writeDigit net s digit payloadType now).whole hok

theorem goesOn_result (hnumber : w.sequencer.upcoming = UInt16.ofNat first)
    (hok : (Writing.result ⟨w, x.call⟩).outcome.isOk) :
    w.GoesOn first x (Writing.result ⟨w, x.call⟩).writer := by
  obtain ⟨hemits, -, hssrc⟩ := Writing.moves ⟨w, x.call⟩
  refine ⟨?_, ?_, (w.posts_call x).own⟩
  · rw [hemits.sequencer, length_built_of_isOk hok, Rtp.Sequencer.skip, hnumber, UInt16.ofNat_add]
  · rw [hssrc]
    cases x <;> rfl

theorem posted_result (hnumber : w.sequencer.upcoming = UInt16.ofNat first)
    (hok : (Writing.result ⟨w, x.call⟩).outcome.isOk) :
    Posted w.ssrc first (Writing.built ⟨w, x.call⟩)
      ((Writing.result ⟨w, x.call⟩).sent.map Datagram.payload) := by
  have hemits := (Writing.moves ⟨w, x.call⟩).emits
  have hposts := w.posts_call x
  refine ⟨hposts.sent hok, hemits.isRow hnumber, hposts.fits hok, ?_⟩
  intro p hp
  obtain ⟨i, hi⟩ := List.mem_iff_getElem?.mp hp
  exact (hemits.header i p hi).plain

theorem posted_writings (hnumber : w.sequencer.upcoming = UInt16.ofNat first)
    (hsent : ∀ y ∈ w.writings (xs.map Utterance.call), y.result.outcome.isOk) :
    Posted w.ssrc first ((w.writings (xs.map Utterance.call)).flatMap Writing.built)
      (((w.writings (xs.map Utterance.call)).flatMap fun y => y.result.sent).map
        Datagram.payload) := by
  induction xs generalizing w first with
  | nil => exact .nil w.ssrc first
  | cons x xs ih =>
      rw [List.map_cons, writings, List.forall_mem_cons] at hsent
      obtain ⟨hok, hsent⟩ := hsent
      have hon := goesOn_result hnumber hok
      have hrest := ih hon.number hsent
      rw [hon.ssrc, ← length_built_of_isOk hok] at hrest
      rw [List.map_cons, writings, List.flatMap_cons, List.flatMap_cons, List.map_append]
      exact (posted_result hnumber hok).append hrest

theorem numbers_filter_built (hnumber : w.sequencer.upcoming = UInt16.ofNat first)
    (hx : x.IsApart w.payloadType) :
    ((Writing.built ⟨w, x.call⟩).filter fun p => p.header.payloadType = w.payloadType).map
        (fun p => p.header.sequenceNumber) =
      (Utterance.framePlaces first [x]).map UInt16.ofNat := by
  have htypes : ∀ p ∈ Writing.built ⟨w, x.call⟩,
      p.header.payloadType = x.payloadType w.payloadType := (w.posts_call x).payloadType_eq
  cases x with
  | frame net s payload now =>
      obtain ⟨marker, hbuilt⟩ := (w.sends_send ⟨net, s, payload, .frame now⟩).built
      have hall := List.filter_eq_self.mpr fun p hp => decide_eq_true (htypes p hp)
      rw [Utterance.payloadType] at hall
      rw [hall, Utterance.framePlaces, Utterance.framePlaces, List.map_singleton, ← hnumber]
      exact congrArg (List.map fun p => p.header.sequenceNumber) hbuilt
  | digit net s digit payloadType now =>
      rw [List.filter_eq_nil_iff.mpr fun p hp htype =>
        hx ((htypes p hp).symm.trans (of_decide_eq_true htype))]
      rfl

/-- The frames of the row stand where no digit does. -/
theorem numbers_filter_writings (hnumber : w.sequencer.upcoming = UInt16.ofNat first)
    (hapart : ∀ x ∈ xs, x.IsApart w.payloadType)
    (hsent : ∀ y ∈ w.writings (xs.map Utterance.call), y.result.outcome.isOk) :
    (((w.writings (xs.map Utterance.call)).flatMap Writing.built).filter fun p =>
        p.header.payloadType = w.payloadType).map (fun p => p.header.sequenceNumber) =
      (Utterance.framePlaces first xs).map UInt16.ofNat := by
  induction xs generalizing w first with
  | nil => rfl
  | cons x xs ih =>
      rw [List.map_cons, writings, List.forall_mem_cons] at hsent
      obtain ⟨hok, hsent⟩ := hsent
      obtain ⟨hx, hapart⟩ := List.forall_mem_cons.mp hapart
      have hon := goesOn_result hnumber hok
      have hrest := ih hon.number (hon.own ▸ hapart) hsent
      rw [hon.own] at hrest
      rw [List.map_cons, writings, List.flatMap_cons, List.filter_append, List.map_append, hrest,
        numbers_filter_built hnumber hx, ← List.map_append, Utterance.framePlaces_cons]

end Writer

/-! ## What a reader accepts of it -/

theorem Posted.accepted_eq {ssrc : UInt32} {first : Nat} {packets : List Rtp.Packet}
    {readings : List Reading} {payloadType : UInt8}
    (h : Posted ssrc first packets (readings.flatMap Reading.taken))
    (hreadings : ∀ x ∈ readings, x.reader.payloadType = payloadType) :
    readings.flatMap Reading.accepted =
      (packets.filter fun p => p.header.payloadType = payloadType).map Rtp.Packet.cut := by
  have hall : ∀ x ∈ readings, x.accepted =
      (x.taken.filterMap packetOf?).filter fun p => p.header.payloadType = payloadType := by
    intro x hx
    rw [x.accepted_eq_filter, hreadings x hx]
  rw [List.flatMap_congr hall, ← List.filter_flatMap, ← List.filterMap_flatMap,
    h.datagrams_eq, filterMap_packetOf?_map_datagram h.fits h.plain, List.filter_map]
  rfl

/-- What a reader counts of a row whose frames have these numbers. -/
theorem Records.outOfOrder_eq_zero_iff {r : Reader} {frames : List Rtp.Packet} {ssrc : UInt32}
    {places : List Nat} (hr : Records r (frames.map Rtp.Packet.cut))
    (hssrc : ∀ p ∈ frames, p.header.ssrc = ssrc)
    (hnumbers : frames.map (fun p => p.header.sequenceNumber) = places.map UInt16.ofNat) :
    r.counts.outOfOrder = 0 ↔ places.IsChain (fun a b => b % 65536 = (a + 1) % 65536) := by
  have hheaders : (frames.map Rtp.Packet.cut).map Rtp.Packet.header =
      frames.map Rtp.Packet.header := List.map_map
  have hsource : ∀ h ∈ frames.map Rtp.Packet.header, h.ssrc = ssrc := by
    rw [List.forall_mem_map]
    exact hssrc
  have hplaces : (frames.map Rtp.Packet.header).map Rtp.Header.sequenceNumber =
      places.map UInt16.ofNat := List.map_map.trans hnumbers
  rw [hr.tracks.outOfOrder, hheaders, Rtp.History.count_isStray_eq_zero_iff hsource,
    Rtp.History.isChain_isNext_iff hplaces]

/-- On a channel that hands over every datagram once and in order, a reader of the frames that
takes all of them counts none as out of order or late exactly when the number of digits between
any two successive frames is a multiple of 65536, which in practice is none at all. -/
theorem inOrder_iff {w : Writer} {xs : List Utterance} {b : Session}
    {events : List ReceptionEvent} (hapart : ∀ x ∈ xs, x.IsApart w.payloadType)
    (hsent : ∀ y ∈ w.writings (xs.map Utterance.call), y.result.outcome.isOk)
    (hexpected : ∀ t, .setPayloadType t ∈ events → t = w.payloadType)
    (hchannel : b.inbox ++ Reception.arrivals events =
      ((w.writings (xs.map Utterance.call)).flatMap fun y => y.result.sent).map Datagram.payload)
    (hread : ((Reception.run ⟨{ payloadType := w.payloadType }, b, none⟩ events).1.flatMap
      Reading.taken).length = (b.inbox ++ Reception.arrivals events).length) :
    let start : Reception := ⟨{ payloadType := w.payloadType }, b, none⟩
    let reader := (start.run events).2.reader
    reader.counts.outOfOrder = 0 ∧ reader.counts.regressions = 0 ↔
      ∀ n ∈ Utterance.digitsBetween none xs, 65536 ∣ n := by
  intro start reader
  have hnumber : w.sequencer.upcoming = UInt16.ofNat w.sequencer.upcoming.toNat :=
    UInt16.ofNat_toNat.symm
  have hposted := Writer.posted_writings hnumber hsent
  have htaken := (start.queue_run events).1.eq_of_length hread
  -- What has been read off the queue is all that was sent, in the same order.
  rw [← hchannel, ← htaken] at hposted
  have hreadings := (Reception.payloadType_run (c := start) hexpected).readings
  have hstart : Records start.reader [] := .of_new w.payloadType
  have hrecords : Records reader ((start.run events).1.flatMap Reading.accepted) :=
    Reception.records_run hstart events
  rw [hposted.accepted_eq hreadings] at hrecords
  have hssrc : ∀ p ∈ ((w.writings (xs.map Utterance.call)).flatMap Writing.built).filter
      (fun p => p.header.payloadType = w.payloadType), p.header.ssrc = w.ssrc := by
    intro p hp
    exact hposted.row.ssrc_eq _ (List.mem_map_of_mem (List.mem_filter.mp hp).1)
  have hzero := hrecords.outOfOrder_eq_zero_iff hssrc
    (Writer.numbers_filter_writings hnumber hapart hsent)
  have hle := hrecords.tracks.regressions_le_outOfOrder
  rw [← Utterance.isChain_framePlaces_iff, ← hzero]
  exact ⟨And.left, fun h => ⟨h, Nat.le_zero.mp (h ▸ hle)⟩⟩

def spokenFrame (payload : Bytes) : Utterance :=
  .frame .lossless loopback payload 0

def dialledDigit : Utterance :=
  .digit .lossless loopback '5' 101 0

/-- All that is sent arrives, and is read one datagram at a time. -/
def readAll (xs : List Utterance) : List ReceptionEvent :=
  (((wrappingWriter.writings (xs.map Utterance.call)).flatMap fun y => y.result.sent).map
    fun d => ReceptionEvent.arrive d.payload) ++
      (xs.flatMap fun x => List.replicate x.size (.read 160))

def digitFirst : List Utterance :=
  [dialledDigit, spokenFrame [1, 2], spokenFrame [3]]

theorem inOrder_iff_digitFirst :
    let start : Reception := ⟨{ payloadType := 0 }, loopback, none⟩
    let reader := (start.run (readAll digitFirst)).2.reader
    (∀ y ∈ wrappingWriter.writings (digitFirst.map Utterance.call), y.result.outcome.isOk) ∧
      reader.counts.outOfOrder = 0 ∧ reader.counts.regressions = 0 := by
  have hapart : ∀ x ∈ digitFirst, x.IsApart wrappingWriter.payloadType := by
    simp [digitFirst, dialledDigit, spokenFrame, Utterance.IsApart, wrappingWriter]
  have hsent : ∀ y ∈ wrappingWriter.writings (digitFirst.map Utterance.call),
      y.result.outcome.isOk := by
    decide
  have hexpected : ∀ t, .setPayloadType t ∈ readAll digitFirst → t = 0 := by
    intro t ht
    simp [readAll] at ht
  have hgaps : ∀ n ∈ Utterance.digitsBetween none digitFirst, 65536 ∣ n := by decide
  exact ⟨hsent, (inOrder_iff (b := loopback) hapart hsent hexpected (by decide) (by decide)).mpr
    hgaps⟩

/-- One digit between two frames is enough for the reader to count disorder, although all that
is sent is taken as it was sent. -/
theorem outOfOrder_around_digit :
    let xs := [spokenFrame [1, 2], dialledDigit, spokenFrame [3]]
    let writings := wrappingWriter.writings (xs.map Utterance.call)
    let start : Reception := ⟨{ payloadType := 0 }, loopback, none⟩
    let (readings, after) := start.run (readAll xs)
    (∀ y ∈ writings, y.result.outcome.isOk) ∧
      readings.flatMap Reading.taken =
        (writings.flatMap fun y => y.result.sent).map Datagram.payload ∧
      after.reader.counts.packets = 2 ∧ after.reader.counts.outOfOrder = 1 := by
  decide

end MediaTransport.Media
