import MediaTransport.Proofs.Media.Reception
import MediaTransport.Proofs.Rtp.History

/-!
# What a reader knows of its source

A reader keeps one tracker and a handful of counts. `Records r past` says what they
mean, in terms of the packets accepted so far, oldest first, and of nothing else: the
tracker is that of the packets since the source last changed, and each count is a
number of packets with a property that only the packets before them decide.

One accepted packet keeps this (`Records.accept`), and so does every read, because one
that fails leaves the reader as it was. A run of reads then keeps it too.
-/

namespace MediaTransport.Media

open Rtp

/-! ## One packet -/

namespace Reader

theorem exists_follow_eq (r : Reader) (seq : UInt16) :
    ∃ notices, r.follow seq =
      ({ r with
         tracker := r.tracker.advance seq
         counts :=
           { r.counts with
             regressions := r.counts.regressions +
               if r.tracker.update seq = .error (.sequenceRegression r.tracker.last seq) then 1
               else 0
             outOfOrder := r.counts.outOfOrder +
               if seq.toNat ≠ (r.tracker.last.toNat + 1) % 65536 then 1 else 0 } },
        notices) := by
  have hnext := r.tracker.extended_advance_eq_iff seq
  rw [follow]
  by_cases hstep : (r.tracker.advance seq).extended = r.tracker.extended + 1
  · rw [if_pos hstep, if_neg (not_not_intro (hnext.mp hstep))]
    cases hupdate : r.tracker.update seq with
    | ok t =>
        rw [if_neg (by exact nofun)]
        exact ⟨_, rfl⟩
    | error e =>
        rw [if_pos (congrArg _ (Rtp.Tracker.eq_of_update_eq_error hupdate))]
        exact ⟨_, rfl⟩
  · rw [if_neg hstep, if_pos (hstep ∘ hnext.mpr)]
    cases hupdate : r.tracker.update seq with
    | ok t =>
        rw [if_neg (by exact nofun)]
        exact ⟨_, rfl⟩
    | error e =>
        rw [if_pos (congrArg _ (Rtp.Tracker.eq_of_update_eq_error hupdate))]
        exact ⟨_, rfl⟩

theorem track_of_eq {r followed : Reader} {h : Rtp.Header} {notices : List Notice}
    (hssrc : r.lastSsrc = some h.ssrc)
    (hfollow : r.follow h.sequenceNumber = (followed, notices)) :
    r.track h = ({ followed with lastSsrc := some h.ssrc }, notices) := by
  rw [track, if_pos hssrc, hfollow]

theorem track_of_ne {r : Reader} {h : Rtp.Header} (hssrc : r.lastSsrc ≠ some h.ssrc) :
    r.track h = ({ r.turnTo h.sequenceNumber with lastSsrc := some h.ssrc }, []) := by
  rw [track, if_neg hssrc]

/-- The place of a packet in its stream is all that is noted. -/
theorem track_frame (r : Reader) (h : Rtp.Header) :
    (r.track h).1.payloadType = r.payloadType ∧
      (r.track h).1.counts.packets = r.counts.packets ∧
      (r.track h).1.counts.octets = r.counts.octets := by
  by_cases hssrc : r.lastSsrc = some h.ssrc
  · obtain ⟨notices, hfollow⟩ := r.exists_follow_eq h.sequenceNumber
    rw [track_of_eq hssrc hfollow]
    exact ⟨rfl, rfl, rfl⟩
  · rw [track_of_ne hssrc]
    exact ⟨rfl, rfl, rfl⟩

theorem payloadType_accept (r : Reader) (p : Rtp.Packet) :
    (r.accept p).1.payloadType = r.payloadType := by
  have htype := (r.track_frame p.header).1
  rw [accept]
  generalize r.track p.header = tracked at htype ⊢
  exact htype

end Reader

/-- What a reader has kept of the order of some packets, oldest first. -/
structure Tracks (r : Reader) (past : List Rtp.Header) : Prop where
  lastSsrc : r.lastSsrc = past.getLast?.map Rtp.Header.ssrc
  tracker : r.tracker = History.tracker past
  sourceChanges : r.counts.sourceChanges = History.count History.IsTurn [] past
  regressions : r.counts.regressions = History.count History.IsRegression [] past
  outOfOrder : r.counts.outOfOrder = History.count History.IsStray [] past

namespace Tracks

variable {r : Reader} {past : List Rtp.Header}

theorem lastSsrc_eq_iff (hr : Tracks r past) (h : Rtp.Header) :
    r.lastSsrc = some h.ssrc ↔ History.Continues past h := by
  rw [hr.lastSsrc, History.Continues]

theorem isSome_lastSsrc_iff (hr : Tracks r past) : r.lastSsrc.isSome ↔ past ≠ [] := by
  rw [hr.lastSsrc, Option.isSome_map, List.getLast?_isSome]

theorem track_of_continues (hr : Tracks r past) {h : Rtp.Header}
    (hon : History.Continues past h) : Tracks (r.track h).1 (past ++ [h]) := by
  obtain ⟨notices, hfollow⟩ := r.exists_follow_eq h.sequenceNumber
  rw [Reader.track_of_eq ((hr.lastSsrc_eq_iff h).mpr hon) hfollow]
  refine ⟨?_, ?_, ?_, ?_, ?_⟩
  · rw [List.getLast?_concat, Option.map_some]
  · rw [History.tracker_append_of_continues hon, hr.tracker]
  · rw [History.count_append_singleton, hr.sourceChanges, List.nil_append,
      if_neg fun hturn => hturn.2 hon, Nat.add_zero]
  · rw [History.count_append_singleton, hr.regressions, List.nil_append, hr.tracker]
    exact congrArg _ (if_congr (and_iff_right hon).symm rfl rfl)
  · rw [History.count_append_singleton, hr.outOfOrder, List.nil_append, hr.tracker]
    exact congrArg _ (if_congr (and_iff_right hon).symm rfl rfl)

theorem track_of_not_continues (hr : Tracks r past) {h : Rtp.Header}
    (hoff : ¬ History.Continues past h) : Tracks (r.track h).1 (past ++ [h]) := by
  rw [Reader.track_of_ne (mt (hr.lastSsrc_eq_iff h).mp hoff), Reader.turnTo]
  refine ⟨?_, ?_, ?_, ?_, ?_⟩
  · rw [List.getLast?_concat, Option.map_some]
  · rw [History.tracker_append_of_not_continues hoff]
  · rw [History.count_append_singleton, hr.sourceChanges, List.nil_append]
    have hturn : r.lastSsrc.isSome ↔ History.IsTurn past h :=
      hr.isSome_lastSsrc_iff.trans (and_iff_left hoff).symm
    exact congrArg _ (if_congr hturn rfl rfl)
  · rw [History.count_append_singleton, hr.regressions, List.nil_append,
      if_neg fun hregression => hoff hregression.1, Nat.add_zero]
  · rw [History.count_append_singleton, hr.outOfOrder, List.nil_append,
      if_neg fun hstray => hoff hstray.1, Nat.add_zero]

theorem track (hr : Tracks r past) (h : Rtp.Header) : Tracks (r.track h).1 (past ++ [h]) := by
  by_cases hon : History.Continues past h
  · exact hr.track_of_continues hon
  · exact hr.track_of_not_continues hon

/-- Every number that was refused has also been counted as out of order. -/
theorem regressions_le_outOfOrder (hr : Tracks r past) :
    r.counts.regressions ≤ r.counts.outOfOrder := by
  rw [hr.regressions, hr.outOfOrder]
  exact History.count_isRegression_le [] past

end Tracks

/-- What a reader has kept of the packets that it has accepted, oldest first. -/
structure Records (r : Reader) (past : List Rtp.Packet) : Prop where
  tracks : Tracks r (past.map Rtp.Packet.header)
  lastHeader : r.lastHeader = past.getLast?.map Rtp.Packet.header
  packets : r.counts.packets = past.length
  octets : r.counts.octets = (past.map fun p => p.payload.length).sum

namespace Records

variable {r : Reader} {past : List Rtp.Packet}

theorem of_new (payloadType : UInt8) : Records { payloadType := payloadType } [] :=
  ⟨⟨rfl, rfl, rfl, rfl, rfl⟩, rfl, rfl, rfl⟩

/-- What is expected and what is pending are no part of the record. -/
theorem congr (hr : Records r past) (payloadType : UInt8) (pending : Bytes) :
    Records { r with payloadType := payloadType, pending := pending } past := by
  obtain ⟨⟨hssrc, htracker, hchanges, hregressions, hdisorder⟩, hheader, hpackets, hoctets⟩ := hr
  exact ⟨⟨hssrc, htracker, hchanges, hregressions, hdisorder⟩, hheader, hpackets, hoctets⟩

theorem accept (hr : Records r past) (p : Rtp.Packet) :
    Records (r.accept p).1 (past ++ [p]) := by
  have htracks := hr.tracks.track p.header
  obtain ⟨-, hpackets, hoctets⟩ := r.track_frame p.header
  rw [Reader.accept]
  generalize r.track p.header = tracked at htracks hpackets hoctets ⊢
  refine ⟨?_, ?_, ?_, ?_⟩
  · rw [List.map_append]
    obtain ⟨hssrc, htracker, hchanges, hregressions, hdisorder⟩ := htracks
    exact ⟨hssrc, htracker, hchanges, hregressions, hdisorder⟩
  · rw [List.getLast?_concat, Option.map_some]
  · rw [List.length_append, List.length_singleton, ← hr.packets, ← hpackets]
  · rw [List.map_append, List.sum_append, List.map_singleton, List.sum_singleton, ← hr.octets,
      ← hoctets]

end Records

/-! ## One read -/

/-- The packet of a datagram, as far as a buffer holds it. -/
def packetOf? (datagram : Bytes) : Option Rtp.Packet :=
  (Rtp.Packet.decode (datagram.take Rtp.datagramLimit)).toOption

theorem packetOf?_eq_some_iff {d : Bytes} {p : Rtp.Packet} :
    packetOf? d = some p ↔ Rtp.Packet.decode (d.take Rtp.datagramLimit) = .ok p := by
  rw [packetOf?]
  cases Rtp.Packet.decode (d.take Rtp.datagramLimit) with
  | error e => exact iff_of_false nofun nofun
  | ok q => rw [Except.toOption, Option.some.injEq, Except.ok.injEq]

theorem packetOf?_of_expect_eq_ok {r : Reader} {d : Bytes} {p : Rtp.Packet}
    (h : r.expect (d.take Rtp.datagramLimit) = .ok p) : packetOf? d = some p :=
  packetOf?_eq_some_iff.mpr (Reader.expect_eq_ok_iff.mp h).1

namespace Reading

variable {x : Reading}

/-- The packets of the datagrams that a read took, if it did not fail. -/
def accepted (x : Reading) : List Rtp.Packet :=
  match x.result.attempt with
  | .done (.ok _) => x.taken.filterMap packetOf?
  | _ => []

/-- It is the packet that the read says it has accepted, if there is one. -/
theorem accepted_eq (x : Reading) : x.accepted = x.result.accepted.toList := by
  have hcase := x.readCase
  rw [accepted]
  generalize hresult : x.result = result at hcase
  cases hcase with
  | drained _ =>
      rw [taken_eq_nil (by rw [hresult])]
      rfl
  | ended _ _ | waiting _ _ _ | refused _ _ _ => rfl
  | accepted _ hinbox hexpect =>
      rw [taken_eq_singleton hinbox (by rw [hresult])]
      exact List.filterMap_cons_some (packetOf?_of_expect_eq_ok hexpect)

/-- A read accepts the packets of the expected type that it takes, and no others. -/
theorem accepted_eq_filter (x : Reading) :
    x.accepted = (x.taken.filterMap packetOf?).filter fun p =>
      p.header.payloadType = x.reader.payloadType := by
  have hcase := x.readCase
  rw [accepted_eq]
  generalize hresult : x.result = result at hcase
  cases hcase with
  | drained _ | ended _ _ | waiting _ _ _ =>
      rw [taken_eq_nil (by rw [hresult])]
      rfl
  | refused _ hinbox hexpect =>
      rw [taken_eq_singleton hinbox (by rw [hresult]), Option.toList_none, eq_comm,
        List.filter_eq_nil_iff]
      intro p hp htype
      obtain ⟨d, hd, hpacket⟩ := List.mem_filterMap.mp hp
      rw [List.mem_singleton.mp hd] at hpacket
      rw [Reader.expect_eq_ok_iff.mpr
        ⟨packetOf?_eq_some_iff.mp hpacket, of_decide_eq_true htype⟩] at hexpect
      cases hexpect
  | accepted _ hinbox hexpect =>
      rw [taken_eq_singleton hinbox (by rw [hresult]),
        List.filterMap_cons_some (packetOf?_of_expect_eq_ok hexpect), List.filterMap_nil,
        List.filter_eq_self.mpr]
      · rfl
      · rw [List.forall_mem_singleton]
        exact decide_eq_true (Reader.expect_eq_ok_iff.mp hexpect).2

/-- A read that fails leaves the reader as it was. -/
theorem reader_eq_of_error {e : Error} (h : x.result.attempt = .done (.error e)) :
    x.result.reader = x.reader := by
  have hcase := x.readCase
  generalize x.result = result at h hcase
  cases hcase with
  | drained _ => cases h
  | accepted _ _ _ => cases h
  | ended _ _ | waiting _ _ _ | refused _ _ _ => rfl

theorem payloadType_result (x : Reading) : x.result.reader.payloadType = x.reader.payloadType := by
  have hcase := x.readCase
  generalize x.result = result at hcase
  cases hcase with
  | drained _ | ended _ _ | waiting _ _ _ | refused _ _ _ => rfl
  | accepted _ _ _ => exact x.reader.payloadType_accept _

theorem records {past : List Rtp.Packet} (hr : Records x.reader past) :
    Records x.result.reader (past ++ x.accepted) := by
  have hcase := x.readCase
  rw [accepted_eq]
  generalize x.result = result at hcase
  cases hcase with
  | drained _ =>
      rw [Option.toList_none, List.append_nil]
      exact hr.congr _ _
  | ended _ _ | waiting _ _ _ | refused _ _ _ =>
      rw [Option.toList_none, List.append_nil]
      exact hr
  | accepted _ _ _ => exact (hr.accept _).congr _ _

end Reading

/-! ## All reads -/

namespace Reception

variable {c : Reception} {past : List Rtp.Packet}

theorem records_resume (hc : Records c.reader past) :
    Records c.resume.2.reader (past ++ c.resume.1.flatMap Reading.accepted) := by
  have hcase := c.resumeCase
  generalize c.resume = r at hcase ⊢
  cases hcase with
  | idle _ | waiting _ _ _ =>
      rw [List.flatMap_nil, List.append_nil]
      exact hc
  | ended x hreader _ _ =>
      rw [List.flatMap_singleton]
      exact Reading.records (hreader ▸ hc)

theorem records_step (hc : Records c.reader past) (event : ReceptionEvent) :
    Records (c.step event).2.reader (past ++ (c.step event).1.flatMap Reading.accepted) := by
  apply records_resume
  cases event with
  | setPayloadType payloadType => exact hc.congr payloadType _
  | arrive _ | read _ | close => exact hc

theorem records_run (hc : Records c.reader past) (events : List ReceptionEvent) :
    Records (c.run events).2.reader (past ++ (c.run events).1.flatMap Reading.accepted) := by
  induction events generalizing c past with
  | nil =>
      rw [run_nil, List.flatMap_nil, List.append_nil]
      exact hc
  | cons event events ih =>
      rw [run_cons, List.flatMap_append, ← List.append_assoc]
      exact ih (records_step hc event)

/-- Whatever a new reader reads, it holds the record of the packets that it has
accepted and of nothing else. A number that was refused is always counted as out of
order too. A read that fails accepts nothing, and changes nothing about the reader. -/
theorem records_run_of_new (payloadType : UInt8) (s : Session) (events : List ReceptionEvent) :
    let start : Reception := ⟨{ payloadType := payloadType }, s, none⟩
    let readings := (start.run events).1
    let stop := (start.run events).2
    Records stop.reader (readings.flatMap Reading.accepted) ∧
    stop.reader.counts.regressions ≤ stop.reader.counts.outOfOrder ∧
    (∀ past h, History.IsRegression past h → History.IsStray past h) ∧
    ∀ x ∈ readings, ∀ e, x.result.attempt = .done (.error e) →
      x.accepted = [] ∧ x.result.reader = x.reader := by
  intro start readings stop
  have hstart : Records start.reader [] := .of_new payloadType
  have hstop : Records stop.reader (readings.flatMap Reading.accepted) :=
    records_run hstart events
  refine ⟨hstop, hstop.tracks.regressions_le_outOfOrder,
    fun _ _ => History.IsRegression.isStray, ?_⟩
  intro x _ e he
  refine ⟨?_, Reading.reader_eq_of_error he⟩
  rw [Reading.accepted, he]

end Reception

end MediaTransport.Media
