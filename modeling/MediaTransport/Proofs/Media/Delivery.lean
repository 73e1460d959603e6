import MediaTransport.Proofs.Media.Reception

/-!
# Nothing is lost and nothing comes twice

A reader hands out the payloads of the packets it accepts as one stream of octets.
Each read keeps two balances: what it returns and leaves pending is what was pending
and what it took (`Reading.balance`), and what it took and left in the queue is what
was in the queue (`Reading.taken_append_inbox`). Both add up over a run, the second as
long as the session is open; a closed session has no queue and never gets one again.

The main statement puts the two together with the rules that every single read keeps
(`Reading.Obeys`).
-/

namespace MediaTransport.Media

/-- The payload of a datagram, as far as a buffer holds it, if it is a packet of the
type. -/
def payloadOf (payloadType : UInt8) (datagram : Bytes) : Bytes :=
  match Rtp.Packet.decode (datagram.take Rtp.datagramLimit) with
  | .error _ => []
  | .ok p => if p.header.payloadType = payloadType then p.payload else []

theorem payloadOf_of_expect_eq_ok {r : Reader} {d : Bytes} {p : Rtp.Packet}
    (h : r.expect (d.take Rtp.datagramLimit) = .ok p) : payloadOf r.payloadType d = p.payload := by
  obtain ⟨hdecode, htype⟩ := Reader.expect_eq_ok_iff.mp h
  rw [payloadOf, hdecode]
  exact if_pos htype

theorem payloadOf_of_expect_eq_error {r : Reader} {d : Bytes} {e : Error}
    (h : r.expect (d.take Rtp.datagramLimit) = .error e) : payloadOf r.payloadType d = [] := by
  rw [payloadOf]
  cases hdecode : Rtp.Packet.decode (d.take Rtp.datagramLimit) with
  | error _ => rfl
  | ok p =>
      refine if_neg fun htype => ?_
      rw [Reader.expect_eq_ok_iff.mpr ⟨hdecode, htype⟩] at h
      cases h

/-! ## One read -/

namespace Reading

variable {x : Reading}

/-- The payloads of the packets of the expected type that the read took. -/
def payloads (x : Reading) : Bytes :=
  x.taken.flatMap (payloadOf x.reader.payloadType)

/-- What a read returns and leaves pending is what was pending and what it took. -/
theorem balance (x : Reading) :
    x.reader.pending ++ x.payloads = x.returned ++ x.result.reader.pending := by
  have hcase := x.readCase
  rw [payloads, returned]
  generalize hresult : x.result = result at hcase
  cases hcase with
  | drained _ =>
      rw [taken_eq_nil (by rw [hresult])]
      simp only [List.flatMap_nil, List.append_nil, List.take_append_drop]
  | ended hpending _ | waiting hpending _ _ =>
      rw [taken_eq_nil (by rw [hresult]), hpending]
      rfl
  | refused hpending hinbox hexpect =>
      rw [taken_eq_singleton hinbox (by rw [hresult]), hpending, List.flatMap_singleton,
        payloadOf_of_expect_eq_error hexpect]
  | accepted hpending hinbox hexpect =>
      rw [taken_eq_singleton hinbox (by rw [hresult]), hpending, List.flatMap_singleton,
        payloadOf_of_expect_eq_ok hexpect]
      exact (List.take_append_drop _ _).symm

/-- The rules of a read that has ended. -/
structure Obeys (x : Reading) : Prop where
  /-- While something is pending, that alone is returned. -/
  pending : x.reader.pending ≠ [] →
    x.taken = [] ∧ x.result.attempt = .done (.ok (x.reader.pending.take x.size))
  /-- Otherwise an open session gives up one datagram, whatever comes of it. -/
  isOpen : x.reader.pending = [] → x.session.isOpen → ∃ d, x.taken = [d]
  /-- A closed session gives up none. -/
  closed : x.reader.pending = [] → x.session.isOpen = false →
    x.taken = [] ∧ x.result.attempt = .done (.error .endOfStream)

theorem obeys (h : x.result.attempt ≠ .waiting) : x.Obeys := by
  have hcase := x.readCase
  generalize hresult : x.result = result at h hcase
  cases hcase with
  | drained hpending =>
      have htaken := taken_eq_nil (x := x) (by rw [hresult])
      exact ⟨fun _ => ⟨htaken, by rw [hresult]⟩, fun h _ => absurd h hpending,
        fun h _ => absurd h hpending⟩
  | ended hpending hclosed =>
      have htaken := taken_eq_nil (x := x) (by rw [hresult])
      refine ⟨fun h => absurd hpending h, ?_, fun _ _ => ⟨htaken, by rw [hresult]⟩⟩
      intro _ hopen
      rw [hclosed] at hopen
      cases hopen
  | waiting _ _ _ => exact absurd rfl h
  | refused hpending hinbox _ | accepted hpending hinbox _ =>
      have htaken := taken_eq_singleton hinbox (by rw [hresult])
      refine ⟨fun h => absurd hpending h, fun _ _ => ⟨_, htaken⟩, ?_⟩
      intro _ hclosed
      rw [Session.isOpen_of_inbox_eq_cons hinbox] at hclosed
      cases hclosed

/-- A closed session ends the stream once nothing is pending, and not before. -/
theorem Obeys.endOfStream_iff (hx : x.Obeys) (hclosed : x.session.isOpen = false) :
    x.result.attempt = .done (.error .endOfStream) ↔ x.reader.pending = [] := by
  by_cases hpending : x.reader.pending = []
  · exact ⟨fun _ => hpending, fun _ => (hx.closed hpending hclosed).2⟩
  · rw [(hx.pending hpending).2]
    exact ⟨fun h => (by cases h), fun h => absurd h hpending⟩

theorem taken_of_closed (hclosed : x.session.isOpen = false) : x.taken = [] := by
  have hqueue := x.taken_append_inbox
  rw [Session.inbox_of_closed hclosed] at hqueue
  exact (List.append_eq_nil_iff.mp hqueue).1

end Reading

/-! ## The stream of octets -/

namespace Reception

variable {c : Reception} {event : ReceptionEvent} {events : List ReceptionEvent}

theorem balance_resume (c : Reception) :
    c.reader.pending ++ c.resume.1.flatMap Reading.payloads =
      c.resume.1.flatMap Reading.returned ++ c.resume.2.reader.pending := by
  have hcase := c.resumeCase
  generalize c.resume = r at hcase ⊢
  cases hcase with
  | idle _ | waiting _ _ _ => exact List.append_nil _
  | ended x hreader _ _ =>
      rw [List.flatMap_singleton, List.flatMap_singleton, ← hreader]
      exact x.balance

theorem balance_step (c : Reception) (event : ReceptionEvent) :
    c.reader.pending ++ (c.step event).1.flatMap Reading.payloads =
      (c.step event).1.flatMap Reading.returned ++ (c.step event).2.reader.pending := by
  have hpending : (c.absorb event).reader.pending = c.reader.pending := by
    cases event <;> rfl
  rw [← hpending]
  exact balance_resume _

theorem balance_run (c : Reception) (events : List ReceptionEvent) :
    c.reader.pending ++ (c.run events).1.flatMap Reading.payloads =
      (c.run events).1.flatMap Reading.returned ++ (c.run events).2.reader.pending := by
  induction events generalizing c with
  | nil => exact List.append_nil _
  | cons event events ih =>
      rw [run_cons, List.flatMap_append, List.flatMap_append, ← List.append_assoc,
        balance_step, List.append_assoc, ih, List.append_assoc]

/-! ## The queue -/

theorem queue_resume (c : Reception) :
    c.resume.1.flatMap Reading.taken ++ c.resume.2.session.inbox = c.session.inbox ∧
      c.resume.2.session.isOpen = c.session.isOpen := by
  have hcase := c.resumeCase
  generalize c.resume = r at hcase ⊢
  cases hcase with
  | idle _ | waiting _ _ _ => exact ⟨rfl, rfl⟩
  | ended x _ hsession _ =>
      rw [List.flatMap_singleton, ← hsession]
      exact ⟨x.taken_append_inbox, x.isOpen_result⟩

theorem queue_step (hopen : c.session.isOpen) (hclose : event ≠ .close) :
    (c.step event).1.flatMap Reading.taken ++ (c.step event).2.session.inbox =
        c.session.inbox ++ arrivals [event] ∧
      (c.step event).2.session.isOpen := by
  obtain ⟨hqueue, hstays⟩ := (c.absorb event).queue_resume
  rw [step, hqueue, hstays]
  cases event with
  | arrive d =>
      rw [absorb, Session.receiveRtp_eq, Session.inbox_withInbox hopen, Session.isOpen_withInbox]
      exact ⟨rfl, hopen⟩
  | read size => exact ⟨(List.append_nil _).symm, hopen⟩
  | setPayloadType payloadType => exact ⟨(List.append_nil _).symm, hopen⟩
  | close => exact absurd rfl hclose

/-- A closed session stays closed, so every read finds it so. -/
abbrev FoundClosed (r : List Reading × Reception) : Prop :=
  Keeps (fun _ s => s.isOpen = false) r

theorem FoundClosed.taken {r : List Reading × Reception} (h : FoundClosed r) :
    r.1.flatMap Reading.taken = [] :=
  List.flatMap_eq_nil_iff.mpr fun x hx => Reading.taken_of_closed (h.readings x hx)

theorem isOpen_absorb_of_closed (event : ReceptionEvent) (hclosed : c.session.isOpen = false) :
    (c.absorb event).session.isOpen = false := by
  cases event with
  | arrive d =>
      rw [absorb, Session.receiveRtp_eq, Session.isOpen_withInbox]
      exact hclosed
  | read size => exact hclosed
  | setPayloadType payloadType => exact hclosed
  | close => rfl

theorem foundClosed_run (hclosed : c.session.isOpen = false) (events : List ReceptionEvent) :
    FoundClosed (c.run events) :=
  keeps_run (fun x hx => x.isOpen_result.trans hx)
    (fun event _ _ => isOpen_absorb_of_closed event) hclosed

theorem foundClosed_run_close (c : Reception) (late : List ReceptionEvent) :
    FoundClosed (c.run (.close :: late)) := by
  have hfirst : FoundClosed (c.step .close) :=
    keeps_resume (fun x hx => x.isOpen_result.trans hx) (Session.isOpen_close c.session)
  exact hfirst.run_cons (foundClosed_run hfirst.after late)

/-- What has been taken is the front of what has arrived, and while the session is open
the queue is the rest. -/
theorem queue_run (c : Reception) (events : List ReceptionEvent) :
    (c.run events).1.flatMap Reading.taken <+: c.session.inbox ++ arrivals events ∧
      ((c.run events).2.session.isOpen →
        (c.run events).1.flatMap Reading.taken ++ (c.run events).2.session.inbox =
          c.session.inbox ++ arrivals events) := by
  induction events generalizing c with
  | nil => exact ⟨List.nil_prefix, fun _ => (List.append_nil _).symm⟩
  | cons event events ih =>
      -- A session that is closed, or is closed by this event, gives up nothing more.
      by_cases hstays : c.session.isOpen ∧ event ≠ .close
      · obtain ⟨hqueue, -⟩ := queue_step hstays.1 hstays.2
        obtain ⟨hfront, hrest⟩ := ih (c := (c.step event).2)
        have harrivals : arrivals (event :: events) = arrivals [event] ++ arrivals events :=
          List.filterMap_append (l := [event])
        rw [run_cons, List.flatMap_append, harrivals, ← List.append_assoc, ← hqueue,
          List.append_assoc, List.append_assoc]
        refine ⟨(List.prefix_append_right_inj _).mpr hfront, ?_⟩
        intro hopen
        rw [hrest hopen]
      · have hclosed : FoundClosed (c.run (event :: events)) := by
          by_cases hclose : event = .close
          · rw [hclose]
            exact foundClosed_run_close c events
          · exact foundClosed_run (Bool.eq_false_iff.mpr fun h => hstays ⟨h, hclose⟩) _
        rw [hclosed.taken]
        refine ⟨List.nil_prefix, ?_⟩
        intro hopen
        rw [hclosed.after] at hopen
        cases hopen

/-! ## Reads that wait -/

/-- A read stays under way only while there is nothing that it could return. -/
def Waits (c : Reception) : Prop :=
  c.awaited.isSome → c.reader.pending = [] ∧ c.session.isOpen ∧ c.session.inbox = []

theorem waits_resume (c : Reception) : c.resume.2.Waits := by
  have hcase := c.resumeCase
  generalize c.resume = r at hcase ⊢
  cases hcase with
  | idle hawaited =>
      intro h
      rw [hawaited] at h
      cases h
  | waiting hpending hopen hinbox => exact fun _ => ⟨hpending, hopen, hinbox⟩
  | ended x _ _ _ =>
      intro h
      cases h

theorem waits_run (hc : c.Waits) (events : List ReceptionEvent) : (c.run events).2.Waits := by
  induction events generalizing c with
  | nil => exact hc
  | cons event events ih => exact ih (waits_resume _)

/-- Whatever arrives and whoever reads, switches the payload type or closes the
session: the octets returned, and then those pending, are the payloads of the packets
of the expected type among the datagrams taken. These datagrams are the first to have
arrived, in order. A read that ends takes one, unless something is pending or the
session is closed; after that what is pending is still returned, and then the stream
ends. -/
theorem returned_append_pending (r : Reader) (s : Session) (events : List ReceptionEvent) :
    let start : Reception := ⟨r, s, none⟩
    let readings := (start.run events).1
    let stop := (start.run events).2
    r.pending ++ readings.flatMap Reading.payloads =
      readings.flatMap Reading.returned ++ stop.reader.pending ∧
    readings.flatMap Reading.taken <+: s.inbox ++ arrivals events ∧
    (stop.session.isOpen →
      readings.flatMap Reading.taken ++ stop.session.inbox = s.inbox ++ arrivals events) ∧
    (∀ x ∈ readings, x.Obeys) ∧
    stop.Waits ∧
    ∀ early late, events = early ++ .close :: late →
      let closing := (start.run early).2
      let afterwards := (closing.run (.close :: late)).1
      readings = (start.run early).1 ++ afterwards ∧
      afterwards.flatMap Reading.taken = [] ∧
      closing.reader.pending = afterwards.flatMap Reading.returned ++ stop.reader.pending ∧
      ∀ x ∈ afterwards,
        x.result.attempt = .done (.error .endOfStream) ↔ x.reader.pending = [] := by
  intro start readings stop
  have hidle : start.Waits := fun hawaited => by cases hawaited
  obtain ⟨hfront, hqueue⟩ := start.queue_run events
  refine ⟨start.balance_run events, hfront, hqueue,
    fun x hx => Reading.obeys (ended_of_mem_run hx), waits_run hidle events, ?_⟩
  intro early late hevents closing afterwards
  have hsplit := start.run_append early (.close :: late)
  have hclosed := foundClosed_run_close closing late
  have hbalance := closing.balance_run (.close :: late)
  rw [← hevents] at hsplit
  have hnone : afterwards.flatMap Reading.payloads = [] :=
    List.flatMap_eq_nil_iff.mpr fun x hx => by
      rw [Reading.payloads, Reading.taken_of_closed (hclosed.readings x hx), List.flatMap_nil]
  have hstop : stop = (closing.run (.close :: late)).2 := (congrArg Prod.snd hsplit :)
  rw [hnone, List.append_nil] at hbalance
  refine ⟨(congrArg Prod.fst hsplit :), hclosed.taken, hstop ▸ hbalance, ?_⟩
  intro x hx
  exact (Reading.obeys (ended_of_mem_run hx)).endOfStream_iff (hclosed.readings x hx)

end Reception

end MediaTransport.Media
