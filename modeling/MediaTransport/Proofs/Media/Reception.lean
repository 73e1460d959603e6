import MediaTransport.Media.Reader

/-!
# Receiving a stream

A reader, its session and the read that is under way form a `Reception`. Datagrams
arrive, reads are begun, the expected payload type changes and the session is closed,
in any order. A read that finds nothing to return is under way until a datagram
arrives or the session is closed, and is then tried again; using the reader for
something else gives it up. `Reception.run` says which reads have ended after a list
of events, each with the reader and the session that it found (`Reading`).

`Reader.ReadCase` lists the five ways in which a read can go, and `Reader.readCase`
says that there is no other. All that follows about reads is a case split on it.
-/

namespace MediaTransport.Media

/-! ## The queue of a session -/

namespace Session

/-- Whether the session still has its sockets. -/
def isOpen (s : Session) : Bool :=
  s.sockets.isSome

/-- The media datagrams that have arrived and not been read. -/
def inbox (s : Session) : List Bytes :=
  (s.sockets.map fun sockets => sockets.rtp.inbox).getD []

/-- The session with other media datagrams in its queue. -/
def withInbox (s : Session) (datagrams : List Bytes) : Session :=
  { s with
    sockets := s.sockets.map fun sockets =>
      { sockets with rtp := { sockets.rtp with inbox := datagrams } } }

@[simp] theorem isOpen_withInbox (s : Session) (datagrams : List Bytes) :
    (s.withInbox datagrams).isOpen = s.isOpen := by
  simp only [isOpen, withInbox, Option.isSome_map]

theorem inbox_withInbox {s : Session} (hopen : s.isOpen) (datagrams : List Bytes) :
    (s.withInbox datagrams).inbox = datagrams := by
  obtain ⟨sockets, hsockets⟩ := Option.isSome_iff_exists.mp hopen
  simp only [inbox, withInbox, hsockets, Option.map_some, Option.getD_some]

theorem inbox_of_closed {s : Session} (hclosed : s.isOpen = false) : s.inbox = [] := by
  rw [inbox, Option.not_isSome_iff_eq_none.mp (Bool.eq_false_iff.mp hclosed)]
  rfl

theorem isOpen_of_inbox_eq_cons {s : Session} {d : Bytes} {rest : List Bytes}
    (h : s.inbox = d :: rest) : s.isOpen := by
  cases hopen : s.isOpen with
  | false => simp [inbox_of_closed hopen] at h
  | true => rfl

@[simp] theorem isOpen_close (s : Session) : s.close.isOpen = false := rfl

theorem receiveRtp_eq (s : Session) (datagram : Bytes) :
    s.receiveRtp datagram = s.withInbox (s.inbox ++ [datagram]) := by
  obtain ⟨settings, localEndpoint, sockets, closed, remote, remoteRtcp, formats, mode⟩ := s
  cases sockets <;> rfl

theorem readRtpOctets_of_closed {s : Session} (hclosed : s.isOpen = false) (size : Nat) :
    s.readRtpOctets size = (.done (.error .endOfStream), s) := by
  rw [readRtpOctets, Option.not_isSome_iff_eq_none.mp (Bool.eq_false_iff.mp hclosed)]

theorem readRtpOctets_of_inbox_eq_nil {s : Session} (hopen : s.isOpen) (h : s.inbox = [])
    (size : Nat) : s.readRtpOctets size = (.waiting, s) := by
  obtain ⟨settings, localEndpoint, sockets, closed, remote, remoteRtcp, formats, mode⟩ := s
  obtain ⟨sockets, rfl⟩ := Option.isSome_iff_exists.mp hopen
  obtain ⟨⟨endpoint, queue⟩, rtcp⟩ := sockets
  cases h
  rfl

theorem readRtpOctets_of_inbox_eq_cons {s : Session} {d : Bytes} {rest : List Bytes}
    (h : s.inbox = d :: rest) (size : Nat) :
    s.readRtpOctets size = (.done (.ok (d.take size)), s.withInbox rest) := by
  obtain ⟨settings, localEndpoint, sockets, closed, remote, remoteRtcp, formats, mode⟩ := s
  obtain ⟨sockets, rfl⟩ := Option.isSome_iff_exists.mp (isOpen_of_inbox_eq_cons h)
  obtain ⟨⟨endpoint, queue⟩, rtcp⟩ := sockets
  cases h
  rfl

end Session

/-! ## One read -/

namespace Reader

/-- The ways in which a read can go. -/
inductive ReadCase (r : Reader) (s : Session) (size : Nat) : ReadResult → Prop
  /-- Something is pending, and is returned as far as the buffer holds it. -/
  | drained (hpending : r.pending ≠ []) :
      ReadCase r s size
        { attempt := .done (.ok (r.pending.take size))
          reader := { r with pending := r.pending.drop size }
          session := s }
  /-- The session is closed. -/
  | ended (hpending : r.pending = []) (hclosed : s.isOpen = false) :
      ReadCase r s size
        { attempt := .done (.error .endOfStream), reader := r, session := s }
  /-- Nothing has arrived. -/
  | waiting (hpending : r.pending = []) (hopen : s.isOpen) (hinbox : s.inbox = []) :
      ReadCase r s size { attempt := .waiting, reader := r, session := s }
  /-- A datagram is taken that is not what is expected. -/
  | refused {d : Bytes} {rest : List Bytes} {e : Error} (hpending : r.pending = [])
      (hinbox : s.inbox = d :: rest) (hexpect : r.expect (d.take Rtp.datagramLimit) = .error e) :
      ReadCase r s size
        { attempt := .done (.error e), reader := r, session := s.withInbox rest }
  /-- A packet is taken, and its payload is returned as far as the buffer holds it. -/
  | accepted {d : Bytes} {rest : List Bytes} {p : Rtp.Packet} (hpending : r.pending = [])
      (hinbox : s.inbox = d :: rest) (hexpect : r.expect (d.take Rtp.datagramLimit) = .ok p) :
      ReadCase r s size
        { attempt := .done (.ok (p.payload.take size))
          reader := { (r.accept p).1 with pending := p.payload.drop size }
          session := s.withInbox rest
          accepted := some p
          notices := (if s.settings.traceRtp then [.rtpRead p] else []) ++ (r.accept p).2 }

/-- Every read goes in one of these ways. -/
theorem readCase (r : Reader) (s : Session) (size : Nat) : ReadCase r s size (r.read s size) := by
  by_cases hpending : r.pending = []
  · have hempty : (!r.pending.isEmpty) = false := by rw [hpending]; rfl
    rw [read, hempty, if_neg Bool.false_ne_true]
    cases hopen : s.isOpen with
    | false =>
        rw [Session.readRtpOctets_of_closed hopen]
        exact .ended hpending hopen
    | true =>
        cases hinbox : s.inbox with
        | nil =>
            rw [Session.readRtpOctets_of_inbox_eq_nil hopen hinbox]
            exact .waiting hpending hopen hinbox
        | cons d rest =>
            rw [Session.readRtpOctets_of_inbox_eq_cons hinbox]
            cases hexpect : r.expect (d.take Rtp.datagramLimit) with
            | error e =>
                simp only [hexpect]
                exact .refused hpending hinbox hexpect
            | ok p =>
                simp only [hexpect]
                exact .accepted hpending hinbox hexpect
  · have hempty : (!r.pending.isEmpty) = true := by simpa using hpending
    rw [read, hempty, if_pos rfl]
    exact .drained hpending

/-- What is expected is a packet of the expected type. -/
theorem expect_eq_ok_iff {r : Reader} {datagram : Bytes} {p : Rtp.Packet} :
    r.expect datagram = .ok p ↔
      Rtp.Packet.decode datagram = .ok p ∧ p.header.payloadType = r.payloadType := by
  rw [expect]
  cases Rtp.Packet.decode datagram with
  | error e => simp
  | ok q =>
      dsimp only
      split
      · rename_i htype
        constructor
        · intro h
          cases h
          exact ⟨rfl, htype⟩
        · rintro ⟨h, -⟩
          cases h
          rfl
      · rename_i htype
        constructor
        · intro h
          cases h
        · rintro ⟨h, htype'⟩
          cases h
          exact absurd htype' htype

end Reader

/-! ## Reads over time -/

/-- A read that has ended: what it found, and how much its buffer holds. -/
structure Reading where
  reader : Reader
  session : Session
  size : Nat

namespace Reading

/-- What the read came to. -/
def result (x : Reading) : ReadResult :=
  x.reader.read x.session x.size

/-- The octets that the read returned, if it did not fail. -/
def returned (x : Reading) : Bytes :=
  match x.result.attempt with
  | .done (.ok octets) => octets
  | _ => []

/-- The datagrams that were in the queue before the read and not after it. -/
def taken (x : Reading) : List Bytes :=
  x.session.inbox.take (x.session.inbox.length - x.result.session.inbox.length)

variable {x : Reading}

theorem readCase (x : Reading) : Reader.ReadCase x.reader x.session x.size x.result :=
  Reader.readCase _ _ _

theorem taken_eq_nil (h : x.result.session = x.session) : x.taken = [] := by
  rw [taken, h, Nat.sub_self, List.take_zero]

theorem taken_eq_singleton {d : Bytes} {rest : List Bytes} (hinbox : x.session.inbox = d :: rest)
    (h : x.result.session = x.session.withInbox rest) : x.taken = [d] := by
  have hopen := Session.isOpen_of_inbox_eq_cons hinbox
  rw [taken, h, Session.inbox_withInbox hopen, hinbox, List.length_cons, Nat.add_sub_cancel_left]
  rfl

/-- What a read leaves in the queue follows what it takes. -/
theorem taken_append_inbox (x : Reading) :
    x.taken ++ x.result.session.inbox = x.session.inbox := by
  have hcase := x.readCase
  generalize hresult : x.result = result at hcase
  cases hcase with
  | drained _ | ended _ _ | waiting _ _ _ =>
      rw [taken_eq_nil (by rw [hresult])]
      rfl
  | refused _ hinbox _ | accepted _ hinbox _ =>
      rw [taken_eq_singleton hinbox (by rw [hresult]),
        Session.inbox_withInbox (Session.isOpen_of_inbox_eq_cons hinbox), hinbox,
        List.singleton_append]

theorem isOpen_result (x : Reading) : x.result.session.isOpen = x.session.isOpen := by
  have hcase := x.readCase
  generalize x.result = result at hcase
  cases hcase with
  | drained _ | ended _ _ | waiting _ _ _ => rfl
  | refused _ _ _ | accepted _ _ _ => exact Session.isOpen_withInbox _ _

end Reading

/-- Something that happens to a reader or its session. -/
inductive ReceptionEvent
  | arrive (datagram : Bytes)
  | read (size : Nat)
  | setPayloadType (payloadType : UInt8)
  | close
  deriving DecidableEq

/-- A stream that is being received. -/
structure Reception where
  reader : Reader
  session : Session
  /-- The size of the buffer of the read that is under way, if one is. -/
  awaited : Option Nat := none

namespace Reception

/-- The stream when something has happened, before the read that is under way has had
another try. -/
def absorb (c : Reception) : ReceptionEvent → Reception
  | .arrive datagram => { c with session := c.session.receiveRtp datagram }
  | .read size => { c with awaited := some size }
  | .setPayloadType payloadType =>
      { c with reader := c.reader.setPayloadType payloadType, awaited := none }
  | .close => { c with session := c.session.close }

/-- Tries the read that is under way, which ends or stays under way. -/
def resume (c : Reception) : List Reading × Reception :=
  match c.awaited with
  | none => ([], c)
  | some size =>
      let result := c.reader.read c.session size
      match result.attempt with
      | .waiting => ([], { c with reader := result.reader, session := result.session })
      | .done _ => ([⟨c.reader, c.session, size⟩], ⟨result.reader, result.session, none⟩)

def step (c : Reception) (event : ReceptionEvent) : List Reading × Reception :=
  (c.absorb event).resume

/-- The reads that have ended after some events, and what has become of the stream. -/
def run (c : Reception) : List ReceptionEvent → List Reading × Reception
  | [] => ([], c)
  | event :: events =>
      let (first, c) := c.step event
      let (rest, c) := c.run events
      (first ++ rest, c)

@[simp] theorem run_nil (c : Reception) : c.run [] = ([], c) := rfl

theorem run_cons (c : Reception) (event : ReceptionEvent) (events : List ReceptionEvent) :
    c.run (event :: events) =
      ((c.step event).1 ++ ((c.step event).2.run events).1, ((c.step event).2.run events).2) :=
  rfl

theorem run_append (c : Reception) (early late : List ReceptionEvent) :
    c.run (early ++ late) =
      ((c.run early).1 ++ ((c.run early).2.run late).1, ((c.run early).2.run late).2) := by
  induction early generalizing c with
  | nil => rfl
  | cons event early ih => rw [List.cons_append, run_cons, ih, run_cons, List.append_assoc]

/-- The datagrams among some events, in the order of their arrival. -/
def arrivals (events : List ReceptionEvent) : List Bytes :=
  events.filterMap fun
    | .arrive datagram => some datagram
    | _ => none

/-- What a try can come to: no read is under way, or it stays so, or it ends. -/
inductive ResumeCase (c : Reception) : List Reading × Reception → Prop
  | idle (hawaited : c.awaited = none) : ResumeCase c ([], c)
  | waiting (hpending : c.reader.pending = []) (hopen : c.session.isOpen)
      (hinbox : c.session.inbox = []) : ResumeCase c ([], c)
  | ended (x : Reading) (hreader : x.reader = c.reader) (hsession : x.session = c.session)
      (hended : x.result.attempt ≠ .waiting) :
      ResumeCase c ([x], ⟨x.result.reader, x.result.session, none⟩)

theorem resumeCase (c : Reception) : ResumeCase c c.resume := by
  obtain ⟨reader, session, awaited⟩ := c
  cases awaited with
  | none => exact .idle rfl
  | some size =>
      have hcase := reader.readCase session size
      rw [resume]
      dsimp only
      generalize hresult : reader.read session size = result at hcase
      cases hcase with
      | waiting hpending hopen hinbox => exact .waiting hpending hopen hinbox
      | drained _ | ended _ _ | refused _ _ _ | accepted _ _ _ =>
          have hx : (⟨reader, session, size⟩ : Reading).result = _ := hresult
          have hended := ResumeCase.ended (c := ⟨reader, session, some size⟩)
            ⟨reader, session, size⟩ rfl rfl (by rw [hx]; exact nofun)
          rw [hx] at hended
          exact hended

/-! ## What a run keeps -/

/-- A property that every read of a run finds, and that holds after the run. -/
structure Keeps (P : Reader → Session → Prop) (r : List Reading × Reception) : Prop where
  readings : ∀ x ∈ r.1, P x.reader x.session
  after : P r.2.reader r.2.session

section Keeps

variable {P : Reader → Session → Prop} {c : Reception} {event : ReceptionEvent}
  {events : List ReceptionEvent}

theorem keeps_resume
    (hread : ∀ x : Reading, P x.reader x.session → P x.result.reader x.result.session)
    (hc : P c.reader c.session) : Keeps P c.resume := by
  have hcase := c.resumeCase
  generalize c.resume = r at hcase ⊢
  cases hcase with
  | idle _ | waiting _ _ _ => exact ⟨List.forall_mem_nil _, hc⟩
  | ended x hreader hsession _ =>
      rw [← hreader, ← hsession] at hc
      exact ⟨List.forall_mem_singleton.mpr hc, hread x hc⟩

theorem Keeps.run_cons (hfirst : Keeps P (c.step event))
    (hrest : Keeps P ((c.step event).2.run events)) : Keeps P (c.run (event :: events)) :=
  ⟨List.forall_mem_append.mpr ⟨hfirst.readings, hrest.readings⟩, hrest.after⟩

theorem keeps_run
    (hread : ∀ x : Reading, P x.reader x.session → P x.result.reader x.result.session)
    (hevents : ∀ event ∈ events, ∀ c : Reception, P c.reader c.session →
      P (c.absorb event).reader (c.absorb event).session)
    (hc : P c.reader c.session) : Keeps P (c.run events) := by
  induction events generalizing c with
  | nil => exact ⟨List.forall_mem_nil _, hc⟩
  | cons event events ih =>
      obtain ⟨hevent, hevents⟩ := List.forall_mem_cons.mp hevents
      have hfirst : Keeps P (c.step event) := keeps_resume hread (hevent c hc)
      exact hfirst.run_cons (ih hevents hfirst.after)

end Keeps

/-- Every read in a run has ended. -/
theorem ended_of_mem_run {c : Reception} {events : List ReceptionEvent} {x : Reading}
    (hx : x ∈ (c.run events).1) : x.result.attempt ≠ .waiting := by
  induction events generalizing c with
  | nil => cases hx
  | cons event events ih =>
      rw [run_cons, List.mem_append] at hx
      rcases hx with hfirst | hrest
      · have hcase := (c.absorb event).resumeCase
        rw [step] at hfirst
        generalize (c.absorb event).resume = r at hcase hfirst
        cases hcase with
        | idle _ | waiting _ _ _ => cases hfirst
        | ended y _ _ hended =>
            cases List.mem_singleton.mp hfirst
            exact hended
      · exact ih hrest

end Reception

end MediaTransport.Media
