import MediaTransport.Media.Reader
import MediaTransport.Media.Writer
import MediaTransport.Proofs.Media.Allocation
import MediaTransport.Proofs.Media.Negotiation

/-!
# Two sides of a stream

One side answers the other's description, and the other one hears the answer. When the
first hearing succeeds so does the second: the formats that it leaves are a part of what the
second side offered, so all of them pass its filter. Each side then sends to where the other
one receives, and what one side writes has the payload type that the other one reads
(`Session.Agree`).

That control packets arrive too is a matter of two computations that have to meet: one side
derives their port from the description, the other side has bound it when it was opened
(`Session.IsPlaced`).
-/

namespace MediaTransport.Media

open Net

namespace Format

variable {offered answered : List String}

theorem common_subset (offered answered : List String) : common offered answered ⊆ answered := by
  rw [common]
  split
  · exact List.Subset.refl _
  · exact List.filter_subset_self _

theorem eq_of_payloadType_eq_error {format : String} {e : Error}
    (herror : payloadType format = .error e) : e = .invalidFormat format := by
  rw [payloadType] at herror
  split at herror
  · cases herror
  · exact (Except.error.inj herror).symm

theorem common_of_subset (hsub : answered ⊆ offered) : common offered answered = answered := by
  rw [common]
  split
  · rfl
  · exact List.filter_eq_self.mpr fun format hformat => decide_eq_true (hsub hformat)

end Format

namespace Hearing

/-- The side that is heard first keeps its mode when it hears of the other one. -/
theorem mode_back (how : Hearing) (own other : Mode) :
    how.mode other (how.mode own other) = other := by
  cases how with
  | answer => rfl
  | update => exact other.reverse_reverse

theorem mode_again (how : Hearing) (own other : Mode) :
    how.mode (how.mode own other) other = how.mode own other := by
  cases how <;> rfl

end Hearing

namespace Session

/-- A session that has been opened, and what may have happened to it since. -/
inductive Reached : Session → Prop
  | opened {p p' : Ports} {e : Endpoint} {settings : Settings} {s : Session}
      (hopen : openAt p e settings = (.ok s, p')) : Reached s
  | react {s : Session} (hs : Reached s) (signal : Signal) : Reached (s.react signal)
  | receiveRtp {s : Session} (hs : Reached s) (datagram : Bytes) : Reached (s.receiveRtp datagram)
  | receiveRtcp {s : Session} (hs : Reached s) (datagram : Bytes) :
      Reached (s.receiveRtcp datagram)
  | readRtpOctets {s : Session} (hs : Reached s) (size : Nat) : Reached (s.readRtpOctets size).2
  | readRtcpOctets {s : Session} (hs : Reached s) (size : Nat) : Reached (s.readRtcpOctets size).2

variable {s : Session}

theorem IsPlaced.withSockets (hs : s.IsPlaced) {sockets : Option Sockets}
    (hendpoints : { s with sockets := sockets }.endpoints = s.endpoints) :
    { s with sockets := sockets }.IsPlaced :=
  ⟨hendpoints.trans hs.endpoints_eq, hs.next, hs.unzoned⟩

theorem IsPlaced.hear (hs : s.IsPlaced) {how : Hearing} {d : Description} {s' : Session}
    (hhear : s.hear how d = .ok s') : s'.IsPlaced := by
  obtain ⟨-, rfl⟩ := hear_eq_ok_iff.mp hhear
  exact ⟨hs.endpoints_eq, hs.next, hs.unzoned⟩

theorem IsPlaced.react (hs : s.IsPlaced) (signal : Signal) : (s.react signal).IsPlaced := by
  cases signal with
  | hear how d =>
      rw [Session.react]
      cases hhear : s.hear how d with
      | error e => exact hs
      | ok s' => exact hs.hear hhear
  | setRemote _ | setMode _ => exact ⟨hs.endpoints_eq, hs.next, hs.unzoned⟩
  | close => exact hs.close

theorem endpoint_take (socket : Socket) (size : Nat) :
    (socket.take size).2.endpoint = socket.endpoint := by
  rw [Socket.take]
  split <;> rfl

theorem IsPlaced.readRtpOctets (hs : s.IsPlaced) (size : Nat) :
    (s.readRtpOctets size).2.IsPlaced := by
  rw [Session.readRtpOctets]
  split
  · exact hs
  · rename_i sockets hsockets
    refine hs.withSockets ?_
    rw [endpoints, endpoints, hsockets]
    dsimp only
    rw [endpoint_take]

theorem IsPlaced.readRtcpOctets (hs : s.IsPlaced) (size : Nat) :
    (s.readRtcpOctets size).2.IsPlaced := by
  rw [Session.readRtcpOctets]
  split
  · exact hs
  · split
    · exact hs
    · split
      · exact hs
      · rename_i sockets hsockets _ socket hsocket
        refine hs.withSockets ?_
        rw [endpoints, endpoints, hsockets]
        dsimp only
        rw [hsocket, Option.map_some, Option.map_some, endpoint_take]

theorem IsPlaced.receiveRtp (hs : s.IsPlaced) (datagram : Bytes) :
    (s.receiveRtp datagram).IsPlaced := by
  rw [Session.receiveRtp]
  split
  · exact hs
  · rename_i sockets hsockets
    refine hs.withSockets ?_
    rw [endpoints, endpoints, hsockets]

theorem IsPlaced.receiveRtcp (hs : s.IsPlaced) (datagram : Bytes) :
    (s.receiveRtcp datagram).IsPlaced := by
  rw [Session.receiveRtcp]
  split
  · exact hs
  · rename_i sockets hsockets
    refine hs.withSockets ?_
    rw [endpoints, endpoints, hsockets]
    dsimp only
    rw [Option.map_map]
    rfl

theorem Reached.isPlaced (hs : s.Reached) : s.IsPlaced := by
  induction hs with
  | @opened p p' e settings s hopen =>
      have hcase := openCase_openAt p e settings
      rw [hopen] at hcase
      cases hcase with
      | opened _ hpair _ => exact isPlaced_ofPair hpair
  | react _ signal ih => exact ih.react signal
  | receiveRtp _ datagram ih => exact ih.receiveRtp datagram
  | receiveRtcp _ datagram ih => exact ih.receiveRtcp datagram
  | readRtpOctets _ size ih => exact ih.readRtpOctets size
  | readRtcpOctets _ size ih => exact ih.readRtcpOctets size

/-! ## What two sides have to agree on -/

/-- One side sends to the sockets of the other. -/
def SendsTo (s t : Session) : Prop :=
  ∃ rtp rtcp, t.sockets = some ⟨rtp, some rtcp⟩ ∧
    s.remote = some rtp.endpoint ∧ s.remoteRtcp = some rtcp.endpoint

/-- What one side writes has the payload type that the other side reads, unless both
refuse the same format. -/
def StreamsTo (s t : Session) : Prop :=
  ∀ start,
    (∃ format, (Writer.ofSession s start).1 = .error (.invalidFormat format) ∧
      (Reader.ofSession t).1 = .error (.invalidFormat format)) ∨
    ∃ w r, (Writer.ofSession s start).1 = .ok w ∧ (Reader.ofSession t).1 = .ok r ∧
      w.payloadType = r.payloadType

/-- One of two sides. -/
inductive Side
  | first
  | second

/-- Two sides after one of them has heard the other's description. -/
def exchange (how : Hearing) (sides : Session × Session) : Side →
    Except Error (Session × Session)
  | .first => (sides.1.hear how sides.2.description).map fun first => (first, sides.2)
  | .second => (sides.2.hear how sides.1.description).map fun second => (sides.1, second)

/-- Two sides that have agreed: hearing of each other again, in whatever order, changes
nothing. -/
structure Agree (how : Hearing) (a b : Session) : Prop where
  formats_eq : a.formats = b.formats
  sendsTo : a.SendsTo b
  sendsBack : b.SendsTo a
  streamsTo : a.StreamsTo b
  streamsBack : b.StreamsTo a
  settled : ∀ turns : List Side, turns.foldlM (exchange how) (a, b) = .ok (a, b)

/-- A session to which a description is no news. -/
structure HasHeard (how : Hearing) (d : Description) (s : Session) : Prop where
  formats_eq : s.formats = d.formats
  ne_nil : s.formats ≠ []
  remote_eq : s.remote = some d.endpoint
  remoteRtcp_eq : s.remoteRtcp = d.endpoint.next?
  mode_eq : how.mode s.mode d.mode = s.mode

variable {a b a' t : Session} {how : Hearing}

theorem HasHeard.hear_eq {d : Description} (hs : s.HasHeard how d) : s.hear how d = .ok s := by
  have hcommon : Format.common s.formats d.formats = s.formats := by
    rw [hs.formats_eq]
    exact Format.common_of_subset (List.Subset.refl _)
  refine hear_eq_ok_iff.mpr ⟨hcommon.trans_ne hs.ne_nil, ?_⟩
  rw [hcommon, hs.mode_eq, setRemote, ← hs.remote_eq, ← hs.remoteRtcp_eq]

theorem exchange_settled (ha : a.HasHeard how b.description) (hb : b.HasHeard how a.description)
    (side : Side) : exchange how (a, b) side = .ok (a, b) := by
  cases side with
  | first =>
      rw [exchange, ha.hear_eq]
      rfl
  | second =>
      rw [exchange, hb.hear_eq]
      rfl

theorem exchanges_settled (ha : a.HasHeard how b.description)
    (hb : b.HasHeard how a.description) (turns : List Side) :
    turns.foldlM (exchange how) (a, b) = .ok (a, b) := by
  induction turns with
  | nil => rfl
  | cons side turns ih =>
      rw [List.foldlM_cons, exchange_settled ha hb side]
      exact ih

/-- A session has lost its sockets exactly when it is closed. -/
theorem IsPlaced.closed_iff (hs : s.IsPlaced) : s.closed = true ↔ s.sockets = none := by
  have hendpoints := hs.endpoints_eq
  rw [endpoints, holdings] at hendpoints
  cases hclosed : s.closed <;> cases hsockets : s.sockets <;> rw [hclosed, hsockets] at hendpoints
  · cases hrtcp : s.settings.rtcpEnabled <;> rw [hrtcp] at hendpoints <;> cases hendpoints
  · exact iff_of_false Bool.false_ne_true (Option.some_ne_none _)
  · exact iff_of_true rfl rfl
  · cases hendpoints

theorem IsPlaced.exists_sockets_eq (hs : s.IsPlaced) (hopen : s.closed = false) :
    ∃ sockets, s.sockets = some sockets := by
  refine Option.ne_none_iff_exists'.mp ?_
  rw [Ne, ← hs.closed_iff, hopen]
  exact Bool.false_ne_true

/-- An open session has a control socket exactly when its settings say so. -/
theorem IsPlaced.isSome_rtcp (hs : s.IsPlaced) {sockets : Sockets}
    (hsockets : s.sockets = some sockets) :
    sockets.rtcp.isSome = s.settings.rtcpEnabled := by
  have hopen : s.closed = false := by
    rw [← Bool.not_eq_true, hs.closed_iff, hsockets]
    exact nofun
  have hendpoints := congrArg List.length hs.endpoints_eq
  rw [endpoints, holdings, hsockets, hopen, if_neg Bool.false_ne_true] at hendpoints
  cases hrtcp : sockets.rtcp <;> cases hsettings : s.settings.rtcpEnabled <;>
    simp [hrtcp, hsettings, pairAt, PortPair.endpoints] at hendpoints ⊢

theorem IsPlaced.rtcpEnabled_eq (hs : s.IsPlaced) : s.rtcpEnabled = s.settings.rtcpEnabled := by
  rw [rtcpEnabled]
  cases hsockets : s.sockets with
  | none => rfl
  | some sockets => exact hs.isSome_rtcp hsockets

theorem IsPlaced.exists_sockets (hs : s.IsPlaced) (hopen : s.closed = false)
    (hrtcp : s.rtcpEnabled = true) :
    ∃ rtp rtcp, s.sockets = some ⟨rtp, some rtcp⟩ ∧ s.description.endpoint = rtp.endpoint ∧
      s.description.endpoint.next? = some rtcp.endpoint := by
  have hdescription : s.description.endpoint = s.localEndpoint := by
    rw [Description.endpoint, description, hs.unzoned]
  have hsettings : s.settings.rtcpEnabled = true := hs.rtcpEnabled_eq.symm.trans hrtcp
  have hendpoints := hs.endpoints_eq
  obtain ⟨⟨rtp, rtcp⟩, hsockets⟩ := hs.exists_sockets_eq hopen
  have hsome := hs.isSome_rtcp hsockets
  rw [hsettings] at hsome
  obtain ⟨rtcp, rfl⟩ := Option.isSome_iff_exists.mp hsome
  rw [endpoints, hsockets, holdings, hopen, if_neg Bool.false_ne_true, hsettings] at hendpoints
  obtain ⟨hrtp, habove⟩ := List.cons.inj hendpoints
  refine ⟨rtp, rtcp, hsockets, hdescription.trans hrtp.symm, ?_⟩
  rw [hdescription]
  exact (next?_eq_some_iff hs.unzoned).mpr
    ⟨hs.next hopen hsettings, (List.cons.inj habove).1⟩

theorem HasHeard.sendsTo (hs : s.HasHeard how t.description) (ht : t.IsPlaced)
    (hopen : t.closed = false) (hrtcp : t.rtcpEnabled = true) : s.SendsTo t := by
  obtain ⟨rtp, rtcp, hsockets, hrtp, hnext⟩ := ht.exists_sockets hopen hrtcp
  exact ⟨rtp, rtcp, hsockets, hs.remote_eq.trans (congrArg some hrtp),
    hs.remoteRtcp_eq.trans hnext⟩

theorem streamsTo_of_formats_eq (heq : s.formats = t.formats) (hne : s.formats ≠ []) :
    s.StreamsTo t := by
  intro start
  obtain ⟨format, rest, hformats⟩ := List.exists_cons_of_ne_nil hne
  rw [Writer.ofSession, Reader.ofSession, ← heq, hformats]
  dsimp only
  cases htype : Format.payloadType format with
  | error e =>
      obtain rfl := Format.eq_of_payloadType_eq_error htype
      exact .inl ⟨format, rfl, rfl⟩
  | ok payloadType => exact .inr ⟨_, _, rfl, rfl, rfl⟩

/-- The answer to an answer fits, and then neither side has anything new to say. -/
theorem exists_hear_back (hhear : a.hear how b.description = .ok a') :
    ∃ b', b.hear how a'.description = .ok b' ∧
      a'.HasHeard how b'.description ∧ b'.HasHeard how a'.description ∧
      b'.mode = b.mode ∧ a'.mode = how.mode a.mode b.mode := by
  obtain ⟨hne, rfl⟩ := hear_eq_ok_iff.mp hhear
  have hback : Format.common b.formats (Format.common a.formats b.formats) =
      Format.common a.formats b.formats :=
    Format.common_of_subset (Format.common_subset _ _)
  have hmode := how.mode_back a.mode b.mode
  refine ⟨_, hear_eq_ok_iff.mpr ⟨hback.trans_ne hne, rfl⟩, ?_, ?_, hmode, rfl⟩
  · exact ⟨hback.symm, hne, rfl, rfl, (congrArg _ hmode).trans (how.mode_again a.mode b.mode)⟩
  · exact ⟨hback, hback.trans_ne hne, rfl, rfl, hmode.symm ▸ hmode⟩

/-- When one side can hear the other's description, the other side can hear of the result,
and they have agreed. The mode of the side that spoke first stays, and that of the other one
follows from it if it is to follow at all. -/
theorem agree_of_hear (ha : a.Reached) (hb : b.Reached) (hopenA : a.closed = false)
    (hopenB : b.closed = false) (hrtcpA : a.rtcpEnabled = true) (hrtcpB : b.rtcpEnabled = true)
    (hhear : a.hear how b.description = .ok a') :
    ∃ b', b.hear how a'.description = .ok b' ∧ Agree how a' b' ∧
      b'.mode = b.mode ∧ a'.mode = how.mode a.mode b.mode := by
  obtain ⟨b', hback, hheardA, hheardB, hmodes⟩ := exists_hear_back hhear
  refine ⟨b', hback, ?_, hmodes⟩
  have hplacedA := ha.isPlaced.hear hhear
  have hplacedB := hb.isPlaced.hear hback
  obtain ⟨-, rfl⟩ := hear_eq_ok_iff.mp hhear
  obtain ⟨-, rfl⟩ := hear_eq_ok_iff.mp hback
  exact
    { formats_eq := hheardA.formats_eq
      sendsTo := hheardA.sendsTo hplacedB hopenB hrtcpB
      sendsBack := hheardB.sendsTo hplacedA hopenA hrtcpA
      streamsTo := streamsTo_of_formats_eq hheardA.formats_eq hheardA.ne_nil
      streamsBack := streamsTo_of_formats_eq hheardB.formats_eq hheardB.ne_nil
      settled := exchanges_settled hheardA hheardB }

/-- A side that takes three formats. -/
def caller : Session :=
  ofPair { formats := ["0", "8", "101"] }
    ⟨⟨.v4 ⟨127, 0, 0, 1⟩, 5000⟩, some ⟨.v4 ⟨127, 0, 0, 1⟩, 5001⟩⟩

/-- A side that only sends, and names two of these formats, one of them twice. -/
def holder : Session :=
  ofPair { formats := ["101", "0", "0"], mode := .sendOnly }
    ⟨⟨.v4 ⟨127, 0, 0, 1⟩, 6000⟩, some ⟨.v4 ⟨127, 0, 0, 1⟩, 6001⟩⟩

theorem agree_of_hear_holder :
    ∃ caller' holder', caller.hear .update holder.description = .ok caller' ∧
      holder.hear .update caller'.description = .ok holder' ∧
      Agree .update caller' holder' ∧ caller'.formats = ["101", "0", "0"] ∧
      holder'.mode = .sendOnly ∧ caller'.mode = .receiveOnly := by
  let ports : Ports := ⟨{ isLocal := fun _ => true }, 0⟩
  have hcaller : caller.Reached :=
    .opened (show openAt ports ⟨.v4 ⟨127, 0, 0, 1⟩, 5000⟩ caller.settings = (.ok caller, _) from rfl)
  have hholder : holder.Reached :=
    .opened (show openAt ports ⟨.v4 ⟨127, 0, 0, 1⟩, 6000⟩ holder.settings = (.ok holder, _) from rfl)
  have hhear : caller.hear .update holder.description =
      .ok (caller.updated holder.description) := rfl
  obtain ⟨holder', hback, hagree, hmodes⟩ := agree_of_hear hcaller hholder rfl rfl rfl rfl hhear
  exact ⟨_, holder', hhear, hback, hagree, by decide, hmodes⟩

end Session

end MediaTransport.Media
