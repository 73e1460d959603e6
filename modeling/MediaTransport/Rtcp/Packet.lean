import MediaTransport.Rtcp.Frame
import MediaTransport.Rtcp.Goodbye
import MediaTransport.Rtcp.Report

/-!
# Control packets and compound datagrams

Reports and goodbyes are read into structures, and every other packet type passes
through as its frame. A packet is written by way of its frame (`Packet.toFrame`), and
read from a frame alone (`Packet.ofFrame`), so nothing outside a frame can change
what it stands for.

`decodeAll` reads a datagram frame by frame until nothing is left. A datagram has to
hold at least one packet.
-/

namespace MediaTransport.Rtcp

inductive Packet
  /-- What a source has sent, and how it receives others. -/
  | senderReport (report : SenderReport)
  /-- How a source receives others. -/
  | receiverReport (report : ReceiverReport)
  | goodbye (goodbye : Goodbye)
  /-- A packet of a type that is not looked into. -/
  | other (frame : Frame)
  deriving DecidableEq

namespace Packet

def senderReportType : UInt8 := 200

def receiverReportType : UInt8 := 201

def goodbyeType : UInt8 := 203

def packetType : Packet → UInt8
  | .senderReport _ => senderReportType
  | .receiverReport _ => receiverReportType
  | .goodbye _ => goodbyeType
  | .other f => f.packetType

/-- How many items the packet counts. -/
def count : Packet → Nat
  | .senderReport r => r.blocks.length
  | .receiverReport r => r.blocks.length
  | .goodbye g => g.sources.length
  | .other f => f.count

def body : Packet → Bytes
  | .senderReport r => r.encodeBody
  | .receiverReport r => r.encodeBody
  | .goodbye g => g.encodeBody
  | .other f => f.body

/-- The octets that the packet announces for its body. -/
def size : Packet → Nat
  | .senderReport r => r.size
  | .receiverReport r => r.size
  | .goodbye g => g.size
  | .other f => f.body.length

def toFrame (p : Packet) : Frame :=
  ⟨p.packetType, p.count, p.body⟩

/-- The packet that a frame stands for. -/
def ofFrame (f : Frame) : Except WireError Packet :=
  if f.packetType = senderReportType then
    (SenderReport.decodeBody f.count f.body).map .senderReport
  else if f.packetType = receiverReportType then
    (ReceiverReport.decodeBody f.count f.body).map .receiverReport
  else if f.packetType = goodbyeType then
    (Goodbye.decodeBody f.count f.body).map .goodbye
  else .ok (.other f)

def encode (p : Packet) : Except WireError Bytes :=
  p.toFrame.encode

/-- Packets one after another in octets; the first that cannot be written decides. -/
def encodeAll : List Packet → Except WireError Bytes
  | [] => .ok []
  | p :: ps =>
      match p.encode with
      | .error e => .error e
      | .ok front =>
          match encodeAll ps with
          | .error e => .error e
          | .ok rest => .ok (front ++ rest)

/-- The packets of a row of frames; the first that cannot be read decides. -/
def decodeFrames (b : Bytes) : Except WireError (List Packet) :=
  if b = [] then .ok []
  else
    match _h : Frame.split b with
    | .error e => .error e
    | .ok (frame, rest) =>
        match ofFrame frame with
        | .error e => .error e
        | .ok p =>
            match decodeFrames rest with
            | .error e => .error e
            | .ok ps => .ok (p :: ps)
termination_by b.length
decreasing_by exact Frame.length_lt_of_split _h

def decodeAll (datagram : Bytes) : Except WireError (List Packet) :=
  if datagram = [] then .error (.invalidPacket .emptyDatagram)
  else decodeFrames datagram

def describe : Packet → String
  | .senderReport r => r.describe
  | .receiverReport r => r.describe
  | .goodbye g => g.describe
  | .other f => s!"RTCP type={f.packetType} count={f.count} body={f.body.length} bytes"

end Packet

end MediaTransport.Rtcp
