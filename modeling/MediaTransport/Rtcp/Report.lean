import MediaTransport.Rtcp.NtpTime
import MediaTransport.Rtcp.ReportBlock
import MediaTransport.Rtp.Clock

/-!
# Sender and receiver reports

Both reports name the source that makes them and carry report blocks, as many as the
frame's count says. A sender report also says what its source has sent until a point
in time. What follows the blocks in a body is ignored.
-/

namespace MediaTransport.Rtcp

/-- What a source has sent, and how it receives others. -/
structure SenderReport where
  ssrc : UInt32
  time : NtpTime
  /-- The media clock at that time. -/
  timestamp : Rtp.Timestamp
  packetCount : UInt32
  octetCount : UInt32
  blocks : List ReportBlock := []
  deriving DecidableEq

/-- How a source receives others. -/
structure ReceiverReport where
  ssrc : UInt32
  blocks : List ReportBlock := []
  deriving DecidableEq

namespace SenderReport

/-- Octets in front of the report blocks. -/
def fixedSize : Nat := 24

def size (r : SenderReport) : Nat :=
  fixedSize + ReportBlock.size * r.blocks.length

def encodeBody (r : SenderReport) : Bytes :=
  Bytes.octets32 r.ssrc ++ r.time.encode ++ Bytes.octets32 r.timestamp ++
    Bytes.octets32 r.packetCount ++ Bytes.octets32 r.octetCount ++
    ReportBlock.encodeMany r.blocks

/-- The report with `count` blocks in a body. -/
def decodeBody (count : Nat) : Bytes → Except WireError SenderReport
  | s3 :: s2 :: s1 :: s0 :: n3 :: n2 :: n1 :: n0 :: f3 :: f2 :: f1 :: f0 ::
      t3 :: t2 :: t1 :: t0 :: p3 :: p2 :: p1 :: p0 :: o3 :: o2 :: o1 :: o0 :: rest =>
      match ReportBlock.decodeMany count rest with
      | .error e => .error e
      | .ok (blocks, _) =>
          .ok { ssrc := Bytes.word32 s3 s2 s1 s0
                time := ⟨Bytes.word32 n3 n2 n1 n0, Bytes.word32 f3 f2 f1 f0⟩
                timestamp := Bytes.word32 t3 t2 t1 t0
                packetCount := Bytes.word32 p3 p2 p1 p0
                octetCount := Bytes.word32 o3 o2 o1 o0
                blocks := blocks }
  | short => .error (.bufferTooSmall fixedSize short.length)

def describe (r : SenderReport) : String :=
  s!"SenderReport from {Text.hexWord r.ssrc}: ntp={r.time.seconds}.{r.time.fraction}" ++
    s!" rtp={r.timestamp} packets={r.packetCount} octets={r.octetCount}" ++
    s!" blocks={r.blocks.length}"

theorem length_encodeBody (r : SenderReport) : r.encodeBody.length = r.size := by
  simp only [encodeBody, size, fixedSize, NtpTime.encode, List.length_append,
    Bytes.length_octets32, ReportBlock.length_encodeMany]

end SenderReport

namespace ReceiverReport

/-- Octets in front of the report blocks. -/
def fixedSize : Nat := 4

def size (r : ReceiverReport) : Nat :=
  fixedSize + ReportBlock.size * r.blocks.length

def encodeBody (r : ReceiverReport) : Bytes :=
  Bytes.octets32 r.ssrc ++ ReportBlock.encodeMany r.blocks

/-- The report with `count` blocks in a body. -/
def decodeBody (count : Nat) : Bytes → Except WireError ReceiverReport
  | s3 :: s2 :: s1 :: s0 :: rest =>
      match ReportBlock.decodeMany count rest with
      | .error e => .error e
      | .ok (blocks, _) => .ok ⟨Bytes.word32 s3 s2 s1 s0, blocks⟩
  | short => .error (.bufferTooSmall fixedSize short.length)

def describe (r : ReceiverReport) : String :=
  s!"ReceiverReport from {Text.hexWord r.ssrc}: blocks={r.blocks.length}"

theorem length_encodeBody (r : ReceiverReport) : r.encodeBody.length = r.size := by
  simp only [encodeBody, size, fixedSize, List.length_append, Bytes.length_octets32,
    ReportBlock.length_encodeMany]

end ReceiverReport

end MediaTransport.Rtcp
