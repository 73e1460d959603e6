import MediaTransport.Bytes
import MediaTransport.WireError

/-!
# Report blocks

A report block says how one source is received, in six 32-bit words. The second word
holds the fraction lost in its first octet and the cumulative loss in the other
three; a loss that does not fit is written as the greatest that does.
-/

namespace MediaTransport.Rtcp

/-- How one source is received. -/
structure ReportBlock where
  ssrc : UInt32 := 0
  /-- Packets lost since the last report, in parts of 256. -/
  fractionLost : UInt8 := 0
  cumulativeLost : UInt32 := 0
  highestSequence : UInt32 := 0
  /-- The variation of arrival times, in clock ticks. -/
  jitter : UInt32 := 0
  /-- The middle of the time in the last sender report. -/
  lastReport : UInt32 := 0
  /-- The time since then, in units of 2^-16 seconds. -/
  delaySinceLastReport : UInt32 := 0
  deriving DecidableEq

namespace ReportBlock

def size : Nat := 24

def lossLimit : Nat := 16777215

/-- The cumulative loss that is written. -/
def writtenLoss (b : ReportBlock) : Nat :=
  min b.cumulativeLost.toNat lossLimit

def encode (b : ReportBlock) : Bytes :=
  Bytes.octets32 b.ssrc ++
    [b.fractionLost, UInt8.ofNat (b.writtenLoss / 65536), UInt8.ofNat (b.writtenLoss / 256),
      UInt8.ofNat b.writtenLoss] ++
    Bytes.octets32 b.highestSequence ++ Bytes.octets32 b.jitter ++
    Bytes.octets32 b.lastReport ++ Bytes.octets32 b.delaySinceLastReport

/-- The block at the front of an octet string, and what follows it. -/
def decode : Bytes → Except WireError (ReportBlock × Bytes)
  | s3 :: s2 :: s1 :: s0 :: fraction :: l2 :: l1 :: l0 :: h3 :: h2 :: h1 :: h0 ::
      j3 :: j2 :: j1 :: j0 :: r3 :: r2 :: r1 :: r0 :: d3 :: d2 :: d1 :: d0 :: rest =>
      .ok ({ ssrc := Bytes.word32 s3 s2 s1 s0
             fractionLost := fraction
             cumulativeLost := Bytes.word32 0 l2 l1 l0
             highestSequence := Bytes.word32 h3 h2 h1 h0
             jitter := Bytes.word32 j3 j2 j1 j0
             lastReport := Bytes.word32 r3 r2 r1 r0
             delaySinceLastReport := Bytes.word32 d3 d2 d1 d0 }, rest)
  | short => .error (.bufferTooSmall size short.length)

/-- So many blocks at the front of `b`, and what follows them. -/
def decodeMany : Nat → Bytes → Except WireError (List ReportBlock × Bytes)
  | 0, b => .ok ([], b)
  | n + 1, b =>
      match decode b with
      | .error e => .error e
      | .ok (block, rest) =>
          match decodeMany n rest with
          | .error e => .error e
          | .ok (blocks, rest) => .ok (block :: blocks, rest)

def encodeMany (blocks : List ReportBlock) : Bytes :=
  blocks.flatMap encode

@[simp] theorem length_encode (b : ReportBlock) : b.encode.length = size := rfl

theorem decode_encode (b : ReportBlock) (rest : Bytes) :
    decode (b.encode ++ rest) =
      .ok ({ b with cumulativeLost := UInt32.ofNat b.writtenLoss }, rest) := by
  obtain ⟨ssrc, fraction, loss, highest, jitter, last, delay⟩ := b
  simp only [encode, Bytes.octets32, List.cons_append, List.nil_append, decode,
    Bytes.word32_octets, Except.ok.injEq, Prod.mk.injEq, ReportBlock.mk.injEq, true_and, and_true]
  apply UInt32.toNat_inj.mp
  have hle : min loss.toNat lossLimit ≤ 16777215 := Nat.min_le_right _ _
  simp only [writtenLoss, Bytes.word32, UInt8.toNat_ofNat', UInt32.toNat_ofNat']
  generalize min loss.toNat lossLimit = n at hle
  change (0 * 16777216 + _ + _ + _) % 2 ^ 32 = _
  omega

@[simp] theorem length_encodeMany (blocks : List ReportBlock) :
    (encodeMany blocks).length = size * blocks.length := by
  induction blocks with
  | nil => rfl
  | cons b bs ih =>
      simp only [encodeMany, List.flatMap_cons, List.length_append, length_encode,
        List.length_cons] at ih ⊢
      rw [ih, Nat.mul_succ, Nat.add_comm]

end ReportBlock

end MediaTransport.Rtcp
