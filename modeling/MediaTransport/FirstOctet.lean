/-!
# The first octet of a packet

Media and control packets begin alike: two bits of version, a padding flag, and a
count. Media packets split the rest into an extension flag and a four-bit count,
control packets use all five bits as the count.
-/

namespace MediaTransport

/-- The version of the packet formats. -/
def formatVersion : UInt8 := 2

namespace FirstOctet

def version (b : UInt8) : UInt8 :=
  UInt8.ofNat (b.toNat / 64)

def padding (b : UInt8) : Bool :=
  b.toNat / 32 % 2 = 1

/-- The extension flag of a media packet. -/
def extension (b : UInt8) : Bool :=
  b.toNat / 16 % 2 = 1

/-- The count of a media packet. -/
def sources (b : UInt8) : Nat :=
  b.toNat % 16

/-- The count of a control packet. -/
def items (b : UInt8) : Nat :=
  b.toNat % 32

theorem version_eq_iff {b : UInt8} : version b = formatVersion ↔ b.toNat / 64 = 2 := by
  have hb := b.toNat_lt
  rw [← UInt8.toNat_inj, version, UInt8.toNat_ofNat']
  change b.toNat / 64 % 2 ^ 8 = 2 ↔ _
  omega

end FirstOctet

end MediaTransport
