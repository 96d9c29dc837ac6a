import Kurdistan.Support.Text

/-!
# Addresses and instants

IP addresses are byte strings of four or sixteen bytes. The classes of addresses are
given by prefixes, as `net/netip` defines them.
-/

namespace Kurdistan.Product

open Support

/-! ## Instants -/

/-- An instant, in nanoseconds since the Unix epoch. -/
abbrev Instant := Int

/-- `Unix`. -/
def unixSeconds (t : Instant) : Int := t / 10 ^ 9

/-- `IsZero`: the first instant of the year 1. -/
def isZeroTime (t : Instant) : Bool := t = -62135596800 * 10 ^ 9

/-! ## Prefixes -/

/-- An address and the number of its leading bits which count. -/
structure PrefixV2 where
  address : List UInt8
  prefixLen : UInt8
  deriving DecidableEq

/-- The leading bits of an address. -/
def leadingBits (bits : ℕ) (address : List UInt8) : ℕ :=
  bigEndianValue address / 2 ^ (8 * address.length - bits)

/-- The first `bits` bits of two addresses of one family agree. -/
def sameNetwork (bits : ℕ) (left right : List UInt8) : Bool :=
  left.length = right.length ∧ leadingBits bits left = leadingBits bits right

def PrefixV2.contains (p : PrefixV2) (address : List UInt8) : Bool :=
  sameNetwork p.prefixLen.toNat p.address address

/-- One of the two networks contains the other. -/
def PrefixV2.overlaps (p q : PrefixV2) : Bool :=
  sameNetwork (min p.prefixLen.toNat q.prefixLen.toNat) p.address q.address

/-- No bit behind the prefix is set. -/
def PrefixV2.isMasked (p : PrefixV2) : Bool :=
  bigEndianValue p.address % 2 ^ (8 * p.address.length - p.prefixLen.toNat) = 0

def prefix4 (a b c d bits : UInt8) : PrefixV2 := ⟨[a, b, c, d], bits⟩

/-- A prefix of IPv6 whose address ends in zeros. -/
def prefix6 (leading : List UInt8) (bits : UInt8) : PrefixV2 :=
  ⟨leading ++ List.replicate (16 - leading.length) 0, bits⟩

/-! ## Classes of addresses -/

variable (address : List UInt8)

/-- `netip.AddrFromSlice` accepts the bytes. -/
def isAddress : Bool := address.length = 4 ∨ address.length = 16

def is4 : Bool := address.length = 4

def is6 : Bool := address.length = 16

def is4In6 : Bool :=
  (prefix6 (List.replicate 10 0 ++ [0xff, 0xff]) 96).contains address

def isUnspecified : Bool := ∀ byte ∈ address, byte = 0

def multicastPrefixes : List PrefixV2 := [prefix4 224 0 0 0 4, prefix6 [0xff] 8]

def isMulticast : Bool :=
  multicastPrefixes.any fun p => p.contains address

/-- Loopback, private and link-local addresses. -/
def localPrefixes : List PrefixV2 :=
  [prefix4 127 0 0 0 8, prefix6 (List.replicate 15 0 ++ [1]) 128,
    prefix4 10 0 0 0 8, prefix4 172 16 0 0 12, prefix4 192 168 0 0 16, prefix6 [0xfc] 7,
    prefix4 169 254 0 0 16, prefix6 [0xfe, 0x80] 10]

/-- An address of the family which is neither unspecified nor multicast. -/
def validAddress (value : List UInt8) (family : UInt8) : Bool :=
  (family = 4 ∧ is4 value ∨ family = 6 ∧ is6 value) ∧ ¬ isUnspecified value ∧
    ¬ isMulticast value ∧ ¬ is4In6 value

example : validAddress [192, 0, 2, 1] 4 = true ∧ validAddress [224, 0, 0, 1] 4 = false ∧
    validAddress (List.replicate 15 0 ++ [1]) 6 = true := by decide

end Kurdistan.Product
