import Kurdistan.Product.ServicePolicy

/-!
# Blocked destinations of packets

Packet admission refuses a destination by `blockedPacketAddressV1`, the proxy by
`isPublicServiceAddress`. The rules of packets for IPv4 alone do not look through the
embedding of IPv4 into IPv6.
-/

namespace Kurdistan.Runtime

open Support Product

def unmap (address : List UInt8) : List UInt8 :=
  if is4In6 address then address.drop 12 else address

/-- The address `::ffff:a`. -/
def embedded (a : List UInt8) : List UInt8 :=
  List.replicate 10 0 ++ [0xff, 0xff] ++ a

/-- What is blocked for IPv4 only: broadcast, `0.0.0.0/8` and `100.64.0.0/10`. -/
def blockedIPv4 (a : List UInt8) : Bool :=
  a = [255, 255, 255, 255] ∨ a.getD 0 0 = 0 ∨ a.getD 0 0 = 100 ∧ a.getD 1 0 &&& 0xc0 = 64

/-- All classes but the unspecified address are those of the unmapped address. -/
def blockedPacketAddressV1 (address : List UInt8) : Bool :=
  ¬ isAddress address ∨ isUnspecified address ∨
    (localPrefixes.any fun p => p.contains (unmap address)) ∨ isMulticast (unmap address) ∨
    is4 address ∧ blockedIPv4 address

variable {a : List UInt8}

theorem is4In6_embedded (h : a.length = 4) : is4In6 (embedded a) = true := by
  obtain ⟨x, y, z, w, rfl⟩ := List.length_eq_four.mp h
  have hx := x.toNat_lt
  have hy := y.toNat_lt
  have hz := z.toNat_lt
  have hw := w.toNat_lt
  simp [is4In6, embedded, prefix6, PrefixV2.contains, sameNetwork, leadingBits, bigEndianValue]
  omega

theorem unmap_of_length (h : a.length = 4) : unmap a = a := by
  simp [unmap, is4In6, prefix6, PrefixV2.contains, sameNetwork, h]

theorem unmap_embedded (h : a.length = 4) : unmap (embedded a) = a := by
  rw [unmap, if_pos (is4In6_embedded h)]
  rfl

/-- No address which is blocked for IPv4 only is of a local or multicast network. -/
theorem not_local_of_blockedIPv4 (h : a.length = 4) (hblocked : blockedIPv4 a = true) :
    (localPrefixes.any fun p => p.contains a) = false ∧ isMulticast a = false := by
  obtain ⟨x, y, z, w, rfl⟩ := List.length_eq_four.mp h
  have hy := y.toNat_lt
  have hz := z.toNat_lt
  have hw := w.toNat_lt
  have hfirst : x.toNat = 255 ∨ x.toNat = 0 ∨ x.toNat = 100 := by
    simp only [blockedIPv4, decide_eq_true_eq] at hblocked
    rcases hblocked with ⟨rfl, -⟩ | rfl | ⟨rfl, -⟩ <;> decide
  simp [localPrefixes, isMulticast, multicastPrefixes, prefix4, prefix6, PrefixV2.contains,
    sameNetwork, leadingBits, bigEndianValue]
  omega

/-- The proxy refuses every embedded address. Packet admission refuses the embedding of a
blocked address exactly when the address is not blocked for IPv4 only. -/
theorem embedded_refused (a : List UInt8) (h : a.length = 4) :
    isPublicServiceAddress (embedded a) = false ∧
      ((blockedPacketAddressV1 a = true → blockedPacketAddressV1 (embedded a) = true) ↔
        blockedIPv4 a = false) := by
  have hmapped := is4In6_embedded h
  constructor
  · simp [isPublicServiceAddress, hmapped]
  have hembedded : blockedPacketAddressV1 (embedded a) = true ↔
      (localPrefixes.any fun p => p.contains a) = true ∨ isMulticast a = true := by
    rw [blockedPacketAddressV1, unmap_embedded h]
    simp [isAddress, isUnspecified, is4, embedded, h]
  have hblocked : blockedPacketAddressV1 a = true ↔ isUnspecified a = true ∨
      (localPrefixes.any fun p => p.contains a) = true ∨ isMulticast a = true ∨
        blockedIPv4 a = true := by
    simp [blockedPacketAddressV1, unmap_of_length h, isAddress, is4, h]
  rw [hembedded, hblocked]
  constructor
  · intro himp
    by_contra hspecial
    have hspecial : blockedIPv4 a = true := by simpa using hspecial
    obtain ⟨hlocal, hmulticast⟩ := not_local_of_blockedIPv4 h hspecial
    simpa [hlocal, hmulticast] using himp (.inr (.inr (.inr hspecial)))
  · rintro hspecial (hzero | hlocal | hmulticast | hblocked)
    · obtain ⟨x, y, z, w, rfl⟩ := List.length_eq_four.mp h
      simp_all [isUnspecified, blockedIPv4]
    · exact .inl hlocal
    · exact .inr hmulticast
    · rw [hspecial] at hblocked
      cases hblocked

theorem embedded_refused_private :
    blockedPacketAddressV1 (embedded [10, 0, 0, 1]) = true := by
  refine ((embedded_refused [10, 0, 0, 1] rfl).2.mpr ?_) ?_ <;> decide

/-- `100.64.0.1` is blocked, `::ffff:100.64.0.1` is not. -/
theorem embedded_shared_admitted :
    blockedPacketAddressV1 [100, 64, 0, 1] = true ∧
      blockedPacketAddressV1 (embedded [100, 64, 0, 1]) = false := by
  decide

end Kurdistan.Runtime
