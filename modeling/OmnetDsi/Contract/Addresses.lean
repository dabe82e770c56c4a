import Mathlib.Data.Nat.Bitwise

/-!
# IPv4 addresses

`IPAddress` wraps one 32-bit word.  The addresses of the configured network
are put together from four numbers, and every part of the router takes them
apart again with `getDByte` or compares them under a mask.

The lemmas describe the addresses whose four parts fit in an octet each: they
are determined by their parts, `getDByte` reads the parts back, and a mask
that consists of zero and all-ones octets compares exactly the parts it
keeps.
-/

namespace OmnetDsi.Contract.Addresses

open BitVec (and_append eq_of_toNat_eq ofInt ofNat toNat_append toNat_ofNat xor_append)

/-- An IPv4 address, encoded in a single `uint32`. -/
structure IPAddress where
  addr : BitVec 32
deriving DecidableEq

/-- The address `i0.i1.i2.i3`; the parts are shifted and or-ed unchecked. -/
def IPAddress.set (i0 i1 i2 i3 : Int) : IPAddress where
  addr := ofInt 32 i0 <<< 24 ||| ofInt 32 i1 <<< 16 ||| ofInt 32 i2 <<< 8 ||| ofInt 32 i3

/-- The value of the address as an integer. -/
def IPAddress.getInt (address : IPAddress) : Nat :=
  address.addr.toNat

/-- The `i`-th byte of the address, counted from the left. -/
def IPAddress.getDByte (address : IPAddress) (i : Nat) : Nat :=
  (address.addr >>> ((3 - i) * 8) &&& 0xFF#32).toNat

def IPAddress.isUnspecified (address : IPAddress) : Bool :=
  address.addr == 0

def IPAddress.equals (address toCmp : IPAddress) : Bool :=
  address.addr == toCmp.addr

/-- Class D addresses. -/
def IPAddress.isMulticast (address : IPAddress) : Bool :=
  address.addr &&& 0xF0000000#32 == 0xE0000000#32

def IPAddress.isLinkLocalMulticast (address : IPAddress) : Bool :=
  address.addr &&& 0xFFFFFF00#32 == 0xE0000000#32

/-- The two addresses agree in the bits of the mask. -/
def maskedAddrAreEqual (addr1 addr2 netmask : IPAddress) : Bool :=
  (addr1.addr ^^^ addr2.addr) &&& netmask.addr == 0

def UNSPECIFIED_ADDRESS : IPAddress := ⟨0⟩

def ALLONES_ADDRESS : IPAddress := .set 255 255 255 255

def LOOPBACK_ADDRESS : IPAddress := .set 127 0 0 1

def LOOPBACK_NETMASK : IPAddress := .set 255 0 0 0

@[simp]
theorem equals_iff (left right : IPAddress) : left.equals right = true ↔ left = right := by
  cases left
  cases right
  simp [IPAddress.equals]

/-! ## Addresses made of four octets -/

/-- The address with the given octets. -/
def ofOctets (i0 i1 i2 i3 : BitVec 8) : IPAddress where
  addr := i0 ++ i1 ++ i2 ++ i3

theorem getInt_ofOctets (i0 i1 i2 i3 : BitVec 8) :
    (ofOctets i0 i1 i2 i3).getInt =
      ((i0.toNat * 256 + i1.toNat) * 256 + i2.toNat) * 256 + i3.toNat := by
  have first := i1.isLt
  have second := i2.isLt
  have third := i3.isLt
  rw [ofOctets, IPAddress.getInt, toNat_append, toNat_append, toNat_append,
    ← Nat.shiftLeft_add_eq_or_of_lt third, ← Nat.shiftLeft_add_eq_or_of_lt second,
    ← Nat.shiftLeft_add_eq_or_of_lt first]
  simp only [Nat.shiftLeft_eq]

variable {i0 i1 i2 i3 : Nat}

/-- Shifting and or-ing four numbers that fit puts them side by side. -/
theorem set_eq_ofOctets (fits0 : i0 < 256)
    (fits1 : i1 < 256) (fits2 : i2 < 256) (fits3 : i3 < 256) :
    IPAddress.set i0 i1 i2 i3 =
      ofOctets (.ofNat 8 i0) (.ofNat 8 i1) (.ofNat 8 i2) (.ofNat 8 i3) := by
  have value :
      (IPAddress.set i0 i1 i2 i3).addr.toNat = ((i0 * 256 + i1) * 256 + i2) * 256 + i3 := by
    have shifted0 : (ofInt 32 i0 <<< 24).toNat = i0 <<< 24 := by
      simp [BitVec.toNat_shiftLeft, Nat.shiftLeft_eq]
      omega
    have shifted1 : (ofInt 32 i1 <<< 16).toNat = i1 <<< 16 := by
      simp [BitVec.toNat_shiftLeft, Nat.shiftLeft_eq]
      omega
    have shifted2 : (ofInt 32 i2 <<< 8).toNat = i2 <<< 8 := by
      simp [BitVec.toNat_shiftLeft, Nat.shiftLeft_eq]
      omega
    have unshifted : (ofInt 32 i3).toNat = i3 := by
      simp
      omega
    simp only [IPAddress.set, BitVec.toNat_or, shifted0, shifted1, shifted2, unshifted]
    have second : i1 <<< 16 < 2 ^ 24 := by
      omega
    have both : i0 <<< 24 ||| i1 <<< 16 = (i0 * 256 + i1) <<< 16 := by
      rw [← Nat.shiftLeft_add_eq_or_of_lt second]
      omega
    have third : i2 <<< 8 < 2 ^ 16 := by
      omega
    have three : (i0 * 256 + i1) <<< 16 ||| i2 <<< 8 = ((i0 * 256 + i1) * 256 + i2) <<< 8 := by
      rw [← Nat.shiftLeft_add_eq_or_of_lt third]
      omega
    have fourth : i3 < 2 ^ 8 := fits3
    rw [both, three, ← Nat.shiftLeft_add_eq_or_of_lt fourth, Nat.shiftLeft_eq]
  have octets := getInt_ofOctets (.ofNat 8 i0) (.ofNat 8 i1) (.ofNat 8 i2) (.ofNat 8 i3)
  simp only [toNat_ofNat, Nat.mod_eq_of_lt, fits0, fits1, fits2, fits3] at octets
  have same :
      (IPAddress.set i0 i1 i2 i3).addr =
        (ofOctets (.ofNat 8 i0) (.ofNat 8 i1) (.ofNat 8 i2) (.ofNat 8 i3)).addr :=
    eq_of_toNat_eq (value.trans octets.symm)
  exact congrArg IPAddress.mk same

theorem getInt_set (fits0 : i0 < 256) (fits1 : i1 < 256) (fits2 : i2 < 256) (fits3 : i3 < 256) :
    (IPAddress.set i0 i1 i2 i3).getInt = ((i0 * 256 + i1) * 256 + i2) * 256 + i3 := by
  rw [set_eq_ofOctets fits0 fits1 fits2 fits3, getInt_ofOctets]
  simp [Nat.mod_eq_of_lt, fits0, fits1, fits2, fits3]

theorem getInt_injective {right : IPAddress}
    (same : left.getInt = right.getInt) : left = right := by
  exact congrArg IPAddress.mk (eq_of_toNat_eq same)

theorem set_inj {j0 j1 j2 j3 : Nat} (left : i0 < 256 ∧ i1 < 256 ∧ i2 < 256 ∧ i3 < 256)
    (right : j0 < 256 ∧ j1 < 256 ∧ j2 < 256 ∧ j3 < 256) :
    IPAddress.set i0 i1 i2 i3 = IPAddress.set j0 j1 j2 j3 ↔
      i0 = j0 ∧ i1 = j1 ∧ i2 = j2 ∧ i3 = j3 := by
  constructor
  · intro same
    have values := congrArg IPAddress.getInt same
    rw [getInt_set left.1 left.2.1 left.2.2.1 left.2.2.2,
      getInt_set right.1 right.2.1 right.2.2.1 right.2.2.2] at values
    omega
  · rintro ⟨rfl, rfl, rfl, rfl⟩
    rfl

/-! ## Reading the octets back -/

theorem getDByte_eq (address : IPAddress) (i : Nat) :
    address.getDByte i = address.getInt / 2 ^ ((3 - i) * 8) % 256 := by
  rw [IPAddress.getDByte, IPAddress.getInt, BitVec.toNat_and, BitVec.toNat_ushiftRight,
    Nat.shiftRight_eq_div_pow]
  exact Nat.and_two_pow_sub_one_eq_mod _ 8

theorem getDByte_lt (address : IPAddress) (i : Nat) : address.getDByte i < 256 := by
  rw [getDByte_eq]
  exact Nat.mod_lt _ (by decide)

/-- Each part of an address whose parts fit is read back by `getDByte`. -/
theorem getDByte_set (fits0 : i0 < 256) (fits1 : i1 < 256) (fits2 : i2 < 256) (fits3 : i3 < 256) :
    (IPAddress.set i0 i1 i2 i3).getDByte 0 = i0 ∧ (IPAddress.set i0 i1 i2 i3).getDByte 1 = i1 ∧
      (IPAddress.set i0 i1 i2 i3).getDByte 2 = i2 ∧
      (IPAddress.set i0 i1 i2 i3).getDByte 3 = i3 := by
  simp only [getDByte_eq, getInt_set fits0 fits1 fits2 fits3]
  omega

/-! ## Masks of whole octets -/

/-- The mask octet that keeps its part, or does not. -/
def maskOctet (keeps : Bool) : Nat :=
  if keeps then 255 else 0

theorem maskOctet_lt (keeps : Bool) : maskOctet keeps < 256 := by
  cases keeps <;> decide

theorem octet_masked (keeps : Bool) (left : i < 256) (right : j < 256) :
    (ofNat 8 i ^^^ ofNat 8 j) &&& ofNat 8 (maskOctet keeps) = 0#8 ↔ (keeps = true → i = j) := by
  cases keeps with
  | false => simp [maskOctet]
  | true =>
    have ones : ofNat 8 (maskOctet true) = BitVec.allOnes 8 := rfl
    have distinct : ofNat 8 i = ofNat 8 j ↔ i = j := by
      simp [← BitVec.toNat_inj, Nat.mod_eq_of_lt, left, right]
    rw [ones, BitVec.and_allOnes, BitVec.xor_eq_zero_iff, distinct]
    simp

theorem append_eq_zero (left : BitVec w) (right : BitVec v) :
    left ++ right = 0#(w + v) ↔ left = 0#w ∧ right = 0#v := by
  constructor
  · intro zero
    have value := congrArg BitVec.toNat zero
    have small := right.isLt
    rw [toNat_append, ← Nat.shiftLeft_add_eq_or_of_lt small] at value
    simp only [Nat.shiftLeft_eq, toNat_ofNat, Nat.zero_mod,
      Nat.add_eq_zero_iff, Nat.mul_eq_zero, Nat.pow_eq_zero] at value
    refine ⟨eq_of_toNat_eq ?_, eq_of_toNat_eq ?_⟩
    all_goals
      simp only [toNat_ofNat, Nat.zero_mod]
      omega
  · rintro ⟨rfl, rfl⟩
    simp

/--
Two addresses whose parts fit agree under a mask of whole octets exactly when
they agree in the octets that the mask keeps.
-/
theorem maskedAddrAreEqual_set {j0 j1 j2 j3 : Nat}
    (left : i0 < 256 ∧ i1 < 256 ∧ i2 < 256 ∧ i3 < 256)
    (right : j0 < 256 ∧ j1 < 256 ∧ j2 < 256 ∧ j3 < 256) (keeps0 keeps1 keeps2 keeps3 : Bool) :
    maskedAddrAreEqual (.set i0 i1 i2 i3) (.set j0 j1 j2 j3)
        (.set (maskOctet keeps0) (maskOctet keeps1) (maskOctet keeps2) (maskOctet keeps3)) = true ↔
      (keeps0 = true → i0 = j0) ∧ (keeps1 = true → i1 = j1) ∧
        (keeps2 = true → i2 = j2) ∧ (keeps3 = true → i3 = j3) := by
  rw [set_eq_ofOctets left.1 left.2.1 left.2.2.1 left.2.2.2,
    set_eq_ofOctets right.1 right.2.1 right.2.2.1 right.2.2.2,
    set_eq_ofOctets (maskOctet_lt _) (maskOctet_lt _) (maskOctet_lt _) (maskOctet_lt _)]
  unfold maskedAddrAreEqual ofOctets
  rw [beq_iff_eq, xor_append, xor_append, xor_append, and_append, and_append, and_append]
  refine (append_eq_zero _ _).trans ?_
  rw [append_eq_zero, append_eq_zero, octet_masked _ left.1 right.1,
    octet_masked _ left.2.1 right.2.1, octet_masked _ left.2.2.1 right.2.2.1,
    octet_masked _ left.2.2.2 right.2.2.2]
  tauto

theorem isMulticast_set (fits0 : i0 < 224)
    (fits1 : i1 < 256) (fits2 : i2 < 256) (fits3 : i3 < 256) :
    (IPAddress.set i0 i1 i2 i3).isMulticast = false := by
  have octet : i0 < 256 := by omega
  have value := getInt_set octet fits1 fits2 fits3
  rw [IPAddress.isMulticast, beq_eq_false_iff_ne]
  intro same
  have lower : (0xE0000000#32).toNat ≤ (IPAddress.set i0 i1 i2 i3).addr.toNat := by
    rw [← same, BitVec.toNat_and]
    exact Nat.and_le_left
  unfold IPAddress.getInt at value
  simp at lower
  omega

theorem isLinkLocalMulticast_eq_false {address : IPAddress}
    (unicast : address.isMulticast = false) : address.isLinkLocalMulticast = false := by
  unfold IPAddress.isMulticast at unicast
  unfold IPAddress.isLinkLocalMulticast
  rw [beq_eq_false_iff_ne] at unicast ⊢
  intro same
  apply unicast
  calc
    address.addr &&& 0xF0000000#32 = address.addr &&& 0xFFFFFF00#32 &&& 0xF0000000#32 := by
      rw [BitVec.and_assoc]
      rfl
    _ = 0xE0000000#32 := by
      rw [same]
      rfl

theorem isUnspecified_set (fits0 : i0 < 256)
    (fits1 : i1 < 256) (fits2 : i2 < 256) (fits3 : i3 < 256)
    (specified : 0 < i0 ∨ 0 < i1 ∨ 0 < i2 ∨ 0 < i3) :
    (IPAddress.set i0 i1 i2 i3).isUnspecified = false := by
  have value := getInt_set fits0 fits1 fits2 fits3
  rw [IPAddress.isUnspecified, beq_eq_false_iff_ne]
  intro zero
  rw [IPAddress.getInt, zero] at value
  simp at value
  omega

end OmnetDsi.Contract.Addresses
