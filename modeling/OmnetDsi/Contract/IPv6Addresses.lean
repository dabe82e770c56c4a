import Mathlib.Tactic.Common

/-!
# IPv6 addresses

An address is four 32-bit words.  A prefix of an address is compared under a
mask that has as many ones as the prefix has bits.
-/

namespace OmnetDsi.Contract.IPv6Addresses

structure IPv6Address where
  d0 : BitVec 32 := 0
  d1 : BitVec 32 := 0
  d2 : BitVec 32 := 0
  d3 : BitVec 32 := 0
deriving DecidableEq

def IPv6Address.isUnspecified (address : IPv6Address) : Bool :=
  address.d0 ||| address.d1 ||| address.d2 ||| address.d3 = 0

/-- The number of bits of a prefix, as `constructMask` asserts. -/
abbrev PrefixLength : Type := Fin 129

/-- The words of the mask for a prefix. -/
def constructMask (prefixLength : PrefixLength) : IPv6Address :=
  let ones : BitVec 32 := 0xFFFFFFFF
  if prefixLength.val = 0 then { d0 := 0, d1 := 0, d2 := 0, d3 := 0 }
  else if prefixLength.val ≤ 32 then
    { d0 := ones <<< (32 - prefixLength.val), d1 := 0, d2 := 0, d3 := 0 }
  else if prefixLength.val ≤ 64 then
    { d0 := ones, d1 := ones <<< (64 - prefixLength.val), d2 := 0, d3 := 0 }
  else if prefixLength.val ≤ 96 then
    { d0 := ones, d1 := ones, d2 := ones <<< (96 - prefixLength.val), d3 := 0 }
  else { d0 := ones, d1 := ones, d2 := ones, d3 := ones <<< (128 - prefixLength.val) }

/-- The address has the first bits of the prefix. -/
def IPv6Address.matches (address destPrefix : IPv6Address) (prefixLength : PrefixLength) : Bool :=
  let mask := constructMask prefixLength
  (address.d0 ^^^ destPrefix.d0) &&& mask.d0 ||| (address.d1 ^^^ destPrefix.d1) &&& mask.d1 |||
    (address.d2 ^^^ destPrefix.d2) &&& mask.d2 ||| (address.d3 ^^^ destPrefix.d3) &&& mask.d3 = 0

end OmnetDsi.Contract.IPv6Addresses
