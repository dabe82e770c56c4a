import OmnetDsi.Contract.Addresses

/-!
# Endpoints of the transport layer

The sockets and connections of both transport protocols are identified by
addresses of either family, an `IPvXAddress`, and by ports kept in a `short`.
Both protocols hand out ports of the same ephemeral range in turn: the search
begins after the last port assigned and ends with an unused port or, back at
the port where it began, with an error (`searchPort_spec`).
-/

namespace OmnetDsi.Contract.Endpoints

open Contract.Addresses

/-! ## Addresses of either family -/

/-- An IPv4 address, or the four words of an IPv6 address. -/
inductive IPvXAddress where
  | v4 (address : IPAddress)
  | v6 (d0 d1 d2 d3 : BitVec 32)
deriving DecidableEq

namespace IPvXAddress

/-- The address of the default constructor. -/
def unspecified : IPvXAddress :=
  .v4 UNSPECIFIED_ADDRESS

def isIPv6 : IPvXAddress → Bool
  | .v4 _ => false
  | .v6 .. => true

def isUnspecified : IPvXAddress → Bool
  | .v4 address => address.isUnspecified
  | .v6 .. => false

/-- The IPv4 address; an IPv6 address makes it throw. -/
def get4 : IPvXAddress → Option IPAddress
  | .v4 address => some address
  | .v6 .. => none

variable {address : IPvXAddress}

theorem isUnspecified_iff : address.isUnspecified = true ↔ address = unspecified := by
  cases address with
  | v4 address =>
    rcases address with ⟨_⟩
    simp [isUnspecified, IPAddress.isUnspecified, unspecified, UNSPECIFIED_ADDRESS]
  | v6 _ _ _ _ => simp [isUnspecified, unspecified]

theorem get4_eq_some : address.get4 = some word ↔ address = .v4 word := by
  cases address <;> simp [get4]

theorem get4_eq_none : address.get4 = none ↔ address.isIPv6 = true := by
  cases address <;> simp [get4, isIPv6]

/-! ### Comparing addresses -/

/-- The word `d[0]`, which addresses of both families have. -/
def firstWord : IPvXAddress → BitVec 32
  | .v4 address => address.addr
  | .v6 d0 _ _ _ => d0

/--
`equals` of two addresses: only the family of the first one is looked at.  An
IPv4 address does not set the words `d[1]` to `d[3]`; `stale` says whether
those of the second address happen to be equal.
-/
def equals (stale : Bool) : IPvXAddress → IPvXAddress → Bool
  | .v4 address, other => address.addr == other.firstWord
  | .v6 d0 d1 d2 d3, .v6 e0 e1 e2 e3 => d0 == e0 && (d1 == e1 && d2 == e2 && d3 == e3)
  | .v6 d0 _ _ _, .v4 address => d0 == address.addr && stale

/-- The bytes of a word in memory, the least significant one first. -/
def wordBytes (word : BitVec 32) : List Nat :=
  [word.toNat % 256, word.toNat / 256 % 256, word.toNat / 65536 % 256, word.toNat / 16777216]

/-- `memcmp` finds the first of two blocks of equal size less. -/
def memcmpLess : List Nat → List Nat → Bool
  | left :: restLeft, right :: restRight =>
    if left = right then memcmpLess restLeft restRight else decide (left < right)
  | _, _ => false

def lessThan : IPvXAddress → IPvXAddress → Bool
  | .v4 left, .v4 right => decide (left.addr < right.addr)
  | .v4 _, .v6 .. => true
  | .v6 .., .v4 _ => false
  | .v6 d0 d1 d2 d3, .v6 e0 e1 e2 e3 =>
    memcmpLess (wordBytes d0 ++ wordBytes d1 ++ wordBytes d2 ++ wordBytes d3)
      (wordBytes e0 ++ wordBytes e1 ++ wordBytes e2 ++ wordBytes e3)

/--
Addresses that `equals` can tell apart: those of different families differ in
the first word.  The unspecified address, which is compared with all of them,
is one of them.
-/
structure ToldApart (addresses : IPvXAddress → Prop) : Prop where
  unspecified : addresses .unspecified
  families :
    ∀ left right, addresses left → addresses right →
      left.firstWord = right.firstWord → left.isIPv6 = right.isIPv6

theorem wordBytes_inj (same : wordBytes left = wordBytes right) : left = right := by
  simp only [wordBytes, List.cons.injEq, and_true] at same
  apply BitVec.eq_of_toNat_eq
  omega

theorem memcmpLess_total (sameSize : left.length = right.length) (differ : left ≠ right) :
    memcmpLess left right = true ∨ memcmpLess right left = true := by
  induction left generalizing right with
  | nil =>
    cases right with
    | nil => exact absurd rfl differ
    | cons _ _ => cases sameSize
  | cons first _ induction =>
    cases right with
    | nil => cases sameSize
    | cons second _ =>
      rw [memcmpLess, memcmpLess]
      by_cases heads : first = second
      · rw [if_pos heads, if_pos heads.symm]
        apply induction (Nat.succ.inj sameSize)
        intro tails
        exact differ (by rw [heads, tails])
      · rw [if_neg heads, if_neg (Ne.symm heads)]
        simp only [decide_eq_true_eq]
        omega

theorem lessThan_total {right : IPvXAddress} (differ : left ≠ right) :
    left.lessThan right = true ∨ right.lessThan left = true := by
  cases left with
  | v4 left =>
    cases right with
    | v4 right =>
      rcases left with ⟨left⟩
      rcases right with ⟨right⟩
      simp only [lessThan, decide_eq_true_eq, BitVec.lt_def]
      have words : left ≠ right := fun same => differ (by rw [same])
      have numbers : left.toNat ≠ right.toNat := fun same => words (BitVec.eq_of_toNat_eq same)
      exact Nat.lt_or_gt_of_ne numbers
    | v6 _ _ _ _ => exact .inl rfl
  | v6 d0 d1 d2 d3 =>
    cases right with
    | v4 _ => exact .inr rfl
    | v6 e0 e1 e2 e3 =>
      have sameSize :
          (wordBytes d0 ++ wordBytes d1 ++ wordBytes d2 ++ wordBytes d3).length =
            (wordBytes e0 ++ wordBytes e1 ++ wordBytes e2 ++ wordBytes e3).length := rfl
      apply memcmpLess_total sameSize
      intro same
      apply differ
      rcases List.append_inj' same rfl with ⟨same, last⟩
      rcases List.append_inj' same rfl with ⟨same, third⟩
      rcases List.append_inj' same rfl with ⟨first, second⟩
      rw [wordBytes_inj first, wordBytes_inj second, wordBytes_inj third, wordBytes_inj last]

theorem equals_iff (told : ToldApart addresses) (stale : Bool)
    (leftAmong : addresses left) (rightAmong : addresses right) :
    left.equals stale right = true ↔ left = right := by
  have families := told.families _ _ leftAmong rightAmong
  cases left with
  | v4 left =>
    cases right with
    | v4 right =>
      rcases left with ⟨_⟩
      rcases right with ⟨right⟩
      simp [equals, firstWord]
    | v6 _ _ _ _ =>
      simp only [firstWord, isIPv6, Bool.false_eq_true, imp_false] at families
      simp [equals, firstWord, families]
  | v6 _ _ _ _ =>
    cases right with
    | v4 _ =>
      simp only [firstWord, isIPv6, Bool.true_eq_false, imp_false] at families
      simp [equals, families]
    | v6 _ _ _ _ => simp [equals, and_assoc]

end IPvXAddress

/-! ## Ports -/

/-- The value of an `int` that is stored in a `short`. -/
def toShort (value : Int) : Int :=
  value.bmod (2 ^ 16)

def EPHEMERAL_PORTRANGE_START : Int := 1024

def EPHEMERAL_PORTRANGE_END : Int := 5000

def Ephemeral (port : Int) : Prop :=
  EPHEMERAL_PORTRANGE_START ≤ port ∧ port < EPHEMERAL_PORTRANGE_END

instance (port : Int) : Decidable (Ephemeral port) :=
  inferInstanceAs (Decidable (_ ∧ _))

/-- The next port of the range, which is a cycle. -/
def nextPort (port : Int) : Int :=
  if port + 1 = EPHEMERAL_PORTRANGE_END then EPHEMERAL_PORTRANGE_START else port + 1

/-- How the search ends; it is still running when the rounds are used up. -/
inductive PortSearch where
  | found (port : Int)
  | exhausted
  | running

/-- The search from a port on, until it has come back to `searchUntil`. -/
def searchPort (inUse : Int → Bool) (searchUntil : Int) : Nat → Int → PortSearch
  | 0, _ => .running
  | rounds + 1, port =>
    if inUse port then
      if port = searchUntil then .exhausted else searchPort inUse searchUntil rounds (nextPort port)
    else .found port

/-- The number of ports in the range. -/
def EPHEMERAL_PORTS : Nat := 3976

/-- The search of `getEphemeralPort` of either protocol. -/
def getEphemeralPort (inUse : Int → Bool) (lastEphemeralPort : Int) : PortSearch :=
  searchPort inUse lastEphemeralPort EPHEMERAL_PORTS (nextPort lastEphemeralPort)

section Searching

variable {inUse : Int → Bool}

/-- The port that is some steps of the cycle after another. -/
def portAfter (last : Int) (steps : Nat) : Int :=
  EPHEMERAL_PORTRANGE_START + (last - EPHEMERAL_PORTRANGE_START + steps) % EPHEMERAL_PORTS

theorem portAfter_ephemeral (last : Int) (steps : Nat) : Ephemeral (portAfter last steps) := by
  unfold Ephemeral portAfter EPHEMERAL_PORTRANGE_START EPHEMERAL_PORTRANGE_END EPHEMERAL_PORTS
  omega

theorem nextPort_portAfter (last : Int) (steps : Nat) :
    nextPort (portAfter last steps) = portAfter last (steps + 1) := by
  unfold nextPort portAfter EPHEMERAL_PORTRANGE_START EPHEMERAL_PORTRANGE_END EPHEMERAL_PORTS
  split_ifs <;> omega

theorem portAfter_zero (ephemeral : Ephemeral last) : portAfter last 0 = last := by
  unfold Ephemeral EPHEMERAL_PORTRANGE_START EPHEMERAL_PORTRANGE_END at ephemeral
  unfold portAfter EPHEMERAL_PORTRANGE_START EPHEMERAL_PORTS
  omega

theorem portAfter_eq_iff (ephemeral : Ephemeral last)
    (positive : 0 < steps) (within : steps ≤ EPHEMERAL_PORTS) :
    portAfter last steps = last ↔ steps = EPHEMERAL_PORTS := by
  unfold EPHEMERAL_PORTS at within
  unfold Ephemeral EPHEMERAL_PORTRANGE_START EPHEMERAL_PORTRANGE_END at ephemeral
  unfold portAfter EPHEMERAL_PORTRANGE_START EPHEMERAL_PORTS
  omega

theorem exists_portAfter (last : Int) (ephemeral : Ephemeral port) :
    ∃ steps, 0 < steps ∧ steps ≤ EPHEMERAL_PORTS ∧ portAfter last steps = port := by
  unfold Ephemeral EPHEMERAL_PORTRANGE_START EPHEMERAL_PORTRANGE_END at ephemeral
  unfold portAfter EPHEMERAL_PORTRANGE_START EPHEMERAL_PORTS
  refine ⟨((port - last - 1) % 3976).toNat + 1, by omega, by omega, ?_⟩
  omega

/--
The search is over before the rounds are: it has found an unused port of the
range, or all of them are in use.
-/
theorem searchPort_spec (ephemeral : Ephemeral last) {rounds steps : Nat}
    (positive : 0 < steps) (within : steps ≤ EPHEMERAL_PORTS)
    (total : rounds + steps = EPHEMERAL_PORTS + 1)
    (used : ∀ before, 0 < before → before < steps → inUse (portAfter last before) = true) :
    (∃ port,
        searchPort inUse last rounds (portAfter last steps) = .found port ∧
          Ephemeral port ∧ inUse port = false) ∨
      searchPort inUse last rounds (portAfter last steps) = .exhausted ∧
        ∀ port, Ephemeral port → inUse port = true := by
  induction rounds generalizing steps with
  | zero => omega
  | succ _ induction =>
    rw [searchPort]
    have back := portAfter_eq_iff ephemeral positive within
    cases free : inUse (portAfter last steps) with
    | false => exact .inl ⟨_, rfl, portAfter_ephemeral _ _, free⟩
    | true =>
      have usedNow :
          ∀ before, 0 < before → before < steps + 1 → inUse (portAfter last before) = true := by
        intro _ started early
        rcases Nat.lt_succ_iff_lt_or_eq.mp early with earlier | rfl
        · exact used _ started earlier
        · exact free
      by_cases round : steps = EPHEMERAL_PORTS
      · right
        refine ⟨by rw [if_pos rfl, if_pos (back.mpr round)], ?_⟩
        intro _ among
        rcases exists_portAfter _ among with ⟨_, started, _, same⟩
        rw [← same]
        exact usedNow _ started (by omega)
      · rw [if_pos rfl, if_neg fun same => round (back.mp same), nextPort_portAfter]
        exact induction (by omega) (by omega) (by omega) usedNow

/-- The port assigned is unused; without one all ports of the range are used. -/
theorem getEphemeralPort_spec (inUse : Int → Bool) (ephemeral : Ephemeral last) :
    (∃ port, getEphemeralPort inUse last = .found port ∧ Ephemeral port ∧ inUse port = false) ∨
      getEphemeralPort inUse last = .exhausted ∧ ∀ port, Ephemeral port → inUse port = true := by
  have first : nextPort last = portAfter last 1 := by
    rw [← nextPort_portAfter, portAfter_zero ephemeral]
  rw [getEphemeralPort, first]
  exact searchPort_spec ephemeral Nat.one_pos (by decide) rfl
    fun before started early => absurd early (by omega)

end Searching

end OmnetDsi.Contract.Endpoints
