import OmnetDsi.Ospf.ShortestPathTree

/-!
# The recency of LSA instances

Instances of an LSA are compared by their sequence numbers, their checksums
and their ages, in this order.  Ages that differ by at most `MAX_AGE_DIFF`
count as equal, and the age `MAX_AGE` is meant to be newer than all others.
The second rule for ages also holds when the left age is `MAX_AGE`, so that a
flushed instance and a much younger copy of it are each older than the other.
-/

namespace OmnetDsi.Ospf.LSAHeaders

open Ospf.ShortestPathTree

/-! ## Headers -/

def MAX_AGE_DIFF : Nat := 900

def MIN_LS_ARRIVAL : Nat := 1

def INITIAL_SEQUENCE_NUMBER : Int := -2147483647

def MAX_SEQUENCE_NUMBER : Int := 2147483647

inductive LSAType where
  | routerLSAType
  | networkLSAType
  | summaryLSA_NetworksType
  | summaryLSA_ASBoundaryRoutersType
  | asExternalLSAType
deriving DecidableEq

structure LSAKeyType where
  linkStateID : Nat
  advertisingRouter : Nat
deriving DecidableEq

structure OSPFLSAHeader where
  lsAge : Nat := 0
  lsType : LSAType := .routerLSAType
  linkStateID : Nat
  advertisingRouter : Nat
  lsSequenceNumber : Int := 0
  lsChecksum : BitVec 16 := 0
deriving DecidableEq

def OSPFLSAHeader.lsaKey (header : OSPFLSAHeader) : LSAKeyType where
  linkStateID := header.linkStateID
  advertisingRouter := header.advertisingRouter

/-- `operator<`: the left LSA is older than the right one. -/
def operatorLess (leftLSA rightLSA : OSPFLSAHeader) : Bool :=
  if leftLSA.lsSequenceNumber < rightLSA.lsSequenceNumber then true
  else if leftLSA.lsSequenceNumber = rightLSA.lsSequenceNumber then
    if leftLSA.lsChecksum < rightLSA.lsChecksum then true
    else if leftLSA.lsChecksum = rightLSA.lsChecksum then
      if leftLSA.lsAge ≠ MAX_AGE ∧ rightLSA.lsAge = MAX_AGE then true
      else
        ((leftLSA.lsAge : Int) - rightLSA.lsAge).natAbs > MAX_AGE_DIFF ∧
          leftLSA.lsAge > rightLSA.lsAge
    else false
  else false

/-- `operator==`: the left LSA is the same age as the right one. -/
def operatorEqual (leftLSA rightLSA : OSPFLSAHeader) : Bool :=
  leftLSA.lsSequenceNumber = rightLSA.lsSequenceNumber ∧
    leftLSA.lsChecksum = rightLSA.lsChecksum ∧
      (leftLSA.lsAge = MAX_AGE ∧ rightLSA.lsAge = MAX_AGE ∨
        (leftLSA.lsAge ≠ MAX_AGE ∧ rightLSA.lsAge ≠ MAX_AGE) ∧
          ((leftLSA.lsAge : Int) - rightLSA.lsAge).natAbs ≤ MAX_AGE_DIFF)

/-- Only the age tells the instances apart. -/
def SameInstance (left right : OSPFLSAHeader) : Prop :=
  left.lsSequenceNumber = right.lsSequenceNumber ∧ left.lsChecksum = right.lsChecksum

theorem operatorLess_iff :
    operatorLess left right = true ↔
      left.lsSequenceNumber < right.lsSequenceNumber ∨
        left.lsSequenceNumber = right.lsSequenceNumber ∧
          (left.lsChecksum.toNat < right.lsChecksum.toNat ∨
            left.lsChecksum.toNat = right.lsChecksum.toNat ∧
              (left.lsAge ≠ MAX_AGE ∧ right.lsAge = MAX_AGE ∨
                right.lsAge + MAX_AGE_DIFF < left.lsAge)) := by
  simp only [operatorLess, BitVec.lt_def, BitVec.toNat_eq]
  split_ifs
  all_goals
    simp only [decide_eq_true_eq, true_iff, false_iff]
    omega

theorem operatorEqual_iff :
    operatorEqual left right = true ↔
      left.lsSequenceNumber = right.lsSequenceNumber ∧
        left.lsChecksum.toNat = right.lsChecksum.toNat ∧
          (left.lsAge = MAX_AGE ∧ right.lsAge = MAX_AGE ∨
            left.lsAge ≠ MAX_AGE ∧ right.lsAge ≠ MAX_AGE ∧ left.lsAge ≤ right.lsAge + MAX_AGE_DIFF ∧
              right.lsAge ≤ left.lsAge + MAX_AGE_DIFF) := by
  rw [operatorEqual, decide_eq_true_eq, BitVec.toNat_eq]
  omega

theorem SameInstance.symm (same : SameInstance left right) : SameInstance right left :=
  ⟨same.1.symm, same.2.symm⟩

theorem operatorLess_same (same : SameInstance left right) :
    operatorLess left right = true ↔
      left.lsAge ≠ MAX_AGE ∧ right.lsAge = MAX_AGE ∨ right.lsAge + MAX_AGE_DIFF < left.lsAge := by
  rw [operatorLess_iff, same.1, same.2]
  simp only [lt_irrefl, true_and, false_or]

theorem operatorEqual_same (same : SameInstance left right) :
    operatorEqual left right = true ↔
      left.lsAge = MAX_AGE ∧ right.lsAge = MAX_AGE ∨
        left.lsAge ≠ MAX_AGE ∧ right.lsAge ≠ MAX_AGE ∧ left.lsAge ≤ right.lsAge + MAX_AGE_DIFF ∧
          right.lsAge ≤ left.lsAge + MAX_AGE_DIFF := by
  rw [operatorEqual_iff, same.1, same.2]
  simp only [true_and]

theorem operatorLess_other (other : ¬SameInstance left right) :
    operatorLess left right = true ↔
      left.lsSequenceNumber < right.lsSequenceNumber ∨
        left.lsSequenceNumber = right.lsSequenceNumber ∧
          left.lsChecksum.toNat < right.lsChecksum.toNat := by
  rw [operatorLess_iff]
  constructor
  · rintro (older | ⟨sequence, less | ⟨checksum, -⟩⟩)
    · exact .inl older
    · exact .inr ⟨sequence, less⟩
    · exact absurd ⟨sequence, BitVec.toNat_eq.mpr checksum⟩ other
  · rintro (older | ⟨sequence, less⟩)
    · exact .inl older
    · exact .inr ⟨sequence, .inl less⟩

theorem not_operatorEqual
    (other : ¬SameInstance left right) : operatorEqual left right = false := by
  rw [← Bool.not_eq_true, operatorEqual_iff]
  rintro ⟨sequence, checksum, -⟩
  exact other ⟨sequence, BitVec.toNat_eq.mpr checksum⟩

/-! ## Updates -/

inductive InstallSource where
  | originated
  | flooded
deriving DecidableEq

/-- An LSA in the database, of which the content does not matter here. -/
structure DatabaseCopy where
  header : OSPFLSAHeader
  source : InstallSource := .flooded
  installTime : Nat := 0
deriving DecidableEq

/-- What the router knows when it processes an LSA of an update packet. -/
structure Circumstances where
  anyNeighborInExchangeOrLoadingState : Bool
  /-- `InstallASExternalLSA` keeps an equivalent LSA of the router itself. -/
  keepsOwnLSA : Bool
  selfOriginated : Bool

/-- `InstallLSA`, with what follows when the LSA is the router's own. -/
def installLSA (circumstances : Circumstances)
    (lsaInDatabase : Option DatabaseCopy) (currentLSA : OSPFLSAHeader) : Option DatabaseCopy :=
  let installed :=
    if circumstances.keepsOwnLSA then lsaInDatabase else some { header := currentLSA }
  match lsaInDatabase, installed with
  | some _, some copy =>
    if circumstances.selfOriginated then
      if currentLSA.lsSequenceNumber = MAX_SEQUENCE_NUMBER then
        some { copy with header := { copy.header with lsAge := MAX_AGE } }
      else
        some { copy with
          header :=
            { copy.header with
              lsSequenceNumber := currentLSA.lsSequenceNumber + 1 } }
    else some copy
  | _, installed => installed

/--
What `LinkStateUpdateHandler::ProcessPacket` makes of the copy in the
database for one LSA of the packet.
-/
def processLSA (circumstances : Circumstances)
    (lsaInDatabase : Option DatabaseCopy) (currentLSA : OSPFLSAHeader) : Option DatabaseCopy :=
  match lsaInDatabase with
  | none =>
    if currentLSA.lsAge = MAX_AGE ∧ circumstances.anyNeighborInExchangeOrLoadingState = false then
      none
    else installLSA circumstances none currentLSA
  | some copy =>
    if operatorLess copy.header currentLSA then
      if copy.source = .flooded ∧ copy.installTime < MIN_LS_ARRIVAL then some copy
      else installLSA circumstances (some copy) currentLSA
    else some copy

/-! ## Recency -/

/-- What the handlers rely on when they compare two instances. -/
structure Recency (left right : OSPFLSAHeader) : Prop where
  exactlyOne :
    (operatorLess left right = true ∧ operatorLess right left = false ∧
        operatorEqual left right = false) ∨
      (operatorLess left right = false ∧ operatorLess right left = true ∧
        operatorEqual left right = false) ∨
      operatorLess left right = false ∧ operatorLess right left = false ∧
        operatorEqual left right = true
  higher : left.lsSequenceNumber < right.lsSequenceNumber → operatorLess left right = true
  flushed :
    SameInstance left right → left.lsAge ≠ MAX_AGE →
      right.lsAge = MAX_AGE → operatorLess left right = true
  neverOlder :
    ∀ circumstances copy, copy.header = left →
      processLSA circumstances (some copy) right ≠ some copy → operatorLess right left = false
  neverUndone :
    ∀ circumstances copy, copy.header = left → SameInstance left right →
      left.lsAge = MAX_AGE → right.lsAge ≠ MAX_AGE →
        processLSA circumstances (some copy) right = some copy

/-- One instance is flushed, and the other is much younger. -/
def MuchYounger (flushed younger : OSPFLSAHeader) : Prop :=
  flushed.lsAge = MAX_AGE ∧ younger.lsAge + MAX_AGE_DIFF < MAX_AGE

theorem operatorLess_of_processLSA_ne
    (changed : processLSA circumstances (some copy) currentLSA ≠ some copy) :
    operatorLess copy.header currentLSA = true := by
  by_contra notOlder
  apply changed
  unfold processLSA
  exact if_neg notOlder

theorem exactlyOne_iff (leftAge : left.lsAge ≤ MAX_AGE) (rightAge : right.lsAge ≤ MAX_AGE) :
    ((operatorLess left right = true ∧ operatorLess right left = false ∧
          operatorEqual left right = false) ∨
        (operatorLess left right = false ∧ operatorLess right left = true ∧
          operatorEqual left right = false) ∨
        operatorLess left right = false ∧ operatorLess right left = false ∧
          operatorEqual left right = true) ↔
      ¬(SameInstance left right ∧ (MuchYounger left right ∨ MuchYounger right left)) := by
  by_cases same : SameInstance left right
  · simp only [← Bool.not_eq_true, operatorLess_same,
      operatorLess_same same.symm, operatorEqual_same, same, true_and, MuchYounger]
    omega
  · have other : ¬SameInstance right left := fun back => same back.symm
    simp only [← Bool.not_eq_true, operatorLess_other,
      operatorLess_other other, not_operatorEqual, same, false_and,
      not_false_iff, iff_true, and_true]
    rw [SameInstance, BitVec.toNat_eq] at same
    omega

/--
The instances are ordered, and an update keeps to the order, unless they are
the same instance, one of them flushed and the other more than `MAX_AGE_DIFF`
younger.
-/
theorem recency_iff (left right : OSPFLSAHeader)
    (leftAge : left.lsAge ≤ MAX_AGE) (rightAge : right.lsAge ≤ MAX_AGE) :
    Recency left right ↔
      ¬(SameInstance left right ∧ (MuchYounger left right ∨ MuchYounger right left)) := by
  constructor
  · intro recency
    exact (exactlyOne_iff leftAge rightAge).mp recency.exactlyOne
  · intro notBoth
    have one := (exactlyOne_iff leftAge rightAge).mpr notBoth
    have never : operatorLess left right = true → operatorLess right left = false := by
      intro older
      rcases one with ⟨_, other, _⟩ | ⟨not, _⟩ | ⟨not, _⟩
      · exact other
      · exact absurd (older.symm.trans not) (by decide)
      · exact absurd (older.symm.trans not) (by decide)
    constructor
    · exact one
    · intro higher
      exact operatorLess_iff.mpr (.inl higher)
    · intro same young flushed
      rw [SameInstance, BitVec.toNat_eq] at same
      exact operatorLess_iff.mpr (.inr ⟨same.1, .inr ⟨same.2, .inl ⟨young, flushed⟩⟩⟩)
    · rintro _ copy rfl changed
      exact never (operatorLess_of_processLSA_ne changed)
    · rintro _ copy rfl same flushed young
      by_contra changed
      have older := operatorLess_of_processLSA_ne changed
      have newer : operatorLess right copy.header = true := by
        rw [SameInstance, BitVec.toNat_eq] at same
        exact operatorLess_iff.mpr (.inr ⟨same.1.symm, .inr ⟨same.2.symm, .inl ⟨young, flushed⟩⟩⟩)
      exact absurd (newer.symm.trans (never older)) (by decide)

theorem recency_of_sequence :
    Recency { linkStateID := 1, advertisingRouter := 1, lsAge := 3600 }
      { linkStateID := 1, advertisingRouter := 1, lsSequenceNumber := 1 } :=
  (recency_iff _ _ (by decide) (by decide)).mpr fun both => absurd both.1.1 (by decide)

/-- A flushed instance is undone by a young copy of it. -/
theorem flushed_undone :
    ¬Recency { linkStateID := 1, advertisingRouter := 1, lsAge := 3600 }
      { linkStateID := 1, advertisingRouter := 1 } := by
  intro recency
  have stays :=
    recency.neverUndone
      { anyNeighborInExchangeOrLoadingState := false
        keepsOwnLSA := false
        selfOriginated := false }
      { header := { linkStateID := 1, advertisingRouter := 1, lsAge := 3600 }
        installTime := 5 }
      rfl ⟨rfl, rfl⟩ rfl (by decide)
  exact absurd stays (by decide)

end OmnetDsi.Ospf.LSAHeaders
