import Mathlib.Algebra.Order.Field.Power
import Mathlib.Data.Int.Log
import Mathlib.Data.Rat.Floor

/-!
# Binary floating point over the rationals

A finite datum is the rational number it stands for, and an operation is the
exact one followed by rounding to the nearest datum of the format, ties to
even.  Overflow gives an infinity, and the operations on infinities and NaN
are those of the standard.  There is one zero: its sign could be seen only in
a quotient by it.

The facts that programs with counters rely on: a number with few enough bits
is not rounded (`round_exact`), so integers up to `2 ^ precision` are added
exactly (`add_intCast`), and comparison is that of the rationals.
-/

namespace OmnetDsi.Library.BinaryFloat

open Int

/--
A format; the exponents are those of the unit in the last place.  It holds
the integers of up to its precision.
-/
structure Format where
  precision : Nat
  minExponent : Int
  maxExponent : Int
  positive : 0 < precision
  units : minExponent ≤ 0
  room : 0 < maxExponent

def binary32 : Format where
  precision := 24
  minExponent := -149
  maxExponent := 104
  positive := by decide
  units := by decide
  room := by decide

def binary64 : Format where
  precision := 53
  minExponent := -1074
  maxExponent := 971
  positive := by decide
  units := by decide
  room := by decide

inductive Datum where
  | nan
  | infinity (negative : Bool)
  | finite (value : ℚ)
deriving DecidableEq

/-! ## Rounding -/

/-- The nearest integer, and of two nearest ones the even one. -/
def roundHalfEven (x : ℚ) : ℤ :=
  let rest := x - ⌊x⌋
  if rest < 1 / 2 then ⌊x⌋
  else if 1 / 2 < rest then ⌊x⌋ + 1
  else if ⌊x⌋ % 2 = 0 then ⌊x⌋
  else ⌊x⌋ + 1

/-- The exponent of the unit in the last place next to a number. -/
def Format.exponent (format : Format) (x : ℚ) : ℤ :=
  max format.minExponent (log 2 |x| - format.precision + 1)

/-- The first magnitude that is too large for the format. -/
def Format.overflow (format : Format) : ℚ :=
  2 ^ (format.maxExponent + format.precision)

def round (format : Format) (x : ℚ) : Datum :=
  let value := (roundHalfEven (x / 2 ^ format.exponent x) : ℚ) * 2 ^ format.exponent x
  if format.overflow ≤ |value| then .infinity (decide (value < 0)) else .finite value

/-! ## Operations -/

def ofInt (format : Format) (k : ℤ) : Datum :=
  round format k

/-- The same number in another format. -/
def convert (format : Format) : Datum → Datum
  | .nan => .nan
  | .infinity negative => .infinity negative
  | .finite value => round format value

def neg : Datum → Datum
  | .nan => .nan
  | .infinity negative => .infinity (!negative)
  | .finite value => .finite (-value)

def add (format : Format) : Datum → Datum → Datum
  | .nan, _ => .nan
  | _, .nan => .nan
  | .infinity left, .infinity right => if left = right then .infinity left else .nan
  | .infinity left, .finite _ => .infinity left
  | .finite _, .infinity right => .infinity right
  | .finite left, .finite right => round format (left + right)

def sub (format : Format) (left right : Datum) : Datum :=
  add format left (neg right)

def mul (format : Format) : Datum → Datum → Datum
  | .nan, _ => .nan
  | _, .nan => .nan
  | .infinity left, .infinity right => .infinity (left != right)
  | .infinity left, .finite right =>
    if right = 0 then .nan else .infinity (left != decide (right < 0))
  | .finite left, .infinity right =>
    if left = 0 then .nan else .infinity (decide (left < 0) != right)
  | .finite left, .finite right => round format (left * right)

def div (format : Format) : Datum → Datum → Datum
  | .nan, _ => .nan
  | _, .nan => .nan
  | .infinity _, .infinity _ => .nan
  | .infinity left, .finite right => .infinity (left != decide (right < 0))
  | .finite _, .infinity _ => .finite 0
  | .finite left, .finite right =>
    if right = 0 then
      if left = 0 then .nan else .infinity (decide (left < 0))
    else round format (left / right)

def lt : Datum → Datum → Bool
  | .nan, _ => false
  | _, .nan => false
  | .infinity left, .infinity right => left && !right
  | .infinity left, .finite _ => left
  | .finite _, .infinity right => !right
  | .finite left, .finite right => decide (left < right)

def le (left right : Datum) : Bool :=
  match left, right with
  | .nan, _ => false
  | _, .nan => false
  | left, right => !lt right left

/-- Equality as the comparison operator has it: no NaN equals another. -/
def eq : Datum → Datum → Bool
  | .nan, _ => false
  | left, right => decide (left = right)

def floor : Datum → Datum
  | .finite value => .finite ⌊value⌋
  | other => other

def ceil : Datum → Datum
  | .finite value => .finite ⌈value⌉
  | other => other

/-- The integer part, towards zero. -/
def truncate (x : ℚ) : ℤ :=
  if 0 ≤ x then ⌊x⌋ else ⌈x⌉

/--
The conversion to a type with the values from `low` up to `high`; whatever
does not fit becomes `indefinite`.
-/
def toInteger (low high indefinite : ℤ) : Datum → ℤ
  | .finite value =>
    if low ≤ truncate value ∧ truncate value ≤ high then truncate value else indefinite
  | _ => indefinite

/-! ## What is not rounded -/

theorem roundHalfEven_intCast (k : ℤ) : roundHalfEven (k : ℚ) = k := by
  simp [roundHalfEven]

@[simp]
theorem round_zero (format : Format) : round format 0 = .finite 0 := by
  have zero := roundHalfEven_intCast 0
  have positive : ¬format.overflow ≤ 0 := by
    unfold Format.overflow
    exact not_le.mpr (by positivity)
  rw [cast_zero] at zero
  simp [round, zero, positive]

variable {format : Format}

/-- The unit in the last place divides a number of few bits. -/
theorem exponent_le {m : ℤ} (nonzero : m ≠ 0)
    (bits : |m| < 2 ^ format.precision) (lowest : format.minExponent ≤ k) :
    format.exponent (m * 2 ^ k) ≤ k := by
  have positive : (0 : ℚ) < |(m : ℚ) * 2 ^ k| := by
    apply abs_pos.mpr
    exact mul_ne_zero (cast_ne_zero.mpr nonzero) (by positivity)
  have magnitude : |(m : ℚ) * 2 ^ k| < (2 : ℕ) ^ (format.precision + k) := by
    have cast : |(m : ℚ)| < 2 ^ format.precision := by exact_mod_cast bits
    rw [abs_mul, abs_of_pos (a := (2 : ℚ) ^ k) (by positivity),
      Nat.cast_ofNat, zpow_add₀ two_ne_zero, zpow_natCast]
    exact mul_lt_mul_of_pos_right cast (by positivity)
  have log := (lt_zpow_iff_log_lt Nat.one_lt_two positive).mp magnitude
  apply max_le lowest
  omega

theorem round_of_bits {m : ℤ} (bits : |m| < 2 ^ format.precision) (lowest : format.minExponent ≤ k)
    (inside : |(m : ℚ) * 2 ^ k| < format.overflow) :
    round format (m * 2 ^ k) = .finite (m * 2 ^ k) := by
  by_cases nonzero : m = 0
  · subst nonzero
    simp
  · have below := exponent_le nonzero bits lowest
    -- so the quotient is an integer
    have quotient :
        (m : ℚ) * 2 ^ k / 2 ^ format.exponent (m * 2 ^ k) =
          ((m * 2 ^ (k - format.exponent (m * 2 ^ k)).toNat : ℤ) : ℚ) := by
      have difference :
          ((k - format.exponent (m * 2 ^ k)).toNat : ℤ) = k - format.exponent (m * 2 ^ k) :=
        toNat_of_nonneg (by omega)
      push_cast
      rw [← zpow_natCast, difference, zpow_sub₀ two_ne_zero, mul_div_assoc]
    have value :
        (roundHalfEven ((m : ℚ) * 2 ^ k / 2 ^ format.exponent (m * 2 ^ k)) : ℚ) *
          2 ^ format.exponent (m * 2 ^ k) = m * 2 ^ k := by
      rw [quotient, roundHalfEven_intCast, ← quotient]
      exact div_mul_cancel₀ _ (by positivity)
    rw [round, value, if_neg (not_le.mpr inside)]

/-- A number whose bits fit is its own rounding. -/
theorem round_exact {m : ℤ} (bits : |m| ≤ 2 ^ format.precision) (lowest : format.minExponent ≤ k)
    (inside : |(m : ℚ) * 2 ^ k| < format.overflow) :
    round format (m * 2 ^ k) = .finite (m * 2 ^ k) := by
  rcases lt_or_eq_of_le bits with fewer | exactly
  · exact round_of_bits fewer lowest inside
  · -- a power of two has its one bit at the front
    have even : ∃ sign : ℤ, |sign| ≤ 1 ∧ (m : ℚ) * 2 ^ k = sign * 2 ^ (format.precision + k) := by
      rcases abs_choice m with same | opposite
      · refine ⟨1, by norm_num, ?_⟩
        rw [same] at exactly
        rw [exactly, zpow_add₀ two_ne_zero]
        push_cast
        rw [zpow_natCast, one_mul]
      · refine ⟨-1, by norm_num, ?_⟩
        rw [opposite] at exactly
        have value : m = -2 ^ format.precision := by rw [← exactly, neg_neg]
        rw [value, zpow_add₀ two_ne_zero]
        push_cast
        rw [zpow_natCast, neg_one_mul, neg_mul]
    rcases even with ⟨sign, one, value⟩
    rw [value] at inside ⊢
    refine round_of_bits ?_ (by omega) inside
    calc
      |sign| ≤ 1 := one
      _ < 2 ^ format.precision := one_lt_pow₀ one_lt_two format.positive.ne'

/-! ## Integers -/

variable {k : ℤ}

theorem round_intCast (format : Format)
    (bits : |k| ≤ 2 ^ format.precision) : round format k = .finite k := by
  have cast : |(k : ℚ)| ≤ 2 ^ format.precision := by exact_mod_cast bits
  have inside : |(k : ℚ) * 2 ^ (0 : ℤ)| < format.overflow := by
    calc
      |(k : ℚ) * 2 ^ (0 : ℤ)| = |(k : ℚ)| := by rw [zpow_zero, mul_one]
      _ ≤ 2 ^ (format.precision : ℤ) := by rwa [zpow_natCast]
      _ < format.overflow := by
        have room := format.room
        exact zpow_lt_zpow_right₀ one_lt_two (by omega)
  have exact := round_exact bits format.units inside
  rwa [zpow_zero, mul_one] at exact

theorem ofInt_of_bits (format : Format)
    (bits : |k| ≤ 2 ^ format.precision) : ofInt format k = .finite k :=
  round_intCast _ bits

theorem add_intCast (format : Format) {right : ℤ} (bits : |left + right| ≤ 2 ^ format.precision) :
    add format (.finite left) (.finite right) = .finite (left + right : ℤ) := by
  rw [← round_intCast _ bits, cast_add]
  rfl

theorem sub_intCast (format : Format) {right : ℤ} (bits : |left - right| ≤ 2 ^ format.precision) :
    sub format (.finite left) (.finite right) = .finite (left - right : ℤ) := by
  rw [sub_eq_add_neg, ← add_intCast _ bits, cast_neg]
  rfl

@[simp]
theorem truncate_intCast (k : ℤ) : truncate (k : ℚ) = k := by
  simp [truncate]

theorem toInteger_intCast (above : low ≤ k)
    (below : k ≤ high) : toInteger low high indefinite (.finite k) = k := by
  simp [toInteger, above, below]

/-! ## Representable numbers and the order -/

/-- The numbers that a format without a largest exponent holds. -/
def Representable (format : Format) (v : ℚ) : Prop :=
  ∃ m k : ℤ, v = m * 2 ^ k ∧ |m| ≤ 2 ^ format.precision ∧ format.minExponent ≤ k

/-- The number that a number is rounded to if there is no overflow. -/
def nearest (format : Format) (x : ℚ) : ℚ :=
  roundHalfEven (x / 2 ^ format.exponent x) * 2 ^ format.exponent x

theorem roundHalfEven_cases (x : ℚ) : roundHalfEven x = ⌊x⌋ ∨ roundHalfEven x = ⌊x⌋ + 1 := by
  dsimp only [roundHalfEven]
  split_ifs
  · exact .inl rfl
  · exact .inr rfl
  · exact .inl rfl
  · exact .inr rfl

theorem le_roundHalfEven (above : (k : ℚ) ≤ x) : k ≤ roundHalfEven x := by
  have floor : k ≤ ⌊x⌋ := le_floor.mpr above
  rcases roundHalfEven_cases x with same | next
  · rwa [same]
  · rw [next]
    exact floor.trans (le_add_one le_rfl)

/-- The largest representable number of an exponent. -/
theorem abs_le_of_bits {m : ℤ} (bits : |m| ≤ 2 ^ format.precision) :
    |(m : ℚ) * 2 ^ k| ≤ 2 ^ (format.precision + k) := by
  have cast : |(m : ℚ)| ≤ 2 ^ format.precision := by exact_mod_cast bits
  rw [abs_mul, abs_of_pos (a := (2 : ℚ) ^ k) (by positivity), zpow_add₀ two_ne_zero, zpow_natCast]
  exact mul_le_mul_of_nonneg_right cast (by positivity)

/-- Next to a positive number there is the grid or a power of two. -/
theorem grid_or_power (positive : 0 < x) (representable : Representable format v) :
    (∃ j : ℤ, v = j * 2 ^ format.exponent x) ∨
      v ≤ 2 ^ (format.precision - 1 + format.exponent x) ∧
        (2 : ℚ) ^ (format.precision - 1 + format.exponent x) ≤ x := by
  rcases representable with ⟨m, k, rfl, bits, _⟩
  by_cases coarse : format.exponent x ≤ k
  · left
    refine ⟨m * 2 ^ (k - format.exponent x).toNat, ?_⟩
    have difference : ((k - format.exponent x).toNat : ℤ) = k - format.exponent x :=
      toNat_of_nonneg (by omega)
    push_cast
    rw [← zpow_natCast, difference, zpow_sub₀ two_ne_zero, mul_assoc,
      div_mul_cancel₀ _ (by positivity)]
  · right
    have exponent : format.exponent x = log 2 |x| - format.precision + 1 := by
      unfold Format.exponent at coarse ⊢
      omega
    constructor
    · calc
        (m : ℚ) * 2 ^ k ≤ |(m : ℚ) * 2 ^ k| := le_abs_self _
        _ ≤ 2 ^ (format.precision + k) := abs_le_of_bits bits
        _ ≤ 2 ^ (format.precision - 1 + format.exponent x) :=
          zpow_le_zpow_right₀ one_le_two (by omega)
    · calc
        (2 : ℚ) ^ (format.precision - 1 + format.exponent x) = (2 : ℕ) ^ log 2 |x| := by
          rw [exponent, Nat.cast_ofNat]
          congr 1
          ring
        _ ≤ |x| := zpow_log_le_self Nat.one_lt_two (abs_pos.mpr positive.ne')
        _ = x := abs_of_pos positive

/-- The power of two at the front is on the grid. -/
theorem power_on_grid (format : Format) (e : ℤ) :
    (2 : ℚ) ^ (format.precision - 1 + e) = ((2 ^ (format.precision - 1) : ℤ) : ℚ) * 2 ^ e := by
  have positive := format.positive
  have cast : ((format.precision - 1 : ℕ) : ℤ) = format.precision - 1 := by omega
  rw [zpow_add₀ two_ne_zero, ← cast, zpow_natCast]
  push_cast
  rfl

/-- Rounding does not pass a representable number below. -/
theorem le_nearest (nonnegative : 0 ≤ x) (representable : Representable format v) (above : v ≤ x) :
    v ≤ nearest format x := by
  rcases nonnegative.eq_or_lt with rfl | positive
  · have zero := roundHalfEven_intCast 0
    rw [cast_zero] at zero
    simpa [nearest, zero] using above
  · have unit : (0 : ℚ) < 2 ^ format.exponent x := by positivity
    have on_grid : ∃ j : ℤ, v ≤ j * 2 ^ format.exponent x ∧
        (j : ℚ) * 2 ^ format.exponent x ≤ x := by
      rcases grid_or_power positive representable with ⟨j, rfl⟩ | ⟨up, low⟩
      · exact ⟨j, le_rfl, above⟩
      · rw [power_on_grid] at up low
        exact ⟨_, up, low⟩
    rcases on_grid with ⟨j, less, reached⟩
    have quotient : (j : ℚ) ≤ x / 2 ^ format.exponent x := (le_div_iff₀ unit).mpr reached
    have rounded : (j : ℚ) ≤ roundHalfEven (x / 2 ^ format.exponent x) := by
      exact_mod_cast le_roundHalfEven quotient
    exact less.trans (mul_le_mul_of_nonneg_right rounded unit.le)

theorem lt_transitive
    (first : lt left middle = true) (second : lt middle right = true) : lt left right = true := by
  cases left <;> cases middle <;> cases right <;> simp_all [lt]
  exact first.trans second

theorem lt_self (datum : Datum) : lt datum datum = false := by
  cases datum with
  | nan => rfl
  | infinity negative => cases negative <;> rfl
  | finite _ => simp [lt]

/-- Data that compare equal are the same. -/
theorem eq_of_eq (same : eq left right = true) : left = right := by
  cases left with
  | nan => cases same
  | infinity _ => exact of_decide_eq_true same
  | finite _ => exact of_decide_eq_true same

theorem not_lt_of_eq (same : eq left right = true) : lt left right = false := by
  rw [eq_of_eq same]
  exact lt_self _

/-- Two finite data are equal when the numbers are. -/
@[simp]
theorem eq_finite (left right : ℚ) : eq (.finite left) (.finite right) = decide (left = right) := by
  simp [eq]

theorem representable_intCast (format : Format)
    (bits : |k| ≤ 2 ^ format.precision) : Representable format k :=
  ⟨k, 0, by rw [zpow_zero, mul_one], bits, format.units⟩

/-- An integer above a representable number is rounded above what is less. -/
theorem lt_ofInt (format : Format)
    (representable : Representable format v) (below : x < v) (above : v ≤ k)
    (nonnegative : 0 ≤ k) : lt (.finite x) (ofInt format k) = true := by
  have positive : (0 : ℚ) ≤ k := by exact_mod_cast nonnegative
  have bound : v ≤ nearest format (k : ℚ) := le_nearest positive representable above
  have low : (0 : ℚ) ≤ nearest format (k : ℚ) := by
    have zero := representable_intCast format (k := 0) (by simp)
    exact le_nearest positive zero positive
  dsimp only [ofInt, round]
  split_ifs
  · show (!decide (nearest format (k : ℚ) < 0)) = true
    simp only [Bool.not_eq_true', decide_eq_false_iff_not, not_lt]
    exact low
  · show decide (x < nearest format (k : ℚ)) = true
    simp only [decide_eq_true_eq]
    exact below.trans_le bound

/-- A positive integer stays positive, or becomes infinite. -/
theorem lt_zero_ofInt (format : Format) (positive : 0 < k) :
    lt (.finite 0) (ofInt format k) = true := by
  have bits : |(1 : ℤ)| ≤ 2 ^ format.precision := by
    exact one_le_pow₀ one_le_two
  have representable := representable_intCast _ bits
  apply lt_ofInt _ representable one_pos _ positive.le
  exact_mod_cast positive

/-! ## Whole numbers -/

/-- A datum that is no fraction. -/
def IsWhole : Datum → Prop
  | .finite value => ∃ k : ℤ, value = k
  | _ => True

/-- An integer is rounded to an integer. -/
theorem isWhole_round (format : Format) (k : ℤ) : IsWhole (round format k) := by
  have whole : ∃ j : ℤ, nearest format (k : ℚ) = j := by
    unfold nearest
    rcases le_or_gt (format.exponent k) 0 with _ | coarse
    · -- the grid holds all integers
      have power : ((-format.exponent (k : ℚ)).toNat : ℤ) = -format.exponent (k : ℚ) :=
        toNat_of_nonneg (by omega)
      have quotient :
          (k : ℚ) / 2 ^ format.exponent (k : ℚ) =
            ((k * 2 ^ (-format.exponent (k : ℚ)).toNat : ℤ) : ℚ) := by
        push_cast
        rw [← zpow_natCast, power, zpow_neg, div_eq_mul_inv]
      refine ⟨k, ?_⟩
      rw [quotient, roundHalfEven_intCast, ← quotient]
      exact div_mul_cancel₀ _ (by positivity)
    · -- the grid consists of integers
      have power : ((format.exponent (k : ℚ)).toNat : ℤ) = format.exponent (k : ℚ) :=
        toNat_of_nonneg coarse.le
      refine ⟨roundHalfEven ((k : ℚ) / 2 ^ format.exponent (k : ℚ)) *
        2 ^ (format.exponent (k : ℚ)).toNat, ?_⟩
      push_cast
      rw [← zpow_natCast, power]
  rcases whole with ⟨j, same⟩
  dsimp only [round]
  split_ifs
  · trivial
  · exact ⟨j, same⟩

theorem isWhole_ofInt (format : Format) (k : ℤ) : IsWhole (ofInt format k) :=
  isWhole_round _ k

theorem isWhole_neg (whole : IsWhole d) : IsWhole (neg d) := by
  cases d with
  | nan => trivial
  | infinity _ => trivial
  | finite _ =>
    rcases whole with ⟨k, rfl⟩
    exact ⟨-k, (cast_neg k).symm⟩

theorem isWhole_add (format : Format) (leftWhole : IsWhole left) (rightWhole : IsWhole right) :
    IsWhole (add format left right) := by
  cases left with
  | nan => trivial
  | infinity _ =>
    cases right with
    | nan => trivial
    | infinity _ =>
      dsimp only [add]
      split_ifs <;> trivial
    | finite _ => trivial
  | finite _ =>
    cases right with
    | nan => trivial
    | infinity _ => trivial
    | finite _ =>
      rcases leftWhole with ⟨j, rfl⟩
      rcases rightWhole with ⟨k, rfl⟩
      have sum := isWhole_round format (j + k)
      rwa [cast_add] at sum

theorem isWhole_sub (format : Format) (leftWhole : IsWhole left) (rightWhole : IsWhole right) :
    IsWhole (sub format left right) :=
  isWhole_add _ leftWhole (isWhole_neg rightWhole)

theorem isWhole_floor (d : Datum) : IsWhole (floor d) := by
  cases d with
  | nan => trivial
  | infinity _ => trivial
  | finite value => exact ⟨⌊value⌋, rfl⟩

theorem isWhole_ceil (d : Datum) : IsWhole (ceil d) := by
  cases d with
  | nan => trivial
  | infinity _ => trivial
  | finite value => exact ⟨⌈value⌉, rfl⟩

end OmnetDsi.Library.BinaryFloat
