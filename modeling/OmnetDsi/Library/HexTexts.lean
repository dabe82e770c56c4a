import Mathlib.Algebra.Group.Nat.Hom
import Mathlib.Data.List.TakeWhile

/-!
# Numbers in base sixteen

`strtoul` with the base sixteen and unsigned numbers of 64 bits: blanks, a
sign and `0x` may stand in front of the digits, a number that is too large
reads as the largest one, and a minus sign negates modulo the word.

`Numeral` says which texts it takes.  It reads a numeral up to the first
character that cannot go on with it (`strtoul_text`), and whatever it reads
is one (`numeral_of_strtoul`).
-/

namespace OmnetDsi.Library.HexTexts

open List

/-- The white space of the C locale. -/
def isspace (c : Char) : Bool :=
  c = ' ' || c = '\t' || c = '\n' || c = '\x0b' || c = '\x0c' || c = '\r'

def digitValue (c : Char) : Option Nat :=
  if '0' ≤ c && c ≤ '9' then some (c.toNat - '0'.toNat)
  else if 'a' ≤ c && c ≤ 'f' then some (c.toNat - 'a'.toNat + 10)
  else if 'A' ≤ c && c ≤ 'F' then some (c.toNat - 'A'.toNat + 10)
  else none

def isxdigit (c : Char) : Bool :=
  (digitValue c).isSome

/-- The number that the digits stand for, of any size. -/
def hexValue (digits : List Char) : Nat :=
  digits.foldl (fun value c => 16 * value + (digitValue c).getD 0) 0

def skipSign : List Char → Bool × List Char
  | '-' :: rest => (true, rest)
  | '+' :: rest => (false, rest)
  | text => (false, text)

/-- The base is skipped only if a digit follows. -/
def skipBase : List Char → List Char
  | '0' :: x :: digit :: rest =>
    if (x = 'x' || x = 'X') && isxdigit digit then digit :: rest else '0' :: x :: digit :: rest
  | text => text

/-- The result, which is the largest number when the digits overflow. -/
def unsignedLong (negative : Bool) (value : Nat) : BitVec 64 :=
  if 2 ^ 64 ≤ value then BitVec.allOnes 64
  else if negative then -BitVec.ofNat 64 value
  else BitVec.ofNat 64 value

/-- The number and the rest of the text; nothing when no digit is read. -/
def strtoul (text : List Char) : Option (BitVec 64 × List Char) :=
  let signed := skipSign (text.dropWhile isspace)
  let unsigned := skipBase signed.2
  let digits := unsigned.takeWhile isxdigit
  if digits = [] then none
  else some (unsignedLong signed.1 (hexValue digits), unsigned.dropWhile isxdigit)

/-! ## Numerals -/

/-- The parts of a number's text. -/
structure Numeral where
  blanks : List Char
  sign : List Char
  base : List Char
  digits : List Char
  blank : ∀ c ∈ blanks, isspace c = true
  signs : sign = [] ∨ sign = ['+'] ∨ sign = ['-']
  bases : base = [] ∨ base = ['0', 'x'] ∨ base = ['0', 'X']
  nonempty : digits ≠ []
  hex : ∀ c ∈ digits, isxdigit c = true

def Numeral.text (numeral : Numeral) : List Char :=
  numeral.blanks ++ (numeral.sign ++ (numeral.base ++ numeral.digits))

def Numeral.value (numeral : Numeral) : BitVec 64 :=
  unsignedLong (numeral.sign = ['-']) (hexValue numeral.digits)

/-- No character in front that a number could go on with. -/
def Ends (rest : List Char) : Prop :=
  ∀ c ∈ rest.head?, isxdigit c = false ∧ c ≠ 'x' ∧ c ≠ 'X'

theorem not_isspace_of_isxdigit (hex : isxdigit c = true) : isspace c = false := by
  by_contra blank
  simp only [isspace, Bool.not_eq_false, Bool.or_eq_true, decide_eq_true_eq] at blank
  rcases blank with ((((rfl | rfl) | rfl) | rfl) | rfl) | rfl <;> exact absurd hex (by decide)

theorem not_base_of_isxdigit (hex : isxdigit c = true) : c ≠ 'x' ∧ c ≠ 'X' := by
  constructor <;> rintro rfl <;> exact absurd hex (by decide)

theorem not_sign_of_isxdigit (hex : isxdigit c = true) : c ≠ '-' ∧ c ≠ '+' := by
  constructor <;> rintro rfl <;> exact absurd hex (by decide)

section

variable {digits : List Char} (hex : ∀ c ∈ digits, isxdigit c = true)
include hex

theorem skipBase_digits (nonempty : digits ≠ [])
    (ends : Ends rest) : skipBase (digits ++ rest) = digits ++ rest := by
  unfold skipBase
  split
  · case _ x digit tail same =>
      have notBase : x ≠ 'x' ∧ x ≠ 'X' := by
        cases digits with
        | nil => exact absurd rfl nonempty
        | cons _ others =>
          cases others with
          | nil =>
            simp only [cons_append, nil_append, cons.injEq] at same
            exact (ends x (by simp [same.2])).2
          | cons _ _ =>
            simp only [cons_append, cons.injEq] at same
            exact not_base_of_isxdigit (same.2.1 ▸ hex _ (by simp))
      simp [notBase.1, notBase.2, same]
  · rfl

theorem takeWhile_digits (ends : Ends rest) :
    (digits ++ rest).takeWhile isxdigit = digits ∧ (digits ++ rest).dropWhile isxdigit = rest := by
  rw [takeWhile_append_of_pos hex, dropWhile_append_of_pos hex]
  cases rest with
  | nil => simp
  | cons c _ =>
    have plain := (ends c rfl).1
    simp [plain]

end

theorem skipBase_text (bases : base = [] ∨ base = ['0', 'x'] ∨ base = ['0', 'X'])
    (nonempty : digits ≠ []) (hex : ∀ c ∈ digits, isxdigit c = true)
    (ends : Ends rest) : skipBase (base ++ (digits ++ rest)) = digits ++ rest := by
  rcases bases with rfl | rfl | rfl
  · rw [nil_append]
    exact skipBase_digits hex nonempty ends
  · cases digits with
    | nil => exact absurd rfl nonempty
    | cons first _ => simp [skipBase, hex first (by simp)]
  · cases digits with
    | nil => exact absurd rfl nonempty
    | cons first _ => simp [skipBase, hex first (by simp)]

section

variable (numeral : Numeral) (rest : List Char)
include numeral rest

/-- The characters that the base and the digits begin with. -/
theorem head_unsigned :
    ∃ c tail, numeral.base ++ (numeral.digits ++ rest) = c :: tail ∧ isxdigit c = true := by
  rcases numeral.bases with base | base | base
  · cases digits : numeral.digits with
    | nil => exact absurd digits numeral.nonempty
    | cons first others =>
      refine ⟨first, others ++ rest, by simp [base], ?_⟩
      exact numeral.hex _ (by simp [digits])
  · exact ⟨'0', _, by rw [base]; rfl, by decide⟩
  · exact ⟨'0', _, by rw [base]; rfl, by decide⟩

theorem skipSign_text :
    skipSign (numeral.sign ++ (numeral.base ++ (numeral.digits ++ rest))) =
      (decide (numeral.sign = ['-']), numeral.base ++ (numeral.digits ++ rest)) := by
  rcases numeral.signs with sign | sign | sign
  · rcases head_unsigned _ _ with ⟨_, _, same, hex⟩
    rcases not_sign_of_isxdigit hex with ⟨notMinus, notPlus⟩
    rw [sign, same, nil_append]
    unfold skipSign
    split
    · case _ head =>
        cases head
        exact absurd rfl notMinus
    · case _ head =>
        cases head
        exact absurd rfl notPlus
    · simp
  · rw [sign]
    simp [skipSign]
  · rw [sign]
    simp [skipSign]

theorem dropWhile_blanks :
    (numeral.text ++ rest).dropWhile isspace =
      numeral.sign ++ (numeral.base ++ (numeral.digits ++ rest)) := by
  simp only [Numeral.text, append_assoc]
  rw [dropWhile_append_of_pos numeral.blank]
  rcases numeral.signs with sign | sign | sign
  · rcases head_unsigned _ _ with ⟨_, _, same, hex⟩
    rw [sign, nil_append, same]
    simp [not_isspace_of_isxdigit hex]
  · rw [sign]
    rfl
  · rw [sign]
    rfl

end

/-- A numeral is read as a whole. -/
theorem strtoul_text (numeral : Numeral) (ends : Ends rest) :
    strtoul (numeral.text ++ rest) = some (numeral.value, rest) := by
  have skipped := skipBase_text numeral.bases numeral.nonempty numeral.hex ends
  rcases takeWhile_digits numeral.hex ends with ⟨taken, dropped⟩
  rw [strtoul, dropWhile_blanks, skipSign_text]
  dsimp only
  rw [skipped, taken, dropped, if_neg numeral.nonempty]
  rfl

/-- Nothing is read where there is no sign, no blank and no digit. -/
theorem strtoul_none
    (plain : ∀ c ∈ text.head?, isspace c = false ∧ isxdigit c = false ∧ c ≠ '-' ∧ c ≠ '+') :
    strtoul text = none := by
  cases text with
  | nil => rfl
  | cons c rest =>
    rcases plain c rfl with ⟨notSpace, notHex, _, _⟩
    have signed : skipSign ((c :: rest).dropWhile isspace) = (false, c :: rest) := by
      simp only [dropWhile_cons, notSpace]
      unfold skipSign
      split <;> simp_all
    have unsigned : skipBase (c :: rest) = c :: rest := by
      unfold skipBase
      split
      · case _ same =>
          cases same
          exact absurd notHex (by decide)
      · rfl
    rw [strtoul, signed]
    dsimp only
    rw [unsigned]
    simp [notHex]

theorem skipSign_spec (text : List Char) :
    ∃ sign,
      text = sign ++ (skipSign text).2 ∧ (sign = [] ∨ sign = ['+'] ∨ sign = ['-']) ∧
        (skipSign text).1 = decide (sign = ['-']) := by
  unfold skipSign
  split
  · exact ⟨['-'], rfl, .inr (.inr rfl), rfl⟩
  · exact ⟨['+'], rfl, .inr (.inl rfl), rfl⟩
  · exact ⟨[], rfl, .inl rfl, rfl⟩

theorem skipBase_spec (text : List Char) :
    ∃ base, text = base ++ skipBase text ∧ (base = [] ∨ base = ['0', 'x'] ∨ base = ['0', 'X']) := by
  unfold skipBase
  split
  · case _ x digit rest =>
      split_ifs with based
      · have which : x = 'x' ∨ x = 'X' := by simpa using (Bool.and_eq_true_iff.mp based).1
        rcases which with rfl | rfl
        · exact ⟨['0', 'x'], rfl, .inr (.inl rfl)⟩
        · exact ⟨['0', 'X'], rfl, .inr (.inr rfl)⟩
      · exact ⟨[], rfl, .inl rfl⟩
  · exact ⟨[], rfl, .inl rfl⟩

/-- What is read is a numeral, up to a character that is no digit. -/
theorem numeral_of_strtoul (read : strtoul text = some (value, rest)) :
    ∃ numeral : Numeral, text = numeral.text ++ rest ∧ value = numeral.value := by
  dsimp only [strtoul] at read
  split_ifs at read with nonempty
  rcases skipSign_spec _ with ⟨sign, signed, signs, negative⟩
  rcases skipBase_spec (skipSign _).2 with ⟨base, based, bases⟩
  cases read
  refine ⟨
    { blanks := text.takeWhile _
      sign
      base
      digits := (skipBase (skipSign _).2).takeWhile _
      blank := fun c member => mem_takeWhile_imp member
      signs
      bases
      nonempty
      hex := fun c member => mem_takeWhile_imp member }, ?_, ?_⟩
  · simp only [Numeral.text, append_assoc, takeWhile_append_dropWhile]
    rw [← based, ← signed, takeWhile_append_dropWhile]
  · rw [Numeral.value, negative]

/-! ## The digits of a number -/

theorem digitChar_value (small : digit < 16) : digitValue digit.digitChar = some digit := by
  have all : ∀ digit : Fin 16, digitValue digit.val.digitChar = some digit.val := by decide
  exact all ⟨digit, small⟩

theorem toDigits_spec (number : Nat) :
    hexValue (Nat.toDigits 16 number) = number ∧
      ∀ c ∈ Nat.toDigits 16 number, isxdigit c = true := by
  induction number using Nat.strongRecOn with
  | ind number hypothesis =>
    by_cases small : number < 16
    · rw [Nat.toDigits_of_lt_base small]
      have value := digitChar_value small
      refine ⟨by simp [hexValue, value], ?_⟩
      intro _ member
      cases mem_singleton.mp member
      simp [isxdigit, value]
    · rw [Nat.toDigits_of_base_le (by decide) (by omega)]
      rcases hypothesis (number / 16) (by omega) with ⟨value, hex⟩
      have last := digitChar_value (Nat.mod_lt number (by decide : 16 > 0))
      refine ⟨?_, ?_⟩
      · unfold hexValue at value ⊢
        rw [foldl_append, value]
        simp only [foldl_cons, foldl_nil, last]
        simp only [Option.getD_some]
        omega
      · intro c member
        rcases mem_append.mp member with earlier | only
        · exact hex c earlier
        · cases mem_singleton.mp only
          simp [isxdigit, last]

end OmnetDsi.Library.HexTexts
