import OmnetDsi.Contract.Addresses
import Mathlib.Data.List.TakeWhile

/-!
# The text of an IPv4 address

An address is written as four decimal numbers between dots, and the
unspecified one as `<unspec>`.  The parser takes digits of any number into one
`int` before it compares the `int` with the limit, so a number counts as what
is left of it modulo 2^32.

A text is the list of the characters before the null character.
-/

namespace OmnetDsi.Contract.IPv4Text

open Contract.Addresses List Nat

/-! ## The parser -/

inductive ParseError where
  /-- The array is written behind its end. -/
  | outOfBounds
  | invalidAddress
deriving DecidableEq

/-- The inner loop: `num = 10*num + (*s++ - '0')` in an `int`. -/
def readNumber (digits : List Char) : BitVec 32 :=
  digits.foldl (fun num c => 10 * num + BitVec.ofNat 32 (c.toNat - '0'.toNat)) 0

/-- `(unsigned char) num` -/
def byte (num : BitVec 32) : BitVec 8 :=
  num.setWidth 8

/-- The outer loop, with the room left in the array behind `tobytes`. -/
def parseNumbers (room : Nat) (tobytes : List (BitVec 8)) (s : List Char) :
    Except ParseError (Option (List (BitVec 8))) :=
  let digits := s.takeWhile Char.isDigit
  if digits = [] then .ok none
  else
    let num := readNumber digits
    if num.toInt > 255 then .ok none
    else
      match room with
      | 0 => .error .outOfBounds
      | room + 1 =>
        let stored := tobytes ++ [byte num]
        match s.dropWhile Char.isDigit with
        | [] => .ok (if stored.length = 4 then some stored else none)
        | c :: rest =>
          if c ≠ '.' then .ok none
          else if stored.length = 4 then .ok none
          else parseNumbers room stored rest

def unspec : List Char :=
  "<unspec>".toList

def parseIPAddress (text : List Char) : Except ParseError (Option (List (BitVec 8))) :=
  if text = unspec then .ok (some [0, 0, 0, 0]) else parseNumbers 4 [] text

def isWellFormed (text : List Char) : Except ParseError Bool :=
  (parseIPAddress text).map Option.isSome

def set (text : List Char) : Except ParseError IPAddress :=
  match parseIPAddress text with
  | .error failure => .error failure
  | .ok (some [b0, b1, b2, b3]) => .ok (IPAddress.set b0.toNat b1.toNat b2.toNat b3.toNat)
  | .ok _ => .error .invalidAddress

/-! ## The printer -/

/-- Texts with a dot before each but the first. -/
def dotted (numbers : List (List Char)) : List Char :=
  ['.'].intercalate numbers

/-- `sprintf` with `%u.%u.%u.%u`. -/
def str (address : IPAddress) : List Char :=
  if address.isUnspecified then unspec
  else
    dotted ([24, 16, 8, 0].map fun shift => toDigits 10 (address.addr >>> shift &&& 255#32).toNat)

/-! ## Numbers of a text -/

/-- A nonempty text of digits whose value is small as an `int`. -/
structure IsNumber (digits : List Char) : Prop where
  nonempty : digits ≠ []
  isDigit : ∀ c ∈ digits, c.isDigit = true
  small : (ofDigitChars 10 digits 0 : Int).bmod (2 ^ 32) ≤ 255

/-- The text that follows the first of several numbers. -/
def tailText : List (List Char) → List Char
  | [] => []
  | number :: numbers => '.' :: dotted (number :: numbers)

theorem dotted_cons (number : List Char) (numbers : List (List Char)) :
    dotted (number :: numbers) = number ++ tailText numbers := by
  cases numbers with
  | nil => simp [dotted, tailText]
  | cons _ _ => simp [dotted, tailText, intercalate]

theorem readNumber_eq (digits : List Char) :
    readNumber digits = BitVec.ofNat 32 (ofDigitChars 10 digits 0) := by
  refine foldl_hom (BitVec.ofNat 32) fun value c => ?_
  rw [BitVec.ofNat_add, BitVec.ofNat_mul]
  rfl

theorem readNumber_toInt (digits : List Char) :
    (readNumber digits).toInt = (ofDigitChars 10 digits 0 : Int).bmod (2 ^ 32) := by
  rw [readNumber_eq]
  exact BitVec.toInt_ofNat _

theorem split_number {digits : List Char} (isDigit : ∀ c ∈ digits, c.isDigit = true)
    (numbers : List (List Char)) :
    (digits ++ tailText numbers).takeWhile Char.isDigit = digits ∧
      (digits ++ tailText numbers).dropWhile Char.isDigit = tailText numbers := by
  rw [takeWhile_append_of_pos isDigit, dropWhile_append_of_pos isDigit]
  cases numbers with
  | nil => simp [tailText]
  | cons _ _ => simp [tailText]

/-! ## Texts that are accepted -/

/-- `<unspec>`, or four numbers between dots. -/
def WellFormed (text : List Char) : Prop :=
  text = unspec ∨
    ∃ numbers : List (List Char), numbers.length = 4 ∧
      (∀ digits ∈ numbers, IsNumber digits) ∧ text = dotted numbers

/-- The bytes that numbers are stored as. -/
def bytes (numbers : List (List Char)) : List (BitVec 8) :=
  numbers.map fun digits => byte (readNumber digits)

variable {numbers : List (List Char)}

theorem parseNumbers_dotted (isNumber : IsNumber number)
    (others : ∀ digits ∈ numbers, IsNumber digits) {tobytes : List (BitVec 8)}
    (total : tobytes.length + (numbers.length + 1) = 4) :
    parseNumbers (numbers.length + 1) tobytes (dotted (number :: numbers)) =
      .ok (some (tobytes ++ bytes (number :: numbers))) := by
  induction numbers generalizing number tobytes with
  | nil =>
    rcases split_number isNumber.isDigit [] with ⟨taken, dropped⟩
    have small := isNumber.small
    rw [← readNumber_toInt] at small
    have length : (tobytes ++ [byte (readNumber number)]).length = 4 := by simpa using total
    rw [dotted_cons, parseNumbers.eq_def, taken, dropped, if_neg isNumber.nonempty,
      if_neg (Int.not_lt.mpr small)]
    dsimp only [tailText]
    rw [if_pos length]
    rfl
  | cons _ _ hypothesis =>
    rcases split_number isNumber.isDigit _ with ⟨taken, dropped⟩
    have small := isNumber.small
    rw [← readNumber_toInt] at small
    rw [forall_mem_cons] at others
    have length : (tobytes ++ [byte (readNumber number)]).length ≠ 4 := by
      simp only [length_append, length_cons, length_nil] at total ⊢
      omega
    have rest :=
      @hypothesis _ others.1 others.2
        (tobytes ++ [byte (readNumber number)]) (by
          simp only [length_append, length_cons, length_nil] at total ⊢
          omega)
    rw [dotted_cons, parseNumbers.eq_def, taken, dropped, if_neg isNumber.nonempty,
      if_neg (Int.not_lt.mpr small)]
    dsimp only [tailText, length_cons]
    rw [if_neg (fun apart => apart rfl), if_neg length, rest]
    simp [bytes]

theorem parseNumbers_round (room : Nat) (tobytes : List (BitVec 8)) (s : List Char) :
    parseNumbers (room + 1) tobytes s = .ok none ∨
      ∃ number stored, IsNumber number ∧
        stored = tobytes ++ [byte (readNumber number)] ∧
          (s = number ∧ stored.length = 4 ∧ parseNumbers (room + 1) tobytes s = .ok (some stored) ∨
            ∃ rest, s = number ++ '.' :: rest ∧ stored.length ≠ 4 ∧
              parseNumbers (room + 1) tobytes s = parseNumbers room stored rest) := by
  have divided : s.takeWhile Char.isDigit ++ s.dropWhile Char.isDigit = s :=
    takeWhile_append_dropWhile
  rw [parseNumbers.eq_def]
  by_cases missing : s.takeWhile Char.isDigit = []
  · exact .inl (if_pos missing)
  by_cases big : (readNumber (s.takeWhile Char.isDigit)).toInt > 255
  · rw [if_neg missing]
    exact .inl (if_pos big)
  rw [if_neg missing, if_neg big]
  have isNumber : IsNumber (s.takeWhile Char.isDigit) := by
    refine ⟨missing, fun c among => mem_takeWhile_imp among, ?_⟩
    rw [← readNumber_toInt]
    exact Int.not_lt.mp big
  cases behind : s.dropWhile Char.isDigit with
  | nil =>
    rw [behind, append_nil] at divided
    dsimp only
    split_ifs with full
    · exact .inr ⟨_, _, isNumber, rfl, .inl ⟨divided.symm, full, rfl⟩⟩
    · exact .inl rfl
  | cons c rest =>
    rw [behind] at divided
    dsimp only
    split_ifs with other full
    · exact .inl rfl
    · exact .inl rfl
    · have dot : c = '.' := not_not.mp other
      rw [dot] at divided
      exact .inr ⟨_, _, isNumber, rfl, .inr ⟨rest, divided.symm, full, rfl⟩⟩

/-- No byte is written behind the array, and what is parsed are numbers. -/
theorem parseNumbers_cases (s : List Char) (total : tobytes.length + (room + 1) = 4) :
    ∃ parsed, parseNumbers (room + 1) tobytes s = .ok parsed ∧
      (parsed.isSome = true →
        ∃ numbers, numbers.length = room + 1 ∧
          (∀ digits ∈ numbers, IsNumber digits) ∧ s = dotted numbers) := by
  induction room generalizing tobytes s with
  | zero =>
    rcases parseNumbers_round 0 _ s with
      failed | ⟨number, stored, isNumber, rfl, ends | ⟨_, _, more, _⟩⟩
    · exact ⟨none, failed, by simp⟩
    · refine ⟨_, ends.2.2, fun _ => ⟨[number], rfl, ?_, ?_⟩⟩
      · exact forall_mem_singleton.mpr isNumber
      · simp [ends.1, dotted]
    · rw [length_append] at more
      exact absurd total more
  | succ _ hypothesis =>
    rcases parseNumbers_round _ _ s with
      failed | ⟨number, stored, isNumber, rfl, ends | ⟨rest, divided, _, goes⟩⟩
    · exact ⟨none, failed, by simp⟩
    · have full := ends.2.1
      rw [length_append, length_singleton] at full
      omega
    · rcases @hypothesis (tobytes ++ [byte (readNumber _)]) _ (by
          rw [length_append, length_singleton]
          omega) with ⟨parsed, parses, parts⟩
      refine ⟨parsed, goes.trans parses, fun accepted => ?_⟩
      rcases parts accepted with ⟨numbers, length, areNumbers, same⟩
      refine ⟨number :: numbers, by simp [length], ?_, ?_⟩
      · exact forall_mem_cons.mpr ⟨isNumber, areNumbers⟩
      · rw [divided, same, dotted_cons]
        cases numbers with
        | nil => cases length
        | cons _ _ => rfl

section

variable (length : numbers.length = 4) (areNumbers : ∀ digits ∈ numbers, IsNumber digits)
include length areNumbers

theorem unspec_ne_dotted : dotted numbers ≠ unspec := by
  cases numbers with
  | nil => cases length
  | cons number _ =>
    have first := areNumbers _ mem_cons_self
    rw [dotted_cons]
    cases digits : number with
    | nil => exact absurd digits first.nonempty
    | cons c _ =>
      intro same
      have head : c = '<' := (cons.inj same).1
      have digit := first.isDigit c (digits ▸ mem_cons_self)
      rw [head] at digit
      exact absurd digit (by decide)

theorem parseIPAddress_dotted : parseIPAddress (dotted numbers) = .ok (some (bytes numbers)) := by
  rw [parseIPAddress, if_neg (unspec_ne_dotted length areNumbers)]
  cases numbers with
  | nil => cases length
  | cons _ numbers =>
    rw [forall_mem_cons] at areNumbers
    have rest : numbers.length = 3 := succ.inj length
    have parses := @parseNumbers_dotted _ _ areNumbers.1 areNumbers.2 [] (by simp [rest])
    rwa [rest] at parses

end

theorem isWellFormed_iff (text : List Char) :
    ∃ accepted, isWellFormed text = .ok accepted ∧ (accepted = true ↔ WellFormed text) := by
  by_cases plain : text = unspec
  · refine ⟨true, ?_, by simp [WellFormed, plain]⟩
    rw [isWellFormed, parseIPAddress, if_pos plain]
    rfl
  · rcases @parseNumbers_cases 3 [] _ rfl with ⟨parsed, parses, parts⟩
    have outcome : parseIPAddress text = .ok parsed := by
      rwa [parseIPAddress, if_neg plain]
    refine ⟨parsed.isSome, by rw [isWellFormed, outcome]; rfl, ?_, ?_⟩
    · intro accepted
      exact .inr (parts accepted)
    · rintro (same | ⟨numbers, length, areNumbers, rfl⟩)
      · exact absurd same plain
      · rw [parseIPAddress_dotted length areNumbers] at outcome
        cases outcome
        rfl

/-! ## The text of an address is read back -/

theorem isNumber_toDigits (small : octet < 256) : IsNumber (toDigits 10 octet) where
  nonempty := toDigits_ne_nil
  isDigit := fun _ among => isDigit_of_mem_toDigits (by decide) (by decide) among
  small := by rw [ofDigitChars_ten_toDigits, Int.bmod_eq_of_le] <;> omega

theorem byte_toDigits (small : octet < 256) :
    (byte (readNumber (toDigits 10 octet))).toNat = octet := by
  rw [readNumber_eq, ofDigitChars_ten_toDigits, byte, BitVec.toNat_setWidth, BitVec.toNat_ofNat]
  omega

theorem set_getDByte (address : IPAddress) :
    IPAddress.set (address.getDByte 0) (address.getDByte 1)
        (address.getDByte 2) (address.getDByte 3) = address := by
  apply getInt_injective
  rw [getInt_set (getDByte_lt _ _) (getDByte_lt _ _) (getDByte_lt _ _) (getDByte_lt _ _)]
  simp only [getDByte_eq]
  have bound : address.getInt < 2 ^ 32 := address.addr.isLt
  omega

theorem set_str (address : IPAddress) : set (str address) = .ok address := by
  rw [str]
  split_ifs with unspecified
  · rcases address with ⟨addr⟩
    have zero : addr = 0 := beq_iff_eq.mp unspecified
    rw [zero]
    rfl
  · have octets :
        [24, 16, 8, 0].map (fun shift => toDigits 10 (address.addr >>> shift &&& 255#32).toNat) =
          [toDigits 10 (address.getDByte 0), toDigits 10 (address.getDByte 1),
            toDigits 10 (address.getDByte 2), toDigits 10 (address.getDByte 3)] :=
      rfl
    have areNumbers :
        ∀ digits ∈ [toDigits 10 (address.getDByte 0),
            toDigits 10 (address.getDByte 1), toDigits 10 (address.getDByte 2),
            toDigits 10 (address.getDByte 3)], IsNumber digits := by
      simp only [forall_mem_cons, not_mem_nil, false_imp_iff,
        implies_true, and_true, isNumber_toDigits (getDByte_lt _ _)]
    rw [octets, set, parseIPAddress_dotted rfl areNumbers]
    simp only [bytes, map_cons, map_nil, byte_toDigits (getDByte_lt _ _), set_getDByte]

/--
`isWellFormed` takes `<unspec>` and four numbers between dots, without writing
behind its array, and every address is read back from its text.
-/
theorem ipAddress_text :
    (∀ text, ∃ accepted, isWellFormed text = .ok accepted ∧ (accepted = true ↔ WellFormed text)) ∧
      ∀ address, set (str address) = .ok address :=
  ⟨isWellFormed_iff, set_str⟩

/-- A number that is 255 modulo 2^32. -/
example : isWellFormed "4294967551.0.0.1".toList = .ok true := by
  decide +kernel

end OmnetDsi.Contract.IPv4Text
