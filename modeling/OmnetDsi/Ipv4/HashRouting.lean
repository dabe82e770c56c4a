import Mathlib.Data.Nat.Digits.Lemmas
import OmnetDsi.Library.Fallible

/-!
# Routing by hash

`RoutingTable::hashRouting` writes the addresses and ports of a packet as
texts into one buffer of 32 bytes and hashes the whole buffer each time, also
what was in it before.  The five words of the result are doubled until they
have eight hexadecimal digits and cut into windows of as many bits as are
needed to number the uplinks.  The first window with the number of an uplink
is taken; the last one is corrected if its number is too large.

`SHA1` is a parameter.  The arrays `hexa` and `test` are a few bytes too short
for what `itoa` writes into them; the bytes behind them are left out.
-/

namespace OmnetDsi.Ipv4.HashRouting

open Library.Fallible List

/-! ## Texts -/

/-- The hexadecimal digits of a number, as `itoa` writes them. -/
def hexText (value : BitVec 32) : List Char :=
  if value = 0 then ['0'] else ((Nat.digits 16 value.toNat).map Nat.digitChar).reverse

abbrev Buffer : Type :=
  Fin 32 → BitVec 8

def charByte (c : Char) : BitVec 8 :=
  BitVec.ofNat 8 c.toNat

/-- The digits and a NUL are written, and nothing else. -/
def itoa (value : BitVec 32) (buff : Buffer) : Buffer := fun i =>
  match (hexText value)[i.val]? with
  | some c => charByte c
  | none => if i.val = (hexText value).length then 0 else buff i

def bytes (buff : Buffer) : List (BitVec 8) :=
  ofFn buff

/-- What the four calls of `Input` hash, with the first contents of `buff`. -/
def hashInput (dest src destPort srcPort : BitVec 32) (buff : Buffer) : List (BitVec 8) :=
  let first := itoa dest buff
  let second := itoa src first
  let third := itoa destPort second
  let fourth := itoa srcPort third
  bytes first ++ bytes second ++ bytes third ++ bytes fourth

/-! ## The digest -/

inductive HashFault where
  /-- The loop has not ended yet. -/
  | outOfFuel
  /-- No size of a window is given for the number of uplinks. -/
  | divisionByZero
  /-- A window behind the last one is read. -/
  | outOfBounds

/-- The five words of the result. -/
abbrev MessageDigest : Type :=
  Nat → BitVec 32

/-- A word is doubled until it has eight digits. -/
def normaliseWord : Nat → BitVec 32 → Except HashFault (BitVec 32)
  | 0, word => if word < 268435456#32 then .error .outOfFuel else .ok word
  | fuel + 1, word =>
    if word < 268435456#32 then normaliseWord fuel (word + word) else .ok word

def normalise (fuel : Nat) (message_digest : MessageDigest) : Except HashFault MessageDigest :=
  updateAll (fun _ => normaliseWord fuel) (range 5) message_digest

/-- The digits of all words, the last digit of a word first. -/
def temp (message_digest : MessageDigest) (k : Nat) : Char :=
  (hexText (message_digest (k / 8))).getD (7 - k % 8) '\x00'

/-- The bits of a digit. -/
def test : Char → List Char
  | '0' => ['0', '0', '0', '0']
  | '1' => ['0', '0', '0', '1']
  | '2' => ['0', '0', '1', '0']
  | '3' => ['0', '0', '1', '1']
  | '4' => ['0', '1', '0', '0']
  | '5' => ['0', '1', '0', '1']
  | '6' => ['0', '1', '1', '0']
  | '7' => ['0', '1', '1', '1']
  | '8' => ['1', '0', '0', '0']
  | '9' => ['1', '0', '0', '1']
  | 'a' => ['1', '0', '1', '0']
  | 'b' => ['1', '0', '1', '1']
  | 'c' => ['1', '1', '0', '0']
  | 'd' => ['1', '1', '0', '1']
  | 'e' => ['1', '1', '1', '0']
  | 'f' => ['1', '1', '1', '1']
  | _ => []

/-- The bits of all words, the last bit of a word first. -/
def digest (message_digest : MessageDigest) (k : Nat) : Char :=
  (test (temp message_digest (k / 4))).getD (3 - k % 4) '\x00'

/-! ## Windows -/

def windowSize (numCon : Nat) : Nat :=
  if numCon = 2 then 1
  else if numCon > 2 ∧ numCon < 5 then 2
  else if numCon > 4 ∧ numCon < 9 then 3
  else if numCon > 8 ∧ numCon < 17 then 4
  else if numCon > 16 ∧ numCon < 33 then 5
  else 0

def numWindow (numCon : Nat) : Nat :=
  160 / windowSize numCon

/-- The windows are cut from the end of `digest`. -/
def window (message_digest : MessageDigest) (numCon i j : Nat) : Char :=
  digest message_digest (159 - (i * windowSize numCon + j))

/-- The number of a window; its first bit counts least. -/
def windowValue (message_digest : MessageDigest) (numCon i : Nat) : Nat :=
  (range (windowSize numCon)).foldl
    (fun value j => if window message_digest numCon i j = '1' then value + 2 ^ j else value) 0

/-- The number as it is used, which differs in the last window. -/
def value (message_digest : MessageDigest) (numCon i : Nat) : Int :=
  if i = numWindow numCon - 1 ∧ windowValue message_digest numCon i > numCon
  then
    windowValue message_digest numCon i - 2 ^ (windowSize numCon - 1)
  else windowValue message_digest numCon i

/-- The loop over the windows, with the number of windows left. -/
def selectWindow (message_digest : MessageDigest) (numCon : Nat) :
    Nat → Nat → Except HashFault (Nat × Int)
  | 0, _ => .error .outOfBounds
  | left + 1, i =>
    if value message_digest numCon i ≥ numCon then selectWindow message_digest numCon left (i + 1)
    else .ok (i, value message_digest numCon i)

/-- The window that is selected, and the value that is used for `getRoute`. -/
def select (fuel : Nat) (message_digest : MessageDigest) (numCon : Nat) :
    Except HashFault (Nat × Int) := do
  let words ← normalise fuel message_digest
  if windowSize numCon = 0 then .error .divisionByZero
  else selectWindow words numCon (numWindow numCon) 0

def hashRouting (sha : List (BitVec 8) → MessageDigest) (fuel numCon : Nat)
    (dest src destPort srcPort : BitVec 32) (buff : Buffer) : Except HashFault (Nat × Int) :=
  select fuel (sha (hashInput dest src destPort srcPort buff)) numCon

/-! ## What is hashed -/

section Inputs

variable {left right : Buffer}

theorem length_hexText_le (value : BitVec 32) : (hexText value).length ≤ 8 := by
  unfold hexText
  split
  · decide
  · rw [length_reverse, length_map, Nat.digits_length_le_iff (by decide)]
    exact value.isLt

variable {value : BitVec 32}

theorem itoa_text (inside : i.val ≤ (hexText value).length) :
    itoa value left i = itoa value right i := by
  unfold itoa
  cases found : (hexText value)[i.val]? with
  | some _ => rfl
  | none =>
    have last := getElem?_eq_none_iff.mp found
    have same : i.val = (hexText value).length := by omega
    rw [if_pos same, if_pos same]

theorem itoa_behind (behind : (hexText value).length < i.val) (buff : Buffer) :
    itoa value buff i = buff i := by
  have none : (hexText value)[i.val]? = none := getElem?_eq_none_iff.mpr behind.le
  rw [itoa, none, if_neg (by omega)]

theorem itoa_eq_iff :
    itoa value left = itoa value right ↔
      ∀ i : Fin 32, (hexText value).length < i.val → left i = right i := by
  constructor
  · intro same _ behind
    rw [← itoa_behind behind left, ← itoa_behind behind right, same]
  · intro agree
    funext i
    rcases Nat.lt_or_ge (hexText _).length i.val with behind | inside
    · rw [itoa_behind behind, itoa_behind behind, agree i behind]
    · exact itoa_text inside

variable (dest src destPort srcPort : BitVec 32)

/--
The same bytes are hashed exactly if the buffers agree behind the text of the
destination; then the same uplink is taken.
-/
theorem hashInput_eq_iff :
    (hashInput dest src destPort srcPort left = hashInput dest src destPort srcPort right ↔
        ∀ i : Fin 32, (hexText dest).length < i.val → left i = right i) ∧
      ((∀ i : Fin 32, (hexText dest).length < i.val → left i = right i) →
        ∀ sha fuel numCon,
          hashRouting sha fuel numCon dest src destPort srcPort left =
            hashRouting sha fuel numCon dest src destPort srcPort right) := by
  have same : hashInput dest src destPort srcPort left = hashInput dest src destPort srcPort right ↔
      ∀ i : Fin 32, (hexText dest).length < i.val → left i = right i := by
    rw [← itoa_eq_iff]
    constructor
    · intro equal
      have lengths : ∀ buff : Buffer, (bytes buff).length = 32 := fun buff => length_ofFn
      unfold hashInput at equal
      rw [append_assoc, append_assoc, append_assoc, append_assoc] at equal
      have first := (append_inj equal ((lengths _).trans (lengths _).symm)).1
      exact ofFn_injective first
    · intro equal
      unfold hashInput
      rw [equal]
  refine ⟨same, fun agree sha fuel numCon => ?_⟩
  unfold hashRouting
  rw [same.mpr agree]

/-- The last byte of the buffer is hashed as it was. -/
theorem stale_byte_hashed :
    hashInput 1 2 3 4 (fun _ => 0) ≠ hashInput 1 2 3 4 (fun i => if i.val = 31 then 1 else 0) := by
  intro same
  have short := length_hexText_le 1
  have last : (31 : Nat) < 32 := by decide
  have behind : (hexText 1).length < (⟨31, last⟩ : Fin 32).val := by
    change (hexText 1).length < 31
    omega
  unfold hashInput at same
  rw [append_assoc, append_assoc, append_assoc, append_assoc] at same
  have first := (append_inj same (by rw [bytes, bytes, length_ofFn, length_ofFn])).1
  have agree := itoa_eq_iff.mp (ofFn_injective first) ⟨31, last⟩ behind
  cases agree

end Inputs

/-! ## Eight digits -/

/-- The word with its first one bit among the highest four. -/
def shifted (word : BitVec 32) : BitVec 32 :=
  word <<< (28 - Nat.log2 word.toNat)

/-- The word has eight hexadecimal digits. -/
def Full (word : BitVec 32) : Prop :=
  2 ^ 28 ≤ word.toNat

theorem lt_iff (word : BitVec 32) : word < 268435456#32 ↔ word.toNat < 2 ^ 28 :=
  Iff.rfl

variable {word : BitVec 32}

theorem shifted_full (full : Full word) : shifted word = word := by
  have positive : word.toNat ≠ 0 := by
    unfold Full at full
    omega
  have large : 28 ≤ Nat.log2 word.toNat := (Nat.le_log2 positive).mpr full
  rw [shifted, Nat.sub_eq_zero_of_le large, BitVec.shiftLeft_zero]

theorem toNat_double (small : word.toNat < 2 ^ 28) : (word + word).toNat = 2 * word.toNat := by
  rw [BitVec.toNat_add]
  omega

theorem shifted_double (nonzero : word ≠ 0)
    (small : word.toNat < 2 ^ 28) : shifted (word + word) = shifted word := by
  have positive : word.toNat ≠ 0 := by
    intro zero
    exact nonzero (BitVec.eq_of_toNat_eq zero)
  have fewer : Nat.log2 word.toNat < 28 := (Nat.log2_lt positive).mpr small
  have next : Nat.log2 (word + word).toNat = Nat.log2 word.toNat + 1 := by
    rw [toNat_double small, Nat.log2_two_mul positive]
  have steps : 28 - Nat.log2 word.toNat = 1 + (28 - (Nat.log2 word.toNat + 1)) := by omega
  unfold shifted
  rw [next, steps, BitVec.shiftLeft_add]
  congr 1
  apply BitVec.eq_of_toNat_eq
  rw [toNat_double small, BitVec.toNat_shiftLeft, Nat.shiftLeft_eq]
  omega

/-- Zero is doubled forever, and every other word ends with eight digits. -/
theorem normaliseWord_eq_ok (success : normaliseWord fuel word = .ok result) :
    word ≠ 0 ∧ result = shifted word ∧ Full result := by
  induction fuel generalizing word with
  | zero =>
    unfold normaliseWord at success
    split at success
    · cases success
    case isFalse full =>
      cases success
      rw [lt_iff, not_lt] at full
      refine ⟨?_, (shifted_full full).symm, full⟩
      rintro rfl
      contradiction
  | succ _ induction =>
    unfold normaliseWord at success
    split at success
    case isTrue small =>
      obtain ⟨nonzero, shift, full⟩ := induction success
      have positive : word ≠ 0 := by
        rintro rfl
        exact nonzero rfl
      refine ⟨positive, ?_, full⟩
      rw [shift, shifted_double positive ((lt_iff _).mp small)]
    case isFalse full =>
      cases success
      rw [lt_iff, not_lt] at full
      refine ⟨?_, (shifted_full full).symm, full⟩
      rintro rfl
      contradiction

theorem normaliseWord_total (nonzero : word ≠ 0) (enough : 2 ^ 28 ≤ word.toNat * 2 ^ fuel) :
    normaliseWord fuel word = .ok (shifted word) := by
  induction fuel generalizing word with
  | zero =>
    rw [Nat.pow_zero, Nat.mul_one] at enough
    rw [normaliseWord, if_neg (by rw [lt_iff]; omega), shifted_full enough]
  | succ fuel induction =>
    unfold normaliseWord
    split
    case isTrue small =>
      have below := (lt_iff _).mp small
      have doubled : word + word ≠ 0 := by
        intro zero
        have number := toNat_double below
        rw [zero] at number
        apply nonzero
        apply BitVec.eq_of_toNat_eq
        change 0 = 2 * word.toNat at number
        change word.toNat = 0
        omega
      rw [induction doubled, shifted_double nonzero below]
      calc
        2 ^ 28 ≤ word.toNat * 2 ^ (fuel + 1) := enough
        _ = (word + word).toNat * 2 ^ fuel := by
          rw [toNat_double below, pow_succ]
          ring
    case isFalse full =>
      rw [lt_iff, not_lt] at full
      rw [shifted_full full]

theorem normalise_eq_ok (success : normalise fuel message_digest = .ok words) :
    ∀ i < 5, message_digest i ≠ 0 ∧ words i = shifted (message_digest i) ∧ Full (words i) := by
  intro i inside
  have each := (updateAll_eq_ok nodup_range success).1 i (mem_range.mpr inside)
  exact normaliseWord_eq_ok each

theorem normalise_total (nonzero : ∀ i < 5, message_digest i ≠ 0) :
    ∃ words, normalise 28 message_digest = .ok words := by
  apply Avoids.total
  refine updateAll_avoids nodup_range fun i member => ?_
  have here := nonzero i (mem_range.mp member)
  refine .of_eq_ok (normaliseWord_total here ?_)
  have positive : 0 < (message_digest i).toNat := by
    rw [Nat.pos_iff_ne_zero]
    intro zero
    exact here (BitVec.eq_of_toNat_eq zero)
  omega

/-! ## The bits of the digest -/

theorem test_digitChar :
    ∀ d < 16, ∀ r < 4,
      (test (Nat.digitChar d)).getD (3 - r) '\x00' = if d.testBit r then '1' else '0' := by
  decide

theorem digest_eq (full : Full (message_digest (k / 32))) :
    digest message_digest k = if (message_digest (k / 32)).getLsbD (k % 32) then '1' else '0' := by
  have sameWord : k / 4 / 8 = k / 32 := by omega
  have nonzero : message_digest (k / 32) ≠ 0 := by
    intro zero
    rw [Full, zero] at full
    contradiction
  generalize word_eq : message_digest (k / 32) = word at full nonzero
  have length : (Nat.digits 16 word.toNat).length = 8 := by
    have most := (Nat.digits_length_le_iff (by decide) word.toNat).mpr
      (show word.toNat < 16 ^ 8 from word.isLt)
    have least : ¬(Nat.digits 16 word.toNat).length ≤ 7 := by
      rwa [Nat.digits_length_le_iff (by decide), not_lt]
    omega
  have inside : k / 4 % 8 < (Nat.digits 16 word.toNat).length := by
    omega
  have digit : temp message_digest (k / 4) =
      Nat.digitChar (word.toNat / 16 ^ (k / 4 % 8) % 16) := by
    unfold temp hexText
    rw [sameWord, word_eq, if_neg nonzero,
      getD_eq_getElem?_getD, getElem?_reverse (by
        rw [length_map, length]
        omega), length_map, length,
      show 8 - 1 - (7 - k / 4 % 8) = k / 4 % 8 by omega,
      getElem?_map, getElem?_eq_getElem inside]
    have found := Nat.getD_digits word.toNat (k / 4 % 8) (show 2 ≤ 16 by decide)
    rw [getD_eq_getElem?_getD, getElem?_eq_getElem inside, Option.getD_some] at found
    rw [Option.map_some, Option.getD_some, found]
  rw [digest, digit, test_digitChar _ (Nat.mod_lt _ (by decide)) _ (Nat.mod_lt _ (by decide))]
  have power : 16 ^ (k / 4 % 8) = 2 ^ (4 * (k / 4 % 8)) := by rw [Nat.pow_mul]
  have position : 4 * (k / 4 % 8) + k % 4 = k % 32 := by omega
  have bit : (word.toNat / 16 ^ (k / 4 % 8) % 16).testBit (k % 4) = word.getLsbD (k % 32) := by
    rw [power, show 16 = 2 ^ 4 by rfl, Nat.testBit_mod_two_pow,
      Nat.testBit_div_two_pow, BitVec.getLsbD, ← position]
    have low : k % 4 < 4 := Nat.mod_lt _ (by decide)
    rw [decide_eq_true low, Bool.true_and]
    congr 1
    omega
  rw [bit]

/-! ## The windows of a digest -/

/-- The position in the digest of a window's bit. -/
def position (numCon i j : Nat) : Nat :=
  159 - (i * windowSize numCon + j)

/-- The number that the bits of a window stand for. -/
def windowNumber (message_digest : MessageDigest) (numCon i : Nat) : Nat :=
  (range (windowSize numCon)).foldl
    (fun value j =>
      if (message_digest (position numCon i j / 32)).getLsbD
          (position numCon i j % 32) then value + 2 ^ j
      else value)
    0

theorem position_word (numCon i j : Nat) : position numCon i j / 32 < 5 := by
  unfold position
  omega

theorem windowValue_eq (full : ∀ i < 5, Full (message_digest i)) (numCon i : Nat) :
    windowValue message_digest numCon i = windowNumber message_digest numCon i := by
  unfold windowValue windowNumber
  congr 1
  funext number j
  have bit := digest_eq (full _ (position_word numCon i j))
  change (if digest message_digest (position numCon i j) = '1' then _
    else _) = _
  rw [bit]
  cases (message_digest (position numCon i j / 32)).getLsbD (position numCon i j % 32) with
  | true => rfl
  | false => rfl

theorem windowNumber_congr (same : ∀ i < 5, words i = message_digest i) (numCon i : Nat) :
    windowNumber words numCon i = windowNumber message_digest numCon i := by
  unfold windowNumber
  congr 1
  funext number j
  rw [same _ (position_word _ i j)]

theorem foldl_bits_lt (bit : Nat → Bool) (size : Nat) :
    (range size).foldl (fun value j => if bit j then value + 2 ^ j else value) 0 < 2 ^ size := by
  induction size with
  | zero => exact Nat.zero_lt_one
  | succ _ _ =>
    rw [range_succ, foldl_append, foldl_cons, foldl_nil, Nat.pow_succ]
    split
    all_goals omega

theorem windowNumber_lt (message_digest : MessageDigest) (numCon i : Nat) :
    windowNumber message_digest numCon i < 2 ^ windowSize numCon :=
  foldl_bits_lt _ _

theorem windowSize_spec :
    ∀ numCon ≤ 32, 2 ≤ numCon →
      0 < windowSize numCon ∧ 0 < numWindow numCon ∧
        2 ^ (windowSize numCon - 1) < numCon ∧
          2 ^ windowSize numCon = 2 * 2 ^ (windowSize numCon - 1) := by
  decide

section Values

variable {message_digest : MessageDigest} (two : 2 ≤ numCon) (most : numCon ≤ 32)

include two most

theorem value_nonneg (i : Nat) : 0 ≤ value message_digest numCon i := by
  obtain ⟨_, _, _, _⟩ := windowSize_spec _ most two
  have power : (2 : Int) ^ (windowSize numCon - 1) = (2 ^ (windowSize numCon - 1) : Nat) := by
    rfl
  unfold value
  split
  all_goals omega

variable (full : ∀ i < 5, Full (message_digest i))

include full

/-- In the last window only one number is not made that of an uplink. -/
theorem value_lt_iff (i : Nat) :
    value message_digest numCon i < numCon ↔
      if i = numWindow numCon - 1 then windowNumber message_digest numCon i ≠ numCon
      else windowNumber message_digest numCon i < numCon := by
  obtain ⟨_, _, _, _⟩ := windowSize_spec _ most two
  have below := windowNumber_lt message_digest numCon i
  have power : (2 : Int) ^ (windowSize numCon - 1) = (2 ^ (windowSize numCon - 1) : Nat) := by
    rfl
  rw [value, windowValue_eq full, power]
  split
  case isTrue last =>
    rw [if_pos last.1]
    omega
  case isFalse other =>
    rw [not_and] at other
    split
    case isTrue last =>
      have few := other last
      omega
    · omega

end Values

theorem selectWindow_eq_ok
    (success : selectWindow message_digest numCon left first = .ok (index, found)) :
    index < first + left ∧ found = value message_digest numCon index ∧ found < numCon := by
  induction left generalizing first with
  | zero => cases success
  | succ _ induction =>
    unfold selectWindow at success
    split at success
    · have later := induction success
      refine ⟨?_, later.2⟩
      omega
    case isFalse small =>
      cases success
      exact ⟨by omega, rfl, not_le.mp small⟩

/-- A window is selected if one of those that are left has a small value. -/
theorem selectWindow_total :
    (∃ result, selectWindow message_digest numCon left first = .ok result) ↔
      ∃ i < first + left, first ≤ i ∧ value message_digest numCon i < numCon := by
  induction left generalizing first with
  | zero =>
    constructor
    · rintro ⟨_, same⟩
      cases same
    · omega
  | succ _ induction =>
    unfold selectWindow
    split
    case isTrue large =>
      rw [induction]
      constructor
      · rintro ⟨i, _, above, small⟩
        exact ⟨i, by omega, by omega, small⟩
      · rintro ⟨i, _, above, small⟩
        rcases Nat.eq_or_lt_of_le above with rfl | later
        · omega
        · exact ⟨i, by omega, later, small⟩
    case isFalse small =>
      constructor
      · exact fun _ => ⟨first, by omega, le_rfl, not_le.mp small⟩
      · exact fun _ => ⟨_, rfl⟩

/-! ## When an uplink is found -/

/-- Both loops end, inside the windows and with the number of an uplink. -/
def Returns (message_digest : MessageDigest) (numCon : Nat) : Prop :=
  ∃ fuel index found, select fuel message_digest numCon = .ok (index, found) ∧
    index < numWindow numCon ∧ 0 ≤ found ∧ found < numCon

/-- Each window is rejected, and the last one is not corrected. -/
def Exhausts (message_digest : MessageDigest) (numCon : Nat) : Prop :=
  (∀ i < numWindow numCon - 1, numCon ≤ windowNumber message_digest numCon i) ∧
    windowNumber message_digest numCon (numWindow numCon - 1) = numCon

/-- An uplink is found unless a word is zero or all windows are rejected. -/
theorem select_returns_iff {numCon : Nat} (two : 2 ≤ numCon)
    (most : numCon ≤ 32) (message_digest : MessageDigest) :
    Returns message_digest numCon ↔
      (∀ i < 5, message_digest i ≠ 0) ∧ ¬Exhausts (fun i => shifted (message_digest i)) numCon := by
  obtain ⟨size, _, _, _⟩ := windowSize_spec _ most two
  have selected : ∀ {fuel words}, normalise fuel message_digest = .ok words →
      ((∃ result, selectWindow words numCon (numWindow numCon) 0 = .ok result) ↔
        ¬Exhausts (fun i => shifted (message_digest i)) numCon) := by
    intro _ words success
    have each := normalise_eq_ok success
    have same : ∀ i < 5, words i = shifted (message_digest i) := fun i inside => (each i inside).2.1
    have full : ∀ i < 5, Full (words i) := fun i inside => (each i inside).2.2
    rw [selectWindow_total]
    simp only [Exhausts, ← windowNumber_congr same]
    constructor
    · rintro ⟨i, below, _, small⟩ ⟨all, last⟩
      rw [value_lt_iff two most full] at small
      split at small
      case isTrue isLast =>
        rw [isLast] at small
        exact small last
      case isFalse other =>
        have large := all i (by omega)
        omega
    · intro some
      by_contra none
      apply some
      push Not at none
      have large : ∀ i < numWindow numCon, ¬value words numCon i < numCon :=
        fun i below => not_lt.mpr (none i (by omega) (Nat.zero_le i))
      constructor
      · intro i _
        have rejected := large i (by omega)
        rw [value_lt_iff two most full, if_neg (by omega)] at rejected
        omega
      · have rejected := large (numWindow numCon - 1) (by omega)
        rw [value_lt_iff two most full, if_pos rfl] at rejected
        exact not_not.mp rejected
  constructor
  · rintro ⟨_, index, found, success, _⟩
    obtain ⟨_, normalised, chosen⟩ := bind_eq_ok.mp success
    rw [if_neg size.ne'] at chosen
    exact ⟨fun i inside => (normalise_eq_ok normalised i inside).1,
      (selected normalised).mp ⟨_, chosen⟩⟩
  · rintro ⟨nonzero, open_window⟩
    obtain ⟨_, normalised⟩ := normalise_total nonzero
    obtain ⟨⟨index, found⟩, chosen⟩ := (selected normalised).mpr open_window
    obtain ⟨_, value_eq, small⟩ := selectWindow_eq_ok chosen
    refine ⟨28, index, found, ?_, by omega, ?_, small⟩
    · rw [select, normalised]
      exact (if_neg size.ne').trans chosen
    · rw [value_eq]
      exact value_nonneg two most index

/-- Four uplinks use windows of two bits, none of which is rejected. -/
theorem select_returns_four : Returns (fun _ => 0xFFFFFFFF#32) 4 := by
  rw [select_returns_iff (by decide) (by decide)]
  refine ⟨fun i _ => by decide, ?_⟩
  rintro ⟨_, _⟩
  have below := windowNumber_lt (fun _ => shifted 0xFFFFFFFF#32) 4 (numWindow 4 - 1)
  contradiction

/-- A zero word is doubled forever; ones leave no window of three uplinks. -/
theorem no_uplink : ¬Returns (fun _ => 0) 2 ∧ ¬Returns (fun _ => 0xFFFFFFFF#32) 3 := by
  constructor
  · rintro ⟨_, _, _, success, _⟩
    obtain ⟨words, normalised, _⟩ := bind_eq_ok.mp success
    exact (normalise_eq_ok normalised 0 (by decide)).1 rfl
  · rintro ⟨_, _, _, success, _⟩
    obtain ⟨words, normalised, chosen⟩ := bind_eq_ok.mp success
    have each := normalise_eq_ok normalised
    have same : ∀ i < 5, words i = 0xFFFFFFFF#32 :=
      fun i inside => (each i inside).2.1.trans
        (shifted_full (show 2 ^ 28 ≤ (0xFFFFFFFF#32).toNat by decide))
    obtain ⟨i, below, _, small⟩ := selectWindow_total.mp ⟨_, chosen⟩
    rw [value_lt_iff (by decide) (by decide)
      (fun i inside => (each i inside).2.2), windowNumber_congr same] at small
    have all : ∀ i < 0 + numWindow 3, windowNumber (fun _ => 0xFFFFFFFF#32) 3 i = 3 := by
      decide +kernel
    rw [all i below] at small
    split at small
    · exact small rfl
    · exact lt_irrefl _ small

end OmnetDsi.Ipv4.HashRouting
