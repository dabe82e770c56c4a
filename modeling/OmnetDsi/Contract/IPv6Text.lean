import OmnetDsi.Contract.IPv6Addresses
import OmnetDsi.Library.HexTexts
import Mathlib.Data.List.Forall2
import Mathlib.Data.List.Induction

/-!
# The text of an IPv6 address

An address is written as eight numbers between colons, the longest run of
zeros left out.  The parser leaves the numbers to `strtoul` and narrows them,
so that it takes more than the digits of numbers below 2^16, and it does not
ask whether the double colon stands for anything.

`Sloppy` says which texts it should not take, by their parts.
-/

namespace OmnetDsi.Contract.IPv6Text

open Contract.IPv6Addresses Library.HexTexts

/-! ## The parser -/

inductive ParseError where
  /-- An array is written behind its end. -/
  | outOfBounds

/-- The conversion of an `unsigned long` to an `int`. -/
def narrowed (value : BitVec 64) : Int :=
  (value.setWidth 32).toInt

/--
The loop with the room that is left in the array.  The pointer is kept as the
text from there on; before it stands a colon, unless nothing is stored yet.
-/
def parseOctalsFrom : Nat → List Int → List Char → Except ParseError (List Int × List Char)
  | 0, _, _ => .error .outOfBounds
  | room + 1, octals, s =>
    match strtoul s with
    | none => .ok (octals, if octals = [] then s else ':' :: s)
    | some (value, e) =>
      let octal := narrowed value
      if octal < 0 ∨ octal > 0xFFFF then .ok (octals, s)
      else
        let stored := octals ++ [octal]
        match e with
        | ':' :: rest =>
          if stored.length = 8 then .ok (stored, e) else parseOctalsFrom room stored rest
        | _ => .ok (stored, e)

def parseOctals (s : List Char) : Except ParseError (List Int × List Char) :=
  parseOctalsFrom 8 [] s

/-- The loop that fills the array up with zeros and the second half. -/
def mergeOctals (octals suffixOctals : List Int) : List Int :=
  octals ++ (List.range (8 - octals.length)).map fun offset : Nat =>
    let i : Nat := octals.length + offset
    let j : Int := (i : Int) - 8 + suffixOctals.length
    if j < 0 then 0 else suffixOctals.getD j.toNat 0

def word (octals : List Int) (i : Nat) : BitVec 32 :=
  (BitVec.ofInt 32 (octals.getD (i * 2) 0) <<< 16) + BitVec.ofInt 32 (octals.getD (2 * i + 1) 0)

def ofOctals (octals : List Int) : IPv6Address where
  d0 := word octals 0
  d1 := word octals 1
  d2 := word octals 2
  d3 := word octals 3

def unspec : List Char := "<unspec>".toList

/-- The address and the rest of the text. -/
def doTryParse (addr : List Char) : Except ParseError (Option (IPv6Address × List Char)) :=
  if addr = unspec then .ok (some ({}, []))
  else do
    let parsed ← parseOctals addr
    match parsed.2 with
    | ':' :: ':' :: suffix => do
        let more ← parseOctals suffix
        if parsed.1.length + more.1.length > 8 then .ok none
        else .ok (some (ofOctals (mergeOctals parsed.1 more.1), more.2))
    | rest =>
      if parsed.1.length ≠ 8 then .ok none else .ok (some (ofOctals parsed.1, rest))

def tryParse (addr : List Char) : Except ParseError (Option IPv6Address) := do
  match ← doTryParse addr with
  | none => .ok none
  | some (address, rest) => if rest ≠ [] then .ok none else .ok (some address)

/-! ## The printer -/

/-- The state of the search: the longest gap, and where zeros began. -/
structure Gap where
  start : Nat := 0
  stop : Nat := 0
  beg : Option Nat := none

/-- The loop body, for the octal with an index. -/
def countZeros (gap : Gap) (octal : Nat × Nat) : Gap :=
  match gap.beg with
  | none => if octal.1 = 0 then { gap with beg := some octal.2 } else gap
  | some beg =>
    if octal.1 ≠ 0 then
      if octal.2 - beg ≥ 2 ∧ octal.2 - beg > gap.stop - gap.start then
        { start := beg, stop := octal.2, beg := none }
      else { gap with beg := none }
    else gap

def findGap (octals : List Nat) : Nat × Nat :=
  let gap := octals.zipIdx.foldl countZeros {}
  match gap.beg with
  | none => (gap.start, gap.stop)
  | some beg =>
    if beg ≤ 6 ∧ 8 - beg > gap.stop - gap.start then (beg, 8) else (gap.start, gap.stop)

def octalsOf (address : IPv6Address) : List Nat :=
  [(address.d0 >>> 16).toNat, (address.d0 &&& 0xFFFF).toNat,
    (address.d1 >>> 16).toNat, (address.d1 &&& 0xFFFF).toNat,
    (address.d2 >>> 16).toNat, (address.d2 &&& 0xFFFF).toNat,
    (address.d3 >>> 16).toNat, (address.d3 &&& 0xFFFF).toNat]

/-- Texts with a colon before each but the first. -/
def joined (groups : List (List Char)) : List Char :=
  [':'].intercalate groups

def printOctals (octals : List Nat) : List Char :=
  joined (octals.map (Nat.toDigits 16))

def str (address : IPv6Address) : List Char :=
  if address.isUnspecified then unspec
  else
    let octals := octalsOf address
    let gap := findGap octals
    if gap.1 = 0 ∧ gap.2 = 8 then "::0".toList
    else
      printOctals (octals.take gap.1) ++ (if gap.1 ≠ gap.2 then [':', ':'] else []) ++
        printOctals (octals.drop gap.2)

/-! ## The texts of addresses -/

/-- A text that is read as a number for the array. -/
def Reads (text : List Char) (octal : Int) : Prop :=
  0 ≤ octal ∧ octal ≤ 0xFFFF ∧
    ∃ numeral : Numeral, text = numeral.text ∧ octal = narrowed numeral.value

def Readable (text : List Char) : Prop :=
  ∃ octal, Reads text octal

/-- Digits of a number below 2^16, and nothing else. -/
def Plain (text : List Char) : Prop :=
  text ≠ [] ∧ (∀ c ∈ text, isxdigit c = true) ∧ hexValue text ≤ 0xFFFF

/-- Eight groups, or two halves around the groups that are left out. -/
def WellFormed (s : List Char) : Prop :=
  s = unspec ∨ (∃ groups, groups.length = 8 ∧ (∀ group ∈ groups, Plain group) ∧ s = joined groups) ∨
    ∃ left right,
      left.length + right.length < 8 ∧ (∀ group ∈ left ++ right, Plain group) ∧
        s = joined left ++ ':' :: ':' :: joined right

/--
The same with groups as `strtoul` reads them, one of which is not plain, or
with a double colon among eight groups.
-/
def Sloppy (s : List Char) : Prop :=
  (∃ groups,
    groups.length = 8 ∧ (∀ group ∈ groups, Readable group) ∧
      (∃ group ∈ groups, ¬Plain group) ∧ s = joined groups) ∨
    ∃ left right,
      left.length + right.length ≤ 8 ∧ (∀ group ∈ left ++ right, Readable group) ∧
        ((∃ group ∈ left ++ right, ¬Plain group) ∨ left.length + right.length = 8) ∧
        s = joined left ++ ':' :: ':' :: joined right

/-! ## What the parser reads -/

/-- A colon before each group. -/
def colons (groups : List (List Char)) : List Char :=
  groups.flatMap fun group => ':' :: group

theorem joined_cons (group : List Char) (groups : List (List Char)) :
    joined (group :: groups) = group ++ colons groups := by
  induction groups generalizing group with
  | nil => simp [joined, colons]
  | cons next groups hypothesis =>
    have step : joined (group :: next :: groups) = group ++ ':' :: joined (next :: groups) := by
      simp [joined, List.intercalate]
    rw [step, hypothesis]
    rfl

theorem colon_joined_cons (group : List Char) (groups : List (List Char)) :
    ':' :: joined (group :: groups) = colons (group :: groups) := by
  rw [joined_cons]
  rfl

/-- The parser stands before something that is no colon. -/
def Stuck (rest : List Char) : Prop :=
  ∃ c tail, rest = c :: tail ∧ c ≠ ':'

theorem numeral_chars (numeral : Numeral) (member : c ∈ numeral.text) :
    isspace c = true ∨ isxdigit c = true ∨ c ∈ ['+', '-', 'x', 'X'] := by
  simp only [Numeral.text, List.mem_append] at member
  rcases member with blank | sign | base | digit
  · exact .inl (numeral.blank c blank)
  · rcases numeral.signs with none | plus | minus
    · rw [none] at sign
      cases sign
    · rw [plus] at sign
      cases List.mem_singleton.mp sign
      exact .inr (.inr (by decide))
    · rw [minus] at sign
      cases List.mem_singleton.mp sign
      exact .inr (.inr (by decide))
  · rcases numeral.bases with none | small | capital
    · rw [none] at base
      cases base
    · rw [small] at base
      rcases List.mem_pair.mp base with rfl | rfl
      · exact .inr (.inl (by decide))
      · exact .inr (.inr (by decide))
    · rw [capital] at base
      rcases List.mem_pair.mp base with rfl | rfl
      · exact .inr (.inl (by decide))
      · exact .inr (.inr (by decide))
  · exact .inr (.inl (numeral.hex c digit))

theorem numeral_no_colon (numeral : Numeral) : ':' ∉ numeral.text := by
  intro member
  exact absurd (numeral_chars _ member) (by decide)

theorem numeral_nonempty (numeral : Numeral) : numeral.text ≠ [] := by
  simp [Numeral.text, numeral.nonempty]

theorem stuck_of_numeral (numeral : Numeral) (rest : List Char) : Stuck (numeral.text ++ rest) := by
  cases text : numeral.text with
  | nil => exact absurd text (numeral_nonempty _)
  | cons c tail =>
    refine ⟨c, tail ++ rest, rfl, ?_⟩
    rintro rfl
    exact numeral_no_colon numeral (by simp [text])

/-- Once something is stored, the loop reads groups with a colon before. -/
theorem parseOctalsFrom_reads (stored : octals ≠ [])
    (done : parseOctalsFrom room octals s = .ok (all, rest)) :
    Stuck rest ∨
      ∃ groups new,
        all = octals ++ new ∧ List.Forall₂ Reads groups new ∧ ':' :: s = colons groups ++ rest := by
  induction room generalizing octals s with
  | zero => cases done
  | succ _ hypothesis =>
    unfold parseOctalsFrom at done
    split at done
    · cases done
      exact .inr ⟨[], [], by simp, .nil, by simp [colons, stored]⟩
    · case _ value e read =>
        rcases numeral_of_strtoul read with ⟨numeral, rfl, rfl⟩
        dsimp only at done
        by_cases large : narrowed numeral.value < 0 ∨ narrowed numeral.value > 0xFFFF
        · rw [if_pos large] at done
          cases done
          exact .inl (stuck_of_numeral _ e)
        · rw [if_neg large] at done
          have reads : Reads numeral.text (narrowed numeral.value) :=
            ⟨by omega, by omega, numeral, rfl, rfl⟩
          have last :
              ∃ groups new,
                octals ++ [narrowed numeral.value] = octals ++ new ∧ List.Forall₂ Reads groups new ∧
                  ':' :: (numeral.text ++ e) = colons groups ++ e :=
            ⟨[numeral.text], [narrowed numeral.value], rfl, .cons reads .nil, by simp [colons]⟩
          split at done
          · case _ further =>
              split_ifs at done with full
              · cases done
                exact .inr last
              · rcases hypothesis (by simp) done with stuck | ⟨groups, new, rfl, pairs, text⟩
                · exact .inl stuck
                · refine .inr ⟨numeral.text :: groups,
                    narrowed numeral.value :: new, by simp, .cons reads pairs, ?_⟩
                  rw [text]
                  simp [colons]
          · cases done
            exact .inr last

theorem parseOctals_reads (done : parseOctals s = .ok (octals, rest)) :
    Stuck rest ∨ ∃ groups, List.Forall₂ Reads groups octals ∧ s = joined groups ++ rest := by
  unfold parseOctals parseOctalsFrom at done
  split at done
  · cases done
    exact .inr ⟨[], .nil, rfl⟩
  · case _ value e read =>
      rcases numeral_of_strtoul read with ⟨numeral, rfl, rfl⟩
      by_cases large : narrowed numeral.value < 0 ∨ narrowed numeral.value > 0xFFFF
      · rw [if_pos large] at done
        cases done
        exact .inl (stuck_of_numeral _ e)
      · rw [if_neg large] at done
        have reads : Reads numeral.text (narrowed numeral.value) :=
          ⟨by omega, by omega, numeral, rfl, rfl⟩
        split at done
        · case _ further =>
            rcases parseOctalsFrom_reads (by simp) done with stuck | ⟨groups, _, rfl, pairs, text⟩
            · exact .inl stuck
            · refine .inr ⟨numeral.text :: groups, .cons reads pairs, ?_⟩
              rw [joined_cons, text, List.append_assoc]
        · cases done
          exact .inr ⟨[numeral.text], .cons reads .nil, by simp [joined]⟩

theorem parseOctalsFrom_ok (fits : octals.length + room = 8) (some : 0 < room) (s : List Char) :
    ∃ result, parseOctalsFrom room octals s = .ok result := by
  induction room generalizing octals s with
  | zero => cases some
  | succ _ hypothesis =>
    unfold parseOctalsFrom
    split
    · exact ⟨_, rfl⟩
    · dsimp only
      split
      · exact ⟨_, rfl⟩
      · split
        · split_ifs with full
          · exact ⟨_, rfl⟩
          · rw [List.length_append, List.length_singleton] at full
            exact hypothesis (by rw [List.length_append, List.length_singleton]; omega) (by omega) _
        · exact ⟨_, rfl⟩

theorem parseOctals_ok (s : List Char) : ∃ result, parseOctals s = .ok result :=
  parseOctalsFrom_ok rfl (by decide) s

/-- What may follow a half of the groups. -/
def Stops (rest : List Char) : Prop :=
  rest = [] ∨ ∃ further, rest = ':' :: ':' :: further

theorem strtoul_stops (stops : Stops rest) : strtoul rest = none := by
  rcases stops with rfl | ⟨_, rfl⟩
  · rfl
  · refine strtoul_none ?_
    intro _ head
    cases head
    decide

theorem ends_colons (groups : List (List Char))
    (stops : Stops rest) : Ends (colons groups ++ rest) := by
  cases groups with
  | nil =>
    rcases stops with rfl | ⟨_, rfl⟩
    · intro _ head
      cases head
    · intro _ head
      cases head
      decide
  | cons _ _ =>
    intro _ head
    cases head
    decide

theorem parseOctalsFrom_stops (stored : octals ≠ []) (some : 0 < room)
    (further : List Char) (stops : rest = ':' :: ':' :: further) :
    parseOctalsFrom room octals (':' :: further) = .ok (octals, rest) := by
  cases room with
  | zero => cases some
  | succ _ =>
    unfold parseOctalsFrom
    have nothing : strtoul (':' :: further) = none := by
      refine strtoul_none ?_
      intro _ head
      cases head
      decide
    rw [nothing, stops]
    simp [stored]

variable {groups : List (List Char)}

theorem parseOctalsFrom_joined
    (pairs : List.Forall₂ Reads groups new) (nonempty : groups ≠ []) (stops : Stops rest)
    (fits : octals.length + room = 8) (enough : groups.length ≤ room) :
    parseOctalsFrom room octals (joined groups ++ rest) = .ok (octals ++ new, rest) := by
  induction pairs generalizing room octals with
  | nil => exact absurd rfl nonempty
  | @cons group octal groups new reads pairs hypothesis =>
    cases room with
    | zero => simp at enough
    | succ room =>
      rcases reads with ⟨_, _, numeral, rfl, rfl⟩
      have read := strtoul_text numeral (ends_colons groups stops)
      rw [parseOctalsFrom, joined_cons, List.append_assoc, read]
      dsimp only
      rw [if_neg (by omega)]
      cases pairs with
      | nil =>
        rcases stops with rfl | ⟨_, rfl⟩
        · rfl
        · split_ifs with full
          · rfl
          · rw [List.length_append, List.length_singleton] at full
            exact parseOctalsFrom_stops (by simp) (by omega) _ rfl
      | @cons next nextOctal others newer nextReads later =>
        rw [← colon_joined_cons]
        simp only [List.length_cons] at enough
        change
          (if (octals ++ [narrowed numeral.value]).length = 8
            then Except.ok
              (octals ++ [narrowed numeral.value], ':' :: (joined (next :: others) ++ rest))
            else parseOctalsFrom room (octals ++ [narrowed numeral.value])
              (joined (next :: others) ++ rest)) = _
        rw [if_neg (by
          rw [List.length_append, List.length_singleton]
          omega)]
        rw [hypothesis (by simp) (by rw [List.length_append, List.length_singleton]; omega)
          (by simp only [List.length_cons]; omega)]
        simp

theorem parseOctals_joined (pairs : List.Forall₂ Reads groups octals)
    (stops : Stops rest) (enough : groups.length ≤ 8) :
    parseOctals (joined groups ++ rest) = .ok (octals, rest) := by
  cases pairs with
  | nil =>
    unfold parseOctals parseOctalsFrom
    have nothing : strtoul (joined [] ++ rest) = none := strtoul_stops stops
    rw [nothing]
    rfl
  | cons reads pairs => exact parseOctalsFrom_joined (.cons reads pairs) (by simp) stops rfl enough

/-! ## What is accepted -/

/-- The text and the octals before and after a double colon. -/
structure Halves (s : List Char) (left right : List Int) : Prop where
  fits : left.length + right.length ≤ 8
  text :
    ∃ leftGroups rightGroups,
      List.Forall₂ Reads leftGroups left ∧ List.Forall₂ Reads rightGroups right ∧
        s = joined leftGroups ++ ':' :: ':' :: joined rightGroups

theorem tryParse_full (pairs : List.Forall₂ Reads groups octals) (eight : groups.length = 8)
    (ordinary : joined groups ≠ unspec) :
    tryParse (joined groups) = .ok (some (ofOctals octals)) := by
  have parsed := parseOctals_joined pairs (.inl rfl) eight.le
  rw [List.append_nil] at parsed
  have length := pairs.length_eq
  rw [tryParse, doTryParse, if_neg ordinary, parsed]
  simp [bind, Except.bind, ← length, eight]

theorem tryParse_halves (halves : Halves s left right) (ordinary : s ≠ unspec) :
    tryParse s = .ok (some (ofOctals (mergeOctals left right))) := by
  rcases halves with ⟨fits, _, rightGroups, leftPairs, rightPairs, rfl⟩
  have leftLength := leftPairs.length_eq
  have rightLength := rightPairs.length_eq
  have parsedLeft := parseOctals_joined leftPairs (.inr ⟨joined rightGroups, rfl⟩) (by omega)
  have parsedRight := parseOctals_joined rightPairs (.inl rfl) (by omega)
  rw [List.append_nil] at parsedRight
  rw [tryParse, doTryParse, if_neg ordinary, parsedLeft]
  simp [bind, Except.bind, parsedRight, Nat.not_lt.mpr fits]

theorem stuck_not_stops (stuck : Stuck rest) : rest ≠ [] ∧ ∀ further, rest ≠ ':' :: further := by
  rcases stuck with ⟨_, _, rfl, different⟩
  refine ⟨by simp, ?_⟩
  intro _ same
  cases same
  exact different rfl

theorem doTryParse_total (s : List Char) : ∃ result, doTryParse s = .ok result := by
  unfold doTryParse
  split_ifs with special
  · exact ⟨_, rfl⟩
  · rcases parseOctals_ok s with ⟨⟨_, _⟩, parsed⟩
    rw [parsed]
    dsimp only [bind, Except.bind]
    split
    · case _ suffix =>
        rcases parseOctals_ok _ with ⟨⟨_, _⟩, again⟩
        rw [again]
        dsimp only
        split_ifs <;> exact ⟨_, rfl⟩
    · split_ifs <;> exact ⟨_, rfl⟩

theorem tryParse_total (s : List Char) : ∃ result, tryParse s = .ok result := by
  rcases doTryParse_total s with ⟨result, done⟩
  rw [tryParse, done]
  cases result with
  | none => exact ⟨none, rfl⟩
  | some _ =>
    dsimp only [bind, Except.bind]
    split_ifs <;> exact ⟨_, rfl⟩

variable {address : IPv6Address}

theorem doTryParse_of_tryParse (accepted : tryParse s = .ok (some address)) :
    doTryParse s = .ok (some (address, [])) := by
  rcases doTryParse_total s with ⟨result, done⟩
  rw [tryParse, done] at accepted
  cases result with
  | none => cases accepted
  | some parsed =>
    dsimp only [bind, Except.bind] at accepted
    split_ifs at accepted with trailing
    · cases accepted
    · have empty : parsed.2 = [] := not_not.mp trailing
      cases accepted
      rw [done, ← empty]

theorem accepted_parts (accepted : tryParse s = .ok (some address)) :
    s = unspec ∨
      (∃ groups octals, List.Forall₂ Reads groups octals ∧ groups.length = 8 ∧ s = joined groups) ∨
      ∃ left right, Halves s left right := by
  by_cases special : s = unspec
  · exact .inl special
  · have done := doTryParse_of_tryParse accepted
    rw [doTryParse, if_neg special] at done
    rcases parseOctals_ok s with ⟨⟨octals, rest⟩, parsed⟩
    rw [parsed] at done
    dsimp only [bind, Except.bind] at done
    split at done
    · case _ suffix =>
        rcases parseOctals_ok _ with ⟨⟨more, _⟩, again⟩
        rw [again] at done
        dsimp only at done
        split_ifs at done with many
        · cases done
        · cases done
          rcases parseOctals_reads parsed with stuck | ⟨left, pairs, text⟩
          · exact absurd rfl ((stuck_not_stops stuck).2 _)
          · rcases parseOctals_reads again with stuck | ⟨right, others, rest⟩
            · exact absurd rfl (stuck_not_stops stuck).1
            · rw [List.append_nil] at rest
              exact .inr (.inr ⟨octals, more, by omega, left, right, pairs,
                others, by rw [text, rest]⟩)
    · split_ifs at done with few
      · cases done
      · cases done
        rcases parseOctals_reads parsed with stuck | ⟨groups, pairs, text⟩
        · exact absurd rfl (stuck_not_stops stuck).1
        · rw [List.append_nil] at text
          have length := pairs.length_eq
          exact .inr (.inl ⟨groups, octals, pairs, length.trans (not_not.mp few), text⟩)

/-! ## One text, one list of groups -/

/-- A double colon stands for an empty field between two others. -/
def padded (groups : List (List Char)) : List (List Char) :=
  if groups = [] then [[]] else groups

theorem joined_append (nonempty : left ≠ []) (others : right ≠ []) :
    joined (left ++ right) = joined left ++ ':' :: joined right := by
  cases left with
  | nil => exact absurd rfl nonempty
  | cons _ _ =>
    cases right with
    | nil => exact absurd rfl others
    | cons _ _ =>
      rw [List.cons_append, joined_cons, joined_cons, colon_joined_cons]
      simp [colons]

theorem joined_padded (groups : List (List Char)) :
    joined (padded groups) = joined groups ∧ padded groups ≠ [] := by
  unfold padded
  split_ifs with empty
  · subst empty
    exact ⟨rfl, by simp⟩
  · exact ⟨rfl, empty⟩

theorem halves_fields (left right : List (List Char)) :
    joined left ++ ':' :: ':' :: joined right = joined (padded left ++ [] :: padded right) := by
  rcases joined_padded _ with ⟨leftText, leftNonempty⟩
  rcases joined_padded right with ⟨rightText, rightNonempty⟩
  rw [joined_append leftNonempty (by simp), leftText]
  have tail : joined ([] :: padded right) = ':' :: joined right := by
    rw [← rightText]
    exact @joined_append [[]] _ (by simp) rightNonempty
  rw [tail]

theorem fields_unique (nonempty : fields ≠ []) (othersNonempty : others ≠ [])
    (noColon : ∀ field ∈ fields, ':' ∉ field) (othersNoColon : ∀ field ∈ others, ':' ∉ field)
    (same : joined fields = joined others) : fields = others := by
  have split := List.splitOn_intercalate ':' noColon nonempty
  have splitOther := List.splitOn_intercalate ':' othersNoColon othersNonempty
  unfold joined at same
  rw [← split, ← splitOther, same]

theorem padded_unique
    (full : ∀ group ∈ groups, group ≠ []) (othersFull : ∀ group ∈ others, group ≠ [])
    (same : padded groups = padded others) : groups = others := by
  unfold padded at same
  split_ifs at same with empty otherEmpty otherEmpty
  · rw [empty, otherEmpty]
  · exact absurd rfl (othersFull [] (by simp [← same]))
  · exact absurd rfl (full [] (by simp [same]))
  · exact same

theorem halves_unique {rest : List (List Char)}
    (full : ∀ group ∈ left ++ right, group ≠ []) (othersFull : ∀ group ∈ others ++ rest, group ≠ [])
    (same : padded left ++ [] :: padded right = padded others ++ [] :: padded rest) :
    left = others ∧ right = rest := by
  have leftFull := fun group member => full group (List.mem_append_left _ member)
  have rightFull := fun group member => full group (List.mem_append_right _ member)
  have othersLeft := fun group member => othersFull group (List.mem_append_left _ member)
  have othersRight := fun group member => othersFull group (List.mem_append_right _ member)
  cases left with
  | nil =>
    cases others with
    | nil =>
      have tails : padded right = padded rest := by simpa [padded] using same
      exact ⟨rfl, padded_unique rightFull othersRight tails⟩
    | cons group _ =>
      have head : group = [] := by simpa [padded] using (congrArg List.head? same).symm
      exact absurd head (othersLeft group (by simp))
  | cons group left =>
    cases others with
    | nil =>
      have head : group = [] := by simpa [padded] using congrArg List.head? same
      exact absurd head (leftFull group (by simp))
    | cons other others =>
      have takes : ∀ (groups tail : List (List Char)),
          (∀ group ∈ groups, group ≠ []) →
            (groups ++ [] :: tail).takeWhile (fun group => group ≠ []) = groups := by
        intro _ _ full
        rw [List.takeWhile_append_of_pos (by simpa using full)]
        simp
      have whole :
          (group :: left) ++ [] :: padded right = (other :: others) ++ [] :: padded rest := by
        simpa [padded] using same
      have lefts := takes _ (padded right) leftFull
      rw [whole, takes _ _ othersLeft] at lefts
      rw [lefts] at whole
      have rights := List.append_cancel_left whole
      simp only [List.cons.injEq, true_and] at rights
      exact ⟨lefts.symm, padded_unique rightFull othersRight rights⟩

theorem Readable.shape (readable : Readable text) : text ≠ [] ∧ ':' ∉ text ∧ '<' ∉ text := by
  rcases readable with ⟨_, -, -, _, rfl, -⟩
  refine ⟨numeral_nonempty _, numeral_no_colon _, ?_⟩
  intro member
  exact absurd (numeral_chars _ member) (by decide)

/-- Digits without anything in front. -/
def digitsOnly {digits : List Char} (nonempty : digits ≠ [])
    (hex : ∀ c ∈ digits, isxdigit c = true) : Numeral where
  blanks := []
  sign := []
  base := []
  digits
  blank := by simp
  signs := .inl rfl
  bases := .inl rfl
  nonempty
  hex

theorem narrowed_small (small : value ≤ 0xFFFF) : narrowed (unsignedLong false value) = value := by
  rw [narrowed, unsignedLong, if_neg (by omega), if_neg (by decide), BitVec.toInt_eq_toNat_of_lt]
  all_goals
    simp
    omega

theorem plain_reads (plain : Plain text) : Reads text (hexValue text) := by
  rcases plain with ⟨nonempty, hex, small⟩
  refine ⟨by omega, by omega, digitsOnly nonempty hex, rfl, ?_⟩
  exact (narrowed_small small).symm

theorem Plain.readable (plain : Plain text) : Readable text :=
  ⟨_, plain_reads plain⟩

theorem reads_of_readable (readable : ∀ group ∈ groups, Readable group) :
    ∃ octals, List.Forall₂ Reads groups octals := by
  induction groups with
  | nil => exact ⟨[], .nil⟩
  | cons group _ hypothesis =>
    rcases readable group (by simp) with ⟨octal, reads⟩
    rcases hypothesis fun other member =>
      readable _ (List.mem_cons_of_mem _ member)
      with ⟨octals, pairs⟩
    exact ⟨octal :: octals, .cons reads pairs⟩

theorem readable_of_reads
    (pairs : List.Forall₂ Reads groups octals) : ∀ group ∈ groups, Readable group := by
  induction pairs with
  | nil => simp
  | cons reads _ hypothesis =>
    intro _ member
    rcases List.mem_cons.mp member with rfl | later
    · exact ⟨_, reads⟩
    · exact hypothesis _ later

theorem joined_ordinary (ordinary : ∀ field ∈ fields, '<' ∉ field) : joined fields ≠ unspec := by
  have absent : '<' ∉ joined fields := by
    cases fields with
    | nil => simp [joined]
    | cons _ _ =>
      rw [joined_cons]
      intro member
      rcases List.mem_append.mp member with first | later
      · exact ordinary _ (by simp) first
      · rcases List.mem_flatMap.mp later with ⟨_, listed, inside⟩
        rcases List.mem_cons.mp inside with wrong | inside
        · exact absurd wrong (by decide)
        · exact ordinary _ (by simp [listed]) inside
  intro same
  rw [same] at absent
  exact absent (by decide)

theorem mem_fields (member : field ∈ padded left ++ [] :: padded right) :
    field = [] ∨ field ∈ left ++ right := by
  have inPadded : ∀ groups : List (List Char),
      field ∈ padded groups → field = [] ∨ field ∈ groups := by
    intro _ listed
    unfold padded at listed
    split_ifs at listed
    · exact .inl (List.mem_singleton.mp listed)
    · exact .inr listed
  rcases List.mem_append.mp member with listed | listed
  · exact (inPadded _ listed).imp_right (List.mem_append_left _)
  · rcases List.mem_cons.mp listed with empty | listed
    · exact .inl empty
    · exact (inPadded _ listed).imp_right (List.mem_append_right _)

theorem fields_shape (readable : ∀ group ∈ left ++ right, Readable group) :
    ∀ field ∈ padded left ++ [] :: padded right, ':' ∉ field ∧ '<' ∉ field := by
  intro _ member
  rcases mem_fields member with rfl | listed
  · exact ⟨by simp, by simp⟩
  · exact (readable _ listed).shape.2

/-- Eight groups leave no field empty, and a double colon leaves one. -/
theorem groups_ne_halves (nonempty : groups ≠ []) (readable : ∀ group ∈ groups, Readable group)
    (halves : ∀ group ∈ left ++ right, Readable group) :
    joined groups ≠ joined left ++ ':' :: ':' :: joined right := by
  rw [halves_fields]
  intro same
  have fields := fields_unique nonempty (by simp)
    (fun group member => (readable _ member).shape.2.1)
    (fun field member => (fields_shape halves _ member).1) same
  exact (readable [] (by simp [fields])).shape.1 rfl

theorem halves_eq {rest : List (List Char)} (readable : ∀ group ∈ left ++ right, Readable group)
    (othersReadable : ∀ group ∈ others ++ rest, Readable group)
    (same : joined left ++ ':' :: ':' :: joined right =
      joined others ++ ':' :: ':' :: joined rest) :
    left = others ∧ right = rest := by
  rw [halves_fields, halves_fields] at same
  have fields := fields_unique (by simp) (by simp)
    (fun field member => (fields_shape readable _ member).1)
    (fun field member => (fields_shape othersReadable _ member).1) same
  exact halves_unique (fun group member => (readable _ member).shape.1)
    (fun group member => (othersReadable _ member).shape.1) fields

theorem groups_eq (nonempty : groups ≠ [])
    (othersNonempty : others ≠ []) (readable : ∀ group ∈ groups, Readable group)
    (othersReadable : ∀ group ∈ others, Readable group)
    (same : joined groups = joined others) : groups = others :=
  fields_unique nonempty othersNonempty (fun group member => (readable _ member).shape.2.1)
    (fun group member => (othersReadable _ member).shape.2.1) same

theorem ne_nil_of_eight (eight : groups.length = 8) : groups ≠ [] := by
  rintro rfl
  cases eight

theorem joined_halves_ordinary (readable : ∀ group ∈ left ++ right, Readable group) :
    joined left ++ ':' :: ':' :: joined right ≠ unspec := by
  rw [halves_fields]
  exact joined_ordinary fun field member => (fields_shape readable _ member).2

theorem Sloppy.accepted (sloppy : Sloppy s) : ∃ address, tryParse s = .ok (some address) := by
  rcases sloppy with ⟨_, eight, readable, -, rfl⟩
    | ⟨left, right, fits, readable, -, rfl⟩
  · rcases reads_of_readable readable with ⟨_, pairs⟩
    exact ⟨_, tryParse_full pairs eight (joined_ordinary fun group member =>
      (readable _ member).shape.2.2)⟩
  · rcases reads_of_readable fun group member =>
      readable _ (List.mem_append_left _ member)
      with ⟨leftOctals, leftPairs⟩
    rcases reads_of_readable fun group member =>
      readable _ (List.mem_append_right _ member)
      with ⟨rightOctals, rightPairs⟩
    have leftLength := leftPairs.length_eq
    have rightLength := rightPairs.length_eq
    exact ⟨_, tryParse_halves
      { fits := by omega, text := ⟨left, right, leftPairs, rightPairs, rfl⟩ }
      (joined_halves_ordinary readable)⟩

theorem Sloppy.not_wellFormed (sloppy : Sloppy s) : ¬WellFormed s := by
  rcases sloppy with ⟨_, eight, readable, ⟨rough, listed, notPlain⟩, rfl⟩
    | ⟨left, right, fits, readable, fault, rfl⟩
  · have nonempty := ne_nil_of_eight eight
    rintro (special | ⟨others, othersEight, plain, same⟩ |
      ⟨others, rest, -, plain, same⟩)
    · exact joined_ordinary (fun group member => (readable _ member).shape.2.2) special
    · have equal := groups_eq nonempty (ne_nil_of_eight othersEight) readable
        (fun group member => (plain _ member).readable) same
      exact notPlain (plain _ (equal ▸ listed))
    · exact groups_ne_halves nonempty readable (fun group member => (plain _ member).readable) same
  · rintro (special | ⟨others, othersEight, plain, same⟩ |
      ⟨others, rest, less, plain, same⟩)
    · exact joined_halves_ordinary readable special
    · exact groups_ne_halves (ne_nil_of_eight othersEight)
        (fun group member => (plain group member).readable) readable same.symm
    · rcases halves_eq readable (fun group member => (plain group member).readable) same
        with ⟨rfl, rfl⟩
      rcases fault with ⟨rough, listed, notPlain⟩ | _
      · exact notPlain (plain rough listed)
      · omega

theorem sloppy_of_accepted
    (accepted : tryParse s = .ok (some address)) (malformed : ¬WellFormed s) : Sloppy s := by
  rcases accepted_parts accepted with special |
    ⟨groups, octals, pairs, eight, rfl⟩ | ⟨left, right, halves⟩
  · exact absurd (.inl special) malformed
  · refine .inl ⟨groups, eight, readable_of_reads pairs, ?_, rfl⟩
    by_contra all
    push Not at all
    exact malformed (.inr (.inl ⟨groups, eight, all, rfl⟩))
  · rcases halves with ⟨_, leftGroups, rightGroups, leftPairs, rightPairs, rfl⟩
    have leftLength := leftPairs.length_eq
    have rightLength := rightPairs.length_eq
    refine .inr ⟨leftGroups, rightGroups, by omega, ?_, ?_, rfl⟩
    · intro _ member
      rcases List.mem_append.mp member with first | second
      · exact readable_of_reads leftPairs _ first
      · exact readable_of_reads rightPairs _ second
    · by_contra fine
      push Not at fine
      exact malformed (.inr (.inr ⟨leftGroups, rightGroups, by omega, fine.1, rfl⟩))

/-! ## The gap -/

/-- The octals from one index up to another are zero. -/
def Zeros (octals : List Nat) (start stop : Nat) : Prop :=
  ∀ index, start ≤ index → index < stop → octals[index]? = some 0

/-- A gap is empty and at the front, or two octals long at least. -/
structure Found (octals : List Nat) (start stop : Nat) : Prop where
  inside : stop ≤ octals.length
  shape : start = 0 ∧ stop = 0 ∨ start + 2 ≤ stop
  zeros : Zeros octals start stop

/-- What the search knows of the octals that it has passed. -/
structure Searched (octals : List Nat) (gap : Gap) : Prop where
  found : Found octals gap.start gap.stop
  begun : ∀ beg, gap.beg = some beg → beg < octals.length ∧ Zeros octals beg octals.length

variable {octals : List Nat}

theorem Zeros.append (zeros : Zeros octals start stop) (octal : Nat) :
    Zeros (octals ++ [octal]) start stop := by
  intro _ low high
  have here := zeros _ low high
  rw [List.getElem?_append_left (List.getElem?_eq_some_iff.mp here).1, here]

theorem Zeros.further (zeros : Zeros octals start octals.length) :
    Zeros (octals ++ [0]) start (octals ++ [0]).length := by
  intro index low high
  rw [List.length_append, List.length_singleton] at high
  by_cases last : index = octals.length
  · rw [last]
    simp
  · exact zeros.append 0 _ low (by omega)

theorem Found.append (found : Found octals start stop) (octal : Nat) :
    Found (octals ++ [octal]) start stop where
  inside := by
    have inside := found.inside
    rw [List.length_append]
    omega
  shape := found.shape
  zeros := found.zeros.append octal

theorem countZeros_searched (searched : Searched octals gap) (octal : Nat) :
    Searched (octals ++ [octal]) (countZeros gap (octal, octals.length)) := by
  have kept := searched.found.append octal
  unfold countZeros
  split
  · case _ none =>
      split_ifs with zero
      · refine ⟨kept, ?_⟩
        intro _ same
        cases same
        dsimp only at zero
        rw [zero]
        refine ⟨by simp, ?_⟩
        intro index _ high
        rw [List.length_append, List.length_singleton] at high
        have last : index = octals.length := by
          omega
        rw [last]
        simp
      · refine ⟨kept, ?_⟩
        intro _ same
        rw [none] at same
        cases same
  · case _ beg begun =>
      rcases searched.begun _ begun with ⟨_, zeros⟩
      split_ifs with nonzero longer
      · refine ⟨⟨?_, ?_, zeros.append _⟩, ?_⟩
        · rw [List.length_append]
          dsimp only
          omega
        · dsimp only at longer ⊢
          omega
        · intro _ same
          cases same
      · refine ⟨kept, ?_⟩
        intro _ same
        cases same
      · refine ⟨kept, ?_⟩
        intro _ same
        rw [begun] at same
        cases same
        have zero : octal = 0 := not_not.mp nonzero
        subst zero
        refine ⟨by rw [List.length_append]; omega, zeros.further⟩

theorem search_searched (octals : List Nat) :
    Searched octals (octals.zipIdx.foldl countZeros {}) := by
  induction octals using List.reverseRecOn with
  | nil =>
    refine ⟨⟨le_rfl, .inl ⟨rfl, rfl⟩, ?_⟩, ?_⟩
    · intro _ _ high
      cases high
    · intro _ same
      cases same
  | append_singleton _ octal hypothesis =>
    rw [List.zipIdx_append, List.foldl_append]
    have stepped := countZeros_searched hypothesis octal
    simpa using stepped

theorem findGap_found (eight : octals.length = 8) :
    Found octals (findGap octals).1 (findGap octals).2 := by
  have searched := search_searched octals
  dsimp only [findGap]
  split
  · exact searched.found
  · case _ beg begun =>
      rcases searched.begun _ begun with ⟨_, zeros⟩
      rw [eight] at zeros
      split_ifs with longer
      · exact ⟨eight.ge, .inr (by omega), zeros⟩
      · exact searched.found

theorem Found.split (found : Found octals start stop) :
    octals.take start ++ List.replicate (stop - start) 0 ++ octals.drop stop = octals := by
  have inside := found.inside
  have order : start ≤ stop := by
    rcases found.shape with ⟨first, second⟩ | longer <;> omega
  have middle : (octals.drop start).take (stop - start) = List.replicate (stop - start) 0 := by
    refine List.eq_replicate_iff.mpr ⟨by simp; omega, ?_⟩
    intro _ member
    rcases List.mem_iff_getElem?.mp member with ⟨_, stands⟩
    rw [List.getElem?_take] at stands
    split_ifs at stands with short
    rw [List.getElem?_drop, found.zeros _ (by omega) (by omega)] at stands
    exact (Option.some.inj stands).symm
  rw [← middle]
  have tail : octals.drop stop = (octals.drop start).drop (stop - start) := by
    rw [List.drop_drop]
    congr 1
    omega
  rw [tail, List.append_assoc, List.take_append_drop, List.take_append_drop]

/-! ## The printed text -/

theorem digits_reads (small : octal ≤ 0xFFFF) : Reads (Nat.toDigits 16 octal) octal := by
  rcases toDigits_spec octal with ⟨value, hex⟩
  have reads := plain_reads ⟨Nat.toDigits_ne_nil, hex, by rw [value]; exact small⟩
  rwa [value] at reads

theorem printed_reads (small : ∀ octal ∈ octals, octal ≤ 0xFFFF) :
    List.Forall₂ Reads (octals.map (Nat.toDigits 16)) (octals.map Int.ofNat) := by
  induction octals with
  | nil => exact .nil
  | cons _ _ hypothesis =>
    exact .cons (digits_reads (small _ (by simp)))
      (hypothesis fun other member => small _ (List.mem_cons_of_mem _ member))

theorem octalsOf_small (address : IPv6Address) : ∀ octal ∈ octalsOf address, octal ≤ 0xFFFF := by
  have high : ∀ d : BitVec 32, (d >>> 16).toNat ≤ 0xFFFF := by
    intro _
    rw [BitVec.toNat_ushiftRight, Nat.shiftRight_eq_div_pow]
    omega
  have low : ∀ d : BitVec 32, (d &&& 0xFFFF).toNat ≤ 0xFFFF := by
    intro _
    exact Nat.and_le_right
  intro _ member
  simp only [octalsOf, List.mem_cons, List.not_mem_nil, or_false] at member
  rcases member with rfl | rfl | rfl | rfl | rfl | rfl | rfl | rfl
  · exact high _
  · exact low _
  · exact high _
  · exact low _
  · exact high _
  · exact low _
  · exact high _
  · exact low _

theorem word_of_halves (d : BitVec 32) :
    (BitVec.ofInt 32 (Int.ofNat (d >>> 16).toNat) <<< 16) +
      BitVec.ofInt 32 (Int.ofNat (d &&& 0xFFFF).toNat) = d := by
  have bound := d.isLt
  have mask : (0xFFFF : BitVec 32).toNat = 2 ^ 16 - 1 := rfl
  apply BitVec.eq_of_toNat_eq
  simp only [Int.ofNat_eq_natCast, BitVec.ofInt_natCast, BitVec.toNat_add,
    BitVec.toNat_shiftLeft, BitVec.toNat_ofNat, BitVec.toNat_ushiftRight,
    BitVec.toNat_and, mask, Nat.and_two_pow_sub_one_eq_mod,
    Nat.shiftRight_eq_div_pow, Nat.shiftLeft_eq]
  omega

theorem ofOctals_octalsOf (address : IPv6Address) :
    ofOctals ((octalsOf address).map Int.ofNat) = address := by
  simp only [ofOctals, word, octalsOf, List.map_cons, List.map_nil]
  congr 1 <;> exact word_of_halves _

theorem mergeOctals_eq {left right : List Int} (fits : left.length + right.length ≤ 8) :
    mergeOctals left right =
      left ++ List.replicate (8 - left.length - right.length) 0 ++ right := by
  rw [mergeOctals, List.append_assoc]
  congr 1
  apply List.ext_getElem
  · simp
    omega
  · intro offset _ _
    rw [List.getElem_map, List.getElem_range, List.getElem_append]
    simp only [List.length_replicate, List.getElem_replicate]
    split_ifs with early late late
    · rfl
    · omega
    · omega
    · have index :
          (((left.length + offset : Nat) : Int) - 8 + right.length).toNat =
            offset - (8 - left.length - right.length) := by
        omega
      rw [index, List.getD_eq_getElem?_getD, List.getElem?_eq_getElem]
      rfl

theorem parse_unspec : tryParse unspec = .ok (some {}) := by
  rw [tryParse, doTryParse, if_pos rfl]
  rfl

theorem eq_zero_of_isUnspecified (unspecified : address.isUnspecified = true) : address = {} := by
  cases address
  simp only [IPv6Address.isUnspecified, decide_eq_true_eq] at unspecified
  rcases BitVec.or_eq_zero_iff.mp unspecified with ⟨first, d3⟩
  rcases BitVec.or_eq_zero_iff.mp first with ⟨second, d2⟩
  rcases BitVec.or_eq_zero_iff.mp second with ⟨d0, d1⟩
  rw [d0, d1, d2, d3]
  rfl

section

variable (small : ∀ octal ∈ octals, octal ≤ 0xFFFF)
include small

theorem printed_readable : ∀ group ∈ octals.map (Nat.toDigits 16), Readable group :=
  readable_of_reads (printed_reads small)

theorem parse_printed (eight : octals.length = 8) :
    tryParse (printOctals octals) = .ok (some (ofOctals (octals.map Int.ofNat))) :=
  tryParse_full (printed_reads small) (by simpa using eight)
    (joined_ordinary fun group member => (printed_readable small _ member).shape.2.2)

theorem parse_gap
    (eight : octals.length = 8) (found : Found octals start stop) (gap : start ≠ stop) :
    tryParse (printOctals (octals.take start) ++ ':' :: ':' :: printOctals (octals.drop stop)) =
      .ok (some (ofOctals (octals.map Int.ofNat))) := by
  have order : start + 2 ≤ stop := by
    rcases found.shape with ⟨first, second⟩ | longer <;> omega
  have inside := found.inside
  have left := @printed_reads (octals.take start) fun octal member =>
    small _ (List.mem_of_mem_take member)
  have right := @printed_reads (octals.drop stop) fun octal member =>
    small _ (List.mem_of_mem_drop member)
  have leftLength : ((octals.take start).map Int.ofNat).length = start := by
    simp
    omega
  have rightLength : ((octals.drop stop).map Int.ofNat).length = 8 - stop := by simp [eight]
  have halves : Halves (printOctals (octals.take start) ++ ':' :: ':' ::
      printOctals (octals.drop stop)) ((octals.take start).map Int.ofNat)
      ((octals.drop stop).map Int.ofNat) :=
    { fits := by omega, text := ⟨_, _, left, right, rfl⟩ }
  have ordinary := @joined_halves_ordinary _
    _ (by
      intro _ member
      rcases List.mem_append.mp member with first | second
      · exact readable_of_reads left _ first
      · exact readable_of_reads right _ second)
  rw [tryParse_halves halves ordinary, mergeOctals_eq halves.fits, leftLength, rightLength]
  have zeros : (8 - start - (8 - stop)) = stop - start := by omega
  rw [zeros]
  conv_rhs => rw [← found.split]
  simp

end

theorem str_parses (address : IPv6Address) : tryParse (str address) = .ok (some address) := by
  have small := octalsOf_small address
  have eight : (octalsOf address).length = 8 := rfl
  have found := findGap_found eight
  have back := ofOctals_octalsOf address
  by_cases unspecified : address.isUnspecified = true
  · rw [str, if_pos unspecified, eq_zero_of_isUnspecified unspecified]
    exact parse_unspec
  · rw [str, if_neg unspecified]
    dsimp only
    generalize findGap (octalsOf address) = gap at found
    split_ifs with all gapped
    · rcases all with ⟨first, last⟩
      rw [first, last] at found
      have zeros := found.split
      rw [List.take_zero, List.drop_eq_nil_of_le eight.le, List.append_nil,
        List.nil_append] at zeros
      rw [← zeros] at back
      have none : address = {} := back.symm.trans (by decide)
      rw [none] at unspecified
      exact absurd (by decide) unspecified
    · have parsed := parse_gap small eight found gapped
      rw [back] at parsed
      simpa using parsed
    · have same : gap.1 = gap.2 := not_not.mp gapped
      have front : gap.1 = 0 := by
        rcases found.shape with ⟨first, _⟩ | _
        · exact first
        · omega
      have parsed := parse_printed small eight
      rw [back] at parsed
      rw [← same, front]
      simpa [printOctals, joined] using parsed

/--
Every printed address is read back, no array is written behind its end, and a
text is accepted only if it is well formed, unless it is a sloppy one.
-/
theorem ipv6_text (printed : IPv6Address) (s : List Char) :
    tryParse (str printed) = .ok (some printed) ∧ (∃ result, tryParse s = .ok result) ∧
      ((∀ address, tryParse s = .ok (some address) → WellFormed s) ↔ ¬Sloppy s) := by
  refine ⟨str_parses _, tryParse_total s, ?_⟩
  constructor
  · intro right sloppy
    rcases sloppy.accepted with ⟨_, accepted⟩
    exact sloppy.not_wellFormed (right _ accepted)
  · intro careful _ accepted
    by_contra malformed
    exact careful (sloppy_of_accepted accepted malformed)

/-- A number with nine digits, of which 32 bits are looked at. -/
def nineDigits : List Char := "100000001".toList

theorem nineDigits_reads : Reads nineDigits 1 :=
  ⟨by decide, by decide,
    digitsOnly (show nineDigits ≠ [] by decide)
      (List.all_eq_true.mp (show nineDigits.all isxdigit = true by decide)),
    rfl, by decide⟩

theorem nineDigits_accepted :
    ¬∀ (s : List Char) (address : IPv6Address), tryParse s = .ok (some address) → WellFormed s := by
  intro claim
  have notPlain : ¬Plain nineDigits := fun plain => absurd plain.2.2 (by decide)
  have sloppy : Sloppy (':' :: ':' :: nineDigits) := by
    refine .inr ⟨[], [nineDigits], by decide, ?_, .inl ⟨nineDigits, ?_, notPlain⟩, rfl⟩
    · intro _ member
      cases List.mem_singleton.mp member
      exact ⟨1, nineDigits_reads⟩
    · exact List.mem_singleton.mpr rfl
  rcases sloppy.accepted with ⟨_, accepted⟩
  exact sloppy.not_wellFormed (claim _ _ accepted)

end OmnetDsi.Contract.IPv6Text
