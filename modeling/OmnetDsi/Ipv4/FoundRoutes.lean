import OmnetDsi.Ipv4.DelayLoadMatrix
import Mathlib.Data.List.Dedup

/-!
# The routes a flow has found

A sequence of replies stands for a list of routes, one for each pair of an
aggregate and a core switch that a reply has named, with the number of its
hash-path replies and the way down of its last full reply (`tableOf`).  The
rows of `delay_load_matrix` represent this list in the order in which the
pairs came up (`fill_routes_represents`).

Column 6 counts the hash-path replies only where it was initialised, which is
in four rows, and only as far as a `float` counts.  Within these bounds the
rows do not depend on the order of the replies (`routes_filled_iff`).
-/

namespace OmnetDsi.Ipv4.FoundRoutes

open Contract.Addresses Library.BinaryFloat Library.Fallible Ipv4.RouteDiscovery
open Ipv4.DelayLoadMatrix List

/-! ## Routes and replies -/

/-- The aggregate and the core switch on the way up. -/
abbrev SwitchPair :=
  IPAddress × IPAddress

def pairOf (call : FillCall) : SwitchPair :=
  (call.aggrg_address, call.core_address)

/-- The reply has both or neither of the downward addresses. -/
def counted (call : FillCall) : Bool :=
  isHashReply call || isFullReply call

structure FoundRoute where
  pair : SwitchPair
  hashes : Nat
  wayDown : Option (IPAddress × IPAddress)

/-- What a reply adds to the route it names. -/
def FoundRoute.note (route : FoundRoute) (call : FillCall) : FoundRoute :=
  if isHashReply call then { route with hashes := route.hashes + 1 }
  else { route with wayDown := some (call.aggrg_address_downward, call.edge_address_downward) }

/-- One more reply. -/
def noted (table : List FoundRoute) (call : FillCall) : List FoundRoute :=
  if counted call then
    if pairOf call ∈ table.map (·.pair) then
      table.map fun route => if route.pair = pairOf call then route.note call else route
    else table ++ [FoundRoute.note ⟨pairOf call, 0, none⟩ call]
  else table

def tableOf (calls : List FillCall) : List FoundRoute :=
  calls.foldl noted []

def hashReplies (calls : List FillCall) (pair : SwitchPair) : Nat :=
  calls.countP fun call => isHashReply call && pairOf call = pair

/-- The way down of the last full reply of a route. -/
def lastWayDown (calls : List FillCall) (pair : SwitchPair) : Option (IPAddress × IPAddress) :=
  ((calls.filter fun call => isFullReply call && pairOf call = pair).map
    fun call => (call.aggrg_address_downward, call.edge_address_downward)).getLast?

/-- Some reply has counted for the pair. -/
def Occurs (calls : List FillCall) (pair : SwitchPair) : Prop :=
  ∃ call ∈ calls, counted call = true ∧ pairOf call = pair

/-- The number of different pairs that have occurred. -/
def distinctPairs (calls : List FillCall) : Nat :=
  ((calls.filter counted).map pairOf).dedup.length

/-! ## The list of routes -/

theorem not_full_of_hash (hashed : isHashReply call = true) : isFullReply call = false := by
  have down := isHashReply_iff.mp hashed
  simp [isFullReply, down.1, equals_iff]

theorem full_of_counted (occurs : counted call = true)
    (other : isHashReply call = false) : isFullReply call = true := by
  simpa [counted, other] using occurs

@[simp]
theorem note_pair (route : FoundRoute) (call : FillCall) : (route.note call).pair = route.pair := by
  unfold FoundRoute.note
  split_ifs <;> rfl

theorem tableOf_snoc (calls : List FillCall) (call : FillCall) :
    tableOf (calls ++ [call]) = noted (tableOf calls) call := by
  simp [tableOf]

theorem noted_pairs (table : List FoundRoute) (call : FillCall) :
    (noted table call).map (·.pair) =
      if counted call = true ∧ pairOf call ∉ table.map (·.pair) then
        table.map (·.pair) ++ [pairOf call]
      else table.map (·.pair) := by
  unfold noted
  by_cases occurs : counted call = true
  · by_cases known : pairOf call ∈ table.map (·.pair)
    · rw [if_pos occurs, if_pos known, if_neg fun new => new.2 known, map_map]
      apply map_congr_left
      intro route _
      by_cases same : route.pair = pairOf call
      all_goals simp [same]
    · rw [if_pos occurs, if_neg known, if_pos ⟨occurs, known⟩]
      simp
  · rw [if_neg occurs, if_neg fun new => occurs new.1]

theorem pairs_nodup (calls : List FillCall) : ((tableOf calls).map (·.pair)).Nodup := by
  induction calls using reverseRecOn with
  | nil => exact nodup_nil
  | append_singleton _ _ induction =>
    rw [tableOf_snoc, noted_pairs]
    split_ifs with new
    · rw [nodup_append]
      refine ⟨induction, nodup_singleton _, ?_⟩
      intro _ member _ single same
      rw [mem_singleton] at single
      exact new.2 (single ▸ same ▸ member)
    · exact induction

theorem mem_pairs : pair ∈ (tableOf calls).map (·.pair) ↔ Occurs calls pair := by
  induction calls using reverseRecOn with
  | nil => simp [tableOf, Occurs]
  | append_singleton calls call induction =>
    have split :
        Occurs (calls ++ [call]) pair ↔
          Occurs calls pair ∨ counted call = true ∧ pairOf call = pair := by
      simp [Occurs, or_and_right, exists_or]
    rw [split, ← induction, tableOf_snoc, noted_pairs]
    split_ifs with new
    · rw [mem_append, mem_singleton]
      constructor
      · rintro (old | rfl)
        · exact .inl old
        · exact .inr ⟨new.1, rfl⟩
      · rintro (old | ⟨_, rfl⟩)
        · exact .inl old
        · exact .inr rfl
    · constructor
      · exact .inl
      · rintro (old | ⟨occurs, rfl⟩)
        · exact old
        · by_contra absent
          exact new ⟨occurs, absent⟩

theorem tableOf_length (calls : List FillCall) : (tableOf calls).length = distinctPairs calls := by
  have perm : ((tableOf calls).map (·.pair)).Perm ((calls.filter counted).map pairOf).dedup := by
    rw [perm_ext_iff_of_nodup (pairs_nodup _) (nodup_dedup _)]
    intro _
    rw [mem_pairs, mem_dedup]
    simp [Occurs, and_assoc]
  have lengths := perm.length_eq
  rwa [length_map] at lengths

/-- A reply of another kind or pair leaves the number of hash replies. -/
theorem hashReplies_snoc (calls : List FillCall) (call : FillCall) (pair : SwitchPair) :
    hashReplies (calls ++ [call]) pair =
      hashReplies calls pair + if isHashReply call = true ∧ pairOf call = pair then 1 else 0 := by
  simp [hashReplies, countP_append, countP_singleton]

theorem lastWayDown_snoc (calls : List FillCall) (call : FillCall) (pair : SwitchPair) :
    lastWayDown (calls ++ [call]) pair =
      if isFullReply call = true ∧ pairOf call = pair then
        some (call.aggrg_address_downward, call.edge_address_downward)
      else lastWayDown calls pair := by
  unfold lastWayDown
  rw [filter_append, map_append]
  by_cases here : isFullReply call = true ∧ pairOf call = pair
  · simp [here]
  · rw [if_neg here]
    have none : [call].filter (fun call => isFullReply call && pairOf call = pair) = [] := by
      simpa using here
    rw [none, map_nil, append_nil]

theorem nothing_before (absent : ¬Occurs calls pair) :
    hashReplies calls pair = 0 ∧ lastWayDown calls pair = none := by
  constructor
  · apply countP_eq_zero.mpr
    intro call member named
    rw [Bool.and_eq_true, decide_eq_true_eq] at named
    exact absent ⟨call, member, by simp [counted, named.1], named.2⟩
  · have empty : calls.filter (fun call => isFullReply call && pairOf call = pair) = [] := by
      apply filter_eq_nil_iff.mpr
      intro call member named
      rw [Bool.and_eq_true, decide_eq_true_eq] at named
      exact absent ⟨call, member, by simp [counted, named.1], named.2⟩
    rw [lastWayDown, empty]
    rfl

/-- A route agrees with the replies. -/
def Agrees (calls : List FillCall) (route : FoundRoute) : Prop :=
  route.hashes = hashReplies calls route.pair ∧ route.wayDown = lastWayDown calls route.pair

theorem agrees_note (route : FoundRoute) (occurs : counted call = true)
    (named : pairOf call = route.pair) (agrees : Agrees calls route) :
    Agrees (calls ++ [call]) (route.note call) := by
  rw [Agrees, note_pair, hashReplies_snoc, lastWayDown_snoc, ← agrees.1, ← agrees.2]
  cases hashed : isHashReply call with
  | true => simp [FoundRoute.note, hashed, not_full_of_hash, named]
  | false => simp [FoundRoute.note, hashed, full_of_counted occurs, named]

theorem agrees_other (other : counted call = false ∨ pairOf call ≠ route.pair)
    (agrees : Agrees calls route) : Agrees (calls ++ [call]) route := by
  rw [Agrees, hashReplies_snoc, lastWayDown_snoc, ← agrees.1, ← agrees.2]
  rcases other with uncounted | apart
  · rw [counted, Bool.or_eq_false_iff] at uncounted
    simp [uncounted.1, uncounted.2]
  · simp [apart]

theorem agrees_of_mem (member : route ∈ tableOf calls) : Agrees calls route := by
  induction calls using reverseRecOn generalizing route with
  | nil => simp [tableOf] at member
  | append_singleton _ _ induction =>
    rw [tableOf_snoc, noted] at member
    split_ifs at member with occurs known
    · rcases mem_map.mp member with ⟨_, before, rfl⟩
      split_ifs with named
      · exact agrees_note _ occurs named.symm (induction before)
      · exact agrees_other (.inr fun same => named same.symm) (induction before)
    · rcases mem_append.mp member with before | new
      · refine agrees_other (.inr ?_) (induction before)
        intro named
        exact known (named ▸ mem_map_of_mem before)
      · rw [mem_singleton.mp new]
        have fresh := nothing_before fun before => known (mem_pairs.mpr before)
        exact agrees_note ⟨pairOf _, 0, none⟩ occurs rfl ⟨fresh.1.symm, fresh.2.symm⟩
    · exact agrees_other (.inl (by simpa using occurs)) (induction member)

/-- The routes are the pairs that occurred, with what was told of them. -/
theorem mem_tableOf : route ∈ tableOf calls ↔ Occurs calls route.pair ∧ Agrees calls route := by
  constructor
  · intro member
    exact ⟨mem_pairs.mp (mem_map_of_mem member), agrees_of_mem member⟩
  · rintro ⟨occurs, agrees⟩
    rcases mem_map.mp (mem_pairs.mpr occurs) with ⟨other, member, same⟩
    have known := agrees_of_mem member
    have equal : route = other := by
      rcases other with ⟨_, _, _⟩
      cases same
      cases agrees.1.trans known.1.symm
      cases agrees.2.trans known.2.symm
      rfl
    exact equal ▸ member

theorem noted_length_le (table : List FoundRoute) (call : FillCall) :
    table.length ≤ (noted table call).length := by
  have pairs := congrArg length (noted_pairs table call)
  split_ifs at pairs <;> simp at pairs <;> omega

/-! ## The rows represent the list -/

/-- What columns 4 and 5 show: 0.0.0.1 while the way down is unknown. -/
def FoundRoute.shown (route : FoundRoute) : IPAddress × IPAddress :=
  route.wayDown.getD (nul, nul)

/-- The switches of a route in a row. -/
structure Row (plane : Plane) (row : Nat) (route : FoundRoute) : Prop where
  aggregate : plane.cell row 2 = toFloat route.pair.1.getInt
  core : plane.cell row 3 = toFloat route.pair.2.getInt
  aggregateDown : plane.cell row 4 = toFloat route.shown.1.getInt
  edgeDown : plane.cell row 5 = toFloat route.shown.2.getInt

structure Represents (plane : Plane) (table : List FoundRoute) : Prop where
  found : plane.cell 1 0 = .finite ((table.length : ℤ) : ℚ)
  row : ∀ k (early : k < table.length), Row plane k table[k]

/-- The counts of hash-path replies in the rows that were initialised. -/
structure CountsHashes (plane : Plane) (table : List FoundRoute) : Prop where
  counts : ∀ k (early : k < table.length),
    plane.cell k 6 = .finite ((-(table[k].hashes : ℤ) : ℤ) : ℚ)
  zero : ∀ k, table.length ≤ k → k < 4 → plane.cell k 6 = .finite ((0 : ℤ) : ℚ)

/-- The pair consists of addresses of switches. -/
def FromSwitches (pair : SwitchPair) : Prop :=
  IsSwitchAddress pair.1 ∧ IsSwitchAddress pair.2

section Representation

variable {table : List FoundRoute}

theorem represents_allocated (rows : Nat) (unset : Nat → Nat → Datum) :
    Represents (allocated rows unset) [] ∧ CountsHashes (allocated rows unset) [] := by
  refine ⟨⟨?_, ?_⟩, ⟨?_, ?_⟩⟩
  · exact allocated_found _ _
  · intro k early
    exact absurd early (Nat.not_lt_zero k)
  · intro k early
    exact absurd early (Nat.not_lt_zero k)
  · intro _ _ early
    exact allocated_zero _ _ early (by decide) (by decide)

theorem row_of_pair (nodup : (table.map (·.pair)).Nodup)
    (earlyJ : j < table.length) (earlyK : k < table.length)
    (same : table[j].pair = table[k].pair) : j = k := by
  have equal := @Nodup.getElem_inj_iff _ _ nodup j (by simpa using earlyJ) k (by simpa using earlyK)
  rw [getElem_map, getElem_map] at equal
  exact equal.mp same

section

variable (represents : Represents plane table)
include represents

theorem isRow_iff (switches : ∀ route ∈ table, FromSwitches route.pair)
    (own : FromSwitches (pairOf call)) (early : k < table.length) :
    isRow plane call k = true ↔ table[k].pair = pairOf call := by
  have row := represents.row k early
  have named := switches table[k] (getElem_mem _)
  rw [isRow, Bool.and_eq_true, row.aggregate, row.core]
  constructor
  · rintro ⟨aggregate, core⟩
    exact Prod.ext ((eq_toFloat_switch named.1 own.1).mp aggregate)
      ((eq_toFloat_switch named.2 own.2).mp core)
  · intro same
    have parts := Prod.ext_iff.mp same
    exact ⟨(eq_toFloat_switch named.1 own.1).mpr parts.1,
      (eq_toFloat_switch named.2 own.2).mpr parts.2⟩

theorem toInt_found (few : table.length ≤ 2 ^ 24) : toInt (plane.cell 1 0) = table.length := by
  rw [represents.found]
  apply toInt_of_bits
  exact_mod_cast few

theorem searchRow_known (switches : ∀ route ∈ table, FromSwitches route.pair)
    (own : FromSwitches (pairOf call)) (nodup : (table.map (·.pair)).Nodup)
    (room : table.length ≤ plane.rows) (early : k < table.length)
    (named : table[k].pair = pairOf call) : searchRow plane call table.length 0 = .ok (some k) := by
  have matched {j : Nat} (inside : j < table.length) := isRow_iff represents switches own inside
  refine searchRow_some (by omega) (Nat.zero_le k) (by omega) ((matched _).mpr named) ?_
  intro _ _ before
  rw [← Bool.not_eq_true, matched (before.trans early)]
  intro same
  exact before.ne (row_of_pair nodup (before.trans early) _ (same.trans named.symm))

theorem searchRow_new (switches : ∀ route ∈ table, FromSwitches route.pair)
    (own : FromSwitches (pairOf call)) (room : table.length ≤ plane.rows)
    (absent : pairOf call ∉ table.map (·.pair)) :
    searchRow plane call table.length 0 = .ok none := by
  have matched {j : Nat} (inside : j < table.length) := isRow_iff represents switches own inside
  apply searchRow_none (by omega)
  intro _ _ _
  rw [← Bool.not_eq_true, matched (by omega)]
  intro named
  exact absent (named ▸ mem_map_of_mem (getElem_mem _))

end

theorem noted_known (nodup : (table.map (·.pair)).Nodup)
    (occurs : counted call = true) (early : k < table.length)
    (named : table[k].pair = pairOf call) :
    noted table call = table.set k (table[k].note call) := by
  have known : pairOf call ∈ table.map (·.pair) := named ▸ mem_map_of_mem (getElem_mem _)
  rw [noted, if_pos occurs, if_pos known]
  apply ext_getElem (by simp)
  intro j inside _
  rw [length_map] at inside
  rw [getElem_map, getElem_set]
  by_cases same : k = j
  · subst same
    rw [if_pos named, if_pos rfl]
  · rw [if_neg same, if_neg]
    intro other
    exact same (row_of_pair nodup _ _ (named.trans other.symm))

theorem noted_new (table : List FoundRoute) (occurs : counted call = true)
    (absent : pairOf call ∉ table.map (·.pair)) :
    noted table call = table ++ [FoundRoute.note ⟨pairOf call, 0, none⟩ call] := by
  rw [noted, if_pos occurs, if_neg absent]

theorem Row.congr {next : Plane} (row : Row plane k route)
    (same : ∀ c, 2 ≤ c → c ≤ 5 → next.cell k c = plane.cell k c) : Row next k route where
  aggregate := (same 2 (by decide) (by decide)).trans row.aggregate
  core := (same 3 (by decide) (by decide)).trans row.core
  aggregateDown := (same 4 (by decide) (by decide)).trans row.aggregateDown
  edgeDown := (same 5 (by decide) (by decide)).trans row.edgeDown

/-- One row has changed to that of a route, and the number is written. -/
structure RowChanged (plane next : Plane) (k : Nat) (route : FoundRoute) : Prop where
  others : ∀ j c, j ≠ k → 2 ≤ c → c ≤ 6 → next.cell j c = plane.cell j c
  row : Row next k route

theorem Represents.set {next : Plane} (represents : Represents plane table)
    (changed : RowChanged plane next k route) (found : next.cell 1 0 = plane.cell 1 0) :
    Represents next (table.set k route) where
  found := by rw [found, represents.found, length_set]
  row := by
    intro j early
    rw [length_set] at early
    rw [getElem_set]
    split_ifs with same
    · exact same ▸ changed.row
    · refine (represents.row j _).congr fun c low high => ?_
      exact changed.others j c (Ne.symm same) low (by omega)

theorem Represents.snoc {next : Plane} (represents : Represents plane table)
    (changed : RowChanged plane next table.length route)
    (found : next.cell 1 0 = .finite ((table.length + 1 : ℤ) : ℚ)) :
    Represents next (table ++ [route]) where
  found := by
    rw [found, length_append, length_singleton]
    rfl
  row := by
    intro j inside
    rw [length_append, length_singleton] at inside
    rcases Nat.lt_succ_iff_lt_or_eq.mp inside with early | rfl
    · rw [getElem_append_left]
      refine (represents.row j early).congr fun c low high => ?_
      exact changed.others j c early.ne low (by omega)
    · rw [getElem_concat_length rfl]
      exact changed.row

theorem CountsHashes.set {next : Plane} (counts : CountsHashes plane table)
    (changed : RowChanged plane next k route) (early : k < table.length)
    (own : next.cell k 6 = .finite ((-(route.hashes : ℤ) : ℤ) : ℚ)) :
    CountsHashes next (table.set k route) where
  counts := by
    intro j inside
    rw [length_set] at inside
    rw [getElem_set]
    split_ifs with same
    · exact same ▸ own
    · rw [changed.others j 6 (Ne.symm same) (by decide) (by decide)]
      exact counts.counts j _
  zero := by
    intro j late few
    rw [length_set] at late
    rw [changed.others j 6 (by omega) (by decide) (by decide)]
    exact counts.zero j late few

theorem CountsHashes.snoc {next : Plane} (counts : CountsHashes plane table)
    (changed : RowChanged plane next table.length route)
    (own : next.cell table.length 6 = .finite ((-(route.hashes : ℤ) : ℤ) : ℚ)) :
    CountsHashes next (table ++ [route]) where
  counts := by
    intro j inside
    rw [length_append, length_singleton] at inside
    rcases Nat.lt_succ_iff_lt_or_eq.mp inside with early | rfl
    · rw [getElem_append_left, changed.others j 6 early.ne (by decide) (by decide)]
      exact counts.counts j early
    · rwa [getElem_concat_length rfl]
  zero := by
    intro j late few
    rw [length_append, length_singleton] at late
    rw [changed.others j 6 (by omega) (by decide) (by decide)]
    exact counts.zero j (by omega) few

theorem sub_count (hashes : Nat) (few : hashes + 1 ≤ 2 ^ 24) :
    sub binary32 (.finite ((-(hashes : ℤ) : ℤ) : ℚ)) (.finite 1) =
      .finite ((-((hashes + 1 : Nat) : ℤ) : ℤ) : ℚ) := by
  have value : -((hashes + 1 : Nat) : ℤ) = -(hashes : ℤ) - 1 := by
    push_cast
    ring
  have bits : |-(hashes : ℤ) - 1| ≤ 2 ^ binary32.precision := by
    rw [← value, abs_neg, abs_of_nonneg (Int.natCast_nonneg _)]
    exact_mod_cast few
  rw [value, ← sub_intCast _ bits, Int.cast_one]

section

variable (simTime : Datum) (represents : Represents plane table)
    (switches : ∀ route ∈ table, FromSwitches route.pair) (own : FromSwitches (pairOf call))
include simTime represents switches own

theorem fillReply_known (nodup : (table.map (·.pair)).Nodup)
    (room : table.length ≤ plane.rows) (occurs : counted call = true)
    (early : k < table.length) (named : table[k].pair = pairOf call) :
    ∃ middle,
      fillReply simTime plane call table.length = .ok (middle, table.length) ∧
        RowChanged plane middle k (table[k].note call) ∧
        (CountsHashes plane table →
          (table[k].note call).hashes ≤ 2 ^ 24 →
            middle.cell k 6 = .finite ((-((table[k].note call).hashes : ℤ) : ℤ) : ℚ)) := by
  have search : searchRow plane call ((table.length : ℤ)).toNat 0 = .ok (some k) :=
    searchRow_known represents switches own nodup room _ named
  have row := represents.row k early
  cases hashed : isHashReply call with
  | true =>
    refine ⟨decremented plane k, ?_, ⟨?_, ?_⟩, ?_⟩
    · rw [fillReply, if_pos hashed, fillHashReply_known search]
      exact ⟨by omega, rfl, rfl⟩
    · intro _ _ other _ _
      simp [decremented, other]
    · have noted : Row plane k (table[k].note call) := by
        rw [FoundRoute.note, if_pos hashed]
        exact ⟨row.aggregate, row.core, row.aggregateDown, row.edgeDown⟩
      refine noted.congr fun c low high => ?_
      exact if_neg (by omega)
    · intro counts few
      rw [FoundRoute.note, if_pos hashed] at few ⊢
      simp only [decremented, Plane.cell_set, and_self, if_true, counts.counts k early]
      exact sub_count _ few
  | false =>
    have full := full_of_counted occurs hashed
    refine ⟨withWayDown (measured simTime plane k) k call, ?_, ⟨?_, ?_⟩, ?_⟩
    · rw [fillReply, if_neg (by simp [hashed]), if_pos full,
        DelayLoadMatrix.fillFullReply_known search]
      exact ⟨by omega, rfl, rfl⟩
    · intro _ _ other _ _
      simp [withWayDown, measured, other]
    · constructor
      · simp [withWayDown, measured, row.aggregate]
      · simp [withWayDown, measured, row.core]
      · simp [withWayDown, FoundRoute.note, hashed, FoundRoute.shown]
      · simp [withWayDown, FoundRoute.note, hashed, FoundRoute.shown]
    · intro counts _
      rw [FoundRoute.note, if_neg (by simp [hashed])]
      simp [withWayDown, measured, counts.counts k early]

theorem fillReply_new (room : table.length < plane.rows)
    (occurs : counted call = true) (absent : pairOf call ∉ table.map (·.pair)) :
    ∃ middle,
      fillReply simTime plane call table.length = .ok (middle, table.length + 1) ∧
        RowChanged plane middle table.length (FoundRoute.note ⟨pairOf call, 0, none⟩ call) ∧
        (CountsHashes plane table → table.length < 4 →
          middle.cell table.length 6 =
            .finite ((-((FoundRoute.note ⟨pairOf call, 0, none⟩ call).hashes : ℤ) : ℤ) : ℚ)) := by
  have search : searchRow plane call ((table.length : ℤ)).toNat 0 = .ok none :=
    searchRow_new represents switches own room.le absent
  have found : 0 ≤ (table.length : ℤ) := Int.natCast_nonneg _
  cases hashed : isHashReply call with
  | true =>
    have down := isHashReply_iff.mp hashed
    refine ⟨decremented (withRoute plane table.length call) table.length, ?_, ⟨?_, ?_⟩, ?_⟩
    · rw [fillReply, if_pos hashed, fillHashReply_new hashed found search]
      exact ⟨room, rfl, rfl⟩
    · intro _ _ other _ _
      simp [decremented, withRoute, other]
    · constructor
      · simp [decremented, withRoute, FoundRoute.note, hashed, pairOf]
      · simp [decremented, withRoute, FoundRoute.note, hashed, pairOf]
      · simp [decremented, withRoute, FoundRoute.note, hashed, FoundRoute.shown, down.1]
      · simp [decremented, withRoute, FoundRoute.note, hashed, FoundRoute.shown, down.2]
    · intro counts few
      have zero := counts.zero table.length le_rfl few
      have one := sub_count 0 (by decide)
      simp only [decremented, withRoute, Plane.cell_set, and_self,
        if_true, zero, FoundRoute.note, hashed]
      exact one
  | false =>
    have full := full_of_counted occurs hashed
    refine ⟨withRoute (measured simTime plane table.length) table.length call, ?_, ⟨?_, ?_⟩, ?_⟩
    · rw [fillReply, if_neg (by simp [hashed]), if_pos full,
        DelayLoadMatrix.fillFullReply_new found search]
      exact ⟨room, rfl, rfl⟩
    · intro _ _ other _ _
      simp [withRoute, measured, other]
    · constructor
      · simp [withRoute, FoundRoute.note, hashed, pairOf]
      · simp [withRoute, FoundRoute.note, hashed, pairOf]
      · simp [withRoute, FoundRoute.note, hashed, FoundRoute.shown]
      · simp [withRoute, FoundRoute.note, hashed, FoundRoute.shown]
    · intro counts few
      have zero := counts.zero table.length le_rfl few
      simp [withRoute, measured, zero, FoundRoute.note, hashed]

theorem fill_routes_represents (nodup : (table.map (·.pair)).Nodup)
    (header : 1 < plane.rows) (room : (noted table call).length ≤ plane.rows)
    (few : (noted table call).length ≤ 2 ^ 24) :
    ∃ next,
      fill_routes_in_delay_load_matrix simTime call plane = .ok next ∧
        Represents next (noted table call) ∧
        (CountsHashes plane table → (noted table call).length ≤ 4 →
          (∀ route ∈ noted table call, route.hashes ≤ 2 ^ 24) →
            CountsHashes next (noted table call)) := by
  have shorter := noted_length_le table call
  have read := toInt_found represents (shorter.trans few)
  have written {middle : Plane} {after : ℤ}
      (reply : fillReply simTime plane call table.length = .ok (middle, after)) :
      fill_routes_in_delay_load_matrix simTime call plane =
        .ok (middle.set 1 0 (toFloat after)) := by
    have rows := (fillReply_filled reply).rows
    exact fill_routes_eq_ok.mpr ⟨header, middle, after, by rw [read, reply], by omega, rfl⟩
  have kept {middle : Plane} {after : ℤ} {k : Nat} {route : FoundRoute}
      (changed : RowChanged plane middle k route) :
      RowChanged plane (middle.set 1 0 (toFloat after)) k route := by
    constructor
    · intro j c other low high
      rw [Plane.cell_set, if_neg (by omega)]
      exact changed.others j c other low high
    · refine changed.row.congr fun c low high => ?_
      exact if_neg (by omega)
  have number (k : Nat) (bound : k ≤ (noted table call).length) :
      toFloat k = .finite ((k : ℤ) : ℚ) := by
    apply toFloat_of_bits
    exact_mod_cast bound.trans few
  by_cases occurs : counted call = true
  · by_cases known : pairOf call ∈ table.map (·.pair)
    · rcases mem_map.mp known with ⟨_, member, named⟩
      rcases getElem_of_mem member with ⟨k, early, rfl⟩
      have list := noted_known nodup occurs early named
      rcases fillReply_known simTime represents switches own
        nodup (shorter.trans room) occurs early named with
        ⟨middle, reply, changed, count⟩
      refine ⟨_, written reply, ?_, ?_⟩
      · rw [list]
        refine represents.set (kept changed) ?_
        rw [represents.found]
        exact number table.length shorter
      · intro counts _ exact
        rw [list] at exact ⊢
        refine counts.set (kept changed) early ?_
        rw [Plane.cell_set, if_neg (by omega)]
        exact count counts (exact _ (mem_set early _))
    · have list := noted_new table occurs known
      have long : (noted table call).length = table.length + 1 := by
        rw [list, length_append, length_singleton]
      rcases fillReply_new simTime represents switches own
        (by omega) occurs known with ⟨middle, reply, changed, count⟩
      refine ⟨_, written reply, ?_, ?_⟩
      · rw [list]
        refine represents.snoc (kept changed) ?_
        have last := number _ long.ge
        exact last
      · intro counts _ _
        rw [list]
        refine counts.snoc (kept changed) ?_
        rw [Plane.cell_set, if_neg (by omega)]
        exact count counts (by omega)
  · have list : noted table call = table := by rw [noted, if_neg occurs]
    have neither : isHashReply call = false ∧ isFullReply call = false := by
      simpa [counted] using occurs
    have reply : fillReply simTime plane call table.length = .ok (plane, table.length) := by
      simp [fillReply, neither]
    have same (j c : Nat) : (plane.set 1 0 (toFloat table.length)).cell j c = plane.cell j c := by
      rw [Plane.cell_set]
      split_ifs with here
      · rw [here.1, here.2, represents.found]
        exact number table.length shorter
      · rfl
    refine ⟨_, written reply, ?_, ?_⟩
    · rw [list]
      exact ⟨(same 1 0).trans represents.found, fun k early =>
        (represents.row k early).congr fun c _ _ => same k c⟩
    · intro counts _ _
      rw [list]
      exact ⟨fun k early => (same k 6).trans (counts.counts k early),
        fun k late early => (same k 6).trans (counts.zero k late early)⟩

end

end Representation

/-! ## Sequences of replies -/

/-- The replies are filled in one after the other, each at its time. -/
def fillAll (replies : List (Datum × FillCall)) (plane : Plane) : Except Fault Plane :=
  replies.foldlM (fun plane reply => fill_routes_in_delay_load_matrix reply.1 reply.2 plane) plane

/-- What is left of a table with so many rows. -/
def received (rows : Nat) (unset : Nat → Nat → Datum)
    (replies : List (Datum × FillCall)) : Except Fault Plane := do
  let plane ← initialise rows unset
  fillAll replies plane

def callsOf (replies : List (Datum × FillCall)) : List FillCall :=
  replies.map Prod.snd

/-- The number of routes found, as the source reads it. -/
def routesFound (plane : Plane) : Nat :=
  (toInt (plane.cell 1 0)).toNat

theorem routesFound_succ {next : Plane} (nonnegative : 0 ≤ found)
    (small : found ≤ 2 ^ 24) (number : next.cell 1 0 = toFloat (found + 1)) :
    (∃ after : ℤ, 0 ≤ after ∧ after ≤ 2 ^ 24 ∧ next.cell 1 0 = .finite after) ∧
      routesFound next ≤ found.toNat + 1 := by
  rcases lt_or_eq_of_le small with _ | most
  · have bits : |found + 1| ≤ 2 ^ 24 := by
      rw [abs_of_nonneg (by omega)]
      omega
    have value := toFloat_of_bits bits
    refine ⟨⟨found + 1, by omega, by omega, number.trans value⟩, ?_⟩
    rw [routesFound, number, value, toInt_of_bits bits]
    omega
  · -- the next integer is rounded back
    have value : toFloat (found + 1) = .finite ((2 ^ 24 : ℤ) : ℚ) := by
      rw [most]
      decide +kernel
    refine ⟨⟨2 ^ 24, by omega, le_rfl, number.trans value⟩, ?_⟩
    rw [routesFound, number, value, toInt_of_bits (by decide), most]
    omega

/-- The (aggregate, core, count) rows. -/
def countRows (plane : Plane) : Set (Datum × Datum × Datum) :=
  {entry | ∃ k < routesFound plane,
    entry = (plane.cell k 2, plane.cell k 3, plane.cell k 6)}

/-- The routes with their downward addresses. -/
def routeRows (plane : Plane) : Set (Datum × Datum × Datum × Datum) :=
  {entry | ∃ k < routesFound plane,
    entry = (plane.cell k 2, plane.cell k 3, plane.cell k 4, plane.cell k 5)}

/-- Each pair's full reply has arrived, always with the same way down. -/
structure Complete (calls : List FillCall) : Prop where
  arrived : ∀ pair, Occurs calls pair → ∃ call ∈ calls, isFullReply call = true ∧ pairOf call = pair
  consistent : ∀ call ∈ calls, ∀ other ∈ calls,
    isFullReply call = true → isFullReply other = true →
      pairOf call = pairOf other →
        call.aggrg_address_downward = other.aggrg_address_downward ∧
          call.edge_address_downward = other.edge_address_downward

/-- The rows hold the pairs that occurred, each once and with its count. -/
structure Describes (calls : List FillCall) (plane : Plane) : Prop where
  number : plane.cell 1 0 = .finite ((distinctPairs calls : ℤ) : ℚ)
  rows : ∃ order : List SwitchPair,
    order.Nodup ∧ order.length = distinctPairs calls ∧ (∀ pair, pair ∈ order ↔ Occurs calls pair) ∧
      ∀ k (early : k < order.length),
        plane.cell k 2 = toFloat order[k].1.getInt ∧ plane.cell k 3 = toFloat order[k].2.getInt ∧
          plane.cell k 6 = .finite ((-(hashReplies calls order[k] : ℤ) : ℤ) : ℚ)
  different : ∀ j k, j < distinctPairs calls → k < distinctPairs calls →
    plane.cell j 2 = plane.cell k 2 → plane.cell j 3 = plane.cell k 3 → j = k

/-- A sequence of replies does what it should, in this and any order. -/
def Collects (rows : Nat) (unset : Nat → Nat → Datum) (replies : List (Datum × FillCall)) : Prop :=
  ∃ plane, received rows unset replies = .ok plane ∧ Describes (callsOf replies) plane ∧
    ∀ other : List (Datum × FillCall), other.Perm replies →
      ∃ plane', received rows unset other = .ok plane' ∧ countRows plane' = countRows plane ∧
        (Complete (callsOf replies) → routeRows plane' = routeRows plane)

section Sequences

theorem tableOf_switches
    (switches : ∀ call ∈ calls, FromSwitches (pairOf call)) (member : route ∈ tableOf calls) :
    FromSwitches route.pair := by
  rcases (mem_tableOf.mp member).1 with ⟨_, inside, _, named⟩
  exact named ▸ switches _ inside

theorem fillAll_represents (unset : Nat → Nat → Datum) (enough : 4 ≤ rows)
    (switches : ∀ call ∈ callsOf replies, FromSwitches (pairOf call))
    (room : (tableOf (callsOf replies)).length ≤ rows)
    (few : (tableOf (callsOf replies)).length ≤ 2 ^ 24) :
    ∃ plane, fillAll replies (allocated rows unset) = .ok plane ∧
      plane.rows = rows ∧ Represents plane (tableOf (callsOf replies)) ∧
      ((tableOf (callsOf replies)).length ≤ 4 →
        (∀ pair, hashReplies (callsOf replies) pair ≤ 2 ^ 24) →
          CountsHashes plane (tableOf (callsOf replies))) := by
  induction replies using reverseRecOn with
  | nil =>
    have start := represents_allocated rows unset
    exact ⟨_, rfl, rfl, start.1, fun _ _ => start.2⟩
  | append_singleton replies reply induction =>
    have split : callsOf (replies ++ [reply]) = callsOf replies ++ [reply.2] := by simp [callsOf]
    rw [split, tableOf_snoc] at room few
    rw [split] at switches
    rw [split, tableOf_snoc]
    have shorter := noted_length_le (tableOf (callsOf replies)) reply.2
    have earlier : ∀ call ∈ callsOf replies, FromSwitches (pairOf call) := by
      intro _ member
      exact switches _ (mem_append_left _ member)
    rcases induction earlier (shorter.trans room) (shorter.trans few)
      with ⟨plane, success, size, represents, counts⟩
    rcases fill_routes_represents reply.1 represents
      (fun route member => tableOf_switches earlier member)
      (switches reply.2 (by simp)) (pairs_nodup _) (by omega)
      (by omega) few with ⟨next, filled, represented, counted⟩
    refine ⟨next, ?_, ?_, represented, ?_⟩
    · rw [fillAll, foldlM_append]
      apply bind_eq_ok.mpr
      refine ⟨plane, success, ?_⟩
      exact bind_eq_ok.mpr ⟨next, filled, rfl⟩
    · exact (fill_routes_refilled filled).rows.trans size
    · intro short exact
      have before : ∀ pair, hashReplies (callsOf replies) pair ≤ 2 ^ 24 := by
        intro pair
        have bound := exact pair
        rw [hashReplies_snoc] at bound
        omega
      refine counted (counts (shorter.trans short) before) short ?_
      intro route member
      rw [← tableOf_snoc] at member
      rw [(agrees_of_mem member).1]
      exact exact route.pair

theorem received_eq (enough : 4 ≤ rows) :
    received rows unset replies = fillAll replies (allocated rows unset) := by
  rw [received, initialise_eq _ enough]
  rfl

/-! ## What the rows describe -/

theorem describes_of_represents (switches : ∀ call ∈ calls, FromSwitches (pairOf call))
    (represents : Represents plane (tableOf calls))
    (counts : CountsHashes plane (tableOf calls)) : Describes calls plane where
  number := by rw [represents.found, tableOf_length]
  rows := by
    refine ⟨(tableOf _).map _, pairs_nodup calls, ?_, ?_, ?_⟩
    · rw [length_map, tableOf_length]
    · exact fun pair => mem_pairs
    · intro k early
      rw [length_map] at early
      have row := represents.row k early
      have agrees := agrees_of_mem (getElem_mem early)
      rw [getElem_map, ← agrees.1]
      exact ⟨row.aggregate, row.core, counts.counts k _⟩
  different := by
    intro j k earlyJ earlyK aggregates cores
    rw [← tableOf_length] at earlyJ earlyK
    have rowJ := represents.row j earlyJ
    have rowK := represents.row k earlyK
    have ownJ := tableOf_switches switches (getElem_mem earlyJ)
    have ownK := tableOf_switches switches (getElem_mem earlyK)
    rw [rowJ.aggregate, rowK.aggregate, toFloat_switch_inj ownJ.1 ownK.1] at aggregates
    rw [rowJ.core, rowK.core, toFloat_switch_inj ownJ.2 ownK.2] at cores
    exact row_of_pair (pairs_nodup _) _ _ (Prod.ext aggregates cores)

section

variable (represents : Represents plane table)
include represents

theorem routesFound_eq (few : table.length ≤ 2 ^ 24) : routesFound plane = table.length := by
  rw [routesFound, toInt_found represents few, Int.toNat_natCast]

theorem countRows_eq (counts : CountsHashes plane table) (few : table.length ≤ 2 ^ 24) :
    countRows plane =
      {entry | ∃ route ∈ table, entry =
        (toFloat route.pair.1.getInt, toFloat route.pair.2.getInt,
          .finite ((-(route.hashes : ℤ) : ℤ) : ℚ))} := by
  ext entry
  simp only [countRows, Set.mem_ofPred_eq, routesFound_eq represents few]
  constructor
  · rintro ⟨k, early, rfl⟩
    have row := represents.row k early
    refine ⟨table[k], getElem_mem _, ?_⟩
    rw [row.aggregate, row.core, counts.counts k]
  · rintro ⟨_, member, rfl⟩
    rcases getElem_of_mem member with ⟨k, early, rfl⟩
    have row := represents.row k early
    refine ⟨k, early, ?_⟩
    rw [row.aggregate, row.core, counts.counts k]

theorem routeRows_eq (few : table.length ≤ 2 ^ 24) :
    routeRows plane =
      {entry | ∃ route ∈ table, entry =
        (toFloat route.pair.1.getInt, toFloat route.pair.2.getInt,
          toFloat route.shown.1.getInt, toFloat route.shown.2.getInt)} := by
  ext entry
  simp only [routeRows, Set.mem_ofPred_eq, routesFound_eq represents few]
  constructor
  · rintro ⟨k, early, rfl⟩
    have row := represents.row k early
    refine ⟨table[k], getElem_mem _, ?_⟩
    rw [row.aggregate, row.core, row.aggregateDown, row.edgeDown]
  · rintro ⟨_, member, rfl⟩
    rcases getElem_of_mem member with ⟨k, early, rfl⟩
    have row := represents.row k early
    refine ⟨k, early, ?_⟩
    rw [row.aggregate, row.core, row.aggregateDown, row.edgeDown]

end

/-! ## The order of the replies -/

section Order

variable {others : List FillCall} (perm : others.Perm calls)

include perm

theorem occurs_perm : Occurs others pair ↔ Occurs calls pair := by
  simp only [Occurs, perm.mem_iff]

theorem hashReplies_perm (pair : SwitchPair) : hashReplies others pair = hashReplies calls pair :=
  perm.countP_eq _

theorem distinctPairs_perm : distinctPairs others = distinctPairs calls := by
  have pairs : ((tableOf others).map (·.pair)).Perm ((tableOf calls).map (·.pair)) := by
    rw [perm_ext_iff_of_nodup (pairs_nodup _) (pairs_nodup _)]
    intro _
    rw [mem_pairs, mem_pairs, occurs_perm perm]
  have lengths := pairs.length_eq
  rwa [length_map, length_map, tableOf_length, tableOf_length] at lengths

end Order

theorem lastWayDown_complete (complete : Complete calls)
    (member : call ∈ calls) (full : isFullReply call = true) :
    lastWayDown calls (pairOf call) =
      some (call.aggrg_address_downward, call.edge_address_downward) := by
  unfold lastWayDown
  have inside : call ∈ calls.filter fun other =>
      isFullReply other && pairOf other = pairOf call := by
    simp [member, full]
  cases last : ((calls.filter fun other =>
      isFullReply other && pairOf other = pairOf call).map fun other =>
        (other.aggrg_address_downward, other.edge_address_downward)).getLast? with
  | none =>
    rw [getLast?_eq_none_iff, map_eq_nil_iff] at last
    rw [last] at inside
    contradiction
  | some _ =>
    have listed := mem_of_getLast? last
    rcases mem_map.mp listed with ⟨_, named, rfl⟩
    rw [mem_filter, Bool.and_eq_true, decide_eq_true_eq] at named
    have same := complete.consistent _ named.1 _ member named.2.1 full named.2.2
    rw [same.1, same.2]

theorem Complete.perm (complete : Complete calls) (perm : others.Perm calls) : Complete others where
  arrived := by
    intro _ occurs
    rcases complete.arrived _ ((occurs_perm perm).mp occurs) with ⟨call, member, full, named⟩
    exact ⟨call, perm.mem_iff.mpr member, full, named⟩
  consistent := by
    intro _ member _ inside
    exact complete.consistent _ (perm.mem_iff.mp member) _ (perm.mem_iff.mp inside)

theorem lastWayDown_perm (complete : Complete calls) (perm : others.Perm calls)
    (occurs : Occurs calls pair) : lastWayDown others pair = lastWayDown calls pair := by
  rcases complete.arrived _ occurs with ⟨_, member, full, rfl⟩
  rw [lastWayDown_complete complete member full,
    lastWayDown_complete (complete.perm perm) (perm.mem_iff.mpr member) full]

/-- In another order there are the same pairs with the same counts. -/
theorem countRows_subset (perm : others.Perm calls) (member : route ∈ tableOf others) :
    ∃ same ∈ tableOf calls, same.pair = route.pair ∧ same.hashes = route.hashes := by
  have known := mem_tableOf.mp member
  have occurs := (occurs_perm perm).mp known.1
  rcases mem_map.mp (mem_pairs.mpr occurs) with ⟨same, inside, pair⟩
  refine ⟨same, inside, pair, ?_⟩
  rw [(agrees_of_mem inside).1, pair, known.2.1, hashReplies_perm perm]

theorem tableOf_perm (complete : Complete calls) (perm : others.Perm calls) :
    route ∈ tableOf others ↔ route ∈ tableOf calls := by
  rw [mem_tableOf, mem_tableOf, occurs_perm perm]
  apply and_congr_right
  intro occurs
  rw [Agrees, Agrees, hashReplies_perm perm, lastWayDown_perm complete perm occurs]

theorem collects_of_bounds (enough : 4 ≤ rows)
    (switches : ∀ call ∈ callsOf replies, FromSwitches (pairOf call))
    (few : distinctPairs (callsOf replies) ≤ 4)
    (counted : ∀ pair, hashReplies (callsOf replies) pair ≤ 2 ^ 24) :
    Collects rows unset replies := by
  have outcome {others : List (Datum × FillCall)} (perm : others.Perm replies) :
      ∃ plane, received rows unset others = .ok plane ∧
        Represents plane (tableOf (callsOf others)) ∧
        CountsHashes plane (tableOf (callsOf others)) ∧ (tableOf (callsOf others)).length ≤ 4 := by
    have calls : (callsOf others).Perm (callsOf replies) := perm.map Prod.snd
    have short : (tableOf (callsOf others)).length ≤ 4 := by
      rwa [tableOf_length, distinctPairs_perm calls]
    rcases fillAll_represents _ enough (fun call member => switches _ (calls.mem_iff.mp member))
      (short.trans enough) (short.trans (by decide)) with
      ⟨plane, success, _, represents, counts⟩
    refine ⟨plane, ?_, represents, counts short ?_, short⟩
    · rwa [received_eq enough]
    · intro _
      rw [hashReplies_perm calls]
      exact counted _
  rcases outcome (Perm.refl _) with ⟨plane, success, represents, counts, short⟩
  refine ⟨plane, success, describes_of_represents switches represents counts, ?_⟩
  intro others perm
  have calls : (callsOf others).Perm (callsOf replies) := perm.map Prod.snd
  rcases outcome perm with ⟨plane', success', represents', counts', short'⟩
  have small : (2 : Nat) ^ 24 ≥ 4 := by decide
  refine ⟨plane', success', ?_, ?_⟩
  · rw [countRows_eq represents counts (short.trans small),
      countRows_eq represents' counts' (short'.trans small)]
    ext entry
    constructor
    · rintro ⟨_, member, rfl⟩
      rcases countRows_subset calls member with ⟨same, inside, pair, count⟩
      exact ⟨same, inside, by rw [pair, count]⟩
    · rintro ⟨_, member, rfl⟩
      rcases countRows_subset calls.symm member with ⟨same, inside, pair, count⟩
      exact ⟨same, inside, by rw [pair, count]⟩
  · intro complete
    rw [routeRows_eq represents (short.trans small), routeRows_eq represents' (short'.trans small)]
    simp only [tableOf_perm complete calls]

/-! ## Beyond the bounds -/

/-- What a hash-path reply leaves in a cell, whatever the cell holds. -/
theorem fillAll_invariant {next : Plane} (property : Plane → Prop)
    (preserved : ∀ plane next, Refilled plane next → property plane → property next)
    (initial : property plane) (success : fillAll replies plane = .ok next) : property next := by
  refine foldlM_invariant ?_ initial success
  intro _ _ _ _ holds filled
  exact preserved _ _ (fill_routes_refilled filled) holds

theorem nan_stays {next : Plane} (garbage : plane.cell row 6 = .nan)
    (success : fillAll replies plane = .ok next) : next.cell row 6 = .nan := by
  refine fillAll_invariant (fun plane => plane.cell _ 6 = .nan) ?_ garbage success
  intro _ _ refilled holds
  rcases refilled.counts _ with same | less
  · rw [same, holds]
  · rw [less, holds]
    rfl

/-- A count that a `float` holds and that is not too small. -/
def Saturated (value : Datum) : Prop :=
  ∃ m : ℤ, value = .finite (m : ℚ) ∧ -2 ^ 24 ≤ m ∧ m ≤ 0

theorem sub_saturated :
    sub binary32 (.finite ((-16777216 : ℤ) : ℚ)) (.finite 1) = .finite ((-16777216 : ℤ) : ℚ) := by
  decide +kernel

theorem saturated_sub (saturated : Saturated value) :
    Saturated (sub binary32 value (.finite 1)) := by
  rcases saturated with ⟨m, rfl, low, _⟩
  rcases eq_or_lt_of_le low with _ | _
  · have value : m = -16777216 := by omega
    rw [value, sub_saturated]
    exact ⟨-16777216, rfl, by decide, by decide⟩
  · have bits : |m - 1| ≤ 2 ^ binary32.precision := by
      rw [abs_le]
      show -2 ^ 24 ≤ m - 1 ∧ m - 1 ≤ 2 ^ 24
      omega
    have exact := sub_intCast _ bits
    exact ⟨m - 1, exact, by omega, by omega⟩

theorem saturated_stays {next : Plane} (start : ∀ row, Saturated (plane.cell row 6))
    (success : fillAll replies plane = .ok next) : ∀ row, Saturated (next.cell row 6) := by
  refine fillAll_invariant (fun plane => ∀ row, Saturated (plane.cell row 6)) ?_ start success
  intro _ _ refilled holds _
  rcases refilled.counts _ with same | less
  · rw [same]
    exact holds _
  · rw [less]
    exact saturated_sub (holds _)

theorem not_describes_of_nan (many : 4 < distinctPairs calls)
    (garbage : plane.cell 4 6 = .nan) : ¬Describes calls plane := by
  intro describes
  rcases describes.rows with ⟨_, _, _, _, rows⟩
  have count := (rows 4 (by omega)).2.2
  rw [garbage] at count
  cases count

theorem few_of_collects (enough : 4 ≤ rows) (collects : Collects rows (fun _ _ => .nan) replies) :
    distinctPairs (callsOf replies) ≤ 4 := by
  by_contra many
  rcases collects with ⟨_, success, describes, _⟩
  rw [received_eq enough] at success
  refine not_describes_of_nan (not_le.mp many) ?_ describes
  exact nan_stays (allocated_unset _ _ (.inl le_rfl)) success

theorem counted_of_collects (enough : 4 ≤ rows)
    (collects : Collects rows (fun _ _ => .finite 0) replies)
    (pair : SwitchPair) : hashReplies (callsOf replies) pair ≤ 2 ^ 24 := by
  by_contra many
  rcases collects with ⟨_, success, describes, _⟩
  rw [received_eq enough] at success
  have start : ∀ row, Saturated ((allocated rows fun _ _ => .finite 0).cell row 6) := by
    intro _
    refine ⟨0, ?_, by decide, le_rfl⟩
    rcases lt_or_ge _ 4 with early | late
    · exact allocated_zero _ _ early (by decide) (by decide)
    · exact allocated_unset _ _ (.inl late)
  have bounded := saturated_stays start success
  have occurs : Occurs (callsOf replies) pair := by
    by_contra absent
    have none := (nothing_before absent).1
    omega
  rcases describes.rows with ⟨_, _, _, members, rows⟩
  rcases getElem_of_mem ((members _).mpr occurs) with ⟨k, early, named⟩
  rcases bounded k with ⟨m, value, _, _⟩
  rw [(rows k early).2.2, named] at value
  have same : -(hashReplies (callsOf replies) pair : ℤ) = m := by
    exact_mod_cast Datum.finite.inj value
  omega

/--
Whatever the memory held, the rows describe the replies in every order
exactly if at most four pairs occur and no pair has more hash-path replies
than a `float` counts.
-/
theorem collects_iff (enough : 4 ≤ rows)
    (switches : ∀ call ∈ callsOf replies, FromSwitches (pairOf call)) :
    (∀ unset, Collects rows unset replies) ↔
      distinctPairs (callsOf replies) ≤ 4 ∧
        ∀ pair, hashReplies (callsOf replies) pair ≤ 2 ^ 24 := by
  constructor
  · intro collects
    exact ⟨few_of_collects enough (collects _), counted_of_collects enough (collects _)⟩
  · rintro ⟨few, counted⟩ _
    exact collects_of_bounds enough switches few counted

end Sequences

/-- A full reply over aggregate switch `a` and its core switch `c`. -/
def sampleReply (a c : Nat) : Datum × FillCall :=
  (.finite 0,
    { dest_indx := 1
      aggrg_address := .set 10 2 a 0
      core_address := .set 70 3 c 0
      aggrg_address_downward := .set 20 2 (a + 3) 0
      edge_address_downward := .set 20 1 31 0
      num_intrfce := 6
      src_host_indx := 0
      dest_host_indx := 0 })

/-- Two replies for one route among the four of a flow with four ports. -/
theorem collects_two_replies :
    Collects 4 (fun _ _ => Datum.nan) [sampleReply 5 1, sampleReply 5 1] := by
  refine (collects_iff (by decide) ?_).mpr ⟨by decide, ?_⟩ _
  · intro call member
    have same : call = (sampleReply 5 1).2 := by simpa [callsOf] using member
    subst same
    exact ⟨by unfold IsSwitchAddress; decide, by unfold IsSwitchAddress; decide⟩
  · intro pair
    have none : hashReplies (callsOf [sampleReply 5 1, sampleReply 5 1]) pair ≤ 2 :=
      countP_le_length
    exact none.trans (by decide)

/-- With six ports, five routes and a NaN in the memory of the fifth row. -/
theorem five_routes_not_collected :
    ¬∀ unset, Collects 6 unset
      [sampleReply 10 1, sampleReply 10 2, sampleReply 10 3,
        sampleReply 11 4, sampleReply 11 5] := by
  intro collects
  have few := few_of_collects (by decide) (collects _)
  exact absurd few (by decide)

end OmnetDsi.Ipv4.FoundRoutes
