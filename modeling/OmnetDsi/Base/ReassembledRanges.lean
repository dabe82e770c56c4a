import OmnetDsi.Base.ReassemblyBuffer

/-!
# Reassembly of arbitrary fragments

The fragments that reach a `ReassemblyBuffer` need not be pieces of one
datagram: they may overlap, lie inside each other and contradict each other
about which of them is the last.  Whatever they are, `main` begins at offset
zero and holds nothing that has not arrived (`Sound`), so that a datagram that
is reported complete has no hole.

Each pass of the merge loop but the last takes a fragment off the list, which
is why the loop ends for every list.
-/

namespace OmnetDsi.Base.ReassembledRanges

open Base.ReassemblyBuffer

/-! ## Fragments -/

/-- A fragment has bytes, and its offsets fit in a `ushort`. -/
structure Proper (frag : Region) : Prop where
  nonempty : frag.beg < frag.stop
  fits : frag.stop ≤ 65535

def Contains (frag : Region) (offset : Nat) : Prop :=
  frag.beg ≤ offset ∧ offset < frag.stop

/-- A fragment is passed to `addFragment`. -/
def pass (buffer : Buffer) (frag : Region) : Buffer × Bool :=
  addFragment buffer frag.beg frag.stop frag.islast

/-- The buffer after a sequence of fragments. -/
def afterFragments (passed : List Region) : Buffer :=
  passed.foldl (fun buffer frag => (pass buffer frag).1) {}

/-! ## What the buffer holds -/

/-- A range that begins at zero and has only bytes that have been passed. -/
structure Arrived (passed : List Region) (main : Region) : Prop where
  beg : main.beg = 0
  covered : ∀ offset < main.stop, ∃ frag ∈ passed, Contains frag offset
  last :
    main.islast = true →
      ∃ frag ∈ passed, frag.islast = true ∧ main.beg ≤ frag.beg ∧ frag.stop ≤ main.stop

/-- The buffer holds nothing but what has been passed. -/
structure Sound (passed : List Region) (buffer : Buffer) : Prop where
  main : Arrived passed buffer.main
  aside : ∀ frag ∈ buffer.fragments, frag ∈ passed

theorem Arrived.mono (arrived : Arrived passed main) (frag : Region) :
    Arrived (passed ++ [frag]) main where
  beg := arrived.beg
  covered := by
    intro _ inside
    rcases arrived.covered _ inside with ⟨other, member, contains⟩
    exact ⟨other, List.mem_append_left _ member, contains⟩
  last := by
    intro islast
    rcases arrived.last islast with ⟨other, member, flagged, within⟩
    exact ⟨other, List.mem_append_left _ member, flagged, within⟩

theorem Arrived.extend (arrived : Arrived passed main) (member : frag ∈ passed)
    (proper : Proper frag) (touches : main.stop = frag.beg) :
    Arrived passed { main with stop := frag.stop, islast := main.islast || frag.islast } where
  beg := arrived.beg
  covered := by
    intro offset inside
    by_cases before : offset < main.stop
    · exact arrived.covered _ before
    · exact ⟨frag, member, by omega, inside⟩
  last := by
    intro islast
    rcases (Bool.or_eq_true _ _).mp islast with earlier | flagged
    · rcases arrived.last earlier with ⟨other, among, flagged, begins, _⟩
      have longer := proper.nonempty
      exact ⟨other, among, flagged, begins, by
        change other.stop ≤ frag.stop
        omega⟩
    · refine ⟨frag, member, flagged, ?_, le_rfl⟩
      rw [arrived.beg]
      exact Nat.zero_le _

/-- A fragment has an end above zero, so nothing is put before `main`. -/
theorem Arrived.absorb (arrived : Arrived passed main) (member : frag ∈ passed)
    (proper : Proper frag) (taken : absorb main frag = some grown) : Arrived passed grown := by
  have above := proper.nonempty
  have begins := arrived.beg
  unfold ReassemblyBuffer.absorb at taken
  split_ifs at taken with touches precedes
  · cases taken
    exact arrived.extend member proper touches
  · omega
  · cases taken
    exact arrived

/-! ## The merge loop -/

variable {frags : List Region}

section

variable (proper : ∀ frag ∈ passed, Proper frag) (arrived : Arrived passed main)
    (aside : ∀ frag ∈ frags, frag ∈ passed)
include proper arrived aside

/-- A pass takes in and keeps fragments of the list it goes through. -/
theorem Arrived.mergePass :
    Arrived passed (mergePass main frags).main ∧
      ∀ frag ∈ (mergePass main frags).fragments, frag ∈ passed := by
  induction frags generalizing main with
  | nil => exact ⟨arrived, aside⟩
  | cons frag _ induction =>
    rw [List.forall_mem_cons] at aside
    unfold ReassemblyBuffer.mergePass
    cases taken : ReassemblyBuffer.absorb main frag with
    | some _ => exact induction (arrived.absorb aside.1 (proper _ aside.1) taken) aside.2
    | none =>
      have kept := induction arrived aside.2
      refine ⟨kept.1, ?_⟩
      intro _ member
      rcases List.mem_cons.mp member with rfl | inside
      · exact aside.1
      · exact kept.2 _ inside

theorem Arrived.mergeFragments : Sound passed (mergeFragments main frags) := by
  have loop := mergeLoop_spec (fun main frags => Arrived _ main ∧ ∀ frag ∈ frags, frag ∈ passed)
    (fun main frags holds => holds.1.mergePass proper holds.2)
    (Nat.lt_succ_self frags.length) ⟨arrived, aside⟩
  exact ⟨loop.1.1, loop.1.2⟩

end

theorem mergeLoop_enough (enough : frags.length < fuel) (further : frags.length < more) :
    mergeLoop more main frags = mergeLoop fuel main frags := by
  induction fuel generalizing more main frags with
  | zero => exact absurd enough (Nat.not_lt_zero _)
  | succ _ induction =>
    cases more with
    | zero => exact absurd further (Nat.not_lt_zero _)
    | succ _ =>
      have shorter := (mergePass_length main frags).2
      dsimp only [mergeLoop]
      split_ifs with oncemore
      · have less := shorter oncemore
        exact induction (by omega) (by omega)
      · rfl

/-- The loop ends with a pass that erases nothing, however long it may run. -/
def Ends (main : Region) (frags : List Region) : Prop :=
  (∀ fuel, frags.length < fuel → mergeLoop fuel main frags = mergeFragments main frags) ∧
    (mergePass (mergeFragments main frags).main
      (mergeFragments main frags).fragments).oncemore = false

theorem mergePass_nothing (none : ∀ frag ∈ frags, absorb main frag = none) :
    (mergePass main frags).oncemore = false := by
  induction frags with
  | nil => rfl
  | cons _ _ induction =>
    rw [List.forall_mem_cons] at none
    rw [mergePass, none.1]
    exact induction none.2

theorem mergeFragments_ends (main : Region) (frags : List Region) : Ends main frags := by
  have settled :
      ∀ frag ∈ (mergeFragments main frags).fragments,
        absorb (mergeFragments main frags).main frag = none :=
    (mergeLoop_spec (fun _ _ => True) (fun _ _ _ => trivial)
      (Nat.lt_succ_self frags.length) trivial).2
  exact ⟨fun fuel enough => mergeLoop_enough (Nat.lt_succ_self frags.length) enough,
    mergePass_nothing settled⟩

/-! ## Every sequence of fragments -/

theorem sound_empty : Sound [] {} where
  main :=
    { beg := rfl
      covered := fun offset inside => absurd inside (Nat.not_lt_zero offset)
      last := nofun }
  aside := nofun

theorem Sound.pass (sound : Sound passed buffer)
    (earlier : ∀ frag ∈ passed, Proper frag) (proper : Proper frag) :
    Sound (passed ++ [frag]) (pass buffer frag).1 := by
  have below := proper.nonempty
  have fits := proper.fits
  have beg : ushort frag.beg = frag.beg := Nat.mod_eq_of_lt (by omega)
  have stop : ushort frag.stop = frag.stop := Nat.mod_eq_of_lt (by omega)
  have all : ∀ other ∈ passed ++ [frag], Proper other := by
    intro _ member
    rcases List.mem_append.mp member with before | here
    · exact earlier _ before
    · rwa [List.mem_singleton.mp here]
  have newest : frag ∈ passed ++ [frag] := List.mem_append_right _ (List.mem_singleton_self _)
  have main := sound.main.mono frag
  have aside : ∀ other ∈ buffer.fragments, other ∈ passed ++ [frag] :=
    fun other member => List.mem_append_left _ (sound.aside _ member)
  have begins := main.beg
  dsimp only [ReassembledRanges.pass, addFragment, merge]
  rw [beg, stop]
  split_ifs with touches precedes gap
  · exact (main.extend newest proper touches).mergeFragments all aside
  · omega
  · refine ⟨main, ?_⟩
    intro _ member
    rcases List.mem_append.mp member with before | here
    · exact aside _ before
    · rwa [List.mem_singleton.mp here]
  · exact ⟨main, aside⟩

theorem sound_afterFragments (proper : ∀ frag ∈ passed, Proper frag) :
    Sound passed (afterFragments passed) := by
  induction passed using List.reverseRecOn with
  | nil => exact sound_empty
  | append_singleton passed _ induction =>
    have earlier : ∀ other ∈ passed, Proper other :=
      fun other member => proper _ (List.mem_append_left _ member)
    have step := (induction earlier).pass earlier
      (proper _ (List.mem_append_right _ (List.mem_singleton_self _)))
    simpa [afterFragments] using step

/--
Whatever fragments have been passed, `main` holds only what has arrived, the
merge loop ends, and a datagram that the next call reports complete has every
byte below its length.
-/
theorem reassembly_sound (passed : List Region) (frag : Region)
    (earlier : ∀ other ∈ passed, Proper other) (proper : Proper frag) :
    Arrived passed (afterFragments passed).main ∧
      ((pass (afterFragments passed) frag).2 = true →
        ∀ offset < getTotalLength (pass (afterFragments passed) frag).1,
          ∃ other ∈ passed ++ [frag], Contains other offset) ∧
        ∀ main frags, Ends main frags := by
  have sound := sound_afterFragments earlier
  exact ⟨sound.main, fun _ => (sound.pass earlier proper).main.covered, mergeFragments_ends⟩

instance (frag : Region) : Decidable (Proper frag) :=
  decidable_of_iff (frag.beg < frag.stop ∧ frag.stop ≤ 65535)
    ⟨fun both => ⟨both.1, both.2⟩, fun proper => ⟨proper.1, proper.2⟩⟩

/-- Fragments that overlap and of which two say that they are the last. -/
def contradicting : List Region :=
  [⟨0, 8, false⟩, ⟨4, 16, true⟩, ⟨24, 32, false⟩, ⟨16, 24, true⟩]

theorem reassembly_sound_contradicting :
    Arrived contradicting (afterFragments contradicting).main ∧
      ((pass (afterFragments contradicting) ⟨8, 16, false⟩).2 = true →
        ∀ offset < getTotalLength (pass (afterFragments contradicting) ⟨8, 16, false⟩).1,
          ∃ other ∈ contradicting ++ [⟨8, 16, false⟩], Contains other offset) ∧
        ∀ main frags, Ends main frags :=
  reassembly_sound _ ⟨8, 16, false⟩ (by decide) (by decide)

end OmnetDsi.Base.ReassembledRanges
