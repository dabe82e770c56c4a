import Mathlib.Data.List.Nodup
import OmnetDsi.Library.Fallible

/-!
# The label table of MPLS

`installLibEntry` gives out a new label, above all earlier ones, or rewrites
the first entry of a label that was given out before; `removeLibEntry` erases
the first entry of a label.  Both stop the simulation when a label that they
are given has no entry.
-/

namespace OmnetDsi.Mpls.LabelTable

open Library.Fallible

/-! ## Entries and operations -/

inductive LabelOpCode where
  | PUSH_OPER
  | SWAP_OPER
  | POP_OPER

structure LabelOp where
  optcode : LabelOpCode
  label : Int

structure LIBEntry where
  inLabel : Int
  inInterface : String
  outLabel : List LabelOp
  outInterface : String
  color : Int

structure LIBTable where
  maxLabel : Int
  lib : List LIBEntry

/-- What stops the simulation: an `ASSERT` of one of these functions. -/
inductive LIBFailure where
  | configuredLabel
  | installLibEntry
  | removeLibEntry
deriving DecidableEq

def pushLabel (label : Int) : List LabelOp :=
  [{ optcode := .PUSH_OPER, label }]

/-- The operation of a pop has no label. -/
def popLabel : List LabelOp :=
  [{ optcode := .POP_OPER, label := 0 }]

def swapLabel (label : Int) : List LabelOp :=
  [{ optcode := .SWAP_OPER, label }]

namespace LIBTable

def empty : LIBTable where
  maxLabel := 0
  lib := []

/-- One entry of the configuration. -/
def readEntry (lt : LIBTable) (newItem : LIBEntry) : Except LIBFailure LIBTable :=
  if newItem.inLabel > 0 then
    .ok { maxLabel := max newItem.inLabel lt.maxLabel, lib := lt.lib ++ [newItem] }
  else .error .configuredLabel

/-- The entries of the configuration, as they stand in the file. -/
def readTableFromXML (list : List LIBEntry) : Except LIBFailure LIBTable :=
  list.foldlM readEntry empty

/-- The entry under its new label, or as it is rewritten. -/
def entry (inLabel : Int) (inInterface : String) (outLabel : List LabelOp)
    (outInterface : String) (color : Int) : LIBEntry where
  inLabel
  inInterface
  outLabel
  outInterface
  color

/-- The first entry of a label is replaced. -/
def rewrite (inLabel : Int) (item : LIBEntry) : List LIBEntry → Option (List LIBEntry)
  | [] => none
  | first :: rest =>
    if first.inLabel = inLabel then some (item :: rest)
    else (rewrite inLabel item rest).map (first :: ·)

def installLibEntry (lt : LIBTable) (inLabel : Int) (inInterface : String)
    (outLabel : List LabelOp) (outInterface : String) (color : Int) :
    Except LIBFailure (Int × LIBTable) :=
  if inLabel = -1 then
    let label := lt.maxLabel + 1
    .ok
      (label,
        { maxLabel := label
          lib := lt.lib ++ [entry label inInterface outLabel outInterface color] })
  else
    match rewrite inLabel (entry inLabel inInterface outLabel outInterface color) lt.lib with
    | some lib => .ok (inLabel, { lt with lib })
    | none => .error .installLibEntry

def removeLibEntry (lt : LIBTable) (inLabel : Int) : Except LIBFailure LIBTable :=
  if lt.lib.any fun entry => entry.inLabel = inLabel then
    .ok { lt with lib := lt.lib.eraseP fun entry => entry.inLabel = inLabel }
  else .error .removeLibEntry

/-- The labels of the entries, in order. -/
def inLabels (lt : LIBTable) : List Int :=
  lt.lib.map LIBEntry.inLabel

/-! ## What the operations do to the labels -/

theorem rewrite_eq_some {lib : List LIBEntry} (sameLabel : item.inLabel = inLabel)
    (rewritten : rewrite inLabel item lib = some next) :
    next.map LIBEntry.inLabel = lib.map LIBEntry.inLabel := by
  induction lib generalizing next with
  | nil => cases rewritten
  | cons _ _ induction =>
    rw [rewrite] at rewritten
    split_ifs at rewritten with here
    · cases rewritten
      simp [sameLabel, here]
    · rcases Option.map_eq_some_iff.mp rewritten with ⟨_, done, rfl⟩
      rw [List.map_cons, List.map_cons, induction done]

theorem rewrite_isSome {lib : List LIBEntry} (member : inLabel ∈ lib.map LIBEntry.inLabel) :
    ∃ next, rewrite inLabel item lib = some next := by
  induction lib with
  | nil => cases member
  | cons first _ induction =>
    rw [rewrite]
    by_cases here : first.inLabel = inLabel
    · exact ⟨_, if_pos here⟩
    · rw [List.map_cons, List.mem_cons] at member
      rcases induction (member.resolve_left (Ne.symm here)) with ⟨next, done⟩
      exact ⟨first :: next, by rw [if_neg here, done]; rfl⟩

theorem installLibEntry_new (lt : LIBTable) (inInterface : String)
    (outLabel : List LabelOp) (outInterface : String) (color : Int) :
    ∃ next,
      lt.installLibEntry (-1) inInterface outLabel outInterface color =
          .ok (lt.maxLabel + 1, next) ∧
        next.maxLabel = lt.maxLabel + 1 ∧
        next.inLabels = lt.inLabels ++ [lt.maxLabel + 1] := by
  refine ⟨_, rfl, rfl, ?_⟩
  simp [inLabels, entry]

variable {lt : LIBTable}

theorem installLibEntry_old (old : inLabel ≠ -1)
    (installed :
      lt.installLibEntry inLabel inInterface outLabel outInterface color = .ok (label, next)) :
    label = inLabel ∧ next.maxLabel = lt.maxLabel ∧ next.inLabels = lt.inLabels := by
  rw [installLibEntry, if_neg old] at installed
  cases rewritten : rewrite inLabel
      (entry inLabel inInterface outLabel outInterface color) lt.lib with
  | none =>
    rw [rewritten] at installed
    cases installed
  | some _ =>
    rw [rewritten] at installed
    cases installed
    have same : (entry inLabel inInterface outLabel outInterface color).inLabel = inLabel := rfl
    exact ⟨rfl, rfl, rewrite_eq_some same rewritten⟩

theorem installLibEntry_avoids (member : inLabel ∈ lt.inLabels) (inInterface : String)
    (outLabel : List LabelOp) (outInterface : String) (color : Int) :
    ∃ result, lt.installLibEntry inLabel inInterface outLabel outInterface color = .ok result := by
  unfold installLibEntry
  by_cases new : inLabel = -1
  · exact ⟨_, if_pos new⟩
  · rcases @rewrite_isSome _ _ lt.lib member with ⟨lib, rewritten⟩
    refine ⟨(inLabel, { lt with lib }), ?_⟩
    rw [if_neg new, rewritten]

theorem removeLibEntry_eq_ok (removed : lt.removeLibEntry inLabel = .ok next) :
    next.maxLabel = lt.maxLabel ∧ next.inLabels = lt.inLabels.erase inLabel := by
  unfold removeLibEntry at removed
  split_ifs at removed with found
  cases removed
  refine ⟨rfl, ?_⟩
  rw [inLabels, inLabels, List.erase_eq_eraseP', List.eraseP_map]
  congr 2

theorem removeLibEntry_avoids (member : inLabel ∈ lt.inLabels) :
    ∃ next, lt.removeLibEntry inLabel = .ok next := by
  rcases List.mem_map.mp member with ⟨entry, here, same⟩
  refine ⟨_, if_pos ?_⟩
  rw [List.any_eq_true]
  exact ⟨entry, here, decide_eq_true same⟩

/-! ## The configuration -/

/-- Every label is positive and at most `maxLabel`. -/
structure Labelled (lt : LIBTable) : Prop where
  nonneg : 0 ≤ lt.maxLabel
  positive : ∀ label ∈ lt.inLabels, 0 < label
  given : ∀ label ∈ lt.inLabels, label ≤ lt.maxLabel

theorem readEntry_labelled
    (labelled : lt.Labelled) (read : lt.readEntry newItem = .ok next) : next.Labelled := by
  unfold readEntry at read
  split_ifs at read with positive
  cases read
  have labels : ∀ label,
      label ∈ (lt.lib ++ [newItem]).map LIBEntry.inLabel ↔
        label ∈ lt.inLabels ∨ label = newItem.inLabel := by
    simp [inLabels]
  refine ⟨by dsimp only; omega, ?_, ?_⟩
  · intro _ member
    rcases (labels _).mp member with old | rfl
    · exact labelled.positive _ old
    · exact positive
  · intro _ member
    rcases (labels _).mp member with old | rfl
    · have := labelled.given _ old
      dsimp only
      omega
    · dsimp only
      omega

theorem readTableFromXML_labelled (success : readTableFromXML list = .ok lt) : lt.Labelled := by
  have start : empty.Labelled := by
    refine ⟨Int.le_refl 0, ?_, ?_⟩
    all_goals
      intro _ member
      cases member
  refine foldlM_invariant ?_ start success
  intro _ _ _ _ before read
  exact readEntry_labelled before read

end LIBTable

end OmnetDsi.Mpls.LabelTable
