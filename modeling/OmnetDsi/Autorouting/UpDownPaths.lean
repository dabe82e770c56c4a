import OmnetDsi.Autorouting.AddressPlan

/-!
# Paths that climb and descend

The ways a packet may take from one edge switch to another: layer by layer up
to some switch and then layer by layer down.  The shortest of them go over an
aggregate switch of the pod, or over an aggregate switch, one of its cores
and the aggregate switch of the other pod at the same position
(`mem_routes_iff`).
-/

namespace OmnetDsi.Autorouting.UpDownPaths

open Autorouting.FatTrees Autorouting.AddressPlan List

/-! ## The paths and the shortest among them -/

def Climbs (lower upper : Node h) : Prop :=
  upper ∈ neighbours lower ∧ layerNumber lower < layerNumber upper

def Descends (upper lower : Node h) : Prop :=
  lower ∈ neighbours upper ∧ layerNumber lower < layerNumber upper

/-- The path climbs to `top` and descends from there. -/
structure UpDown (source target : Node h) (path : List (Node h)) : Prop where
  starts : path.head? = some source
  ends : path.getLast? = some target
  peak : ∃ up top down, path = up ++ top :: down ∧
    (up ++ [top]).IsChain Climbs ∧ (top :: down).IsChain Descends

def ShortestUpDown (source target : Node h) (path : List (Node h)) : Prop :=
  UpDown source target path ∧ ∀ other, UpDown source target other → path.length ≤ other.length

section Routes

variable (sourcePod : Fin (2 * h)) (sourceEdge : Fin h) (destPod : Fin (2 * h)) (destEdge : Fin h)

/-- The path over an aggregate switch of the common pod. -/
def podRoute (above : Fin h) : List (Node h) :=
  [.edge sourcePod sourceEdge, .aggregate sourcePod above, .edge destPod destEdge]

/-- The path over a core switch. -/
def coreRoute (above member : Fin h) : List (Node h) :=
  [.edge sourcePod sourceEdge, .aggregate sourcePod above,
    .core above member, .aggregate destPod above, .edge destPod destEdge]

/-- The shortest paths over an aggregate switch of the source's pod. -/
def routesVia (above : Fin h) : List (List (Node h)) :=
  if sourcePod = destPod then [podRoute sourcePod sourceEdge destPod destEdge above]
  else (finRange h).map (coreRoute sourcePod sourceEdge destPod destEdge above)

def routes : List (List (Node h)) :=
  (finRange h).flatMap (routesVia sourcePod sourceEdge destPod destEdge)

end Routes

/-! ## One layer up or down -/

theorem climbs_edge (climbs : Climbs (.edge pod position) upper) :
    ∃ above, upper = .aggregate pod above := by
  rcases climbs with ⟨near, higher⟩
  rcases mem_neighbours_edge.mp near with ⟨above, rfl⟩ | ⟨_, rfl⟩ | rfl
  · exact ⟨above, rfl⟩
  · simp [layerNumber] at higher
  · simp [layerNumber] at higher

theorem climbs_aggregate (climbs : Climbs (.aggregate pod position) upper) :
    ∃ member, upper = .core position member := by
  rcases climbs with ⟨near, higher⟩
  rcases mem_neighbours_aggregate.mp near with ⟨member, rfl⟩ | ⟨_, rfl⟩ | rfl
  · exact ⟨member, rfl⟩
  · simp [layerNumber] at higher
  · simp [layerNumber] at higher

theorem not_climbs_core : ¬Climbs (.core group member) upper := by
  rintro ⟨_, higher⟩
  cases upper <;> simp [layerNumber] at higher

theorem descends_core (descends : Descends (.core group member) lower) :
    (∃ pod, lower = .aggregate pod group) ∨ lower = .controller := by
  have near := descends.1
  rcases mem_neighbours_core.mp near with ⟨pod, rfl⟩ | rfl
  · exact .inl ⟨pod, rfl⟩
  · exact .inr rfl

theorem descends_aggregate (descends : Descends (.aggregate pod position) lower) :
    (∃ below, lower = .edge pod below) ∨ lower = .controller := by
  rcases descends with ⟨near, deeper⟩
  rcases mem_neighbours_aggregate.mp near with ⟨_, rfl⟩ | ⟨below, rfl⟩ | rfl
  · simp [layerNumber] at deeper
  · exact .inl ⟨below, rfl⟩
  · exact .inr rfl

theorem layerNumber_of_descent
    (descent : (top :: down).IsChain Descends) (ends : (top :: down).getLast? = some last) :
    down = [] ∧ last = top ∨ layerNumber last < layerNumber top := by
  induction down generalizing top with
  | nil =>
    left
    simpa using ends.symm
  | cons _ _ induction =>
    right
    rw [isChain_cons_cons] at descent
    have deeper := descent.1.2
    rcases induction descent.2 ends with ⟨_, rfl⟩ | lower
    · exact deeper
    · exact lower.trans deeper

section Classification

variable {destEdge : Fin h}

/-- A descent from an aggregate switch to an edge switch is one step. -/
theorem descent_from_aggregate (descent : (Node.aggregate pod position :: down).IsChain Descends)
    (ends : (Node.aggregate pod position :: down).getLast? = some (.edge destPod destEdge)) :
    pod = destPod ∧ down = [.edge destPod destEdge] := by
  cases down with
  | nil => simp at ends
  | cons _ _ =>
    rw [isChain_cons_cons] at descent
    have layers := layerNumber_of_descent descent.2 ends
    rcases descends_aggregate descent.1 with ⟨_, rfl⟩ | rfl
    · rcases layers with ⟨rfl, same⟩ | lower
      · rcases Node.edge.inj same with ⟨rfl, rfl⟩
        exact ⟨rfl, rfl⟩
      · simp [layerNumber] at lower
    · rcases layers with ⟨_, _⟩ | lower
      · contradiction
      · simp [layerNumber] at lower

theorem upDown_cases (different : Node.edge sourcePod sourceEdge ≠ .edge destPod destEdge)
    (upDown : UpDown (.edge sourcePod sourceEdge) (.edge destPod destEdge) path) :
    (sourcePod = destPod ∧ ∃ above, path = podRoute sourcePod sourceEdge destPod destEdge above) ∨
    ∃ above member, path = coreRoute sourcePod sourceEdge destPod destEdge above member := by
  rcases upDown with ⟨starts, ends, up, top, down, rfl, ascent, descent⟩
  have bottom : (top :: down).getLast? = some (.edge destPod destEdge) := by
    rw [← ends, getLast?_append_of_ne_nil _ (cons_ne_nil _ _)]
  match up with
  | [] =>
    -- the path does not climb at all
    have same : top = .edge sourcePod sourceEdge := by simpa using starts
    subst same
    rcases layerNumber_of_descent descent bottom with ⟨_, same⟩ | lower
    · exact absurd same.symm different
    · simp [layerNumber] at lower
  | [first] =>
    -- up to an aggregate switch
    have same : first = .edge sourcePod sourceEdge := by simpa using starts
    subst same
    have climbs : Climbs (.edge sourcePod sourceEdge) top := by simpa using ascent
    rcases climbs_edge climbs with ⟨above, rfl⟩
    rcases descent_from_aggregate descent bottom with ⟨rfl, rfl⟩
    exact .inl ⟨rfl, above, rfl⟩
  | [first, second] =>
    -- up to a core switch
    have same : first = .edge sourcePod sourceEdge := by simpa using starts
    subst same
    have climbs : Climbs (.edge sourcePod sourceEdge) second ∧ Climbs second top := by
      simpa [isChain_cons_cons] using ascent
    rcases climbs_edge climbs.1 with ⟨above, rfl⟩
    rcases climbs_aggregate climbs.2 with ⟨member, rfl⟩
    cases down with
    | nil => simp at bottom
    | cons _ _ =>
      rw [isChain_cons_cons] at descent
      rcases descends_core descent.1 with ⟨_, rfl⟩ | rfl
      · rcases descent_from_aggregate descent.2 bottom with ⟨rfl, rfl⟩
        exact .inr ⟨above, member, rfl⟩
      · rcases layerNumber_of_descent descent.2 bottom with ⟨_, same⟩ | lower
        · contradiction
        · simp [layerNumber] at lower
  | first :: second :: third :: rest =>
    -- there is nothing above a core switch
    have same : first = .edge sourcePod sourceEdge := by simpa using starts
    subst same
    simp only [cons_append, isChain_cons_cons] at ascent
    rcases climbs_edge ascent.1 with ⟨above, rfl⟩
    rcases climbs_aggregate ascent.2.1 with ⟨member, rfl⟩
    cases rest with
    | nil =>
      have climbs : Climbs (.core above member) top := by simpa using ascent.2.2
      exact absurd climbs not_climbs_core
    | cons _ _ =>
      simp only [cons_append, isChain_cons_cons] at ascent
      exact absurd ascent.2.2.1 not_climbs_core

theorem upDown_podRoute (above : Fin h) (samePod : sourcePod = destPod) :
    UpDown (.edge sourcePod sourceEdge) (.edge destPod destEdge)
      (podRoute sourcePod sourceEdge destPod destEdge above) := by
  subst samePod
  refine ⟨rfl, rfl, [.edge _ _], .aggregate _ _, [.edge _ _], rfl, ?_, ?_⟩
  · simp [Climbs, neighbours, layerNumber]
  · simp [Descends, neighbours, layerNumber]

theorem upDown_coreRoute (above member : Fin h) :
    UpDown (.edge sourcePod sourceEdge) (.edge destPod destEdge)
      (coreRoute sourcePod sourceEdge destPod destEdge above member) := by
  refine ⟨rfl, rfl, [.edge _ _, .aggregate _ _],
    .core _ _, [.aggregate _ _, .edge _ _], rfl, ?_, ?_⟩
  · simp [Climbs, neighbours, layerNumber, isChain_cons_cons]
  · simp [Descends, neighbours, layerNumber, isChain_cons_cons]

theorem mem_routes :
    route ∈ routes sourcePod sourceEdge destPod destEdge ↔
      (sourcePod = destPod ∧ ∃ above, route =
        podRoute sourcePod sourceEdge destPod destEdge above) ∨
      (sourcePod ≠ destPod ∧ ∃ above member, route =
        coreRoute sourcePod sourceEdge destPod destEdge above member) := by
  unfold routes routesVia
  by_cases samePod : sourcePod = destPod
  · simp [samePod]
  · simp [samePod, eq_comm]

theorem mem_routes_iff (different : Node.edge sourcePod sourceEdge ≠ .edge destPod destEdge)
    (path : List (Node h)) :
    path ∈ routes sourcePod sourceEdge destPod destEdge ↔
      ShortestUpDown (.edge sourcePod sourceEdge) (.edge destPod destEdge) path := by
  rw [mem_routes]
  constructor
  · rintro (⟨samePod, above, rfl⟩ | ⟨apart, above, member, rfl⟩)
    · refine ⟨upDown_podRoute _ samePod, ?_⟩
      intro _ upDown
      rcases upDown_cases different upDown with ⟨_, _, rfl⟩ | ⟨_, _, rfl⟩
      · exact le_refl 3
      · exact Nat.le_add_left 3 2
    · refine ⟨upDown_coreRoute _ _, ?_⟩
      intro _ upDown
      rcases upDown_cases different upDown with ⟨samePod, _⟩ | ⟨_, _, rfl⟩
      · exact absurd samePod apart
      · exact le_refl 5
  · rintro ⟨upDown, least⟩
    by_cases samePod : sourcePod = destPod
    · rcases upDown_cases different upDown with ⟨_, above, same⟩ | ⟨above, member, rfl⟩
      · exact .inl ⟨samePod, above, same⟩
      · have fewer := least _ (upDown_podRoute above samePod)
        simp [podRoute, coreRoute] at fewer
    · rcases upDown_cases different upDown with ⟨same, _⟩ | ⟨above, member, same⟩
      · exact absurd same samePod
      · exact .inr ⟨samePod, above, member, same⟩

/-! ## Their number -/

theorem routes_length :
    (routes sourcePod sourceEdge destPod destEdge).length =
      if sourcePod = destPod then h else h * h := by
  unfold routes
  by_cases samePod : sourcePod = destPod
  · simp [routesVia, samePod]
  · simp [routesVia, samePod, length_flatMap]

theorem routes_nodup : (routes sourcePod sourceEdge destPod destEdge).Nodup := by
  rw [routes, nodup_flatMap]
  by_cases samePod : sourcePod = destPod
  · constructor
    · simp [routesVia, samePod]
    · refine (nodup_finRange h).imp ?_
      intro _ _ apart
      show Disjoint _ _
      simp [routesVia, samePod, podRoute, apart.symm]
  · constructor
    · intro _ _
      simp only [routesVia, samePod, if_false]
      refine (nodup_finRange h).map ?_
      intro _ _ same
      simpa [coreRoute] using same
    · refine (nodup_finRange h).imp ?_
      intro _ _ apart
      simp only [routesVia, samePod, if_false, disjoint_left, mem_map]
      rintro _ ⟨_, _, rfl⟩ ⟨_, _, same⟩
      simp [coreRoute] at same
      exact apart same.1.symm

end Classification

end OmnetDsi.Autorouting.UpDownPaths
