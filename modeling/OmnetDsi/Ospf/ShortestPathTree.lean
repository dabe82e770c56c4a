import OmnetDsi.Library.ShortestPaths
import Mathlib.Algebra.Order.Ring.Nat
import Mathlib.Data.BitVec
import Mathlib.Data.Finset.Max

/-!
# The shortest path tree of an area

The link-state database of an area holds the router LSAs and the network LSAs,
one for each id.  `CalculateShortestPathTree` starts with the router's own LSA
and adds vertices to the tree: the links of the vertex added last put their
targets on the list of candidates, and the closest candidate is added next.
The routing table entries and the next hops that it derives on the way do not
come back into the tree; they are not modelled.

Distances and link costs are an `unsigned long` of 64 bits.  When no distance
reaches `LS_INFINITY` and no sum wraps around, the tree holds the vertices
that can be reached, each with its least distance.
-/

namespace OmnetDsi.Ospf.ShortestPathTree

open BitVec (allOnes le_refl lt_def not_lt toNat)
open Library.ShortestPaths List Function

/-! ## The database -/

def MAX_AGE : Nat := 3600

def LS_INFINITY : BitVec 64 := 16777215#64

inductive LinkType where
  | pointToPointLink
  | transitLink
  | stubLink
  | virtualLink
deriving DecidableEq

structure Link where
  linkID : Nat
  linkData : Nat := 0
  type : LinkType := .pointToPointLink
  linkCost : BitVec 64 := 1
deriving DecidableEq

structure RouterLSA where
  lsAge : Nat := 0
  linkStateID : Nat
  vVirtualLinkEndpoint : Bool := false
  links : List Link
deriving DecidableEq

structure NetworkLSA where
  lsAge : Nat := 0
  linkStateID : Nat
  networkMask : Nat
  attachedRouters : List Nat
deriving DecidableEq

/-- An LSA of the database; the constructor is its `lsType`. -/
inductive OSPFLSA where
  | router (lsa : RouterLSA)
  | network (lsa : NetworkLSA)
deriving DecidableEq

def OSPFLSA.lsAge : OSPFLSA → Nat
  | .router lsa => lsa.lsAge
  | .network lsa => lsa.lsAge

/-- The LSAs of an area; an LSA with a known id replaces the one it updates. -/
structure Area where
  routerLSAs : List RouterLSA
  networkLSAs : List NetworkLSA
  routerIDs : (routerLSAs.map RouterLSA.linkStateID).Nodup
  networkIDs : (networkLSAs.map NetworkLSA.linkStateID).Nodup

variable {area : Area}

namespace Area

def FindRouterLSA (area : Area) (linkStateID : Nat) : Option RouterLSA :=
  area.routerLSAs.find? fun lsa => lsa.linkStateID = linkStateID

def FindNetworkLSA (area : Area) (linkStateID : Nat) : Option NetworkLSA :=
  area.networkLSAs.find? fun lsa => lsa.linkStateID = linkStateID

/-- All LSAs that can become vertices of the tree. -/
def vertices (area : Area) : List OSPFLSA :=
  area.routerLSAs.map .router ++ area.networkLSAs.map .network

theorem mem_of_FindRouterLSA (found : area.FindRouterLSA linkStateID = some lsa) :
    .router lsa ∈ area.vertices :=
  mem_append_left _ (mem_map_of_mem (mem_of_find?_eq_some found))

theorem mem_of_FindNetworkLSA (found : area.FindNetworkLSA linkStateID = some lsa) :
    .network lsa ∈ area.vertices :=
  mem_append_right _ (mem_map_of_mem (mem_of_find?_eq_some found))

end Area

def HasLink : OSPFLSA → OSPFLSA → Bool
  | .router fromLSA, .router toLSA =>
    fromLSA.links.any fun link =>
      (link.type == .pointToPointLink || link.type == .virtualLink) &&
        link.linkID == toLSA.linkStateID
  | .router fromLSA, .network toLSA =>
    fromLSA.links.any fun link =>
      link.type == .transitLink && link.linkID == toLSA.linkStateID ||
        link.type == .stubLink &&
          (link.linkID &&& link.linkData) == (toLSA.linkStateID &&& toLSA.networkMask)
  | .network fromLSA, .router toLSA => fromLSA.attachedRouters.any (· == toLSA.linkStateID)
  | .network _, .network _ => false

/-! ## The calculation -/

/-- The variables of the calculation, and the distances kept in the LSAs. -/
structure Spf where
  treeVertices : List OSPFLSA
  candidateVertices : List OSPFLSA
  distance : OSPFLSA → BitVec 64
  transitCapability : Bool

/-- The vertex that a link leads to. -/
def joiningVertex (area : Area) (link : Link) : Option OSPFLSA :=
  if link.type = .transitLink then (area.FindNetworkLSA link.linkID).map .network
  else (area.FindRouterLSA link.linkID).map .router

/-- Steps (c) and (d): the vertex can be reached at this cost. -/
def Spf.joinVertex (spf : Spf) (joining : OSPFLSA) (linkStateCost : BitVec 64) : Spf :=
  if joining ∈ spf.treeVertices then spf
  else if joining ∈ spf.candidateVertices then
    if linkStateCost > spf.distance joining then spf
    else if linkStateCost < spf.distance joining then
      { spf with distance := update spf.distance joining linkStateCost }
    else spf
  else
    { spf with
      distance := update spf.distance joining linkStateCost
      candidateVertices := spf.candidateVertices ++ [joining] }

/-- One link of the router vertex that was added last. -/
def processLink (area : Area) (routerVertex : RouterLSA) (spf : Spf) (link : Link) : Spf :=
  if link.type = .stubLink then spf
  else
    match joiningVertex area link with
    | none => spf
    | some joining =>
      if joining.lsAge = MAX_AGE ∨ HasLink joining (.router routerVertex) = false then spf
      else spf.joinVertex joining (spf.distance (.router routerVertex) + link.linkCost)

/-- One attached router of the network vertex that was added last. -/
def processAttachedRouter (area : Area) (networkVertex : NetworkLSA)
    (spf : Spf) (attachedRouter : Nat) : Spf :=
  match area.FindRouterLSA attachedRouter with
  | none => spf
  | some joining =>
    if joining.lsAge = MAX_AGE ∨ HasLink (.router joining) (.network networkVertex) = false then spf
    else spf.joinVertex (.router joining) (spf.distance (.network networkVertex))

/-- Step (2) for the vertex that was added last. -/
def processVertex (area : Area) (spf : Spf) : OSPFLSA → Spf
  | .router routerVertex =>
    routerVertex.links.foldl (processLink area routerVertex)
      (if routerVertex.vVirtualLinkEndpoint then { spf with transitCapability := true }
      else spf)
  | .network networkVertex =>
    networkVertex.attachedRouters.foldl (processAttachedRouter area networkVertex) spf

/-- One candidate in the search for the closest; networks are preferred. -/
def closer (distance : OSPFLSA → BitVec 64) (best : OSPFLSA × BitVec 64)
    (candidate : OSPFLSA) : OSPFLSA × BitVec 64 :=
  if distance candidate < best.2 then (candidate, distance candidate)
  else if distance candidate = best.2 then
    match best.1, candidate with
    | .router _, .network _ => (candidate, best.2)
    | _, _ => best
  else best

def closestVertex (distance : OSPFLSA → BitVec 64) (first : OSPFLSA)
    (rest : List OSPFLSA) : OSPFLSA :=
  ((first :: rest).foldl (closer distance) (first, LS_INFINITY)).1

/-- The loop; without a result when the rounds are used up. -/
def growTree (area : Area) : Nat → Spf → OSPFLSA → Option Spf
  | 0, _, _ => none
  | rounds + 1, spf, justAddedVertex =>
    let processed := processVertex area spf justAddedVertex
    match processed.candidateVertices with
    | [] => some processed
    | first :: rest =>
      let closest := closestVertex processed.distance first rest
      growTree area rounds
        { processed with
          treeVertices := processed.treeVertices ++ [closest]
          candidateVertices := (first :: rest).erase closest }
        closest

/--
The tree with `spfTreeRoot` as its root; before it the distances are those of
the last calculation.
-/
def CalculateShortestPathTree (area : Area) (spfTreeRoot : RouterLSA)
    (distance : OSPFLSA → BitVec 64) (transitCapability : Bool) (rounds : Nat) : Option Spf :=
  growTree area rounds
    { treeVertices := [.router spfTreeRoot]
      candidateVertices := []
      distance := update distance (.router spfTreeRoot) 0
      transitCapability }
    (.router spfTreeRoot)

/-! ## Paths in the database -/

/-- The links over which vertices are reached, with their costs. -/
inductive Adjacent (area : Area) : OSPFLSA → OSPFLSA → Nat → Prop where
  | link {routerVertex : RouterLSA} {link : Link} {next : OSPFLSA}
      (among : link ∈ routerVertex.links) (notStub : link.type ≠ .stubLink)
      (target : joiningVertex area link = some next) (notMaxAge : next.lsAge ≠ MAX_AGE)
      (linkBack : HasLink next (.router routerVertex) = true) :
      Adjacent area (.router routerVertex) next link.linkCost.toNat
  | attached {networkVertex : NetworkLSA} {attachedRouter : Nat} {next : RouterLSA}
      (among : attachedRouter ∈ networkVertex.attachedRouters)
      (target : area.FindRouterLSA attachedRouter = some next) (notMaxAge : next.lsAge ≠ MAX_AGE)
      (linkBack : HasLink (.router next) (.network networkVertex) = true) :
      Adjacent area (.network networkVertex) (.router next) 0

theorem mem_vertices_of_joiningVertex {next : OSPFLSA}
    (target : joiningVertex area link = some next) : next ∈ area.vertices := by
  rw [joiningVertex] at target
  split_ifs at target with transit
  · rcases Option.map_eq_some_iff.mp target with ⟨_, found, rfl⟩
    exact Area.mem_of_FindNetworkLSA found
  · rcases Option.map_eq_some_iff.mp target with ⟨_, found, rfl⟩
    exact Area.mem_of_FindRouterLSA found

theorem mem_vertices_of_reaches (known : root ∈ area.vertices)
    (path : Reaches (Adjacent area) root vertex cost) : vertex ∈ area.vertices := by
  cases path with
  | root => exact known
  | step _ last =>
    cases last with
    | link _ _ target => exact mem_vertices_of_joiningVertex target
    | attached _ target => exact Area.mem_of_FindRouterLSA target

/-! ## Relaxing the links of a vertex -/

/-- No distance and link cost that are added wrap around. -/
def NoOverflow (area : Area) (root : OSPFLSA) : Prop :=
  ∀ vertex next total cost,
    Shortest (Adjacent area) root vertex total →
      Adjacent area vertex next cost → total + cost < 2 ^ 64

/-- The state is that of a growing tree with some edges relaxed. -/
def Growing (area : Area) (root : OSPFLSA)
    (relaxed : OSPFLSA → OSPFLSA → Nat → Prop) (spf : Spf) : Prop :=
  Frontier (Adjacent area) root relaxed spf.treeVertices
    spf.candidateVertices (toNat ∘ spf.distance)

/-- Processing relaxes edges out of a vertex of the tree, which stays. -/
structure Relaxes (area : Area) (root vertex : OSPFLSA)
    (edges : OSPFLSA → Nat → Prop) (before after : Spf) : Prop where
  sameTree : after.treeVertices = before.treeVertices
  grows :
    ∀ relaxed, Growing area root relaxed before →
      ∃ more, Growing area root more after ∧
        (∀ source target cost, relaxed source target cost → more source target cost) ∧
          ∀ next cost, edges next cost → more vertex next cost

section Relaxing

variable {spf : Spf}

theorem Relaxes.none (noEdge : ∀ next cost, ¬ edges next cost) :
    Relaxes area root vertex edges spf spf where
  sameTree := rfl
  grows relaxed growing :=
    ⟨relaxed, growing, fun _ _ _ => id, fun next cost isEdge => absurd isEdge (noEdge next cost)⟩

theorem Relaxes.mono {after : Spf} (relaxes : Relaxes area root vertex edges spf after)
    (within : ∀ next cost, fewer next cost → edges next cost) :
    Relaxes area root vertex fewer spf after where
  sameTree := relaxes.sameTree
  grows relaxed growing := by
    rcases relaxes.grows _ growing with ⟨more, grown, kept, wanted⟩
    exact ⟨more, grown, kept, fun next cost isEdge => wanted _ _ (within _ _ isEdge)⟩

theorem joinVertex_treeVertices (next : OSPFLSA) (linkStateCost : BitVec 64) :
    (spf.joinVertex next linkStateCost).treeVertices = spf.treeVertices := by
  unfold Spf.joinVertex
  split_ifs <;> rfl

theorem joinVertex_relaxes {next : OSPFLSA} (onTree : vertex ∈ spf.treeVertices)
    (isEdge : Adjacent area vertex next cost)
    (sum : linkStateCost.toNat = (spf.distance vertex).toNat + cost) :
    Relaxes area root vertex (fun target paid => target = next ∧ paid = cost) spf
      (spf.joinVertex next linkStateCost) := by
  have updated :
      toNat ∘ update spf.distance next linkStateCost =
        update (toNat ∘ spf.distance) next ((toNat ∘ spf.distance) vertex + cost) := by
    rw [comp_update, sum]
    rfl
  refine ⟨joinVertex_treeVertices _ _, fun relaxed growing => ?_⟩
  refine ⟨alsoRelaxed _ _ _ _, ?_, fun _ _ _ => .inl, fun target paid same => .inr ⟨rfl, same⟩⟩
  unfold Spf.joinVertex
  split_ifs with inTree known dearer cheaper
  · exact growing.onTree onTree inTree
  · apply growing.keep onTree known
    rw [gt_iff_lt, lt_def, sum] at dearer
    exact dearer.le
  · rw [Growing, updated]
    apply growing.lower onTree isEdge known
    rw [lt_def, sum] at cheaper
    exact cheaper.le
  · apply growing.keep onTree known
    rw [lt_def, sum] at cheaper
    exact Nat.le_of_not_lt cheaper
  · rw [Growing, updated]
    exact growing.join onTree isEdge inTree known

theorem Relaxes.of_shortest {after : Spf}
    (onTree : vertex ∈ spf.treeVertices) (sameTree : after.treeVertices = spf.treeVertices)
    (relaxes :
      Shortest (Adjacent area) root vertex (spf.distance vertex).toNat →
        Relaxes area root vertex edges spf after) :
    Relaxes area root vertex edges spf after where
  sameTree
  grows relaxed growing := (relaxes (growing.shortest vertex onTree)).grows relaxed growing

/-- The edge that a link stands for. -/
def LinkEdge (area : Area) (routerVertex : RouterLSA) (link : Link)
    (next : OSPFLSA) (cost : Nat) : Prop :=
  link.type ≠ .stubLink ∧ joiningVertex area link = some next ∧
    next.lsAge ≠ MAX_AGE ∧ HasLink next (.router routerVertex) = true ∧ cost = link.linkCost.toNat

theorem processLink_relaxes (noOverflow : NoOverflow area root)
    (onTree : .router routerVertex ∈ spf.treeVertices) (among : link ∈ routerVertex.links) :
    Relaxes area root (.router routerVertex) (LinkEdge area routerVertex link) spf
      (processLink area routerVertex spf link) := by
  rw [processLink]
  by_cases stub : link.type = .stubLink
  · rw [if_pos stub]
    exact .none fun next cost isEdge => isEdge.1 stub
  rw [if_neg stub]
  cases target : joiningVertex area link with
  | none =>
    apply Relaxes.none
    rintro _ _ ⟨_, found, _⟩
    rw [target] at found
    cases found
  | some joining =>
    simp only
    by_cases unfit : joining.lsAge = MAX_AGE ∨ HasLink joining (.router routerVertex) = false
    · rw [if_pos unfit]
      apply Relaxes.none
      rintro _ _ ⟨_, found, notMaxAge, linkBack, _⟩
      rw [target] at found
      cases found
      rcases unfit with old | noLink
      · exact notMaxAge old
      · rw [noLink] at linkBack
        cases linkBack
    · rw [if_neg unfit]
      rw [not_or, Bool.not_eq_false] at unfit
      have isEdge : Adjacent area (.router routerVertex) joining link.linkCost.toNat :=
        .link among stub target unfit.1 unfit.2
      apply Relaxes.of_shortest onTree (joinVertex_treeVertices _ _)
      intro shortest
      have fits := noOverflow _ _ _ _ shortest isEdge
      apply (joinVertex_relaxes onTree isEdge _).mono
      · rintro _ _ ⟨_, found, _, _, rfl⟩
        rw [target] at found
        exact ⟨(Option.some.inj found).symm, rfl⟩
      · rw [BitVec.toNat_add, Nat.mod_eq_of_lt fits]

/-- The edge that an attached router stands for. -/
def AttachedEdge (area : Area) (networkVertex : NetworkLSA)
    (attachedRouter : Nat) (next : OSPFLSA) (cost : Nat) : Prop :=
  ∃ lsa, next = .router lsa ∧
    area.FindRouterLSA attachedRouter = some lsa ∧ lsa.lsAge ≠ MAX_AGE ∧
      HasLink (.router lsa) (.network networkVertex) = true ∧ cost = 0

theorem processAttachedRouter_relaxes (onTree : .network networkVertex ∈ spf.treeVertices)
    (among : attachedRouter ∈ networkVertex.attachedRouters) :
    Relaxes area root (.network networkVertex) (AttachedEdge area networkVertex attachedRouter) spf
      (processAttachedRouter area networkVertex spf attachedRouter) := by
  rw [processAttachedRouter]
  cases target : area.FindRouterLSA attachedRouter with
  | none =>
    apply Relaxes.none
    rintro _ _ ⟨_, _, found, _⟩
    rw [target] at found
    cases found
  | some joining =>
    simp only
    by_cases unfit : joining.lsAge = MAX_AGE ∨
        HasLink (.router joining) (.network networkVertex) = false
    · rw [if_pos unfit]
      apply Relaxes.none
      rintro _ _ ⟨_, _, found, notMaxAge, linkBack, _⟩
      rw [target] at found
      cases found
      rcases unfit with old | noLink
      · exact notMaxAge old
      · rw [noLink] at linkBack
        cases linkBack
    · rw [if_neg unfit]
      rw [not_or, Bool.not_eq_false] at unfit
      have isEdge : Adjacent area (.network networkVertex) (.router joining) 0 :=
        .attached among target unfit.1 unfit.2
      apply (joinVertex_relaxes onTree isEdge rfl).mono
      rintro _ _ ⟨_, rfl, found, _, _, rfl⟩
      rw [target] at found
      exact ⟨by rw [Option.some.inj found], rfl⟩

theorem foldl_relaxes {edges : Item → OSPFLSA → Nat → Prop} {items : List Item}
    (each :
      ∀ spf item, vertex ∈ spf.treeVertices → item ∈ items →
        Relaxes area root vertex (edges item) spf (process spf item))
    (onTree : vertex ∈ spf.treeVertices) :
    Relaxes area root vertex (fun next cost => ∃ item ∈ items, edges item next cost) spf
      (items.foldl process spf) := by
  induction items generalizing spf with
  | nil => exact .none (by simp)
  | cons item rest induction =>
    have first := each _ _ onTree mem_cons_self
    have stillOnTree : vertex ∈ (process spf item).treeVertices := first.sameTree ▸ onTree
    have others := induction
      (fun spf item onTree among => each _ _ onTree (mem_cons_of_mem _ among)) stillOnTree
    refine ⟨others.sameTree.trans first.sameTree, ?_⟩
    intro _ growing
    rcases first.grows _ growing with ⟨_, grown, kept, wanted⟩
    rcases others.grows _ grown with ⟨most, done, keptToo, rest⟩
    refine ⟨most, done, fun source target cost early => keptToo _ _ _ (kept _ _ _ early), ?_⟩
    rintro next cost ⟨other, among, isEdge⟩
    rcases mem_cons.mp among with rfl | later
    · exact keptToo _ _ _ (wanted next cost isEdge)
    · exact rest next cost ⟨other, later, isEdge⟩

theorem processVertex_relaxes (noOverflow : NoOverflow area root)
    (onTree : vertex ∈ spf.treeVertices) :
    Relaxes area root vertex (Adjacent area vertex) spf (processVertex area spf vertex) := by
  cases vertex with
  | router routerVertex =>
    have started :
        Relaxes area root (.router routerVertex)
          (fun next cost => ∃ link ∈ routerVertex.links, LinkEdge area routerVertex link next cost)
          (if routerVertex.vVirtualLinkEndpoint then { spf with transitCapability := true }
          else spf)
          (routerVertex.links.foldl (processLink area routerVertex)
            (if routerVertex.vVirtualLinkEndpoint then { spf with transitCapability := true }
            else spf)) := by
      apply foldl_relaxes
      · intro _ _ onTree among
        exact processLink_relaxes noOverflow onTree among
      · split_ifs <;> exact onTree
    have adjacent :
        ∀ next cost, Adjacent area (.router routerVertex) next cost →
          ∃ link ∈ routerVertex.links, LinkEdge area routerVertex link next cost := by
      intro _ _ isEdge
      cases isEdge with
      | link among notStub target notMaxAge linkBack =>
        exact ⟨_, among, notStub, target, notMaxAge, linkBack, rfl⟩
    have all := started.mono adjacent
    refine ⟨all.sameTree.trans ?_, fun relaxed growing => ?_⟩
    · split_ifs <;> rfl
    · apply all.grows
      split_ifs <;> exact growing
  | network networkVertex =>
    have started :
        Relaxes area root (.network networkVertex)
          (fun next cost => ∃ id ∈ networkVertex.attachedRouters,
            AttachedEdge area networkVertex id next cost) spf
          (networkVertex.attachedRouters.foldl (processAttachedRouter area networkVertex) spf) := by
      apply foldl_relaxes _ onTree
      intro _ _ onTree among
      exact processAttachedRouter_relaxes onTree among
    apply started.mono
    intro _ _ isEdge
    cases isEdge with
    | attached among target notMaxAge linkBack =>
      exact ⟨_, among, _, rfl, target, notMaxAge, linkBack, rfl⟩

end Relaxing

/-! ## The closest candidate -/

section Closest

variable {distance : OSPFLSA → BitVec 64}

/-- What the search knows of the candidates it has seen. -/
structure Best (distance : OSPFLSA → BitVec 64) (candidates : List OSPFLSA)
    (best : OSPFLSA × BitVec 64) : Prop where
  among : best.1 ∈ candidates
  below : best.2 ≤ LS_INFINITY
  finite : best.2 < LS_INFINITY → distance best.1 = best.2

theorem closer_cases (best : OSPFLSA × BitVec 64) (candidate : OSPFLSA) :
    distance candidate < best.2 ∧ closer distance best candidate = (candidate, distance candidate) ∨
      best.2 ≤ distance candidate ∧
        ((closer distance best candidate).1 = best.1 ∨
            distance candidate = best.2 ∧ (closer distance best candidate).1 = candidate) ∧
          (closer distance best candidate).2 = best.2 := by
  unfold closer
  split_ifs with less equal
  · exact .inl ⟨less, rfl⟩
  · refine .inr ⟨not_lt.mp less, ?_⟩
    split
    · exact ⟨.inr ⟨equal, rfl⟩, rfl⟩
    · exact ⟨.inl rfl, rfl⟩
  · exact .inr ⟨not_lt.mp less, .inl rfl, rfl⟩

section

theorem closer_best (sofar : Best distance candidates best) (among : candidate ∈ candidates) :
    Best distance candidates (closer distance best candidate) ∧
      (closer distance best candidate).2 ≤ distance candidate ∧
        (closer distance best candidate).2 ≤ best.2 := by
  rcases closer_cases _ _ with ⟨less, taken⟩ | ⟨notLess, vertex, same⟩
  · rw [taken]
    refine ⟨⟨among, ?_, fun _ => rfl⟩, le_refl _, ?_⟩
    · exact BitVec.le_of_lt (Nat.lt_of_lt_of_le less sofar.below)
    · exact BitVec.le_of_lt less
  · rw [same]
    refine ⟨⟨?_, same ▸ sofar.below, ?_⟩, notLess, le_refl _⟩
    · rcases vertex with kept | ⟨_, taken⟩
      · rw [kept]
        exact sofar.among
      · rwa [taken]
    · intro finite
      rw [same] at finite ⊢
      rcases vertex with kept | ⟨equal, taken⟩
      · rw [kept]
        exact sofar.finite finite
      · rw [taken, equal]

theorem foldl_closer (sofar : Best distance candidates best) {rest : List OSPFLSA}
    (among : ∀ candidate ∈ rest, candidate ∈ candidates) :
    Best distance candidates (rest.foldl (closer distance) best) ∧
      (∀ candidate ∈ rest, (rest.foldl (closer distance) best).2 ≤ distance candidate) ∧
        (rest.foldl (closer distance) best).2 ≤ best.2 := by
  induction rest generalizing best with
  | nil => exact ⟨sofar, by simp, le_refl _⟩
  | cons _ _ induction =>
    rw [forall_mem_cons] at among
    rcases closer_best sofar among.1 with ⟨here, least, lower⟩
    rcases induction here among.2 with ⟨final, others, lowest⟩
    refine ⟨final, ?_, BitVec.le_trans lowest lower⟩
    rw [forall_mem_cons]
    exact ⟨BitVec.le_trans lowest least, others⟩

end

/-- A candidate closer than infinity lets the search find the closest. -/
theorem closestVertex_spec (known : finite ∈ first :: rest)
    (below : distance finite < LS_INFINITY) :
    closestVertex distance first rest ∈ first :: rest ∧
      ∀ candidate ∈ first :: rest,
        (distance (closestVertex distance first rest)).toNat ≤ (distance candidate).toNat := by
  have started : Best distance (first :: rest) (first, LS_INFINITY) :=
    ⟨mem_cons_self, le_refl _, fun impossible => absurd impossible (BitVec.lt_irrefl _)⟩
  rcases foldl_closer started (fun _ => id) with ⟨final, least, _⟩
  refine ⟨final.among, fun candidate among => ?_⟩
  have reached := Nat.lt_of_le_of_lt (least _ known) below
  rw [closestVertex, final.finite reached]
  exact least _ among

end Closest

/-! ## The whole calculation -/

section Calculating

/-- Every shortest distance is below infinity. -/
def Bounded (area : Area) (root : OSPFLSA) : Prop :=
  ∀ vertex total, Shortest (Adjacent area) root vertex total → total < LS_INFINITY.toNat

/-- The tree holds what can be reached, at its least distance. -/
structure IsShortestPathTree (area : Area) (root : OSPFLSA) (spf : Spf) : Prop where
  once : spf.treeVertices.Nodup
  reachable :
    ∀ vertex, vertex ∈ spf.treeVertices ↔ ∃ total, Reaches (Adjacent area) root vertex total
  shortest :
    ∀ vertex ∈ spf.treeVertices, Shortest (Adjacent area) root vertex (spf.distance vertex).toNat

theorem treeVertices_length_le (known : root ∈ area.vertices)
    (growing : Growing area root relaxed spf) : spf.treeVertices.length ≤ area.vertices.length := by
  have once : spf.treeVertices.Nodup := (nodup_append.mp growing.nodup).1
  apply (subperm_of_subset once _).length_le
  intro _ onTree
  exact mem_vertices_of_reaches known (growing.shortest _ onTree).1

/-- The vertices before the last one have been processed. -/
def Processed (area : Area) (relaxed : OSPFLSA → OSPFLSA → Nat → Prop)
    (spf : Spf) (justAddedVertex : OSPFLSA) : Prop :=
  justAddedVertex ∈ spf.treeVertices ∧
    ∀ vertex ∈ spf.treeVertices, vertex ≠ justAddedVertex →
      ∀ next cost, Adjacent area vertex next cost → relaxed vertex next cost

theorem growTree_spec (known : root ∈ area.vertices)
    (bounded : Bounded area root) (noOverflow : NoOverflow area root)
    (growing : Growing area root relaxed spf)
    (processed : Processed area relaxed spf justAddedVertex)
    (enough : area.vertices.length < rounds + spf.treeVertices.length) :
    ∃ result, growTree area rounds spf justAddedVertex = some result ∧
      IsShortestPathTree area root result := by
  induction rounds generalizing spf justAddedVertex relaxed with
  | zero =>
    have bound := treeVertices_length_le known growing
    omega
  | succ _ induction =>
    have relaxes :
        Relaxes area root justAddedVertex (Adjacent area justAddedVertex) spf
          (processVertex area spf justAddedVertex) :=
      processVertex_relaxes noOverflow processed.1
    rcases relaxes.grows _ growing with ⟨more, grown, kept, wanted⟩
    rw [growTree]
    generalize processVertex area spf justAddedVertex = after at *
    have allRelaxed :
        ∀ vertex ∈ after.treeVertices, ∀ next cost,
          Adjacent area vertex next cost → more vertex next cost := by
      intro vertex onTree _ _ isEdge
      rw [relaxes.sameTree] at onTree
      by_cases last : vertex = justAddedVertex
      · rw [last] at isEdge ⊢
        exact wanted _ _ isEdge
      · exact kept _ _ _ (processed.2 _ onTree last _ _ isEdge)
    cases candidates : after.candidateVertices with
    | nil =>
      refine ⟨after, rfl, ?_⟩
      rw [Growing, candidates] at grown
      exact ⟨(nodup_append.mp grown.nodup).1,
        fun vertex => grown.complete allRelaxed, grown.shortest⟩
    | cons first rest =>
      dsimp only
      rw [Growing, candidates] at grown
      rcases (first :: rest).toFinset.exists_min_image
          (toNat ∘ after.distance) ⟨first, by simp⟩ with
        ⟨nearest, among, least⟩
      simp only [mem_toFinset] at among least
      have finite : after.distance nearest < LS_INFINITY :=
        bounded _ _ (grown.shortest_of_least allRelaxed among least)
      rcases closestVertex_spec among finite with ⟨known, closest⟩
      generalize closestVertex after.distance first rest = vertex at *
      have selected :
          Growing area root more
            { after with
              treeVertices := after.treeVertices ++ [vertex]
              candidateVertices := (first :: rest).erase vertex } :=
        grown.select allRelaxed known closest
      apply induction selected
      · refine ⟨mem_append_right _ (mem_singleton_self _), ?_⟩
        intro other onTree notLast
        rw [mem_append, mem_singleton] at onTree
        exact allRelaxed other (onTree.resolve_right notLast)
      · rw [length_append, relaxes.sameTree, length_singleton]
        omega

/--
The calculation ends after at most one round for each LSA, and the tree holds
the vertices that can be reached, each once and at its least distance.
-/
theorem calculates_shortest_path_tree {area : Area} {spfTreeRoot : RouterLSA}
    (inDatabase : area.FindRouterLSA spfTreeRoot.linkStateID = some spfTreeRoot)
    (bounded : Bounded area (.router spfTreeRoot))
    (noOverflow : NoOverflow area (.router spfTreeRoot))
    (distance : OSPFLSA → BitVec 64) (transitCapability : Bool) {rounds : Nat}
    (enough : area.vertices.length ≤ rounds) :
    ∃ spf,
      CalculateShortestPathTree area spfTreeRoot distance transitCapability rounds =
        some spf ∧ IsShortestPathTree area (.router spfTreeRoot) spf := by
  have zero : (toNat ∘ update distance (.router spfTreeRoot) 0) (.router spfTreeRoot) = 0 := by
    rw [comp_apply, update_self]
    rfl
  have started :
      Growing area (.router spfTreeRoot) (fun _ _ _ => False)
        { treeVertices := [.router spfTreeRoot]
          candidateVertices := []
          distance := update distance (.router spfTreeRoot) 0
          transitCapability } :=
    .initial zero
  apply growTree_spec (Area.mem_of_FindRouterLSA inDatabase) bounded noOverflow started
  · refine ⟨mem_singleton_self _, ?_⟩
    intro _ onTree notLast
    exact absurd (mem_singleton.mp onTree) notLast
  · rw [length_singleton]
    omega

end Calculating

/-! ### Three routers, with a link from the third to the second -/

def firstRouter : RouterLSA where
  linkStateID := 1
  links := [{ linkID := 2, linkCost := 5 }, { linkID := 3 }]

def secondRouter : RouterLSA where
  linkStateID := 2
  links := [{ linkID := 1 }, { linkID := 3 }]

def thirdRouter (linkCost : BitVec 64) : RouterLSA where
  linkStateID := 3
  links := [{ linkID := 1 }, { linkID := 2, linkCost }]

def threeRouters (linkCost : BitVec 64) : Area where
  routerLSAs := [firstRouter, secondRouter, thirdRouter linkCost]
  networkLSAs := []
  routerIDs := (by decide : [1, 2, 3].Nodup)
  networkIDs := nodup_nil

section ThreeRouters

theorem threeRouters_vertices
    (path : Reaches (Adjacent (threeRouters linkCost)) (.router firstRouter) vertex total) :
    vertex = .router firstRouter ∨ vertex = .router secondRouter ∨
      vertex = .router (thirdRouter linkCost) := by
  have known : OSPFLSA.router firstRouter ∈ (threeRouters linkCost).vertices := mem_cons_self
  have among := mem_vertices_of_reaches known path
  simpa [Area.vertices, threeRouters] using among

theorem first_to_second :
    Adjacent (threeRouters linkCost) (.router firstRouter) (.router secondRouter) 5 := by
  have among : ({ linkID := 2, linkCost := 5 } : Link) ∈ firstRouter.links := .head _
  exact .link among (by decide) rfl (by decide) rfl

theorem first_to_third :
    Adjacent (threeRouters linkCost) (.router firstRouter) (.router (thirdRouter linkCost)) 1 := by
  have among : ({ linkID := 3 } : Link) ∈ firstRouter.links := .tail _ (.head _)
  have notMaxAge : (OSPFLSA.router (thirdRouter linkCost)).lsAge ≠ MAX_AGE := (by decide : 0 ≠ 3600)
  exact .link among (by decide) rfl notMaxAge rfl

theorem threeRouters_le
    (shortest : Shortest (Adjacent (threeRouters linkCost)) (.router firstRouter) vertex total) :
    total ≤ 5 := by
  rcases threeRouters_vertices shortest.1 with rfl | rfl | rfl
  · exact (shortest.2 0 .root).trans (Nat.zero_le 5)
  · exact shortest.2 _ (.step .root first_to_second)
  · exact (shortest.2 _ (.step .root first_to_third)).trans (by decide)

theorem threeRouters_bounded : Bounded (threeRouters linkCost) (.router firstRouter) := by
  intro _ _ shortest
  exact (threeRouters_le shortest).trans_lt (by decide)

theorem calculates_shortest_path_tree_three_routers :
    ∃ spf,
      CalculateShortestPathTree (threeRouters 2) firstRouter 0 false 3 = some spf ∧
        IsShortestPathTree (threeRouters 2) (.router firstRouter) spf := by
  have noOverflow : NoOverflow (threeRouters 2) (.router firstRouter) := by
    intro _ _ _ cost shortest isEdge
    have low := threeRouters_le shortest
    have cheap : cost ≤ 5 := by
      rcases threeRouters_vertices shortest.1 with rfl | rfl | rfl <;>
        · cases isEdge with
          | link among =>
            revert among
            simp only [firstRouter, secondRouter, thirdRouter, mem_cons, not_mem_nil, or_false]
            rintro (rfl | rfl) <;> decide
    omega
  exact calculates_shortest_path_tree rfl threeRouters_bounded noOverflow 0 _ (by decide)

theorem linkID_of_joiningVertex
    (target : joiningVertex area link = some (.router lsa)) : link.linkID = lsa.linkStateID := by
  rw [joiningVertex] at target
  split_ifs at target with transit
  · rcases Option.map_eq_some_iff.mp target with ⟨_, _, impossible⟩
    cases impossible
  · rcases Option.map_eq_some_iff.mp target with ⟨_, found, same⟩
    cases same
    have sameID := find?_some found
    exact (of_decide_eq_true sameID).symm

theorem secondRouter_costs
    (path :
      Reaches (Adjacent (threeRouters linkCost)) (.router firstRouter)
        (.router secondRouter) total) :
    5 ≤ total ∨ linkCost.toNat ≤ total := by
  cases path with
  | step path last =>
    rcases threeRouters_vertices path with rfl | rfl | rfl <;>
      · cases last with
        | link among _ target =>
          have leadsThere := linkID_of_joiningVertex target
          simp only [firstRouter, secondRouter, thirdRouter,
            mem_cons, not_mem_nil, or_false] at among
          rcases among with rfl | rfl <;> simp [secondRouter] at leadsThere ⊢

/-- A sum that wraps around makes a distance 0 that is 5. -/
theorem wrapped_sum_shortens_path :
    ¬ ∀ area spfTreeRoot distance transitCapability rounds,
      Area.FindRouterLSA area spfTreeRoot.linkStateID = some spfTreeRoot →
        Bounded area (.router spfTreeRoot) →
          area.vertices.length ≤ rounds →
            ∃ spf,
              CalculateShortestPathTree area spfTreeRoot distance transitCapability rounds =
                some spf ∧ IsShortestPathTree area (.router spfTreeRoot) spf := by
  intro claim
  rcases claim (threeRouters (allOnes 64)) _ 0 _ 3
      rfl threeRouters_bounded (by decide) with ⟨spf, calculated, correct⟩
  have wrapped :
      (CalculateShortestPathTree (threeRouters (allOnes 64)) firstRouter 0 false 3).map
        (fun spf => decide (.router secondRouter ∈ spf.treeVertices ∧
          spf.distance (.router secondRouter) = 0)) = some true := by
    decide +kernel
  rw [calculated, Option.map_some, Option.some.injEq, decide_eq_true_eq] at wrapped
  have shortest := correct.shortest _ wrapped.1
  rw [wrapped.2] at shortest
  rcases secondRouter_costs shortest.1 with five | huge
  · exact absurd five (by decide)
  · exact absurd huge (by decide)

end ThreeRouters

end OmnetDsi.Ospf.ShortestPathTree
