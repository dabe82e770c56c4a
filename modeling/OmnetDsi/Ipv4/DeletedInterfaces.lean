import OmnetDsi.Ipv4.RouteLifetimes

/-!
# Routes of deleted interfaces

When an interface is deleted, the routing table is notified and iterates over
the unicast routes.  A multicast route that uses the interface stays, with a
pointer to it; `deleted_interfaces_unreferenced` shows that nothing else goes
wrong.
-/

namespace OmnetDsi.Ipv4.DeletedInterfaces

open Contract.Addresses Ipv4.RoutingTables Ipv4.RouteLifetimes Ipv4.RouteLifetimes.Tables
open Library.Transition

/-! ## What a deletion should do -/

/-- No route that is held uses an interface that has been deleted. -/
def NoneDeleted (tables : Tables) : Prop :=
  ∀ e ∈ tables.objects, ∀ i, e.route.interface = some i → tables.idToInterface[i]? ≠ some none

/-- Deleting an interface removes its routes and keeps all others. -/
def CleansUp (tables : Tables) (initializing : Bool) (entry : Nat) : Prop :=
  ∀ next, tables.deleteInterface initializing entry = .ok next →
    (∀ e ∈ next.objects, e.route.interface ≠ some entry) ∧
      ∀ e, e.route.interface ≠ some entry →
        (e ∈ tables.routes → e ∈ next.routes) ∧
          (e ∈ tables.multicastRoutes → e ∈ next.multicastRoutes)

/-! ## What it does -/

/-- Nothing but unicast routes uses the interface, after initialization. -/
def OnlyUnicast (tables : Tables) (initializing : Bool) (entry : Nat) : Prop :=
  (∀ e ∈ tables.multicastRoutes, e.route.interface ≠ some entry) ∧
    (initializing = true → ∀ e ∈ tables.routes, e.route.interface ≠ some entry)

/-- A route is added for an interface that has not been deleted. -/
def Admitted (tables : Tables) : Event → Prop
  | .addRoute route => ∀ i, route.interface = some i → tables.idToInterface[i]? ≠ some none
  | .deleteInterface initializing entry => OnlyUnicast tables initializing entry
  | _ => True

variable {tables : Tables}

theorem deleteInterface_routes (sound : Sound tables)
    (served : tables.deleteInterface initializing entry = .ok next) :
    next.routes = (if initializing then tables.routes
        else tables.routes.filter fun e => e.route.interface ≠ some entry) ∧
      next.multicastRoutes = tables.multicastRoutes ∧
      next.idToInterface = tables.idToInterface.set entry none := by
  rcases deleteInterface_eq_ok served with ⟨_, rfl⟩
  have cleared := deleteInterfaceRoutes_cleared sound entry
  cases initializing with
  | true => exact ⟨rfl, rfl, rfl⟩
  | false =>
    refine ⟨cleared.routes, cleared.multicastRoutes, ?_⟩
    exact congrArg (fun slots => slots.set entry none) cleared.idToInterface

theorem cleansUp_iff (initializing : Bool) (sound : Sound tables)
    (present : tables.idToInterface[entry]? = some (some ie)) :
    CleansUp tables initializing entry ↔ OnlyUnicast tables initializing entry := by
  have served : ∃ next, tables.deleteInterface initializing entry = .ok next := by
    rw [Tables.deleteInterface, present]
    exact ⟨_, rfl⟩
  constructor
  · intro cleans
    rcases served with ⟨_, served⟩
    rcases deleteInterface_routes sound served with ⟨routes, multicastRoutes, _⟩
    have gone := (cleans _ served).1
    constructor
    · intro e member
      apply gone e
      apply List.mem_append_right
      rwa [multicastRoutes]
    · rintro rfl e member
      apply gone e
      apply List.mem_append_left
      rwa [routes]
  · intro only _ served
    rcases deleteInterface_routes sound served with ⟨routes, multicastRoutes, _⟩
    constructor
    · intro e member
      rcases List.mem_append.mp member with unicast | multicast
      · rw [routes] at unicast
        split_ifs at unicast with early
        · exact only.2 early e unicast
        · exact of_decide_eq_true (List.mem_filter.mp unicast).2
      · rw [multicastRoutes] at multicast
        exact only.1 e multicast
    · intro _ elsewhere
      constructor
      · intro member
        rw [routes]
        split_ifs with early
        · exact member
        · exact List.mem_filter.mpr ⟨member, decide_eq_true elsewhere⟩
      · intro member
        rwa [multicastRoutes]

/-! ## Runs -/

theorem NoneDeleted.changed (clean : NoneDeleted tables) (changed : Changed tables next new)
    (present : ∀ e, new e → ∀ i, e.route.interface = some i →
      tables.idToInterface[i]? ≠ some none) :
    NoneDeleted next := by
  intro e member i uses
  rw [changed.idToInterface]
  rcases changed.objects e member with old | made
  · exact clean e old i uses
  · exact present e made i uses

theorem not_deleted_of_present (e : RouteObject)
    (made : ∃ i ie, tables.idToInterface[i]? = some (some ie) ∧ e.route.interface = some i)
    (j : Nat) (uses : e.route.interface = some j) : tables.idToInterface[j]? ≠ some none := by
  rcases made with ⟨_, _, present, same⟩
  rw [uses] at same
  cases same
  rw [present]
  simp

theorem noneDeleted_step (clean : NoneDeleted tables) (sound : Sound tables)
    (admitted : Admitted tables event) (step : Step tables event next) : NoneDeleted next := by
  cases event with
  | addRoute _ =>
    apply clean.changed (addRoute_changed sound step)
    rintro e rfl i uses
    exact admitted i uses
  | deleteRoute _ =>
    cases step
    apply clean.changed ((deleteRoute_removed sound _).changed fun _ => False)
    intro _ _
    contradiction
  | updateNetmaskRoutes =>
    cases step
    exact clean.changed (updateNetmaskRoutes_changed sound) not_deleted_of_present
  | deleteInterfaceRoutes _ =>
    cases step
    apply clean.changed ((deleteInterfaceRoutes_cleared sound _).changed fun _ => False)
    intro _ _
    contradiction
  | findBestMatchingRoute _ =>
    cases step
    apply clean.changed (findBestMatchingRoute_sound sound _).2
    intro _ _
    contradiction
  | receiveChangeNotification _ _ =>
    cases step
    exact clean.changed (receiveChangeNotification_changed _ sound _) not_deleted_of_present
  | configureInterface _ _ =>
    rcases configureInterface_eq_ok step with ⟨_, rfl⟩
    intro e member i uses
    rw [List.getElem?_set]
    split_ifs with same inside
    · simp
    · simp
    · exact clean e member i uses
  | addInterface initializing ie =>
    cases step
    have before : NoneDeleted
        { tables with
          idToInterface := tables.idToInterface ++ [some ie] } := by
      intro e member i uses
      rw [List.getElem?_append]
      split_ifs with inside
      · exact clean e member i uses
      · cases i - tables.idToInterface.length <;> simp
    exact before.changed (receiveChangeNotification_changed initializing (sound.interfaces _) _)
      not_deleted_of_present
  | deleteInterface initializing _ =>
    rcases deleteInterface_eq_ok step with ⟨⟨_, present⟩, _⟩
    have removed := (cleansUp_iff initializing sound present).mpr admitted next step
    rcases deleteInterface_routes sound step with ⟨routes, multicastRoutes, interfaces⟩
    intro e member i uses
    rw [interfaces, List.getElem?_set]
    split_ifs with same inside
    · subst same
      exact absurd uses (removed.1 e member)
    · simp
    · refine clean e ?_ i uses
      rcases List.mem_append.mp member with unicast | multicast
      · apply List.mem_append_left
        rw [routes] at unicast
        split_ifs at unicast
        · exact unicast
        · exact List.mem_of_mem_filter unicast
      · apply List.mem_append_right
        rwa [← multicastRoutes]

/--
While interfaces are deleted that only unicast routes use, no route uses a
deleted interface; and this is exactly when a deletion removes all routes of
the interface, and no others.
-/
theorem deleted_interfaces_unreferenced {events : List Event} {tables : Tables}
    (run : Run (guardedStep Admitted Step) {} events tables) :
    NoneDeleted tables ∧
      ∀ initializing entry ie,
        tables.idToInterface[entry]? = some (some ie) →
          (CleansUp tables initializing entry ↔ OnlyUnicast tables initializing entry) := by
  have preserved : ∀ state event next,
      NoneDeleted state ∧ Sound state → Admitted state event →
        Step state event next → NoneDeleted next ∧ Sound next := by
    intro _ _ _ holds admitted step
    exact ⟨noneDeleted_step holds.1 holds.2 admitted step, sound_step holds.2 step⟩
  have both : NoneDeleted tables ∧ Sound tables := by
    apply Run.guarded preserved run
    refine ⟨?_, sound_start⟩
    intro _ _
    contradiction
  refine ⟨both.1, ?_⟩
  intro _ _ _ present
  exact cleansUp_iff _ both.2 present

/-! ## A multicast route -/

/-- An interface, and a multicast route that uses it. -/
def multicastEvents : List Event :=
  [.addInterface false ⟨false, .set 10 0 0 1, .set 255 255 255 255⟩,
    .addRoute { host := .set 224 0 1 0, netmask := .set 255 255 255 0, interface := some 0 }]

def multicastTables : Tables where
  idToInterface := [some ⟨false, .set 10 0 0 1, .set 255 255 255 255⟩]
  multicastRoutes :=
    [⟨0, { host := .set 224 0 1 0, netmask := .set 255 255 255 0, interface := some 0 }⟩]
  allocated := 1

theorem multicastTables_reached : Run Step {} multicastEvents multicastTables :=
  Run.of_foldlM (by decide +kernel)

theorem deleted_interfaces_unreferenced_multicast :
    NoneDeleted multicastTables ∧ ¬CleansUp multicastTables false 0 := by
  have run : Run (guardedStep Admitted Step) {} multicastEvents multicastTables := by
    rcases Run.cons_iff.mp multicastTables_reached with ⟨_, head, rest⟩
    rcases Run.cons_iff.mp rest with ⟨_, added, final⟩
    rw [Run.nil_iff.mp final]
    refine .next ⟨trivial, head⟩ (.next ⟨?_, added⟩ (.idle _))
    intro _ uses
    cases head
    cases uses
    decide +kernel
  have holds := deleted_interfaces_unreferenced run
  refine ⟨holds.1, ?_⟩
  rw [holds.2 _ 0 _ rfl]
  intro only
  exact only.1 _ (List.mem_singleton_self _) rfl

/-- After the deletion the multicast route points to the interface. -/
theorem multicast_route_dangles :
    ¬∀ events tables, Run Step {} events tables → NoneDeleted tables := by
  intro always
  have sound := sound_run multicastTables_reached
  have served : ∃ next, multicastTables.deleteInterface false 0 = .ok next := ⟨_, rfl⟩
  rcases served with ⟨next, served⟩
  rcases deleteInterface_routes sound served with ⟨_, multicastRoutes, interfaces⟩
  have run : Run Step {} (multicastEvents ++ [.deleteInterface false 0]) next :=
    multicastTables_reached.snoc served
  have kept : (multicastTables.multicastRoutes.head (by decide)) ∈ next.objects := by
    apply List.mem_append_right
    rw [multicastRoutes]
    exact List.head_mem _
  apply always _ _ run _ kept 0 rfl
  rw [interfaces]
  rfl

end OmnetDsi.Ipv4.DeletedInterfaces
