import OmnetDsi.Arp.Resolution
import OmnetDsi.Library.SortedMaps
import OmnetDsi.Library.Transition

/-!
# Address learning in Ethernet switches

A switch files the port on which a source address was seen last, and sends a
frame to the port of its destination, or to all ports but the one it came
from.  Aged entries are thrown out when the table is full and when they are
looked up; a full table without aged entries loses its oldest one.

`Learned` says what the table knows of the frames so far.
-/

namespace OmnetDsi.Linklayer.AddressLearning

open List
open Library.SortedMaps Library.Transition
open OmnetDsi.Arp.Resolution (MACAddress broadcastAddress)

/-! ## The address table -/

/-- `compareTo` compares the bytes from the first one on. -/
instance : LinearOrder MACAddress where
  le left right := left.address.toNat ≤ right.address.toNat
  lt left right := left.address.toNat < right.address.toNat
  le_refl mac := le_refl mac.address.toNat
  le_trans _ _ _ := Nat.le_trans
  lt_iff_le_not_ge _ _ := Nat.lt_iff_le_and_not_ge
  le_antisymm := by
    rintro ⟨left⟩ ⟨right⟩ before after
    exact congrArg MACAddress.mk (BitVec.eq_of_toNat_eq (Nat.le_antisymm before after))
  le_total left right := Nat.le_total left.address.toNat right.address.toNat
  toDecidableLE left right := Nat.decLe left.address.toNat right.address.toNat
  toDecidableLT left right := Nat.decLt left.address.toNat right.address.toNat
  toDecidableEq := inferInstance

def isBroadcast (mac : MACAddress) : Bool :=
  mac = broadcastAddress

structure AddressEntry where
  portno : Nat
  insertionTime : Int

/-- A map in the order of the addresses. -/
structure AddressTable where
  entries : List (MACAddress × AddressEntry)
  sorted : Sorted entries

/-- Times are counted in picoseconds. -/
def SECOND : Int := 1000000000000

structure MACRelayUnit where
  numPorts : Nat
  addressTableSize : Nat
  agingTime : Int

/-- The parameters of the module are put right. -/
def configure (numPorts : Nat) (addressTableSize agingTime : Int) : MACRelayUnit where
  numPorts
  addressTableSize := (if addressTableSize ≥ 0 then addressTableSize else 0).toNat
  agingTime := if agingTime > 0 then agingTime else 10 * SECOND

def aged (relay : MACRelayUnit) (now : Int) (entry : AddressEntry) : Bool :=
  entry.insertionTime + relay.agingTime ≤ now

namespace AddressTable

def empty : AddressTable where
  entries := []
  sorted := Pairwise.nil

def find (table : AddressTable) (address : MACAddress) : Option AddressEntry :=
  (table.entries.find? fun entry => entry.1 = address).map Prod.snd

def filter (table : AddressTable) (keep : MACAddress × AddressEntry → Bool) : AddressTable where
  entries := table.entries.filter keep
  sorted := table.sorted.filter keep

def erase (table : AddressTable) (address : MACAddress) : AddressTable :=
  table.filter fun entry => entry.1 ≠ address

/-- A new entry. -/
def insert (table : AddressTable) (address : MACAddress) (entry : AddressEntry) : AddressTable where
  entries := insertNew address entry table.entries
  sorted := table.sorted.insertNew address entry

/-- The entry of the address is updated. -/
def update (table : AddressTable) (address : MACAddress) (entry : AddressEntry) : AddressTable where
  entries := table.entries.map fun filed => if filed.1 = address then (filed.1, entry) else filed
  sorted := by
    refine Pairwise.map _ ?_ table.sorted
    intro left right before
    split_ifs
    all_goals exact before

end AddressTable

def removeAgedEntriesFromTable (relay : MACRelayUnit) (now : Int)
    (table : AddressTable) : AddressTable :=
  table.filter fun entry => !aged relay now entry.2

/-- The loop over the entries, with the oldest one found and its time. -/
def oldest (found : Option MACAddress) (oldestInsertTime : Int) :
    List (MACAddress × AddressEntry) → Option MACAddress
  | [] => found
  | entry :: rest =>
    if entry.2.insertionTime < oldestInsertTime then
      oldest (some entry.1) entry.2.insertionTime rest
    else oldest found oldestInsertTime rest

def removeOldestTableEntry (now : Int) (table : AddressTable) : AddressTable :=
  match oldest none (now + SECOND) table.entries with
  | some address => table.erase address
  | none => table

/-- Room is made in a full table. -/
def makeRoom (relay : MACRelayUnit) (now : Int) (table : AddressTable) : AddressTable :=
  if relay.addressTableSize ≠ 0 ∧ table.entries.length = relay.addressTableSize then
    let table := removeAgedEntriesFromTable relay now table
    if table.entries.length = relay.addressTableSize then removeOldestTableEntry now table
    else table
  else table

def updateTableWithAddress (relay : MACRelayUnit) (now : Int)
    (table : AddressTable) (address : MACAddress) (portno : Nat) : AddressTable :=
  let entry : AddressEntry := { portno, insertionTime := now }
  match table.find address with
  | none => (makeRoom relay now table).insert address entry
  | some _ => table.update address entry

/-- The port, or -1; an aged entry is deleted. -/
def getPortForAddress (relay : MACRelayUnit) (now : Int) (table : AddressTable)
    (address : MACAddress) : AddressTable × Int :=
  match table.find address with
  | none => (table, -1)
  | some entry =>
    if aged relay now entry then (table.erase address, -1) else (table, entry.portno)

/-! ## Frames -/

/-- A frame that is handled, with the port on which it arrived. -/
structure Arrival where
  time : Int
  src : MACAddress
  dest : MACAddress
  inputport : Nat

/-- The ports to which a frame is sent. -/
def broadcastFrame (relay : MACRelayUnit) (inputport : Nat) : List Nat :=
  (range relay.numPorts).filter (· ≠ inputport)

def learn (relay : MACRelayUnit) (table : AddressTable) (frame : Arrival) : AddressTable :=
  updateTableWithAddress relay frame.time table frame.src frame.inputport

def dispatch (relay : MACRelayUnit) (table : AddressTable) (frame : Arrival) :
    AddressTable × List Nat :=
  if isBroadcast frame.dest then (table, broadcastFrame relay frame.inputport)
  else
    let (table, outputport) := getPortForAddress relay frame.time table frame.dest
    if (frame.inputport : Int) = outputport then (table, [])
    else if outputport ≥ 0 then (table, [outputport.toNat])
    else (table, broadcastFrame relay frame.inputport)

def handleAndDispatchFrame (relay : MACRelayUnit) (table : AddressTable)
    (frame : Arrival) : AddressTable × List Nat :=
  dispatch relay (learn relay table frame) frame

/-- The table, the time, and the ports to which the last frame was sent. -/
structure State where
  table : AddressTable
  now : Int
  ports : List Nat

def start : State where
  table := .empty
  now := 0
  ports := []

def advance (relay : MACRelayUnit) (state : State) (frame : Arrival) : State where
  table := (handleAndDispatchFrame relay state.table frame).1
  now := frame.time
  ports := (handleAndDispatchFrame relay state.table frame).2

/-- Frames arrive one after the other on ports of the switch. -/
inductive Step (relay : MACRelayUnit) : State → Arrival → State → Prop where
  | frame {state : State} {frame : Arrival} (later : state.now ≤ frame.time)
      (port : frame.inputport < relay.numPorts) : Step relay state frame (advance relay state frame)

/-! ## What the table knows -/

/-- The entry is about the most recent frame with the source address. -/
def MostRecent (history : List Arrival) (address : MACAddress) (entry : AddressEntry) : Prop :=
  ∃ before frame after,
    history = before ++ frame :: after ∧ frame.src = address ∧
      frame.inputport = entry.portno ∧ frame.time = entry.insertionTime ∧
      ∀ later ∈ after, later.src ≠ address

/-- What holds of the table after the frames so far. -/
structure Learned (relay : MACRelayUnit) (history : List Arrival) (now : Int)
    (table : AddressTable) : Prop where
  size : relay.addressTableSize ≠ 0 → table.entries.length ≤ relay.addressTableSize
  recent : ∀ filed ∈ table.entries, MostRecent history filed.1 filed.2
  past : ∀ filed ∈ table.entries, filed.2.insertionTime ≤ now
  port : ∀ filed ∈ table.entries, filed.2.portno < relay.numPorts

theorem find_eq_none_iff {table : AddressTable} :
    table.find address = none ↔ ∀ filed ∈ table.entries, filed.1 ≠ address := by
  simp [AddressTable.find]

theorem find_eq_some_iff {table : AddressTable} :
    table.find address = some entry ↔ (address, entry) ∈ table.entries := by
  rw [AddressTable.find, Option.map_eq_some_iff]
  constructor
  · rintro ⟨filed, found, rfl⟩
    have same : filed.1 = address := by simpa using find?_some found
    rw [← same]
    exact mem_of_find?_eq_some found
  · intro member
    cases found : table.entries.find? fun filed => filed.1 = address with
    | none =>
      have other := find?_eq_none.mp found _ member
      simp at other
    | some filed =>
      refine ⟨filed, rfl, ?_⟩
      have same : filed.1 = address := by simpa using find?_some found
      have among := mem_of_find?_eq_some found
      rw [table.sorted.eq_of_key_eq among member same]

section Removing

theorem Learned.filter (learned : Learned relay history now table)
    (keep : MACAddress × AddressEntry → Bool) : Learned relay history now (table.filter keep) where
  size limited := (length_filter_le _ _).trans (learned.size limited)
  recent filed member := learned.recent filed (mem_filter.mp member).1
  past filed member := learned.past filed (mem_filter.mp member).1
  port filed member := learned.port filed (mem_filter.mp member).1

theorem oldest_mem (found : Option MACAddress) (time : Int)
    (same : oldest found time entries = some address) :
    found = some address ∨ ∃ entry, (address, entry) ∈ entries := by
  induction entries generalizing found time with
  | nil => exact .inl same
  | cons entry _ induction =>
    unfold oldest at same
    split_ifs at same
    · rcases induction _ _ same with first | ⟨other, member⟩
      · cases first
        exact .inr ⟨entry.2, mem_cons_self ..⟩
      · exact .inr ⟨other, mem_cons_of_mem _ member⟩
    · rcases induction _ _ same with first | ⟨other, member⟩
      · exact .inl first
      · exact .inr ⟨other, mem_cons_of_mem _ member⟩

theorem oldest_isSome (address : MACAddress) (time : Int)
    (entries : List (MACAddress × AddressEntry)) :
    (oldest (some address) time entries).isSome = true := by
  induction entries generalizing address time with
  | nil => rfl
  | cons _ _ induction =>
    unfold oldest
    split_ifs
    all_goals exact induction _ _

theorem Learned.removeOldest (learned : Learned relay history now table)
    (nonempty : table.entries ≠ []) :
    Learned relay history now (removeOldestTableEntry now table) ∧
      (removeOldestTableEntry now table).entries.length < table.entries.length := by
  unfold removeOldestTableEntry
  cases same : oldest none (now + SECOND) table.entries with
  | none =>
    cases entries : table.entries with
    | nil => exact absurd entries nonempty
    | cons entry rest =>
      have past := learned.past entry (by simp [entries])
      have older : entry.2.insertionTime < now + SECOND := by
        unfold SECOND
        omega
      rw [entries, oldest, if_pos older] at same
      have some := oldest_isSome entry.1 entry.2.insertionTime rest
      rw [same] at some
      cases some
  | some _ =>
    refine ⟨learned.filter _, ?_⟩
    rcases oldest_mem _ _ same with none | ⟨_, member⟩
    · cases none
    · apply length_filter_lt_length_iff_exists.mpr
      exact ⟨_, member, by simp⟩

theorem Learned.makeRoom (learned : Learned relay history now table) :
    Learned relay history now (makeRoom relay now table) ∧
      (relay.addressTableSize ≠ 0 →
        (AddressLearning.makeRoom relay now table).entries.length < relay.addressTableSize) := by
  dsimp only [AddressLearning.makeRoom]
  split_ifs with full still
  · have kept := learned.filter fun entry => !aged relay now entry.2
    have nonempty : (removeAgedEntriesFromTable relay now table).entries ≠ [] := by
      intro empty
      rw [empty] at still
      exact full.1 still.symm
    have removed := kept.removeOldest nonempty
    exact ⟨removed.1, fun _ => still ▸ removed.2⟩
  · have kept := learned.filter fun entry => !aged relay now entry.2
    exact ⟨kept, fun limited => lt_of_le_of_ne (kept.size limited) still⟩
  · refine ⟨learned, fun limited => ?_⟩
    exact lt_of_le_of_ne (learned.size limited) fun same => full ⟨limited, same⟩

theorem mem_of_mem_removeOldest
    (member : filed ∈ (removeOldestTableEntry now table).entries) : filed ∈ table.entries := by
  unfold removeOldestTableEntry at member
  split at member
  · exact (mem_filter.mp member).1
  · exact member

theorem mem_of_mem_makeRoom
    (member : filed ∈ (makeRoom relay now table).entries) : filed ∈ table.entries := by
  dsimp only [AddressLearning.makeRoom] at member
  split_ifs at member
  · exact (mem_filter.mp (mem_of_mem_removeOldest member)).1
  · exact (mem_filter.mp member).1
  · exact member

end Removing

/-! ## Learning -/

section Learning

variable {relay : MACRelayUnit}
variable {history : List Arrival}
variable {frame : Arrival}

theorem MostRecent.later (recent : MostRecent history address entry) (other : frame.src ≠ address) :
    MostRecent (history ++ [frame]) address entry := by
  rcases recent with ⟨before, latest, after, split, src, port, time, rest⟩
  refine ⟨before, latest, after ++ [frame], ?_, src, port, time, ?_⟩
  · rw [split, append_assoc, cons_append]
  · intro _ member
    rcases mem_append.mp member with among | last
    · exact rest _ among
    · rwa [mem_singleton.mp last]

theorem mostRecent_last :
    MostRecent (history ++ [frame]) frame.src
      { portno := frame.inputport, insertionTime := frame.time } :=
  ⟨history, frame, [], rfl, rfl, rfl, rfl, nofun⟩

/-- A frame is learned; what the table knew of other addresses stays. -/
theorem Learned.learn (learned : Learned relay history now table)
    (later : now ≤ frame.time) (port : frame.inputport < relay.numPorts) :
    Learned relay (history ++ [frame]) frame.time (learn relay table frame) := by
  dsimp only [AddressLearning.learn, updateTableWithAddress]
  cases found : table.find frame.src with
  | none =>
    have today : Learned relay history frame.time table :=
      { learned with past := fun filed member => (learned.past _ member).trans later }
    have made := today.makeRoom
    have others : ∀ filed ∈ (AddressLearning.makeRoom relay frame.time table).entries,
        filed.1 ≠ frame.src :=
      fun filed member => find_eq_none_iff.mp found _ (mem_of_mem_makeRoom member)
    have inserted : ∀ filed,
        filed ∈
            ((AddressLearning.makeRoom relay frame.time table).insert frame.src
              { portno := frame.inputport, insertionTime := frame.time }).entries ↔
          filed = (frame.src, { portno := frame.inputport, insertionTime := frame.time }) ∨
            filed ∈ (AddressLearning.makeRoom relay frame.time table).entries :=
      fun filed => mem_insertNew fun other among same => absurd same (others _ among)
    refine ⟨?_, ?_, ?_, ?_⟩
    · intro limited
      exact (length_insertNew_le ..).trans (made.2 limited)
    · intro _ member
      rcases (inserted _).mp member with rfl | among
      · exact mostRecent_last
      · exact (made.1.recent _ among).later (Ne.symm (others _ among))
    · intro filed member
      rcases (inserted filed).mp member with rfl | among
      · exact le_rfl
      · exact made.1.past filed among
    · intro filed member
      rcases (inserted filed).mp member with rfl | among
      · exact port
      · exact made.1.port filed among
  | some _ =>
    refine ⟨?_, ?_, ?_, ?_⟩
    · intro limited
      rw [AddressTable.update, length_map]
      exact learned.size limited
    · intro _ member
      rcases mem_map.mp member with ⟨old, among, rfl⟩
      split_ifs with same
      · rw [same]
        exact mostRecent_last
      · exact (learned.recent old among).later (Ne.symm same)
    · intro _ member
      rcases mem_map.mp member with ⟨old, among, rfl⟩
      split_ifs
      · exact le_rfl
      · exact (learned.past old among).trans later
    · intro _ member
      rcases mem_map.mp member with ⟨old, among, rfl⟩
      split_ifs
      · exact port
      · exact learned.port old among

theorem Learned.dispatch (learned : Learned relay history now table) (frame : Arrival) :
    Learned relay history now (AddressLearning.dispatch relay table frame).1 := by
  have looked :
      Learned relay history now (getPortForAddress relay frame.time table frame.dest).1 := by
    unfold getPortForAddress
    split
    · exact learned
    · split_ifs
      · exact learned.filter _
      · exact learned
  dsimp only [AddressLearning.dispatch]
  split_ifs
  · exact learned
  · exact looked
  · exact looked
  · exact looked

theorem Learned.step {next : State} (learned : Learned relay history state.now state.table)
    (taken : Step relay state frame next) :
    Learned relay (history ++ [frame]) next.now next.table := by
  cases taken with
  | frame later port => exact (learned.learn later port).dispatch _

end Learning

/-! ## Forwarding -/

/-- Where a frame is sent, by the table that has learned its source. -/
structure Forwarded (relay : MACRelayUnit) (history : List Arrival)
    (table : AddressTable) (frame : Arrival) (ports : List Nat) : Prop where
  once : ports.Nodup
  notBack : frame.inputport ∉ ports
  flooded :
    isBroadcast frame.dest = true ∨
        (∀ filed ∈ table.entries, filed.1 = frame.dest → aged relay frame.time filed.2 = true) →
      ∀ port, port ∈ ports ↔ port < relay.numPorts ∧ port ≠ frame.inputport
  learned :
    isBroadcast frame.dest = false →
      ∀ entry, (frame.dest, entry) ∈ table.entries →
        aged relay frame.time entry = false →
          MostRecent history frame.dest entry ∧
            entry.portno < relay.numPorts ∧
              ∀ port, port ∈ ports ↔ port = entry.portno ∧ port ≠ frame.inputport

section Forwarding

theorem mem_broadcastFrame :
    port ∈ broadcastFrame relay inputport ↔ port < relay.numPorts ∧ port ≠ inputport := by
  simp [broadcastFrame]

theorem nodup_broadcastFrame (inputport : Nat) : (broadcastFrame relay inputport).Nodup :=
  nodup_range.filter _

theorem dispatch_flooded
    (unknown :
      isBroadcast frame.dest = true ∨
        (∀ filed ∈ table.entries, filed.1 = frame.dest → aged relay frame.time filed.2 = true)) :
    (dispatch relay table frame).2 = broadcastFrame relay frame.inputport := by
  unfold dispatch
  cases broadcast : isBroadcast frame.dest with
  | true => rfl
  | false =>
    have old : ∀ filed ∈ table.entries, filed.1 = frame.dest →
        aged relay frame.time filed.2 = true := by
      rcases unknown with always | old
      · rw [broadcast] at always
        cases always
      · exact old
    have port : (getPortForAddress relay frame.time table frame.dest).2 = -1 := by
      unfold getPortForAddress
      cases found : table.find frame.dest with
      | none => rfl
      | some _ =>
        have passed := old _ (find_eq_some_iff.mp found) rfl
        dsimp only at passed ⊢
        rw [if_pos passed]
    rw [if_neg Bool.false_ne_true]
    dsimp only
    rw [port, if_neg (by omega), if_neg (by omega)]

theorem dispatch_learned (broadcast : isBroadcast frame.dest = false)
    (filed : (frame.dest, entry) ∈ table.entries) (young : aged relay frame.time entry = false) :
    (dispatch relay table frame).2 =
      if frame.inputport = entry.portno then [] else [entry.portno] := by
  have looked :
      getPortForAddress relay frame.time table frame.dest = (table, (entry.portno : Int)) := by
    rw [getPortForAddress, find_eq_some_iff.mpr filed]
    dsimp only
    rw [young, if_neg Bool.false_ne_true]
  rw [dispatch, broadcast, if_neg Bool.false_ne_true, looked]
  dsimp only
  split_ifs with same back back
  · rfl
  · omega
  · omega
  · simp
  · omega
  · omega

theorem Learned.forwarded (learned : Learned relay history now table) :
    Forwarded relay history table frame (AddressLearning.dispatch relay table frame).2 := by
  by_cases unknown :
      isBroadcast frame.dest = true ∨
        (∀ filed ∈ table.entries, filed.1 = frame.dest → aged relay frame.time filed.2 = true)
  · rw [dispatch_flooded unknown]
    refine ⟨nodup_broadcastFrame _, ?_, fun _ _ => mem_broadcastFrame, ?_⟩
    · intro back
      exact (mem_broadcastFrame.mp back).2 rfl
    · intro broadcast _ filed young
      rcases unknown with always | old
      · rw [broadcast] at always
        cases always
      · rw [old _ filed rfl] at young
        cases young
  · rw [not_or] at unknown
    have broadcast := Bool.eq_false_iff.mpr unknown.1
    obtain ⟨⟨address, entry⟩, member, same, young⟩ :
        ∃ filed ∈ table.entries, filed.1 = frame.dest ∧ aged _ frame.time filed.2 = false := by
      simpa using unknown.2
    subst same
    have sent := dispatch_learned broadcast member young
    rw [sent]
    refine ⟨?_, ?_, fun none => absurd none (not_or.mpr unknown), ?_⟩
    · split_ifs
      · exact nodup_nil
      · exact nodup_singleton _
    · split_ifs with back
      · exact not_mem_nil
      · simpa using back
    · intro _ _ filed _
      have equal := congrArg Prod.snd (table.sorted.eq_of_key_eq filed member rfl)
      dsimp only at equal
      subst equal
      refine ⟨learned.recent _ filed, learned.port _ filed, ?_⟩
      split_ifs with back
      · simp only [not_mem_nil, false_iff, not_and_or, not_not]
        omega
      · simp only [mem_singleton]
        omega

end Forwarding

/--
The table never outgrows its size, its entries are about the most recent
frames, and every frame is sent to where its destination was seen last, or
else to all ports but the one it came from.
-/
theorem address_learning (numPorts : Nat) (addressTableSize agingTime : Int)
    {arrivals : List Arrival} {last : State}
    (run : Run (Step (configure numPorts addressTableSize agingTime)) start arrivals last) :
    let relay := configure numPorts addressTableSize agingTime
    (0 < addressTableSize → (last.table.entries.length : Int) ≤ addressTableSize) ∧
      (∀ filed ∈ last.table.entries, MostRecent arrivals filed.1 filed.2) ∧
      ∀ frame next, Step relay last frame next →
        Forwarded relay (arrivals ++ [frame]) (learn relay last.table frame) frame next.ports := by
  intro relay
  have initial : Learned relay [] start.now start.table :=
    ⟨fun _ => Nat.zero_le _, nofun, nofun, nofun⟩
  have learned :=
    run.historyInvariant (fun past state => Learned relay past state.now state.table) []
      (fun _ _ _ _ learned taken => learned.step taken) initial
  refine ⟨?_, learned.recent, ?_⟩
  · intro positive
    have size : relay.addressTableSize = addressTableSize.toNat := by
      change (if addressTableSize ≥ 0 then addressTableSize else 0).toNat = _
      rw [if_pos positive.le]
    have bounded := learned.size (by omega)
    omega
  · intro frame _ taken
    cases taken with
    | frame later port => exact (learned.learn later port).forwarded

section SmallTable

/-- Two stations talk through a switch with room for one address. -/
def call : Arrival where
  time := 1
  src := ⟨0x0AAA00000001⟩
  dest := ⟨0x0AAA00000002⟩
  inputport := 0

def reply : Arrival where
  time := 2
  src := ⟨0x0AAA00000002⟩
  dest := ⟨0x0AAA00000001⟩
  inputport := 2

def smallSwitch : MACRelayUnit := configure 3 1 (-1)

def called : State := advance smallSwitch start call

theorem address_learning_small :
    called.table.entries.length ≤ 1 ∧
      Forwarded smallSwitch [call, reply] (learn smallSwitch called.table reply) reply
        (advance smallSwitch called reply).ports := by
  have run : Run (Step smallSwitch) start [call] called :=
    .next (.frame (by decide) (by decide)) (.idle _)
  have learned := address_learning 3 1 _ run
  constructor
  · have bounded := learned.1 (by decide)
    exact_mod_cast bounded
  · exact learned.2.2 _ _ (.frame (by decide) (by decide))

end SmallTable

end OmnetDsi.Linklayer.AddressLearning
