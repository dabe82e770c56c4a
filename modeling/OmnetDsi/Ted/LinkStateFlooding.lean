import OmnetDsi.Library.NewestRecords
import OmnetDsi.Library.Transition
import OmnetDsi.Ted.ConstrainedPaths
import Mathlib.Data.List.ProdSigma
import Mathlib.Data.Prod.Lex

/-!
# Flooding of link state records

A router keeps one record for every link it heard of, takes over the records
that are newer than its own, and sends these on to its peers.  The routing
table that is rebuilt after a change reads the records only, and is left out.

The world keeps besides the router what it heard, what it accepted, and what
it sent on to whom.
-/

namespace OmnetDsi.Ted.LinkStateFlooding

open List (map_map mem_append mem_append_right mem_cons mem_cons_of_mem mem_cons_self mem_map
  mem_map_of_mem mem_singleton nodup_nil)
open Contract.Addresses Library Library.NewestRecords Library.Transition

/-! ## The functions -/

/-- What a record says of a link, and how it is numbered. -/
structure LinkContent extends ConstrainedPaths.TELinkStateInfo where
  MaxBandwidth : ℚ
  timestamp : Int
  sourceId : Nat
  messageId : Nat

structure TELinkStateInfo where
  content : LinkContent
  localAddr : IPAddress
  remote : IPAddress

structure LinkStateMsg where
  linkInfo : List TELinkStateInfo
  request : Bool

/-- A message and the peer it is sent to. -/
structure Sent where
  peer : IPAddress
  msg : LinkStateMsg

structure LinkStateRouting where
  routerId : IPAddress
  peerIfAddrs : List IPAddress
  maxMessageId : Nat
  ted : List TELinkStateInfo

/-- The only failure is an assertion, or an index out of range. -/
inductive Failure where
  | assertion

/--
The result `none` stands for false, and `some` for true with the index of the
entry that is `match`.
-/
def checkLinkValidity (link : TELinkStateInfo) : List TELinkStateInfo → Option (Option Nat)
  | [] => some none
  | it :: rest =>
    if it.content.sourceId = link.content.sourceId ∧ it.content.messageId = link.content.messageId ∧
        it.content.timestamp = link.content.timestamp then
      none
    else if it.content.advrouter = link.content.advrouter ∧
        it.content.linkid = link.content.linkid then
      if it.content.timestamp < link.content.timestamp ∨
          it.content.timestamp = link.content.timestamp ∧
            it.content.messageId < link.content.messageId then
        some (some 0)
      else none
    else (checkLinkValidity link rest).map fun found => found.map fun index => index + 1

/-- The fields that a newer record replaces. -/
def copyOver (link found : TELinkStateInfo) : TELinkStateInfo where
  content :=
    { advrouter := found.content.advrouter
      linkid := found.content.linkid
      state := link.content.state
      messageId := link.content.messageId
      sourceId := link.content.sourceId
      timestamp := link.content.timestamp
      UnResvBandwidth := link.content.UnResvBandwidth
      MaxBandwidth := link.content.MaxBandwidth
      metric := link.content.metric }
  localAddr := found.localAddr
  remote := found.remote

/-- The variables of the loop through a message. -/
structure Progress where
  ted : List TELinkStateInfo
  forward : List TELinkStateInfo
  change : Bool

/-- The entry at the index does not have the state of the record. -/
def stateChanges (ted : List TELinkStateInfo) (index : Nat) (link : TELinkStateInfo) : Bool :=
  ted[index]?.any fun found => found.content.state != link.content.state

def processLink (progress : Progress) (link : TELinkStateInfo) : Except Failure Progress :=
  match checkLinkValidity link progress.ted with
  | none => .ok progress
  | some found =>
    if link.content.sourceId ≠ link.content.advrouter.getInt then .error .assertion
    else
      match found with
      | none =>
        .ok { ted := progress.ted ++ [link], forward := progress.forward ++ [link], change := true }
      | some index =>
        .ok
          { ted := progress.ted.modify index (copyOver link)
            forward := progress.forward ++ [link]
            change := progress.change || stateChanges progress.ted index link }

/-- The peers that `sendToPeers` finds among the links of the router. -/
def peers (router : LinkStateRouting) (exceptPeer : IPAddress) : List IPAddress :=
  (router.ted.filter fun link =>
      decide (link.content.advrouter = router.routerId ∧
        link.content.linkid ≠ exceptPeer ∧ link.content.state = true ∧
        link.localAddr ∈ router.peerIfAddrs)).map
    fun link => link.content.linkid

def sendToPeers (router : LinkStateRouting) (list : List TELinkStateInfo)
    (req : Bool) (exceptPeer : IPAddress) : List Sent :=
  (peers router exceptPeer).map fun peer => { peer, msg := { linkInfo := list, request := req } }

/-- What the router does besides the update of its records. -/
structure Output where
  rebuild : Bool := false
  reply : List Sent := []
  forward : List Sent := []
  accepted : List TELinkStateInfo := []

/-- What follows the loop through a message. -/
def afterLoop (router : LinkStateRouting) (sender : IPAddress) (request : Bool)
    (progress : Progress) : LinkStateRouting × Output :=
  let router := { router with ted := progress.ted }
  (router,
    { rebuild := progress.change
      reply :=
        if request then [{ peer := sender, msg := { linkInfo := router.ted, request := false } }]
        else []
      forward :=
        if progress.forward.length > 0 then sendToPeers router progress.forward false sender else []
      accepted := progress.forward })

def processLINK_STATE_MESSAGE (router : LinkStateRouting) (sender : IPAddress)
    (msg : LinkStateMsg) : Except Failure (LinkStateRouting × Output) := do
  let progress ← msg.linkInfo.foldlM processLink
    { ted := router.ted, forward := [], change := false }
  .ok (afterLoop router sender msg.request progress)

/-- The new number of a link of the router. -/
def updateTimestamp (maxMessageId : Nat) (now : Int) (link : TELinkStateInfo) : TELinkStateInfo :=
  { link with
    content :=
      { link.content with
        timestamp := now
        messageId := maxMessageId + 1 } }

/-- The state and the bandwidths that the caller wrote before. -/
def rewrite (state : Bool) (UnResvBandwidth : Fin 8 → ℚ)
    (link : TELinkStateInfo) : TELinkStateInfo :=
  { link with
    content :=
      { link.content with
        state
        UnResvBandwidth } }

/-- The router with the changed entry, which it sends to all peers. -/
def announceChange (router : LinkStateRouting) (index : Nat)
    (changed : TELinkStateInfo) : LinkStateRouting × Output :=
  let router :=
    { router with maxMessageId := router.maxMessageId + 1, ted := router.ted.set index changed }
  (router,
    { forward := sendToPeers router [changed] false UNSPECIFIED_ADDRESS, accepted := [changed] })

/-- The notification has one index wherever it is fired. -/
def receiveChangeNotification (router : LinkStateRouting) (now : Int)
    (index : Nat) (state : Bool) (UnResvBandwidth : Fin 8 → ℚ) :
    Except Failure (LinkStateRouting × Output) :=
  match router.ted[index]? with
  | none => .error .assertion
  | some link =>
    if link.content.advrouter ≠ router.routerId then .error .assertion
    else
      .ok (announceChange router index
        (updateTimestamp router.maxMessageId now (rewrite state UnResvBandwidth link)))

inductive Event where
  | announce
  | linkState (sender : IPAddress) (msg : LinkStateMsg)
  | tedChanged (now : Int) (index : Nat) (state : Bool) (UnResvBandwidth : Fin 8 → ℚ)

def handleMessage (router : LinkStateRouting) : Event → Except Failure (LinkStateRouting × Output)
  | .announce =>
    .ok (router,
      { reply :=
          sendToPeers router router.ted true UNSPECIFIED_ADDRESS })
  | .linkState sender msg => processLINK_STATE_MESSAGE router sender msg
  | .tedChanged now index state bandwidths =>
    receiveChangeNotification router now index state bandwidths

/-! ## Runs -/

/-- The router, what it heard, accepted, and sent on to its peers. -/
structure World where
  router : LinkStateRouting
  heard : List TELinkStateInfo
  accepted : List TELinkStateInfo
  forwarded : List (IPAddress × TELinkStateInfo)

/-- The records of a message one by one. -/
def records (sent : Sent) : List (IPAddress × TELinkStateInfo) :=
  sent.msg.linkInfo.map fun link => (sent.peer, link)

/-- What arrives with an event, or is made by it. -/
def arriving (output : Output) : Event → List TELinkStateInfo
  | .announce => []
  | .linkState _ msg => msg.linkInfo
  | .tedChanged .. => output.accepted

def serve (world : World) (event : Event) : Except Failure World := do
  let served ← handleMessage world.router event
  .ok
    { router := served.1
      heard := world.heard ++ arriving served.2 event
      accepted := world.accepted ++ served.2.accepted
      forwarded := world.forwarded ++ served.2.forward.flatMap records }

def Step (world : World) (event : Event) (next : World) : Prop :=
  serve world event = .ok next

def start (router : LinkStateRouting) : World where
  router
  heard := router.ted
  accepted := []
  forwarded := []

def linkKey (content : LinkContent) : IPAddress × IPAddress :=
  (content.advrouter, content.linkid)

/-- Records are compared by their time, then by their number. -/
def number (content : LinkContent) : Lex (Int × Nat) :=
  toLex (content.timestamp, content.messageId)

/-- Every source gives its records different numbers. -/
structure Numbered (known : TELinkStateInfo → Prop) : Prop where
  origin : ∀ link, known link → link.content.sourceId = link.content.advrouter.getInt
  distinct : ∀ link other, known link → known other →
    link.content.advrouter = other.content.advrouter →
    number link.content = number other.content → link = other

/-- A link has the same addresses in all records. -/
def FixedAddresses (known : TELinkStateInfo → Prop) : Prop :=
  ∀ link other, known link → known other →
    linkKey link.content = linkKey other.content →
      link.localAddr = other.localAddr ∧ link.remote = other.remote

/-- The records that arrive are known ones, and own ones are numbered on. -/
def Admitted (known : TELinkStateInfo → Prop) (world : World) : Event → Prop
  | .announce => True
  | .linkState _ msg => ∀ link ∈ msg.linkInfo, known link
  | .tedChanged now index state bandwidths =>
    ∃ link, world.router.ted[index]? = some link ∧ link.content.advrouter = world.router.routerId ∧
      number link.content < toLex (now, world.router.maxMessageId + 1) ∧
      known (updateTimestamp world.router.maxMessageId now (rewrite state bandwidths link))

/-- One record of each link of the router. -/
structure Initial (known : TELinkStateInfo → Prop) (router : LinkStateRouting) : Prop where
  known : ∀ link ∈ router.ted, known link
  nodup : (router.ted.map fun link => linkKey link.content).Nodup

/-! ## Records that are checked -/

theorem number_lt_iff :
    number it < number link ↔
      it.timestamp < link.timestamp ∨
        it.timestamp = link.timestamp ∧ it.messageId < link.messageId := by
  unfold number
  exact Prod.Lex.toLex_lt_toLex

theorem number_eq_iff :
    number it = number link ↔ it.timestamp = link.timestamp ∧ it.messageId = link.messageId := by
  unfold number
  rw [EmbeddingLike.apply_eq_iff_eq, Prod.mk.injEq]

theorem linkKey_eq_iff :
    linkKey it = linkKey link ↔ it.advrouter = link.advrouter ∧ it.linkid = link.linkid := by
  unfold linkKey
  rw [Prod.mk.injEq]

variable {ted : List TELinkStateInfo} {link : TELinkStateInfo}

theorem checkLinkValidity_eq_none (refused : checkLinkValidity link ted = none) :
    ∃ it ∈ ted,
      it.content.sourceId = link.content.sourceId ∧ number it.content = number link.content ∨
        linkKey it.content = linkKey link.content ∧ number link.content ≤ number it.content := by
  induction ted with
  | nil => cases refused
  | cons it _ induction =>
    unfold checkLinkValidity at refused
    split at refused
    case isTrue same =>
      refine ⟨it, mem_cons_self, .inl ⟨same.1, ?_⟩⟩
      exact number_eq_iff.mpr ⟨same.2.2, same.2.1⟩
    case isFalse =>
      split at refused
      case isTrue sameKey =>
        split at refused
        case isTrue => cases refused
        case isFalse newer =>
          refine ⟨it, mem_cons_self, .inr ⟨?_, ?_⟩⟩
          · exact linkKey_eq_iff.mpr sameKey
          · exact not_lt.mp fun below => newer (number_lt_iff.mp below)
      case isFalse =>
        rcases induction (Option.map_eq_none_iff.mp refused) with ⟨other, member, found⟩
        exact ⟨other, mem_cons_of_mem _ member, found⟩

theorem checkLinkValidity_eq_new (new : checkLinkValidity link ted = some none) :
    ∀ it ∈ ted, linkKey it.content ≠ linkKey link.content := by
  induction ted with
  | nil =>
    intro _ member
    cases member
  | cons _ _ induction =>
    unfold checkLinkValidity at new
    split at new
    case isTrue => cases new
    case isFalse =>
      split at new
      case isTrue =>
        split at new
        all_goals cases new
      case isFalse differs =>
        rcases Option.map_eq_some_iff.mp new with ⟨_, earlier, none⟩
        rw [Option.map_eq_none_iff.mp none] at earlier
        intro _ member
        rcases mem_cons.mp member with rfl | later
        · rwa [Ne, linkKey_eq_iff]
        · exact induction earlier _ later

theorem checkLinkValidity_eq_old (old : checkLinkValidity link ted = some (some index)) :
    ∃ before it after, ted = before ++ it :: after ∧ before.length = index ∧
      linkKey it.content = linkKey link.content ∧ number it.content < number link.content := by
  induction ted generalizing index with
  | nil => cases old
  | cons first rest induction =>
    unfold checkLinkValidity at old
    split at old
    case isTrue => cases old
    case isFalse =>
      split at old
      case isTrue sameKey =>
        split at old
        case isTrue older =>
          cases old
          exact ⟨[], first, rest, rfl, rfl, linkKey_eq_iff.mpr sameKey, number_lt_iff.mpr older⟩
        case isFalse => cases old
      case isFalse =>
        rcases Option.map_eq_some_iff.mp old with ⟨_, earlier, shifted⟩
        rcases Option.map_eq_some_iff.mp shifted with ⟨_, here, rfl⟩
        rw [here] at earlier
        rcases induction earlier with ⟨before, it, after, parts, length, same, older⟩
        refine ⟨first :: before, it, after, ?_, ?_, same, older⟩
        · rw [parts, List.cons_append]
        · rw [List.length_cons, length]

theorem copyOver_content (same : linkKey found.content = linkKey link.content) :
    (copyOver link found).content = link.content := by
  rcases linkKey_eq_iff.mp same with ⟨sameRouter, sameLink⟩
  rw [copyOver, sameRouter, sameLink]

theorem modify_middle (before after : List Entry) (entry : Entry) (change : Entry → Entry) :
    (before ++ entry :: after).modify before.length change = before ++ change entry :: after := by
  induction before with
  | nil => rfl
  | cons _ _ induction =>
    rw [List.cons_append, List.length_cons, List.modify_succ_cons, induction, List.cons_append]

/-! ## What the router holds -/

/-- The contents of records. -/
def contents (links : List TELinkStateInfo) : List LinkContent :=
  links.map fun link => link.content

@[simp]
theorem contents_append (left right : List TELinkStateInfo) :
    contents (left ++ right) = contents left ++ contents right :=
  List.map_append

@[simp]
theorem contents_cons (link : TELinkStateInfo) (rest : List TELinkStateInfo) :
    contents (link :: rest) = link.content :: contents rest :=
  rfl

@[simp]
theorem contents_nil : contents [] = [] :=
  rfl

/-- The newest of the records heard, with addresses from one of them. -/
structure Holding (heard ted : List TELinkStateInfo) : Prop where
  newest : Holds linkKey number (contents heard) (contents ted)
  addressed : ∀ it ∈ ted, ∃ link ∈ heard,
    linkKey it.content = linkKey link.content ∧
      it.localAddr = link.localAddr ∧ it.remote = link.remote

namespace Holding

theorem addressed_mono (holding : Holding heard ted) (link : TELinkStateInfo) :
    ∀ it ∈ ted, ∃ other ∈ heard ++ [link],
      linkKey it.content = linkKey other.content ∧
        it.localAddr = other.localAddr ∧ it.remote = other.remote := by
  intro _ member
  rcases holding.addressed _ member with ⟨other, among, same⟩
  exact ⟨other, List.mem_append_left _ among, same⟩

theorem push (holding : Holding heard ted)
    (absent : ∀ it ∈ ted, linkKey it.content ≠ linkKey link.content) :
    Holding (heard ++ [link]) (ted ++ [link]) := by
  constructor
  · simp only [contents_append, contents_cons, contents_nil]
    apply holding.newest.push
    intro _ member
    rcases mem_map.mp member with ⟨_, among, rfl⟩
    exact absent _ among
  · intro _ member
    rcases mem_append.mp member with old | new
    · exact holding.addressed_mono _ _ old
    · rw [mem_singleton.mp new]
      exact ⟨link, mem_append_right _ (List.mem_singleton_self _), rfl, rfl, rfl⟩

theorem replace (holding : Holding heard (before ++ found :: after))
    (same : linkKey found.content = linkKey link.content)
    (older : number found.content < number link.content) (content : changed.content = link.content)
    (addresses : changed.localAddr = found.localAddr ∧ changed.remote = found.remote) :
    Holding (heard ++ [link]) (before ++ changed :: after) := by
  constructor
  · have newest := holding.newest
    simp only [contents_append, contents_cons, contents_nil] at newest ⊢
    rw [content]
    exact newest.replace same older
  · intro _ member
    rw [mem_append, mem_cons] at member
    have earlier := holding.addressed_mono link
    rcases member with left | here | right
    · exact earlier _ (List.mem_append_left _ left)
    · rw [here]
      rcases earlier _ (mem_append_right _ mem_cons_self) with
        ⟨other, among, key, sameLocal, sameRemote⟩
      refine ⟨other, among, ?_, ?_, ?_⟩
      · rw [content, ← same, key]
      · rw [addresses.1, sameLocal]
      · rw [addresses.2, sameRemote]
    · exact earlier _ (mem_append_right _ (mem_cons_of_mem _ right))

theorem not_heard (holding : Holding heard ted)
    (newer : ∀ it ∈ ted, linkKey it.content = linkKey link.content →
      number it.content < number link.content) :
    link ∉ heard := by
  intro member
  have among : link.content ∈ contents heard := mem_map_of_mem member
  rcases holding.newest.exists_above among with ⟨_, entry, same, above⟩
  rcases mem_map.mp entry with ⟨_, here, rfl⟩
  exact absurd (newer _ here same) (not_lt.mpr above)

theorem entry_newer (holding : Holding heard (before ++ found :: after))
    (same : linkKey found.content = linkKey link.content)
    (older : number found.content < number link.content) :
    ∀ it ∈ before ++ found :: after,
      linkKey it.content = linkKey link.content → number it.content < number link.content := by
  intro it member sameKey
  have here : it.content ∈ contents (before ++ found :: after) := mem_map_of_mem member
  have there : found.content ∈ contents (before ++ found :: after) := mem_map_of_mem (by simp)
  have equal := List.inj_on_of_nodup_map holding.newest.nodup here there (sameKey.trans same.symm)
  rwa [equal]

end Holding

/-! ## One record -/

section Checking

variable {known : TELinkStateInfo → Prop}
variable {heard forward : List TELinkStateInfo} {change : Bool}

theorem processLink_spec (numbered : Numbered known)
    (among : ∀ other ∈ heard, known other) (new : known link) (holding : Holding heard ted) :
    ∃ next, processLink ⟨ted, forward, change⟩ link = .ok next ∧
      Holding (heard ++ [link]) next.ted ∧
      (next.forward = forward ∨ next.forward = forward ++ [link] ∧ link ∉ heard) := by
  unfold processLink
  have origin := numbered.origin _ new
  cases checked : checkLinkValidity link ted with
  | none =>
    refine ⟨_, rfl, ?_, .inl rfl⟩
    rcases checkLinkValidity_eq_none checked with ⟨it, member, seen⟩
    rcases holding.newest.mem_iff it.content |>.mp (mem_map_of_mem member) with ⟨told, _⟩
    rcases mem_map.mp told with ⟨_, earlier, content⟩
    have otherKnown := among _ earlier
    have apart : ∀ sameRouter : link.content.advrouter = it.content.advrouter,
        number link.content = number it.content → link.content = it.content := by
      intro sameRouter sameNumber
      rw [← content] at sameRouter sameNumber ⊢
      rw [numbered.distinct _ _ new otherKnown sameRouter sameNumber]
    have sameKey : linkKey it.content = linkKey link.content ∧
        number link.content ≤ number it.content := by
      rcases seen with ⟨sameSource, sameNumber⟩ | here
      · have sameRouter : link.content.advrouter = it.content.advrouter := by
          apply getInt_injective
          rw [← origin, ← sameSource, ← content, numbered.origin _ otherKnown]
        have equal := apart sameRouter sameNumber.symm
        rw [equal]
        exact ⟨rfl, le_refl _⟩
      · exact here
    constructor
    · simp only [contents_append, contents_cons, contents_nil]
      refine holding.newest.skip (mem_map_of_mem member) sameKey.1 sameKey.2 ?_
      exact apart (linkKey_eq_iff.mp sameKey.1).1.symm
    · exact holding.addressed_mono link
  | some found =>
    dsimp only
    rw [if_neg (not_not.mpr origin)]
    cases found with
    | none =>
      have absent := checkLinkValidity_eq_new checked
      refine ⟨_, rfl, holding.push absent, .inr ⟨rfl, ?_⟩⟩
      apply holding.not_heard
      intro it member same
      exact absurd same (absent it member)
    | some _ =>
      rcases checkLinkValidity_eq_old checked with ⟨_, _, _, rfl, rfl, same, older⟩
      refine ⟨_, rfl, ?_, .inr ⟨rfl, ?_⟩⟩
      · rw [modify_middle]
        exact holding.replace same older (copyOver_content same) ⟨rfl, rfl⟩
      · exact holding.not_heard (holding.entry_newer same older)

theorem processLinks_spec (numbered : Numbered known) (among : ∀ other ∈ heard, known other)
    (new : ∀ link ∈ links, known link) (holding : Holding heard ted) :
    ∃ next, links.foldlM processLink ⟨ted, forward, change⟩ = .ok next ∧
      Holding (heard ++ links) next.ted ∧
      ∃ accepted, next.forward = forward ++ accepted ∧
        accepted.Nodup ∧ ∀ link ∈ accepted, link ∈ links ∧ link ∉ heard := by
  induction links generalizing heard ted forward change with
  | nil =>
    refine ⟨_, rfl, ?_, [], (List.append_nil _).symm, nodup_nil, ?_⟩
    · rwa [List.append_nil]
    · intro _ member
      cases member
  | cons link rest induction =>
    have first : known link := new _ mem_cons_self
    rcases processLink_spec numbered among first holding with ⟨_, processed, held, forwarded⟩
    have later : ∀ other ∈ heard ++ [link], known other := by
      intro _ member
      rcases mem_append.mp member with old | here
      · exact among _ old
      · cases mem_singleton.mp here
        exact first
    have others : ∀ other ∈ rest, known other :=
      fun other member => new _ (mem_cons_of_mem _ member)
    rcases induction later others held with
      ⟨last, finished, heldLast, accepted, forwardLast, nodup, fresh⟩
    refine ⟨last, ?_, ?_, ?_⟩
    · rwa [List.foldlM_cons, processed]
    · rwa [List.append_assoc, List.singleton_append] at heldLast
    · have unheard : ∀ other ∈ accepted, other ∈ rest ∧ other ∉ heard ∧ other ≠ link := by
        intro _ member
        rcases fresh _ member with ⟨here, absent⟩
        rw [mem_append, not_or, mem_singleton] at absent
        exact ⟨here, absent⟩
      rcases forwarded with same | ⟨more, notHeard⟩
      · refine ⟨accepted, ?_, nodup, ?_⟩
        · rw [forwardLast, same]
        · intro _ member
          rcases unheard _ member with ⟨here, absent, _⟩
          exact ⟨mem_cons_of_mem _ here, absent⟩
      · refine ⟨link :: accepted, ?_, ?_, ?_⟩
        · rw [forwardLast, more, List.append_assoc, List.singleton_append]
        · refine List.nodup_cons.mpr ⟨?_, nodup⟩
          intro member
          exact (unheard link member).2.2 rfl
        · intro other member
          rcases mem_cons.mp member with rfl | member
          · exact ⟨mem_cons_self, notHeard⟩
          · rcases unheard other member with ⟨here, absent, _⟩
            exact ⟨mem_cons_of_mem _ here, absent⟩

end Checking

/-! ## Sending on -/

theorem peers_nodup (nodup : ((contents router.ted).map linkKey).Nodup)
    (exceptPeer : IPAddress) : (peers router exceptPeer).Nodup := by
  have keys : (router.ted.map fun link => linkKey link.content).Nodup := by
    rwa [contents, map_map] at nodup
  refine List.Nodup.map_on ?_ (keys.of_map.filter _)
  intro _ member _ also same
  rw [List.mem_filter, decide_eq_true_eq] at member also
  apply List.inj_on_of_nodup_map keys member.1 also.1
  exact linkKey_eq_iff.mpr ⟨member.2.1.trans also.2.1.symm, same⟩

theorem flatMap_sendToPeers (router : LinkStateRouting)
    (list : List TELinkStateInfo) (req : Bool) (exceptPeer : IPAddress) :
    (sendToPeers router list req exceptPeer).flatMap records = peers router exceptPeer ×ˢ list := by
  rw [sendToPeers, List.flatMap_map]
  rfl

/-- What holds of the world after every event. -/
structure Good (known : TELinkStateInfo → Prop) (world : World) : Prop where
  known : ∀ link ∈ world.heard, known link
  holding : Holding world.heard world.router.ted
  accepted_nodup : world.accepted.Nodup
  accepted_heard : ∀ link ∈ world.accepted, link ∈ world.heard
  forwarded_nodup : world.forwarded.Nodup
  forwarded_accepted : ∀ sent ∈ world.forwarded, sent.2 ∈ world.accepted

section Serving

variable {known : TELinkStateInfo → Prop}

theorem Good.extend (good : Good known world) (also : ∀ link ∈ arrived, known link)
    (holding : Holding (world.heard ++ arrived) router.ted) (nodup : new.Nodup)
    (fresh : ∀ link ∈ new, link ∈ arrived ∧ link ∉ world.heard)
    (sentNodup : sent.Nodup) (sentNew : ∀ pair ∈ sent, pair.2 ∈ new) :
    Good known
      { router
        heard := world.heard ++ arrived
        accepted := world.accepted ++ new
        forwarded := world.forwarded ++ sent } where
  known := by
    intro _ member
    rcases mem_append.mp member with old | here
    · exact good.known _ old
    · exact also _ here
  holding
  accepted_nodup := by
    refine List.nodup_append'.mpr ⟨good.accepted_nodup, nodup, ?_⟩
    intro _ member here
    exact (fresh _ here).2 (good.accepted_heard _ member)
  accepted_heard := by
    intro _ member
    rcases mem_append.mp member with old | here
    · exact List.mem_append_left _ (good.accepted_heard _ old)
    · exact mem_append_right _ (fresh _ here).1
  forwarded_nodup := by
    refine List.nodup_append'.mpr ⟨good.forwarded_nodup, sentNodup, ?_⟩
    intro pair member here
    exact (fresh pair.2 (sentNew pair here)).2
      (good.accepted_heard pair.2 (good.forwarded_accepted pair member))
  forwarded_accepted := by
    intro pair member
    rcases mem_append.mp member with old | here
    · exact List.mem_append_left _ (good.forwarded_accepted pair old)
    · exact mem_append_right _ (sentNew pair here)

theorem sent_spec (holding : Holding heard router.ted)
    (nodup : list.Nodup) (exceptPeer : IPAddress) :
    ((sendToPeers router list false exceptPeer).flatMap records).Nodup ∧
      ∀ pair ∈ (sendToPeers router list false exceptPeer).flatMap records, pair.2 ∈ list := by
  rw [flatMap_sendToPeers]
  constructor
  · exact (peers_nodup holding.newest.nodup _).product nodup
  · intro _ member
    exact (List.pair_mem_product.mp member).2

theorem serve_eq_ok (handled : handleMessage world.router event = .ok (router, output)) :
    serve world event =
      .ok
        { router
          heard := world.heard ++ arriving output event
          accepted := world.accepted ++ output.accepted
          forwarded := world.forwarded ++ output.forward.flatMap records } := by
  rw [serve, handled]
  rfl

theorem serve_announce (good : Good known world) :
    ∃ next, serve world .announce = .ok next ∧ Good known next := by
  refine ⟨_, rfl, ?_⟩
  refine good.extend ?_ ?_ nodup_nil ?_ nodup_nil ?_
  · intro _ member
    cases member
  · rw [arriving, List.append_nil]
    exact good.holding
  · intro _ member
    cases member
  · intro _ member
    cases member

theorem serve_linkState (numbered : Numbered known) (good : Good known world)
    (sender : IPAddress) (msg : LinkStateMsg) (new : ∀ link ∈ msg.linkInfo, known link) :
    ∃ next, serve world (.linkState sender msg) = .ok next ∧ Good known next := by
  rcases @processLinks_spec world.router.ted _ world.heard [] _
      msg.linkInfo numbered good.known new good.holding with
    ⟨last, processed, holding, accepted, forward, nodup, fresh⟩
  have handled : handleMessage world.router (.linkState sender msg) =
      .ok (afterLoop world.router sender msg.request last) := by
    dsimp only [handleMessage, processLINK_STATE_MESSAGE]
    rw [processed]
    rfl
  refine ⟨_, serve_eq_ok handled, ?_⟩
  refine good.extend new holding (forward ▸ nodup) (forward ▸ fresh) ?_ ?_
  · dsimp only [afterLoop]
    split
    · exact (sent_spec holding (forward ▸ nodup) _).1
    · exact nodup_nil
  · dsimp only [afterLoop]
    split
    · exact (sent_spec holding (forward ▸ nodup) _).2
    · intro _ member
      cases member

theorem serve_tedChanged (good : Good known world)
    (admitted : Admitted known world (.tedChanged now index state bandwidths)) :
    ∃ next, serve world (.tedChanged now index state bandwidths) = .ok next ∧ Good known next := by
  rcases admitted with ⟨link, found, own, older, new⟩
  have handled :
      handleMessage world.router (.tedChanged now index state bandwidths) =
        .ok (announceChange world.router index
          (updateTimestamp world.router.maxMessageId now (rewrite state bandwidths link))) := by
    dsimp only [handleMessage, receiveChangeNotification]
    rw [found]
    dsimp only
    rw [if_neg (not_not.mpr own)]
  rcases List.getElem?_eq_some_iff.mp found with ⟨inside, here⟩
  have parts : world.router.ted =
      world.router.ted.take index ++ link :: world.router.ted.drop (index + 1) := by
    rw [← here, ← List.drop_eq_getElem_cons _, List.take_append_drop]
  generalize changedIs : updateTimestamp world.router.maxMessageId now
    (rewrite state bandwidths link) = changed at new handled
  have holding := good.holding
  rw [parts] at holding
  have same : linkKey link.content = linkKey changed.content := by
    rw [← changedIs]
    rfl
  have above : number link.content < number changed.content := by
    rwa [← changedIs]
  have replaced : Holding (world.heard ++ [changed]) (world.router.ted.set index changed) := by
    rw [List.set_eq_take_append_cons_drop, if_pos inside]
    refine holding.replace same above rfl ?_
    rw [← changedIs]
    exact ⟨rfl, rfl⟩
  have unheard : changed ∉ world.heard := holding.not_heard (holding.entry_newer same above)
  refine ⟨_, serve_eq_ok handled, ?_⟩
  refine good.extend ?_ replaced (List.nodup_singleton _) ?_ ?_ ?_
  · intro _ member
    cases mem_singleton.mp member
    exact new
  · intro _ member
    cases mem_singleton.mp member
    exact ⟨List.mem_singleton_self _, unheard⟩
  · exact (sent_spec replaced (List.nodup_singleton _) _).1
  · exact (sent_spec replaced (List.nodup_singleton _) _).2

/-- No assertion fails on an admitted event, and all stays as it should. -/
theorem serve_good (numbered : Numbered known) (good : Good known world)
    (admitted : Admitted known world event) : ∃ next, Step world event next ∧ Good known next := by
  cases event with
  | announce => exact serve_announce good
  | linkState _ _ => exact serve_linkState numbered good _ _ admitted
  | tedChanged _ _ _ _ => exact serve_tedChanged good admitted

theorem start_good (initial : Initial known router) : Good known (start router) where
  known := initial.known
  holding := by
    constructor
    · apply Holds.of_nodup
      have nodup := initial.nodup
      rwa [contents, map_map]
    · exact fun it member => ⟨it, member, rfl, rfl, rfl⟩
  accepted_nodup := nodup_nil
  accepted_heard := fun _ member => absurd member List.not_mem_nil
  forwarded_nodup := nodup_nil
  forwarded_accepted := fun _ member => absurd member List.not_mem_nil

theorem run_good (numbered : Numbered known) (good : Good known first)
    (run : Run (guardedStep (Admitted known) Step) first events last) : Good known last := by
  apply run.guarded ?_ good
  intro _ _ _ holds admitted taken
  rcases serve_good numbered holds admitted with ⟨_, also, kept⟩
  unfold Step at taken also
  rw [taken] at also
  cases also
  exact kept

variable (good : Good known world) (also : Good known other)
    (same : ∀ link, link ∈ world.heard ↔ link ∈ other.heard)
include good also same

theorem Good.contents_perm : (contents world.router.ted).Perm (contents other.router.ted) := by
  apply good.holding.newest.perm also.holding.newest
  intro _
  simp only [contents, mem_map, same]

theorem Good.mem_of_mem (fixed : FixedAddresses known)
    (member : it ∈ world.router.ted) : it ∈ other.router.ted := by
  have content : it.content ∈ contents other.router.ted :=
    (good.contents_perm also same).mem_iff.mp (mem_map_of_mem member)
  rcases mem_map.mp content with ⟨there, among, equal⟩
  rcases good.holding.addressed _ member with ⟨one, oneHeard, oneKey, oneLocal, oneRemote⟩
  rcases also.holding.addressed _ among with ⟨two, twoHeard, twoKey, twoLocal, twoRemote⟩
  have key : linkKey one.content = linkKey two.content := by rw [← oneKey, ← twoKey, equal]
  have addresses := fixed _ _ (good.known _ oneHeard) (also.known _ twoHeard) key
  have entry : there = it := by
    cases there
    cases it
    dsimp only at equal oneLocal oneRemote twoLocal twoRemote
    rw [equal, oneLocal, oneRemote, twoLocal, twoRemote, addresses.1, addresses.2]
  rwa [← entry]

theorem Good.ted_perm (fixed : FixedAddresses known) : world.router.ted.Perm other.router.ted := by
  rw [List.perm_ext_iff_of_nodup good.holding.newest.nodup.of_map.of_map
    also.holding.newest.nodup.of_map.of_map]
  intro _
  constructor
  · exact good.mem_of_mem also same fixed
  · exact also.mem_of_mem good (fun link => (same _).symm) fixed

end Serving

/-! ## Every order of arrival -/

/--
The router has one entry for a link, which says what the newest record it
heard says.  It accepts a record at most once and sends it on to a peer at
most once, and no assertion fails.  Two routers that heard the same records,
in whatever order and grouping, say the same of every link, and have the same
entries when the addresses of a link are fixed.
-/
theorem link_state_flooding {known : TELinkStateInfo → Prop}
    (numbered : Numbered known) {router : LinkStateRouting}
    (initial : Initial known router) {events : List Event} {world : World}
    (run : Run (guardedStep (Admitted known) Step) (start router) events world) :
    (world.router.ted.map fun link => linkKey link.content).Nodup ∧
      (∀ content, content ∈ contents world.router.ted ↔
        Newest linkKey number (contents world.heard) content) ∧
      world.accepted.Nodup ∧
      world.forwarded.Nodup ∧
      (∀ event, Admitted known world event → ∃ next, Step world event next) ∧
      ∀ other otherEvents otherWorld, Initial known other →
        Run (guardedStep (Admitted known) Step) (start other) otherEvents otherWorld →
        (∀ link, link ∈ world.heard ↔ link ∈ otherWorld.heard) →
        (contents world.router.ted).Perm (contents otherWorld.router.ted) ∧
          (FixedAddresses known → world.router.ted.Perm otherWorld.router.ted) := by
  have good := run_good numbered (start_good initial) run
  have nodup := good.holding.newest.nodup
  rw [contents, map_map] at nodup
  refine ⟨nodup, good.holding.newest.mem_iff, good.accepted_nodup, good.forwarded_nodup, ?_, ?_⟩
  · intro _ admitted
    rcases serve_good numbered good admitted with ⟨next, taken, _⟩
    exact ⟨next, taken⟩
  · intro _ _ _ otherInitial otherRun same
    have also := run_good numbered (start_good otherInitial) otherRun
    exact ⟨good.contents_perm also same, good.ted_perm also same⟩

/-- A link of the router with this number. -/
def exampleLink (linkid : IPAddress) (messageId : Nat) : TELinkStateInfo where
  content :=
    { advrouter := ⟨1⟩
      linkid
      metric := 1
      UnResvBandwidth := fun _ => 10
      state := true
      MaxBandwidth := 10
      timestamp := 0
      sourceId := 1
      messageId }
  localAddr := ⟨7⟩
  remote := ⟨8⟩

def exampleRouter : LinkStateRouting where
  routerId := ⟨2⟩
  peerIfAddrs := []
  maxMessageId := 0
  ted := []

/-- The two records of a link, in one message and in the wrong order. -/
def exampleEvents : List Event :=
  [.linkState ⟨1⟩ { linkInfo := [exampleLink ⟨3⟩ 2, exampleLink ⟨3⟩ 1], request := false }]

def exampleKnown (link : TELinkStateInfo) : Prop :=
  link = exampleLink ⟨3⟩ 1 ∨ link = exampleLink ⟨3⟩ 2

theorem link_state_flooding_small :
    ∃ world,
      Run (guardedStep (Admitted exampleKnown) Step) (start exampleRouter) exampleEvents world ∧
        (∀ content, content ∈ contents world.router.ted ↔
          Newest linkKey number (contents world.heard) content) ∧
        world.accepted.Nodup := by
  have numbered : Numbered exampleKnown := by
    constructor
    · rintro link (rfl | rfl)
      · rfl
      · rfl
    · rintro link other (rfl | rfl) (rfl | rfl) _ same
      · rfl
      · cases congrArg (fun number => (ofLex number).2) same
      · cases congrArg (fun number => (ofLex number).2) same
      · rfl
  have initial : Initial exampleKnown exampleRouter :=
    ⟨fun _ member => absurd member List.not_mem_nil, nodup_nil⟩
  have admitted : ∀ link ∈ [exampleLink ⟨3⟩ 2, exampleLink ⟨3⟩ 1], exampleKnown link := by
    intro _ member
    rcases mem_cons.mp member with rfl | member
    · exact .inr rfl
    · exact .inl (mem_singleton.mp member)
  rcases serve_good numbered (start_good initial)
      (show Admitted exampleKnown (start exampleRouter)
        (.linkState ⟨1⟩ ⟨_, false⟩) from admitted) with
    ⟨world, taken, _⟩
  have run : Run (guardedStep (Admitted exampleKnown) Step)
      (start exampleRouter) exampleEvents world :=
    .next ⟨admitted, taken⟩ (.idle _)
  have holds := link_state_flooding numbered initial run
  exact ⟨world, run, holds.2.1, holds.2.2.1⟩

end OmnetDsi.Ted.LinkStateFlooding
