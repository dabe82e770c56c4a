import OmnetDsi.Tcp.CongestionControl

/-!
# The segments that `sendData` sends

One call of `sendData` sends segments of one length, one after the other from
`snd_max`, as many as the windows and the queue allow, and the FIN with the
last byte of the queue.  When it sends nothing it still sets `snd_nxt` back
to `snd_max`.

The numbers need to be right only while there is something to send: the queue
and what is not acknowledged span less than half of all numbers, and the FIN
follows the last byte.  The states of a connection are of this kind.
-/

namespace OmnetDsi.Tcp.SegmentRuns

open Library.Fallible Library.Transition Tcp.SequenceNumbers Tcp.Sending Tcp.Sending.SendSide
open Tcp.CongestionControl

/-! ## What is to hold -/

/-- The bytes in the queue that have never been sent. -/
def unsent (side : SendSide) : Nat :=
  side.sendQueue.getBytesAvailable side.snd_max

/--
The queue, and the numbers from `snd_una` to its end, span less than half of
all numbers while something is unsent, and the FIN follows the last byte.
-/
structure Consistent (side : SendSide) : Prop where
  mss_pos : 0 < side.snd_mss
  queued :
    seqLess side.snd_max side.sendQueue.ends = true →
      (side.snd_max - side.sendQueue.begins).toNat + unsent side < 2 ^ 31
  unacked :
    seqLess side.snd_max side.sendQueue.ends = true →
      (side.snd_max - side.snd_una).toNat + unsent side < 2 ^ 31
  fin_seq : side.send_fin = true → side.snd_fin_seq = side.sendQueue.ends

/-- Segments of one length from `snd_max`, the FIN with the last unsent byte. -/
def segmentRun (side : SendSide) (count length : Nat) : List SentSegment :=
  (List.range count).map fun index =>
    { sequenceNo := side.snd_max + BitVec.ofNat 32 (index * length)
      payloadLength := length
      finBit := decide (side.send_fin = true ∧ (index + 1) * length = unsent side) }

/-- The numbers that the run takes up: those of its bytes, and that of the FIN. -/
def numbersOf (side : SendSide) (count length : Nat) : Nat :=
  if side.send_fin = true ∧ count * length = unsent side then count * length + 1 else count * length

/-- The side after the run. -/
def afterRun (side : SendSide) (count length : Nat) : SendSide :=
  { side with
    snd_nxt := side.snd_max + BitVec.ofNat 32 (numbersOf side count length)
    snd_max := side.snd_max + BitVec.ofNat 32 (numbersOf side count length)
    sent := side.sent ++ segmentRun side count length }

/-- The run may be sent when the windows end `limit` bytes after `snd_una`. -/
structure Allowed (side : SendSide) (fullSegmentsOnly : Bool) (limit count length : Nat) :
    Prop where
  some : 0 < count
  length_pos : 0 < length
  mss : length ≤ side.snd_mss
  full : fullSegmentsOnly = true → length = side.snd_mss
  window : (side.snd_max - side.snd_una).toNat + count * length ≤ limit
  buffered : count * length ≤ unsent side

/-- What a call of `sendData` gives: nothing is sent, or an allowed run is. -/
inductive Transmits (side : SendSide) (fullSegmentsOnly : Bool) (limit : Nat) :
    Bool × SendSide → Prop where
  | nothing : Transmits side fullSegmentsOnly limit (false, { side with snd_nxt := side.snd_max })
  | run {count length : Nat} (allowed : Allowed side fullSegmentsOnly limit count length) :
      Transmits side fullSegmentsOnly limit (true, afterRun side count length)

/-- How far the windows reach from `snd_una`; a negative one is no limit. -/
def windowLimit (side : SendSide) (congestionWindow : Int) : Nat :=
  if 0 ≤ congestionWindow then min side.snd_wnd congestionWindow.toNat else side.snd_wnd

theorem effectiveWindow_eq (congestionWindow : Int) :
    side.effectiveWindow congestionWindow =
      windowLimit side congestionWindow - ((side.snd_nxt - side.snd_una).toNat : Int) := by
  dsimp only [effectiveWindow, windowLimit]
  split_ifs
  · omega
  · omega
  · omega
  · rfl

/-! ## One call -/

/-- The positions of the queue, of which `snd_max` is where the unsent bytes begin. -/
def place (side : SendSide) : Positions where
  begins := 0
  ends := (side.snd_max - side.sendQueue.begins).toNat + unsent side
  una := 0
  max := (side.snd_max - side.sendQueue.begins).toNat

theorem number_max (side : SendSide) :
    number side.sendQueue.begins (place side).max = side.snd_max := by
  have same := number_add_distance side.sendQueue.begins 0 side.snd_max
  rwa [number_zero, Nat.zero_add] at same

theorem unsent_eq (some : unsent side ≠ 0) :
    seqLess side.snd_max side.sendQueue.ends = true ∧
      unsent side = (side.sendQueue.ends - side.snd_max).toNat := by
  unfold unsent TCPVirtualDataSendQueue.getBytesAvailable at some ⊢
  by_cases before : seqLess side.snd_max side.sendQueue.ends = true
  · exact ⟨before, if_pos before⟩
  · exact absurd (if_neg before) some

theorem Consistent.buffers (consistent : Consistent side) (some : unsent side ≠ 0) :
    Buffers side.sendQueue.begins side (place side) := by
  rcases unsent_eq some with ⟨before, distance⟩
  have ends : side.sendQueue.ends = number side.sendQueue.begins (place side).ends := by
    have same := number_add_distance side.sendQueue.begins (place side).max side.sendQueue.ends
    rw [number_max, ← distance] at same
    exact same.symm
  exact
    { begins := (number_zero _).symm
      ends
      ends_near := by
        change _ < 0 + 2 ^ 31
        rw [Nat.zero_add]
        exact consistent.queued before
      fin_seq := fun closing => (consistent.fin_seq closing).trans ends }

theorem afterSegments_eq (count length : Nat) :
    { side.afterSegments side.sendQueue.begins (place side) (place side).max count
          length with
        snd_max :=
          (side.afterSegments side.sendQueue.begins (place side) (place side).max count
            length).snd_nxt } =
      afterRun side count length := by
  have reaches (some : Nat) : (place side).max + some = (place side).ends ↔ some = unsent side :=
    Nat.add_left_cancel_iff
  have after :
      number side.sendQueue.begins (side.past (place side) ((place side).max + count * length)) =
        side.snd_max + BitVec.ofNat 32 (numbersOf side count length) := by
    rw [← number_max, number_add]
    simp only [past, numbersOf, reaches]
    split_ifs
    all_goals rfl
  have segment (index : Nat) :
      side.segmentAt side.sendQueue.begins (place side) ((place side).max + index * length) length =
        { sequenceNo := side.snd_max + BitVec.ofNat 32 (index * length)
          payloadLength := length
          finBit := decide (side.send_fin = true ∧ (index + 1) * length = unsent side) } := by
    rw [segmentAt, ← number_add, number_max, Nat.add_assoc, ← Nat.succ_mul]
    simp only [reaches, Nat.succ_eq_add_one]
  simp only [afterSegments, afterRun, segmentRun, after, segment]

theorem Consistent.sendData_eq (consistent : Consistent side)
    (fullSegmentsOnly : Bool) (congestionWindow : Int) :
    ∃ result, side.sendData fullSegmentsOnly congestionWindow = .ok result ∧
      Transmits side fullSegmentsOnly (windowLimit side congestionWindow) result := by
  have mss_pos := consistent.mss_pos
  have window :
      effectiveWindow { side with snd_nxt := side.snd_max } congestionWindow =
        windowLimit side congestionWindow - ((side.snd_max - side.snd_una).toNat : Int) :=
    effectiveWindow_eq _
  have buffered : side.sendQueue.getBytesAvailable side.snd_max = unsent side := rfl
  simp only [SendSide.sendData, window, buffered]
  generalize bytesToSend_eq :
    min (windowLimit side congestionWindow -
      ((side.snd_max - side.snd_una).toNat : Int)).toNat (unsent side) = bytesToSend
  split_ifs with empty closed short some
  · exact ⟨_, rfl, .nothing⟩
  · exact ⟨_, rfl, .nothing⟩
  · exact ⟨_, rfl, .nothing⟩
  · generalize is_length : min bytesToSend side.snd_mss = length
    have same : Buffers side.sendQueue.begins { side with snd_nxt := side.snd_max } (place side) :=
      { consistent.buffers empty with }
    have inside : (place side).max + bytesToSend ≤ (place side).ends := by
      change _ ≤ (place side).max + unsent side
      omega
    have success := same.sendSegments_eq mss_pos (number_max _).symm (Nat.zero_le _)
      inside some is_length.symm
    have within : bytesToSend / length * length ≤ bytesToSend := Nat.div_mul_le_self _ _
    have allowed :
        Allowed side fullSegmentsOnly (windowLimit side congestionWindow)
          (bytesToSend / length) length :=
      { some := Nat.div_pos (by omega) (by omega)
        length_pos := by omega
        mss := by omega
        full := fun full => by
          have long : ¬bytesToSend < side.snd_mss := fun less => short ⟨full, less⟩
          omega
        window := by omega
        buffered := by omega }
    refine ⟨_, ?_, .run allowed⟩
    rw [success, ← afterSegments_eq]
    rfl
  · omega

/-! ## The congestion window -/

theorem int_eq (bound : value < 2 ^ 32) :
    int value = if value < 2 ^ 31 then (value : Int) else value - 2 ^ 32 := by
  rw [int, BitVec.toInt_ofNat', Int.bmod_def]
  split_ifs
  all_goals omega

theorem Transmits.within (transmits : Transmits side fullSegmentsOnly limit result)
    (near : unsent side ≠ 0 → (side.snd_max - side.snd_una).toNat + unsent side ≤ other) :
    Transmits side fullSegmentsOnly (min limit other) result := by
  cases transmits with
  | nothing => exact .nothing
  | run allowed =>
    have some := Nat.mul_pos allowed.some allowed.length_pos
    have buffered := allowed.buffered
    have window := allowed.window
    exact .run { allowed with window := by omega }

theorem Consistent.transmits_cwnd (consistent : Consistent side) (bound : snd_cwnd < 2 ^ 32)
    (transmits : Transmits side fullSegmentsOnly (windowLimit side (int snd_cwnd)) result) :
    Transmits side fullSegmentsOnly (min side.snd_wnd snd_cwnd) result := by
  have limit := int_eq bound
  unfold windowLimit at transmits
  by_cases small : snd_cwnd < 2 ^ 31
  · rw [if_pos small] at limit
    rwa [limit, if_pos (Int.natCast_nonneg _), Int.toNat_natCast] at transmits
  · rw [limit, if_neg (by omega)] at transmits
    refine transmits.within fun some => ?_
    have near := consistent.unacked (unsent_eq some).1
    omega

/-! ## The states of a connection -/

theorem consistent_of_placed (placed : Placed start side) : Consistent side := by
  rcases placed with ⟨place, _, shows, _⟩
  have buffers := shows.buffers
  have near := shows.room
  have low := shows.begins_le_max
  have una := shows.una_le_max
  have waiting (before : seqLess side.snd_max side.sendQueue.ends = true) :
      unsent side = place.ends - place.max ∧ place.max < place.ends := by
    have bound : place.max ≤ place.ends + 1 := by
      rcases shows.max_le_ends with data | _
      all_goals omega
    rw [shows.max, shows.ends] at before
    have data := (seqLess_number (by omega) (by omega)).mp before
    have available := buffers.getBytesAvailable_eq low bound
    rw [← shows.max] at available
    exact ⟨available, data⟩
  exact
    { mss_pos := shows.mss_pos
      queued := fun before => by
        have rest := waiting before
        have room := buffers.ends_near
        rw [rest.1, shows.max, shows.begins, distance low (by omega)]
        omega
      unacked := fun before => by
        have rest := waiting before
        rw [rest.1, shows.max, shows.una, distance una (by omega)]
        omega
      fin_seq := fun closing => (shows.fin_seq closing).trans shows.ends.symm }

/--
From every consistent state `sendData` sends nothing and sets `snd_nxt` to
`snd_max`, or sends a run of segments that the windows, the segment size, the
queue and `fullSegmentsOnly` allow.  The algorithm asks for full segments when
it follows Nagle and data is unacknowledged, and for at most `snd_cwnd` bytes.
-/
theorem sendData_transmits (consistent : Consistent side) :
    (∀ fullSegmentsOnly congestionWindow, ∃ result,
      side.sendData fullSegmentsOnly congestionWindow = .ok result ∧
        Transmits side fullSegmentsOnly (windowLimit side congestionWindow) result) ∧
    ∀ alg : TCPTahoeRenoFamily, alg.conn = side → alg.snd_cwnd < 2 ^ 32 →
      ∃ result, alg.sendData = .ok (alg.afterSendData result) ∧
        Transmits side (alg.nagle_enabled && side.snd_una != side.snd_max)
          (min side.snd_wnd alg.snd_cwnd) result := by
  refine ⟨consistent.sendData_eq, ?_⟩
  rintro _ rfl bound
  rcases consistent.sendData_eq _ _ with ⟨result, success, transmits⟩
  refine ⟨result, ?_, consistent.transmits_cwnd bound transmits⟩
  dsimp only [TCPTahoeRenoFamily.sendData]
  rw [success]
  rfl

/-- Two segments in flight, and the first one sent again. -/
def afterTimeout : List SendSide.Event :=
  [.send 2000 withoutLimit, .send 0 withoutLimit, .timeout .retransmitOneSegment]

theorem sendData_transmits_after_timeout :
    ∃ side, Run (guardedStep Guard SendSide.step) justEstablished afterTimeout side ∧
      ∃ result, side.sendData false (-1) = .ok result ∧ Transmits side false 1000 result := by
  have run : ∃ side, Run (guardedStep Guard SendSide.step) justEstablished afterTimeout side ∧
      windowLimit side (-1) = 1000 := by
    refine ⟨_, .next ⟨⟨rfl, by decide, trivial⟩, rfl⟩
      (.next ⟨⟨rfl, by decide, trivial⟩, rfl⟩ (.next ⟨?_, rfl⟩ (.idle _))), rfl⟩
    exact ⟨by decide, by decide⟩
  rcases run with ⟨side, run, limit⟩
  have placed := justEstablished_synchronized.placed_of_run run
  have transmits := (sendData_transmits (consistent_of_placed placed)).1 false (-1)
  rw [limit] at transmits
  exact ⟨side, run, transmits⟩

/--
After a retransmission `sendData` moves `snd_nxt` though it sends nothing.
And when something is sent after a deferred `CLOSE`, the FIN goes out before
the last byte.
-/
theorem sendData_moves_snd_nxt :
    (∃ side, Run SendSide.step justEstablished afterTimeout side ∧
      ∃ next, side.sendData false (-1) = .ok (false, next) ∧ next ≠ side) ∧
    ∃ side,
      Run SendSide.step justEstablished
          [.send 1072 withoutLimit, .close, .send 5 .nothing,
            .segment ⟨0, 537, 1000, 0⟩ .nothing .nothing] side ∧
        ∃ next, side.sendData false (-1) = .ok (true, next) ∧
          ∃ tcpseg ∈ next.sent, tcpseg.finBit = true ∧
            tcpseg.sequenceNo + BitVec.ofNat 32 tcpseg.payloadLength ≠
              side.sendQueue.getBufferEndSeq := by
  refine ⟨⟨_, .next rfl (.next rfl (.next rfl (.idle _))), _, rfl, ?_⟩,
    ⟨_, .next rfl (.next rfl (.next rfl (.next rfl (.idle _)))), _, rfl, ?_⟩⟩
  · decide
  · exact ⟨_, List.mem_cons_of_mem _ (List.mem_cons_self ..), rfl, by decide⟩

end OmnetDsi.Tcp.SegmentRuns
