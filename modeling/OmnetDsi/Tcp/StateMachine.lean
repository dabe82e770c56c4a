/-!
# The state machine of a connection

The processing of a command, of a segment or of a timer ends with an event
code, and `performStateTransition` looks up the next state.  A pair that the
table does not list leaves the connection where it is.
-/

namespace OmnetDsi.Tcp.StateMachine

inductive TcpState where
  | init
  | closed
  | listen
  | synSent
  | synRcvd
  | established
  | closeWait
  | lastAck
  | finWait1
  | finWait2
  | closing
  | timeWait
deriving DecidableEq

inductive TCPEventCode where
  | ignore
  | openActive
  | openPassive
  | send
  | close
  | abort
  | status
  | rcvData
  | rcvAck
  | rcvSyn
  | rcvSynAck
  | rcvFin
  | rcvFinAck
  | rcvRst
  | rcvUnexpSyn
  | timeout2MSL
  | timeoutConnEstab
  | timeoutFinWait2
deriving DecidableEq

/-- The pairs that the `switch` lists, with the state they lead to. -/
def transition (active : Bool) : TcpState → TCPEventCode → Option TcpState
  | .init, .openPassive => some .listen
  | .init, .openActive => some .synSent
  | .listen, .openActive => some .synSent
  | .listen, .send => some .synSent
  | .listen, .close => some .closed
  | .listen, .abort => some .closed
  | .listen, .rcvSyn => some .synRcvd
  | .synRcvd, .close => some .finWait1
  | .synRcvd, .abort => some .closed
  | .synRcvd, .timeoutConnEstab => some (if active then .closed else .listen)
  | .synRcvd, .rcvRst => some (if active then .closed else .listen)
  | .synRcvd, .rcvAck => some .established
  | .synRcvd, .rcvFin => some .closeWait
  | .synRcvd, .rcvUnexpSyn => some .closed
  | .synSent, .close => some .closed
  | .synSent, .abort => some .closed
  | .synSent, .timeoutConnEstab => some .closed
  | .synSent, .rcvRst => some .closed
  | .synSent, .rcvSynAck => some .established
  | .synSent, .rcvSyn => some .synRcvd
  | .established, .close => some .finWait1
  | .established, .abort => some .closed
  | .established, .rcvFin => some .closeWait
  | .established, .rcvRst => some .closed
  | .established, .rcvUnexpSyn => some .closed
  | .closeWait, .close => some .lastAck
  | .closeWait, .abort => some .closed
  | .closeWait, .rcvRst => some .closed
  | .closeWait, .rcvUnexpSyn => some .closed
  | .lastAck, .abort => some .closed
  | .lastAck, .rcvAck => some .closed
  | .lastAck, .rcvRst => some .closed
  | .lastAck, .rcvUnexpSyn => some .closed
  | .finWait1, .abort => some .closed
  | .finWait1, .rcvFin => some .closing
  | .finWait1, .rcvAck => some .finWait2
  | .finWait1, .rcvFinAck => some .timeWait
  | .finWait1, .rcvRst => some .closed
  | .finWait1, .rcvUnexpSyn => some .closed
  | .finWait2, .abort => some .closed
  | .finWait2, .rcvFin => some .timeWait
  | .finWait2, .timeoutFinWait2 => some .closed
  | .finWait2, .rcvRst => some .closed
  | .finWait2, .rcvUnexpSyn => some .closed
  | .closing, .abort => some .closed
  | .closing, .rcvAck => some .timeWait
  | .closing, .rcvRst => some .closed
  | .closing, .rcvUnexpSyn => some .closed
  | .timeWait, .abort => some .closed
  | .timeWait, .timeout2MSL => some .closed
  | .timeWait, .rcvRst => some .closed
  | .timeWait, .rcvUnexpSyn => some .closed
  | _, _ => none

/-- The state in which an event leaves the connection. -/
def performStateTransition (active : Bool) (state : TcpState) (event : TCPEventCode) : TcpState :=
  (transition active state event).getD state

theorem transition_ne_init (active : Bool) (state : TcpState)
    (event : TCPEventCode) : transition active state event ≠ some .init := by
  cases active with
  | _ =>
    unfold transition
    split
    all_goals decide

/-- The states up to the end of the setup. -/
def BeforeTransfer : TcpState → Bool
  | .init | .listen | .synSent | .synRcvd => true
  | _ => false

theorem transition_later (active : Bool)
    (event : TCPEventCode) (later : BeforeTransfer state = false) :
    BeforeTransfer (performStateTransition active state event) = false := by
  unfold performStateTransition transition
  split
  all_goals first | rfl | cases later | exact later

end OmnetDsi.Tcp.StateMachine
