import FindFriendBot.Lib.ObjectHeap
import FindFriendBot.Lib.StepMachine
import FindFriendBot.Model.Conf

/-!
# FindFriendBot — the welcome message and its retries

`friend_request_cb` sends the help text to a new friend. If that fails it
`malloc`s a buffer for the retry interval and arms a timer with it;
`event_timeout_cb` sends again, and on a further failure doubles the interval in
the buffer and arms the next timer, up to `RESEND_TIME_MAX`. An armed timer is
one later call with the same `user_data`. `none` is the undefined behaviour of a
null or dangling `user_data`. What else `friend_request_cb` does, accepting the
friend, the savedata file and the friend number, is left out.
-/

namespace FindFriendBot

/-- `tox_add_timer_event`'s entry in the timer list. -/
structure TimerEvent where
  eventType : Nat
  friendNumber : Nat
  timeInterval : Nat
  userData : Ptr
  deriving DecidableEq

/-- One call of `tox_friend_send_message` with the help text: whether it succeeded, the
`user_data` of the timer that caused it, if a timer did, and the timer that the
callback armed after it, if it armed one. -/
structure Attempt where
  friendNumber : Nat
  text : Bytes
  delivered : Bool
  userData : Ptr
  armed : Option TimerEvent
  deriving DecidableEq

namespace Welcome

/-- `RESEND_TIME_BASE`. -/
def resendTimeBase : Nat := 1

/-- `RESEND_TIME_MAX`. -/
def resendTimeMax : Nat := 128

/-- `EVENT_FRIEND_ADD_TIPS`. -/
def eventFriendAddTips : Nat := 1

/-- The interval buffers and the pending timers. -/
structure State where
  heap : ObjectHeap Nat
  timers : List TimerEvent

def init : State where
  heap := ObjectHeap.empty
  timers := []

/-- `free`; freeing a null pointer does nothing. -/
def free (heap : ObjectHeap Nat) : Ptr → Option (ObjectHeap Nat)
  | none => some heap
  | some a => heap.delete a

variable (conf : Conf)

/-- `msg_res` of both callbacks. -/
def tips : Bytes := expandNewlines conf.descHelp

/-- The timer that both callbacks arm. -/
def tipsTimer (friendNumber timeInterval : Nat) (userData : Ptr) : TimerEvent where
  eventType := eventFriendAddTips
  friendNumber := friendNumber
  timeInterval := timeInterval
  userData := userData

/-- `Assisant::send_friend_message_req` with `msg_res`; `ret` is how it ends. -/
def sendFriendMessageReq (friendNumber : Nat) (ret : Bool) (userData : Ptr)
    (armed : Option TimerEvent) : Attempt where
  friendNumber := friendNumber
  text := tips conf
  delivered := ret
  userData := userData
  armed := armed

/-- `Assisant::friend_request_cb` from its send on. -/
def friendRequestCb (s : State) (friendNumber : Nat) (ret : Bool) : State × Attempt :=
  if ret then (s, sendFriendMessageReq conf friendNumber ret none none)
  else
    let timeInterval := resendTimeBase
    let (buf, heap) := s.heap.new timeInterval
    let timer := tipsTimer friendNumber timeInterval (some buf)
    ({ heap := heap, timers := s.timers ++ [timer] },
      sendFriendMessageReq conf friendNumber ret none (some timer))

/-- `Assisant::event_timeout_cb` on the rest of the timer list. -/
def eventTimeoutCb (s : State) (friendNumber eventType : Nat) (userData : Ptr) (ret : Bool) :
    Option (State × List Attempt) :=
  if eventType = eventFriendAddTips then
    if ret then
      match free s.heap userData with
      | none => none
      | some heap =>
        some ({ s with heap := heap }, [sendFriendMessageReq conf friendNumber ret userData none])
    else if userData = none then
      some (s, [sendFriendMessageReq conf friendNumber ret userData none])
    else
      match s.heap.deref userData with
      | none => none
      | some tmp =>
        if resendTimeMax < tmp then
          match free s.heap userData with
          | none => none
          | some heap =>
            some ({ s with heap := heap },
              [sendFriendMessageReq conf friendNumber ret userData none])
        else
          -- uint32_t
          let timeInterval := tmp * 2 % 2 ^ 32
          match s.heap.update userData fun _ => timeInterval with
          | none => none
          | some heap =>
            let timer := tipsTimer friendNumber timeInterval userData
            some ({ heap := heap, timers := s.timers ++ [timer] },
              [sendFriendMessageReq conf friendNumber ret userData (some timer)])
  else some (s, [])

/-- A friend request, or the timer at a position of the list going off. -/
inductive Event
  | friendRequest (friendNumber : Nat)
  | timeout (position : Nat)

/-- One callback, with the outcome of its send. A timer goes off once; a position
behind the list is no event. -/
def step (s : State) (i : Event × Bool) : Option (State × List Attempt) :=
  match i.1 with
  | .friendRequest friendNumber =>
    let (s, attempt) := friendRequestCb conf s friendNumber i.2
    some (s, [attempt])
  | .timeout position =>
    match s.timers[position]? with
    | none => some (s, [])
    | some t =>
      eventTimeoutCb conf { s with timers := s.timers.eraseIdx position } t.friendNumber
        t.eventType t.userData i.2

/-- Any interleaving of friend requests and timers. -/
def machine : StepMachine State (Event × Bool) (List Attempt) where
  step := step conf

end Welcome

end FindFriendBot
