import NodeGate.Session.Handler

/-!
# Pipelines

A request goes through admission and then runs its handler. Whenever neither the backend nor the
handler can go on, the closing of its channel ends the request; when the handler can go on, its
answer counts. Every way in which a request ends gives back its place among the requests under
way.
-/

namespace NodeGate.Session

/-- A guard with the channels that its requests run on. -/
structure Floor where
  guard : Guard
  channels : List Channel := []

namespace Floor

/-- A channel of the floor. -/
def channel (floor : Floor) (index : Nat) : Channel :=
  floor.channels[index]?.getD {}

/-- Whether a channel is closed. -/
def isClosed (floor : Floor) (index : Nat) : Bool :=
  (floor.channel index).isClosed

/-- A channel closes. -/
def close (floor : Floor) (index : Nat) : Floor :=
  { floor with channels := floor.channels.modify index Channel.close }

/-- The channel of a place, which is added when it is new. -/
def resolve (floor : Floor) : Place → Floor × Nat
  | .existing index => (floor, index)
  | .fresh channel =>
    ({ floor with channels := floor.channels ++ [channel] }, floor.channels.length)

/-- A request ends. -/
def leave (floor : Floor) : Floor :=
  { floor with guard := floor.guard.leave }

/-- A number of requests end. -/
def leaveTimes (floor : Floor) : Nat → Floor
  | 0 => floor
  | count + 1 => floor.leave.leaveTimes count

/-- The request of a frame as its handler sees it now. -/
def view (floor : Floor) (frame : Frame) : View where
  action := frame.request.action
  context := frame.context
  inFlight := floor.guard.active

end Floor

variable {Content : Type}

/-- The place of a request is given back when it has ended. -/
def settlePlace : Floor × Progress Content → Floor × Progress Content
  | (floor, .ended outcome) => (floor.leave, .ended outcome)
  | (floor, .suspended pipeline) => (floor, .suspended pipeline)

/-- Admit a request and start on it. -/
def launch (start : Frame → Floor → Floor × Progress Content) (floor : Floor)
    (request : Request) (channel : Nat) : Floor × Progress Content :=
  let (guard, verdict) := floor.guard.enter.receive request (floor.channel channel)
  let floor := { floor with guard }
  match verdict with
  | .dispatched context => settlePlace (start ⟨request, context, channel⟩ floor)
  | .rejected refusal => (floor.leave, .ended (.failed refusal.error))
  | .waiting context => (floor, .suspended (.asking request channel context))

/-- What a handler answers when the request that it handed on has ended. -/
def answerForwarded (floor : Floor) (frame : Frame) (sent : Headers) :
    Outcome Content → Outcome Content
  | .answered answer => .answered (.forwarded sent answer (floor.view frame))
  | .failed error => .answered (.refused sent error (floor.view frame))
  | .crashed text => .crashed text

/-- A handler that cannot go on either waits or is given up because its channel has closed; the
places of what it was waiting for are given back. -/
def waitOrClose (floor : Floor) (frame : Frame) (innerPlaces : Nat)
    (pipeline : Pipeline Content) : Floor × Progress Content :=
  if floor.isClosed frame.channel then
    (floor.leaveTimes innerPlaces, .ended (.failed .channelClosed))
  else (floor, .suspended pipeline)

/-- A handler goes on after the request that it handed on. -/
def continueForwarded (frame : Frame) (sent : Headers) :
    Floor × Progress Content → Floor × Progress Content
  | (floor, .ended outcome) => (floor, .ended (answerForwarded floor frame sent outcome))
  | (floor, .suspended inner) =>
    waitOrClose floor frame inner.places (.nested frame sent inner)

/-- Run a handler on an admitted request. -/
def runHandler (gateOpen : Bool) : Handler Content → Frame → Floor → Floor × Progress Content
  | .answer content, frame, floor =>
    (floor, .ended (.answered (.plain content (floor.view frame))))
  | .fail text, _, floor => (floor, .ended (.failed (.handler text)))
  | .crash text, _, floor => (floor, .ended (.crashed text))
  | .closeThenAnswer content, frame, floor =>
    let floor := floor.close frame.channel
    (floor, .ended (.answered (.plain content (floor.view frame))))
  | .closeThenWait, frame, floor =>
    (floor.close frame.channel, .ended (.failed .channelClosed))
  | .gate inner, frame, floor =>
    if gateOpen then runHandler gateOpen inner frame floor
    else waitOrClose floor frame 0 (.gated frame inner)
  | .redispatch request place inner, frame, floor =>
    let sent := Outbound.ofContext floor.guard.clusterName frame.context
    let (floor, channel) := floor.resolve place
    continueForwarded frame sent
      (launch (runHandler gateOpen inner) floor (request.withHeaders sent) channel)
  | .checked action request resolved, frame, floor =>
    let summary := frame.request.summary (some frame.context)
    let (guard, result, after) := floor.guard.enforce action request resolved summary
    let floor := { floor with guard }
    match result with
    | .ok () => (floor, .ended (.answered (.checked after (floor.view frame))))
    | .error error => (floor, .ended (.failed error))

/-- Let a request under way go on as far as it can. -/
def poll (gateOpen : Bool) : Pipeline Content → Floor → Floor × Progress Content
  | .asking request channel context, floor =>
    if floor.isClosed channel then
      let guard := floor.guard.bookRejection request (floor.channel channel)
        ⟨.channelClosed, context⟩
      ({ floor with guard := guard.leave }, .ended (.failed .channelClosed))
    else (floor, .suspended (.asking request channel context))
  | .gated frame handler, floor =>
    settlePlace (runHandler gateOpen (.gate handler) frame floor)
  | .nested frame sent inner, floor =>
    settlePlace (continueForwarded frame sent (poll gateOpen inner floor))

end NodeGate.Session
