import Gotun.Tun.FrpSteps

/-! The two ends of a reverse tunnel, `Frps` and `Frpc`, with the messages between them. Each end
takes the steps that it takes alone; a message is read after it was written, in the order of its
stream. -/

namespace Gotun.Tun
open Gotun.Lib

/-- The next step of `Frpc.handleWorkerStream`. -/
inductive ReverseTunnel.WorkerAt where
  | WriteMsg
  | ReadMsg
  | WrapSrcWithRole
  | GetStream
  | PipePrepared
  | returned
  deriving DecidableEq, Repr

/-- What `doWriteLoop` of a controller has before it. -/
structure ReverseTunnel.Sending where
  sendCh : List Message
  doWriteLoop : Bool
  deriving DecidableEq, Repr

/-- Streams are named as `Frps` names them. `logins` has the stream of each control connection of
`Frpc`, `handlers` its worker streams, `up` and `down` what is on the way on each stream.
`requested` are the business connections that have asked for workers, `told` those that have written
their `StartWorkConn`, and `handed` the worker that each was given. `openedFor` has the number of
the request that each worker stream was opened for, and `outputs` the workers for which `Frpc` has
opened a stream to its target. -/
structure ReverseTunnel where
  frps : Frps
  frpc : frpcController
  logins : List Nat
  handlers : List (Nat × ReverseTunnel.WorkerAt)
  up : List (List Message)
  down : List (List Message)
  sending : List ReverseTunnel.Sending
  requested : List Nat
  told : List Nat
  handed : List (Nat × Nat)
  openedFor : List Nat
  outputs : List Nat
  deriving DecidableEq, Repr

namespace ReverseTunnel

def start : ReverseTunnel := ⟨.NewFrps, .newFrpcController, [], [], [], [], [], [], [], [], [], []⟩

/-- `doWriteLoop` is the one of a controller, `Pong` the answer of its `handleReadMsg`, `sayStart`
the one of a business connection, `worker` a step of `handleWorkerStream`, and `others` a message
from somebody else who has connected to the worker port. -/
inductive Event where
  | frps (e : Frps.Event)
  | doWriteLoop (ctl : Nat) (ok : Bool)
  | Pong (ctl : Nat)
  | sayStart (conn : Nat)
  | frpc (e : frpcController.Event)
  | worker (i : Nat) (ok : Bool) (business : Bool)
  | others (stream : Nat) (m : Message)
  deriving DecidableEq, Repr

def sendUp (stream : Nat) (m : Message) (s : ReverseTunnel) : ReverseTunnel :=
  { s with up := s.up.modify stream (· ++ [m]) }

def sendDown (stream : Nat) (m : Message) (s : ReverseTunnel) : ReverseTunnel :=
  { s with down := s.down.modify stream (· ++ [m]) }

/-- A stream is connected and accepted, with nothing sent on it. -/
def connected (s : ReverseTunnel) : ReverseTunnel :=
  { s with
    frps := { s.frps with streams := s.frps.streams ++ [⟨true, .ReadMsg⟩] }
    up := s.up ++ [[]]
    down := s.down ++ [[]] }

/-- What `GetWorkConn` sends, and whom it gets. -/
def getWorkConn (conn : Nat) (ok : Bool) (f : Frps) (s : ReverseTunnel) : Option ReverseTunnel :=
  match s.frps.business[conn]? with
  | some (.Write ctl) =>
    if ok = (s.sending[ctl]?.any fun q => decide (q.sendCh.length < controllerCap)) then
      some <| if f.business[conn]? = some (.receive ctl) then
        { s with
          frps := f
          sending := s.sending.modify ctl fun q =>
            { q with sendCh := q.sendCh ++ [.ReqWorkConn FrpWorkerCount] }
          requested := s.requested ++ [conn] }
      else { s with frps := f }
    else none
  | some (.receive _) => some <| match f.business[conn]? with
    | some (.serving worker) => { s with frps := f, handed := s.handed ++ [(conn, worker)] }
    | _ => { s with frps := f }
  | _ => some { s with frps := f }

def frpsStep (e : Frps.Event) (s : ReverseTunnel) : Option ReverseTunnel :=
  (s.frps.step e).bind fun f => match e with
  | .accept => some s.connected
  | .read stream (some m) => match s.up[stream]? with
    | some (first :: rest) =>
      if first = m then some { s with frps := f, up := s.up.set stream rest } else none
    | _ => none
  | .read _ none => some { s with frps := f }
  | .handler stream _ => some <|
    if s.frps.controllers.length < f.controllers.length then
      sendDown stream (.LoginResp "" "") { s with frps := f, sending := s.sending ++ [⟨[], true⟩] }
    else { s with frps := f }
  | .business conn ok => s.getWorkConn conn ok f
  | .connect | .timeout _ | .drop _ | .Close => some { s with frps := f }

/-- A failed write ends the loop. -/
def doWriteLoop (ctl : Nat) (ok : Bool) (s : ReverseTunnel) : Option ReverseTunnel :=
  match s.frps.controllers[ctl]?, s.sending[ctl]? with
  | some k, some ⟨m :: rest, true⟩ => some <|
    if ok ∧ s.frps.isOpen k.ctl then
      sendDown k.ctl m { s with sending := s.sending.set ctl ⟨rest, true⟩ }
    else { s with sending := s.sending.set ctl ⟨rest, false⟩ }
  | _, _ => none

def Pong (ctl : Nat) (s : ReverseTunnel) : Option ReverseTunnel :=
  match s.frps.controllers[ctl]?, s.sending[ctl]? with
  | some k, some q =>
    if ¬ k.closed ∧ q.sendCh.length < controllerCap then
      some { s with sending := s.sending.set ctl { q with sendCh := q.sendCh ++ [.Pong] } }
    else none
  | _, _ => none

/-- A `sayStart` that fails is the end of the business connection. -/
def sayStart (conn : Nat) (s : ReverseTunnel) : Option ReverseTunnel :=
  match s.frps.business[conn]? with
  | some (.serving worker) =>
    if conn ∈ s.told then none
    else some (sendDown worker .StartWorkConn { s with told := s.told ++ [conn] })
  | _ => none

/-- What `Frpc` takes from a control connection has been sent on it. -/
def readControl (conn : Nat) (ok : Bool) (arrived : List Message) (c : frpcController)
    (s : ReverseTunnel) : Option ReverseTunnel :=
  if s.frpc.draws conn ok then
    (s.logins[conn]?).bind fun stream => (s.down[stream]?).bind fun wire =>
      if arrived <+: wire then
        some { s with frpc := c, down := s.down.set stream (wire.drop arrived.length) }
      else none
  else some { s with frpc := c }

/-- `createConn` and `GetStream` of the workers connect to the worker port. -/
def frpcStep (e : frpcController.Event) (s : ReverseTunnel) : Option ReverseTunnel :=
  (s.frpc.step e).bind fun c => match e with
  | .Close | .lost _ => some { s with frpc := c }
  | .run ok arrived => match s.frpc.running with
    | .createConn => some <|
      if ok then { s.connected with frpc := c, logins := s.logins ++ [s.frps.streams.length] }
      else { s with frpc := c }
    | .WriteLogin conn => some <| match s.logins[conn]? with
      | some stream =>
        if c.running = .ReadResp conn then sendUp stream (.Login "0.0.1") { s with frpc := c }
        else { s with frpc := c }
      | none => { s with frpc := c }
    | .ReadResp conn | .ReadMsg conn => s.readControl conn ok arrived c
    | .GetStream _ (_ + 1) => some <|
      if ok then
        { s.connected with
          frpc := c
          handlers := s.handlers ++ [(s.frps.streams.length, .WriteMsg)]
          openedFor := s.openedFor ++ [s.frpc.requests] }
      else { s with frpc := c }
    | _ => some { s with frpc := c }

/-- `Frpc.handleWorkerStream`; `business` says whether the stream has the role of business. In
another role it is served without an output. -/
def handleWorkerStream (i : Nat) (ok business : Bool) (s : ReverseTunnel) : Option ReverseTunnel :=
  match s.handlers[i]? with
  | some (stream, .WriteMsg) => some <|
    if ok then sendUp stream .NewWorkConn { s with handlers := s.handlers.set i (stream, .ReadMsg) }
    else { s with handlers := s.handlers.set i (stream, .returned) }
  | some (stream, .ReadMsg) =>
    if ok then match s.down[stream]? with
      | some (m :: rest) => some { s with
          down := s.down.set stream rest
          handlers := s.handlers.set i
            (stream, if m = .StartWorkConn then .WrapSrcWithRole else .returned) }
      | _ => none
    else some { s with handlers := s.handlers.set i (stream, .returned) }
  | some (stream, .WrapSrcWithRole) => some { s with
      handlers := s.handlers.set i (stream, if ok ∧ business then .GetStream else .returned) }
  | some (stream, .GetStream) => some <|
    if ok then
      { s with
        outputs := s.outputs ++ [stream], handlers := s.handlers.set i (stream, .PipePrepared) }
    else { s with handlers := s.handlers.set i (stream, .returned) }
  | some (stream, .PipePrepared) => some { s with handlers := s.handlers.set i (stream, .returned) }
  | some (_, .returned) | none => none

/-- Others write what they like on a stream that is not of `Frpc`. -/
def others (stream : Nat) (m : Message) (s : ReverseTunnel) : Option ReverseTunnel :=
  if stream ∈ s.logins ∨ stream ∈ s.handlers.map Prod.fst then none else some (sendUp stream m s)

def step (s : ReverseTunnel) : Event → Option ReverseTunnel
  | .frps e => s.frpsStep e
  | .doWriteLoop ctl ok => s.doWriteLoop ctl ok
  | .Pong ctl => s.Pong ctl
  | .sayStart conn => s.sayStart conn
  | .frpc e => s.frpcStep e
  | .worker i ok business => s.handleWorkerStream i ok business
  | .others stream m => s.others stream m

def system : System ReverseTunnel Event where
  start s := s = .start
  step := step

variable {s s' : ReverseTunnel}

/-- A request is queued for a controller. -/
def ask (ctl : Nat) (s : ReverseTunnel) : ReverseTunnel :=
  { s with sending := s.sending.modify ctl fun q =>
    { q with sendCh := q.sendCh ++ [.ReqWorkConn FrpWorkerCount] } }

/-- What a step can do to the two ends and to what is between them. -/
inductive Steps (s : ReverseTunnel) : ReverseTunnel → Prop
  | accepted : Steps s s.connected
  | handled {stream : Nat} {f : Frps} (up : List (List Message))
      (handles : Frps.Handles s.frps stream f) :
      Steps s { s with frps := f, up := up }
  | answered {stream : Nat} {f : Frps} (handles : Frps.Handles s.frps stream f) :
      Steps s (sendDown stream (.LoginResp "" "")
        { s with frps := f, sending := s.sending ++ [⟨[], true⟩] })
  | came : Steps s { s with frps := s.frps.connect }
  | looked {conn ctl : Nat} {b : Frps.Business} (at_ : s.frps.business[conn]? =
      some (.GetWorkConn ctl)) (next : b = .Write ctl ∨ b = .receive ctl) :
      Steps s { s with frps := s.frps.setBusiness conn b }
  | asked {conn ctl : Nat} (at_ : s.frps.business[conn]? = some (.Write ctl)) :
      Steps s (ask ctl { s with
        frps := s.frps.setBusiness conn (.receive ctl), requested := s.requested ++ [conn] })
  | refused {conn ctl : Nat} (at_ : s.frps.business[conn]? = some (.Write ctl) ∨
      s.frps.business[conn]? = some (.receive ctl)) :
      Steps s { s with frps := s.frps.setBusiness conn .returned }
  | took {conn ctl worker : Nat} {k : Frps.Controller} {rest : List Nat}
      (at_ : s.frps.business[conn]? = some (.receive ctl))
      (there : s.frps.controllers[ctl]? = some k) (workers : k.workers = worker :: rest) :
      Steps s { s with
        frps := (s.frps.setWorkers ctl rest).setBusiness conn (.serving worker)
        handed := s.handed ++ [(conn, worker)] }
  | served {conn worker : Nat} (at_ : s.frps.business[conn]? = some (.serving worker)) :
      Steps s { s with frps := (s.frps.closeStream worker).setBusiness conn .returned }
  | aside {f : Frps} (aside : Frps.Aside s.frps f) : Steps s { s with frps := f }
  | wrote {ctl stream : Nat} {m : Message} {rest : List Message}
      (there : s.sending[ctl]? = some ⟨m :: rest, true⟩) :
      Steps s (sendDown stream m { s with sending := s.sending.set ctl ⟨rest, true⟩ })
  | ended {ctl : Nat} {m : Message} {rest : List Message}
      (there : s.sending[ctl]? = some ⟨m :: rest, true⟩) :
      Steps s { s with sending := s.sending.set ctl ⟨rest, false⟩ }
  | answers {ctl : Nat} {q : Sending} (there : s.sending[ctl]? = some q) :
      Steps s { s with sending := s.sending.set ctl { q with sendCh := q.sendCh ++ [.Pong] } }
  | started {conn worker : Nat} (at_ : s.frps.business[conn]? = some (.serving worker))
      (once : conn ∉ s.told) :
      Steps s (sendDown worker .StartWorkConn { s with told := s.told ++ [conn] })
  | client {c : frpcController} (up : List (List Message)) (moves : s.frpc.Moves [] c) :
      Steps s { s with frpc := c, up := up }
  | received {stream : Nat} {arrived wire : List Message} {c : frpcController}
      (moves : s.frpc.Moves arrived c)
      (there : s.down[stream]? = some wire) (first : arrived <+: wire) :
      Steps s { s with frpc := c, down := s.down.set stream (wire.drop arrived.length) }
  | loggingIn {c : frpcController} (moves : s.frpc.Moves [] c) :
      Steps s { s.connected with frpc := c, logins := s.logins ++ [s.frps.streams.length] }
  | opened {conn left : Nat} (at_ : s.frpc.running = .GetStream conn (left + 1)) :
      Steps s { s.connected with
        frpc := { s.frpc with workers := s.frpc.workers + 1, running := .GetStream conn left }
        handlers := s.handlers ++ [(s.frps.streams.length, .WriteMsg)]
        openedFor := s.openedFor ++ [s.frpc.requests] }
  | hello {i stream : Nat} (up : List (List Message))
      (there : s.handlers[i]? = some (stream, .WriteMsg)) :
      Steps s { s with handlers := s.handlers.set i (stream, .ReadMsg), up := up }
  | heard {i stream : Nat} {m : Message} {rest : List Message}
      (there : s.handlers[i]? = some (stream, .ReadMsg))
      (wire : s.down[stream]? = some (m :: rest)) :
      Steps s { s with
        down := s.down.set stream rest
        handlers := s.handlers.set i
          (stream, if m = .StartWorkConn then .WrapSrcWithRole else .returned) }
  | wrapped {i stream : Nat} (there : s.handlers[i]? = some (stream, .WrapSrcWithRole)) :
      Steps s { s with handlers := s.handlers.set i (stream, .GetStream) }
  | dialled {i stream : Nat} (there : s.handlers[i]? = some (stream, .GetStream)) :
      Steps s { s with
        outputs := s.outputs ++ [stream], handlers := s.handlers.set i (stream, .PipePrepared) }
  | stopped {i stream : Nat} {at_ : WorkerAt} (there : s.handlers[i]? = some (stream, at_)) :
      Steps s { s with handlers := s.handlers.set i (stream, .returned) }
  | said (up : List (List Message)) : Steps s { s with up := up }

theorem getWorkConn_steps {conn : Nat} {ok : Bool} {f : Frps}
    (next : s.frps.runBusiness conn ok = some f)
    (sends : s.getWorkConn conn ok f = some s') : Steps s s' := by
  have serves := Frps.runBusiness_serves next
  unfold getWorkConn at sends
  cases serves with
  | looked at_ becomes =>
    simp only [at_, Option.some.injEq] at sends
    exact sends ▸ .looked at_ becomes
  | wrote at_ =>
    have below := (List.getElem?_eq_some_iff.mp at_).1
    simp only [at_, Frps.setBusiness, List.getElem?_set_self below, if_true] at sends
    split_ifs at sends
    exact Option.some.inj sends ▸ .asked at_
  | refused at_ =>
    have below := (List.getElem?_eq_some_iff.mp at_).1
    simp only [at_, Frps.setBusiness, List.getElem?_set_self below, Option.some.injEq, reduceCtorEq,
      if_false] at sends
    split_ifs at sends
    exact Option.some.inj sends ▸ .refused (Or.inl at_)
  | took at_ there workers =>
    have below := (List.getElem?_eq_some_iff.mp at_).1
    simp only [at_, Frps.setBusiness, Frps.setWorkers, List.getElem?_set_self below,
      Option.some.injEq] at sends
    exact sends ▸ .took at_ there workers
  | gaveUp at_ =>
    have below := (List.getElem?_eq_some_iff.mp at_).1
    simp only [at_, Frps.setBusiness, List.getElem?_set_self below, Option.some.injEq] at sends
    exact sends ▸ .refused (Or.inr at_)
  | served at_ =>
    simp only [at_, Option.some.injEq] at sends
    exact sends ▸ .served at_

theorem frpsStep_steps {e : Frps.Event} (next : s.frpsStep e = some s') : Steps s s' := by
  obtain ⟨f, moved, next⟩ := Option.bind_eq_some_iff.mp next
  cases e with
  | accept => exact Option.some.inj next ▸ .accepted
  | read stream result =>
    have handles := Frps.read_handles moved
    cases result with
    | none => exact Option.some.inj next ▸ .handled s.up handles
    | some m =>
      dsimp only at next
      split at next
      · split_ifs at next
        exact Option.some.inj next ▸ .handled _ handles
      · contradiction
  | handler stream ok =>
    have handles := Frps.handle_handles moved
    dsimp only at next
    split_ifs at next
    · exact Option.some.inj next ▸ .answered handles
    · exact Option.some.inj next ▸ .handled s.up handles
  | connect =>
    cases moved
    exact Option.some.inj next ▸ .came
  | business conn ok => exact getWorkConn_steps moved next
  | timeout conn =>
    rcases Frps.timeout_gaveUp moved with ⟨ctl, at_, rfl⟩
    exact Option.some.inj next ▸ .refused (Or.inr at_)
  | drop ctl => exact Option.some.inj next ▸ .aside (Frps.drop_aside moved)
  | Close => exact Option.some.inj next ▸ .aside (Frps.Close_aside moved)

theorem readControl_steps {conn : Nat} {ok : Bool} {arrived : List Message} {c : frpcController}
    (moves : s.frpc.Moves (if s.frpc.draws conn ok then arrived else []) c)
    (next : s.readControl conn ok arrived c = some s') :
    Steps s s' := by
  unfold readControl at next
  split_ifs at next with draws
  · rw [if_pos draws] at moves
    obtain ⟨stream, _, next⟩ := Option.bind_eq_some_iff.mp next
    obtain ⟨wire, there, next⟩ := Option.bind_eq_some_iff.mp next
    split_ifs at next with first
    exact Option.some.inj next ▸ .received moves there first
  · rw [if_neg draws] at moves
    exact Option.some.inj next ▸ .client s.up moves

theorem frpcStep_steps {e : frpcController.Event} (next : s.frpcStep e = some s') : Steps s s' := by
  obtain ⟨c, moved, next⟩ := Option.bind_eq_some_iff.mp next
  cases e with
  | Close => exact Option.some.inj next ▸ .client s.up (frpcController.Close_moves moved)
  | lost conn =>
    cases moved
    exact Option.some.inj next ▸ .client s.up (.outside rfl rfl rfl)
  | run ok arrived =>
    dsimp only at next
    split at next
    · rename_i at_
      have moves := frpcController.other_moves (by simp [at_]) (by simp [at_]) moved
      split_ifs at next
      · exact Option.some.inj next ▸ .loggingIn moves
      · exact Option.some.inj next ▸ .client s.up moves
    · rename_i conn at_
      have moves := frpcController.other_moves (by simp [at_]) (by simp [at_]) moved
      split at next
      · split_ifs at next
        · exact Option.some.inj next ▸ .client _ moves
        · exact Option.some.inj next ▸ .client s.up moves
      · exact Option.some.inj next ▸ .client s.up moves
    · rename_i conn at_
      exact readControl_steps (frpcController.ReadResp_moves at_ moved) next
    · rename_i conn at_
      exact readControl_steps (frpcController.ReadMsg_moves at_ moved) next
    · rename_i conn left at_
      split_ifs at next with opens
      · subst opens
        simp only [frpcController.step, frpcController.runStep, at_, if_true, Option.some.injEq] at moved
        subst moved
        cases next
        exact .opened at_
      · have moves :=
          frpcController.other_moves (by simp [at_]) (Or.inl (Bool.eq_false_iff.mpr opens)) moved
        exact Option.some.inj next ▸ .client s.up moves
    · rename_i notConnecting _ notResp notMsg notOpening
      have moves := frpcController.other_moves (fun conn => ⟨notResp conn, notMsg conn⟩)
        (Or.inr notOpening) moved
      exact Option.some.inj next ▸ .client s.up moves

theorem handleWorkerStream_steps {i : Nat} {ok business : Bool}
    (next : s.handleWorkerStream i ok business = some s') : Steps s s' := by
  unfold handleWorkerStream at next
  split at next
  · rename_i stream there
    split_ifs at next
    · exact Option.some.inj next ▸ .hello _ there
    · exact Option.some.inj next ▸ .stopped there
  · rename_i stream there
    split_ifs at next
    · split at next
      · rename_i wire
        exact Option.some.inj next ▸ .heard there wire
      · contradiction
    · exact Option.some.inj next ▸ .stopped there
  · rename_i stream there
    split_ifs at next
    · exact Option.some.inj next ▸ .wrapped there
    · exact Option.some.inj next ▸ .stopped there
  · rename_i stream there
    split_ifs at next
    · exact Option.some.inj next ▸ .dialled there
    · exact Option.some.inj next ▸ .stopped there
  · rename_i stream there
    exact Option.some.inj next ▸ .stopped there
  · contradiction
  · contradiction

theorem step_steps {e : Event} (next : s.step e = some s') : Steps s s' := by
  cases e with
  | frps e => exact frpsStep_steps next
  | doWriteLoop ctl ok =>
    rw [step, doWriteLoop] at next
    split at next
    · rename_i there
      split_ifs at next
      · exact Option.some.inj next ▸ .wrote there
      · exact Option.some.inj next ▸ .ended there
    · contradiction
  | Pong ctl =>
    rw [step, Pong] at next
    split at next
    · rename_i there
      split_ifs at next
      exact Option.some.inj next ▸ .answers there
    · contradiction
  | sayStart conn =>
    rw [step, sayStart] at next
    split at next
    · rename_i at_
      split_ifs at next with told
      exact Option.some.inj next ▸ .started at_ told
    · contradiction
  | frpc e => exact frpcStep_steps next
  | worker i ok business => exact handleWorkerStream_steps next
  | others stream m =>
    rw [step, others] at next
    split_ifs at next
    exact Option.some.inj next ▸ .said _

end ReverseTunnel

end Gotun.Tun
