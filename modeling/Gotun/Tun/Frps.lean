import Gotun.Tun.FrpsController

/-! `tun/frps.go`: where the streams of the worker port are, while their handlers, the business
connections, the controllers that logins put in place and `Close` take their steps in any order. What
`frpsController` does under its lock is one step here. -/

namespace Gotun.Tun

open Gotun.Lib

/-- The next step of `handleWorkerStream`. -/
inductive Frps.Handler where
  | ReadMsg
  | WriteMsg
  | Set (ctl : Nat)
  | Get
  | RegisterWorker (ctl : Nat)
  | returned
  deriving DecidableEq, Repr

structure Frps.WorkerStream where
  isOpen : Bool
  handler : Frps.Handler
  deriving DecidableEq, Repr

/-- `ctl` is the stream of the login. -/
structure Frps.Controller where
  ctl : Nat
  workers : List Nat
  closed : Bool
  deriving DecidableEq, Repr

/-- The next step of `handleInputStream`, from `GetWorkConn` on; `serving` has the worker it was
given. -/
inductive Frps.Business where
  | GetWorkConn (ctl : Nat)
  | Write (ctl : Nat)
  | receive (ctl : Nat)
  | serving (worker : Nat)
  | returned
  deriving DecidableEq, Repr

inductive Frps.Closing where
  | notCalled
  | ctlMgr
  | returned
  deriving DecidableEq, Repr

/-- Streams, controllers and business connections are named by the order in which they came. -/
structure Frps where
  streams : List Frps.WorkerStream
  controllers : List Frps.Controller
  ctlMgr : Option Nat
  business : List Frps.Business
  closing : Frps.Closing
  deriving DecidableEq, Repr

namespace Frps

def NewFrps : Frps := ⟨[], [], none, [], .notCalled⟩

/-- `drop` is the end of a controller's `doReadLoop`, which closes its stream. -/
inductive Event where
  | accept
  | read (stream : Nat) (result : Option Message)
  | handler (stream : Nat) (ok : Bool)
  | connect
  | business (conn : Nat) (ok : Bool)
  | timeout (conn : Nat)
  | drop (ctl : Nat)
  | Close
  deriving DecidableEq, Repr

def setHandler (stream : Nat) (handler : Handler) (s : Frps) : Frps :=
  { s with streams := s.streams.modify stream fun st => { st with handler := handler } }

def closeStream (stream : Nat) (s : Frps) : Frps :=
  { s with streams := s.streams.modify stream fun st => { st with isOpen := false } }

def setBusiness (conn : Nat) (b : Business) (s : Frps) : Frps :=
  { s with business := s.business.set conn b }

def setWorkers (ctl : Nat) (workers : List Nat) (s : Frps) : Frps :=
  { s with controllers := s.controllers.modify ctl fun k => { k with workers := workers } }

/-- `NewFrpsController`, named by the next number. -/
def addController (stream : Nat) (s : Frps) : Frps :=
  { s with controllers := s.controllers ++ [⟨stream, [], false⟩] }

/-- A stream whose first message cannot be read, or is of another kind, is left as it is. -/
def read (stream : Nat) (result : Option Message) (s : Frps) : Option Frps :=
  match s.streams[stream]? with
  | some ⟨_, .ReadMsg⟩ => some <| match result with
    | some (.Login _) => s.setHandler stream .WriteMsg
    | some .NewWorkConn => s.setHandler stream .Get
    | _ => s.setHandler stream .returned
  | _ => none

/-- The error of `RegisterWorker` is not looked at. -/
def RegisterWorker (ctl worker : Nat) (s : Frps) : Frps :=
  match s.controllers[ctl]? with
  | some k =>
    if ¬ k.closed ∧ k.workers.length < controllerCap then s.setWorkers ctl (k.workers ++ [worker])
    else s
  | none => s

/-- What follows the first message; `ok` is the outcome of writing the `LoginResp`. -/
def handle (stream : Nat) (ok : Bool) (s : Frps) : Option Frps :=
  match s.streams[stream]? with
  | some ⟨_, .WriteMsg⟩ => some <|
    if ok then (s.addController stream).setHandler stream (.Set s.controllers.length)
    else s.setHandler stream .returned
  | some ⟨_, .Set ctl⟩ => some { s.setHandler stream .returned with ctlMgr := some ctl }
  | some ⟨_, .Get⟩ => some <| match s.ctlMgr with
    | some ctl => s.setHandler stream (.RegisterWorker ctl)
    | none => s.setHandler stream .returned
  | some ⟨_, .RegisterWorker ctl⟩ => some ((s.RegisterWorker ctl stream).setHandler stream .returned)
  | some ⟨_, .ReadMsg⟩ | some ⟨_, .returned⟩ | none => none

def connect (s : Frps) : Frps :=
  { s with business := s.business ++
    [match s.ctlMgr with | some ctl => .GetWorkConn ctl | none => .returned] }

/-- `ok` says whether the send channel has room. A closed channel still gives what is in it. -/
def runBusiness (conn : Nat) (ok : Bool) (s : Frps) : Option Frps :=
  match s.business[conn]? with
  | some (.GetWorkConn ctl) => (s.controllers[ctl]?).map fun k =>
    s.setBusiness conn (if k.workers.length < FrpWorkerCount / 2 then .Write ctl else .receive ctl)
  | some (.Write ctl) => (s.controllers[ctl]?).map fun k =>
    s.setBusiness conn (if ¬ k.closed ∧ ok then .receive ctl else .returned)
  | some (.receive ctl) => (s.controllers[ctl]?).bind fun k => match k.workers with
    | worker :: rest => some ((s.setWorkers ctl rest).setBusiness conn (.serving worker))
    | [] => if k.closed then some (s.setBusiness conn .returned) else none
  -- the deferred `Close` of the worker, whichever way the connection ends
  | some (.serving worker) => some ((s.closeStream worker).setBusiness conn .returned)
  | some .returned | none => none

def timeout (conn : Nat) (s : Frps) : Option Frps :=
  match s.business[conn]? with
  | some (.receive _) => some (s.setBusiness conn .returned)
  | _ => none

def drop (ctl : Nat) (s : Frps) : Option Frps := (s.controllers[ctl]?).map fun k => s.closeStream k.ctl

/-- `Close` of the controller closes its channels and its stream, and nothing that is queued. -/
def closeController (ctl : Nat) (s : Frps) : Frps :=
  match s.controllers[ctl]? with
  | some k =>
    if k.closed then s
    else { s.closeStream k.ctl with
      controllers := s.controllers.modify ctl fun k => { k with closed := true } }
  | none => s

/-- The first step closes the two listeners. -/
def Close (s : Frps) : Option Frps :=
  match s.closing with
  | .notCalled => some { s with closing := .ctlMgr }
  | .ctlMgr => some <| match s.ctlMgr with
    | some ctl => { s.closeController ctl with closing := .returned }
    | none => { s with closing := .returned }
  | .returned => none

def step (s : Frps) : Event → Option Frps
  | .accept => some { s with streams := s.streams ++ [⟨true, .ReadMsg⟩] }
  | .read stream result => s.read stream result
  | .handler stream ok => s.handle stream ok
  | .connect => some s.connect
  | .business conn ok => s.runBusiness conn ok
  | .timeout conn => s.timeout conn
  | .drop ctl => s.drop ctl
  | .Close => s.Close

def system : System Frps Event where
  start s := s = NewFrps
  step := step

def handlerOf (s : Frps) (stream : Nat) : Option Handler := (s.streams[stream]?).map (·.handler)

def isOpen (s : Frps) (stream : Nat) : Bool := ((s.streams[stream]?).map (·.isOpen)).getD false

def ctlAt (s : Frps) (ctl : Nat) : Option Controller := s.controllers[ctl]?

def current (s : Frps) : Option Controller := s.ctlMgr.bind s.ctlAt

def queue (s : Frps) : List Nat := (s.current.map (·.workers)).getD []

/-- In how many of the four places the stream is: it is the open control stream of the current
controller, it is queued there, it serves a business connection, it is closed. -/
def places (s : Frps) (stream : Nat) : Nat :=
  (if s.current.map (·.ctl) = some stream ∧ s.isOpen stream then 1 else 0) + s.queue.count stream +
    s.business.count (.serving stream) + if s.isOpen stream then 0 else 1

/-- Every stream whose handler has returned is in one place, and after `Close` only those that serve
are open. -/
structure NoneLost (s : Frps) : Prop where
  placed : ∀ stream, s.handlerOf stream = some .returned → s.places stream = 1
  closed : s.closing = .returned → ∀ stream, s.handlerOf stream = some .returned →
    s.isOpen stream = true →
    .serving stream ∈ s.business

/-- The first messages that a handler has a use for. -/
def expected : Option Message → Bool
  | some (.Login _) | some .NewWorkConn => true
  | _ => false

/-- A login is answered, and replaces no controller that still has a stream; the current controller has
room for a worker; and `Close` has not come before them. -/
def HandlerKept (s : Frps) (stream : Nat) (ok : Bool) : Option Handler → Prop
  | some .WriteMsg => ok = true
  | some (.Set _) => s.queue = [] ∧ (s.current.all fun k => !s.isOpen k.ctl) = true ∧
      (s.closing = .returned → s.isOpen stream = false)
  | some .Get => s.ctlMgr ≠ none
  | some (.RegisterWorker ctl) =>
    s.ctlMgr = some ctl ∧ s.queue.length < controllerCap ∧ s.closing ≠ .returned
  | some .ReadMsg | some .returned | none => True

/-- The first message is one that is expected, the handler gets to the end with it, and `Close` comes
when nothing is queued. -/
def Kept (s : Frps) : Event → Prop
  | .read _ result => expected result = true
  | .handler stream ok => s.HandlerKept stream ok (s.handlerOf stream)
  | .Close => s.closing = .ctlMgr → s.queue = []
  | _ => True

instance (s : Frps) (stream : Nat) (ok : Bool) :
    (h : Option Handler) → Decidable (s.HandlerKept stream ok h)
  | some .WriteMsg => inferInstanceAs (Decidable (ok = true))
  | some (.Set _) =>
    inferInstanceAs (Decidable (s.queue = [] ∧ (s.current.all fun k => !s.isOpen k.ctl) = true ∧
      (s.closing = .returned → s.isOpen stream = false)))
  | some .Get => inferInstanceAs (Decidable (s.ctlMgr ≠ none))
  | some (.RegisterWorker ctl) =>
    inferInstanceAs
      (Decidable (s.ctlMgr = some ctl ∧ s.queue.length < controllerCap ∧ s.closing ≠ .returned))
  | some .ReadMsg | some .returned | none => isTrue trivial

instance (s : Frps) : (e : Event) → Decidable (s.Kept e)
  | .read _ result => inferInstanceAs (Decidable (expected result = true))
  | .handler stream ok => inferInstanceAs (Decidable (s.HandlerKept stream ok (s.handlerOf stream)))
  | .Close => inferInstanceAs (Decidable (s.closing = .ctlMgr → s.queue = []))
  | .accept | .connect | .business _ _ | .timeout _ | .drop _ => isTrue trivial

/-- The handler still has the stream. -/
def handling (s : Frps) (stream : Nat) : Nat :=
  if s.handlerOf stream ≠ some .returned ∧ s.isOpen stream then 1 else 0

/-- Before the controller of a login is made, nobody but the handler knows the stream. -/
def Handler.plain : Handler → Bool
  | .Set _ | .returned => false
  | _ => true

/-- The controllers, the logins that made them, and the one in place. -/
structure Wired (s : Frps) : Prop where
  ctls : ∀ c k, s.ctlAt c = some k → s.handlerOf k.ctl = some .returned ∨
    s.handlerOf k.ctl = some (.Set c)
  logins : ∀ stream c, s.handlerOf stream = some (.Set c) → ∃ k, s.ctlAt c = some k ∧ k.ctl = stream
  installed : ∀ c, s.ctlMgr = some c → ∃ k, s.ctlAt c = some k ∧ s.handlerOf k.ctl = some .returned
  others : ∀ c k, s.ctlAt c = some k → s.ctlMgr ≠ some c → k.workers = []
  unclosed : s.closing ≠ .returned → ∀ c k, s.ctlAt c = some k → k.closed = false

structure Sound (s : Frps) : Prop where
  wired : s.Wired
  once : ∀ stream, s.places stream + s.handling stream = 1
  plain : ∀ stream h, s.handlerOf stream = some h → h.plain = true → s.isOpen stream = true
  apart : ∀ c k, s.ctlAt c = some k → k.ctl ∉ s.queue ∧ .serving k.ctl ∉ s.business
  closed : s.closing = .returned → s.queue = [] ∧ ∀ k, s.current = some k → s.isOpen k.ctl = false

/-- No controller is added or put in place, and only the one in place gets or gives a worker. -/
structure Rewired (s t : Frps) : Prop where
  ctlMgr : t.ctlMgr = s.ctlMgr
  closing : s.closing = .returned → t.closing = .returned
  before : ∀ c k, t.ctlAt c = some k → ∃ k', s.ctlAt c = some k' ∧ k'.ctl = k.ctl ∧
    (s.ctlMgr ≠ some c → k.workers = k'.workers) ∧ (t.closing ≠ .returned → k.closed = k'.closed)
  after : ∀ c k, s.ctlAt c = some k → ∃ k', t.ctlAt c = some k' ∧ k'.ctl = k.ctl
  returned : ∀ stream, s.handlerOf stream = some .returned → t.handlerOf stream = some .returned
  logins : ∀ stream c, t.handlerOf stream = some (.Set c) ↔ s.handlerOf stream = some (.Set c)

section views

variable (s : Frps) (stream other : Nat) (h : Handler) (b : Business)

@[simp] theorem handlerOf_setHandler : (s.setHandler stream h).handlerOf other =
    if stream = other then (s.handlerOf other).map fun _ => h else s.handlerOf other := by
  by_cases same : stream = other
  · simp [handlerOf, setHandler, same, Function.comp_def]
  · simp [handlerOf, setHandler, same]

@[simp] theorem isOpen_setHandler : (s.setHandler stream h).isOpen other = s.isOpen other := by
  by_cases same : stream = other
  · simp [isOpen, setHandler, same, Function.comp_def]
  · simp [isOpen, setHandler, same]

@[simp] theorem handlerOf_closeStream : (s.closeStream stream).handlerOf other = s.handlerOf other := by
  by_cases same : stream = other
  · simp [handlerOf, closeStream, same, Function.comp_def]
  · simp [handlerOf, closeStream, same]

@[simp] theorem isOpen_closeStream : (s.closeStream stream).isOpen other =
    if stream = other then false else s.isOpen other := by
  by_cases same : stream = other
  · cases found : s.streams[other]? <;> simp [isOpen, closeStream, same, found]
  · simp [isOpen, closeStream, same]

@[simp] theorem ctlAt_setHandler : (s.setHandler stream h).ctlAt other = s.ctlAt other := rfl

@[simp] theorem current_setHandler : (s.setHandler stream h).current = s.current := rfl

@[simp] theorem queue_setHandler : (s.setHandler stream h).queue = s.queue := rfl

@[simp] theorem places_setHandler : (s.setHandler stream h).places other = s.places other := by
  simp only [places, isOpen_setHandler, current_setHandler, queue_setHandler]
  rfl

@[simp] theorem ctlAt_closeStream : (s.closeStream stream).ctlAt other = s.ctlAt other := rfl

@[simp] theorem current_closeStream : (s.closeStream stream).current = s.current := rfl

@[simp] theorem queue_closeStream : (s.closeStream stream).queue = s.queue := rfl

@[simp] theorem handlerOf_addController :
    (s.addController stream).handlerOf other = s.handlerOf other := rfl

@[simp] theorem isOpen_addController : (s.addController stream).isOpen other = s.isOpen other := rfl

@[simp] theorem ctlAt_addController : (s.addController stream).ctlAt other =
    if other = s.controllers.length then some ⟨stream, [], false⟩ else s.ctlAt other := by
  by_cases last : other = s.controllers.length
  · simp [ctlAt, addController, last]
  · simp only [ctlAt, addController, last, if_false]
    rcases Nat.lt_or_gt_of_ne last with less | more
    · exact List.getElem?_append_left less
    · rw [List.getElem?_eq_none (by simp; omega), List.getElem?_eq_none (Nat.le_of_lt more)]

@[simp] theorem ctlAt_setWorkers (workers : List Nat) : (s.setWorkers stream workers).ctlAt other =
    if stream = other then (s.ctlAt other).map fun k => { k with workers := workers }
    else s.ctlAt other := by
  by_cases same : stream = other
  · simp [ctlAt, setWorkers, same]
  · simp [ctlAt, setWorkers, same]

end views

section steps

variable {s s' : Frps} {stream ctl conn : Nat}

theorem Rewired.of_eq (controllers : s'.controllers = s.controllers) (ctlMgr : s'.ctlMgr = s.ctlMgr)
    (closing : s'.closing = s.closing)
    (returned : ∀ stream, s.handlerOf stream = some .returned → s'.handlerOf stream = some .returned)
    (logins : ∀ stream c, s'.handlerOf stream = some (.Set c) ↔
      s.handlerOf stream = some (.Set c)) : Rewired s s' where
  ctlMgr := ctlMgr
  closing := closing ▸ id
  before c k found := ⟨k, by rwa [ctlAt, controllers] at found, rfl, fun _ => rfl, fun _ => rfl⟩
  after c k found := ⟨k, by rwa [ctlAt, controllers], rfl⟩
  returned := returned
  logins := logins

theorem Rewired.trans {t : Frps} (first : Rewired s s') (second : Rewired s' t) : Rewired s t where
  ctlMgr := second.ctlMgr.trans first.ctlMgr
  closing := second.closing ∘ first.closing
  before c k found := by
    obtain ⟨k₁, found₁, own₁, workers₁, closed₁⟩ := second.before c k found
    obtain ⟨k₀, found₀, own₀, workers₀, closed₀⟩ := first.before c k₁ found₁
    refine ⟨k₀, found₀, own₀.trans own₁, ?_, ?_⟩
    · intro other
      exact (workers₁ (first.ctlMgr ▸ other)).trans (workers₀ other)
    · intro notReturned
      exact (closed₁ notReturned).trans (closed₀ (mt second.closing notReturned))
  after c k found := by
    obtain ⟨k₁, found₁, own₁⟩ := first.after c k found
    obtain ⟨k₂, found₂, own₂⟩ := second.after c k₁ found₁
    exact ⟨k₂, found₂, own₂.trans own₁⟩
  returned stream handled := second.returned stream (first.returned stream handled)
  logins stream c := (second.logins stream c).trans (first.logins stream c)

theorem Rewired.wired (same : Rewired s s') (wired : s.Wired) : s'.Wired where
  ctls c k found := by
    obtain ⟨k', found', own, _⟩ := same.before c k found
    rcases wired.ctls c k' found' with returned | setting
    · exact .inl (own ▸ same.returned _ returned)
    · exact .inr ((same.logins _ c).mpr (own ▸ setting))
  logins stream c handled := by
    obtain ⟨k, found, own⟩ := wired.logins stream c ((same.logins stream c).mp handled)
    obtain ⟨k', found', own'⟩ := same.after c k found
    exact ⟨k', found', own'.trans own⟩
  installed c installed := by
    obtain ⟨k, found, returned⟩ := wired.installed c (same.ctlMgr ▸ installed)
    obtain ⟨k', found', own⟩ := same.after c k found
    exact ⟨k', found', own ▸ same.returned _ returned⟩
  others c k found other := by
    obtain ⟨k', found', _, workers, _⟩ := same.before c k found
    have other' : s.ctlMgr ≠ some c := same.ctlMgr ▸ other
    exact (workers other').trans (wired.others c k' found' other')
  unclosed notReturned c k found := by
    obtain ⟨k', found', _, _, closed⟩ := same.before c k found
    exact (closed notReturned).trans (wired.unclosed (mt same.closing notReturned) c k' found')

theorem Rewired.closeStream (s : Frps) (stream : Nat) : Rewired s (s.closeStream stream) :=
  .of_eq rfl rfl rfl (fun _ handled => by rwa [handlerOf_closeStream])
    (fun _ _ => by rw [handlerOf_closeStream])

theorem Rewired.setBusiness (s : Frps) (conn : Nat) (b : Business) : Rewired s (s.setBusiness conn b) :=
  .of_eq rfl rfl rfl (fun _ handled => handled) (fun _ _ => Iff.rfl)

/-- The handler goes on, and neither comes to a `Set` nor from one. -/
theorem Rewired.setHandler {h h' : Handler} (at_ : s.handlerOf stream = some h) (before : h.plain = true)
    (after : ∀ c, h' ≠ .Set c) : Rewired s (s.setHandler stream h') := by
  refine .of_eq rfl rfl rfl ?_ ?_
  · intro other returned
    grind [handlerOf_setHandler, Handler.plain]
  · intro other c
    grind [handlerOf_setHandler, Handler.plain]

theorem Rewired.setWorkers (installed : s.ctlMgr = some ctl) (workers : List Nat) :
    Rewired s (s.setWorkers ctl workers) where
  ctlMgr := rfl
  closing := id
  before c k found := by
    rw [ctlAt_setWorkers] at found
    split at found
    · rename_i same
      obtain ⟨k', found', rfl⟩ := Option.map_eq_some_iff.mp found
      exact ⟨k', found', rfl, fun other => absurd (same ▸ installed) other, fun _ => rfl⟩
    · exact ⟨k, found, rfl, fun _ => rfl, fun _ => rfl⟩
  after c k found := by
    rw [ctlAt_setWorkers, found]
    split
    · exact ⟨_, rfl, rfl⟩
    · exact ⟨k, rfl, rfl⟩
  returned _ handled := handled
  logins _ _ := Iff.rfl

/-- Nobody else has a stream that is still with its handler. -/
theorem Sound.free (sound : s.Sound) (busy : s.handlerOf stream ≠ some .returned) :
    stream ∉ s.queue ∧ .serving stream ∉ s.business := by
  have one := sound.once stream
  simp only [handling, places] at one
  rw [← List.count_eq_zero, ← List.count_eq_zero]
  grind

/-- No controller has the stream before its login is answered. -/
theorem Wired.not_ctl (wired : s.Wired) (at_ : s.handlerOf stream ≠ some .returned)
    (other : ∀ c, s.handlerOf stream ≠ some (.Set c)) {c : Nat} {k : Controller}
    (found : s.ctlAt c = some k) :
    k.ctl ≠ stream := by
  intro same
  rcases wired.ctls c k found with returned | setting
  · exact at_ (same ▸ returned)
  · exact other c (same ▸ setting)

theorem current_eq {k : Controller} (installed : s.ctlMgr = some ctl)
    (found : s.ctlAt ctl = some k) : s.current = some k := by
  rw [current, installed]
  exact found

theorem queue_eq {k : Controller} (current : s.current = some k) : s.queue = k.workers := by
  rw [queue, current]
  rfl

theorem Sound.advance {h h' : Handler} (sound : s.Sound) (at_ : s.handlerOf stream = some h)
    (before : h.plain = true) (after : h'.plain = true) : (s.setHandler stream h').Sound where
  wired := by
    refine (Rewired.setHandler at_ before ?_).wired sound.wired
    rintro c rfl
    cases after
  once := by
    intro other
    have one := sound.once other
    simp only [handling, handlerOf_setHandler, isOpen_setHandler, places_setHandler] at one ⊢
    grind [Handler.plain]
  plain := by
    intro other g found isPlain
    rw [isOpen_setHandler]
    grind [sound.plain, handlerOf_setHandler]
  apart := sound.apart
  closed := by
    intro returned
    simpa using sound.closed returned

theorem ctlAt_lt {k : Controller} (found : s.ctlAt ctl = some k) : ctl < s.controllers.length :=
  (List.getElem?_eq_some_iff.mp found).1

variable (stream) in
theorem Wired.current_addController (wired : s.Wired) :
    (s.addController stream).current = s.current := by
  cases installed : s.ctlMgr with
  | none => simp [current, addController, installed]
  | some c =>
    obtain ⟨k, found, _⟩ := wired.installed c installed
    have other : c ≠ s.controllers.length := Nat.ne_of_lt (ctlAt_lt found)
    have same : (s.addController stream).ctlMgr = some c := installed
    simp [current, installed, same, other]

theorem Wired.login (wired : s.Wired) (at_ : s.handlerOf stream = some .WriteMsg) :
    ((s.addController stream).setHandler stream (.Set s.controllers.length)).Wired where
  ctls := by
    intro c k found
    simp only [handlerOf_setHandler, ctlAt_setHandler, handlerOf_addController,
      ctlAt_addController] at found ⊢
    grind [wired.ctls]
  logins := by
    intro other c found
    simp only [handlerOf_setHandler, ctlAt_setHandler, handlerOf_addController,
      ctlAt_addController] at found ⊢
    split at found
    · rename_i same
      rw [← same, at_] at found
      cases found
      exact ⟨_, if_pos rfl, same⟩
    · obtain ⟨k, there, own⟩ := wired.logins other c found
      exact ⟨k, by rw [if_neg (Nat.ne_of_lt (ctlAt_lt there)), there], own⟩
  installed := by
    intro c installed
    obtain ⟨k, found, returned⟩ := wired.installed c installed
    refine ⟨k, ?_, ?_⟩
    · rw [ctlAt_setHandler, ctlAt_addController, if_neg (Nat.ne_of_lt (ctlAt_lt found)), found]
    · grind [handlerOf_setHandler, handlerOf_addController]
  others := by
    intro c k found notCurrent
    simp only [ctlAt_setHandler, ctlAt_addController] at found
    split at found
    · exact Option.some.inj found ▸ rfl
    · exact wired.others c k found notCurrent
  unclosed := by
    intro notReturned c k found
    simp only [ctlAt_setHandler, ctlAt_addController] at found
    split at found
    · exact Option.some.inj found ▸ rfl
    · exact wired.unclosed notReturned c k found

/-- The stream of a login becomes that of a controller which is not in place yet. -/
theorem Sound.login (sound : s.Sound) (at_ : s.handlerOf stream = some .WriteMsg) :
    ((s.addController stream).setHandler stream (.Set s.controllers.length)).Sound := by
  have current := sound.wired.current_addController stream
  have queue : (s.addController stream).queue = s.queue := by rw [Frps.queue, current, Frps.queue]
  have places (other : Nat) : (s.addController stream).places other = s.places other := by
    simp only [Frps.places, current, queue, isOpen_addController]
    rfl
  refine ⟨sound.wired.login at_, ?_, ?_, ?_, ?_⟩
  · intro other
    have one := sound.once other
    simp only [handling, handlerOf_setHandler, isOpen_setHandler, places_setHandler,
      handlerOf_addController, isOpen_addController, places] at one ⊢
    grind
  · intro other g found isPlain
    simp only [handlerOf_setHandler, isOpen_setHandler, handlerOf_addController,
      isOpen_addController] at found ⊢
    grind [sound.plain, Handler.plain]
  · intro c k found
    simp only [ctlAt_setHandler, ctlAt_addController, queue_setHandler, queue] at found ⊢
    split at found
    · exact Option.some.inj found ▸ sound.free (by simp [at_])
    · exact sound.apart c k found
  · intro returned
    simpa [queue, current] using sound.closed returned

/-- The controller in place is not one that a login is still to put there. -/
theorem Wired.not_installed (wired : s.Wired)
    (at_ : s.handlerOf stream = some (.Set ctl)) : s.ctlMgr ≠ some ctl := by
  intro installed
  obtain ⟨k, found, returned⟩ := wired.installed ctl installed
  obtain ⟨k', found', same⟩ := wired.logins stream ctl at_
  cases found.symm.trans found'
  cases (same ▸ returned).symm.trans at_

theorem Wired.set (wired : s.Wired) (at_ : s.handlerOf stream = some (.Set ctl)) (empty : s.queue = []) :
    Wired { s.setHandler stream .returned with ctlMgr := some ctl } := by
  obtain ⟨k, found, own⟩ := wired.logins stream ctl at_
  have handlers (other : Nat) :
    handlerOf { s.setHandler stream .returned with ctlMgr := some ctl } other =
      if stream = other then (s.handlerOf other).map fun _ => .returned else s.handlerOf other :=
    handlerOf_setHandler s stream other .returned
  constructor
  case ctls =>
    intro c k' found'
    rw [handlers]
    grind [wired.ctls c k' found']
  case logins =>
    intro other c found'
    rw [handlers] at found'
    have before : s.handlerOf other = some (.Set c) := by grind
    exact wired.logins other c before
  case installed =>
    intro c installed
    cases Option.some.inj installed
    refine ⟨k, found, ?_⟩
    rw [handlers, if_pos own.symm, own, at_]
    rfl
  case others =>
    intro c k' found' _
    by_cases before : s.ctlMgr = some c
    · exact (queue_eq (current_eq before found')).symm.trans empty
    · exact wired.others c k' found' before
  case unclosed => exact wired.unclosed

/-- A login puts its controller in the place of one that has no stream left. -/
theorem Sound.set (sound : s.Sound) (at_ : s.handlerOf stream = some (.Set ctl))
    (empty : s.queue = []) (dropped : (s.current.all fun k => !s.isOpen k.ctl) = true)
    (inTime : s.closing = .returned → s.isOpen stream = false) :
    Sound { s.setHandler stream .returned with ctlMgr := some ctl } := by
  obtain ⟨k, found, own⟩ := sound.wired.logins stream ctl at_
  have busy : s.handlerOf stream ≠ some .returned := by simp [at_]
  have free := sound.free busy
  have gone (other : Nat) : ¬ (s.current.map (·.ctl) = some other ∧ s.isOpen other = true) := by
    rintro ⟨controls, open_⟩
    obtain ⟨k', current, rfl⟩ := Option.map_eq_some_iff.mp controls
    rw [current, Option.all_some, open_] at dropped
    contradiction
  have wired := sound.wired.set at_ empty
  generalize made : ({ s.setHandler stream .returned with ctlMgr := some ctl } : Frps) = t at wired
  have current : t.current = some k := by
    rw [← made]
    exact found
  have queue : t.queue = [] := by
    rw [queue_eq current]
    exact sound.wired.others ctl k found (sound.wired.not_installed at_)
  have handlers (other : Nat) : t.handlerOf other =
      if stream = other then (s.handlerOf other).map fun _ => .returned else s.handlerOf other := by
    rw [← made]
    exact handlerOf_setHandler s stream other .returned
  have opens (other : Nat) : t.isOpen other = s.isOpen other := by
    rw [← made]
    exact isOpen_setHandler s stream other .returned
  have business : t.business = s.business := by rw [← made]; rfl
  refine ⟨wired, ?_, ?_, ?_, ?_⟩
  · intro other
    have one := sound.once other
    have notServing : s.business.count (.serving stream) = 0 := List.count_eq_zero.mpr free.2
    simp only [handling, places, empty, if_neg (gone other)] at one
    simp only [handling, places, queue, current, handlers, opens, business, Option.map_some, own]
    by_cases same : stream = other
    · cases same
      simp only [at_, notServing] at one ⊢
      grind
    · grind
  · intro other g found isPlain
    rw [handlers] at found
    rw [opens]
    grind [sound.plain, Handler.plain]
  · intro c k' found'
    rw [queue, business]
    rw [← made] at found'
    exact ⟨List.not_mem_nil, (sound.apart c k' found').2⟩
  · intro returned
    refine ⟨queue, ?_⟩
    intro k' current'
    cases current.symm.trans current'
    rw [opens, own]
    rw [← made] at returned
    exact inTime returned

theorem ctlAt_current {k : Controller} (current : s.current = some k) :
    ∃ c, s.ctlMgr = some c ∧ s.ctlAt c = some k :=
  Option.bind_eq_some_iff.mp current

theorem current_setWorkers {k : Controller} (installed : s.ctlMgr = some ctl)
    (found : s.ctlAt ctl = some k) (workers : List Nat) :
    (s.setWorkers ctl workers).current = some { k with workers := workers } := by
  have updated : (s.setWorkers ctl workers).ctlAt ctl = some { k with workers := workers } := by
    rw [ctlAt_setWorkers, if_pos rfl, found]
    rfl
  exact current_eq installed updated

/-- A worker is queued where the next business connections look for it. -/
theorem Sound.register (sound : s.Sound) (at_ : s.handlerOf stream = some (.RegisterWorker ctl))
    (installed : s.ctlMgr = some ctl) (room : s.queue.length < controllerCap)
    (inTime : s.closing ≠ .returned) :
    ((s.RegisterWorker ctl stream).setHandler stream .returned).Sound := by
  obtain ⟨k, found, _⟩ := sound.wired.installed ctl installed
  have current : s.current = some k := current_eq installed found
  have queue : s.queue = k.workers := queue_eq current
  have registered : s.RegisterWorker ctl stream = s.setWorkers ctl (k.workers ++ [stream]) := by
    have unclosed := sound.wired.unclosed inTime ctl k found
    rw [ctlAt] at found
    rw [RegisterWorker, found]
    exact if_pos ⟨by simp [unclosed], queue ▸ room⟩
  rw [registered]
  have rewired : Rewired s ((s.setWorkers ctl (k.workers ++ [stream])).setHandler stream .returned) :=
    (Rewired.setWorkers installed _).trans (.setHandler at_ rfl (by simp))
  have current' := current_setWorkers installed found (k.workers ++ [stream])
  have queue' : (s.setWorkers ctl (k.workers ++ [stream])).queue = s.queue ++ [stream] := by
    rw [queue_eq current', queue]
  have busy : s.handlerOf stream ≠ some .returned := by simp [at_]
  have free := sound.free busy
  have opened : s.isOpen stream = true := sound.plain stream _ at_ rfl
  have notCtl {c : Nat} {k' : Controller} (found' : s.ctlAt c = some k') : k'.ctl ≠ stream :=
    sound.wired.not_ctl (by simp [at_]) (by simp [at_]) found'
  have handlers (other : Nat) : (s.setWorkers ctl (k.workers ++ [stream])).handlerOf other =
      s.handlerOf other :=
    rfl
  have opens (other : Nat) :
      (s.setWorkers ctl (k.workers ++ [stream])).isOpen other = s.isOpen other :=
    rfl
  have business : (s.setWorkers ctl (k.workers ++ [stream])).business = s.business := rfl
  refine ⟨rewired.wired sound.wired, ?_, ?_, ?_, fun returned => absurd returned inTime⟩
  · intro other
    have one := sound.once other
    simp only [handling, places, current, Option.map_some, Option.some.injEq] at one
    rw [places_setHandler]
    simp only [handling, places, queue', current', handlerOf_setHandler, isOpen_setHandler,
      handlers, opens, business, Option.map_some, Option.some.injEq, List.count_append,
      List.count_singleton]
    by_cases same : stream = other
    · cases same
      have notServing : s.business.count (.serving stream) = 0 := List.count_eq_zero.mpr free.2
      have notQueued : s.queue.count stream = 0 := List.count_eq_zero.mpr free.1
      simp [at_, notServing, notQueued, opened, notCtl found]
    · simp only [same, if_false, beq_iff_eq]
      omega
  · intro other g found' isPlain
    rw [handlerOf_setHandler, handlers] at found'
    rw [isOpen_setHandler, opens]
    grind [sound.plain, Handler.plain]
  · intro c k' found'
    obtain ⟨k₀, found₀, own, _⟩ := rewired.before c k' found'
    have apart := sound.apart c k₀ found₀
    rw [own] at apart
    refine ⟨?_, apart.2⟩
    rw [queue_setHandler, queue', List.mem_append, List.mem_singleton]
    exact not_or.mpr ⟨apart.1, own ▸ notCtl found₀⟩

theorem count_setBusiness {old : Business} (found : s.business[conn]? = some old) (new b : Business) :
    (s.setBusiness conn new).business.count b + (if old = b then 1 else 0) =
      s.business.count b + if new = b then 1 else 0 := by
  obtain ⟨bound, rfl⟩ := List.getElem?_eq_some_iff.mp found
  have counted := List.count_set (a := new) (b := b) bound
  have among : s.business[conn] = b → 0 < s.business.count b := by
    intro same
    exact List.count_pos_iff.mpr (same ▸ List.getElem_mem bound)
  simp only [setBusiness, beq_iff_eq] at counted ⊢
  grind

/-- The business connections go on, and none of them is given a worker or gives one up. -/
theorem Sound.of_business {business : List Business} (sound : s.Sound)
    (serving : ∀ worker, business.count (.serving worker) = s.business.count (.serving worker)) :
    Sound { s with business := business } := by
  have rewired : Rewired s { s with business := business } :=
    .of_eq rfl rfl rfl (fun _ handled => handled) (fun _ _ => Iff.rfl)
  refine ⟨rewired.wired sound.wired, ?_, sound.plain, ?_, sound.closed⟩
  · intro stream
    rw [places, serving]
    exact sound.once stream
  · intro c k found
    have apart := sound.apart c k found
    rw [← List.count_eq_zero (l := s.business), ← serving, List.count_eq_zero] at apart
    exact apart

theorem Sound.setBusiness {old new : Business} (sound : s.Sound) (found : s.business[conn]? = some old)
    (before : ∀ worker, old ≠ .serving worker) (after : ∀ worker, new ≠ .serving worker) :
    (s.setBusiness conn new).Sound := by
  refine sound.of_business ?_
  intro worker
  have counted := count_setBusiness found new (.serving worker)
  rwa [if_neg (before worker), if_neg (after worker)] at counted

theorem Sound.connect (sound : s.Sound) : s.connect.Sound := by
  refine sound.of_business ?_
  intro worker
  rw [List.count_append]
  cases s.ctlMgr <;> simp

/-- The head of the queue goes to the business connection. -/
theorem Sound.take {k : Controller} {worker : Nat} {rest : List Nat} (sound : s.Sound)
    (at_ : s.business[conn]? = some (.receive ctl)) (found : s.ctlAt ctl = some k)
    (workers : k.workers = worker :: rest) :
    ((s.setWorkers ctl rest).setBusiness conn (.serving worker)).Sound := by
  have installed : s.ctlMgr = some ctl := by
    by_contra other
    cases workers.symm.trans (sound.wired.others ctl k found other)
  have current : s.current = some k := current_eq installed found
  have queue : s.queue = worker :: rest := (queue_eq current).trans workers
  have counted (b : Business) := count_setBusiness at_ (.serving worker) b
  have rewired : Rewired s ((s.setWorkers ctl rest).setBusiness conn (.serving worker)) :=
    (Rewired.setWorkers installed rest).trans (.setBusiness _ conn _)
  generalize made : (s.setWorkers ctl rest).setBusiness conn (.serving worker) = t at rewired
  have current' : t.current = some { k with workers := rest } := by
    rw [← made]
    exact current_setWorkers installed found rest
  have queue' : t.queue = rest := queue_eq current'
  have handlers (other : Nat) : t.handlerOf other = s.handlerOf other := by rw [← made]; rfl
  have opens (other : Nat) : t.isOpen other = s.isOpen other := by rw [← made]; rfl
  have business : t.business = (s.setBusiness conn (.serving worker)).business := by rw [← made]; rfl
  refine ⟨rewired.wired sound.wired, ?_, ?_, ?_, ?_⟩
  · intro other
    have one := sound.once other
    have count := counted (.serving other)
    simp only [handling, places, current, queue, Option.map_some, List.count_cons, beq_iff_eq] at one
    simp only [handling, places, current', queue', business, handlers, opens, Option.map_some]
    grind
  · intro other g found' isPlain
    rw [handlers] at found'
    rw [opens]
    exact sound.plain other g found' isPlain
  · intro c k' found'
    obtain ⟨k₀, found₀, own, _⟩ := rewired.before c k' found'
    have apart := sound.apart c k₀ found₀
    have count := counted (.serving k'.ctl)
    rw [own, queue, ← List.count_eq_zero (l := s.business)] at apart
    rw [queue', business, ← List.count_eq_zero (l := (s.setBusiness conn (.serving worker)).business)]
    grind
  · intro returned
    rw [← made] at returned
    cases queue.symm.trans (sound.closed returned).1

/-- The business connection that held the worker has closed it. -/
theorem Sound.finish {worker : Nat} (sound : s.Sound)
    (found : s.business[conn]? = some (.serving worker)) :
    ((s.closeStream worker).setBusiness conn .returned).Sound := by
  have counted (b : Business) := count_setBusiness found .returned b
  have served : 0 < s.business.count (.serving worker) :=
    List.count_pos_iff.mpr (List.mem_of_getElem? found)
  have returned : s.handlerOf worker = some .returned := by
    by_contra busy
    exact (sound.free busy).2 (List.mem_of_getElem? found)
  have rewired : Rewired s ((s.closeStream worker).setBusiness conn .returned) :=
    (Rewired.closeStream s worker).trans (.setBusiness _ conn _)
  generalize made : (s.closeStream worker).setBusiness conn .returned = t at rewired
  have handlers (other : Nat) : t.handlerOf other = s.handlerOf other := by
    rw [← made]
    exact handlerOf_closeStream s worker other
  have opens (other : Nat) : t.isOpen other = if worker = other then false else s.isOpen other := by
    rw [← made]
    exact isOpen_closeStream s worker other
  have current : t.current = s.current := by rw [← made]; rfl
  have queue : t.queue = s.queue := by rw [← made]; rfl
  have business : t.business = (s.setBusiness conn .returned).business := by rw [← made]; rfl
  refine ⟨rewired.wired sound.wired, ?_, ?_, ?_, ?_⟩
  · intro other
    have one := sound.once other
    have count := counted (.serving other)
    simp only [handling, places, current, queue, business, handlers, opens] at one ⊢
    grind
  · intro other g found' isPlain
    rw [handlers] at found'
    rw [opens]
    grind [sound.plain, Handler.plain]
  · intro c k found'
    obtain ⟨k₀, found₀, own, _⟩ := rewired.before c k found'
    have apart := sound.apart c k₀ found₀
    have count := counted (.serving k.ctl)
    rw [own, ← List.count_eq_zero (l := s.business)] at apart
    rw [queue, business, ← List.count_eq_zero (l := (s.setBusiness conn .returned).business)]
    grind
  · intro returned'
    rw [← made] at returned'
    obtain ⟨empty, shut⟩ := sound.closed returned'
    refine ⟨queue.trans empty, ?_⟩
    intro k current'
    rw [opens, shut k (current ▸ current'), ite_self]

/-- The control stream of a controller is closed, the controller being in place or not. -/
theorem Sound.drop {k : Controller} (sound : s.Sound) (found : s.ctlAt ctl = some k) :
    (s.closeStream k.ctl).Sound := by
  have apart := sound.apart ctl k found
  rw [← List.count_eq_zero, ← List.count_eq_zero] at apart
  have handled := sound.wired.ctls ctl k found
  refine ⟨(Rewired.closeStream s k.ctl).wired sound.wired, ?_, ?_, sound.apart, ?_⟩
  · intro other
    have one := sound.once other
    have business : (s.closeStream k.ctl).business = s.business := rfl
    simp only [handling, places, current_closeStream, queue_closeStream, handlerOf_closeStream,
      isOpen_closeStream, business] at one ⊢
    by_cases same : k.ctl = other
    · cases same
      grind
    · grind
  · intro other g found' isPlain
    rw [handlerOf_closeStream] at found'
    rw [isOpen_closeStream]
    grind [sound.plain, Handler.plain]
  · intro returned
    obtain ⟨empty, shut⟩ := sound.closed returned
    refine ⟨empty, ?_⟩
    intro k' current'
    rw [isOpen_closeStream, shut k' current', ite_self]

/-- Nobody has the stream that comes next. -/
theorem Sound.accept (sound : s.Sound) :
    Sound { s with streams := s.streams ++ [⟨true, .ReadMsg⟩] } := by
  let n := s.streams.length
  have unused : s.handlerOf n = none := by simp [handlerOf, n]
  have unopened : s.isOpen n = false := by simp [isOpen, n]
  have notCtl {c : Nat} {k : Controller} (found : s.ctlAt c = some k) : k.ctl ≠ n :=
    sound.wired.not_ctl (by simp [unused]) (by simp [unused]) found
  have notCurrent : s.current.map (·.ctl) ≠ some n := by
    intro controls
    obtain ⟨k, current, same⟩ := Option.map_eq_some_iff.mp controls
    obtain ⟨c, _, found⟩ := ctlAt_current current
    exact notCtl found same
  generalize made : ({ s with streams := s.streams ++ [⟨true, .ReadMsg⟩] } : Frps) = t
  have handlers (other : Nat) :
      t.handlerOf other = if other = n then some .ReadMsg else s.handlerOf other := by
    rw [← made]
    grind [handlerOf]
  have opens (other : Nat) : t.isOpen other = if other = n then true else s.isOpen other := by
    rw [← made]
    grind [isOpen]
  have current : t.current = s.current := by rw [← made]; rfl
  have queue : t.queue = s.queue := by rw [← made]; rfl
  have business : t.business = s.business := by rw [← made]
  have rewired : Rewired s t := by
    refine .of_eq (by rw [← made]) (by rw [← made]) (by rw [← made]) ?_ ?_
    · grind
    · grind
  refine ⟨rewired.wired sound.wired, ?_, ?_, ?_, ?_⟩
  · intro other
    have one := sound.once other
    simp only [handling, places, current, queue, business, handlers, opens] at one ⊢
    by_cases same : other = n
    · simp only [same, unopened, unused, notCurrent] at one ⊢
      grind
    · grind
  · intro other g found isPlain
    rw [handlers] at found
    rw [opens]
    grind [sound.plain]
  · intro c k found
    rw [queue, business]
    rw [← made] at found
    exact sound.apart c k found
  · intro returned
    rw [← made] at returned
    obtain ⟨empty, shut⟩ := sound.closed returned
    refine ⟨queue.trans empty, ?_⟩
    intro k current'
    rw [current] at current'
    obtain ⟨c, _, found⟩ := ctlAt_current current'
    rw [opens, if_neg (notCtl found)]
    exact shut k current'

theorem ctlAt_closed (s : Frps) (ctl c : Nat) :
    ctlAt { s with
      controllers := s.controllers.modify ctl fun k => { k with closed := true }
      closing := .returned } c =
      if ctl = c then (s.ctlAt c).map fun k => { k with closed := true } else s.ctlAt c := by
  by_cases same : ctl = c
  · simp [ctlAt, same]
  · simp [ctlAt, same]

/-- A controller whose stream is closed and whose queue is empty is marked closed. -/
theorem Sound.close {k : Controller} (sound : s.Sound) (installed : s.ctlMgr = some ctl)
    (found : s.ctlAt ctl = some k) (empty : s.queue = []) (shut : s.isOpen k.ctl = false) :
    Sound { s with
      controllers := s.controllers.modify ctl fun k => { k with closed := true }
      closing := .returned } := by
  have current : s.current = some k := current_eq installed found
  have ctlAts := ctlAt_closed s ctl
  generalize made : ({ s with
    controllers := s.controllers.modify ctl fun k => { k with closed := true },
      closing := .returned } : Frps) = t at ctlAts
  have current' : t.current = some { k with closed := true } := by
    have closed : t.ctlAt ctl = some { k with closed := true } := by
      rw [ctlAts, if_pos rfl, found]
      rfl
    have installed' : t.ctlMgr = some ctl := by
      rw [← made]
      exact installed
    exact current_eq installed' closed
  have queue : t.queue = s.queue := (queue_eq current').trans (queue_eq current).symm
  have handlers (other : Nat) : t.handlerOf other = s.handlerOf other := by rw [← made]; rfl
  have opens (other : Nat) : t.isOpen other = s.isOpen other := by rw [← made]; rfl
  have business : t.business = s.business := by rw [← made]
  have rewired : Rewired s t := by
    refine ⟨by rw [← made], fun _ => by rw [← made], ?_, ?_, fun _ handled => by rwa [handlers],
      fun _ _ => by rw [handlers]⟩
    · intro c k' found'
      rw [ctlAts] at found'
      have returned : t.closing = .returned := by rw [← made]
      grind
    · intro c k' found'
      rw [ctlAts, found']
      grind
  refine ⟨rewired.wired sound.wired, ?_, ?_, ?_, ?_⟩
  · intro other
    have one := sound.once other
    simpa only [handling, places, current, current', queue, business, handlers, opens,
      Option.map_some] using one
  · intro other g found' isPlain
    rw [handlers] at found'
    rw [opens]
    exact sound.plain other g found' isPlain
  · intro c k' found'
    obtain ⟨k₀, found₀, own, _⟩ := rewired.before c k' found'
    rw [queue, business, ← own]
    exact sound.apart c k₀ found₀
  · intro _
    refine ⟨queue.trans empty, ?_⟩
    intro k' current''
    cases current'.symm.trans current''
    rw [opens]
    exact shut

theorem Sound.Close (sound : s.Sound) (kept : s.Kept .Close) (next : s.Close = some s') : s'.Sound := by
  unfold Frps.Close at next
  split at next
  · rename_i before
    cases Option.some.inj next
    refine ⟨⟨sound.wired.ctls, sound.wired.logins, sound.wired.installed, sound.wired.others, ?_⟩,
      sound.once, sound.plain, sound.apart, ?_⟩
    · intro _
      exact sound.wired.unclosed (by simp [before])
    · intro returned
      cases returned
  · rename_i before
    have empty : s.queue = [] := kept before
    split at next
    · rename_i ctl installed
      cases Option.some.inj next
      obtain ⟨k, found, _⟩ := sound.wired.installed ctl installed
      have unclosed : k.closed = false := sound.wired.unclosed (by simp [before]) ctl k found
      have closes : s.closeController ctl =
          { s.closeStream k.ctl with
            controllers := s.controllers.modify ctl fun k => { k with closed := true } } := by
        rw [ctlAt] at found
        simp [closeController, found, unclosed]
      rw [closes]
      exact (sound.drop found).close installed found empty (by simp)
    · rename_i uninstalled
      cases Option.some.inj next
      refine ⟨⟨sound.wired.ctls, sound.wired.logins, sound.wired.installed, sound.wired.others, ?_⟩,
        sound.once, sound.plain, sound.apart, ?_⟩
      · intro other
        contradiction
      · intro _
        refine ⟨empty, ?_⟩
        intro k current
        obtain ⟨c, installed, _⟩ := ctlAt_current current
        cases uninstalled.symm.trans installed
  · contradiction

theorem handlerOf_eq {st : WorkerStream} (found : s.streams[stream]? = some st) :
    s.handlerOf stream = some st.handler := by
  simp [handlerOf, found]

theorem Sound.read {result : Option Message} (sound : s.Sound) (kept : s.Kept (.read stream result))
    (next : s.read stream result = some s') : s'.Sound := by
  unfold Frps.read at next
  split at next
  · rename_i found
    have at_ := handlerOf_eq found
    cases Option.some.inj next
    split
    · exact sound.advance at_ rfl rfl
    · exact sound.advance at_ rfl rfl
    · rename_i notLogin notWorker
      dsimp only [Kept] at kept
      rw [expected.eq_3 _ notLogin notWorker] at kept
      contradiction
  · contradiction

theorem Sound.handle {ok : Bool} (sound : s.Sound) (kept : s.Kept (.handler stream ok))
    (next : s.handle stream ok = some s') : s'.Sound := by
  unfold Frps.handle at next
  split at next
  · rename_i found
    have at_ := handlerOf_eq found
    simp only [Kept, HandlerKept, at_] at kept
    rw [if_pos kept] at next
    exact Option.some.inj next ▸ sound.login at_
  · rename_i found
    have at_ := handlerOf_eq found
    simp only [Kept, HandlerKept, at_] at kept
    exact Option.some.inj next ▸ sound.set at_ kept.1 kept.2.1 kept.2.2
  · rename_i found
    have at_ := handlerOf_eq found
    simp only [Kept, HandlerKept, at_] at kept
    split at next
    · exact Option.some.inj next ▸ sound.advance at_ rfl rfl
    · contradiction
  · rename_i found
    have at_ := handlerOf_eq found
    simp only [Kept, HandlerKept, at_] at kept
    exact Option.some.inj next ▸ sound.register at_ kept.1 kept.2.1 kept.2.2
  · contradiction
  · contradiction
  · contradiction

theorem Sound.runBusiness {ok : Bool} (sound : s.Sound)
    (next : s.runBusiness conn ok = some s') : s'.Sound := by
  unfold Frps.runBusiness at next
  split at next
  · rename_i at_
    obtain ⟨k, _, rfl⟩ := Option.map_eq_some_iff.mp next
    exact sound.setBusiness at_ (by simp) (by split <;> simp)
  · rename_i at_
    obtain ⟨k, _, rfl⟩ := Option.map_eq_some_iff.mp next
    exact sound.setBusiness at_ (by simp) (by split <;> simp)
  · rename_i at_
    obtain ⟨k, found, next⟩ := Option.bind_eq_some_iff.mp next
    split at next
    · rename_i workers
      exact Option.some.inj next ▸ sound.take at_ found workers
    · split_ifs at next
      exact Option.some.inj next ▸ sound.setBusiness at_ (by simp) (by simp)
  · rename_i at_
    exact Option.some.inj next ▸ sound.finish at_
  · contradiction
  · contradiction

theorem Sound.step {e : Event} (sound : s.Sound) (kept : s.Kept e)
    (next : s.step e = some s') : s'.Sound := by
  cases e with
  | accept => exact Option.some.inj next ▸ sound.accept
  | read stream result => exact sound.read kept next
  | handler stream ok => exact sound.handle kept next
  | connect => exact Option.some.inj next ▸ sound.connect
  | business conn ok => exact sound.runBusiness next
  | timeout conn =>
    rw [Frps.step, Frps.timeout] at next
    split at next
    · rename_i at_
      exact Option.some.inj next ▸ sound.setBusiness at_ (by simp) (by simp)
    · contradiction
  | drop ctl =>
    obtain ⟨k, found, rfl⟩ := Option.map_eq_some_iff.mp next
    exact sound.drop found
  | Close => exact sound.Close kept next

theorem Sound.start : NewFrps.Sound where
  wired := ⟨by simp [ctlAt, NewFrps], by simp [handlerOf, NewFrps], by simp [NewFrps],
    by simp [ctlAt, NewFrps], by simp [ctlAt, NewFrps]⟩
  once := by simp [places, handling, isOpen, queue, current, NewFrps]
  plain := by simp [handlerOf, NewFrps]
  apart := by simp [ctlAt, NewFrps]
  closed := by simp [NewFrps]

/-- After `Close` a stream is in none of the controller's places. -/
theorem Sound.noneLost (sound : s.Sound) : s.NoneLost := by
  have placed (stream : Nat) (returned : s.handlerOf stream = some .returned) : s.places stream = 1 := by
    have one := sound.once stream
    rw [handling, if_neg (by simp [returned])] at one
    exact one
  refine ⟨placed, ?_⟩
  intro returned stream handled opened
  obtain ⟨empty, shut⟩ := sound.closed returned
  have one := placed stream handled
  have uncontrolled : ¬ (s.current.map (·.ctl) = some stream ∧ s.isOpen stream = true) := by
    rintro ⟨controls, _⟩
    obtain ⟨k, current, rfl⟩ := Option.map_eq_some_iff.mp controls
    cases (shut k current).symm.trans opened
  rw [places, if_neg uncontrolled, empty, if_pos opened, List.count_nil] at one
  exact List.count_pos_iff.mp (by omega)

end steps

/-- In every run whose steps keep the streams, none is lost. -/
theorem noneLost_of_run {events : List Event} {s : Frps}
    (run : system.Run Kept events s) : s.NoneLost := by
  have sound : s.Sound := by
    refine run.invariant Sound ?_ (fun _ _ _ sound kept next => sound.step kept next)
    intro start starts
    exact starts ▸ .start
  exact sound.noneLost

/-- A client logs in and sends a worker, which serves a connection; then the service is closed. -/
def serveOne : List Event :=
  [.accept, .read 0 (some (.Login "0.0.1")), .handler 0 true, .handler 0 true] ++
  [.accept, .read 1 (some .NewWorkConn), .handler 1 true, .handler 1 true] ++
  [.connect, .business 0 true, .business 0 true, .business 0 true, .Close, .Close]

def servedOne : Frps where
  streams := [⟨false, .returned⟩, ⟨true, .returned⟩]
  controllers := [⟨0, [], true⟩]
  ctlMgr := some 0
  business := [.serving 1]
  closing := .returned

theorem noneLost_of_serveOne : system.Run Kept serveOne servedOne ∧ servedOne.NoneLost := by
  have played : system.play (fun s e => decide (s.Kept e)) serveOne NewFrps = some servedOne := by decide
  have run : system.Run Kept serveOne servedOne :=
    ((System.Run.start rfl).play serveOne played).mono fun _ _ ok => of_decide_eq_true ok
  exact ⟨run, noneLost_of_run run⟩

/-- A worker that comes when nobody is logged in is left open, and nobody has it. -/
theorem worker_lost : ¬ ∀ s, system.Reachable s → s.NoneLost := by
  intro claimed
  let lost : Frps := ⟨[⟨true, .returned⟩], [], none, [], .notCalled⟩
  have played :
    system.play (fun _ _ => true) [.accept, .read 0 (some .NewWorkConn), .handler 0 true] NewFrps =
      some lost := by decide
  have placed := (claimed lost (.of_play rfl played)).placed 0 rfl
  exact absurd placed (by decide)

end Frps

end Gotun.Tun
