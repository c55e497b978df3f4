import Gotun.Lib.Chan
import Gotun.Lib.RwLock
import Gotun.Tun.FrpsController

/-! `tun/frps_controller.go` statement by statement, for any number of calls of everything that sends
on a channel or closes one, and whether anything can be sent on a closed channel. -/

namespace Gotun.Tun
open Gotun.Lib

/-- The shared fields of the controller, and the panics so far. -/
structure frpsChannels where
  ctlClosed : Bool
  closed : Bool
  sendCh : Chan Message
  readCh : Chan Message
  workers : Chan Nat
  panics : List String
  deriving DecidableEq, Repr

namespace frpsChannels

def NewFrpsController : frpsChannels :=
  ⟨false, false, .make controllerCap, .make controllerCap, .make controllerCap, []⟩

/-- The body of `Write` or of `RegisterWorker`. -/
inductive Body where
  | Write (m : Message)
  | RegisterWorker (worker : Nat)
  deriving DecidableEq, Repr

/-- Who called it. -/
inductive From where
  | caller
  | GetWorkConn
  | handleReadMsg
  deriving DecidableEq, Repr

inductive BodyAt where
  | RLock
  | check
  | select
  | RUnlock (err : Option String)
  deriving DecidableEq, Repr

inductive ReadLoopAt where
  | ReadMsg
  | RLock (m : Message)
  | check (m : Message)
  | send (m : Message)
  | RUnlock (stop : Bool)
  deriving DecidableEq, Repr

inductive CloseAt where
  | Lock
  | waiting
  | check
  | closeCtl
  | closeWorkers
  | closeSendCh
  | closeReadCh
  | Unlock
  | returned
  deriving DecidableEq, Repr

inductive Thread where
  | body (from_ : From) (body : Body) (at_ : BodyAt)
  | GetWorkConn
  | taking
  | handleReadMsg
  | doReadLoop (at_ : ReadLoopAt)
  | receiving
  | WriteMsg (m : Message)
  | Close (at_ : CloseAt)
  | returned (err : Option String)
  | panicked
  deriving DecidableEq, Repr

/-- What a step does that is not decided by the state. -/
inductive Outcome where
  | go
  | read (result : Option Message)
  | wrote (failed : Bool)
  | timeout
  deriving DecidableEq, Repr

def starts : Thread → Bool
  | .body .caller _ .RLock | .GetWorkConn | .handleReadMsg | .doReadLoop .ReadMsg | .receiving
  | .Close .Lock => true
  | _ => false

def hold : Thread → Hold
  | .body _ _ at_ => match at_ with
    | .RLock => .none
    | .check | .select | .RUnlock _ => .read
  | .doReadLoop at_ => match at_ with
    | .ReadMsg | .RLock _ => .none
    | .check _ | .send _ | .RUnlock _ => .read
  | .Close at_ => match at_ with
    | .Lock | .returned => .none
    | .waiting => .pending
    | .check | .closeCtl | .closeWorkers | .closeSendCh | .closeReadCh | .Unlock => .write
  | _ => .none

def panic (g : frpsChannels) (text : String) : frpsChannels × Thread :=
  ({ g with panics := g.panics ++ [text] }, .panicked)

/-- Where a call of `Write` or `RegisterWorker` leads. -/
def From.return_ : From → Option String → Thread
  | .caller, err => .returned err
  | .GetWorkConn, none => .taking
  | .GetWorkConn, some err => .returned (some err)
  | .handleReadMsg, _ => .handleReadMsg

/-- The select with a default. -/
def select (g : frpsChannels) (from_ : From) : Body → frpsChannels × Thread
  | .Write m => match g.sendCh.send m with
    | .sent c => ({ g with sendCh := c }, .body from_ (.Write m) (.RUnlock none))
    | .full => (g, .body from_ (.Write m) (.RUnlock (some "send channel is full")))
    | .panic => g.panic "send on closed channel"
  | .RegisterWorker worker => match g.workers.send worker with
    | .sent c => ({ g with workers := c }, .body from_ (.RegisterWorker worker) (.RUnlock none))
    | .full => (g, .body from_ (.RegisterWorker worker) (.RUnlock (some "worker channel is full")))
    | .panic => g.panic "send on closed channel"

def bodyStep (g : frpsChannels) (from_ : From) (body : Body) : BodyAt → frpsChannels × Thread
  | .RLock => (g, .body from_ body .check)
  | .check =>
    if g.closed then (g, .body from_ body (.RUnlock (some "controller is closed")))
    else (g, .body from_ body .select)
  | .select => g.select from_ body
  | .RUnlock err => (g, from_.return_ err)

/-- The send has no default: on a full channel it waits. -/
def readLoopStep (g : frpsChannels) : ReadLoopAt → Outcome → Option (frpsChannels × Thread)
  | .ReadMsg, .read (some m) => some (g, .doReadLoop (.RLock m))
  | .ReadMsg, .read none => some ({ g with ctlClosed := true }, .returned none)
  | .RLock m, .go => some (g, .doReadLoop (.check m))
  | .check m, .go => some (g, .doReadLoop (if g.closed then .RUnlock true else .send m))
  | .send m, .go => match g.readCh.send m with
    | .sent c => some ({ g with readCh := c }, .doReadLoop (.RUnlock false))
    | .full => none
    | .panic => some (g.panic "send on closed channel")
  | .RUnlock false, .go => some (g, .doReadLoop .ReadMsg)
  | .RUnlock true, .go => some ({ g with ctlClosed := true }, .returned none)
  | _, _ => none

def closeStep (g : frpsChannels) : CloseAt → Option (frpsChannels × Thread)
  | .Lock => some (g, .Close .waiting)
  | .waiting => some (g, .Close .check)
  | .check =>
    if g.closed then some (g, .Close .Unlock)
    else some ({ g with closed := true }, .Close .closeCtl)
  | .closeCtl => some ({ g with ctlClosed := true }, .Close .closeWorkers)
  | .closeWorkers => match g.workers.close with
    | some c => some ({ g with workers := c }, .Close .closeSendCh)
    | none => some (g.panic "close of closed channel")
  | .closeSendCh => match g.sendCh.close with
    | some c => some ({ g with sendCh := c }, .Close .closeReadCh)
    | none => some (g.panic "close of closed channel")
  | .closeReadCh => match g.readCh.close with
    | some c => some ({ g with readCh := c }, .Close .Unlock)
    | none => some (g.panic "close of closed channel")
  | .Unlock => some (g, .Close .returned)
  | .returned => none

/-- The receivers, which take no lock. -/
def receiveStep (g : frpsChannels) : Thread → Outcome → Option (frpsChannels × Thread)
  | .GetWorkConn, .go => some (g,
      if g.workers.buf.length < FrpWorkerCount / 2 then
        .body .GetWorkConn (.Write (.ReqWorkConn FrpWorkerCount)) .RLock
      else .taking)
  | .taking, .go => match g.workers.receive with
    | .got _ c => some ({ g with workers := c }, .returned none)
    | .closed => some (g, .returned (some "worker channel is closed"))
    | .empty => none
  | .taking, .timeout => some (g, .returned (some "get worker timeout(5s)"))
  | .handleReadMsg, .go => match g.readCh.receive with
    | .got m c =>
      some ({ g with readCh := c },
        if m = .Ping then .body .handleReadMsg (.Write .Pong) .RLock else .handleReadMsg)
    | .closed => some (g, .returned none)
    | .empty => none
  | .receiving, .go => match g.sendCh.receive with
    | .got m c => some ({ g with sendCh := c }, .WriteMsg m)
    | .closed => some (g, .returned none)
    | .empty => none
  | .WriteMsg _, .wrote failed => some (g, if failed then .returned none else .receiving)
  | _, _ => none

def move (g : frpsChannels) : Thread → Outcome → Option (frpsChannels × Thread)
  | .body from_ body at_, .go => some (g.bodyStep from_ body at_)
  | .doReadLoop at_, o => g.readLoopStep at_ o
  | .Close at_, .go => g.closeStep at_
  | t, o => g.receiveStep t o

/-- The controller with all of its goroutines. -/
def program : Guarded frpsChannels Thread Outcome := ⟨NewFrpsController, starts, hold, move⟩

/-- No channel is closed before `closed` is set, and nobody has panicked. -/
structure Sound (g : frpsChannels) : Prop where
  calm : g.panics = []
  workers : g.closed = false → g.workers.closed = false
  sendCh : g.closed = false → g.sendCh.closed = false
  readCh : g.closed = false → g.readCh.closed = false

/-- What a thread relies on: a sender past its check that `closed` is not set, and a closer that the
channels are open which it has yet to close. -/
def Relies (g : frpsChannels) : Thread → Prop
  | .body _ _ .select | .doReadLoop (.send _) => g.closed = false
  | .Close .closeCtl | .Close .closeWorkers =>
      g.closed = true ∧ g.workers.closed = false ∧ g.sendCh.closed = false ∧ g.readCh.closed = false
  | .Close .closeSendCh => g.closed = true ∧ g.sendCh.closed = false ∧ g.readCh.closed = false
  | .Close .closeReadCh => g.closed = true ∧ g.readCh.closed = false
  | .Close .Unlock | .Close .returned => g.closed = true
  | _ => True

/-- Nothing is closed by the step, and nobody panics in it. -/
structure Quiet (g g' : frpsChannels) : Prop where
  panics : g'.panics = g.panics
  closed : g'.closed = g.closed
  workers : g'.workers.closed = g.workers.closed
  sendCh : g'.sendCh.closed = g.sendCh.closed
  readCh : g'.readCh.closed = g.readCh.closed

variable {g g' : frpsChannels} {t u : Thread} {o : Outcome} {after : frpsChannels × Thread}

theorem Quiet.sound (quiet : Quiet g g') (sound : Sound g) : Sound g' where
  calm := quiet.panics.trans sound.calm
  workers still := quiet.workers.trans (sound.workers (quiet.closed ▸ still))
  sendCh still := quiet.sendCh.trans (sound.sendCh (quiet.closed ▸ still))
  readCh still := quiet.readCh.trans (sound.readCh (quiet.closed ▸ still))

theorem Quiet.relies (quiet : Quiet g g') (relies : Relies g t) : Relies g' t := by
  unfold Relies at relies ⊢
  rw [quiet.closed, quiet.workers, quiet.sendCh, quiet.readCh]
  exact relies

/-- A send past the check finds the channel open. -/
theorem select_spec (sound : Sound g) (still : g.closed = false) (from_ : From) (body : Body) :
    Quiet g (g.select from_ body).1 ∧
      ∃ err, (g.select from_ body).2 = .body from_ body (.RUnlock err) := by
  cases body with
  | Write m =>
    rw [select]
    cases sent : g.sendCh.send m with
    | sent c => exact ⟨⟨rfl, rfl, rfl, Chan.send_closed sent, rfl⟩, none, rfl⟩
    | full => exact ⟨⟨rfl, rfl, rfl, rfl, rfl⟩, _, rfl⟩
    | panic => exact absurd sent (Chan.send_open (sound.sendCh still))
  | RegisterWorker worker =>
    rw [select]
    cases sent : g.workers.send worker with
    | sent c => exact ⟨⟨rfl, rfl, Chan.send_closed sent, rfl, rfl⟩, none, rfl⟩
    | full => exact ⟨⟨rfl, rfl, rfl, rfl, rfl⟩, _, rfl⟩
    | panic => exact absurd sent (Chan.send_open (sound.workers still))

theorem Quiet.refl (g : frpsChannels) : Quiet g g := ⟨rfl, rfl, rfl, rfl, rfl⟩

theorem relies_return (from_ : From) (err : Option String) : Relies g (from_.return_ err) := by
  cases from_ <;> cases err <;> trivial

theorem bodyStep_spec (sound : Sound g) {from_ : From} {body : Body} {at_ : BodyAt}
    (relies : Relies g (.body from_ body at_)) :
    Quiet g (g.bodyStep from_ body at_).1 ∧
      Relies (g.bodyStep from_ body at_).1 (g.bodyStep from_ body at_).2 := by
  cases at_ with
  | RLock => exact ⟨.refl g, trivial⟩
  | check =>
    rw [bodyStep]
    split_ifs with shut
    · exact ⟨.refl g, trivial⟩
    · exact ⟨.refl g, Bool.eq_false_iff.mpr shut⟩
  | select =>
    obtain ⟨quiet, err, there⟩ := select_spec sound relies from_ body
    refine ⟨quiet, ?_⟩
    rw [bodyStep, there]
    trivial
  | RUnlock err => exact ⟨.refl g, relies_return from_ err⟩

theorem readLoopStep_spec (sound : Sound g) {at_ : ReadLoopAt} (relies : Relies g (.doReadLoop at_))
    (next : g.readLoopStep at_ o = some after) : Quiet g after.1 ∧ Relies after.1 after.2 := by
  unfold readLoopStep at next
  split at next
  · cases next
    exact ⟨.refl g, trivial⟩
  · cases next
    exact ⟨⟨rfl, rfl, rfl, rfl, rfl⟩, trivial⟩
  · cases next
    exact ⟨.refl g, trivial⟩
  · cases next
    refine ⟨.refl g, ?_⟩
    dsimp only
    split_ifs with shut
    · trivial
    · exact Bool.eq_false_iff.mpr shut
  · split at next
    · rename_i sent
      cases next
      exact ⟨⟨rfl, rfl, rfl, rfl, Chan.send_closed sent⟩, trivial⟩
    · contradiction
    · rename_i sent
      exact absurd sent (Chan.send_open (sound.readCh relies))
  · cases next
    exact ⟨.refl g, trivial⟩
  · cases next
    exact ⟨⟨rfl, rfl, rfl, rfl, rfl⟩, trivial⟩
  · contradiction

theorem receiveStep_spec (next : g.receiveStep t o = some after) :
    Quiet g after.1 ∧ Relies after.1 after.2 := by
  unfold receiveStep at next
  split at next
  · cases next
    refine ⟨.refl g, ?_⟩
    dsimp only
    split_ifs <;> trivial
  · split at next
    · rename_i got
      cases next
      exact ⟨⟨rfl, rfl, Chan.receive_closed got, rfl, rfl⟩, trivial⟩
    · cases next
      exact ⟨.refl g, trivial⟩
    · contradiction
  · cases next
    exact ⟨.refl g, trivial⟩
  · split at next
    · rename_i got
      cases next
      refine ⟨⟨rfl, rfl, rfl, rfl, Chan.receive_closed got⟩, ?_⟩
      dsimp only
      split_ifs <;> trivial
    · cases next
      exact ⟨.refl g, trivial⟩
    · contradiction
  · split at next
    · rename_i got
      cases next
      exact ⟨⟨rfl, rfl, rfl, Chan.receive_closed got, rfl⟩, trivial⟩
    · cases next
      exact ⟨.refl g, trivial⟩
    · contradiction
  · cases next
    refine ⟨.refl g, ?_⟩
    dsimp only
    split_ifs <;> trivial
  · contradiction

/-- Only `Close` closes anything, and each channel once. -/
theorem closeStep_spec (sound : Sound g) {at_ : CloseAt} (relies : Relies g (.Close at_))
    (next : g.closeStep at_ = some after) :
    Sound after.1 ∧ Relies after.1 after.2 ∧ (g.closed = true → after.1.closed = true) := by
  unfold closeStep at next
  split at next
  · cases next
    exact ⟨sound, trivial, id⟩
  · cases next
    exact ⟨sound, trivial, id⟩
  · split_ifs at next with shut
    · cases next
      exact ⟨sound, shut, id⟩
    · cases next
      have still := Bool.eq_false_iff.mpr shut
      exact ⟨⟨sound.calm, nofun, nofun, nofun⟩,
        ⟨rfl, sound.workers still, sound.sendCh still, sound.readCh still⟩, fun _ => rfl⟩
  · cases next
    exact ⟨⟨sound.calm, sound.workers, sound.sendCh, sound.readCh⟩, relies, id⟩
  · obtain ⟨shut, workers, rest⟩ := relies
    rw [Chan.close_open workers] at next
    cases next
    exact ⟨⟨sound.calm, fun still => absurd (shut.symm.trans still) nofun, sound.sendCh,
      sound.readCh⟩, ⟨shut, rest⟩, id⟩
  · obtain ⟨shut, sendCh, rest⟩ := relies
    rw [Chan.close_open sendCh] at next
    cases next
    exact ⟨⟨sound.calm, sound.workers, fun still => absurd (shut.symm.trans still) nofun,
      sound.readCh⟩, ⟨shut, rest⟩, id⟩
  · obtain ⟨shut, readCh⟩ := relies
    rw [Chan.close_open readCh] at next
    cases next
    exact ⟨⟨sound.calm, sound.workers, sound.sendCh,
      fun still => absurd (shut.symm.trans still) nofun⟩, shut, id⟩
  · cases next
    exact ⟨sound, relies, id⟩
  · contradiction

/-- Either nothing is closed by a move, or it is that of a closer. -/
theorem move_spec (sound : Sound g) (relies : Relies g t) (next : g.move t o = some after) :
    Relies after.1 after.2 ∧ (Quiet g after.1 ∨ ∃ at_, t = .Close at_ ∧ Sound after.1 ∧
      (g.closed = true → after.1.closed = true)) := by
  unfold move at next
  split at next
  · cases next
    obtain ⟨quiet, relies⟩ := bodyStep_spec sound relies
    exact ⟨relies, Or.inl quiet⟩
  · obtain ⟨quiet, relies⟩ := readLoopStep_spec sound relies next
    exact ⟨relies, Or.inl quiet⟩
  · obtain ⟨sound, relies, kept⟩ := closeStep_spec sound relies next
    exact ⟨relies, Or.inr ⟨_, rfl, sound, kept⟩⟩
  · obtain ⟨quiet, relies⟩ := receiveStep_spec next
    exact ⟨relies, Or.inl quiet⟩

/-- What a thread outside the lock relies on lasts: at most that `closed` is set. -/
theorem relies_outside (outside : hold u = .none) (relies : Relies g u)
    (kept : g.closed = true → g'.closed = true) :
    Relies g' u := by
  match u with
  | .body _ _ .select | .doReadLoop (.send _) | .Close .closeCtl | .Close .closeWorkers
  | .Close .closeSendCh
  | .Close .closeReadCh | .Close .Unlock => contradiction
  | .Close .returned => exact kept relies
  | .body _ _ .RLock | .body _ _ .check | .body _ _ (.RUnlock _) | .GetWorkConn | .taking
  | .handleReadMsg
  | .doReadLoop .ReadMsg | .doReadLoop (.RLock _) | .doReadLoop (.check _)
  | .doReadLoop (.RUnlock _) | .receiving
  | .WriteMsg _ | .Close .Lock | .Close .waiting | .Close .check | .returned _ | .panicked => trivial

theorem move_close {at_ : CloseAt} (next : g.move (.Close at_) o = some after) :
    g.closeStep at_ = some after := by
  cases o with
  | go => exact next
  | read _ | wrote _ | timeout => contradiction

/-- A closer outside the lock, or waiting for it, changes nothing. -/
theorem closeStep_outside {at_ : CloseAt} (next : g.closeStep at_ = some after) :
    hold (.Close at_) = .write ∨ after.1 = g := by
  cases at_ with
  | Lock | waiting =>
    cases next
    exact Or.inr rfl
  | check | closeCtl | closeWorkers | closeSendCh | closeReadCh | Unlock => exact Or.inl rfl
  | returned => contradiction

theorem proof : Guarded.Proof program Sound Relies where
  begins := ⟨rfl, fun _ => rfl, fun _ => rfl, fun _ => rfl⟩
  starts := by
    intro g t begins
    change starts t = true at begins
    unfold starts at begins
    split at begins
    all_goals first
      | exact ⟨rfl, trivial⟩
      | contradiction
  own := by
    intro g t o after sound relies next
    obtain ⟨relied, quiet | ⟨at_, _, sound, _⟩⟩ := move_spec sound relies next
    · exact ⟨quiet.sound sound, relied⟩
    · exact ⟨sound, relied⟩
  others := by
    intro g t u o after sound relies relied fits next
    obtain ⟨_, quiet | ⟨at_, rfl, _, kept⟩⟩ := move_spec sound relies next
    · exact quiet.relies relied
    · rcases closeStep_outside (move_close next) with inside | same
      · have outside : hold u = .none := by
          have fits : (hold (.Close at_)).compatible (hold u) = true := fits
          rw [inside] at fits
          cases there : hold u <;> rw [there] at fits <;> first | rfl | contradiction
        exact relies_outside outside relied kept
      · rw [same]
        exact relied

/-! A call that starts after `Close`. -/

/-- The moves of a thread that has the lock, or waits to write, when `closed` is set. -/
def left : Thread → Nat
  | .body _ _ .check | .doReadLoop (.check _) => 2
  | .body _ _ (.RUnlock _) | .doReadLoop (.RUnlock _) => 1
  | .Close .waiting => 7
  | .Close .check => 6
  | .Close .closeCtl => 5
  | .Close .closeWorkers => 4
  | .Close .closeSendCh => 3
  | .Close .closeReadCh => 2
  | .Close .Unlock => 1
  | _ => 0

theorem return_outside (from_ : From) (err : Option String) :
    left (from_.return_ err) = 0 ∧ hold (from_.return_ err) = .none := by
  cases from_ <;> cases err <;> exact ⟨rfl, rfl⟩

/-- With `closed` set, every thread gets out of the lock: the senders return at their check, and a
closer has only open channels to close. -/
theorem leaves : Guarded.Leaves program Sound Relies (fun g => g.closed = true) left := by
  intro g t _ relies shut inside
  match t with
  | .body from_ body .check =>
    refine ⟨.go, (g, .body from_ body (.RUnlock (some "controller is closed"))), ?_, shut,
      Nat.lt_succ_self 1, Or.inl rfl⟩
    simp [program, move, bodyStep, shut]
  | .body from_ body (.RUnlock err) =>
    obtain ⟨done, out⟩ := return_outside from_ err
    exact ⟨.go, (g, from_.return_ err), rfl, shut, done ▸ Nat.zero_lt_one, Or.inr (Or.inl out)⟩
  | .doReadLoop (.check m) =>
    refine ⟨.go, (g, .doReadLoop (.RUnlock true)), ?_, shut, Nat.lt_succ_self 1, Or.inl rfl⟩
    simp [program, move, readLoopStep, shut]
  | .doReadLoop (.RUnlock false) =>
    exact ⟨.go, (g, .doReadLoop .ReadMsg), rfl, shut, Nat.zero_lt_one, Or.inr (Or.inl rfl)⟩
  | .doReadLoop (.RUnlock true) =>
    exact ⟨.go, ({ g with ctlClosed := true }, .returned none), rfl, shut, Nat.zero_lt_one,
      Or.inr (Or.inl rfl)⟩
  | .Close .waiting =>
    exact ⟨.go, (g, .Close .check), rfl, shut, Nat.lt_succ_self 6, Or.inr (Or.inr ⟨rfl, rfl⟩)⟩
  | .Close .check =>
    refine ⟨.go, (g, .Close .Unlock), ?_, shut, (by decide : 1 < 6), Or.inl rfl⟩
    simp [program, move, closeStep, shut]
  | .Close .closeCtl =>
    exact ⟨.go, ({ g with ctlClosed := true }, .Close .closeWorkers), rfl, shut,
      Nat.lt_succ_self 4, Or.inl rfl⟩
  | .Close .closeWorkers =>
    refine ⟨.go, ({ g with workers := { g.workers with closed := true } }, .Close .closeSendCh), ?_,
      shut, Nat.lt_succ_self 3, Or.inl rfl⟩
    simp [program, move, closeStep, Chan.close_open relies.2.1]
  | .Close .closeSendCh =>
    refine ⟨.go, ({ g with sendCh := { g.sendCh with closed := true } }, .Close .closeReadCh), ?_,
      shut, Nat.lt_succ_self 2, Or.inl rfl⟩
    simp [program, move, closeStep, Chan.close_open relies.2.1]
  | .Close .closeReadCh =>
    refine ⟨.go, ({ g with readCh := { g.readCh with closed := true } }, .Close .Unlock), ?_, shut,
      Nat.lt_succ_self 1, Or.inl rfl⟩
    simp [program, move, closeStep, Chan.close_open relies.2]
  | .Close .Unlock => exact ⟨.go, (g, .Close .returned), rfl, shut, Nat.zero_lt_one, Or.inr (Or.inl rfl)⟩
  | .body _ _ .select | .doReadLoop (.send _) => exact absurd (relies.symm.trans shut) nofun
  | .body _ _ .RLock | .GetWorkConn | .taking | .handleReadMsg | .doReadLoop .ReadMsg
  | .doReadLoop (.RLock _) | .receiving
  | .WriteMsg _ | .Close .Lock | .Close .returned | .returned _ | .panicked => exact absurd rfl inside

/-- A call that finds `closed` set, from its start to its end. -/
inductive Late (body : Body) : Thread → Prop
  | RLock : Late body (.body .caller body .RLock)
  | check : Late body (.body .caller body .check)
  | RUnlock : Late body (.body .caller body (.RUnlock (some "controller is closed")))
  | returned : Late body (.returned (some "controller is closed"))

theorem Late.move {body : Body} (late : Late body t) (shut : g.closed = true)
    (next : g.move t o = some after) :
    Late body after.2 := by
  cases late with
  | returned => cases o <;> contradiction
  | RLock =>
    cases o with
    | go =>
      cases next
      exact .check
    | read _ | wrote _ | timeout => contradiction
  | RUnlock =>
    cases o with
    | go =>
      cases next
      exact .returned
    | read _ | wrote _ | timeout => contradiction
  | check =>
    cases o with
    | go =>
      simp only [frpsChannels.move, bodyStep, shut, if_true] at next
      cases next
      exact .RUnlock
    | read _ | wrote _ | timeout => contradiction

/-- Thread `i` is such a call. -/
structure LateAt (body : Body) (i : Nat) (s : Guarded.State frpsChannels Thread) : Prop where
  safe : Guarded.Safe program Sound Relies s
  shut : s.shared.closed = true
  late : ∃ t, s.threads[i]? = some t ∧ Late body t

theorem move_shut (sound : Sound g) (relies : Relies g t) (next : g.move t o = some after)
    (shut : g.closed = true) :
    after.1.closed = true := by
  obtain ⟨_, quiet | ⟨_, _, _, kept⟩⟩ := move_spec sound relies next
  · exact quiet.closed.trans shut
  · exact kept shut

theorem LateAt.step {body : Body} {i : Nat} {s s' : Guarded.State frpsChannels Thread}
    {e : Guarded.Event Thread Outcome} (lateAt : LateAt body i s)
    (next : program.step s e = some s') : LateAt body i s' := by
  obtain ⟨safe, shut, t, there, late⟩ := lateAt
  have safe' := safe.step proof next
  cases e with
  | start u =>
    rw [Guarded.step] at next
    split_ifs at next
    cases next
    refine ⟨safe', shut, t, ?_, late⟩
    rw [List.getElem?_append_left (List.getElem?_eq_some_iff.mp there).1]
    exact there
  | run j o =>
    obtain ⟨u, after, moves, rfl⟩ := Guarded.step_run_iff.mp next
    refine ⟨safe',
      move_shut safe.inv (safe.relies u (List.mem_of_getElem? moves.there)) moves.move shut, ?_⟩
    by_cases here : j = i
    · subst here
      have same := Option.some.inj (there.symm.trans moves.there)
      subst same
      exact ⟨after.2, List.getElem?_set_self (List.getElem?_eq_some_iff.mp there).1,
        late.move shut moves.move⟩
    · exact ⟨t, (List.getElem?_set_ne here).trans there, late⟩

/-- The call can get to its end. -/
def Returns (i : Nat) (s : Guarded.State frpsChannels Thread) : Prop :=
  ∃ events s', program.system.play (fun _ _ => true) events s = some s' ∧
    s'.threads[i]? = some (.returned (some "controller is closed"))

theorem Returns.of_moves {i : Nat} {s : Guarded.State frpsChannels Thread}
    (moves : program.Moves s i t o after)
    (later : Returns i ⟨after.1, s.threads.set i after.2⟩) : Returns i s := by
  obtain ⟨events, s', played, there⟩ := later
  exact ⟨.run i o :: events, s', moves.play played, there⟩

theorem returns_RUnlock {body : Body} {i : Nat} {s : Guarded.State frpsChannels Thread}
    (there : s.threads[i]? = some (.body .caller body (.RUnlock (some "controller is closed")))) :
    Returns i s := by
  have moves : program.Moves s i (.body .caller body (.RUnlock (some "controller is closed"))) .go
      (s.shared, .returned (some "controller is closed")) := ⟨there, rfl, Hold.admits_none ..⟩
  exact .of_moves moves ⟨[], _, rfl, List.getElem?_set_self (List.getElem?_eq_some_iff.mp there).1⟩

theorem returns_check {body : Body} {i : Nat} {s : Guarded.State frpsChannels Thread}
    (shut : s.shared.closed = true)
    (there : s.threads[i]? = some (.body .caller body .check)) : Returns i s := by
  have moves : program.Moves s i (.body .caller body .check) .go
      (s.shared, .body .caller body (.RUnlock (some "controller is closed"))) := by
    refine ⟨there, ?_, Hold.admits_self ..⟩
    simp [program, frpsChannels.move, bodyStep, shut]
  exact .of_moves moves (returns_RUnlock (List.getElem?_set_self (List.getElem?_eq_some_iff.mp there).1))

theorem LateAt.returns {body : Body} {i : Nat} {s : Guarded.State frpsChannels Thread}
    (lateAt : LateAt body i s) :
    Returns i s := by
  -- First everyone leaves the lock, then the call takes it and finds `closed` set.
  obtain ⟨events, s₁, played, shut, free⟩ := lateAt.safe.frees proof leaves lateAt.shut
  have lateAt₁ : LateAt body i s₁ :=
    System.play_invariant (LateAt body i) (fun _ _ _ held next => held.step next) lateAt played
  obtain ⟨more, s₂, played', there⟩ : Returns i s₁ := by
    obtain ⟨t, there, late⟩ := lateAt₁.late
    cases late with
    | RLock =>
      have moves : program.Moves s₁ i (.body .caller body .RLock) .go
          (s₁.shared, .body .caller body .check) := by
        refine ⟨there, rfl, ?_⟩
        change Hold.admits (s₁.threads.map program.hold) .none .read = true
        rw [Hold.admits, List.all_eq_true]
        intro h found
        obtain ⟨u, member, rfl⟩ := List.mem_map.mp found
        rw [free u member]
        rfl
      exact .of_moves moves
        (returns_check shut (List.getElem?_set_self (List.getElem?_eq_some_iff.mp there).1))
    | check => exact returns_check shut there
    | RUnlock => exact returns_RUnlock there
    | returned => exact ⟨[], s₁, rfl, there⟩
  exact ⟨events ++ more, s₂, System.play_append played played', there⟩

/-- Some call of `Close` has returned. -/
def Closed (s : Guarded.State frpsChannels Thread) : Prop := Thread.Close .returned ∈ s.threads

theorem lateAt_start {body : Body} {s s' : Guarded.State frpsChannels Thread}
    (safe : Guarded.Safe program Sound Relies s) (closed : Closed s)
    (next : program.step s (.start (.body .caller body .RLock)) = some s') :
    LateAt body s.threads.length s' := by
  have safe' := safe.step proof next
  cases next
  exact ⟨safe', safe.relies _ closed, _, List.getElem?_concat_length, .RLock⟩

/-- The guard of the channels: nobody ever sends on a closed channel or closes one twice, and a
`RegisterWorker` or `Write` that starts after some `Close` returned can only report an error, and
can always get to that point. -/
theorem channels_safe {allowed : Guarded.State frpsChannels Thread → Guarded.Event Thread Outcome → Prop}
    {events : List (Guarded.Event Thread Outcome)} {s : Guarded.State frpsChannels Thread}
    (run : program.system.Run allowed events s) : s.shared.panics = [] ∧
      ∀ body later s', Closed s → program.system.play (fun _ _ => true)
        (.start (.body .caller body .RLock) :: later) s = some s' →
        (∀ err, s'.threads[s.threads.length]? = some (.returned err) →
          err = some "controller is closed") ∧
        Returns s.threads.length s' := by
  have safe := proof.safe_of_run run
  refine ⟨safe.inv.calm, fun body later s' closed played => ?_⟩
  rw [System.play, if_pos rfl] at played
  obtain ⟨t, next, played⟩ := Option.bind_eq_some_iff.mp played
  have lateAt : LateAt body s.threads.length s' :=
    System.play_invariant (LateAt body s.threads.length) (fun _ _ _ held next => held.step next)
      (lateAt_start safe closed next)
      played
  refine ⟨fun err there => ?_, lateAt.returns⟩
  obtain ⟨t, found, late⟩ := lateAt.late
  rw [there] at found
  cases Option.some.inj found
  cases late
  rfl

/-- A `Close` that has to wait for the read loop to send its ping. -/
def closing : List (Guarded.Event Thread Outcome) :=
  [.start (.Close .Lock), .start (.doReadLoop .ReadMsg), .run 1 (.read (some .Ping)), .run 1 .go,
    .run 1 .go, .run 0 .go,
    .run 1 .go, .run 1 .go] ++ List.replicate 7 (.run 0 .go)

/-- A `Write` after it. -/
def writeLate : List (Guarded.Event Thread Outcome) :=
  [.start (.body .caller (.Write .Pong) .RLock), .run 2 .go, .run 2 .go, .run 2 .go]

theorem channels_safe_closing :
    ∃ s s', Closed s ∧ program.system.play (fun _ _ => true) writeLate s = some s' ∧
    s.shared.panics = [] ∧ s'.threads[2]? = some (.returned (some "controller is closed")) ∧
      Returns 2 s' := by
  have played : (program.system.play (fun _ _ => true) closing ⟨NewFrpsController, []⟩).any (fun s =>
      decide (Thread.Close .returned ∈ s.threads ∧ s.threads.length = 2) &&
        (program.system.play (fun _ _ => true) writeLate s).any fun s' =>
          decide (s'.threads[2]? = some (.returned (some "controller is closed")))) = true := by decide
  obtain ⟨s, run, seen⟩ :=
    System.Run.of_play (show program.system.start ⟨NewFrpsController, []⟩ from rfl) played
  obtain ⟨here, wrote⟩ := (Bool.and_eq_true _ _).mp seen
  obtain ⟨closed, two⟩ := of_decide_eq_true here
  obtain ⟨s', later, failed⟩ := (Option.any_eq_true _ _).mp wrote
  obtain ⟨calm, after⟩ := channels_safe run
  have returns := (after (.Write .Pong) _ s' closed later).2
  rw [two] at returns
  exact ⟨s, s', closed, later, calm, of_decide_eq_true failed, returns⟩

end frpsChannels

end Gotun.Tun
