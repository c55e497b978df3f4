import Gotun.Core.Pipe
import Gotun.Lib.System

/-! `tun/input_udp.go` and `tun/input_udp_worker.go`: one loop receives the datagrams of all sources
and puts each into the bounded queue of its source, from which the handler of that source reads. -/

namespace Gotun.Tun

open Gotun.Lib Gotun.Core

/-- The capacity of `bReaders`. -/
def readersCap : Nat := 100

/-- How a handler leaves its stream: `Server.handleInputStream` has a deferred `Close`, while
`Frps.HandlerWorkerStream` returns without one. -/
inductive HandlerKind where
  | handleInputStream
  | HandlerWorkerStream
  deriving DecidableEq, Repr

/-- A handler is done when no goroutine that has its stream is left; one that was handed to a
controller has not ended. -/
inductive Handler where
  | running
  | closed
  | done
  deriving DecidableEq, Repr

structure UDPWorker where
  srcAddr : String
  bReaders : List Bytes
  reader : Option Bytes
  handler : Handler
  deriving DecidableEq, Repr

namespace UDPWorker

/-- `bytes.Buffer.Read`: nothing stands for the end of file. -/
def bufferRead (n : Nat) (data : Bytes) : Option (Bytes × Bytes) :=
  if data = [] ∧ 0 < n then none else some (data.take n, data.drop n)

/-- The readers are used up one after the other. When none is left the call waits, for its
timeout at most, and returns nothing. -/
def readQueue (n : Nat) (w : UDPWorker) : List Bytes → Option Bytes × UDPWorker
  | [] => (none, { w with reader := none, bReaders := [] })
  | next :: rest =>
    match bufferRead n next with
    | some (data, left) => (some data, { w with reader := some left, bReaders := rest })
    | none => readQueue n w rest

def Read (n : Nat) (w : UDPWorker) : Option Bytes × UDPWorker :=
  match w.reader.bind (bufferRead n) with
  | some (data, left) => (some data, { w with reader := some left })
  | none => readQueue n w w.bReaders

end UDPWorker

/-- Where the loop of `serve` is. -/
inductive Serving where
  | reading
  | inserting (w : Nat) (data : Bytes)
  | stopped
  deriving DecidableEq, Repr

/-- `all` are the workers made so far, and `workers` the map from sources to them. -/
structure inputUDP where
  all : List UDPWorker
  workers : String → Option Nat
  serving : Serving

namespace inputUDP

inductive Event where
  | receive (source : String) (data : Bytes)
  | insert
  | failRead (temporary : Bool)
  | read (w : Nat) (n : Nat)
  | close (w : Nat)
  | finish (w : Nat)
  deriving DecidableEq, Repr

/-- `LoadOrStore`, and a new handler for a new worker. -/
def receive (source : String) (data : Bytes) (u : inputUDP) : inputUDP :=
  match u.workers source with
  | some w => { u with serving := .inserting w (data.take MaxSegmentSize) }
  | none =>
    { all := u.all ++ [⟨source, [], none, .running⟩]
      workers := Function.update u.workers source (some u.all.length)
      serving := .inserting u.all.length (data.take MaxSegmentSize) }

/-- The insertion waits for room in the queue. -/
def insert (u : inputUDP) : Option inputUDP :=
  match u.serving with
  | .inserting w data => (u.all[w]?).bind fun worker =>
    if worker.bReaders.length < readersCap then
      some { u with
        all := u.all.set w { worker with bReaders := worker.bReaders ++ [data] }
        serving := .reading }
    else none
  | _ => none

/-- `onClear` deletes whatever worker the source has in the map. -/
def Close (w : Nat) (worker : UDPWorker) (u : inputUDP) : inputUDP :=
  { u with
    all := u.all.set w { worker with handler := .closed }
    workers := Function.update u.workers worker.srcAddr none }

/-- A worker whose handler is not done. -/
def live (w : Nat) (u : inputUDP) : Option UDPWorker := (u.all[w]?).filter (·.handler ≠ .done)

def mayFinish : HandlerKind → UDPWorker → Bool
  | .handleInputStream, worker => worker.handler = .closed
  | .HandlerWorkerStream, _ => true

def step (kind : HandlerKind) (u : inputUDP) : Event → Option inputUDP
  | .receive source data => if u.serving = .reading then some (u.receive source data) else none
  | .insert => u.insert
  | .failRead temporary =>
    if u.serving = .reading then some (if temporary then u else { u with serving := .stopped }) else none
  | .read w n => (u.live w).map fun worker => { u with all := u.all.set w (worker.Read n).2 }
  | .close w => (u.live w).map fun worker => u.Close w worker
  | .finish w => ((u.live w).filter (mayFinish kind)).map fun worker =>
    { u with all := u.all.set w { worker with handler := .done } }

def system (kind : HandlerKind) : System inputUDP Event where
  start u := u = ⟨[], fun _ => none, .reading⟩
  step := step kind

/-- The loop waits for room in the queue of the worker. -/
def Blocked (u : inputUDP) (w : Nat) : Prop :=
  ∃ data worker, u.serving = .inserting w data ∧ u.all[w]? = some worker ∧
    readersCap ≤ worker.bReaders.length

/-- The handler of the worker still runs, so that it can read from the queue. -/
def HasHandler (u : inputUDP) (w : Nat) : Prop :=
  ∃ worker, u.all[w]? = some worker ∧ worker.handler = .running

/-- No handler closes its stream or returns while the loop waits on the full queue of its worker,
and none returns while its worker is in the map. -/
def EndsWell (u : inputUDP) : Event → Prop
  | .close w => ¬ u.Blocked w
  | .finish w => (∀ source, u.workers source ≠ some w) ∧ ¬ u.Blocked w
  | _ => True

/-- What holds while every handler ends well. -/
structure Sound (u : inputUDP) : Prop where
  mapped : ∀ {source w}, u.workers source = some w →
    ∃ worker, u.all[w]? = some worker ∧ worker.srcAddr = source ∧ worker.handler = .running
  inserting : ∀ {w data}, u.serving = .inserting w data → u.HasHandler w ∨ ¬ u.Blocked w

theorem readQueue_worker (n : Nat) (w : UDPWorker) (queue : List Bytes) :
    (w.readQueue n queue).2.srcAddr = w.srcAddr ∧ (w.readQueue n queue).2.handler = w.handler ∧
      (w.readQueue n queue).2.bReaders.length ≤ queue.length := by
  induction queue with
  | nil => exact ⟨rfl, rfl, Nat.le_refl _⟩
  | cons next rest ih =>
    rw [UDPWorker.readQueue]
    split
    · exact ⟨rfl, rfl, Nat.le_succ _⟩
    · exact ⟨ih.1, ih.2.1, ih.2.2.trans (Nat.le_succ _)⟩

/-- A read keeps the handler and never fills the queue. -/
theorem Read_worker (n : Nat) (w : UDPWorker) :
    (w.Read n).2.srcAddr = w.srcAddr ∧ (w.Read n).2.handler = w.handler ∧
      (w.Read n).2.bReaders.length ≤ w.bReaders.length := by
  unfold UDPWorker.Read
  split
  · exact ⟨rfl, rfl, Nat.le_refl _⟩
  · exact readQueue_worker n w w.bReaders

section steps

variable {u : inputUDP} {w : Nat} {worker : UDPWorker}

theorem live_some (found : u.live w = some worker) : u.all[w]? = some worker :=
  (Option.filter_eq_some_iff.mp found).1

theorem getElem?_set_cases {all : List UDPWorker} (present : all[w]? = some worker)
    (changed : UDPWorker) (v : Nat) :
    v = w ∧ (all.set w changed)[v]? = some changed ∨ v ≠ w ∧ (all.set w changed)[v]? = all[v]? := by
  by_cases same : v = w
  · subst same
    obtain ⟨bound, _⟩ := List.getElem?_eq_some_iff.mp present
    exact Or.inl ⟨rfl, List.getElem?_set_self bound⟩
  · exact Or.inr ⟨same, List.getElem?_set_ne (Ne.symm same)⟩

/-- The loop is not blocked by a queue that did not grow. -/
theorem Blocked.of_set {v : Nat} {changed : UDPWorker} {workers : String → Option Nat}
    (blocked : Blocked ⟨u.all.set w changed, workers, u.serving⟩ v) (present : u.all[w]? = some worker)
    (smaller : changed.bReaders.length ≤ worker.bReaders.length) : u.Blocked v := by
  obtain ⟨data, t, waiting, found, full⟩ := blocked
  rcases getElem?_set_cases present changed v with ⟨rfl, here⟩ | ⟨_, other⟩
  · obtain rfl : changed = t := Option.some.inj (here.symm.trans found)
    exact ⟨data, worker, waiting, present, full.trans smaller⟩
  · exact ⟨data, t, waiting, other.symm.trans found, full⟩

theorem Sound.receive (sound : u.Sound) (source : String) (data : Bytes) :
    (u.receive source data).Sound := by
  unfold inputUDP.receive
  split
  · rename_i w found
    refine ⟨fun mapped => sound.mapped mapped, fun {v _} waiting => ?_⟩
    obtain ⟨rfl, _⟩ := Serving.inserting.inj waiting
    obtain ⟨worker, present, _, runs⟩ := sound.mapped found
    exact Or.inl ⟨worker, present, runs⟩
  · have new : (u.all ++ [(⟨source, [], none, .running⟩ : UDPWorker)])[u.all.length]? =
        some ⟨source, [], none, .running⟩ :=
      List.getElem?_concat_length
    refine ⟨fun {other v} mapped => ?_, fun {v _} waiting => ?_⟩
    · by_cases same : other = source
      · subst same
        have here := (Function.update_self other (some u.all.length) u.workers).symm.trans mapped
        obtain rfl := Option.some.inj here
        exact ⟨_, new, rfl, rfl⟩
      · obtain ⟨t, found, named, runs⟩ :=
          sound.mapped ((Function.update_of_ne same _ _).symm.trans mapped)
        obtain ⟨bound, _⟩ := List.getElem?_eq_some_iff.mp found
        exact ⟨t, (List.getElem?_append_left bound).trans found, named, runs⟩
    · obtain ⟨rfl, _⟩ := Serving.inserting.inj waiting
      exact Or.inl ⟨_, new, rfl⟩

/-- A worker changes: its handler goes on, or ends when no one inserts into its queue. -/
theorem Sound.set (sound : u.Sound) (present : u.all[w]? = some worker) (changed : UDPWorker)
    (named : changed.srcAddr = worker.srcAddr)
    (smaller : changed.bReaders.length ≤ worker.bReaders.length) {workers : String → Option Nat}
    (fewer : ∀ source v, workers source = some v → u.workers source = some v)
    (ends : changed.handler = worker.handler ∨ (∀ source, workers source ≠ some w) ∧ ¬ u.Blocked w) :
    Sound ⟨u.all.set w changed, workers, u.serving⟩ := by
  refine ⟨fun {source v} mapped => ?_, fun {v data} waiting => ?_⟩
  · obtain ⟨t, found, source_eq, runs⟩ := sound.mapped (fewer source v mapped)
    rcases getElem?_set_cases present changed v with ⟨rfl, here⟩ | ⟨_, other⟩
    · obtain rfl : worker = t := Option.some.inj (present.symm.trans found)
      rcases ends with same | ⟨removed, _⟩
      · exact ⟨changed, here, named.trans source_eq, same.trans runs⟩
      · exact absurd mapped (removed source)
    · exact ⟨t, other.trans found, source_eq, runs⟩
  · rcases sound.inserting waiting with ⟨t, found, runs⟩ | free
    · rcases getElem?_set_cases present changed v with ⟨rfl, here⟩ | ⟨_, other⟩
      · obtain rfl : worker = t := Option.some.inj (present.symm.trans found)
        rcases ends with same | ⟨_, unblocked⟩
        · exact Or.inl ⟨changed, here, same.trans runs⟩
        · exact Or.inr fun blocked => unblocked (blocked.of_set present smaller)
      · exact Or.inl ⟨t, other.trans found, runs⟩
    · exact Or.inr fun blocked => free (blocked.of_set present smaller)

theorem Sound.insert {u' : inputUDP} (sound : u.Sound) (next : u.insert = some u') : u'.Sound := by
  unfold inputUDP.insert at next
  split at next
  · rename_i w data waiting
    obtain ⟨worker, present, next⟩ := Option.bind_eq_some_iff.mp next
    simp only [Option.ite_none_right_eq_some, Option.some.injEq] at next
    rw [← next.2]
    refine ⟨fun {source v} mapped => ?_, fun waiting => by simp at waiting⟩
    obtain ⟨t, found, source_eq, runs⟩ := sound.mapped mapped
    rcases getElem?_set_cases present { worker with bReaders := worker.bReaders ++ [data] } v with
      ⟨rfl, here⟩ | ⟨_, other⟩
    · obtain rfl : worker = t := Option.some.inj (present.symm.trans found)
      exact ⟨_, here, source_eq, runs⟩
    · exact ⟨t, other.trans found, source_eq, runs⟩
  · contradiction

theorem Sound.step {kind : HandlerKind} {u' : inputUDP} (sound : u.Sound) (event : Event)
    (ok : u.EndsWell event) (next : step kind u event = some u') : u'.Sound := by
  cases event with
  | receive source data =>
    simp only [inputUDP.step, Option.ite_none_right_eq_some, Option.some.injEq] at next
    rw [← next.2]
    exact sound.receive source data
  | insert => exact sound.insert next
  | failRead temporary =>
    simp only [inputUDP.step, Option.ite_none_right_eq_some, Option.some.injEq] at next
    rw [← next.2]
    split
    · exact sound
    · exact ⟨fun mapped => sound.mapped mapped, fun waiting => by simp at waiting⟩
  | read w n =>
    obtain ⟨worker, alive, rfl⟩ := Option.map_eq_some_iff.mp next
    obtain ⟨named, handler, smaller⟩ := Read_worker n worker
    exact sound.set (live_some alive) _ named smaller (fun _ _ mapped => mapped) (Or.inl handler)
  | close w =>
    obtain ⟨worker, alive, rfl⟩ := Option.map_eq_some_iff.mp next
    have present := live_some alive
    have kept : ∀ source v, Function.update u.workers worker.srcAddr none source = some v →
        source ≠ worker.srcAddr ∧ u.workers source = some v := by
      intro source v mapped
      by_cases same : source = worker.srcAddr
      · subst same
        simp at mapped
      · exact ⟨same, (Function.update_of_ne same _ _).symm.trans mapped⟩
    refine sound.set present { worker with handler := .closed } rfl (Nat.le_refl _)
      (fun source v mapped => (kept source v mapped).2) (Or.inr ⟨fun source mapped => ?_, ok⟩)
    -- the worker was in the map under its own source only, which is gone
    obtain ⟨differ, mapped⟩ := kept source w mapped
    obtain ⟨t, found, source_eq, _⟩ := sound.mapped mapped
    rw [← Option.some.inj (present.symm.trans found)] at source_eq
    exact differ source_eq.symm
  | finish w =>
    obtain ⟨worker, ended, rfl⟩ := Option.map_eq_some_iff.mp next
    have present := live_some (Option.filter_eq_some_iff.mp ended).1
    exact sound.set present { worker with handler := .done } rfl (Nat.le_refl _)
      (fun _ _ mapped => mapped) (Or.inr ok)

end steps

/-- In every run whose handlers all end well, a loop that waits on a full queue waits on one
that a running handler reads. -/
theorem blocked_has_handler (kind : HandlerKind) {events : List Event} {u : inputUDP}
    (run : (system kind).Run EndsWell events u) (w : Nat) (blocked : u.Blocked w) : u.HasHandler w := by
  have sound : u.Sound := by
    refine run.invariant Sound ?_ fun u event u' sound ok next => sound.step event ok next
    rintro u rfl
    exact ⟨fun mapped => by simp at mapped, fun waiting => by simp at waiting⟩
  obtain ⟨data, worker, waiting, present, full⟩ := blocked
  rcases sound.inserting waiting with held | free
  · exact held
  · exact absurd ⟨data, worker, waiting, present, full⟩ free

/-- A source that sends until the loop waits on its queue. -/
def flood (n : Nat) : List Event :=
  (List.replicate n [.receive "a" [1], .insert]).flatten ++ [.receive "a" [1]]

def atStart : inputUDP := ⟨[], fun _ => none, .reading⟩

/-- What can be seen of the loop and of the first worker. -/
def view (u : inputUDP) : Serving × Option (Nat × Handler) :=
  (u.serving, (u.all[0]?).map fun worker => (worker.bReaders.length, worker.handler))

theorem blocked_of_view {u : inputUDP} {handler : Handler}
    (seen : u.view = (.inserting 0 [1], some (100, handler))) :
    u.Blocked 0 ∧ ∃ worker, u.all[0]? = some worker ∧ worker.handler = handler := by
  obtain ⟨serving, first⟩ := Prod.mk.inj seen
  obtain ⟨worker, present, values⟩ := Option.map_eq_some_iff.mp first
  obtain ⟨length, handled⟩ := Prod.mk.inj values
  exact ⟨⟨[1], worker, serving, present, length.ge⟩, worker, present, handled⟩

def goesOn : Event → Bool
  | .close _ | .finish _ => false
  | _ => true

theorem flooded_has_handler :
    ∃ u, (system .handleInputStream).Run EndsWell (flood 100) u ∧ u.Blocked 0 ∧ u.HasHandler 0 := by
  have seen :
    ((system .handleInputStream).play (fun _ event => goesOn event) (flood 100) atStart).map view =
      some (.inserting 0 [1], some (100, .running)) := by decide +kernel
  obtain ⟨u, played, blocked⟩ := Option.map_eq_some_iff.mp seen
  have run : (system .handleInputStream).Run EndsWell (flood 100) u := by
    refine ((System.Run.start rfl).play (flood 100) played).mono fun u event ok => ?_
    cases event with
    | close w => exact absurd ok Bool.false_ne_true
    | finish w => exact absurd ok Bool.false_ne_true
    | _ => trivial
  exact ⟨u, run, (blocked_of_view blocked).1, blocked_has_handler _ run 0 (blocked_of_view blocked).1⟩

/-- The handler of a full queue gives up, or one that never closed its stream is sent more: no
datagram of any source is received any more. -/
theorem loop_wedged :
    (∃ u, (system .handleInputStream).Reachable u ∧ u.Blocked 0 ∧ ¬ u.HasHandler 0) ∧
    ∃ u, (system .HandlerWorkerStream).Reachable u ∧ u.Blocked 0 ∧ ¬ u.HasHandler 0 := by
  have gone : ∀ {u : inputUDP}, u.view = (.inserting 0 [1], some (100, .done)) → u.Blocked 0 ∧
      ¬ u.HasHandler 0 := by
    intro u seen
    obtain ⟨blocked, worker, present, done⟩ := blocked_of_view seen
    refine ⟨blocked, fun ⟨worker', present', runs⟩ => ?_⟩
    rw [← Option.some.inj (present.symm.trans present'), done] at runs
    contradiction
  constructor
  · have seen : ((system .handleInputStream).play (fun _ _ => true)
      (flood 100 ++ [.close 0, .finish 0]) atStart).map view =
        some (.inserting 0 [1], some (100, .done)) := by decide +kernel
    obtain ⟨u, played, last⟩ := Option.map_eq_some_iff.mp seen
    exact ⟨u, System.Reachable.of_play rfl played, gone last⟩
  · have seen : ((system .HandlerWorkerStream).play (fun _ _ => true)
        ([.receive "a" [1], .insert, .read 0 1, .finish 0] ++ flood 100) atStart).map view =
        some (.inserting 0 [1], some (100, .done)) := by decide +kernel
    obtain ⟨u, played, last⟩ := Option.map_eq_some_iff.mp seen
    exact ⟨u, System.Reachable.of_play rfl played, gone last⟩

end inputUDP

end Gotun.Tun
