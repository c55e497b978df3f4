import Gotun.Lib.System
import Gotun.Lib.Table
import Gotun.Tun.FrameStream

/-! `Probe` of `tun/frame_stream.go` among other callers, and the reading loops that hand over the
responses. Critical sections under `waitersMu` are single steps; everything else that happens under
`probeMu`, and the two halves of `notifyProbeWaiter`, can be interleaved with anything. -/

namespace Gotun.Tun
open Gotun.Lib

/-- A response that was read, with its number among all of them. -/
structure Arrival where
  id : Nat
  resp : ProbeResp
  deriving DecidableEq, Repr

/-- `time.Since(time.Unix(0, sent))`, which stops at the ends of a `Duration`. -/
def since (now sent : Int64) : Int := max (-2 ^ 63) (min (2 ^ 63 - 1) (now.toInt - sent.toInt))

/-- What a call returns. A success says which response it took, and when. -/
inductive ProbeResult where
  | ok (taken : Arrival) (now : Int64) (rtt : Int)
  | error (text : String)
  deriving DecidableEq, Repr

/-- Where the holder of `probeMu` is. Its number is that of its channel, too. -/
inductive Probing where
  | locked
  | numbered (k : Nat) (seq : UInt64)
  | registered (k : Nat) (seq : UInt64)
  | started (k : Nat) (seq : UInt64) (start : Int64)
  | writing (k : Nat) (seq : UInt64) (start : Int64)
  | waiting (k : Nat) (seq : UInt64) (start : Int64)
  | leaving (k : Nat) (seq : UInt64) (start : Int64) (result : ProbeResult)
  | unregistered (k : Nat) (start : Int64) (result : ProbeResult)
  deriving DecidableEq, Repr

/-- A reading loop inside `notifyProbeWaiter`: before the look-up, or with the channel it found. -/
inductive Handling where
  | read (a : Arrival)
  | found (a : Arrival) (ch : Nat)
  deriving DecidableEq, Repr

/-- A call that returned. -/
structure Returned where
  number : Nat
  start : Int64
  result : ProbeResult
  deriving DecidableEq, Repr

/-- `calls` counts the calls that took a number, `sent` lists their requests. `looked` lists the
look-ups that found a channel, each with the call that was waiting then. -/
structure Probes where
  probeMu : Option Probing
  probeSeq : UInt64
  probeWaiters : Table UInt64 Nat
  respCh : Nat → Option Arrival
  handling : List Handling
  calls : Nat
  arrivals : Nat
  sent : List (Nat × ProbeReq)
  looked : List (Arrival × Nat)
  returned : List Returned

inductive ProbeEvent where
  | lock
  | add
  | registerProbeWaiter
  | now (start : Int64)
  | WriteProbeReq
  | wrote (err : Option String)
  | receive (now : Int64)
  | timeout
  | unregisterProbeWaiter
  | unlock
  | arrive (resp : ProbeResp)
  | lookup (i : Nat)
  | send (i : Nat)
  deriving DecidableEq, Repr

/-- The call that a response can still reach: it is registered and has not left. -/
def Probing.waits : Probing → Nat
  | .registered k _ | .started k _ _ | .writing k _ _ | .waiting k _ _ | .leaving k _ _ _ => k
  | _ => 0

namespace Probes

def initial : Probes where
  probeMu := none
  probeSeq := 0
  probeWaiters := fun _ => none
  respCh := fun _ => none
  handling := []
  calls := 0
  arrivals := 0
  sent := []
  looked := []
  returned := []

/-- `select { case ch <- resp: default: }` on a channel with room for one. -/
def trySend (respCh : Nat → Option Arrival) (ch : Nat) (a : Arrival) : Nat → Option Arrival :=
  if respCh ch = none then Function.update respCh ch (some a) else respCh

def step (s : Probes) : ProbeEvent → Option Probes
  | .lock => match s.probeMu with
    | none => some { s with probeMu := some .locked }
    | _ => none
  | .add => match s.probeMu with
    | some .locked => some { s with
        probeMu := some (.numbered (s.calls + 1) (s.probeSeq + 1)), probeSeq := s.probeSeq + 1,
          calls := s.calls + 1 }
    | _ => none
  | .registerProbeWaiter => match s.probeMu with
    | some (.numbered k seq) =>
      some { s with probeMu := some (.registered k seq), probeWaiters := s.probeWaiters.put seq k }
    | _ => none
  | .now start => match s.probeMu with
    | some (.registered k seq) => some { s with probeMu := some (.started k seq start) }
    | _ => none
  | .WriteProbeReq => match s.probeMu with
    | some (.started k seq start) => some { s with
        probeMu := some (.writing k seq start), sent := s.sent ++ [(k, ⟨seq, start⟩)] }
    | _ => none
  | .wrote err => match s.probeMu with
    | some (.writing k seq start) => some { s with
        probeMu := some (match err with
          | none => .waiting k seq start
          | some text => .leaving k seq start (.error text)) }
    | _ => none
  | .receive now => match s.probeMu with
    | some (.waiting k seq start) => (s.respCh k).map fun a => { s with
        probeMu := some (.leaving k seq start
          (if a.resp.Seq ≠ seq then .error "probe sequence mismatch" else .ok a now
            (since now a.resp.SentUnixNano)))
        respCh := Function.update s.respCh k none }
    | _ => none
  | .timeout => match s.probeMu with
    | some (.waiting k seq start) =>
      some { s with probeMu := some (.leaving k seq start (.error "probe timeout")) }
    | _ => none
  | .unregisterProbeWaiter => match s.probeMu with
    | some (.leaving k seq start result) => some { s with
        probeMu := some (.unregistered k start result), probeWaiters := s.probeWaiters.drop seq }
    | _ => none
  | .unlock => match s.probeMu with
    | some (.unregistered k start result) =>
      some { s with probeMu := none, returned := s.returned ++ [⟨k, start, result⟩] }
    | _ => none
  | .arrive resp =>
    some { s with handling := s.handling ++ [.read ⟨s.arrivals, resp⟩], arrivals := s.arrivals + 1 }
  | .lookup i => match s.handling[i]? with
    | some (.read a) => match s.probeWaiters a.resp.Seq with
      | none => some { s with handling := s.handling.eraseIdx i }
      | some ch => some { s with
          handling := s.handling.set i (.found a ch),
            looked := s.looked ++ [(a, (s.probeMu.map Probing.waits).getD 0)] }
    | _ => none
  | .send i => match s.handling[i]? with
    | some (.found a ch) =>
      some { s with handling := s.handling.eraseIdx i, respCh := trySend s.respCh ch a }
    | _ => none

def system : System Probes ProbeEvent where
  start s := s = initial
  step := step

end Probes

/-! The holder of `probeMu`. -/

namespace Probing

/-- A call has the number of the latest request, and its sequence number. -/
def Numbered (calls : Nat) : Probing → Prop
  | .locked => True
  | .numbered k seq | .registered k seq | .started k seq _ | .writing k seq _ | .waiting k seq _
  | .leaving k seq _ _ =>
      k = calls ∧ 0 < k ∧ seq = UInt64.ofNat k
  | .unregistered k _ _ => k = calls

/-- The only waiter is the call that is registered. -/
def waiters : Probing → Table UInt64 Nat
  | .registered k seq | .started k seq _ | .writing k seq _ | .waiting k seq _ | .leaving k seq _ _ =>
      Table.put (fun _ => none) seq k
  | _ => fun _ => none

def answer : Probing → List Returned
  | .leaving k _ start result | .unregistered k start result => [⟨k, start, result⟩]
  | _ => []

/-- One call has a number and no answer yet. -/
def unanswered : Probing → Nat
  | .numbered _ _ | .registered _ _ | .started _ _ _ | .writing _ _ _ | .waiting _ _ _ => 1
  | _ => 0

end Probing

namespace Probes

/-- The answers so far, in order: those that were returned, and the one on its way. -/
def answers (probeMu : Option Probing) (returned : List Returned) : List Returned :=
  returned ++ probeMu.elim [] Probing.answer

/-- Calls are numbered one after the other, and only the one that holds `probeMu` can be waiting. -/
structure Called (probeMu : Option Probing) (probeSeq : UInt64) (probeWaiters : Table UInt64 Nat)
    (calls : Nat) (returned : List Returned) : Prop where
  seq : probeSeq = UInt64.ofNat calls
  holder : ∀ c ∈ probeMu, c.Numbered calls
  waiters : probeWaiters = probeMu.elim (fun _ => none) Probing.waiters
  order : (answers probeMu returned).map Returned.number =
    List.range' 1 (calls - probeMu.elim 0 Probing.unanswered)

/-- The responses that were read and not yet looked up. -/
def unread (handling : List Handling) : List Nat :=
  handling.filterMap fun h => match h with
    | .read a => some a.id
    | .found _ _ => none

/-- Each response is looked up at most once, and then it goes to the channel of its call or nowhere. -/
structure Handled (handling : List Handling) (respCh : Nat → Option Arrival) (arrivals : Nat)
    (looked : List (Arrival × Nat)) :
    Prop where
  found : ∀ a ch, Handling.found a ch ∈ handling → (a, ch) ∈ looked
  buffered : ∀ ch a, respCh ch = some a → (a, ch) ∈ looked
  matched : ∀ p ∈ looked, p.1.resp.Seq = UInt64.ofNat p.2
  once : (unread handling ++ looked.map fun p => p.1.id).Nodup
  below : ∀ i ∈ unread handling ++ looked.map fun p => p.1.id, i < arrivals

/-- A success took a response that was looked up for it. -/
def Taken (answers : List Returned) (looked : List (Arrival × Nat)) : Prop :=
  ∀ r ∈ answers, ∀ a now rtt, r.result = .ok a now rtt → (a, r.number) ∈ looked ∧
    rtt = since now a.resp.SentUnixNano

structure Matched (s : Probes) : Prop where
  called : Called s.probeMu s.probeSeq s.probeWaiters s.calls s.returned
  handled : Handled s.handling s.respCh s.arrivals s.looked
  taken : Taken (answers s.probeMu s.returned) s.looked

theorem matched_initial : Matched initial where
  called := ⟨rfl, nofun, rfl, rfl⟩
  handled := ⟨nofun, nofun, nofun, .nil, nofun⟩
  taken := nofun

/-! What the steps of a call keep. -/

section calls
variable {probeMu : Option Probing} {probeSeq : UInt64} {probeWaiters : Table UInt64 Nat} {calls : Nat}
  {returned : List Returned} {k : Nat} {seq : UInt64} {start : Int64} {result : ProbeResult}

theorem Called.lock (called : Called none probeSeq probeWaiters calls returned) :
    Called (some .locked) probeSeq probeWaiters calls returned :=
  ⟨called.seq, by rintro c ⟨⟩; trivial, called.waiters, called.order⟩

theorem Called.add (called : Called (some .locked) probeSeq probeWaiters calls returned) :
    Called (some (.numbered (calls + 1) (probeSeq + 1))) (probeSeq + 1) probeWaiters
      (calls + 1) returned := by
  have next : probeSeq + 1 = UInt64.ofNat (calls + 1) := by
    rw [called.seq, UInt64.ofNat_add]
    rfl
  refine ⟨next, ?_, called.waiters, called.order⟩
  rintro c ⟨⟩
  exact ⟨rfl, Nat.succ_pos calls, next⟩

theorem Called.register (called : Called (some (.numbered k seq)) probeSeq probeWaiters calls returned) :
    Called (some (.registered k seq)) probeSeq (probeWaiters.put seq k) calls returned := by
  refine ⟨called.seq, ?_, ?_, called.order⟩
  · rintro c ⟨⟩
    exact called.holder (.numbered k seq) rfl
  · rw [called.waiters]
    rfl

theorem Called.now (called : Called (some (.registered k seq)) probeSeq probeWaiters calls returned)
    (start : Int64) :
    Called (some (.started k seq start)) probeSeq probeWaiters calls returned := by
  refine ⟨called.seq, ?_, called.waiters, called.order⟩
  rintro c ⟨⟩
  exact called.holder (.registered k seq) rfl

theorem Called.write
    (called : Called (some (.started k seq start)) probeSeq probeWaiters calls returned) :
    Called (some (.writing k seq start)) probeSeq probeWaiters calls returned := by
  refine ⟨called.seq, ?_, called.waiters, called.order⟩
  rintro c ⟨⟩
  exact called.holder (.started k seq start) rfl

theorem Called.wrote
    (called : Called (some (.writing k seq start)) probeSeq probeWaiters calls returned) :
    Called (some (.waiting k seq start)) probeSeq probeWaiters calls returned := by
  refine ⟨called.seq, ?_, called.waiters, called.order⟩
  rintro c ⟨⟩
  exact called.holder (.writing k seq start) rfl

theorem Called.leave
    (called : Called (some (.waiting k seq start)) probeSeq probeWaiters calls returned)
    (result : ProbeResult) :
    Called (some (.leaving k seq start result)) probeSeq probeWaiters calls returned := by
  obtain ⟨rfl, positive, same⟩ := called.holder (.waiting k seq start) rfl
  refine ⟨called.seq, ?_, called.waiters, ?_⟩
  · rintro c ⟨⟩
    exact ⟨rfl, positive, same⟩
  · -- The answer of the latest call is the last one in order.
    have order : (returned ++ []).map Returned.number = List.range' 1 (k - 1) := called.order
    obtain ⟨n, rfl⟩ := Nat.exists_eq_succ_of_ne_zero (Nat.pos_iff_ne_zero.mp positive)
    rw [List.append_nil] at order
    simp only [answers, Option.elim_some, Probing.answer, Probing.unanswered, Nat.sub_zero,
      List.map_append, order, List.map_singleton, List.range'_concat, Nat.succ_eq_add_one,
      Nat.add_sub_cancel, Nat.one_mul]
    rw [Nat.add_comm]

theorem Called.unregister
    (called : Called (some (.leaving k seq start result)) probeSeq probeWaiters calls returned) :
    Called (some (.unregistered k start result)) probeSeq (probeWaiters.drop seq) calls returned := by
  refine ⟨called.seq, ?_, ?_, called.order⟩
  · rintro c ⟨⟩
    exact (called.holder (.leaving k seq start result) rfl).1
  · rw [called.waiters]
    funext other
    cases found : Table.drop (Option.elim (some (Probing.leaving k seq start result))
      (fun _ => none) Probing.waiters) seq other with
    | none => rfl
    | some ch =>
      obtain ⟨ne, there⟩ := Table.of_drop found
      rw [Option.elim_some, Probing.waiters, Table.put, Function.update_of_ne ne] at there
      contradiction

theorem Called.unlock
    (called : Called (some (.unregistered k start result)) probeSeq probeWaiters calls returned) :
    Called none probeSeq probeWaiters calls (returned ++ [⟨k, start, result⟩]) := by
  refine ⟨called.seq, nofun, called.waiters, ?_⟩
  have order := called.order
  rwa [answers, Option.elim_none, List.append_nil]

end calls

/-! What the steps of the reading loops keep. -/

section handlers
variable {handling : List Handling} {respCh : Nat → Option Arrival} {arrivals : Nat}
  {looked : List (Arrival × Nat)} {i k ch : Nat} {a : Arrival}

/-- The loops before and after the one that takes a step. -/
theorem split_at {h : Handling} (at_ : handling[i]? = some h) :
    ∃ before after, handling = before ++ h :: after ∧
    handling.eraseIdx i = before ++ after ∧ ∀ next, handling.set i next = before ++ next :: after := by
  obtain ⟨below, there⟩ := List.getElem?_eq_some_iff.mp at_
  refine ⟨handling.take i, handling.drop (i + 1), ?_, List.eraseIdx_eq_take_drop_succ .., fun next => ?_⟩
  · rw [← there, List.getElem_cons_drop, List.take_append_drop]
  · rw [List.set_eq_take_append_cons_drop, if_pos below]

theorem unread_append (before after : List Handling) :
    unread (before ++ after) = unread before ++ unread after :=
  List.filterMap_append ..

theorem unread_cons_read (after : List Handling) (a : Arrival) :
    unread (.read a :: after) = a.id :: unread after := rfl

theorem unread_cons_found (after : List Handling) (a : Arrival) (ch : Nat) :
    unread (.found a ch :: after) = unread after := rfl

theorem Handled.arrive (handled : Handled handling respCh arrivals looked) (resp : ProbeResp) :
    Handled (handling ++ [.read ⟨arrivals, resp⟩]) respCh (arrivals + 1) looked := by
  have moved : (unread (handling ++ [.read ⟨arrivals, resp⟩]) ++ looked.map fun p => p.1.id).Perm
      (arrivals :: (unread handling ++ looked.map fun p => p.1.id)) := by
    rw [unread_append, List.append_assoc]
    exact List.perm_middle
  refine ⟨?_, handled.buffered, handled.matched, ?_, ?_⟩
  · intro a ch member
    rcases List.mem_append.mp member with earlier | new
    · exact handled.found a ch earlier
    · exact absurd (List.mem_singleton.mp new) nofun
  · rw [moved.nodup_iff, List.nodup_cons]
    exact ⟨fun old => absurd (handled.below arrivals old) (Nat.lt_irrefl _), handled.once⟩
  · intro i member
    rcases List.mem_cons.mp (moved.mem_iff.mp member) with rfl | earlier
    · exact Nat.lt_succ_self _
    · exact Nat.lt_succ_of_lt (handled.below i earlier)

/-- A response without a waiter is dropped. -/
theorem Handled.unknown (handled : Handled handling respCh arrivals looked)
    (at_ : handling[i]? = some (.read a)) :
    Handled (handling.eraseIdx i) respCh arrivals looked := by
  obtain ⟨before, after, split, erased, _⟩ := split_at at_
  have fewer : (unread (handling.eraseIdx i) ++ looked.map fun p => p.1.id).Sublist
      (unread handling ++ looked.map fun p => p.1.id) := by
    rw [erased, split, unread_append, unread_append, unread_cons_read]
    exact ((List.sublist_cons_self ..).append_left _).append_right _
  refine ⟨?_, handled.buffered, handled.matched, handled.once.sublist fewer,
    fun i member => handled.below i (fewer.subset member)⟩
  intro b ch member
  exact handled.found b ch (List.mem_of_mem_eraseIdx member)

/-- A response with a waiter is that waiter's from now on. -/
theorem Handled.lookup (handled : Handled handling respCh arrivals looked)
    (at_ : handling[i]? = some (.read a)) (same : a.resp.Seq = UInt64.ofNat ch) :
    Handled (handling.set i (.found a ch)) respCh arrivals (looked ++ [(a, ch)]) := by
  obtain ⟨before, after, split, _, replaced⟩ := split_at at_
  have moved : (unread (handling.set i (.found a ch)) ++ (looked ++ [(a, ch)]).map fun p => p.1.id).Perm
      (unread handling ++ looked.map fun p => p.1.id) := by
    rw [replaced, split, unread_append, unread_append, unread_cons_found, unread_cons_read,
      List.map_append, List.map_singleton, ← List.append_assoc]
    exact (List.perm_append_singleton _ _).trans (List.perm_middle.symm.append_right _)
  refine ⟨?_, ?_, ?_, moved.nodup_iff.mpr handled.once,
    fun i member => handled.below i (moved.mem_iff.mp member)⟩
  · intro b other member
    rw [replaced] at member
    rcases List.mem_append.mp member with earlier | later
    · exact List.mem_append_left _ (handled.found b other (split ▸ List.mem_append_left _ earlier))
    · rcases List.mem_cons.mp later with here | later
      · obtain ⟨rfl, rfl⟩ := Handling.found.inj here
        exact List.mem_append_right _ (List.mem_singleton_self _)
      · exact List.mem_append_left _ (handled.found b other
          (split ▸ List.mem_append_right _ (List.mem_cons_of_mem _ later)))
  · intro other b held
    exact List.mem_append_left _ (handled.buffered other b held)
  · intro p member
    rcases List.mem_append.mp member with earlier | new
    · exact handled.matched p earlier
    · rw [List.mem_singleton.mp new]
      exact same

theorem Handled.send (handled : Handled handling respCh arrivals looked)
    (at_ : handling[i]? = some (.found a ch)) :
    Handled (handling.eraseIdx i) (trySend respCh ch a) arrivals looked := by
  obtain ⟨before, after, split, erased, _⟩ := split_at at_
  have same : unread (handling.eraseIdx i) = unread handling := by
    rw [erased, split, unread_append, unread_append, unread_cons_found]
  refine ⟨fun b other member => handled.found b other (List.mem_of_mem_eraseIdx member), ?_,
    handled.matched, same ▸ handled.once, same ▸ handled.below⟩
  intro other b held
  rw [trySend] at held
  split_ifs at held with room
  · by_cases here : other = ch
    · subst here
      rw [Function.update_self] at held
      rw [← Option.some.inj held]
      exact handled.found a other (split ▸ List.mem_append_right _ List.mem_cons_self)
    · rw [Function.update_of_ne here] at held
      exact handled.buffered other b held
  · exact handled.buffered other b held

theorem Handled.receive (handled : Handled handling respCh arrivals looked) (k : Nat) :
    Handled handling (Function.update respCh k none) arrivals looked := by
  refine ⟨handled.found, ?_, handled.matched, handled.once, handled.below⟩
  intro other b held
  by_cases here : other = k
  · rw [here, Function.update_self] at held
    contradiction
  · rw [Function.update_of_ne here] at held
    exact handled.buffered other b held

end handlers

theorem Taken.mono {answers : List Returned} {looked : List (Arrival × Nat)}
    (taken : Taken answers looked) (more : List (Arrival × Nat)) :
    Taken answers (looked ++ more) := by
  intro r member a now rtt success
  obtain ⟨found, same⟩ := taken r member a now rtt success
  exact ⟨List.mem_append_left _ found, same⟩

/-- A failure takes no response. -/
theorem Taken.fail {returned : List Returned} {looked : List (Arrival × Nat)}
    (taken : Taken returned looked) (k : Nat) (start : Int64) (text : String) :
    Taken (returned ++ [⟨k, start, .error text⟩]) looked := by
  intro r member a now rtt success
  rcases List.mem_append.mp member with earlier | last
  · exact taken r earlier a now rtt success
  · rw [List.mem_singleton.mp last] at success
    contradiction

theorem Taken.receive {returned : List Returned} {looked : List (Arrival × Nat)}
    (taken : Taken returned looked) {k : Nat} {start now : Int64} {seq : UInt64} {a : Arrival}
    (found : (a, k) ∈ looked) :
    Taken (returned ++ [⟨k, start,
      if a.resp.Seq ≠ seq then .error "probe sequence mismatch"
      else .ok a now (since now a.resp.SentUnixNano)⟩]) looked := by
  split_ifs
  · exact taken.fail k start _
  · intro r member b later rtt success
    rcases List.mem_append.mp member with earlier | last
    · exact taken r earlier b later rtt success
    · rw [List.mem_singleton.mp last] at success ⊢
      obtain ⟨rfl, rfl, rfl⟩ := ProbeResult.ok.inj success
      exact ⟨found, rfl⟩

/-- A response is looked up only for the call that is waiting. -/
theorem Called.lookup {probeMu : Option Probing} {probeSeq : UInt64}
    {probeWaiters : Table UInt64 Nat} {calls : Nat} {returned : List Returned}
    (called : Called probeMu probeSeq probeWaiters calls returned) {seq : UInt64} {ch : Nat}
    (found : probeWaiters seq = some ch) :
    ∃ c, probeMu = some c ∧ c.waits = ch ∧ 0 < ch ∧ seq = UInt64.ofNat ch := by
  have holder := called.holder
  rw [called.waiters] at found
  match probeMu with
  | none => contradiction
  | some (.registered k own) | some (.started k own _) | some (.writing k own _)
  | some (.waiting k own _)
  | some (.leaving k own _ _) =>
    have only : Table.put (fun _ => none) own k seq = some ch := found
    rcases Table.of_put only with ⟨rfl, rfl⟩ | ⟨_, other⟩
    · obtain ⟨_, positive, same⟩ := holder _ rfl
      exact ⟨_, rfl, rfl, positive, same⟩
    · contradiction
  | some .locked | some (.numbered _ _) | some (.unregistered _ _ _) => contradiction

/-- What a step can do. -/
inductive Stepped (s : Probes) : ProbeEvent → Probes → Prop
  | lock (at_ : s.probeMu = none) : Stepped s .lock { s with probeMu := some .locked }
  | add (at_ : s.probeMu = some .locked) : Stepped s .add { s with
      probeMu := some (.numbered (s.calls + 1) (s.probeSeq + 1)), probeSeq := s.probeSeq + 1,
        calls := s.calls + 1 }
  | register {k : Nat} {seq : UInt64} (at_ : s.probeMu = some (.numbered k seq)) :
      Stepped s .registerProbeWaiter { s with
      probeMu := some (.registered k seq), probeWaiters := s.probeWaiters.put seq k }
  | now {k : Nat} {seq : UInt64} {start : Int64} (at_ : s.probeMu = some (.registered k seq)) :
      Stepped s (.now start) { s with probeMu := some (.started k seq start) }
  | write {k : Nat} {seq : UInt64} {start : Int64} (at_ : s.probeMu = some (.started k seq start)) :
      Stepped s .WriteProbeReq { s with
        probeMu := some (.writing k seq start), sent := s.sent ++ [(k, ⟨seq, start⟩)] }
  | wrote {k : Nat} {seq : UInt64} {start : Int64} (at_ : s.probeMu = some (.writing k seq start)) :
      Stepped s (.wrote none) { s with probeMu := some (.waiting k seq start) }
  | fail {k : Nat} {seq : UInt64} {start : Int64} {text : String}
      (at_ : s.probeMu = some (.writing k seq start)) :
      Stepped s (.wrote (some text)) { s with probeMu := some (.leaving k seq start (.error text)) }
  | receive {k : Nat} {seq : UInt64} {start now : Int64} {a : Arrival}
      (at_ : s.probeMu = some (.waiting k seq start))
      (held : s.respCh k = some a) : Stepped s (.receive now) { s with
        probeMu := some (.leaving k seq start
          (if a.resp.Seq ≠ seq then .error "probe sequence mismatch" else .ok a now
            (since now a.resp.SentUnixNano)))
        respCh := Function.update s.respCh k none }
  | timeout {k : Nat} {seq : UInt64} {start : Int64} (at_ : s.probeMu = some (.waiting k seq start)) :
      Stepped s .timeout { s with probeMu := some (.leaving k seq start (.error "probe timeout")) }
  | unregister {k : Nat} {seq : UInt64} {start : Int64} {result : ProbeResult}
      (at_ : s.probeMu = some (.leaving k seq start result)) : Stepped s .unregisterProbeWaiter { s with
        probeMu := some (.unregistered k start result), probeWaiters := s.probeWaiters.drop seq }
  | unlock {k : Nat} {start : Int64} {result : ProbeResult}
      (at_ : s.probeMu = some (.unregistered k start result)) :
      Stepped s .unlock { s with probeMu := none, returned := s.returned ++ [⟨k, start, result⟩] }
  | arrive (resp : ProbeResp) : Stepped s (.arrive resp) { s with
      handling := s.handling ++ [.read ⟨s.arrivals, resp⟩], arrivals := s.arrivals + 1 }
  | unknown {i : Nat} {a : Arrival} (at_ : s.handling[i]? = some (.read a))
      (absent : s.probeWaiters a.resp.Seq = none) :
      Stepped s (.lookup i) { s with handling := s.handling.eraseIdx i }
  | lookup {i ch : Nat} {a : Arrival} (at_ : s.handling[i]? = some (.read a))
      (found : s.probeWaiters a.resp.Seq = some ch) :
      Stepped s (.lookup i) { s with
        handling := s.handling.set i (.found a ch),
          looked := s.looked ++ [(a, (s.probeMu.map Probing.waits).getD 0)] }
  | send {i ch : Nat} {a : Arrival} (at_ : s.handling[i]? = some (.found a ch)) :
      Stepped s (.send i) { s with handling := s.handling.eraseIdx i, respCh := trySend s.respCh ch a }

theorem stepped {s s' : Probes} {e : ProbeEvent} (next : s.step e = some s') : Stepped s e s' := by
  cases e <;> simp only [Probes.step] at next
  case lock =>
    split at next
    · rename_i at_
      exact Option.some.inj next ▸ .lock at_
    · contradiction
  case add =>
    split at next
    · rename_i at_
      exact Option.some.inj next ▸ .add at_
    · contradiction
  case registerProbeWaiter =>
    split at next
    · rename_i at_
      exact Option.some.inj next ▸ .register at_
    · contradiction
  case now start =>
    split at next
    · rename_i at_
      exact Option.some.inj next ▸ .now at_
    · contradiction
  case WriteProbeReq =>
    split at next
    · rename_i at_
      exact Option.some.inj next ▸ .write at_
    · contradiction
  case wrote err =>
    split at next
    · rename_i at_
      cases err with
      | none => exact Option.some.inj next ▸ .wrote at_
      | some text => exact Option.some.inj next ▸ .fail at_
    · contradiction
  case receive now =>
    split at next
    · rename_i at_
      obtain ⟨a, held, rfl⟩ := Option.map_eq_some_iff.mp next
      exact .receive at_ held
    · contradiction
  case timeout =>
    split at next
    · rename_i at_
      exact Option.some.inj next ▸ .timeout at_
    · contradiction
  case unregisterProbeWaiter =>
    split at next
    · rename_i at_
      exact Option.some.inj next ▸ .unregister at_
    · contradiction
  case unlock =>
    split at next
    · rename_i at_
      exact Option.some.inj next ▸ .unlock at_
    · contradiction
  case arrive resp => exact Option.some.inj next ▸ .arrive resp
  case lookup i =>
    split at next
    · rename_i at_
      split at next
      · rename_i absent
        exact Option.some.inj next ▸ .unknown at_ absent
      · rename_i found
        exact Option.some.inj next ▸ .lookup at_ found
    · contradiction
  case send i =>
    split at next
    · rename_i at_
      exact Option.some.inj next ▸ .send at_
    · contradiction

/-- A call that has no answer yet adds none. -/
theorem answers_open {c : Probing} (silent : c.answer = []) (returned : List Returned) :
    answers (some c) returned = returned := by
  rw [answers, Option.elim_some, silent, List.append_nil]

theorem Matched.step {s s' : Probes} {e : ProbeEvent} (matched : Matched s)
    (next : s.step e = some s') : Matched s' := by
  obtain ⟨called, handled, taken⟩ := matched
  cases stepped next with
  | lock at_ =>
    rw [at_] at called taken
    exact ⟨called.lock, handled, taken⟩
  | add at_ =>
    rw [at_] at called taken
    exact ⟨called.add, handled, taken⟩
  | register at_ =>
    rw [at_] at called taken
    exact ⟨called.register, handled, taken⟩
  | now at_ =>
    rw [at_] at called taken
    exact ⟨called.now _, handled, taken⟩
  | write at_ =>
    rw [at_] at called taken
    exact ⟨called.write, handled, taken⟩
  | wrote at_ =>
    rw [at_] at called taken
    exact ⟨called.wrote, handled, taken⟩
  | fail at_ =>
    rw [at_] at called taken
    rw [answers_open rfl] at taken
    exact ⟨called.wrote.leave _, handled, taken.fail _ _ _⟩
  | receive at_ held =>
    rw [at_] at called taken
    rw [answers_open rfl] at taken
    exact ⟨called.leave _, handled.receive _, taken.receive (handled.buffered _ _ held)⟩
  | timeout at_ =>
    rw [at_] at called taken
    rw [answers_open rfl] at taken
    exact ⟨called.leave _, handled, taken.fail _ _ _⟩
  | unregister at_ =>
    rw [at_] at called taken
    exact ⟨called.unregister, handled, taken⟩
  | unlock at_ =>
    rw [at_] at called taken
    refine ⟨called.unlock, handled, ?_⟩
    rw [answers, Option.elim_none, List.append_nil]
    exact taken
  | arrive resp => exact ⟨called, handled.arrive resp, taken⟩
  | unknown at_ absent => exact ⟨called, handled.unknown at_, taken⟩
  | lookup at_ found =>
    obtain ⟨c, holds, waits, _, same⟩ := called.lookup found
    rw [holds, Option.map_some, Option.getD_some, waits]
    exact ⟨holds ▸ called, handled.lookup at_ same, holds ▸ taken.mono _⟩
  | send at_ => exact ⟨called, handled.send at_, taken⟩

theorem matched_of_run {allowed : Probes → ProbeEvent → Prop} {events : List ProbeEvent} {s : Probes}
    (run : system.Run allowed events s) : Matched s := by
  refine run.invariant Matched ?_ fun _ _ _ matched _ next => matched.step next
  rintro s rfl
  exact matched_initial

end Probes

end Gotun.Tun
