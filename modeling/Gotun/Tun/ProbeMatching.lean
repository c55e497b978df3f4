import Gotun.Tun.ProbeCalls
import Mathlib.Data.List.Nodup

/-! What the callers of `Probe` may rely on: every success took a response of its own, and with a peer
that echoes the requests the duration is that of its own round trip. -/

namespace Gotun.Tun
open Gotun.Lib

namespace Probes

/-! A peer that echoes the fields of the requests. -/

def Echo (sent : List (Nat × ProbeReq)) (resp : ProbeResp) : Prop :=
  ∃ p ∈ sent, resp.Seq = p.2.Seq ∧ resp.SentUnixNano = p.2.SentUnixNano

/-- Only echoes of requests arrive, each as often and as late as may be. -/
def echoes (s : Probes) : ProbeEvent → Prop
  | .arrive resp => Echo s.sent resp
  | _ => True

instance (sent : List (Nat × ProbeReq)) (resp : ProbeResp) : Decidable (Echo sent resp) :=
  inferInstanceAs (Decidable (∃ p ∈ sent, resp.Seq = p.2.Seq ∧ resp.SentUnixNano = p.2.SentUnixNano))

instance (s : Probes) (e : ProbeEvent) : Decidable (echoes s e) :=
  match e with
  | .arrive resp => inferInstanceAs (Decidable (Echo s.sent resp))
  | .lock | .add | .registerProbeWaiter | .now _ | .WriteProbeReq | .wrote _ | .receive _ | .timeout
  | .unregisterProbeWaiter
  | .unlock | .lookup _ | .send _ => isTrue trivial

end Probes

/-- The steps that a reading loop has still to take in `notifyProbeWaiter`. -/
def Handling.left : Handling → Nat
  | .read _ => 2
  | .found _ _ => 1

/-- The request of a call that has no answer yet. -/
def Probing.request : Probing → List (Nat × ProbeReq)
  | .writing k seq start | .waiting k seq start => [(k, ⟨seq, start⟩)]
  | _ => []

/-- One call has a number and sent nothing yet. -/
def Probing.unsent : Probing → Nat
  | .numbered _ _ | .registered _ _ | .started _ _ _ => 1
  | _ => 0

namespace Probes

/-- Each call sends one request, under its own number, and every response is an echo of one. -/
structure Echoed (s : Probes) : Prop where
  numbers : ∀ p ∈ s.sent, p.2.Seq = UInt64.ofNat p.1 ∧ p.1 + s.probeMu.elim 0 Probing.unsent ≤ s.calls
  once : (s.sent.map Prod.fst).Nodup
  open_ : ∀ p ∈ s.probeMu.elim [] Probing.request, p ∈ s.sent
  answered : ∀ r ∈ answers s.probeMu s.returned, (r.number, ⟨UInt64.ofNat r.number, r.start⟩) ∈ s.sent
  unread : ∀ a, Handling.read a ∈ s.handling → Echo s.sent a.resp
  looked : ∀ p ∈ s.looked, Echo s.sent p.1.resp

theorem Echo.mono {sent : List (Nat × ProbeReq)} {resp : ProbeResp} (echo : Echo sent resp)
    (more : List (Nat × ProbeReq)) :
    Echo (sent ++ more) resp := by
  obtain ⟨p, member, fields⟩ := echo
  exact ⟨p, List.mem_append_left _ member, fields⟩

theorem echoed_initial : Echoed initial := ⟨nofun, .nil, nofun, nofun, nofun, nofun⟩

/-- The request of the latest call is the first one under its number. -/
theorem Echoed.write {s : Probes} (echoed : Echoed s) {k : Nat} {seq : UInt64} {start : Int64}
    (at_ : s.probeMu = some (.started k seq start)) (latest : k = s.calls) (own : seq = UInt64.ofNat k) :
    Echoed { s with probeMu := some (.writing k seq start), sent := s.sent ++ [(k, ⟨seq, start⟩)] } := by
  obtain ⟨numbers, once, _, answered, unread, looked⟩ := echoed
  rw [at_] at numbers answered
  refine ⟨?_, ?_, fun p member => List.mem_append_right _ member,
    fun r member => List.mem_append_left _ (answered r member),
    fun a member => (unread a member).mono _, fun p member => (looked p member).mono _⟩
  · intro p member
    rcases List.mem_append.mp member with earlier | last
    · obtain ⟨same, below⟩ := numbers p earlier
      exact ⟨same, Nat.le_of_succ_le below⟩
    · rw [List.mem_singleton.mp last]
      exact ⟨own, latest.le⟩
  · rw [List.map_append, List.map_singleton]
    refine List.nodup_append.mpr ⟨once, List.pairwise_singleton .., ?_⟩
    intro j earlier j' last
    obtain ⟨p, member, rfl⟩ := List.mem_map.mp earlier
    have below : p.1 + 1 ≤ s.calls := (numbers p member).2
    rw [List.mem_singleton.mp last]
    intro same
    omega

/-- The latest call gets its answer. -/
theorem Echoed.answer {s : Probes} (echoed : Echoed s) {c : Probing} {k : Nat} {seq : UInt64}
    {start : Int64} (at_ : s.probeMu = some c) (request : c.request = [(k, ⟨seq, start⟩)])
    (silent : c.answer = []) (own : seq = UInt64.ofNat k) (result : ProbeResult)
    (respCh : Nat → Option Arrival) :
    Echoed { s with probeMu := some (.leaving k seq start result), respCh := respCh } := by
  obtain ⟨numbers, once, open_, answered, unread, looked⟩ := echoed
  rw [at_] at numbers open_ answered
  rw [answers_open silent] at answered
  rw [Option.elim_some, request] at open_
  refine ⟨fun p member => ⟨(numbers p member).1, (Nat.le_add_right ..).trans (numbers p member).2⟩,
    once, nofun, ?_, unread, looked⟩
  intro r member
  rcases List.mem_append.mp member with earlier | last
  · exact answered r earlier
  · rw [List.mem_singleton.mp last, ← own]
    exact open_ _ (List.mem_singleton_self _)

theorem Echoed.step {s s' : Probes} {e : ProbeEvent} (echoed : Echoed s) (matched : Matched s)
    (ok : echoes s e) (next : s.step e = some s') : Echoed s' := by
  have holder := matched.called.holder
  cases stepped next with
  | write at_ =>
    obtain ⟨latest, _, own⟩ := holder _ at_
    exact echoed.write at_ latest own
  | fail at_ =>
    obtain ⟨_, _, own⟩ := holder _ at_
    exact echoed.answer at_ rfl rfl own _ _
  | receive at_ held =>
    obtain ⟨_, _, own⟩ := holder _ at_
    exact echoed.answer at_ rfl rfl own _ _
  | timeout at_ =>
    obtain ⟨_, _, own⟩ := holder _ at_
    exact echoed.answer at_ rfl rfl own _ _
  | add at_ =>
    obtain ⟨numbers, once, open_, answered, unread, looked⟩ := echoed
    rw [at_] at numbers open_ answered
    exact ⟨fun p member => ⟨(numbers p member).1, Nat.succ_le_succ (numbers p member).2⟩, once,
      open_, answered, unread, looked⟩
  | lock at_ | register at_ | now at_ | wrote at_ | unregister at_ =>
    obtain ⟨numbers, once, open_, answered, unread, looked⟩ := echoed
    rw [at_] at numbers open_ answered
    exact ⟨numbers, once, open_, answered, unread, looked⟩
  | unlock at_ =>
    obtain ⟨numbers, once, open_, answered, unread, looked⟩ := echoed
    rw [at_] at numbers open_ answered
    refine ⟨numbers, once, open_, ?_, unread, looked⟩
    rw [answers, Option.elim_none, List.append_nil]
    exact answered
  | arrive resp =>
    obtain ⟨numbers, once, open_, answered, unread, looked⟩ := echoed
    refine ⟨numbers, once, open_, answered, ?_, looked⟩
    intro a member
    rcases List.mem_append.mp member with earlier | new
    · exact unread a earlier
    · rw [Handling.read.inj (List.mem_singleton.mp new)]
      exact ok
  | unknown at_ absent =>
    obtain ⟨numbers, once, open_, answered, unread, looked⟩ := echoed
    exact ⟨numbers, once, open_, answered,
      fun a member => unread a (List.mem_of_mem_eraseIdx member), looked⟩
  | send at_ =>
    obtain ⟨numbers, once, open_, answered, unread, looked⟩ := echoed
    exact ⟨numbers, once, open_, answered,
      fun a member => unread a (List.mem_of_mem_eraseIdx member), looked⟩
  | lookup at_ found =>
    obtain ⟨numbers, once, open_, answered, unread, looked⟩ := echoed
    refine ⟨numbers, once, open_, answered, ?_, ?_⟩
    · intro a member
      rcases List.mem_or_eq_of_mem_set member with earlier | new
      · exact unread a earlier
      · contradiction
    · intro p member
      rcases List.mem_append.mp member with earlier | new
      · exact looked p earlier
      · rw [List.mem_singleton.mp new]
        exact unread _ (List.mem_of_getElem? at_)

theorem echoed_of_run {events : List ProbeEvent} {s : Probes}
    (run : system.Run echoes events s) : Matched s ∧ Echoed s := by
  refine run.invariant (fun s => Matched s ∧ Echoed s) ?_ fun _ _ _ held ok next =>
    ⟨held.1.step next, held.2.step held.1 ok next⟩
  rintro s rfl
  exact ⟨matched_initial, echoed_initial⟩

/-! Every call gets its own response. -/

/-- The response was looked up while call `k` was waiting: it was registered and had not left. -/
def LookedUp (events : List ProbeEvent) (k : Nat) (a : Arrival) : Prop :=
  ∃ before i after t c, events = before ++ .lookup i :: after ∧ system.Run (fun _ _ => True) before t ∧
    t.handling[i]? = some (.read a) ∧ t.probeMu = some c ∧ c.waits = k ∧ 0 < k

theorem LookedUp.later {events : List ProbeEvent} {k : Nat} {a : Arrival}
    (looked : LookedUp events k a) (e : ProbeEvent) :
    LookedUp (events ++ [e]) k a := by
  obtain ⟨before, i, after, t, c, rfl, rest⟩ := looked
  exact ⟨before, i, after ++ [e], t, c, by rw [List.append_assoc]; rfl, rest⟩

theorem lookedUp_of_run {events : List ProbeEvent} {s : Probes}
    (run : system.Run (fun _ _ => True) events s) :
    ∀ p ∈ s.looked, LookedUp events p.2 p.1 := by
  induction run with
  | start starts =>
    rw [starts]
    exact nofun
  | @step events s s' e before _ next ih =>
    have called := (matched_of_run before).called
    cases stepped next with
    | lookup at_ found =>
      intro p member
      rcases List.mem_append.mp member with earlier | new
      · exact (ih p earlier).later _
      · rw [List.mem_singleton.mp new]
        obtain ⟨c, holds, waits, positive, _⟩ := called.lookup found
        rw [holds, Option.map_some, Option.getD_some, waits]
        exact ⟨events, _, [], s, c, rfl, before, at_, holds, waits, positive⟩
    | _ => exact fun p member => (ih p member).later _

/-- The steps that all reading loops have still to take. -/
def work (s : Probes) : Nat := (s.handling.map Handling.left).sum

/-- Nothing that anyone else does can block a reading loop. -/
theorem handling_advances (s : Probes) {i : Nat} {h : Handling} (at_ : s.handling[i]? = some h) :
    ∃ e ∈ [ProbeEvent.lookup i, .send i], ∃ s', s.step e = some s' ∧ s'.work < s.work := by
  obtain ⟨before, after, split, erased, replaced⟩ := split_at at_
  cases h with
  | read a =>
    refine ⟨.lookup i, List.mem_cons_self, ?_⟩
    cases found : s.probeWaiters a.resp.Seq with
    | none =>
      refine ⟨{ s with handling := s.handling.eraseIdx i }, by simp only [Probes.step, at_, found], ?_⟩
      simp only [work, erased]
      simp [split, Handling.left]
    | some ch =>
      refine ⟨{ s with
        handling := s.handling.set i (.found a ch),
          looked := s.looked ++ [(a, (s.probeMu.map Probing.waits).getD 0)] },
        by simp only [Probes.step, at_, found], ?_⟩
      simp only [work, replaced]
      simp [split, Handling.left]
  | found a ch =>
    refine ⟨.send i, List.mem_cons_of_mem _ List.mem_cons_self,
      { s with handling := s.handling.eraseIdx i, respCh := trySend s.respCh ch a },
        by simp only [Probes.step, at_], ?_⟩
    simp only [work, erased]
    simp [split, Handling.left]

/-- Calls return in the order of their numbers. -/
theorem Called.returned_order {probeMu : Option Probing} {probeSeq : UInt64}
    {probeWaiters : Table UInt64 Nat} {calls : Nat} {returned : List Returned}
    (called : Called probeMu probeSeq probeWaiters calls returned) :
    returned.map Returned.number = List.range' 1 returned.length ∧ returned.length ≤ calls := by
  have order := called.order
  rw [answers, List.map_append] at order
  have lengths := congrArg List.length order
  rw [List.length_append, List.length_map, List.length_range'] at lengths
  have enough : returned.length ≤ calls - probeMu.elim 0 Probing.unanswered := by omega
  refine ⟨?_, enough.trans (Nat.sub_le ..)⟩
  have first := congrArg (List.take returned.length) order
  rwa [List.take_left' (List.length_map ..), List.take_range'_of_length_ge enough] at first

theorem Matched.number {s : Probes} (matched : Matched s) {r : Returned}
    (member : r ∈ s.returned) : r.number ≤ s.calls := by
  obtain ⟨order, short⟩ := matched.called.returned_order
  have listed : r.number ∈ s.returned.map Returned.number := List.mem_map_of_mem member
  rw [order, List.mem_range'_1] at listed
  omega

theorem Matched.taken_returned {s : Probes} (matched : Matched s) {r : Returned}
    (member : r ∈ s.returned) {a : Arrival} {now : Int64} {rtt : Int}
    (success : r.result = .ok a now rtt) :
    (a, r.number) ∈ s.looked ∧ rtt = since now a.resp.SentUnixNano :=
  matched.taken r (List.mem_append_left _ member) a now rtt success

/-- Sequence numbers repeat only after all of them were used. -/
theorem ofNat_inj {j k : Nat} (small : j < 2 ^ 64) (small' : k < 2 ^ 64)
    (same : UInt64.ofNat j = UInt64.ofNat k) : j = k := by
  have values := congrArg UInt64.toNat same
  rwa [UInt64.toNat_ofNat_of_lt' small, UInt64.toNat_ofNat_of_lt' small'] at values

/-- What the callers may rely on, whoever they are and whatever arrives. -/
structure Answered (events : List ProbeEvent) (s : Probes) : Prop where
  own : ∀ r ∈ s.returned, ∀ a now rtt, r.result = .ok a now rtt → a.resp.Seq.toNat = r.number ∧
    LookedUp events r.number a
  once : ∀ r ∈ s.returned, ∀ r' ∈ s.returned, ∀ a now rtt a' now' rtt', r.result = .ok a now rtt →
    r'.result = .ok a' now' rtt' →
    a.id = a'.id → r = r'
  order : s.returned.map Returned.number = List.range' 1 s.returned.length
  free : ∀ i h, s.handling[i]? = some h → ∃ e ∈ [ProbeEvent.lookup i, .send i], ∃ s',
    s.step e = some s' ∧ s'.work < s.work
  idle : s.probeMu = none → ∀ seq, s.probeWaiters seq = none

theorem answered_of_run {events : List ProbeEvent} {s : Probes}
    (run : system.Run (fun _ _ => True) events s) (few : s.calls < 2 ^ 64) : Answered events s where
  own := by
    intro r member a now rtt success
    have matched := matched_of_run run
    obtain ⟨looked, _⟩ := matched.taken_returned member success
    refine ⟨?_, lookedUp_of_run run _ looked⟩
    rw [matched.handled.matched _ looked]
    exact UInt64.toNat_ofNat_of_lt' ((matched.number member).trans_lt few)
  once := by
    intro r member r' member' a now rtt a' now' rtt' success success' same
    have matched := matched_of_run run
    have looked := (matched.taken_returned member success).1
    have looked' := (matched.taken_returned member' success').1
    have distinct := (List.nodup_append.mp matched.handled.once).2.1
    have pair := List.inj_on_of_nodup_map distinct looked looked' same
    have order := matched.called.returned_order.1
    have numbers : (s.returned.map Returned.number).Nodup := order ▸ List.nodup_range'
    exact List.inj_on_of_nodup_map numbers member member' (congrArg Prod.snd pair)
  order := (matched_of_run run).called.returned_order.1
  free := fun _ _ at_ => handling_advances s at_
  idle := by
    intro free seq
    rw [(matched_of_run run).called.waiters, free]
    rfl

/-- Probe replies are matched to their probe. With a peer that echoes the fields of the requests, the
duration of a call is the time since that call sent its own request. -/
theorem probes_matched {events : List ProbeEvent} {s : Probes}
    (run : system.Run (fun _ _ => True) events s) (few : s.calls < 2 ^ 64) :
    Answered events s ∧ (system.Run echoes events s →
      ∀ r ∈ s.returned, ∀ a now rtt, r.result = .ok a now rtt → rtt = since now r.start) := by
  refine ⟨answered_of_run run few, fun echoing r member a now rtt success => ?_⟩
  obtain ⟨matched, echoed⟩ := echoed_of_run echoing
  obtain ⟨looked, same⟩ := matched.taken_returned member success
  obtain ⟨p, sent, seq, fields⟩ := echoed.looked _ looked
  have own := echoed.answered r (List.mem_append_left _ member)
  obtain ⟨numbered, below⟩ := echoed.numbers p sent
  have number : p.1 = r.number := by
    refine ofNat_inj (lt_of_le_of_lt ((Nat.le_add_right ..).trans below) few)
      ((matched.number member).trans_lt few) ?_
    rw [← numbered, ← seq, matched.handled.matched _ looked]
  have request := List.inj_on_of_nodup_map echoed.once sent own number
  rw [same, fields, request]

/-- One call that gets its response, and a second copy of it that nobody waits for any more. -/
def oneProbe : List ProbeEvent :=
  [.lock, .add, .registerProbeWaiter, .now 100, .WriteProbeReq, .arrive ⟨1, 100, 130⟩, .wrote none,
    .lookup 0, .send 0,
    .receive 160, .arrive ⟨1, 100, 140⟩, .unregisterProbeWaiter, .lookup 0, .unlock]

theorem oneProbe_matched :
    ∃ s, s.returned = [⟨1, 100, .ok ⟨0, ⟨1, 100, 130⟩⟩ 160 60⟩] ∧ Answered oneProbe s ∧
    ∀ r ∈ s.returned, ∀ a now rtt, r.result = .ok a now rtt → rtt = since now r.start := by
  have played : (system.play (fun s e => decide (echoes s e)) oneProbe initial).any (fun s =>
      decide (s.returned = [⟨1, 100, .ok ⟨0, ⟨1, 100, 130⟩⟩ 160 60⟩] ∧ s.calls = 1)) = true := by decide
  obtain ⟨s, run, seen⟩ := System.Run.of_play (show system.start initial from rfl) played
  obtain ⟨returned, calls⟩ := of_decide_eq_true seen
  obtain ⟨answered, own⟩ := probes_matched (run.mono fun _ _ _ => trivial) (calls ▸ by decide)
  exact ⟨s, returned, answered, own (run.mono fun _ _ ok => of_decide_eq_true ok)⟩

end Probes

end Gotun.Tun
