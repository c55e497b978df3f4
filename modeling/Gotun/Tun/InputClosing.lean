import Gotun.Lib.System
import Gotun.Tun.Manager

/-! The `Run`, `serve` and `Close` of the nine inputs, one access to a field at a time. `Run` is
called at most once and may come before, between or after any number of `Close` calls. -/

namespace Gotun.Tun

open Gotun.Lib

/-- The fields that hold what an input listens with. `conn` of the UDP input is its `listener` here. -/
inductive InputField where
  | listener
  | packetConn
  deriving DecidableEq, Repr

/-- An access to a field. -/
inductive Access where
  | store (f : InputField)
  | go
  /-- Leave out the next `n` if the field is nil. -/
  | ifNil (f : InputField) (n : Nat)
  /-- Call `Close` on what the field holds. -/
  | call (f : InputField)
  | clear (f : InputField)
  deriving DecidableEq, Repr

namespace Protocol

/-- What `Run` does once everything is bound. -/
def runBody : Protocol → List Access
  | .KCPX | .KCPXMux => [.store .packetConn, .store .listener, .go]
  | _ => [.store .listener, .go]

def closeBody : Protocol → List Access
  | .TCP | .TcpMux | .UDP => [.ifNil .listener 1, .call .listener]
  | .QUIC | .KCP | .KcpMux => [.call .listener]
  | .KCPX | .KCPXMux => [.ifNil .listener 1, .call .listener, .ifNil .packetConn 1, .call .packetConn]
  | .Socks5X => [.ifNil .listener 2, .call .listener, .clear .listener]

end Protocol

/-- Where the accept loop is. The UDP loop reads its field once, before the first iteration. -/
inductive Accepting where
  | begun
  | looping (relayer : Option Bool)
  | waiting (relayer : Option Bool)
  | ended
  deriving DecidableEq, Repr

/-- `set` are the fields that are not nil. `run` and `closes` are what the calls still have to do.
For the proofs, `stored` is whether `Run` has stored the listener, and `cleared` whether a `Close`
has set it to nil. -/
structure ClosingInput where
  set : InputField → Bool
  called : Bool
  run : List Access
  loop : Option Accepting
  closes : List (List Access)
  panicked : Bool
  stored : Bool
  cleared : Bool

namespace ClosingInput

inductive Event where
  /-- `Run` is called, and binds what it needs or fails. -/
  | Run (bound : Bool)
  | run
  | serve
  | accept
  /-- The method returns; the loop goes on after a connection and after a temporary error. -/
  | accepted (goesOn : Bool)
  | Close
  | close (call : Nat)
  deriving DecidableEq, Repr

variable (proto : Protocol)

/-- One access, with what is left to do. -/
def exec (s : ClosingInput) : Access → List Access → ClosingInput × List Access
  | .store f, rest =>
    ({ s with set := Function.update s.set f true, stored := s.stored || f == .listener }, rest)
  | .go, rest => ({ s with loop := some .begun }, rest)
  | .ifNil f n, rest => (s, if s.set f then rest else rest.drop n)
  | .call f, rest => ({ s with panicked := !s.set f }, rest)
  | .clear f, rest =>
    ({ s with set := Function.update s.set f false, cleared := s.cleared || f == .listener }, rest)

/-- A method is called on the listener that the loop has, or panics. -/
def accept (s : ClosingInput) (relayer : Option Bool) : ClosingInput :=
  { s with loop := some (.waiting relayer), panicked := !relayer.getD (s.set .listener) }

def step (s : ClosingInput) (e : Event) : Option ClosingInput :=
  if s.panicked then none
  else match e with
    | .Run bound =>
      if s.called then none
      else some { s with called := true, run := if bound then proto.runBody else [] }
    | .run => match s.run with
      | op :: rest => some { (s.exec op rest).1 with run := (s.exec op rest).2 }
      | [] => none
    | .serve => match s.loop with
      | some .begun =>
        some { s with
          loop := some (.looping (if proto = .UDP then some (s.set .listener) else none)) }
      | _ => none
    | .accept => match s.loop with
      | some (.looping relayer) => some (s.accept relayer)
      | _ => none
    | .accepted goesOn => match s.loop with
      | some (.waiting relayer) =>
        some { s with loop := some (if goesOn then .looping relayer else .ended) }
      | _ => none
    | .Close => some { s with closes := s.closes ++ [proto.closeBody] }
    | .close call => match s.closes[call]? with
      | some (op :: rest) =>
        some { (s.exec op rest).1 with closes := s.closes.set call (s.exec op rest).2 }
      | _ => none

def new : ClosingInput := ⟨fun _ => false, false, [], none, [], false, false, false⟩

def system : System ClosingInput Event where
  start s := s = new
  step := step proto

/-- What an event does to an input that has not panicked. -/
inductive Stepped (s : ClosingInput) : Event → ClosingInput → Prop
  | Run (bound : Bool) (uncalled : s.called = false) :
      Stepped s (.Run bound) { s with called := true, run := if bound then proto.runBody else [] }
  | run {op : Access} {rest : List Access} (at_ : s.run = op :: rest) :
      Stepped s .run { (s.exec op rest).1 with run := (s.exec op rest).2 }
  | serve (at_ : s.loop = some .begun) :
      Stepped s .serve
        { s with loop := some (.looping (if proto = .UDP then some (s.set .listener) else none)) }
  | accept {relayer : Option Bool} (at_ : s.loop = some (.looping relayer)) :
      Stepped s .accept (s.accept relayer)
  | accepted {relayer : Option Bool} (goesOn : Bool) (at_ : s.loop = some (.waiting relayer)) :
      Stepped s (.accepted goesOn) { s with loop := some (if goesOn then .looping relayer else .ended) }
  | Close : Stepped s .Close { s with closes := s.closes ++ [proto.closeBody] }
  | close {op : Access} {rest : List Access} (call : Nat) (at_ : s.closes[call]? = some (op :: rest)) :
      Stepped s (.close call) { (s.exec op rest).1 with closes := s.closes.set call (s.exec op rest).2 }

theorem stepped {proto : Protocol} {s s' : ClosingInput} {e : Event} (next : s.step proto e = some s') :
    s.panicked = false ∧ Stepped proto s e s' := by
  unfold step at next
  by_cases dead : s.panicked = true
  · rw [if_pos dead] at next
    cases next
  rw [if_neg dead] at next
  refine ⟨by simpa using dead, ?_⟩
  cases e with
  | Run bound =>
    by_cases called : s.called = true
    · simp [called] at next
    · simp only [called, Bool.false_eq_true, if_false, Option.some.injEq] at next
      exact next ▸ .Run bound (by simpa using called)
  | run =>
    cases at_ : s.run with
    | nil => simp [at_] at next
    | cons op rest =>
      simp only [at_, Option.some.injEq] at next
      exact next ▸ .run at_
  | serve =>
    rcases at_ : s.loop with _ | _ | _ | _ | _ <;>
      simp only [at_, reduceCtorEq, Option.some.injEq] at next
    exact next ▸ .serve at_
  | accept =>
    rcases at_ : s.loop with _ | _ | _ | _ | _ <;>
      simp only [at_, reduceCtorEq, Option.some.injEq] at next
    exact next ▸ .accept at_
  | accepted goesOn =>
    rcases at_ : s.loop with _ | _ | _ | _ | _ <;>
      simp only [at_, reduceCtorEq, Option.some.injEq] at next
    exact next ▸ .accepted goesOn at_
  | Close => exact Option.some.inj next ▸ .Close
  | close call =>
    rcases at_ : s.closes[call]? with _ | _ | ⟨op, rest⟩ <;>
      simp only [at_, reduceCtorEq, Option.some.injEq] at next
    exact next ▸ .close call at_

/-- The order of a call that `Close` makes on the listener. -/
def CallInOrder (s : ClosingInput) : Prop :=
  match proto with
  | .QUIC | .KCP | .KcpMux => s.stored = true
  | .Socks5X => s.cleared = false
  | _ => True

/-- A `Close` of quic, kcp and kcp_mux comes after `Run` has stored the listener. Once a `Close` of
socks5x has set it to nil, no iteration of the accept loop begins, and no other `Close` that has
found a listener is still to call it. -/
def Orderly (s : ClosingInput) : Event → Prop
  | .close call => ∀ rest, s.closes[call]? = some (.call .listener :: rest) → CallInOrder proto s
  | .accept => proto = .Socks5X → s.cleared = false
  | _ => True

/-- What is known of a field by the time a `Close` calls or clears it. -/
def Expects (s : ClosingInput) : List Access → Prop
  | .call f :: _ =>
      match proto with
      | .QUIC | .KCP | .KcpMux => True
      | .Socks5X => s.stored = true
      | _ => s.set f = true
  | .clear _ :: _ => s.stored = true
  | _ => True

/-- Where `Run` is, and whether it has stored the listener by then. -/
inductive Running (s : ClosingInput) : Prop
  | idle (nothing : s.run = [])
  | packet (at_ : s.run = [.store .packetConn, .store .listener, .go]) (before : s.stored = false)
  | listener (at_ : s.run = [.store .listener, .go]) (before : s.stored = false)
  | go (at_ : s.run = [.go]) (after : s.stored = true)

structure Inv (s : ClosingInput) : Prop where
  fields : s.set .listener = (s.stored && !s.cleared)
  cleared : s.cleared = true → proto = .Socks5X ∧ s.stored = true
  running : Running s
  called : s.called = false → s.run = [] ∧ s.stored = false
  loop : s.loop ≠ none → s.stored = true
  relayer : ∀ relayer, s.loop = some (.looping relayer) ∨ s.loop = some (.waiting relayer) →
    relayer = if proto = .UDP then some true else none
  closes : ∀ ops ∈ s.closes, ops <:+ proto.closeBody ∧ Expects proto s ops

variable {proto} {s s' : ClosingInput} {e : Event}

theorem Expects.mono {ops : List Access} (expects : Expects proto s ops)
    (stored : s.stored = true → s'.stored = true)
    (set : proto ≠ .Socks5X → ∀ f, s.set f = true → s'.set f = true) : Expects proto s' ops := by
  unfold Expects at expects ⊢
  split
  · rename_i f rest
    cases proto <;> first | trivial | exact stored expects | exact set (by decide) f expects
  · exact stored expects
  · trivial

theorem Running.congr (running : Running s) (run : s'.run = s.run)
    (stored : s'.stored = s.stored) : Running s' := by
  rcases running with nothing | ⟨at_, before⟩ | ⟨at_, before⟩ | ⟨at_, after⟩
  · exact .idle (run.trans nothing)
  · exact .packet (run.trans at_) (stored.trans before)
  · exact .listener (run.trans at_) (stored.trans before)
  · exact .go (run.trans at_) (stored.trans after)

theorem Inv.new : Inv proto new where
  fields := rfl
  cleared := nofun
  running := .idle rfl
  called _ := ⟨rfl, rfl⟩
  loop := fun started => absurd rfl started
  relayer := by
    rintro relayer (none | none) <;> cases none
  closes _ member := nomatch member

/-- The next access of a `Close`: it changes nothing, or calls what is expected to be there, or
clears the listener of socks5x. -/
inductive CloseStep (proto : Protocol) (s : ClosingInput) (op : Access) (s' : ClosingInput) : Prop
  | check (f : InputField) (n : Nat) (is : op = .ifNil f n) (same : s' = s)
  | listener (is : op = .call .listener) (called : s' = { s with panicked := !s.set .listener })
      (nil_iff : s.set .listener = true ↔ CallInOrder proto s)
  | packetConn (is : op = .call .packetConn)
      (called : s' = { s with panicked := !s.set .packetConn }) (there : s.set .packetConn = true)
  | clear (is : op = .clear .listener) (socks : proto = .Socks5X) (stored : s.stored = true)
      (cleared : s' = { s with set := Function.update s.set .listener false, cleared := true })

theorem closeStep {op : Access} {rest : List Access} (part : op :: rest <:+ proto.closeBody)
    (expects : Expects proto s (op :: rest)) (fields : s.set .listener = (s.stored && !s.cleared))
    (socks : s.cleared = true → proto = .Socks5X) :
    CloseStep proto s op (s.exec op rest).1 := by
  have kept : proto ≠ .Socks5X → s.cleared = false := fun other => by
    by_contra cleared
    exact other (socks (by simpa using cleared))
  rw [← List.mem_tails] at part
  cases proto with
  | TCP | TcpMux | UDP =>
    simp [Protocol.closeBody, List.tails] at part
    rcases part with ⟨rfl, rfl⟩ | ⟨rfl, rfl⟩
    · exact .check _ _ rfl rfl
    · exact .listener rfl rfl ⟨fun _ => trivial, fun _ => expects⟩
  | QUIC | KCP | KcpMux =>
    simp [Protocol.closeBody, List.tails] at part
    obtain ⟨rfl, rfl⟩ := part
    refine .listener rfl rfl ?_
    rw [fields, kept (by decide)]
    simp [CallInOrder]
  | KCPX | KCPXMux =>
    simp [Protocol.closeBody, List.tails] at part
    rcases part with ⟨rfl, rfl⟩ | ⟨rfl, rfl⟩ | ⟨rfl, rfl⟩ | ⟨rfl, rfl⟩
    · exact .check _ _ rfl rfl
    · exact .listener rfl rfl ⟨fun _ => trivial, fun _ => expects⟩
    · exact .check _ _ rfl rfl
    · exact .packetConn rfl rfl expects
  | Socks5X =>
    simp [Protocol.closeBody, List.tails] at part
    rcases part with ⟨rfl, rfl⟩ | ⟨rfl, rfl⟩ | ⟨rfl, rfl⟩
    · exact .check _ _ rfl rfl
    · refine .listener rfl rfl ?_
      have stored : s.stored = true := expects
      rw [fields, stored]
      simp [CallInOrder]
    · refine .clear rfl rfl expects ?_
      simp [exec]

theorem exec_ifNil_set {f : InputField} (there : s.set f = true) (n : Nat) (rest : List Access) :
    s.exec (.ifNil f n) rest = (s, rest) := by
  rw [exec, if_pos there]

theorem exec_ifNil_nil {f : InputField} (nil : ¬ s.set f = true) (n : Nat) (rest : List Access) :
    s.exec (.ifNil f n) rest = (s, rest.drop n) := by
  rw [exec, if_neg nil]

theorem exec_rest (s : ClosingInput) (op : Access) (rest : List Access) :
    (s.exec op rest).2 <:+ rest := by
  cases op with
  | ifNil f n =>
    by_cases there : s.set f = true
    · rw [exec_ifNil_set there]
    · rw [exec_ifNil_nil there]
      exact List.drop_suffix n rest
  | store _ | go | call _ | clear _ => exact List.suffix_rfl

/-- After an access, what comes next is expected as well. -/
theorem exec_expects {op : Access} {rest : List Access} (part : op :: rest <:+ proto.closeBody)
    (expects : Expects proto s (op :: rest)) (fields : s.set .listener = (s.stored && !s.cleared)) :
    Expects proto (s.exec op rest).1 (s.exec op rest).2 := by
  rw [← List.mem_tails] at part
  cases proto with
  | TCP | TcpMux | UDP =>
    simp [Protocol.closeBody, List.tails] at part
    rcases part with ⟨rfl, rfl⟩ | ⟨rfl, rfl⟩
    · by_cases there : s.set .listener = true
      · rw [exec_ifNil_set there]
        exact there
      · rw [exec_ifNil_nil there]
        trivial
    · trivial
  | QUIC | KCP | KcpMux =>
    simp [Protocol.closeBody, List.tails] at part
    obtain ⟨rfl, rfl⟩ := part
    trivial
  | KCPX | KCPXMux =>
    simp [Protocol.closeBody, List.tails] at part
    rcases part with ⟨rfl, rfl⟩ | ⟨rfl, rfl⟩ | ⟨rfl, rfl⟩ | ⟨rfl, rfl⟩
    · by_cases there : s.set .listener = true
      · rw [exec_ifNil_set there]
        exact there
      · rw [exec_ifNil_nil there]
        trivial
    · trivial
    · by_cases there : s.set .packetConn = true
      · rw [exec_ifNil_set there]
        exact there
      · rw [exec_ifNil_nil there]
        trivial
    · trivial
  | Socks5X =>
    simp [Protocol.closeBody, List.tails] at part
    rcases part with ⟨rfl, rfl⟩ | ⟨rfl, rfl⟩ | ⟨rfl, rfl⟩
    · by_cases there : s.set .listener = true
      · rw [exec_ifNil_set there]
        rw [fields, Bool.and_eq_true] at there
        exact there.1
      · rw [exec_ifNil_nil there]
        trivial
    · exact expects
    · trivial

namespace Inv

variable (inv : Inv proto s)

include inv in
theorem withCloses {closes : List (List Access)} (panicked : Bool)
    (ok : ∀ ops ∈ closes, ops <:+ proto.closeBody ∧ Expects proto s ops) :
    Inv proto { s with panicked, closes } where
  fields := inv.fields
  cleared := inv.cleared
  running := inv.running.congr rfl rfl
  called := inv.called
  loop := inv.loop
  relayer := inv.relayer
  closes ops member := ⟨(ok ops member).1, (ok ops member).2.mono id fun _ _ => id⟩

include inv in
theorem close {call : Nat} {op : Access} {rest : List Access}
    (at_ : s.closes[call]? = some (op :: rest)) :
    Inv proto { (s.exec op rest).1 with closes := s.closes.set call (s.exec op rest).2 } := by
  obtain ⟨part, expects⟩ := inv.closes _ (List.mem_of_getElem? at_)
  have after : (s.exec op rest).2 <:+ proto.closeBody :=
    (exec_rest s op rest).trans ((List.suffix_cons op rest).trans part)
  have expected := exec_expects part expects inv.fields
  have closes (kept : ∀ ops, Expects proto s ops → Expects proto (s.exec op rest).1 ops) :
      ∀ ops ∈ s.closes.set call (s.exec op rest).2, ops <:+ proto.closeBody ∧
        Expects proto (s.exec op rest).1 ops := by
    intro ops member
    rcases List.mem_or_eq_of_mem_set member with old | rfl
    · exact ⟨(inv.closes ops old).1, kept ops (inv.closes ops old).2⟩
    · exact ⟨after, expected⟩
  rcases closeStep part expects inv.fields fun cleared => (inv.cleared cleared).1 with
    ⟨f, n, is, same⟩ | ⟨is, called, nil_iff⟩ | ⟨is, called, there⟩ | ⟨is, socks, stored, cleared⟩
  · rw [same] at closes ⊢
    exact inv.withCloses s.panicked (closes fun _ => id)
  · rw [called] at closes ⊢
    exact inv.withCloses _ fun ops member =>
      closes (fun _ expects => expects.mono id fun _ _ => id) ops member
  · rw [called] at closes ⊢
    exact inv.withCloses _ fun ops member =>
      closes (fun _ expects => expects.mono id fun _ _ => id) ops member
  · rw [cleared] at closes ⊢
    have all := closes fun _ expects => expects.mono id fun other => absurd socks other
    refine ⟨?_, fun _ => ⟨socks, stored⟩, inv.running.congr rfl rfl, inv.called, inv.loop,
      inv.relayer, fun ops member => ?_⟩
    · simp
    · exact ⟨(all ops member).1, (all ops member).2.mono id fun _ _ => id⟩

include inv in
theorem run {op : Access} {rest : List Access} (at_ : s.run = op :: rest) :
    Inv proto { (s.exec op rest).1 with run := (s.exec op rest).2 } := by
  have started : s.called = true := by
    by_contra uncalled
    rw [(inv.called (by simpa using uncalled)).1] at at_
    cases at_
  have uncleared (before : s.stored = false) : s.cleared = false := by
    by_contra cleared
    rw [(inv.cleared (by simpa using cleared)).2] at before
    cases before
  have noLoop (before : s.stored = false) : s.loop = none := by
    by_contra loops
    rw [inv.loop loops] at before
    cases before
  rcases inv.running with nothing | ⟨here, before⟩ | ⟨here, before⟩ | ⟨here, after⟩
  · rw [nothing] at at_
    cases at_
  · rw [here] at at_
    obtain ⟨rfl, rfl⟩ := List.cons.inj at_
    have fields := inv.fields
    refine ⟨?_, ?_, .listener rfl ?_, ?_, ?_, inv.relayer, fun ops member => ?_⟩
    · simpa [exec, show (InputField.packetConn == InputField.listener) = false from rfl] using fields
    · simpa [exec, show (InputField.packetConn == InputField.listener) =
        false from rfl] using inv.cleared
    · simpa [exec, show (InputField.packetConn == InputField.listener) = false from rfl] using before
    · simp [exec, started]
    · simp [exec, noLoop before]
    · refine ⟨(inv.closes ops member).1,
        (inv.closes ops member).2.mono (fun stored => ?_) fun _ f there => ?_⟩
      · simpa [exec] using stored
      · by_cases same : f = .packetConn
        · simp [exec, same]
        · simpa [exec, Function.update_of_ne same] using there
  · rw [here] at at_
    obtain ⟨rfl, rfl⟩ := List.cons.inj at_
    refine ⟨?_, ?_, .go rfl ?_, ?_, ?_, inv.relayer, fun ops member => ?_⟩
    · simp [exec, uncleared before]
    · simp [exec, uncleared before]
    · simp [exec]
    · simp [exec, started]
    · simp [exec]
    · refine ⟨(inv.closes ops member).1,
        (inv.closes ops member).2.mono (fun stored => ?_) fun _ f there => ?_⟩
      · simp [exec]
      · by_cases same : f = .listener
        · simp [exec, same]
        · simpa [exec, Function.update_of_ne same] using there
  · rw [here] at at_
    obtain ⟨rfl, rfl⟩ := List.cons.inj at_
    refine ⟨inv.fields, inv.cleared, .idle rfl, ?_, fun _ => after, ?_, fun ops member => ?_⟩
    · simp [exec, started]
    · rintro relayer (none | none) <;> cases none
    · exact ⟨(inv.closes ops member).1, (inv.closes ops member).2.mono id fun _ _ => id⟩

include inv in
theorem withLoop {loop : Accepting} (panicked : Bool) (loops : s.loop ≠ none)
    (relayer : ∀ relayer, loop = .looping relayer ∨ loop = .waiting relayer →
      relayer = if proto = .UDP then some true else none) :
    Inv proto { s with loop := some loop, panicked } where
  fields := inv.fields
  cleared := inv.cleared
  running := inv.running.congr rfl rfl
  called := inv.called
  loop _ := inv.loop loops
  relayer r is := relayer r (is.imp Option.some.inj Option.some.inj)
  closes ops member := ⟨(inv.closes ops member).1, (inv.closes ops member).2.mono id fun _ _ => id⟩

include inv in
theorem step (next : s.step proto e = some s') : Inv proto s' := by
  cases (stepped next).2 with
  | Run bound uncalled =>
    obtain ⟨_, before⟩ := inv.called uncalled
    refine ⟨inv.fields, inv.cleared, ?_, nofun, inv.loop, inv.relayer, fun ops member => ?_⟩
    · cases bound with
      | false => exact .idle rfl
      | true => cases proto <;> first | exact .packet rfl before | exact .listener rfl before
    · exact ⟨(inv.closes ops member).1, (inv.closes ops member).2.mono id fun _ _ => id⟩
  | run at_ => exact inv.run at_
  | serve at_ =>
    have stored := inv.loop (by rw [at_]; exact Option.some_ne_none _)
    refine inv.withLoop s.panicked (by rw [at_]; exact Option.some_ne_none _) ?_
    rintro relayer (is | is)
    · obtain rfl := Accepting.looping.inj is
      split_ifs with udp
      · have uncleared : s.cleared = false := by
          by_contra cleared
          have socks := (inv.cleared (by simpa using cleared)).1
          rw [udp] at socks
          cases socks
        rw [inv.fields, stored, uncleared]
        rfl
      · rfl
    · cases is
  | accept at_ =>
    refine inv.withLoop _ (by rw [at_]; exact Option.some_ne_none _) ?_
    rintro relayer (is | is)
    · cases is
    · obtain rfl := Accepting.waiting.inj is
      exact inv.relayer _ (Or.inl at_)
  | accepted goesOn at_ =>
    refine inv.withLoop s.panicked (by rw [at_]; exact Option.some_ne_none _) ?_
    intro relayer is
    cases goesOn with
    | true =>
      rcases is with is | is
      · obtain rfl := Accepting.looping.inj is
        exact inv.relayer _ (Or.inr at_)
      · cases is
    | false => rcases is with is | is <;> cases is
  | Close =>
    refine inv.withCloses s.panicked fun ops member => ?_
    rcases List.mem_append.mp member with old | last
    · exact inv.closes ops old
    · rw [List.mem_singleton.mp last]
      refine ⟨List.suffix_rfl, ?_⟩
      cases proto <;> trivial
  | close call at_ => exact inv.close at_

end Inv

theorem inv_of_run {allowed : ClosingInput → Event → Prop} {events : List Event}
    (run : (system proto).Run allowed events s) :
    Inv proto s := by
  apply run.invariant (Inv proto)
  · rintro _ rfl
    exact Inv.new
  · intro _ _ _ inv _ next
    exact inv.step next

/-! Panics. -/

theorem panics_iff (inv : Inv proto s) (next : s.step proto e = some s') :
    s'.panicked = false ↔ Orderly proto s e := by
  obtain ⟨live, step⟩ := stepped next
  cases step with
  | Run bound uncalled => exact iff_of_true live trivial
  | run at_ =>
    refine iff_of_true ?_ trivial
    rcases inv.running with nothing | ⟨here, before⟩ | ⟨here, before⟩ | ⟨here, after⟩
    · rw [nothing] at at_
      cases at_
    all_goals
      rw [here] at at_
      obtain ⟨rfl, rfl⟩ := List.cons.inj at_
      exact live
  | serve at_ => exact iff_of_true live trivial
  | accept at_ =>
    have stored := inv.loop (by rw [at_]; exact Option.some_ne_none _)
    have relayer := inv.relayer _ (Or.inl at_)
    rw [accept, relayer]
    split_ifs with udp
    · refine iff_of_true rfl fun socks => ?_
      rw [udp] at socks
      cases socks
    · have uncleared : s.cleared = false ↔ (proto = .Socks5X → s.cleared = false) := by
        refine ⟨fun kept _ => kept, fun kept => ?_⟩
        by_contra cleared
        exact cleared (kept (inv.cleared (by simpa using cleared)).1)
      simp only [Option.getD_none, inv.fields, stored, Bool.true_and, Bool.not_not]
      exact uncleared
  | accepted goesOn at_ => exact iff_of_true live trivial
  | Close => exact iff_of_true live trivial
  | close call at_ =>
    obtain ⟨part, expects⟩ := inv.closes _ (List.mem_of_getElem? at_)
    rcases closeStep part expects inv.fields fun cleared => (inv.cleared cleared).1 with
      ⟨f, n, is, same⟩ | ⟨is, called, nil_iff⟩ | ⟨is, called, there⟩ | ⟨is, socks, stored, cleared⟩
    · rw [same]
      refine iff_of_true live fun rest here => ?_
      rw [at_, is] at here
      cases here
    · rw [called]
      simp only [Bool.not_eq_eq_eq_not, Bool.not_false, nil_iff]
      rw [is] at at_
      exact ⟨fun ordered _ _ => ordered, fun orderly => orderly _ at_⟩
    · rw [called]
      refine iff_of_true (by simp [there]) fun rest here => ?_
      rw [at_, is] at here
      cases here
    · rw [cleared]
      refine iff_of_true live fun rest here => ?_
      rw [at_, is] at here
      cases here

/-- No method is called on a nil listener exactly along the orderly runs; those of the inputs that
ask for nil and never clear their field are all orderly. -/
theorem no_panic_iff (proto : Protocol) (events : List Event) (s : ClosingInput) :
    ((system proto).Run (fun _ _ => True) events s ∧ s.panicked = false) ↔
      (system proto).Run (Orderly proto) events s := by
  constructor
  · rintro ⟨run, live⟩
    induction run with
    | start begins => exact .start begins
    | step before _ next orderly =>
      exact (orderly (stepped next).1).step ((panics_iff (inv_of_run before) next).mp live) next
  · intro run
    refine ⟨run.mono fun _ _ _ => trivial, ?_⟩
    cases run with
    | start begins => exact congrArg panicked begins
    | step before ok next => exact (panics_iff (inv_of_run before) next).mpr ok

/-- `Close` asks for nil, and no field is set to nil. -/
def asksAndKeeps : Protocol → Bool
  | .TCP | .TcpMux | .UDP | .KCPX | .KCPXMux => true
  | .QUIC | .KCP | .KcpMux | .Socks5X => false

theorem live_of_asksAndKeeps (asks : asksAndKeeps proto = true)
    (reachable : (system proto).Reachable s) : s.panicked = false := by
  have kept : Inv proto s ∧ s.panicked = false := by
    apply reachable.invariant fun s => Inv proto s ∧ s.panicked = false
    · rintro _ rfl
      exact ⟨Inv.new, rfl⟩
    · rintro t e t' ⟨inv, _⟩ next
      refine ⟨inv.step next, (panics_iff inv next).mpr ?_⟩
      cases e with
      | close call =>
        intro _ _
        cases proto <;> trivial
      | accept =>
        rintro rfl
        cases asks
      | Run _ | run | serve | accepted _ | Close => trivial
  exact kept.2

/-- A tunnel over quic is removed before its `Run` has come to its input, and a `Close` of socks5x
falls between two iterations of the accept loop. -/
theorem nil_listener_called :
    (∃ s, (system .QUIC).Run (fun _ _ => True) [.Close, .close 0] s ∧ s.panicked = true) ∧
    ∃ s, (system .Socks5X).Run (fun _ _ => True)
      [.Run true, .run, .run, .serve, .accept, .accepted true, .Close, .close 0, .close 0, .close 0,
        .accept] s ∧ s.panicked = true := by
  constructor
  · have played :
        ((system .QUIC).play (fun _ _ => true) [.Close, .close 0] new).any (·.panicked) = true := by
      decide +kernel
    obtain ⟨s, run, dead⟩ := System.Run.of_play rfl played
    exact ⟨s, run.mono fun _ _ _ => trivial, dead⟩
  · have played : ((system .Socks5X).play (fun _ _ => true)
        [.Run true, .run, .run, .serve, .accept, .accepted true, .Close, .close 0, .close 0,
          .close 0, .accept] new).any
        (·.panicked) = true := by decide +kernel
    obtain ⟨s, run, dead⟩ := System.Run.of_play rfl played
    exact ⟨s, run.mono fun _ _ _ => trivial, dead⟩

end ClosingInput
end Gotun.Tun
