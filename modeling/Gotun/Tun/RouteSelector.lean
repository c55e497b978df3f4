import Gotun.Lib.Attempts
import Gotun.Tun.CryptoHelper
import Gotun.Tun.Identity
import Gotun.Tun.Quality
import Gotun.Tun.RouteSwitch

/-! `tun/route_selector.go` and `tun/output_failover.go`: the members of a route that a new connection
may use, their order, and the loops that forward or dial over them. -/

namespace Gotun.Tun

open Gotun.Lib

/-- What the instances answer during a call. Dialling is what the `GetStream` of the output of a
`Server` does, and may change the state of the network. -/
structure Instances (σ ν : Type) where
  Status : Service → String
  QualitySummary : Service → QualityStatus
  cryptoHelper : Service → CryptoHelper
  GetStream : Service → σ → Except String ν × σ

structure routeSelector where
  mgr : Manager
  members : List String
  quality : Option routeQualityMonitor

variable {σ ν : Type} (w : Instances σ ν)

def memberAlive : Option Service → Bool
  | none => false
  | some s => !s.cfg.Disabled && w.Status s == "running" && w.QualitySummary s != .down

def memberRunning : Option Service → Bool
  | none => false
  | some s => !s.cfg.Disabled && w.Status s == "running"

/-- The `copy` of `source` into the slice from an index on. The two may overlap: the source is read
before anything is written. -/
def copyAt (out : List α) (start : Nat) (source : List α) : List α :=
  out.take start ++ source ++ out.drop (start + source.length)

namespace routeSelector

def admits (r : routeSelector) (s : Option Service) : Bool :=
  (r.quality.isNone && memberAlive w s) || (r.quality.isSome && memberRunning w s)

def collect (r : routeSelector) : List String → List Service → List Service
  | [], out => out
  | name :: rest, out =>
    match r.mgr.services name with
    | none => r.collect rest out
    | some svc => r.collect rest (if r.admits w (some svc) then out ++ [svc] else out)

/-- The loop from index `i` on: the first service of the name goes to the front. -/
def moveToFront (preferred : String) (out : List Service) : Nat → List Service → List Service
  | _, [] => out
  | i, svc :: rest =>
    if svc.cfg.Name = preferred then (copyAt out 1 (out.take i)).set 0 svc
    else moveToFront preferred out (i + 1) rest

/-- The monitor repairs its choice on the way. -/
def candidates (now : Int) (r : routeSelector) : List Service × routeSelector :=
  let out := r.collect w r.members []
  match r.quality with
  | none => (out, r)
  | some q =>
    let q := q.preferred (out.map (·.cfg.Name)) now
    (moveToFront q.current out 0 out, { r with quality := some q })

def firstAlive (r : routeSelector) : List String → String
  | [] => ""
  | name :: rest =>
    match r.mgr.services name with
    | none => r.firstAlive rest
    | some svc => if memberAlive w (some svc) then name else r.firstAlive rest

def preferred (now : Int) (r : routeSelector) : String × routeSelector :=
  match r.quality with
  | some _ =>
    match r.candidates w now with
    | (svc :: _, r) => (svc.cfg.Name, r)
    | ([], r) => ("", r)
  | none => (r.firstAlive w r.members, r)

def forwardLoop (fn : Service → σ → (Bool × Option String) × σ) :
    List Service → Option String → σ → Option String × σ
  | [], lastErr, s => (some ("所有 member 均不可用: " ++ lastErr.getD "所有可用 member 转发均失败"), s)
  | svc :: rest, lastErr, s =>
    match fn svc s with
    | ((true, _), s) => (none, s)
    | ((false, err), s) => forwardLoop fn rest (err.or lastErr) s

/-- The error is `none` where the source returns `nil`. -/
def tryForward (fn : Service → σ → (Bool × Option String) × σ) (now : Int) (r : routeSelector) (s : σ) :
    Option String × σ :=
  match (r.candidates w now).1 with
  | [] => (some "没有可用的 member（全部禁用/未运行/健康为 down）", s)
  | cands => forwardLoop fn cands none s

end routeSelector

/-- Only a `Server` has an output to dial. -/
def dialerOf (svc : Service) : Option Service :=
  match svc.kind with
  | .server _ => some svc
  | .frpc | .frps .. | .disabled => none

structure failoverOutput where
  name : String
  selector : routeSelector

namespace failoverOutput

def dialLoop (pick : Service → σ → Except String ν × σ) : List Service → String → σ → Except String ν × σ
  | [], lastErr, s => (.error lastErr, s)
  | svc :: rest, _, s =>
    match dialerOf svc with
    | none => dialLoop pick rest ("member 无 output 可拨号: " ++ svc.cfg.Name) s
    | some d =>
      match pick d s with
      | (.ok stream, s) => (.ok stream, s)
      | (.error err, s) => dialLoop pick rest err s

def getStream (pick : Service → σ → Except String ν × σ) (now : Int) (f : failoverOutput)
    (s : σ) : Except String ν × σ :=
  match (f.selector.candidates w now).1 with
  | [] => (.error "没有可用的 member（全部禁用/未运行/健康为 down）", s)
  | cands => dialLoop pick cands "" s

def GetStream (now : Int) (f : failoverOutput) (s : σ) : Except String ν × σ :=
  f.getStream w w.GetStream now s

def cryptoLoop : List Service → Option String → σ → Except String (ν × CryptoHelper) × σ
  | [], lastErr, s => (.error (lastErr.getD "所有可用 member 拨号均失败"), s)
  | svc :: rest, _, s =>
    match dialerOf svc with
    | none => cryptoLoop rest (some ("member 非 Server 类型，无 output 可拨号: " ++ svc.cfg.Name)) s
    | some d =>
      match w.GetStream d s with
      | (.error err, s) => cryptoLoop rest (some err) s
      | (.ok stream, s) => (.ok (stream, w.cryptoHelper d), s)

def GetStreamWithCrypto (now : Int) (f : failoverOutput) (s : σ) :
    Except String (ν × CryptoHelper) × σ :=
  match (f.selector.candidates w now).1 with
  | [] => (.error "没有可用的 member（全部禁用/未运行/健康为 down）", s)
  | cands => cryptoLoop w cands none s

end failoverOutput

/-! The order of the candidates. -/

namespace routeSelector

variable {w : Instances σ ν} {r : routeSelector}

/-- The registered instances of the members that may be used, in the order of the members. -/
def eligible (w : Instances σ ν) (r : routeSelector) : List Service :=
  r.members.filterMap fun name => (r.mgr.services name).filter fun svc => r.admits w (some svc)

/-- The first element of the name is at the front, and the others are in their order. -/
def Fronted (chosen : String) (listed moved : List Service) : Prop :=
  ∃ before svc after, listed = before ++ svc :: after ∧ svc.cfg.Name = chosen ∧
    (∀ other ∈ before, other.cfg.Name ≠ chosen) ∧ moved = svc :: (before ++ after)

theorem collect_eq (names : List String) (out : List Service) :
    r.collect w names out =
      out ++ names.filterMap fun name => (r.mgr.services name).filter fun svc =>
        r.admits w (some svc) := by
  induction names generalizing out with
  | nil => simp [collect]
  | cons name rest ih =>
    cases found : r.mgr.services name with
    | none => simp [collect, found, ih]
    | some svc =>
      cases admitted : r.admits w (some svc) with
      | false => simp [collect, found, ih, admitted, Option.filter]
      | true => simp [collect, found, ih, admitted, Option.filter]

theorem collect_members : r.collect w r.members [] = r.eligible w := by
  rw [collect_eq, List.nil_append, eligible]

/-- What was in front of the service is shifted by one place. -/
theorem copyAt_front (before after : List α) (a : α) :
    (copyAt (before ++ a :: after) 1 ((before ++ a :: after).take before.length)).set 0 a =
      a :: (before ++ after) := by
  have taken : (before ++ a :: after).take before.length = before := List.take_left
  cases before with
  | nil => simp [copyAt]
  | cons first rest =>
    have split : first :: rest ++ a :: after = (first :: rest ++ [a]) ++ after := by simp
    have rest_kept : (first :: rest ++ a :: after).drop (1 + (first :: rest).length) = after := by
      rw [split]
      exact List.drop_left' (by simp [Nat.add_comm])
    rw [taken, copyAt, rest_kept]
    rfl

theorem moveToFront_fronted (chosen : String) (before rest : List Service)
    (missed : ∀ other ∈ before, other.cfg.Name ≠ chosen)
    (present : ∃ svc ∈ rest, svc.cfg.Name = chosen) :
    Fronted chosen (before ++ rest) (moveToFront chosen (before ++ rest) before.length rest) := by
  induction rest generalizing before with
  | nil => simp at present
  | cons svc rest ih =>
    rw [moveToFront]
    split_ifs with named
    · exact ⟨before, svc, rest, rfl, named, missed, copyAt_front before rest svc⟩
    · have later : ∃ svc ∈ rest, svc.cfg.Name = chosen := by
        obtain ⟨other, member, same⟩ := present
        rcases List.mem_cons.mp member with rfl | member
        · exact absurd same named
        · exact ⟨other, member, same⟩
      have passed : ∀ other ∈ before ++ [svc], other.cfg.Name ≠ chosen := by
        intro other member
        rcases List.mem_append.mp member with member | member
        · exact missed other member
        · rwa [List.mem_singleton.mp member]
      have moved := ih (before ++ [svc]) passed later
      rwa [List.append_assoc, List.singleton_append, List.length_append, List.length_singleton] at moved

theorem Fronted.perm {chosen : String} {listed moved : List Service}
    (fronted : Fronted chosen listed moved) :
    moved.Perm listed := by
  obtain ⟨before, svc, after, rfl, _, _, rfl⟩ := fronted
  exact List.perm_middle.symm

theorem moveToFront_nil (chosen : String) : moveToFront chosen [] 0 [] = [] := rfl

theorem candidates_none (now : Int) (plain : r.quality = none) :
    (r.candidates w now).1 = r.eligible w := by
  simp only [candidates, plain, collect_members]

theorem candidates_some (now : Int) {q : routeQualityMonitor} (watched : r.quality = some q) :
    (r.candidates w now).1 =
      moveToFront (q.repairedTo ((r.eligible w).map (·.cfg.Name))) (r.eligible w) 0 (r.eligible w) := by
  simp only [candidates, watched, collect_members, routeQualityMonitor.preferred,
    routeQualityMonitor.ensureCurrentLocked_current]

end routeSelector

/-- The choice of the monitor is one of the names it is given. -/
theorem routeQualityMonitor.repairedTo_running (q : routeQualityMonitor) {available : List String}
    (some_running : available ≠ []) :
    q.repairedTo available ∈ available := by
  unfold repairedTo
  split_ifs with running
  · exact running
  · obtain ⟨first, rest, rfl⟩ := List.exists_cons_of_ne_nil some_running
    cases q.cfg.Policy with
    | quality => simp
    | priority =>
      cases found : (first :: rest).find? q.reliable with
      | none => simp
      | some candidate => exact List.mem_of_find?_eq_some found

namespace routeSelector

variable {w : Instances σ ν} {r : routeSelector}

theorem candidates_fronted (now : Int) {q : routeQualityMonitor} (watched : r.quality = some q)
    (some_running : r.eligible w ≠ []) :
    Fronted (q.repairedTo ((r.eligible w).map (·.cfg.Name))) (r.eligible w) (r.candidates w now).1 := by
  rw [candidates_some now watched]
  apply moveToFront_fronted _ [] _ (by simp)
  have names : (r.eligible w).map (·.cfg.Name) ≠ [] := by simpa using some_running
  obtain ⟨svc, member, named⟩ := List.mem_map.mp (q.repairedTo_running names)
  exact ⟨svc, member, named⟩

theorem candidates_perm (now : Int) (r : routeSelector) :
    (r.candidates w now).1.Perm (r.eligible w) := by
  cases watched : r.quality with
  | none => rw [candidates_none now watched]
  | some q =>
    by_cases empty : r.eligible w = []
    · rw [candidates_some now watched, empty, moveToFront_nil]
    · exact (candidates_fronted now watched empty).perm

/-! The first candidate, and the loops over them. -/

theorem firstAlive_eq (plain : r.quality = none) (named : Table.Named (·.cfg.Name) r.mgr.services)
    (names : List String) :
    r.firstAlive w names =
      (((names.filterMap fun name => (r.mgr.services name).filter fun svc =>
        r.admits w (some svc)).head?).map
        (·.cfg.Name)).getD "" := by
  induction names with
  | nil => rfl
  | cons name rest ih =>
    cases found : r.mgr.services name with
    | none => simp [firstAlive, found, ih]
    | some svc =>
      have same : r.admits w (some svc) = memberAlive w (some svc) := by simp [admits, plain]
      cases alive : memberAlive w (some svc) with
      | false => simp [firstAlive, found, ih, same, alive, Option.filter]
      | true => simp [firstAlive, found, same, alive, Option.filter, named name svc found]

theorem preferred_eq (now : Int) (named : Table.Named (·.cfg.Name) r.mgr.services) :
    (r.preferred w now).1 = ((r.candidates w now).1.head?.map (·.cfg.Name)).getD "" := by
  cases watched : r.quality with
  | none =>
    rw [candidates_none now watched, eligible, ← firstAlive_eq watched named, preferred]
    simp only [watched]
  | some q =>
    simp only [preferred, watched]
    rcases r.candidates w now with ⟨_ | ⟨svc, rest⟩, after⟩ <;> rfl

/-- A call of the forwarding function succeeds when it says so. -/
def forwards (fn : Service → σ → (Bool × Option String) × σ) (svc : Service) (s : σ) : Option Unit × σ :=
  (if (fn svc s).1.1 then some () else none, (fn svc s).2)

theorem forwardLoop_first (fn : Service → σ → (Bool × Option String) × σ) (cands : List Service)
    (lastErr : Option String) (s : σ) :
    ∃ found, FirstOf (forwards fn) cands s found (forwardLoop fn cands lastErr s).2 ∧
      ((forwardLoop fn cands lastErr s).1 = none ↔ found.isSome) := by
  induction cands generalizing lastErr s with
  | nil => exact ⟨none, FirstOf.nil _ s, by simp [forwardLoop]⟩
  | cons svc rest ih =>
    rcases answer : fn svc s with ⟨⟨ok, err⟩, t⟩
    cases ok with
    | true =>
      have forwarded : forwards fn svc s = (some (), t) := by simp [forwards, answer]
      refine ⟨some (svc, ()), ?_, ?_⟩
      · simpa only [forwardLoop, answer] using FirstOf.here forwarded rest
      · simp [forwardLoop, answer]
    | false =>
      have refused : forwards fn svc s = (none, t) := by simp [forwards, answer]
      obtain ⟨found, first, nil_iff⟩ := ih (err.or lastErr) t
      refine ⟨found, ?_, ?_⟩
      · simpa only [forwardLoop, answer] using FirstOf.next refused first
      · simpa only [forwardLoop, answer] using nil_iff

theorem tryForward_first (fn : Service → σ → (Bool × Option String) × σ) (now : Int)
    (r : routeSelector) (s : σ) :
    ∃ found, FirstOf (forwards fn) (r.candidates w now).1 s found (r.tryForward w fn now s).2 ∧
      ((r.tryForward w fn now s).1 = none ↔ found.isSome) := by
  unfold tryForward
  cases (r.candidates w now).1 with
  | nil => exact ⟨none, FirstOf.nil _ s, by simp⟩
  | cons svc rest => exact forwardLoop_first fn (svc :: rest) none s

end routeSelector

namespace failoverOutput

variable {w : Instances σ ν}

/-- A candidate gives a stream when it is a `Server` and its dial succeeds. -/
def dials (w : Instances σ ν) (svc : Service) (s : σ) : Option ν × σ :=
  match svc.kind with
  | .server _ => ((w.GetStream svc s).1.toOption, (w.GetStream svc s).2)
  | _ => (none, s)

theorem dials_none {svc : Service} (unable : dialerOf svc = none)
    (s : σ) : dials w svc s = (none, s) := by
  cases kind : svc.kind <;> simp_all [dialerOf, dials]

theorem dials_some {svc d : Service} (able : dialerOf svc = some d) (s : σ) :
    d = svc ∧ dials w svc s = ((w.GetStream svc s).1.toOption, (w.GetStream svc s).2) := by
  cases kind : svc.kind <;> simp_all [dialerOf, dials]

/-- Both loops end at the first candidate that can be dialled. -/
theorem loops_first (w : Instances σ ν) (cands : List Service) (last : String)
    (lastErr : Option String) (s : σ) :
    ∃ found, FirstOf (dials w) cands s found (dialLoop w.GetStream cands last s).2 ∧
      (dialLoop w.GetStream cands last s).1.toOption = found.map (·.2) ∧
      (cryptoLoop w cands lastErr s).2 = (dialLoop w.GetStream cands last s).2 ∧
      (cryptoLoop w cands lastErr s).1.toOption = found.map fun hit =>
        (hit.2, w.cryptoHelper hit.1) := by
  induction cands generalizing last lastErr s with
  | nil => exact ⟨none, FirstOf.nil _ s, rfl, rfl, rfl⟩
  | cons svc rest ih =>
    cases dialer : dialerOf svc with
    | none =>
      obtain ⟨found, first, plain, state, crypto⟩ := ih ("member 无 output 可拨号: " ++ svc.cfg.Name)
        (some ("member 非 Server 类型，无 output 可拨号: " ++ svc.cfg.Name)) s
      simp only [dialLoop, cryptoLoop, dialer]
      exact ⟨found, FirstOf.next (dials_none dialer s) first, plain, state, crypto⟩
    | some d =>
      obtain ⟨rfl, dialled⟩ := dials_some (w := w) dialer s
      rcases answer : w.GetStream d s with ⟨_ | stream, t⟩
      · rename_i err
        rw [answer] at dialled
        obtain ⟨found, first, plain, state, crypto⟩ := ih err (some err) t
        simp only [dialLoop, cryptoLoop, dialer, answer]
        exact ⟨found, FirstOf.next dialled first, plain, state, crypto⟩
      · rw [answer] at dialled
        simp only [dialLoop, cryptoLoop, dialer, answer]
        exact ⟨some (d, stream), FirstOf.here dialled rest, rfl, trivial, rfl⟩

theorem getStreams_first (w : Instances σ ν) (now : Int) (f : failoverOutput) (s : σ) :
    ∃ found, FirstOf (dials w) (f.selector.candidates w now).1 s found (f.GetStream w now s).2 ∧
      (f.GetStream w now s).1.toOption = found.map (·.2) ∧
      (f.GetStreamWithCrypto w now s).2 = (f.GetStream w now s).2 ∧
      (f.GetStreamWithCrypto w now s).1.toOption =
        found.map fun hit => (hit.2, w.cryptoHelper hit.1) := by
  unfold GetStream getStream GetStreamWithCrypto
  cases (f.selector.candidates w now).1 with
  | nil => exact ⟨none, FirstOf.nil _ s, rfl, rfl, rfl⟩
  | cons svc rest => exact loops_first w (svc :: rest) "" none s

end failoverOutput

namespace routeSelector

/-- Services are registered under their names. -/
theorem named_of_run {site : Site} {allowed : Registry → Op × Env → Prop} {events : List (Op × Env)}
    {g : Registry} (run : (Registry.system site).Run allowed events g) :
    Table.Named (·.cfg.Name) g.manager.services := by
  intro name svc present
  exact (Registry.keyed_of_run run).services name svc.cfg
    (Registry.configs_of_entries (S := site.services) present)

/-- The list of candidates, the name shown, the forwarding loop and the two dial loops agree. -/
theorem selection_of_run {site : Site} {allowed : Registry → Op × Env → Prop}
    {events : List (Op × Env)} {g : Registry} (run : (Registry.system site).Run allowed events g)
    (r : routeSelector) (own : r.mgr = g.manager) (w : Instances σ ν) (now : Int) :
    (r.candidates w now).1.Perm (r.eligible w) ∧
    (r.quality = none → (r.candidates w now).1 = r.eligible w) ∧
    (∀ q, r.quality = some q → r.eligible w ≠ [] →
      Fronted (q.preferred ((r.eligible w).map (·.cfg.Name)) now).current (r.eligible w)
        (r.candidates w now).1) ∧
    (r.preferred w now).1 = ((r.candidates w now).1.head?.map (·.cfg.Name)).getD "" ∧
    (∀ (fn : Service → σ → (Bool × Option String) × σ) (s : σ), ∃ found,
      FirstOf (forwards fn) (r.candidates w now).1 s found (r.tryForward w fn now s).2 ∧
      ((r.tryForward w fn now s).1 = none ↔ found.isSome)) ∧
    ∀ (f : failoverOutput) (s : σ), f.selector = r → ∃ found,
      FirstOf (failoverOutput.dials w) (r.candidates w now).1 s found (f.GetStream w now s).2 ∧
      (f.GetStream w now s).1.toOption = found.map (·.2) ∧
      (f.GetStreamWithCrypto w now s).2 = (f.GetStream w now s).2 ∧
      (f.GetStreamWithCrypto w now s).1.toOption =
        found.map fun hit => (hit.2, w.cryptoHelper hit.1) := by
  have named : Table.Named (·.cfg.Name) r.mgr.services := by
    rw [own]
    exact named_of_run run
  refine ⟨candidates_perm now r, candidates_none now, ?_, preferred_eq now named, ?_, ?_⟩
  · intro q watched some_running
    rw [routeQualityMonitor.preferred, routeQualityMonitor.ensureCurrentLocked_current]
    exact candidates_fronted now watched some_running
  · intro fn s
    exact tryForward_first fn now r s
  · rintro f s rfl
    exact failoverOutput.getStreams_first w now f s

/-- Everything runs, and the tunnel web cannot be dialled. -/
def webRefuses : Instances Unit Nat where
  Status _ := "running"
  QualitySummary _ := .up
  cryptoHelper _ :=
    let aead : Crypto.AEAD := ⟨0, 0, fun _ plain => plain, fun _ sealed => some sealed⟩
    ⟨.None, .None, aead, aead, ⟨false⟩, ⟨false⟩⟩
  GetStream svc s := (if svc.cfg.Name = "web" then .error "connection refused" else .ok svc.id, s)

/-- A route over web, a name that nobody has, and alt. -/
def overWebAndAlt (m : Manager) : routeSelector := ⟨m, ["web", "gone", "alt"], none⟩

/-- The name that nobody has is passed over. -/
theorem gone_passed_over :
    ∃ g, (Registry.system Registry.localSite).Run (fun _ _ => true) (Registry.namesGiven "alt") g ∧
    ((overWebAndAlt g.manager).eligible webRefuses).map (·.cfg.Name) = ["web", "alt"] ∧
    ((overWebAndAlt g.manager).candidates webRefuses 0).1 =
      (overWebAndAlt g.manager).eligible webRefuses ∧
    ((overWebAndAlt g.manager).preferred webRefuses 0).1 = "web" := by
  have played : ((Registry.system Registry.localSite).play (fun _ _ => true) (Registry.namesGiven "alt")
      (Registry.empty [] fun _ => none)).any
        (fun g => ((overWebAndAlt g.manager).eligible webRefuses).map (·.cfg.Name) ==
          ["web", "alt"]) = true := by
    decide +kernel
  obtain ⟨g, run, seen⟩ := System.Run.of_play Registry.localSite_starts played
  have names := eq_of_beq seen
  obtain ⟨_, order, _, shown, _⟩ := selection_of_run run (overWebAndAlt g.manager) rfl webRefuses 0
  refine ⟨g, run, names, order rfl, ?_⟩
  rw [shown, order rfl, ← List.head?_map, names]
  rfl

end routeSelector
end Gotun.Tun
