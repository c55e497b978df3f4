import Gotun.Lib.Entries
import Gotun.Tun.Frps
import Gotun.Tun.FrpcController

/-! What a step of each end of a reverse tunnel can do: of `Frps` with the streams and the business
connections, and how often a stream can still be given to one; of `frpcController` with the requests. -/

namespace Gotun.Tun
open Gotun.Lib

namespace Frps
variable {s s' : Frps} {stream conn : Nat}

/-- What a handler of the worker port can do. -/
inductive Handles (s : Frps) (stream : Nat) : Frps → Prop
  | moved {h : Handler} (h' : Handler) (at_ : s.handlerOf stream = some h) (busy : h ≠ .returned) :
      Handles s stream (s.setHandler stream h')
  | login (at_ : s.handlerOf stream = some .WriteMsg) :
      Handles s stream ((s.addController stream).setHandler stream (.Set s.controllers.length))
  | set {ctl : Nat} (at_ : s.handlerOf stream = some (.Set ctl)) :
      Handles s stream { s.setHandler stream .returned with ctlMgr := some ctl }
  | registered {ctl : Nat} {k : Controller} (at_ : s.handlerOf stream = some (.RegisterWorker ctl))
      (there : s.controllers[ctl]? = some k) :
      Handles s stream ((s.setWorkers ctl (k.workers ++ [stream])).setHandler stream .returned)

theorem read_handles {result : Option Message}
    (next : s.read stream result = some s') : Handles s stream s' := by
  unfold Frps.read at next
  split at next
  · rename_i found
    have at_ := handlerOf_eq found
    cases Option.some.inj next
    split
    · exact .moved _ at_ nofun
    · exact .moved _ at_ nofun
    · exact .moved _ at_ nofun
  · contradiction

theorem handle_handles {ok : Bool} (next : s.handle stream ok = some s') : Handles s stream s' := by
  unfold Frps.handle at next
  split at next
  · rename_i found
    have at_ := handlerOf_eq found
    split_ifs at next
    · exact Option.some.inj next ▸ .login at_
    · exact Option.some.inj next ▸ .moved _ at_ nofun
  · rename_i found
    exact Option.some.inj next ▸ .set (handlerOf_eq found)
  · rename_i found
    have at_ := handlerOf_eq found
    split at next
    · exact Option.some.inj next ▸ .moved _ at_ nofun
    · exact Option.some.inj next ▸ .moved _ at_ nofun
  · rename_i ctl found
    have at_ := handlerOf_eq found
    have moved : Handles s stream (s.setHandler stream .returned) := .moved _ at_ nofun
    rw [RegisterWorker] at next
    split at next
    · rename_i k there
      split_ifs at next
      · exact Option.some.inj next ▸ .registered at_ there
      · exact Option.some.inj next ▸ moved
    · exact Option.some.inj next ▸ moved
  · contradiction
  · contradiction
  · contradiction

/-- What a business connection can do. -/
inductive Serves (s : Frps) (conn : Nat) : Frps → Prop
  | looked {ctl : Nat} {b : Business} (at_ : s.business[conn]? = some (.GetWorkConn ctl))
      (next : b = .Write ctl ∨ b = .receive ctl) :
      Serves s conn (s.setBusiness conn b)
  | wrote {ctl : Nat} (at_ : s.business[conn]? = some (.Write ctl)) :
      Serves s conn (s.setBusiness conn (.receive ctl))
  | refused {ctl : Nat} (at_ : s.business[conn]? = some (.Write ctl)) :
      Serves s conn (s.setBusiness conn .returned)
  | took {ctl worker : Nat} {k : Controller} {rest : List Nat}
      (at_ : s.business[conn]? = some (.receive ctl))
      (there : s.controllers[ctl]? = some k) (workers : k.workers = worker :: rest) :
      Serves s conn ((s.setWorkers ctl rest).setBusiness conn (.serving worker))
  | gaveUp {ctl : Nat} (at_ : s.business[conn]? = some (.receive ctl)) :
      Serves s conn (s.setBusiness conn .returned)
  | served {worker : Nat} (at_ : s.business[conn]? = some (.serving worker)) :
      Serves s conn ((s.closeStream worker).setBusiness conn .returned)

theorem runBusiness_serves {ok : Bool} (next : s.runBusiness conn ok = some s') : Serves s conn s' := by
  unfold Frps.runBusiness at next
  split at next
  · rename_i at_
    obtain ⟨k, _, rfl⟩ := Option.map_eq_some_iff.mp next
    split
    · exact .looked at_ (Or.inl rfl)
    · exact .looked at_ (Or.inr rfl)
  · rename_i at_
    obtain ⟨k, _, rfl⟩ := Option.map_eq_some_iff.mp next
    split
    · exact .wrote at_
    · exact .refused at_
  · rename_i at_
    obtain ⟨k, there, next⟩ := Option.bind_eq_some_iff.mp next
    split at next
    · rename_i workers
      exact Option.some.inj next ▸ .took at_ there workers
    · split_ifs at next
      exact Option.some.inj next ▸ .gaveUp at_
  · rename_i at_
    exact Option.some.inj next ▸ .served at_
  · contradiction
  · contradiction

/-- In how many queues the stream is. -/
def queued (s : Frps) (w : Nat) : Nat := ((s.controllers.map (·.workers)).map (List.count w)).sum

/-- Whether the handler of the stream may still queue it. -/
def undecided (s : Frps) (w : Nat) : Nat :=
  if (s.handlerOf w).any (fun h => decide (h ≠ .returned)) then 1 else 0

/-- How often the stream can still be given to a business connection. -/
def chances (s : Frps) (w : Nat) : Nat := s.queued w + s.undecided w

theorem undecided_setHandler {h h' : Handler} (at_ : s.handlerOf stream = some h)
    (busy : h ≠ .returned) (w : Nat) :
    (s.setHandler stream h').undecided w ≤ s.undecided w := by
  rw [undecided, undecided, handlerOf_setHandler]
  by_cases same : stream = w
  · subst same
    simp only [at_, if_true, Option.map_some, Option.any_some, decide_eq_true busy]
    split <;> omega
  · simp only [if_neg same, Nat.le_refl]

theorem undecided_returned {h : Handler} (at_ : s.handlerOf stream = some h) (busy : h ≠ .returned)
    (w : Nat) :
    (s.setHandler stream .returned).undecided w + [stream].count w = s.undecided w := by
  rw [undecided, undecided, handlerOf_setHandler]
  by_cases same : stream = w
  · subst same
    simp only [at_, if_true, Option.map_some, Option.any_some, decide_eq_true busy,
      List.count_singleton_self]
    rfl
  · rw [if_neg same, List.count_singleton, if_neg (mt eq_of_beq same), Nat.add_zero]

theorem queued_setWorkers {ctl : Nat} {k : Controller} (there : s.controllers[ctl]? = some k)
    (workers : List Nat) (w : Nat) :
    (s.setWorkers ctl workers).queued w + k.workers.count w = s.queued w + workers.count w := by
  simp only [queued, setWorkers, List.map_map]
  exact sum_modify_add there

theorem Handles.chances (handles : Handles s stream s') (w : Nat) : s'.chances w ≤ s.chances w := by
  cases handles with
  | moved h' at_ busy => exact Nat.add_le_add_left (undecided_setHandler at_ busy w) _
  | login at_ =>
    have same : (s.addController stream).queued w = s.queued w := by
      simp only [queued, addController, List.map_append, List.sum_append]
      rfl
    exact Nat.add_le_add (Nat.le_of_eq same)
      (undecided_setHandler (s := s.addController stream) at_ (fun same => by cases same) w)
  | set at_ => exact Nat.add_le_add_left (undecided_setHandler at_ (fun same => by cases same) w) _
  | registered at_ there =>
    rename_i ctl k
    have queued := queued_setWorkers there (k.workers ++ [stream]) w
    have undecided := undecided_returned (s := s.setWorkers ctl (k.workers ++ [stream])) at_
      (fun same => by cases same) w
    rw [List.count_append] at queued
    change (s.setWorkers ctl (k.workers ++ [stream])).queued w + _ ≤ s.queued w + s.undecided w
    change _ = s.undecided w at undecided
    omega

theorem chances_took {ctl worker : Nat} {k : Controller} {rest : List Nat}
    (there : s.controllers[ctl]? = some k) (workers : k.workers = worker :: rest) (w : Nat) :
    (s.setWorkers ctl rest).chances w + [worker].count w = s.chances w := by
  have queued := queued_setWorkers there rest w
  rw [workers, ← List.singleton_append, List.count_append] at queued
  change (s.setWorkers ctl rest).queued w + s.undecided w + _ = s.queued w + s.undecided w
  omega

theorem chances_closeStream (w : Nat) : (s.closeStream stream).chances w = s.chances w := by
  rw [chances, undecided, handlerOf_closeStream]
  rfl

theorem chances_closeController (ctl w : Nat) : (s.closeController ctl).chances w = s.chances w := by
  rw [closeController]
  split
  · rename_i k there
    split_ifs
    · rfl
    · have queued := sum_modify_add (g := fun k => k.workers.count w)
        (f := fun k => { k with closed := true }) there
      have undecided : (s.closeStream k.ctl).undecided w = s.undecided w := by
        rw [Frps.undecided, handlerOf_closeStream]
        rfl
      simp only [chances, Frps.queued, List.map_map, Function.comp_def]
      refine congrArg₂ (· + ·) (Nat.add_right_cancel queued) undecided
  · rfl

/-- A stream that has just been accepted can be given once. -/
theorem chances_accept (w : Nat) : chances { s with streams := s.streams ++ [⟨true, .ReadMsg⟩] } w =
    s.chances w + [s.streams.length].count w := by
  rw [chances, chances, Nat.add_assoc]
  refine congrArg (s.queued w + ·) ?_
  rw [undecided, undecided, handlerOf, handlerOf]
  rcases Nat.lt_trichotomy w s.streams.length with less | rfl | more
  · rw [List.getElem?_append_left less,
      List.count_eq_zero_of_not_mem (mt List.mem_singleton.mp (Nat.ne_of_lt less))]
    rfl
  · rw [List.getElem?_concat_length, List.count_singleton_self, List.getElem?_eq_none (Nat.le_refl _)]
    rfl
  · have outside : (s.streams ++ [(⟨true, .ReadMsg⟩ : WorkerStream)]).length ≤ w := by
      rw [List.length_append]
      exact more
    rw [List.getElem?_eq_none outside, List.getElem?_eq_none (Nat.le_of_lt more),
      List.count_eq_zero_of_not_mem (mt List.mem_singleton.mp (Nat.ne_of_gt more))]
    rfl

/-- What no step but that of a handler or of a business connection does. -/
structure Aside (s s' : Frps) : Prop where
  streams : s'.streams.length = s.streams.length
  business : s'.business = s.business
  controllers : s'.controllers.length = s.controllers.length
  chances : ∀ w, s'.chances w = s.chances w

theorem aside_closeStream (s : Frps) (stream : Nat) : Aside s (s.closeStream stream) :=
  ⟨List.length_modify .., rfl, rfl, chances_closeStream⟩

theorem aside_closeController (s : Frps) (ctl : Nat) : Aside s (s.closeController ctl) := by
  refine ⟨?_, ?_, ?_, chances_closeController ctl⟩ <;> rw [closeController] <;> split
  all_goals try rfl
  all_goals split_ifs
  all_goals first | rfl | exact List.length_modify ..

theorem drop_aside {ctl : Nat} (next : s.drop ctl = some s') : Aside s s' := by
  obtain ⟨k, _, rfl⟩ := Option.map_eq_some_iff.mp next
  exact aside_closeStream s k.ctl

theorem Close_aside (next : s.Close = some s') : Aside s s' := by
  unfold Frps.Close at next
  split at next
  · cases next
    exact ⟨rfl, rfl, rfl, fun _ => rfl⟩
  · split at next
    · rename_i ctl _
      cases next
      obtain ⟨streams, business, controllers, chances⟩ := aside_closeController s ctl
      exact ⟨streams, business, controllers, chances⟩
    · cases next
      exact ⟨rfl, rfl, rfl, fun _ => rfl⟩
  · contradiction

theorem timeout_gaveUp (next : s.timeout conn = some s') :
    ∃ ctl, s.business[conn]? = some (.receive ctl) ∧ s' = s.setBusiness conn .returned := by
  unfold Frps.timeout at next
  split at next
  · rename_i ctl at_
    exact ⟨ctl, at_, (Option.some.inj next).symm⟩
  · contradiction

theorem Handles.rest (handles : Handles s stream s') :
    s'.streams.length = s.streams.length ∧ s'.business = s.business := by
  cases handles <;> exact ⟨List.length_modify .., rfl⟩

end Frps

namespace frpcController
variable {s s' : frpcController} {e : Event} {conn : Nat} {ok : Bool} {arrived : List Message}

/-- What has been read and is not dealt with. -/
def pending (s : frpcController) : List Message :=
  match s.running with
  | .dispatch _ m => m :: s.buffer
  | _ => s.buffer

/-- The worker streams that are still to be opened. -/
def left (s : frpcController) : Nat :=
  match s.running with
  | .GetStream _ n => n
  | _ => 0

/-- Whether a step takes what has arrived: a read that finds nothing decrypted. -/
def draws (s : frpcController) (conn : Nat) (ok : Bool) : Bool := ok && s.buffer.isEmpty && s.isOpen conn

/-- What a step does with the requests, where `drawn` is taken from the connection. -/
inductive Moves (s : frpcController) (drawn : List Message) (s' : frpcController) : Prop
  | kept (pending : s'.pending.Sublist (s.pending ++ drawn)) (requests : s'.requests = s.requests)
      (left : s'.left ≤ s.left)
  | request {n : Int} (pending : s.pending = .ReqWorkConn n :: s'.pending)
      (requests : s'.requests = s.requests + 1) (left : s'.left = n.toNat)

/-- What a read takes was buffered or is drawn. -/
theorem receive_pending {got : Message × List Message}
    (received : s.receive conn ok arrived = some got) :
    got.1 :: got.2 = s.buffer ++ if s.draws conn ok then arrived else [] := by
  unfold receive at received
  split at received
  · contradiction
  · rename_i buffered
    cases received
    rw [draws, buffered]
    simp only [List.isEmpty_cons, Bool.and_false, Bool.false_and, Bool.false_eq_true,
      if_false, List.append_nil]
  · rename_i empty
    split_ifs at received with opened
    split at received
    · cases received
      rw [draws, empty, opened]
      rfl
    · contradiction

theorem accepted_rest {got : Option (Message × List Message)} {rest : List Message}
    (taken : accepted got = some rest) :
    ∃ m, got = some (m, rest) := by
  unfold accepted at taken
  split at taken
  · split_ifs at taken
    cases taken
    exact ⟨_, rfl⟩
  · contradiction

theorem ReadResp_moves (at_ : s.running = .ReadResp conn) (next : s.runStep ok arrived = some s') :
    Moves s (if s.draws conn ok then arrived else []) s' := by
  have before : s.pending = s.buffer := by rw [pending, at_]
  simp only [runStep, at_, Option.some.injEq] at next
  cases taken : accepted (s.receive conn ok arrived) with
  | some rest =>
    rw [taken] at next
    subst next
    obtain ⟨m, received⟩ := accepted_rest taken
    refine .kept ?_ rfl (Nat.zero_le _)
    rw [before, ← receive_pending received]
    exact List.sublist_cons_self ..
  | none =>
    rw [taken] at next
    subst next
    refine .kept ?_ rfl (Nat.zero_le _)
    rw [before]
    exact List.sublist_append_left ..

theorem ReadMsg_moves (at_ : s.running = .ReadMsg conn) (next : s.runStep ok arrived = some s') :
    Moves s (if s.draws conn ok then arrived else []) s' := by
  have before : s.pending = s.buffer := by rw [pending, at_]
  simp only [runStep, at_, Option.some.injEq] at next
  cases received : s.receive conn ok arrived with
  | some got =>
    rw [received] at next
    subst next
    refine .kept ?_ rfl (Nat.zero_le _)
    rw [before, ← receive_pending received]
    exact List.Sublist.refl _
  | none =>
    rw [received] at next
    subst next
    refine .kept ?_ rfl (Nat.zero_le _)
    rw [before]
    exact List.sublist_append_left ..

/-- Nothing is read, and nothing becomes of what was. -/
theorem Moves.idle (pending : s'.pending = s.pending) (requests : s'.requests = s.requests)
    (left : s'.left = 0) : Moves s [] s' := by
  refine .kept ?_ requests (left ▸ Nat.zero_le _)
  rw [pending, List.append_nil]

/-- A step that neither reads nor opens a worker stream. -/
theorem other_moves (reads : ∀ conn, s.running ≠ .ReadResp conn ∧ s.running ≠ .ReadMsg conn)
    (opens : ok = false ∨ ∀ conn left, s.running ≠ .GetStream conn (left + 1))
    (next : s.runStep ok arrived = some s') : Moves s [] s' := by
  cases at_ : s.running with
  | ReadResp conn => exact absurd at_ (reads conn).1
  | ReadMsg conn => exact absurd at_ (reads conn).2
  | returned =>
    simp only [runStep, at_] at next
    contradiction
  | dispatch conn m =>
    have before : s.pending = m :: s.buffer := by rw [pending, at_]
    simp only [runStep, at_, Option.some.injEq] at next
    subst next
    cases m with
    | ReqWorkConn n => exact .request before rfl rfl
    | _ =>
      refine .kept ?_ rfl (Nat.zero_le _)
      rw [before, List.append_nil]
      exact List.sublist_cons_self ..
  | GetStream conn left =>
    have before : s.pending = s.buffer := by rw [pending, at_]
    cases left with
    | zero =>
      simp only [runStep, at_, Option.some.injEq] at next
      exact next ▸ .idle before.symm rfl rfl
    | succ left =>
      rcases opens with rfl | never
      · simp only [runStep, at_, Bool.false_eq_true, if_false, Option.some.injEq] at next
        exact next ▸ .idle before.symm rfl rfl
      · exact absurd at_ (never conn left)
  | createConn =>
    have before : s.pending = s.buffer := by rw [pending, at_]
    simp only [runStep, at_, Option.some.injEq] at next
    cases ok with
    | true => exact next ▸ .kept (List.nil_sublist _) rfl (Nat.zero_le _)
    | false => exact next ▸ .idle before.symm rfl rfl
  | exit =>
    have before : s.pending = s.buffer := by rw [pending, at_]
    simp only [runStep, at_, Option.some.injEq] at next
    subst next
    cases exit : s.exit <;> exact .idle before.symm rfl rfl
  | WriteLogin conn =>
    have before : s.pending = s.buffer := by rw [pending, at_]
    simp only [runStep, at_, Option.some.injEq] at next
    subst next
    split <;> exact .idle before.symm rfl rfl
  | cryptoReaderWriter conn =>
    have before : s.pending = s.buffer := by rw [pending, at_]
    simp only [runStep, at_, Option.some.injEq] at next
    subst next
    cases ok <;> exact .idle before.symm rfl rfl
  | storeRW conn =>
    have before : s.pending = s.buffer := by rw [pending, at_]
    simp only [runStep, at_, Option.some.injEq] at next
    exact next ▸ .idle before.symm rfl rfl
  | closeRW conn =>
    have before : s.pending = s.buffer := by rw [pending, at_]
    simp only [runStep, at_, Option.some.injEq] at next
    exact next ▸ .idle before.symm rfl rfl
  | sleep =>
    have before : s.pending = s.buffer := by rw [pending, at_]
    simp only [runStep, at_, Option.some.injEq] at next
    exact next ▸ .idle before.symm rfl rfl

/-- What comes from outside of `run` changes nothing that it has read. -/
theorem Moves.outside (running : s'.running = s.running) (buffer : s'.buffer = s.buffer)
    (requests : s'.requests = s.requests) : Moves s [] s' := by
  have pending : s'.pending = s.pending := by
    rw [frpcController.pending, frpcController.pending, running, buffer]
  refine .kept ?_ requests (Nat.le_of_eq ?_)
  · rw [pending, List.append_nil]
  · rw [left, left, running]

theorem Close_moves (next : s.Close = some s') : Moves s [] s' := by
  unfold Close at next
  split at next
  · cases next
    exact .outside rfl rfl rfl
  · cases next
    exact .outside rfl rfl rfl
  · split at next <;> cases next <;> exact .outside rfl rfl rfl
  · contradiction

end frpcController

end Gotun.Tun
