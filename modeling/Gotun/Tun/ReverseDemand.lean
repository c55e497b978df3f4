import Gotun.Tun.ReversePairing

/-! How many worker streams a reverse tunnel opens. -/

namespace Gotun.Tun.ReverseTunnel
open Gotun.Lib frpcController
variable {s s' : ReverseTunnel}

/-- A business connection that has yet to ask for workers, if it does. -/
def asks : Frps.Business → Bool
  | .GetWorkConn _ | .Write _ => true
  | .receive _ | .serving _ | .returned => false

/-- A request is for as many workers as `GetWorkConn` asks for. -/
def Usual (m : Message) : Prop := ∀ n, m = .ReqWorkConn n → n = FrpWorkerCount

/-- The requests that are queued at `Frps`, on their way, and read. -/
def queued (s : ReverseTunnel) : Nat := (s.sending.map (·.sendCh.countP isRequest)).sum

def onTheWay (s : ReverseTunnel) : Nat := (s.down.map (List.countP isRequest)).sum

def read (s : ReverseTunnel) : Nat := s.frpc.pending.countP isRequest

structure Demand (s : ReverseTunnel) : Prop where
  sending : ∀ q ∈ s.sending, ∀ m ∈ q.sendCh, Usual m
  down : ∀ wire ∈ s.down, ∀ m ∈ wire, Usual m
  pending : ∀ m ∈ s.frpc.pending, Usual m
  asked : s.frpc.requests + s.read + s.onTheWay + s.queued ≤ s.requested.length

/-- Who has asked does so only once. -/
structure Asked (s : ReverseTunnel) : Prop where
  once : s.requested.Nodup
  asked : ∀ conn ∈ s.requested, ∃ b, s.frps.business[conn]? = some b ∧ asks b = false

/-- A worker stream is opened for a request that was read, and a request has ten at most. -/
structure Answered (s : ReverseTunnel) : Prop where
  all : s.openedFor.length = s.handlers.length
  ten : ∀ r, s.openedFor.count r ≤ FrpWorkerCount
  rest : s.openedFor.count s.frpc.requests + s.frpc.left ≤ FrpWorkerCount
  read : ∀ r ∈ s.openedFor, 0 < r ∧ r ≤ s.frpc.requests
  idle : s.frpc.requests = 0 → s.frpc.left = 0

theorem onTheWay_sendDown (s : ReverseTunnel) (stream : Nat) (m : Message) :
    (sendDown stream m s).onTheWay ≤ s.onTheWay + if isRequest m then 1 else 0 :=
  sum_modify_le _ fun wire => Nat.le_of_eq (by rw [List.countP_append, List.countP_singleton])

theorem usual_sendDown {stream : Nat} {m : Message} (down : ∀ wire ∈ s.down, ∀ m ∈ wire, Usual m)
    (usual : Usual m) :
    ∀ wire ∈ (sendDown stream m s).down, ∀ m ∈ wire, Usual m := by
  intro wire member
  obtain ⟨j, there⟩ := List.mem_iff_getElem?.mp member
  rcases of_getElem?_modify there with ⟨_, there⟩ | ⟨_, old, found, rfl⟩
  · exact down wire (List.mem_of_getElem? there)
  · exact forall_mem_concat (down old (List.mem_of_getElem? found)) usual

/-- What is sent down and is no request makes no demand. -/
theorem Demand.sendDown {stream : Nat} {m : Message} (before : Demand s)
    (plain : isRequest m = false) : Demand (sendDown stream m s) := by
  have usual : Usual m := by
    rintro n rfl
    contradiction
  refine ⟨before.sending, usual_sendDown before.down usual, before.pending, ?_⟩
  have less := onTheWay_sendDown s stream m
  rw [plain, if_neg Bool.false_ne_true, Nat.add_zero] at less
  have asked := before.asked
  change s.frpc.requests + s.read + (ReverseTunnel.sendDown stream m s).onTheWay + s.queued ≤
    s.requested.length
  omega

theorem Demand.connected (before : Demand s) : Demand s.connected := by
  refine ⟨before.sending, forall_mem_concat before.down
    (fun _ member => absurd member List.not_mem_nil), before.pending, ?_⟩
  have same : s.connected.onTheWay = s.onTheWay := by
    change ((s.down ++ [[]]).map (List.countP isRequest)).sum = _
    rw [List.map_append, List.sum_append]
    rfl
  change s.frpc.requests + s.read + s.connected.onTheWay + s.queued ≤ s.requested.length
  rw [same]
  exact before.asked

theorem Demand.queued {ctl : Nat} {q q' : Sending} (before : Demand s) (there : s.sending[ctl]? = some q)
    (usual : ∀ m ∈ q'.sendCh, Usual m) (less : q'.sendCh.countP isRequest ≤ q.sendCh.countP isRequest) :
    Demand { s with sending := s.sending.set ctl q' } := by
  refine ⟨forall_mem_set before.sending usual, before.down, before.pending, ?_⟩
  have moved := sum_set_add (g := fun q : Sending => q.sendCh.countP isRequest) (b := q') there
  have asked := before.asked
  simp only [ReverseTunnel.queued] at asked
  change s.frpc.requests + s.read + s.onTheWay + ((s.sending.set ctl q').map _).sum ≤ s.requested.length
  omega

/-- What `Frpc` has read and dealt with, and what it still has to. -/
theorem moves_count {c c' : frpcController} {drawn : List Message} (moves : c.Moves drawn c') :
    c'.requests + c'.pending.countP isRequest ≤ c.requests + c.pending.countP isRequest +
      drawn.countP isRequest := by
  cases moves with
  | kept pending requests left =>
    have less := pending.countP_le (p := isRequest)
    rw [List.countP_append] at less
    omega
  | request pending requests left =>
    rw [pending, List.countP_cons_of_pos rfl]
    omega

theorem Demand.client {c : frpcController} {drawn : List Message} (before : Demand s)
    (moves : s.frpc.Moves drawn c) (usual : ∀ m ∈ drawn, Usual m) {down : List (List Message)}
    (usual' : ∀ wire ∈ down, ∀ m ∈ wire, Usual m)
    (taken : (down.map (List.countP isRequest)).sum + drawn.countP isRequest = s.onTheWay) :
    Demand { s with frpc := c, down := down } := by
  have count := moves_count moves
  have asked := before.asked
  have read : ∀ m ∈ s.frpc.pending ++ drawn, Usual m := by
    intro m member
    rcases List.mem_append.mp member with member | member
    · exact before.pending m member
    · exact usual m member
  refine ⟨before.sending, usual', ?_, ?_⟩
  · cases moves with
    | kept pending _ _ => exact fun m member => read m (pending.subset member)
    | request pending _ _ =>
      exact fun m member => before.pending m (pending ▸ List.mem_cons_of_mem _ member)
  · change c.requests + c.pending.countP isRequest + (down.map (List.countP isRequest)).sum +
      s.queued ≤ s.requested.length
    simp only [ReverseTunnel.read] at asked
    omega

/-- Nothing that is not looked at makes a demand. -/
theorem Demand.congr (before : Demand s) (frpc : s'.frpc = s.frpc) (down : s'.down = s.down)
    (sending : s'.sending = s.sending) (requested : s'.requested = s.requested) : Demand s' := by
  obtain ⟨usual, usual', usual'', asked⟩ := before
  simp only [ReverseTunnel.read, onTheWay, ReverseTunnel.queued] at asked
  refine ⟨?_, ?_, ?_, ?_⟩ <;>
    simp only [ReverseTunnel.read, onTheWay, ReverseTunnel.queued, frpc, down, sending,
      requested] <;> assumption

theorem Demand.asked_step {conn ctl : Nat} (before : Demand s) :
    Demand (ask ctl { s with
      frps := s.frps.setBusiness conn (.receive ctl), requested := s.requested ++ [conn] }) := by
  have usual : Usual (.ReqWorkConn FrpWorkerCount) := by
    rintro n ⟨rfl⟩
    rfl
  refine ⟨fun q member => ?_, before.down, before.pending, ?_⟩
  · obtain ⟨j, there⟩ := List.mem_iff_getElem?.mp member
    rcases of_getElem?_modify there with ⟨_, there⟩ | ⟨_, old, found, rfl⟩
    · exact before.sending q (List.mem_of_getElem? there)
    · exact forall_mem_concat (before.sending old (List.mem_of_getElem? found)) usual
  · have asked := before.asked
    have more : (ask ctl s).queued ≤ s.queued + 1 := sum_modify_le 1 fun q => by
      rw [List.countP_append]
      exact Nat.le_refl _
    change s.frpc.requests + s.read + s.onTheWay + (ask ctl s).queued ≤ (s.requested ++ [conn]).length
    rw [List.length_append, List.length_singleton]
    omega

theorem Demand.wrote {ctl : Nat} {m : Message} {rest : List Message} (stream : Nat) (before : Demand s)
    (there : s.sending[ctl]? = some ⟨m :: rest, true⟩) :
    Demand (ReverseTunnel.sendDown stream m { s with sending := s.sending.set ctl ⟨rest, true⟩ }) := by
  have usual := before.sending _ (List.mem_of_getElem? there)
  refine ⟨forall_mem_set before.sending fun m' member => usual m' (List.mem_cons_of_mem m member),
    usual_sendDown before.down (usual m (List.mem_cons_self ..)), before.pending, ?_⟩
  have asked := before.asked
  have sent := onTheWay_sendDown s stream m
  have less := sum_set_add (g := fun q : Sending => q.sendCh.countP isRequest) (b := ⟨rest, true⟩) there
  simp only [List.countP_cons] at less
  simp only [ReverseTunnel.queued] at asked
  change s.frpc.requests + s.read + (ReverseTunnel.sendDown stream m s).onTheWay +
    ((s.sending.set ctl ⟨rest, true⟩).map _).sum ≤ s.requested.length
  omega

/-- What is left of a wire, and what was taken. -/
theorem taken {stream : Nat} {first rest : List Message}
    (there : s.down[stream]? = some (first ++ rest)) :
    ((s.down.set stream rest).map (List.countP isRequest)).sum +
      first.countP isRequest = s.onTheWay := by
  have moved := sum_set_add (g := List.countP isRequest) (b := rest) there
  rw [List.countP_append] at moved
  rw [onTheWay]
  omega

/-- One worker stream less is to be opened. -/
theorem Demand.opened_step {conn left : Nat} (before : Demand s)
    (at_ : s.frpc.running = .GetStream conn (left + 1)) :
    Demand { s.connected with
      frpc := { s.frpc with workers := s.frpc.workers + 1, running := .GetStream conn left }
      handlers := s.handlers ++ [(s.frps.streams.length, .WriteMsg)]
      openedFor := s.openedFor ++ [s.frpc.requests] } := by
  have after := before.connected
  have pending : s.frpc.pending = s.frpc.buffer := by rw [frpcController.pending, at_]
  refine ⟨after.sending, after.down, fun m member => before.pending m (pending ▸ member), ?_⟩
  have asked := after.asked
  change s.frpc.requests + s.frpc.pending.countP isRequest + s.connected.onTheWay + s.queued ≤ _ at asked
  rw [pending] at asked
  exact asked

theorem Demand.step (before : Demand s) (steps : Steps s s') : Demand s' := by
  have still {c : frpcController} (moves : s.frpc.Moves [] c) : Demand { s with frpc := c } :=
    before.client moves (fun _ member => absurd member List.not_mem_nil) before.down rfl
  cases steps with
  | accepted => exact before.connected
  | handled up handles => exact before.congr rfl rfl rfl rfl
  | answered handles =>
    rename_i stream f
    have after : Demand { s with frps := f } := before.congr rfl rfl rfl rfl
    have queued : Demand { s with frps := f, sending := s.sending ++ [⟨[], true⟩] } := by
      refine ⟨forall_mem_concat after.sending (fun _ member => absurd member List.not_mem_nil),
        after.down, after.pending, ?_⟩
      have same : ReverseTunnel.queued { s with frps := f, sending := s.sending ++ [⟨[], true⟩] } =
          s.queued := by
        rw [ReverseTunnel.queued, List.map_append, List.sum_append]
        rfl
      rw [same]
      exact after.asked
    exact queued.sendDown rfl
  | came => exact before.congr rfl rfl rfl rfl
  | looked at_ next => exact before.congr rfl rfl rfl rfl
  | asked at_ => exact before.asked_step
  | refused at_ => exact before.congr rfl rfl rfl rfl
  | took at_ there workers => exact before.congr rfl rfl rfl rfl
  | served at_ => exact before.congr rfl rfl rfl rfl
  | aside aside => exact before.congr rfl rfl rfl rfl
  | wrote there => exact before.wrote _ there
  | ended there =>
    rename_i ctl m rest
    have usual := before.sending _ (List.mem_of_getElem? there)
    refine before.queued there (fun m' member => usual m' (List.mem_cons_of_mem _ member)) ?_
    exact (List.sublist_cons_self m rest).countP_le
  | answers there =>
    have usual := before.sending _ (List.mem_of_getElem? there)
    refine before.queued there (forall_mem_concat usual nofun) ?_
    rw [List.countP_append]
    exact Nat.le_refl _
  | started at_ once =>
    rename_i conn worker
    have after : Demand { s with told := s.told ++ [conn] } := before.congr rfl rfl rfl rfl
    exact after.sendDown rfl
  | client up moves => exact (still moves).congr rfl rfl rfl rfl
  | received moves there first =>
    rename_i stream arrived wire c
    obtain ⟨rest, rfl⟩ := first
    have usual := before.down _ (List.mem_of_getElem? there)
    have rest_ : (arrived ++ rest).drop arrived.length = rest := List.drop_left ..
    rw [rest_]
    exact before.client moves (fun m member => usual m (List.mem_append_left _ member))
      (forall_mem_set before.down fun m member => usual m (List.mem_append_right _ member)) (taken there)
  | loggingIn moves =>
    have after := (still moves).connected
    exact after.congr rfl rfl rfl rfl
  | opened at_ => exact before.opened_step at_
  | hello up there => exact before.congr rfl rfl rfl rfl
  | heard there wire =>
    rename_i i stream m rest
    have usual := before.down _ (List.mem_of_getElem? wire)
    have lost : s.frpc.Moves [m] s.frpc := .kept (List.sublist_append_left ..) rfl (Nat.le_refl _)
    have after := before.client lost
      (fun m' member => usual m' (List.mem_singleton.mp member ▸ List.mem_cons_self ..))
      (forall_mem_set before.down fun m' member => usual m' (List.mem_cons_of_mem m member))
      (taken wire)
    exact after.congr rfl rfl rfl rfl
  | wrapped there => exact before.congr rfl rfl rfl rfl
  | dialled there => exact before.congr rfl rfl rfl rfl
  | stopped there => exact before.congr rfl rfl rfl rfl
  | said up => exact before.congr rfl rfl rfl rfl

theorem Asked.moved {f : Frps} {conn : Nat} {b b' : Frps.Business} (before : Asked s)
    (at_ : s.frps.business[conn]? = some b) (becomes : f.business = s.frps.business.set conn b')
    (less : asks b' = true → asks b = true) : Asked { s with frps := f } := by
  refine ⟨before.once, fun c member => ?_⟩
  obtain ⟨old, there, asked⟩ := before.asked c member
  change ∃ b, f.business[c]? = some b ∧ asks b = false
  rw [becomes]
  by_cases same : conn = c
  · subst same
    cases Option.some.inj (at_.symm.trans there)
    refine ⟨b', List.getElem?_set_self (List.getElem?_eq_some_iff.mp at_).1,
      Bool.eq_false_iff.mpr fun again => ?_⟩
    exact absurd (less again) (by rw [asked]; exact Bool.false_ne_true)
  · exact ⟨old, (List.getElem?_set_ne same).trans there, asked⟩

theorem Asked.asks {conn ctl : Nat} (before : Asked s)
    (at_ : s.frps.business[conn]? = some (.Write ctl)) :
    Asked (ask ctl { s with
      frps := s.frps.setBusiness conn (.receive ctl), requested := s.requested ++ [conn] }) := by
  have moved : Asked { s with frps := s.frps.setBusiness conn (.receive ctl) } :=
    before.moved at_ rfl nofun
  have new : conn ∉ s.requested := by
    intro member
    obtain ⟨b, there, asked⟩ := before.asked conn member
    cases Option.some.inj (at_.symm.trans there)
    contradiction
  refine ⟨List.Nodup.append before.once (List.nodup_singleton conn)
    (List.disjoint_singleton.mpr new), ?_⟩
  exact forall_mem_concat moved.asked
    ⟨_, List.getElem?_set_self (List.getElem?_eq_some_iff.mp at_).1, rfl⟩

theorem Asked.came (before : Asked s) : Asked { s with frps := s.frps.connect } := by
  refine ⟨before.once, fun c member => ?_⟩
  obtain ⟨b, there, asked⟩ := before.asked c member
  exact ⟨b, (List.getElem?_append_left (List.getElem?_eq_some_iff.mp there).1).trans there, asked⟩

theorem Asked.step (before : Asked s) (steps : Steps s s') : Asked s' := by
  have same {f : Frps} (business : f.business = s.frps.business) : Asked { s with frps := f } :=
    ⟨before.once, by simp only [business]; exact before.asked⟩
  cases steps with
  | handled up handles =>
    have after := same handles.rest.2
    exact ⟨after.once, after.asked⟩
  | answered handles =>
    have after := same handles.rest.2
    exact ⟨after.once, after.asked⟩
  | came => exact before.came
  | looked at_ next => exact before.moved at_ rfl fun _ => rfl
  | asked at_ => exact before.asks at_
  | refused at_ =>
    rcases at_ with at_ | at_
    · exact before.moved at_ rfl fun _ => rfl
    · exact before.moved at_ rfl id
  | took at_ there workers =>
    rename_i conn ctl worker k rest
    have after :
        Asked { s with frps := (s.frps.setWorkers ctl rest).setBusiness conn (.serving worker) } :=
      before.moved at_ rfl id
    exact ⟨after.once, after.asked⟩
  | served at_ => exact before.moved at_ rfl id
  | aside aside => exact same aside.business
  | _ => exact ⟨before.once, before.asked⟩

/-- `Frpc` goes on with a request, or to the next one, of which nothing is opened yet. -/
theorem Answered.client {c : frpcController} {drawn : List Message} (before : Answered s)
    (moves : s.frpc.Moves drawn c) (usual : ∀ m ∈ s.frpc.pending, Usual m) :
    Answered { s with frpc := c } := by
  cases moves with
  | kept _ requests left =>
    refine ⟨before.all, before.ten, ?_, requests ▸ before.read, fun none_ => ?_⟩
    · change s.openedFor.count c.requests + c.left ≤ FrpWorkerCount
      rw [requests]
      exact Nat.le_trans (Nat.add_le_add_left left _) before.rest
    · exact Nat.le_zero.mp (before.idle (requests ▸ none_) ▸ left)
  | request pending requests left =>
    have ten := usual _ (pending ▸ List.mem_cons_self ..) _ rfl
    refine ⟨before.all, before.ten, ?_, fun r member => ?_,
      fun none_ => absurd (requests.symm.trans none_) (Nat.succ_ne_zero _)⟩
    · have new : c.requests ∉ s.openedFor := fun member => absurd (before.read _ member).2 (by omega)
      change s.openedFor.count c.requests + c.left ≤ FrpWorkerCount
      rw [List.count_eq_zero_of_not_mem new, left, ten, Nat.zero_add]
      exact Nat.le_refl _
    · obtain ⟨some_, read⟩ := before.read r member
      exact ⟨some_, by change r ≤ c.requests; omega⟩

theorem Answered.opens {conn left : Nat} (before : Answered s)
    (at_ : s.frpc.running = .GetStream conn (left + 1)) :
    Answered { s.connected with
      frpc := { s.frpc with workers := s.frpc.workers + 1, running := .GetStream conn left }
      handlers := s.handlers ++ [(s.frps.streams.length, .WriteMsg)]
      openedFor := s.openedFor ++ [s.frpc.requests] } := by
  have waiting : s.frpc.left = left + 1 := by rw [frpcController.left, at_]
  have rest := before.rest
  have counted (r : Nat) : (s.openedFor ++ [s.frpc.requests]).count r =
      s.openedFor.count r + if s.frpc.requests = r then 1 else 0 := by
    rw [List.count_append, List.count_singleton]
    simp only [beq_iff_eq]
  refine ⟨?_, fun r => ?_, ?_, forall_mem_concat before.read ⟨?_, Nat.le_refl _⟩, fun none_ => ?_⟩
  · change (s.openedFor ++ [_]).length = (s.handlers ++ [_]).length
    rw [List.length_append, List.length_append, before.all]
    rfl
  · have ten := before.ten r
    change (s.openedFor ++ [s.frpc.requests]).count r ≤ FrpWorkerCount
    rw [counted]
    split_ifs with same
    · subst same
      omega
    · exact ten
  · change (s.openedFor ++ [s.frpc.requests]).count s.frpc.requests + left ≤ FrpWorkerCount
    rw [counted, if_pos rfl]
    omega
  · by_contra none_
    have idle := before.idle (Nat.eq_zero_of_not_pos none_)
    omega
  · have idle := before.idle none_
    omega

theorem Answered.congr (before : Answered s) (frpc : s'.frpc = s.frpc)
    (openedFor : s'.openedFor = s.openedFor)
    (handlers : s'.handlers.length = s.handlers.length) : Answered s' := by
  obtain ⟨all, ten, rest, read, idle⟩ := before
  refine ⟨?_, ?_, ?_, ?_, ?_⟩ <;> simp only [frpc, openedFor, handlers] <;> assumption

theorem Answered.step (before : Answered s) (demand : Demand s) (steps : Steps s s') : Answered s' := by
  cases steps with
  | client up moves => exact (before.client moves demand.pending).congr rfl rfl rfl
  | received moves there first => exact (before.client moves demand.pending).congr rfl rfl rfl
  | loggingIn moves => exact (before.client moves demand.pending).congr rfl rfl rfl
  | opened at_ => exact before.opens at_
  | hello up there => exact before.congr rfl rfl (List.length_set ..)
  | heard there wire => exact before.congr rfl rfl (List.length_set ..)
  | wrapped there => exact before.congr rfl rfl (List.length_set ..)
  | dialled there => exact before.congr rfl rfl (List.length_set ..)
  | stopped there => exact before.congr rfl rfl (List.length_set ..)
  | _ => exact before.congr rfl rfl rfl

/-- In every run of the two ends `Frpc` opens each worker stream for a request that it has read, at
most ten for each, and reads no more requests than there are business connections that have asked
for workers. -/
theorem reverse_demand (reachable : system.Reachable s) :
    (s.openedFor.length = s.handlers.length ∧ (∀ r ∈ s.openedFor, 0 < r ∧ r ≤ s.frpc.requests) ∧
      ∀ r, s.openedFor.count r ≤ FrpWorkerCount) ∧
    s.frpc.requests ≤ s.requested.length ∧ s.requested.Nodup ∧ ∀ conn ∈ s.requested,
      conn < s.frps.business.length := by
  have held : Demand s ∧ Asked s ∧ Answered s := by
    refine reachable.invariant
      (fun s => Demand s ∧ Asked s ∧ Answered s) ?_ fun _ _ _ ⟨demand, asked, answered⟩ next => ?_
    · rintro _ rfl
      exact ⟨⟨nofun, nofun, nofun, Nat.le_refl _⟩, ⟨.nil, nofun⟩,
        ⟨rfl, fun _ => Nat.zero_le _, Nat.zero_le _, nofun, fun _ => rfl⟩⟩
    · have steps := step_steps next
      exact ⟨demand.step steps, asked.step steps, answered.step demand steps⟩
  obtain ⟨demand, asked, answered⟩ := held
  have counted := demand.asked
  refine ⟨⟨answered.all, answered.read, answered.ten⟩, by omega, asked.once, fun conn member => ?_⟩
  obtain ⟨b, there, _⟩ := asked.asked conn member
  exact (List.getElem?_eq_some_iff.mp there).1

theorem reverse_demand_servesOne : ∃ s : ReverseTunnel, s.openedFor = [1] ∧ s.requested = [0] ∧
    s.frpc.requests ≤ s.requested.length ∧ s.openedFor.length = s.handlers.length := by
  have played : (system.play (fun _ _ => true) servesOne .start).any (fun s =>
      decide (s.openedFor = [1] ∧ s.requested = [0])) = true := by decide
  obtain ⟨s, reached, sees⟩ := (Option.any_eq_true _ _).mp played
  obtain ⟨opened, requested⟩ := of_decide_eq_true sees
  have reachable : system.Reachable s := .of_play rfl reached
  obtain ⟨⟨all, _⟩, read, _⟩ := reverse_demand reachable
  exact ⟨s, opened, requested, read, all⟩

end Gotun.Tun.ReverseTunnel
