import Gotun.Tun.ReverseTunnel
import Mathlib.Data.List.Nodup

/-! Who is connected with whom through a reverse tunnel. -/

namespace Gotun.Tun.ReverseTunnel
open Gotun.Lib
variable {s s' : ReverseTunnel}

/-- How often a worker was given to a business connection. -/
def given (s : ReverseTunnel) (w : Nat) : Nat := (s.handed.map Prod.snd).count w

/-- A stream is given at most once, and none is before it came. -/
structure Once (s : ReverseTunnel) : Prop where
  once : ∀ w, s.given w + s.frps.chances w ≤ 1
  known : ∀ w, s.frps.streams.length ≤ w → s.given w + s.frps.chances w = 0

theorem Once.less (before : Once s) (streams : s'.frps.streams.length = s.frps.streams.length)
    (less : ∀ w, s'.given w + s'.frps.chances w ≤ s.given w + s.frps.chances w) : Once s' where
  once w := Nat.le_trans (less w) (before.once w)
  known w new := Nat.le_zero.mp (before.known w (streams ▸ new) ▸ less w)

theorem chances_connected (s : ReverseTunnel) (w : Nat) :
    s.connected.frps.chances w = s.frps.chances w + [s.frps.streams.length].count w :=
  Frps.chances_accept w

theorem Once.connected (before : Once s) : Once s.connected where
  once w := by
    have once := before.once w
    change s.given w + s.connected.frps.chances w ≤ 1
    rw [chances_connected]
    by_cases new : s.frps.streams.length ≤ w
    · have one := List.nodup_iff_count_le_one.mp (List.nodup_singleton s.frps.streams.length) w
      have zero := before.known w new
      omega
    · rw [List.count_eq_zero_of_not_mem (mt List.mem_singleton.mp (Nat.ne_of_lt (Nat.lt_of_not_le new)))]
      exact once
  known w new := by
    change (s.frps.streams ++ [_]).length ≤ w at new
    rw [List.length_append] at new
    change s.given w + s.connected.frps.chances w = 0
    rw [chances_connected, List.count_eq_zero_of_not_mem (mt List.mem_singleton.mp (Nat.ne_of_gt new))]
    exact before.known w (Nat.le_of_succ_le new)

theorem Once.step (before : Once s) (steps : Steps s s') : Once s' := by
  have less {f : Frps} (streams : f.streams.length = s.frps.streams.length)
      (chances : ∀ w, f.chances w ≤ s.frps.chances w) : Once { s with frps := f } :=
    before.less streams fun w => Nat.add_le_add_left (chances w) _
  cases steps with
  | accepted => exact before.connected
  | loggingIn _ => exact ⟨before.connected.once, before.connected.known⟩
  | opened _ => exact ⟨before.connected.once, before.connected.known⟩
  | handled up handles =>
    have after := less handles.rest.1 handles.chances
    exact ⟨after.once, after.known⟩
  | answered handles =>
    have after := less handles.rest.1 handles.chances
    exact ⟨after.once, after.known⟩
  | took at_ there workers =>
    rename_i conn ctl worker k rest
    refine before.less rfl fun w => ?_
    have chances := Frps.chances_took there workers w
    have given_ : ((s.handed ++ [(conn, worker)]).map Prod.snd).count w =
        s.given w + [worker].count w := by
      rw [List.map_append, List.count_append]
      rfl
    change ((s.handed ++ [(conn, worker)]).map Prod.snd).count w +
      (s.frps.setWorkers ctl rest).chances w ≤ s.given w + s.frps.chances w
    omega
  | served at_ =>
    rename_i conn worker
    have same (w : Nat) : (s.frps.closeStream worker).chances w = s.frps.chances w :=
      Frps.chances_closeStream w
    exact less (List.length_modify ..) fun w => Nat.le_of_eq (same w)
  | aside aside => exact less aside.streams fun w => Nat.le_of_eq (aside.chances w)
  | _ => exact ⟨before.once, before.known⟩

/-- Each worker that was given is the one that its business connection has or had. -/
structure Served (s : ReverseTunnel) : Prop where
  handed : ∀ p ∈ s.handed, s.frps.business[p.1]? = some (.serving p.2) ∨
    s.frps.business[p.1]? = some .returned
  serving : ∀ (c w : Nat), s.frps.business[c]? = some (.serving w) → (c, w) ∈ s.handed
  conns : (s.handed.map Prod.fst).Nodup

/-- A business connection that has no worker yet. -/
def waits : Frps.Business → Bool
  | .GetWorkConn _ | .Write _ | .receive _ => true
  | .serving _ | .returned => false

theorem Served.not_handed (before : Served s) {conn : Nat} {b : Frps.Business}
    (at_ : s.frps.business[conn]? = some b) (waiting : waits b = true) :
    ∀ p ∈ s.handed, p.1 ≠ conn := by
  rintro p member rfl
  rcases before.handed p member with serving | returned
  · cases Option.some.inj (at_.symm.trans serving)
    contradiction
  · cases Option.some.inj (at_.symm.trans returned)
    contradiction

theorem Served.moved {conn : Nat} {b b' : Frps.Business} (before : Served s)
    (at_ : s.frps.business[conn]? = some b) (waiting : waits b = true)
    (unserved : ∀ w, b' ≠ .serving w) : Served { s with frps := s.frps.setBusiness conn b' } where
  handed p member := by
    have other := before.not_handed at_ waiting p member
    change (s.frps.business.set conn b')[p.1]? = _ ∨ (s.frps.business.set conn b')[p.1]? = _
    rw [List.getElem?_set_ne other.symm]
    exact before.handed p member
  serving c w there := by
    rcases of_getElem?_set there with ⟨_, there⟩ | ⟨_, same⟩
    · exact before.serving c w there
    · exact absurd same (unserved w)
  conns := before.conns

theorem Served.took {conn worker : Nat} {b : Frps.Business} {f : Frps} (before : Served s)
    (at_ : s.frps.business[conn]? = some b) (waiting : waits b = true)
    (business : f.business = s.frps.business.set conn (.serving worker)) :
    Served { s with frps := f, handed := s.handed ++ [(conn, worker)] } where
  handed p member := by
    change f.business[p.1]? = _ ∨ f.business[p.1]? = _
    rw [business]
    rcases List.mem_append.mp member with member | here
    · rw [List.getElem?_set_ne (before.not_handed at_ waiting p member).symm]
      exact before.handed p member
    · rw [List.mem_singleton.mp here]
      exact Or.inl (List.getElem?_set_self (List.getElem?_eq_some_iff.mp at_).1)
  serving c w there := by
    change f.business[c]? = _ at there
    rw [business] at there
    rcases of_getElem?_set there with ⟨_, there⟩ | ⟨rfl, same⟩
    · exact List.mem_append_left _ (before.serving c w there)
    · cases same
      exact List.mem_append_right _ (List.mem_singleton_self _)
  conns := by
    rw [List.map_append]
    refine List.Nodup.append before.conns (List.nodup_singleton conn) ?_
    refine List.disjoint_singleton.mpr fun member => ?_
    obtain ⟨p, member, same⟩ := List.mem_map.mp member
    exact before.not_handed at_ waiting p member same

theorem Served.ended {conn worker : Nat} {f : Frps} (before : Served s)
    (at_ : s.frps.business[conn]? = some (.serving worker))
    (business : f.business = s.frps.business.set conn .returned) : Served { s with frps := f } where
  handed p member := by
    change f.business[p.1]? = _ ∨ f.business[p.1]? = _
    rw [business]
    by_cases here : conn = p.1
    · rw [here] at at_ ⊢
      exact Or.inr (List.getElem?_set_self (List.getElem?_eq_some_iff.mp at_).1)
    · rw [List.getElem?_set_ne here]
      exact before.handed p member
  serving c w there := by
    change f.business[c]? = _ at there
    rw [business] at there
    rcases of_getElem?_set there with ⟨_, there⟩ | ⟨_, same⟩
    · exact before.serving c w there
    · cases same
  conns := before.conns

theorem Served.came (before : Served s) : Served { s with frps := s.frps.connect } where
  handed p member := by
    have below : p.1 < s.frps.business.length := by
      rcases before.handed p member with there | there <;> exact (List.getElem?_eq_some_iff.mp there).1
    change (s.frps.business ++ [_])[p.1]? = _ ∨ (s.frps.business ++ [_])[p.1]? = _
    rw [List.getElem?_append_left below]
    exact before.handed p member
  serving c w there := by
    rcases of_getElem?_concat there with there | ⟨_, same⟩
    · exact before.serving c w there
    · split at same <;> cases same
  conns := before.conns

theorem Served.step (before : Served s) (steps : Steps s s') : Served s' := by
  have same {f : Frps} (business : f.business = s.frps.business) : Served { s with frps := f } :=
    ⟨by simp only [business]; exact before.handed, by simp only [business]; exact before.serving,
      before.conns⟩
  cases steps with
  | handled up handles =>
    have after := same handles.rest.2
    exact ⟨after.handed, after.serving, after.conns⟩
  | answered handles =>
    have after := same handles.rest.2
    exact ⟨after.handed, after.serving, after.conns⟩
  | came => exact before.came
  | looked at_ next =>
    exact before.moved at_ rfl (by rcases next with rfl | rfl <;> exact fun _ => nofun)
  | asked at_ =>
    rename_i conn ctl
    have after : Served { s with frps := s.frps.setBusiness conn (.receive ctl) } :=
      before.moved at_ rfl (fun _ => nofun)
    exact ⟨after.handed, after.serving, after.conns⟩
  | refused at_ =>
    rcases at_ with at_ | at_ <;> exact before.moved at_ rfl (fun _ => nofun)
  | took at_ there workers => exact before.took at_ rfl rfl
  | served at_ => exact before.ended at_ rfl
  | aside aside => exact same aside.business
  | _ => exact ⟨before.handed, before.serving, before.conns⟩

/-- A worker was given to a business connection, and told by it to start. -/
def Started (s : ReverseTunnel) (w : Nat) : Prop := ∃ c ∈ s.told, (c, w) ∈ s.handed

/-- Who finds that he is to start has been told so, and only he opens an output. -/
structure Told (s : ReverseTunnel) : Prop where
  down : ∀ (stream : Nat) (wire : List Message), s.down[stream]? = some wire →
    .StartWorkConn ∈ wire → s.Started stream
  sending : ∀ q ∈ s.sending, .StartWorkConn ∉ q.sendCh
  begun : ∀ p ∈ s.handlers, p.2 = .WrapSrcWithRole ∨ p.2 = .GetStream ∨
    p.2 = .PipePrepared → s.Started p.1
  outputs : ∀ w ∈ s.outputs, s.Started w

/-- Nobody is forgotten. -/
theorem Told.more (before : Told s) {frps : Frps} {told : List Nat} {handed : List (Nat × Nat)}
    (more : s.told ⊆ told) (more' : s.handed ⊆ handed) :
    Told { s with frps := frps, told := told, handed := handed } := by
  have started {w : Nat} : s.Started w →
      Started { s with frps := frps, told := told, handed := handed } w :=
    fun ⟨c, tells, given⟩ => ⟨c, more tells, more' given⟩
  exact ⟨fun stream wire there start => started (before.down stream wire there start), before.sending,
    fun p member has => started (before.begun p member has),
      fun w member => started (before.outputs w member)⟩

/-- Nothing but a start makes a worker one that has work. -/
theorem Told.sendDown {stream : Nat} {m : Message} (before : Told s)
    (plain : m = .StartWorkConn → s.Started stream) :
    Told (sendDown stream m s) := by
  refine ⟨fun other wire there start => ?_, before.sending, before.begun, before.outputs⟩
  rcases of_getElem?_modify there with ⟨_, there⟩ | ⟨rfl, old, found, rfl⟩
  · exact before.down other wire there start
  · rcases List.mem_append.mp start with start | now
    · exact before.down stream old found start
    · exact plain (List.mem_singleton.mp now).symm

theorem Told.taken {stream : Nat} {wire rest : List Message} (before : Told s)
    (there : s.down[stream]? = some wire) (less : rest ⊆ wire) :
    Told { s with down := s.down.set stream rest } := by
  refine ⟨fun other wire' there' start => ?_, before.sending, before.begun, before.outputs⟩
  rcases of_getElem?_set there' with ⟨_, there'⟩ | ⟨rfl, rfl⟩
  · exact before.down other wire' there' start
  · exact before.down stream wire there (less start)

theorem Told.queued {ctl : Nat} {q : Sending} (before : Told s) (plain : .StartWorkConn ∉ q.sendCh) :
    Told { s with sending := s.sending.set ctl q } :=
  ⟨before.down, forall_mem_set before.sending plain, before.begun, before.outputs⟩

theorem Told.moved {i stream : Nat} {at_ : WorkerAt} (before : Told s)
    (has : at_ = .WrapSrcWithRole ∨ at_ = .GetStream ∨ at_ = .PipePrepared → s.Started stream) :
    Told { s with handlers := s.handlers.set i (stream, at_) } :=
  ⟨before.down, before.sending, forall_mem_set before.begun has, before.outputs⟩

theorem Told.connected (before : Told s) : Told s.connected := by
  refine ⟨fun stream wire there start => ?_, before.sending, before.begun, before.outputs⟩
  rcases of_getElem?_concat there with there | ⟨_, rfl⟩
  · exact before.down stream wire there start
  · exact absurd start List.not_mem_nil

theorem Told.step (before : Told s) (served : Served s) (steps : Steps s s') : Told s' := by
  cases steps with
  | accepted => exact before.connected
  | loggingIn _ =>
    have after := before.connected
    exact ⟨after.down, after.sending, after.begun, after.outputs⟩
  | opened _ =>
    have after := before.connected
    exact ⟨after.down, after.sending, forall_mem_concat after.begun (by simp), after.outputs⟩
  | answered handles =>
    rename_i stream f
    have after : Told { s with frps := f, sending := s.sending ++ [⟨[], true⟩] } :=
      ⟨before.down, forall_mem_concat before.sending List.not_mem_nil, before.begun, before.outputs⟩
    exact after.sendDown nofun
  | asked at_ =>
    refine ⟨before.down, fun q member => ?_, before.begun, before.outputs⟩
    obtain ⟨j, there⟩ := List.mem_iff_getElem?.mp member
    rcases of_getElem?_modify there with ⟨_, there⟩ | ⟨_, old, found, rfl⟩
    · exact before.sending q (List.mem_of_getElem? there)
    · simpa using before.sending old (List.mem_of_getElem? found)
  | took at_ there workers => exact before.more (List.Subset.refl _) (List.subset_append_left ..)
  | wrote there =>
    rename_i ctl stream m rest
    have plain := before.sending _ (List.mem_of_getElem? there)
    have after : Told { s with sending := s.sending.set ctl ⟨rest, true⟩ } :=
      before.queued fun start => plain (List.mem_cons_of_mem _ start)
    exact after.sendDown fun start => absurd (start ▸ List.mem_cons_self ..) plain
  | ended there =>
    have plain := before.sending _ (List.mem_of_getElem? there)
    exact before.queued fun start => plain (List.mem_cons_of_mem _ start)
  | answers there => exact before.queued (by simpa using before.sending _ (List.mem_of_getElem? there))
  | started at_ once =>
    rename_i conn worker
    have after : Told { s with told := s.told ++ [conn] } :=
      before.more (List.subset_append_left ..) (List.Subset.refl _)
    exact after.sendDown fun _ =>
      ⟨conn, List.mem_append_right _ (List.mem_singleton_self _), served.serving conn worker at_⟩
  | received moves there first =>
    rename_i stream arrived wire c
    have after := before.taken there (List.drop_subset arrived.length wire)
    exact ⟨after.down, after.sending, after.begun, after.outputs⟩
  | hello up there =>
    rename_i i stream
    have after : Told { s with handlers := s.handlers.set i (stream, .ReadMsg) } :=
      before.moved (by simp)
    exact ⟨after.down, after.sending, after.begun, after.outputs⟩
  | heard there wire =>
    rename_i i stream m rest
    have after := before.taken wire (List.subset_cons_self m rest)
    refine after.moved fun has => ?_
    by_cases start : m = .StartWorkConn
    · exact before.down stream _ wire (start ▸ List.mem_cons_self ..)
    · rw [if_neg start] at has
      rcases has with has | has | has <;> cases has
  | wrapped there => exact before.moved fun _ => before.begun _ (List.mem_of_getElem? there) (Or.inl rfl)
  | dialled there =>
    rename_i i stream
    have started : s.Started stream := before.begun _ (List.mem_of_getElem? there) (Or.inr (Or.inl rfl))
    have after : Told { s with handlers := s.handlers.set i (stream, .PipePrepared) } :=
      before.moved fun _ => started
    exact ⟨after.down, after.sending, after.begun, forall_mem_concat after.outputs started⟩
  | stopped there => exact before.moved (by simp)
  | _ => exact ⟨before.down, before.sending, before.begun, before.outputs⟩

/-- Every worker stream has one handler, which opens at most one output. -/
structure Dialled (s : ReverseTunnel) : Prop where
  apart : (s.handlers.map Prod.fst).Nodup
  known : ∀ p ∈ s.handlers, p.1 < s.frps.streams.length
  outputs : ∀ p ∈ s.handlers, p.1 ∈ s.outputs → p.2 = .PipePrepared ∨ p.2 = .returned
  past : ∀ w ∈ s.outputs, w < s.frps.streams.length
  once : s.outputs.Nodup

theorem Dialled.moved {i stream : Nat} {at_ at' : WorkerAt} (before : Dialled s)
    (there : s.handlers[i]? = some (stream, at_))
    (past : stream ∈ s.outputs → at' = .PipePrepared ∨ at' = .returned) :
    Dialled { s with handlers := s.handlers.set i (stream, at') } where
  apart := by
    have same : (s.handlers.set i (stream, at')).map Prod.fst = s.handlers.map Prod.fst :=
      map_set_same there rfl
    change ((s.handlers.set i (stream, at')).map Prod.fst).Nodup
    rw [same]
    exact before.apart
  known := by
    have known : stream < s.frps.streams.length := before.known _ (List.mem_of_getElem? there)
    exact forall_mem_set before.known known
  outputs := forall_mem_set before.outputs past
  past := before.past
  once := before.once

/-- A handler that has not dialled yet. -/
theorem Dialled.not_yet {i stream : Nat} {at_ : WorkerAt} (before : Dialled s)
    (there : s.handlers[i]? = some (stream, at_))
    (early : at_ ≠ .PipePrepared ∧ at_ ≠ .returned) : stream ∉ s.outputs := by
  intro member
  rcases before.outputs _ (List.mem_of_getElem? there) member with past | past
  · exact early.1 past
  · exact early.2 past

theorem Dialled.dials {i stream : Nat} (before : Dialled s)
    (there : s.handlers[i]? = some (stream, .GetStream)) :
    Dialled { s with
      outputs := s.outputs ++ [stream], handlers := s.handlers.set i (stream, .PipePrepared) } := by
  have new := before.not_yet there ⟨nofun, nofun⟩
  have after : Dialled { s with handlers := s.handlers.set i (stream, .PipePrepared) } :=
    before.moved there fun _ => Or.inl rfl
  refine ⟨after.apart, after.known, fun p member dialled => ?_, forall_mem_concat after.past ?_, ?_⟩
  · rcases List.mem_append.mp dialled with dialled | here
    · exact after.outputs p member dialled
    · -- the handlers are of different streams
      obtain ⟨j, found⟩ := List.mem_iff_getElem?.mp member
      rcases of_getElem?_set found with ⟨other, found⟩ | ⟨_, rfl⟩
      · have same : (s.handlers.map Prod.fst)[i]? = (s.handlers.map Prod.fst)[j]? := by
          rw [List.getElem?_map, List.getElem?_map, there, found, Option.map_some, Option.map_some,
            List.mem_singleton.mp here]
        have below : i < (s.handlers.map Prod.fst).length := by
          rw [List.length_map]
          exact (List.getElem?_eq_some_iff.mp there).1
        exact absurd ((List.getElem?_inj below before.apart).mp same) other
      · exact Or.inl rfl
  · exact before.known _ (List.mem_of_getElem? there)
  · exact List.Nodup.append after.once (List.nodup_singleton stream) (List.disjoint_singleton.mpr new)

theorem Dialled.connected (before : Dialled s) : Dialled s.connected := by
  have more : s.frps.streams.length ≤ s.connected.frps.streams.length := by
    change _ ≤ (s.frps.streams ++ [_]).length
    rw [List.length_append]
    exact Nat.le_add_right ..
  exact ⟨before.apart, fun p member => Nat.lt_of_lt_of_le (before.known p member) more, before.outputs,
    fun w member => Nat.lt_of_lt_of_le (before.past w member) more, before.once⟩

theorem Dialled.opened (before : Dialled s) (c : frpcController) :
    Dialled { s.connected with
      frpc := c, handlers := s.handlers ++ [(s.frps.streams.length, .WriteMsg)] } := by
  have after := before.connected
  have new : s.frps.streams.length < s.connected.frps.streams.length := by
    change _ < (s.frps.streams ++ [_]).length
    rw [List.length_append]
    exact Nat.lt_succ_self _
  refine ⟨?_, forall_mem_concat after.known new, forall_mem_concat after.outputs fun member => ?_,
    after.past, after.once⟩
  · rw [List.map_append]
    refine List.Nodup.append before.apart (List.nodup_singleton _)
      (List.disjoint_singleton.mpr fun member => ?_)
    obtain ⟨p, member, same⟩ := List.mem_map.mp member
    exact absurd (before.known p member) (by rw [same]; exact Nat.lt_irrefl _)
  · exact absurd (before.past _ member) (Nat.lt_irrefl _)

theorem Dialled.step (before : Dialled s) (steps : Steps s s') : Dialled s' := by
  have same {f : Frps} (streams : f.streams.length = s.frps.streams.length) :
      Dialled { s with frps := f } :=
    ⟨before.apart, by simp only [streams]; exact before.known, before.outputs,
      by simp only [streams]; exact before.past, before.once⟩
  cases steps with
  | accepted => exact before.connected
  | loggingIn _ =>
    have after := before.connected
    exact ⟨after.apart, after.known, after.outputs, after.past, after.once⟩
  | opened _ =>
    have after := before.opened s.frpc
    exact ⟨after.apart, after.known, after.outputs, after.past, after.once⟩
  | handled up handles =>
    have after := same handles.rest.1
    exact ⟨after.apart, after.known, after.outputs, after.past, after.once⟩
  | answered handles =>
    have after := same handles.rest.1
    exact ⟨after.apart, after.known, after.outputs, after.past, after.once⟩
  | served at_ => exact same (List.length_modify ..)
  | aside aside => exact same aside.streams
  | hello up there =>
    rename_i i stream
    have after : Dialled { s with handlers := s.handlers.set i (stream, .ReadMsg) } :=
      before.moved there fun member => absurd member (before.not_yet there ⟨nofun, nofun⟩)
    exact ⟨after.apart, after.known, after.outputs, after.past, after.once⟩
  | heard there wire =>
    rename_i i stream m rest
    have after : Dialled { s with
        handlers := s.handlers.set i
          (stream, if m = .StartWorkConn then .WrapSrcWithRole else .returned) } :=
      before.moved there fun member => absurd member (before.not_yet there ⟨nofun, nofun⟩)
    exact ⟨after.apart, after.known, after.outputs, after.past, after.once⟩
  | wrapped there =>
    exact before.moved there fun member => absurd member (before.not_yet there ⟨nofun, nofun⟩)
  | dialled there => exact before.dials there
  | stopped there => exact before.moved there fun _ => Or.inr rfl
  | _ => exact ⟨before.apart, before.known, before.outputs, before.past, before.once⟩

/-- Business connections, workers and outputs belong together one to one. -/
structure Paired (s : ReverseTunnel) : Prop where
  serving : ∀ (c w : Nat), s.frps.business[c]? = some (.serving w) → (c, w) ∈ s.handed
  connections : (s.handed.map Prod.fst).Nodup
  workers : (s.handed.map Prod.snd).Nodup
  outputs : ∀ w ∈ s.outputs, ∃ c ∈ s.told, (c, w) ∈ s.handed
  once : s.outputs.Nodup
  bound : s.outputs.length ≤ s.frps.business.length

structure Sound (s : ReverseTunnel) : Prop where
  once : Once s
  served : Served s
  told : Told s
  dialled : Dialled s

theorem sound_reachable (reachable : system.Reachable s) : Sound s := by
  refine reachable.invariant Sound ?_ fun s e s' sound next => ?_
  · rintro _ rfl
    exact ⟨⟨fun _ => Nat.zero_le 1, fun _ _ => rfl⟩, ⟨nofun, nofun, .nil⟩,
      ⟨nofun, nofun, nofun, nofun⟩, ⟨.nil, nofun, nofun, nofun, .nil⟩⟩
  · have steps := step_steps next
    exact ⟨sound.once.step steps, sound.served.step steps, sound.told.step sound.served steps,
      sound.dialled.step steps⟩

/-- In every run of the two ends, whatever is lost, delayed or said by others: no two business
connections are given one worker, and `Frpc` opens an output only for a worker that was given to one
of them and told to start by it, and one for each. -/
theorem reverse_paired (reachable : system.Reachable s) : Paired s := by
  have sound := sound_reachable reachable
  have workers : (s.handed.map Prod.snd).Nodup :=
    List.nodup_iff_count_le_one.mpr fun w => Nat.le_trans (Nat.le_add_right ..) (sound.once.once w)
  have given (w : Nat) (member : w ∈ s.outputs) : w ∈ s.handed.map Prod.snd := by
    obtain ⟨c, _, handed⟩ := sound.told.outputs w member
    exact List.mem_map_of_mem (f := Prod.snd) handed
  have known : s.handed.map Prod.fst ⊆ List.range s.frps.business.length := by
    intro c member
    obtain ⟨p, handed, rfl⟩ := List.mem_map.mp member
    rcases sound.served.handed p handed with there | there <;>
      exact List.mem_range.mpr (List.getElem?_eq_some_iff.mp there).1
  refine ⟨sound.served.serving, sound.served.conns, workers, sound.told.outputs, sound.dialled.once, ?_⟩
  calc s.outputs.length
      ≤ (s.handed.map Prod.snd).length := sound.dialled.once.length_le_of_subset given
    _ = (s.handed.map Prod.fst).length := by rw [List.length_map, List.length_map]
    _ ≤ (List.range s.frps.business.length).length := sound.served.conns.length_le_of_subset known
    _ = s.frps.business.length := List.length_range

/-- `Frpc` logs in, is asked for workers, and one of them serves a business connection. -/
def servesOne : List Event :=
  [.frpc (.run true []), .frpc (.run true []), .frpc (.run true []), .frpc (.run true []),
    .frps (.read 0 (some (.Login "0.0.1"))), .frps (.handler 0 true), .frps (.handler 0 true),
    .frpc (.run true [.LoginResp "" ""]), .frpc (.run true []),
    .frps .connect, .frps (.business 0 true), .frps (.business 0 true), .doWriteLoop 0 true,
    .frpc (.run true [.ReqWorkConn 10]), .frpc (.run true []), .frpc (.run true []), .worker 0 true true,
    .frps (.read 1 (some .NewWorkConn)), .frps (.handler 1 true), .frps (.handler 1 true),
    .frps (.business 0 true), .sayStart 0, .worker 0 true true, .worker 0 true true, .worker 0 true true]

theorem reverse_paired_servesOne :
    ∃ s, Paired s ∧ s.handed = [(0, 1)] ∧ s.told = [0] ∧ s.outputs = [1] := by
  have played : (system.play (fun _ _ => true) servesOne .start).any (fun s =>
      decide (s.handed = [(0, 1)] ∧ s.told = [0] ∧ s.outputs = [1])) = true := by decide
  obtain ⟨s, reached, sees⟩ := (Option.any_eq_true _ _).mp played
  have reachable : system.Reachable s := .of_play rfl reached
  exact ⟨s, reverse_paired reachable, of_decide_eq_true sees⟩

end Gotun.Tun.ReverseTunnel
