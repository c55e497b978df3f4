import Gotun.Lib.System
import Mathlib.Data.List.Basic
import Mathlib.Data.List.Nodup

/-! `pkg/probehistory/store.go`: probe records go through a queue into a batch, and from there into
the table, each batch in one transaction. The pruning of old rows comes with the queries. -/

namespace Gotun.ProbeHistory

open Gotun.Lib

/-- Times are nanoseconds, and strings that are cut are bytes. -/
structure Record where
  TunnelUUID : String
  Time : Int
  Kind : String
  RouteUUID : String
  RouteName : String
  Status : String
  DurationMS : Int
  Connectivity : String
  Error : List UInt8
  deriving DecidableEq, Repr

/-- The range of the second byte of a rune. -/
def second (first : UInt8) : UInt8 × UInt8 :=
  if first = 0xE0 then (0xA0, 0xBF)
  else if first = 0xED then (0x80, 0x9F)
  else if first = 0xF0 then (0x90, 0xBF)
  else if first = 0xF4 then (0x80, 0x8F)
  else (0x80, 0xBF)

def continues (b : UInt8) : Bool := 0x80 ≤ b ∧ b ≤ 0xBF

/-- The length of the rune that the bytes begin with, or zero. -/
def runeLen : List UInt8 → Nat
  | [] => 0
  | a :: rest =>
    let fits (b : UInt8) : Bool := (second a).1 ≤ b ∧ b ≤ (second a).2
    if a < 0x80 then 1
    else if 0xC2 ≤ a ∧ a ≤ 0xDF then match rest with
      | b :: _ => if fits b then 2 else 0
      | _ => 0
    else if 0xE0 ≤ a ∧ a ≤ 0xEF then match rest with
      | b :: c :: _ => if fits b ∧ continues c then 3 else 0
      | _ => 0
    else if 0xF0 ≤ a ∧ a ≤ 0xF4 then match rest with
      | b :: c :: d :: _ => if fits b ∧ continues c ∧ continues d then 4 else 0
      | _ => 0
    else 0

/-- The bytes that belong to no rune are dropped; `left` bytes of the rune at hand are to come. -/
def toValidUTF8 (left : Nat) : List UInt8 → List UInt8
  | [] => []
  | b :: rest =>
    match left, runeLen (b :: rest) with
    | left + 1, _ => b :: toValidUTF8 left rest
    | 0, n + 1 => b :: toValidUTF8 n rest
    | 0, 0 => toValidUTF8 0 rest

/-- The record as it is queued. -/
def Record.prepared (record : Record) (now : Int) : Record :=
  { record with
    Time := if record.Time = 0 then now else record.Time
    Error := if 2048 < record.Error.length then toValidUTF8 0 (record.Error.take 2048)
      else record.Error }

/-- A record with the number of the `Record` call that accepted it. -/
structure Entry where
  call : Nat
  record : Record
  deriving DecidableEq, Repr

inductive writeRequest where
  | record (entry : Entry)
  | flush (call : Nat)
  deriving DecidableEq, Repr

/-- A `Flush` that was queued after `before` records were accepted; it returns nil or an error. -/
structure FlushCall where
  before : Nat
  returned : Option Bool
  deriving DecidableEq, Repr

/-- Where the writing loop is. -/
inductive Runner where
  | loop
  | flush (reply : Option Nat)
  | finish (waiters : List Nat)
  | flushLast (waiters : List Nat)
  | done (ok : Bool)
  deriving DecidableEq, Repr

/-- `accepted` are the records for which `Record` returned nil, in that order. -/
structure Store where
  queue : List writeRequest
  batch : List Entry
  table : List Entry
  closed : Bool
  runner : Runner
  accepted : List Entry
  flushes : List FlushCall
  deriving DecidableEq, Repr

def queueSize : Nat := 4096

inductive Event where
  | Record (record : Record) (now : Int)
  | Flush
  | giveUp (call : Nat)
  | Close
  | receive
  | stopping
  | tick
  | insert (ok : Bool)
  | drain
  | closeDB (inserted closed : Bool)
  deriving DecidableEq, Repr

namespace Store

def opened : Store := ⟨[], [], [], false, .loop, [], []⟩

def Record (s : Store) (record : Record) (now : Int) : Except String Store :=
  if record.TunnelUUID = "" then .error "探测历史缺少隧道 UUID"
  else if s.closed then .error "探测历史已关闭"
  else if s.queue.length < queueSize then
    let entry : Entry := ⟨s.accepted.length, record.prepared now⟩
    .ok { s with queue := s.queue ++ [.record entry], accepted := s.accepted ++ [entry] }
  else .error "探测历史写入队列已满"

/-- The closure `flush` of the loop, with whether the transaction commits; nil is `true`. -/
def flush (s : Store) (ok : Bool) : Store × Bool :=
  if s.batch = [] then (s, true)
  else if ok then ({ s with table := s.table ++ s.batch, batch := [] }, true)
  else (s, false)

/-- A caller that has given up does not see the answer. -/
def answer (s : Store) (calls : List Nat) (ok : Bool) : Store :=
  { s with flushes := calls.foldl (fun flushes call => flushes.modify call fun c =>
      { c with returned := c.returned.or (some ok) }) s.flushes }

/-- Take over a request of the queue. -/
def take (s : Store) (rest : List writeRequest) : writeRequest → Store
  | .record entry => { s with queue := rest, batch := s.batch ++ [entry] }
  | .flush _ => { s with queue := rest }

def step (s : Store) : Event → Option Store
  | .Record record now => match s.Record record now with
    | .ok s' => some s'
    | .error _ => some s
  -- a flush waits while the queue is full
  | .Flush =>
    if s.closed then some s
    else if s.queue.length < queueSize then some { s with
      queue := s.queue ++ [.flush s.flushes.length]
      flushes := s.flushes ++ [⟨s.accepted.length, none⟩] }
    else none
  | .giveUp call => some (s.answer [call] false)
  | .Close => some { s with closed := true }
  | .receive => match s.runner with
    | .loop =>
      if s.batch.length < 4096 then match s.queue with
        | .record entry :: rest =>
          let s := s.take rest (.record entry)
          some { s with runner := if 256 ≤ s.batch.length then .flush none else .loop }
        | .flush call :: rest => some { s.take rest (.flush call) with runner := .flush (some call) }
        | [] => if s.closed then some { s with runner := .finish [] } else none
      else none
    | _ => none
  | .stopping => match s.runner with
    | .loop => if s.closed then some { s with runner := .finish [] } else none
    | _ => none
  | .tick => match s.runner with
    | .loop => some { s with runner := .flush none }
    | _ => none
  | .insert ok => match s.runner with
    | .flush reply => some { (s.flush ok).1.answer reply.toList (s.flush ok).2 with runner := .loop }
    | _ => none
  | .drain => match s.runner with
    | .finish waiters => match s.queue with
      | .record entry :: rest => some (s.take rest (.record entry))
      | .flush call :: rest =>
        some { s.take rest (.flush call) with runner := .finish (waiters ++ [call]) }
      | [] => some { s with runner := .flushLast waiters }
    | _ => none
  | .closeDB inserted closed => match s.runner with
    | .flushLast waiters =>
      let ok := (s.flush inserted).2 && closed
      some { (s.flush inserted).1.answer waiters ok with runner := .done ok }
    | _ => none

def system : System Store Event where
  start s := s = opened
  step := step

/-! Where the records are. -/

def queued : List writeRequest → List Entry
  | [] => []
  | .record entry :: rest => entry :: queued rest
  | .flush _ :: rest => queued rest

theorem queued_append (queue queue' : List writeRequest) :
    queued (queue ++ queue') = queued queue ++ queued queue' := by
  induction queue with
  | nil => rfl
  | cons request rest ih =>
    cases request with
    | record entry => exact congrArg (entry :: ·) ih
    | flush call => exact ih

/-- The flush was queued when no more than `n` records had been accepted. -/
def Answerable (flushes : List FlushCall) (n call : Nat) : Prop :=
  ∃ before ≤ n, (flushes.map FlushCall.before)[call]? = some before

/-- Before a flush of the queue come all the records that were accepted before it, `n` of them
outside of the queue. -/
def Covered (flushes : List FlushCall) : Nat → List writeRequest → Prop
  | _, [] => True
  | n, .record _ :: rest => Covered flushes (n + 1) rest
  | n, .flush call :: rest => Answerable flushes n call ∧ Covered flushes n rest

theorem Answerable.mono {flushes flushes' : List FlushCall} {n n' call : Nat}
    (answerable : Answerable flushes n call) (more : n ≤ n')
    (same : flushes.map FlushCall.before <+: flushes'.map FlushCall.before) :
    Answerable flushes' n' call := by
  obtain ⟨before, below, there⟩ := answerable
  obtain ⟨later, same⟩ := same
  refine ⟨before, Nat.le_trans below more, ?_⟩
  rw [← same, List.getElem?_append_left (List.getElem?_eq_some_iff.mp there).1, there]

theorem Covered.mono {flushes flushes' : List FlushCall}
    (same : flushes.map FlushCall.before <+: flushes'.map FlushCall.before) {n : Nat}
    {queue : List writeRequest} (covered : Covered flushes n queue) : Covered flushes' n queue := by
  induction queue generalizing n with
  | nil => trivial
  | cons request rest ih =>
    cases request with
    | record entry => exact ih covered
    | flush call => exact ⟨covered.1.mono (Nat.le_refl n) same, ih covered.2⟩

theorem Covered.append {flushes : List FlushCall} {n : Nat} {queue : List writeRequest}
    (covered : Covered flushes n queue) {queue' : List writeRequest}
    (last : Covered flushes (n + (queued queue).length) queue') :
    Covered flushes n (queue ++ queue') := by
  induction queue generalizing n with
  | nil => exact last
  | cons request rest ih =>
    cases request with
    | record entry =>
      refine ih covered ?_
      rwa [queued, List.length_cons, Nat.add_comm _ 1, ← Nat.add_assoc] at last
    | flush call => exact ⟨covered.1, ih covered.2 last⟩

end Store

/-- The loop takes requests one by one. -/
def Runner.serving : Runner → Bool
  | .loop | .flush _ => true
  | .finish _ | .flushLast _ | .done _ => false

/-- The flushes that have been taken from the queue and have no answer. -/
def Runner.waiting : Runner → List Nat
  | .flush reply => reply.toList
  | .finish waiters | .flushLast waiters => waiters
  | .loop | .done _ => []

def Runner.drained : Runner → Bool
  | .flushLast _ | .done _ => true
  | .loop | .flush _ | .finish _ => false

theorem Runner.serving_of_drained {runner : Runner}
    (drained : runner.drained = true) : runner.serving = false := by
  cases runner <;> first | rfl | contradiction

namespace Store

/-- The records that have been taken from the queue. -/
def taken (s : Store) : Nat := s.table.length + s.batch.length

structure Sound (s : Store) : Prop where
  kept : s.accepted = s.table ++ s.batch ++ queued s.queue
  numbered : s.accepted.map Entry.call = List.range s.accepted.length
  bounded : s.runner.serving = true → s.batch.length ≤ 4096
  closing : s.runner.serving = false → s.closed = true
  covered : Covered s.flushes s.taken s.queue
  waiting : ∀ call ∈ s.runner.waiting, Answerable s.flushes s.taken call
  answered : ∀ c ∈ s.flushes, c.returned = some true → c.before ≤ s.table.length
  drained : s.runner.drained = true → s.queue = []
  written : s.runner = .done true → s.batch = []

theorem Sound.opened : Sound opened where
  kept := rfl
  numbered := rfl
  bounded _ := Nat.zero_le _
  closing := nofun
  covered := trivial
  waiting _ := nofun
  answered _ := nofun
  drained := nofun
  written := nofun

variable {s s' : Store}

theorem Sound.taken_add (sound : Sound s) : s.accepted.length = s.taken + (queued s.queue).length := by
  rw [sound.kept, List.length_append, List.length_append, taken]

/-! One lemma for each kind of step. -/

theorem Sound.Record (sound : Sound s) {record : ProbeHistory.Record} {now : Int}
    (accepted : s.Record record now = .ok s') :
    Sound s' := by
  unfold Store.Record at accepted
  split_ifs at accepted with unnamed closed room
  cases accepted
  refine ⟨?_, ?_, sound.bounded, sound.closing, ?_, sound.waiting, sound.answered, ?_, sound.written⟩
  · rw [queued_append, ← List.append_assoc, ← sound.kept]
    rfl
  · rw [List.map_append, sound.numbered, List.length_append, List.length_singleton, List.range_succ]
    rfl
  · exact sound.covered.append trivial
  · exact fun drained => absurd (sound.closing (Runner.serving_of_drained drained)) closed

theorem Sound.Flush (sound : Sound s) (live : s.closed ≠ true) : Sound { s with
    queue := s.queue ++ [.flush s.flushes.length]
    flushes := s.flushes ++ [⟨s.accepted.length, none⟩] } := by
  have same : s.flushes.map FlushCall.before <+:
      (s.flushes ++ [FlushCall.mk s.accepted.length none]).map FlushCall.before :=
    List.map_append ▸ List.prefix_append _ _
  refine ⟨?_, sound.numbered, sound.bounded, sound.closing, ?_,
    fun call member => (sound.waiting call member).mono (Nat.le_refl _) same, ?_, ?_, sound.written⟩
  · rw [queued_append]
    exact sound.kept.trans (congrArg _ (List.append_nil _).symm)
  · refine (sound.covered.mono same).append
      ⟨⟨s.accepted.length, Nat.le_of_eq sound.taken_add, ?_⟩, trivial⟩
    rw [List.map_append, List.getElem?_append_right (Nat.le_of_eq (List.length_map _)),
      List.length_map, Nat.sub_self]
    rfl
  · intro c member returned
    rcases List.mem_append.mp member with old | new
    · exact sound.answered c old returned
    · rw [List.mem_singleton.mp new] at returned
      contradiction
  · exact fun drained => absurd (sound.closing (Runner.serving_of_drained drained)) live

theorem answer_one (s : Store) (call : Nat) (ok : Bool) (i : Nat) :
    (s.answer [call] ok).flushes[i]? =
      s.flushes[i]?.map fun c =>
        if call = i then { c with returned := c.returned.or (some ok) } else c := by
  change (s.flushes.modify call _)[i]? = _
  rw [List.getElem?_modify]
  rfl

/-- An answer reaches the calls that it is for and that have not returned. -/
theorem answer_returned (s : Store) (calls : List Nat) (ok : Bool) {i : Nat} {c' : FlushCall}
    (there : (s.answer calls ok).flushes[i]? = some c') :
    ∃ c, s.flushes[i]? = some c ∧ c'.before = c.before ∧
      (c'.returned = c.returned ∨ i ∈ calls ∧ c'.returned = some ok) := by
  induction calls generalizing s with
  | nil => exact ⟨c', there, rfl, .inl rfl⟩
  | cons call rest ih =>
    obtain ⟨c, before, same, returned⟩ := ih (s.answer [call] ok) there
    rw [answer_one] at before
    obtain ⟨c₀, first, rfl⟩ := Option.map_eq_some_iff.mp before
    refine ⟨c₀, first, ?_, ?_⟩
    · rw [same]
      split <;> rfl
    · rcases returned with kept | ⟨later, answered⟩
      · by_cases here : call = i
        · rw [if_pos here] at kept
          cases held : c₀.returned with
          | none => exact .inr ⟨here ▸ List.mem_cons_self, by rw [kept, held]; rfl⟩
          | some result => exact .inl (by rw [kept, held]; rfl)
        · rw [if_neg here] at kept
          exact .inl kept
      · exact .inr ⟨List.mem_cons_of_mem _ later, answered⟩

theorem answer_before (s : Store) (calls : List Nat) (ok : Bool) :
    (s.answer calls ok).flushes.map FlushCall.before = s.flushes.map FlushCall.before := by
  induction calls generalizing s with
  | nil => rfl
  | cons call rest ih =>
    refine (ih (s.answer [call] ok)).trans (List.ext_getElem? fun i => ?_)
    rw [List.getElem?_map, List.getElem?_map, answer_one, Option.map_map]
    congr 1
    funext c
    dsimp only [Function.comp]
    split <;> rfl

/-- What the closure `flush` does to the table and the batch. -/
structure Flushed (s : Store) (table batch : List Entry) (nil : Bool) : Prop where
  kept : table ++ batch = s.table ++ s.batch
  grows : s.table.length ≤ table.length
  shrinks : batch.length ≤ s.batch.length
  written : nil = true → batch = []

theorem flush_flushed (s : Store) (ok : Bool) :
    ∃ table batch, (s.flush ok).1 = { s with table := table, batch := batch } ∧
      Flushed s table batch (s.flush ok).2 := by
  unfold flush
  split_ifs with empty commits
  · exact ⟨s.table, s.batch, rfl, rfl, Nat.le_refl _, Nat.le_refl _, fun _ => empty⟩
  · exact ⟨_, _, rfl, List.append_nil _, by rw [List.length_append]; omega, Nat.zero_le _, fun _ => rfl⟩
  · exact ⟨s.table, s.batch, rfl, rfl, Nat.le_refl _, Nat.le_refl _, nofun⟩

/-- A flush and the answers to those who wait for it. -/
theorem Sound.flush_answer (sound : Sound s) {table batch : List Entry} {nil : Bool}
    (flushed : Flushed s table batch nil) {ok : Bool} (good : ok = true → nil = true)
    (runner : Runner) (serving : runner.serving = s.runner.serving) (quiet : runner.waiting = [])
    (drained : runner.drained = true → s.runner.drained = true)
    (done : runner = .done true → ok = true) :
    Sound { Store.answer { s with table := table, batch := batch } s.runner.waiting ok with
      runner := runner } := by
  have same := answer_before { s with table := table, batch := batch } s.runner.waiting ok
  have taken : table.length + batch.length = s.taken := by
    rw [← List.length_append, flushed.kept, List.length_append, Store.taken]
  refine ⟨?_, sound.numbered, ?_, ?_, ?_, ?_, ?_, ?_, ?_⟩
  · exact sound.kept.trans (congrArg (· ++ queued s.queue) flushed.kept.symm)
  · exact fun serves => Nat.le_trans flushed.shrinks (sound.bounded (serving ▸ serves))
  · exact fun stops => sound.closing (serving ▸ stops)
  · have covered := sound.covered.mono ⟨[], (List.append_nil _).trans same.symm⟩
    rw [← taken] at covered
    exact covered
  · rw [quiet]
    nofun
  · intro c member returned
    obtain ⟨i, there⟩ := List.mem_iff_getElem?.mp member
    obtain ⟨c₀, before, equal, answer⟩ := answer_returned _ _ _ there
    rw [equal]
    rcases answer with kept | ⟨waited, answered⟩
    · exact Nat.le_trans
        (sound.answered c₀ (List.mem_of_getElem? before) (kept ▸ returned)) flushed.grows
    · -- a nil is answered only when the batch is in the table
      obtain rfl := Option.some.inj (returned.symm.trans answered)
      obtain ⟨count, below, at_⟩ := sound.waiting i waited
      rw [List.getElem?_map, show s.flushes[i]? = some c₀ from before] at at_
      cases at_
      rw [← taken, flushed.written (good rfl)] at below
      exact below
  · exact fun drains => sound.drained (drained drains)
  · exact fun last => flushed.written (good (done last))

/-- A record leaves the queue for the batch. -/
theorem Sound.take_record (sound : Sound s) {entry : Entry} {rest : List writeRequest}
    (first : s.queue = .record entry :: rest) {runner : Runner}
    (serving : runner.serving = s.runner.serving) (waits : runner.waiting = s.runner.waiting)
    (more : runner.serving = true → s.batch.length < 4096) (pending : runner.drained = false) :
    Sound { s.take rest (.record entry) with runner := runner } := by
  have taken : s.table.length + (s.batch ++ [entry]).length = s.taken + 1 := by
    rw [List.length_append, List.length_singleton, ← Nat.add_assoc, Store.taken]
  refine ⟨?_, sound.numbered, fun serves => ?_, fun stops => sound.closing (serving ▸ stops), ?_,
    ?_, sound.answered, ?_, ?_⟩
  · have kept := sound.kept
    rw [first, queued, List.append_cons, List.append_assoc s.table] at kept
    exact kept
  · have below := more serves
    refine Nat.le_trans (Nat.le_of_eq (List.length_append ..)) ?_
    rw [List.length_singleton]
    omega
  · have covered := sound.covered
    rw [first, Covered, ← taken] at covered
    exact covered
  · intro call member
    refine (sound.waiting call (waits ▸ member)).mono ?_ List.prefix_rfl
    exact Nat.le_trans (Nat.le_succ _) (Nat.le_of_eq taken.symm)
  · exact fun drained => absurd (pending.symm.trans drained) nofun
  · intro last
    have drained : runner.drained = true := congrArg Runner.drained last
    exact absurd (pending.symm.trans drained) nofun

/-- A flush leaves the queue, and waits for its answer. -/
theorem Sound.take_flush (sound : Sound s) {call : Nat} {rest : List writeRequest}
    (first : s.queue = .flush call :: rest) {runner : Runner}
    (serving : runner.serving = s.runner.serving)
    (waits : ∀ c ∈ runner.waiting, c = call ∨ c ∈ s.runner.waiting)
    (pending : runner.drained = false) :
    Sound { s.take rest (.flush call) with runner := runner } := by
  have covered := sound.covered
  rw [first, Covered] at covered
  refine ⟨?_, sound.numbered, fun serves => sound.bounded (serving ▸ serves),
    fun stops => sound.closing (serving ▸ stops), covered.2, ?_, sound.answered, ?_, ?_⟩
  · have kept := sound.kept
    rw [first, queued] at kept
    exact kept
  · intro c member
    rcases waits c member with rfl | old
    · exact covered.1
    · exact sound.waiting c old
  · exact fun drained => absurd (pending.symm.trans drained) nofun
  · intro last
    have drained : runner.drained = true := congrArg Runner.drained last
    exact absurd (pending.symm.trans drained) nofun

/-- A caller whose context ends does not see a nil. -/
theorem Sound.give_up (sound : Sound s) (call : Nat) : Sound (s.answer [call] false) := by
  have same : s.flushes.map FlushCall.before <+: (s.answer [call] false).flushes.map FlushCall.before :=
    ⟨[], (List.append_nil _).trans (answer_before s [call] false).symm⟩
  refine ⟨sound.kept, sound.numbered, sound.bounded, sound.closing, sound.covered.mono same,
    fun c member => (sound.waiting c member).mono (Nat.le_refl _) same, fun c member returned => ?_,
      sound.drained, sound.written⟩
  obtain ⟨i, there⟩ := List.mem_iff_getElem?.mp member
  obtain ⟨c₀, before, equal, answer⟩ := answer_returned s [call] false there
  rcases answer with kept | ⟨_, answered⟩
  · rw [equal]
    exact sound.answered c₀ (List.mem_of_getElem? before) (kept ▸ returned)
  · exact absurd (returned.symm.trans answered) nofun

/-- The loop goes on, or the store is closed and the loop ends. -/
theorem Sound.turn (sound : Sound s) {runner : Runner}
    (quiet : ∀ call ∈ runner.waiting, call ∈ s.runner.waiting)
    (serving : runner.serving = true → s.runner.serving = true)
    (closing : runner.serving = false → s.closed = true)
    (drained : runner.drained = true → s.queue = []) (last : runner ≠ .done true) :
    Sound { s with runner := runner } :=
  ⟨sound.kept, sound.numbered, fun serves => sound.bounded (serving serves), closing, sound.covered,
    fun call member => sound.waiting call (quiet call member), sound.answered, drained,
      fun done => absurd done last⟩

theorem Sound.step (sound : Sound s) {e : Event} (next : s.step e = some s') : Sound s' := by
  cases e with
  | Record record now =>
    simp only [Store.step] at next
    split at next
    · rename_i accepted
      cases next
      exact sound.Record accepted
    · cases next
      exact sound
  | Flush =>
    simp only [Store.step] at next
    split_ifs at next with closed room
    · cases next
      exact sound
    · cases next
      exact sound.Flush closed
  | giveUp call =>
    cases next
    exact sound.give_up call
  | Close =>
    cases next
    exact ⟨sound.kept, sound.numbered, sound.bounded, fun _ => rfl, sound.covered, sound.waiting,
      sound.answered, sound.drained, sound.written⟩
  | receive =>
    simp only [Store.step] at next
    split at next
    · rename_i at_
      split at next
      · rename_i room
        split at next
        · rename_i entry rest first
          cases next
          refine sound.take_record first ?_ ?_ (fun _ => room) ?_
          · rw [at_]
            split <;> rfl
          · rw [at_]
            split <;> rfl
          · split <;> rfl
        · rename_i call rest first
          cases next
          refine sound.take_flush first (by rw [at_]; rfl) (fun c member => ?_) rfl
          exact .inl (List.mem_singleton.mp member)
        · split_ifs at next with closed
          cases next
          exact sound.turn nofun nofun (fun _ => closed) nofun nofun
      · contradiction
    · contradiction
  | stopping =>
    simp only [Store.step] at next
    split at next
    · split_ifs at next with closed
      cases next
      exact sound.turn nofun nofun (fun _ => closed) nofun nofun
    · contradiction
  | tick =>
    simp only [Store.step] at next
    split at next
    · rename_i at_
      cases next
      exact sound.turn nofun (fun _ => by rw [at_]; rfl) nofun nofun nofun
    · contradiction
  | insert ok =>
    simp only [Store.step] at next
    split at next
    · rename_i reply at_
      cases next
      obtain ⟨table, batch, same, flushed⟩ := flush_flushed s ok
      have answered := sound.flush_answer flushed id .loop (by rw [at_]; rfl) rfl nofun nofun
      rw [at_] at answered
      rw [same]
      exact answered
    · contradiction
  | drain =>
    simp only [Store.step] at next
    split at next
    · rename_i waiters at_
      split at next
      · rename_i entry rest first
        cases next
        have closing : s.runner.serving = false := by rw [at_]; rfl
        refine sound.take_record first rfl rfl ?_ (by rw [at_]; rfl)
        exact fun serves => absurd (closing.symm.trans serves) nofun
      · rename_i call rest first
        cases next
        refine sound.take_flush first (by rw [at_]; rfl) (fun c member => ?_) rfl
        rcases List.mem_append.mp member with old | new
        · exact .inr (by rw [at_]; exact old)
        · exact .inl (List.mem_singleton.mp new)
      · rename_i empty
        cases next
        refine sound.turn (fun call member => by rw [at_]; exact member) nofun
          (fun _ => sound.closing (by rw [at_]; rfl)) (fun _ => empty) nofun
    · contradiction
  | closeDB inserted closed =>
    simp only [Store.step] at next
    split at next
    · rename_i waiters at_
      cases next
      obtain ⟨table, batch, same, flushed⟩ := flush_flushed s inserted
      have good : ((s.flush inserted).2 && closed) = true → (s.flush inserted).2 = true :=
        fun both => (Bool.and_eq_true_iff.mp both).1
      have answered := sound.flush_answer flushed good (.done ((s.flush inserted).2 && closed))
        (by rw [at_]; rfl) rfl (fun _ => by rw [at_]; rfl) (fun last => Runner.done.inj last)
      rw [at_] at answered
      rw [same]
      exact answered
    · contradiction

theorem sound_of_reachable (reachable : system.Reachable s) : Sound s := by
  refine reachable.invariant Sound ?_ fun _ _ _ sound next => sound.step next
  rintro s rfl
  exact .opened

/-- What the store promises: every accepted record is in one place, once; the table is filled in the
order of the calls; the batch is bounded; and a nil of `Flush` or `Close` means that the records are
in the table. -/
structure Intact (s : Store) : Prop where
  distinct : (s.accepted.map Entry.call).Nodup
  kept : s.accepted = s.table ++ s.batch ++ queued s.queue
  once : ∀ entry ∈ s.accepted,
    (queued s.queue).count entry + s.batch.count entry + s.table.count entry = 1
  ordered : s.table <+: s.accepted
  bounded : s.closed = false → s.batch.length ≤ 4096
  flushed : ∀ c ∈ s.flushes, c.returned = some true → s.accepted.take c.before <+: s.table
  closed : s.runner = .done true → s.table = s.accepted

/-- In every run of callers and writer, no record is lost or written twice. -/
theorem records_intact (reachable : system.Reachable s) : Intact s := by
  have sound := sound_of_reachable reachable
  have distinct : (s.accepted.map Entry.call).Nodup := sound.numbered ▸ List.nodup_range
  have ordered : s.table <+: s.accepted := by
    rw [sound.kept, List.append_assoc]
    exact List.prefix_append _ _
  refine ⟨distinct, sound.kept, fun entry member => ?_, ordered, fun open_ => ?_,
    fun c member returned => ?_, fun last => ?_⟩
  · have single := List.count_eq_one_of_mem (List.Nodup.of_map _ distinct) member
    rw [sound.kept, List.count_append, List.count_append] at single
    omega
  · cases serving : s.runner.serving with
    | true => exact sound.bounded serving
    | false => exact absurd (open_.symm.trans (sound.closing serving)) nofun
  · exact List.prefix_of_prefix_length_le (List.take_prefix _ _) ordered
      (Nat.le_trans (List.length_take_le _ _) (sound.answered c member returned))
  · rw [sound.kept, sound.written last, sound.drained (by rw [last]; rfl), queued,
      List.append_nil, List.append_nil]

def probe : ProbeHistory.Record := ⟨"a", 7, "frame", "", "", "normal", 3, "", []⟩

/-- The first transaction fails, the second commits; then another record comes and the store is
closed. -/
def retried : List Event :=
  [.Record probe 1, .Flush, .receive, .receive, .insert false, .Flush, .receive, .insert true,
    .Record probe 2, .Close,
    .stopping, .drain, .drain, .closeDB true true]

theorem records_intact_retried :
    ∃ s, system.Reachable s ∧ s.table.length = 2 ∧ s.flushes = [⟨1, some false⟩, ⟨1, some true⟩] ∧
      s.runner = .done true ∧
      Intact s := by
  have played : (system.play (fun _ _ => true) retried opened).any (fun s => s.table.length = 2 ∧
      s.flushes = [⟨1, some false⟩, ⟨1, some true⟩] ∧ s.runner = .done true) = true := by
    decide +kernel
  obtain ⟨s, run, seen⟩ := System.Run.of_play rfl played
  have reachable : system.Reachable s := ⟨retried, run.mono fun _ _ _ => trivial⟩
  obtain ⟨two, flushes, done⟩ := of_decide_eq_true seen
  exact ⟨s, reachable, two, flushes, done, records_intact reachable⟩

end Store

end Gotun.ProbeHistory
