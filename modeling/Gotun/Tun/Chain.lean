import Gotun.Tun.HandOver

/-! Tunnels one behind the other. Each takes the head of `tun/input_tcp.go` off the stream of the
link behind it, puts that of `tun/output_tcp.go` on the stream of the link before it and copies
between the two, as `handleInputStream` of `tun/server.go` does. Neighbours agree on head, mode, key
and frames of the link between them. -/

namespace Gotun.Tun
open Gotun.Lib Gotun.Core Gotun.Crypto

variable {σ : Type}

/-! Heads. -/

/-- The text of the error also shows the bytes that came instead. -/
def tcpTrimHead (S : Stream σ) (str : Bytes) : Action σ Unit :=
  if str = [] then pure ()
  else do
    let data ← readFull S str.length
    if data = str then pure () else .fail (.failed "head trim not match")

def tcpHeadAppend (S : Stream σ) (str : Bytes) : Action σ Unit :=
  if str = [] then pure ()
  else fun s =>
    match (S.write str s).err with
    | some e => (.error e, (S.write str s).next)
    | none =>
      if (S.write str s).n ≠ str.length then (.error (.failed "short write"), (S.write str s).next)
      else (.ok (), (S.write str s).next)

/-- `dialTCP`, from the connection on. -/
def dialTCP (S : Stream σ) (head : Bytes) (conn : σ) : Except Err σ :=
  match tcpHeadAppend S head conn with
  | (.error e, _) => .error e
  | (.ok _, conn) => .ok conn

/-- What comes after a head is left on the stream. -/
theorem tcpTrimHead_whole {S : Stream σ} {Holds : σ → Bytes → Prop} (delivers : Delivers S Holds)
    (head : Bytes) {s : σ} {w : Bytes} (held : Holds s (head ++ w)) :
    ∃ t, tcpTrimHead S head s = (.ok (), t) ∧ Holds t w := by
  unfold tcpTrimHead
  split_ifs with none_set
  · exact ⟨s, rfl, by rwa [none_set] at held⟩
  · obtain ⟨t, ok, left⟩ := delivers.readFull_ok head.length held (by simp)
    rw [List.take_left] at ok
    rw [List.drop_left] at left
    exact ⟨t, by rw [Action.bind_ok _ ok, if_pos rfl, Action.pure_apply], left⟩

/-- A stream that begins otherwise is refused. -/
theorem tcpTrimHead_refused {S : Stream σ} {Holds : σ → Bytes → Prop} (delivers : Delivers S Holds)
    (head : Bytes) {s : σ} {w : Bytes} (held : Holds s w) (other : ¬ head <+: w) :
    ∃ e t, tcpTrimHead S head s = (.error e, t) := by
  have some_head : head ≠ [] := fun none_set => other (none_set ▸ List.nil_prefix)
  rw [tcpTrimHead, if_neg some_head]
  by_cases enough : head.length ≤ w.length
  · obtain ⟨t, ok, _⟩ := delivers.readFull_ok head.length held enough
    have differs : w.take head.length ≠ head := fun same => other (same ▸ List.take_prefix _ _)
    exact ⟨_, t, by rw [Action.bind_ok _ ok, if_neg differs, Action.fail_apply]⟩
  · obtain ⟨e, t, failed⟩ := delivers.readFull_short head.length held (Nat.lt_of_not_le enough)
    exact ⟨e, t, Action.bind_error _ failed⟩

theorem tcpTrimHead_silent (head : Bytes) (conn : Conn) :
    (tcpTrimHead Conn.stream head conn).2.sent = conn.sent := by
  have kept := (Conn.sends conn.sent).readFull [] head.length conn (by simp [Conn.Sent])
  unfold Conn.Sent at kept
  rw [List.flatten_nil, List.append_nil] at kept
  unfold tcpTrimHead
  split_ifs
  · rfl
  · rcases read : readFull Conn.stream head.length conn with ⟨e | data, t⟩
    · rw [read] at kept
      rw [Action.bind_error _ read]
      exact kept
    · rw [read] at kept
      rw [Action.bind_ok _ read]
      split_ifs
      · exact kept
      · exact kept

theorem dialTCP_conn (head : Bytes) (conn : Conn) :
    dialTCP Conn.stream head conn = .ok { conn with sent := conn.sent ++ head } := by
  by_cases none_set : head = []
  · simp [dialTCP, tcpHeadAppend, none_set, Action.pure_apply]
  · simp [dialTCP, tcpHeadAppend, none_set, Conn.stream, Conn.write]

/-! Tunnels. -/

/-- What a tunnel does with one input stream: whether it gets to copy, the buffers it copies forth and
back, all it puts on either stream, and what the two directions put on the streams they read. -/
structure Tunnelled where
  copies : Bool
  forth : List Bytes
  back : List Bytes
  toSrc : Bytes
  toDst : Bytes
  answered : Bytes × Bytes
  deriving DecidableEq, Repr

def Tunnelled.idle (toSrc toDst : Bytes) : Tunnelled := ⟨false, [], [], toSrc, toDst, ([], [])⟩

/-- `handleInputStream`, in both directions; `env` and `env'` are what stops the one and the other. Probe
and bandwidth streams are not copied; `dispatch` serves them. -/
def Server.serve (c : CryptoHelper) (env env' : Surroundings) (GetStream : Except Err Conn)
    (src : Conn) : Option Tunnelled :=
  match c.WrapSrcWithRole env.srcRand Conn.stream src with
  | .error _ => some (.idle src.sent [])
  | .ok (_, .Probe) => none
  | .ok (_, .Bandwidth) => none
  | .ok (srcStream, .Business) =>
    match GetStream with
    | .error _ => some (.idle (sentOf srcStream) [])
    | .ok dst =>
      match c.WrapDst env.dstRand Conn.stream dst with
      | .error _ => some (.idle (sentOf srcStream) dst.sent)
      | .ok dstStream =>
        let forth := Pipe (c.srcStream env.srcRand env.clock Conn.stream)
          (c.dstStream env.dstRand env.clock Conn.stream) env.stop srcStream dstStream
        let back := Pipe (c.dstStream env.dstRand env.clock Conn.stream)
          (c.srcStream env.srcRand env.clock Conn.stream) env'.stop dstStream srcStream
        some ⟨true, forth.passed, back.passed, sentOf back.dst, sentOf forth.dst,
          ((sentOf forth.src).drop (sentOf srcStream).length,
            (sentOf back.src).drop (sentOf dstStream).length)⟩

/-- The two models of a handler agree on what goes forth. -/
theorem Server.serve_forth (c : CryptoHelper) (env env' : Surroundings)
    (GetStream : Except Err Conn) (src : Conn) :
    (Server.serve c env env' GetStream src).elim [] Tunnelled.forth =
      (Server.handleInputStream c env Conn.stream none GetStream src).forwarded := by
  simp only [Server.serve, Server.handleInputStream, dispatch]
  rcases c.WrapSrcWithRole env.srcRand Conn.stream src with e | ⟨g | b, _ | _ | _⟩
  · rfl
  · cases GetStream with
    | error e => rfl
    | ok dst =>
      simp only [relay]
      cases c.WrapDst env.dstRand Conn.stream dst with
      | error e => rfl
      | ok dstStream => rfl
  · rfl
  · rfl
  · cases GetStream with
    | error e => rfl
    | ok dst =>
      simp only [relay]
      cases c.WrapDst env.dstRand Conn.stream dst with
      | error e => rfl
      | ok dstStream => rfl
  · rfl
  · rfl

/-! Links. -/

/-- What two neighbours agree on. -/
structure Link where
  head : Bytes
  mode : Mode
  aead : AEAD
  frames : Bool

namespace Link

/-- Buffers of a copy loop. -/
def Buffers (log : List Bytes) : Prop := ∀ b ∈ log, b ≠ [] ∧ b.length ≤ SocketBufSize

theorem Buffers.nil : Buffers [] := fun _ absent => absurd absent List.not_mem_nil

/-- What the side that opens the stream writes to its crypto layer. -/
def opened (link : Link) (log : List Bytes) : List Bytes := opening link.frames ++ packed link.frames log

/-- The buffers of `log` on the link, from the side that opens the stream. -/
def forth (link : Link) (rand : Rand) (log : List Bytes) : Bytes :=
  link.head ++ (sealed link.mode link.aead rand (link.opened log)).flatten

/-- The buffers of `log` on the link, from the side that accepts the stream. -/
def back (link : Link) (rand : Rand) (log : List Bytes) : Bytes :=
  (sealed link.mode link.aead rand (packed link.frames log)).flatten

theorem back_nil (link : Link) (rand : Rand) : link.back rand [] = [] := by
  obtain ⟨head, mode, aead, frames⟩ := link
  cases mode <;> cases frames <;> rfl

theorem opened_fits (link : Link) {log : List Bytes} (each : Buffers log) :
    ∀ b ∈ link.opened log, Fits link.mode b := by
  refine List.forall_mem_append.mpr ⟨fun b member => ?_, packed_fits link.mode link.frames each⟩
  unfold opening at member
  split_ifs at member
  · rw [List.mem_singleton.mp member]
    exact fits_of_length (by simp [handshakeBytes]) (by simp [MaxSegmentSize])
  · exact absurd member List.not_mem_nil

/-- `w` is a way to send `v`. -/
def Encodes (wire : Rand → List Bytes → Bytes) (v w : Bytes) : Prop :=
  ∃ rand log, Buffers log ∧ log.flatten = v ∧ w = wire rand log

/-- `w` is a part of a way to send a part of `v`. -/
def EncodesPart (wire : Rand → List Bytes → Bytes) (v w : Bytes) : Prop :=
  ∃ v' w', v' <+: v ∧ Encodes wire v' w' ∧ w <+: w'

/-- A link without head, encryption and frames carries the bytes themselves. -/
def Plain (link : Link) : Prop := link.head = [] ∧ link.mode = .None ∧ link.frames = false

theorem Plain.forth {link : Link} (plain : link.Plain) (rand : Rand) (log : List Bytes) :
    link.forth rand log = log.flatten := by
  obtain ⟨head, mode, aead, frames⟩ := link
  obtain ⟨rfl, rfl, rfl⟩ := plain
  rfl

theorem Plain.back {link : Link} (plain : link.Plain) (rand : Rand) (log : List Bytes) :
    link.back rand log = log.flatten := by
  obtain ⟨head, mode, aead, frames⟩ := link
  obtain ⟨rfl, rfl, rfl⟩ := plain
  rfl

section same

variable {wire : Rand → List Bytes → Bytes} {v w : Bytes}

theorem encodes_iff (same : ∀ rand log, wire rand log = log.flatten) : Encodes wire v w ↔ w = v := by
  constructor
  · rintro ⟨rand, log, _, rfl, rfl⟩
    exact same rand log
  · rintro rfl
    refine ⟨fun _ => 0, w.map ([·]), fun b member => ?_, ?_, ?_⟩
    · obtain ⟨byte, _, rfl⟩ := List.mem_map.mp member
      exact ⟨List.cons_ne_nil _ _, Nat.le_add_left 1 _⟩
    · exact List.flatMap_singleton' w
    · rw [same]
      exact (List.flatMap_singleton' w).symm

theorem encodesPart_iff (same : ∀ rand log, wire rand log = log.flatten) :
    EncodesPart wire v w ↔ w <+: v := by
  constructor
  · rintro ⟨v', w', part, encodes, cut⟩
    exact ((encodes_iff same).mp encodes ▸ cut).trans part
  · intro part
    exact ⟨w, w, part, (encodes_iff same).mpr rfl, List.prefix_rfl⟩

end same

end Link

/-! One tunnel. -/

/-- A tunnel of the chain, and what stops its two directions. -/
structure Node where
  inHead : Bytes
  outHead : Bytes
  helper : CryptoHelper
  env : Surroundings
  env' : Surroundings

namespace Node

def srcLink (n : Node) : Link :=
  ⟨n.inHead, n.helper.srcMode, n.helper.srcAead, n.helper.srcExtend.FrameHeaderEnable⟩

def dstLink (n : Node) : Link :=
  ⟨n.outHead, n.helper.dstMode, n.helper.dstAead, n.helper.dstExtend.FrameHeaderEnable⟩

/-- A connection of its input, and the one that its output dials. -/
def serve (n : Node) (src dst : Conn) : Option Tunnelled :=
  match tcpTrimHead Conn.stream n.inHead src with
  | (.error _, src) => some (.idle src.sent [])
  | (.ok _, src) => Server.serve n.helper n.env n.env' (dialTCP Conn.stream n.outHead dst) src

/-- The ciphers at both sides of a tunnel open what they seal. -/
def Lawful (n : Node) : Prop := n.helper.srcAead.Lawful ∧ n.helper.dstAead.Lawful

/-- No deadline stops either direction. -/
def Free (n : Node) : Prop := n.env.returnEnds = none ∧ n.env'.returnEnds = none

variable {n : Node} {src dst : Conn} {rand : Rand} {log : List Bytes}

/-- What a tunnel sends on of what a peer behind it copies: a part of it, and all of it when all of
it has arrived. -/
structure Forwards (n : Node) (t : Tunnelled) (log : List Bytes) (whole : Prop) : Prop where
  silent : t.answered.1 = []
  each : Link.Buffers t.forth
  begins : t.forth.flatten <+: log.flatten
  sent : t.toDst <+: n.dstLink.forth n.env.dstRand t.forth
  all : whole → t.copies = true ∧ t.toDst = n.dstLink.forth n.env.dstRand t.forth ∧
    (n.Free → t.forth.flatten = log.flatten)

/-- What a tunnel sends back of what a peer before it copies. -/
structure Returns (n : Node) (t : Tunnelled) (log : List Bytes) (whole : Prop) : Prop where
  silent : t.answered.2 = []
  each : Link.Buffers t.back
  begins : t.back.flatten <+: log.flatten
  sent : t.toSrc = n.srcLink.back n.env.srcRand t.back
  all : whole → t.copies = true → n.Free → t.back.flatten = log.flatten

/-- The tunnel returns what arrives of its peer's buffers, whichever they are. -/
def Returning (n : Node) (dst : Conn) (t : Tunnelled) : Prop :=
  ∀ {rand : Rand} {log : List Bytes} {w : Bytes}, Link.Buffers log → dst.Holds w →
    w <+: n.dstLink.back rand log →
    Returns n t log (w = n.dstLink.back rand log)

theorem idle_forwards (n : Node) (log : List Bytes) {whole : Prop} (missing : ¬ whole) :
    Forwards n (.idle [] []) log whole where
  silent := rfl
  each := .nil
  begins := List.nil_prefix
  sent := List.nil_prefix
  all := fun arrived => absurd arrived missing

theorem idle_returning (n : Node) (dst : Conn) : Returning n dst (.idle [] []) := by
  intro rand log w each held cut
  exact ⟨rfl, .nil, List.nil_prefix, (n.srcLink.back_nil n.env.srcRand).symm,
    fun _ copies => absurd copies Bool.false_ne_true⟩

theorem drop_same {a b : Bytes} (same : a = b) : a.drop b.length = [] := by rw [same, List.drop_length]

theorem serve_business (lawful : n.helper.dstAead.Lawful) (freshSrc : src.sent = [])
    (headed : dst.sent = n.outHead) {srcStream : WrappedStream Conn}
    (opened : n.helper.WrapSrcWithRole n.env.srcRand Conn.stream src = .ok (srcStream, .Business))
    {u : Bytes}
    (held : HoldsPlain n.helper.srcMode n.helper.srcAead Conn.Holds (cryptoOf srcStream) u)
    (each : Link.Buffers log)
    (cut : u <+: (packed n.helper.srcExtend.FrameHeaderEnable log).flatten) :
    ∃ t, Server.serve n.helper n.env n.env' (.ok dst) src = some t ∧
      Forwards n t log (u = (packed n.helper.srcExtend.FrameHeaderEnable log).flatten) ∧
        Returning n dst t := by
  obtain ⟨inHead, outHead, c, env, env'⟩ := n
  dsimp only at *
  obtain ⟨srcCarries, srcUnread⟩ := WrapSrc_carries opened
  obtain ⟨dstStream, ready, dstCarries, dstUnread, dstHolds⟩ := WrapDst_carries c env.dstRand dst
  rw [freshSrc] at srcCarries
  rw [headed] at dstCarries
  refine ⟨_, by simp only [Server.serve, opened, ready]; rfl, ?_, ?_⟩
  · have takes := wrappedStream_takes c.dstMode c.dstAead env.dstRand env.clock outHead
      (opening c.dstExtend.FrameHeaderEnable) c.dstExtend.FrameHeaderEnable
    obtain ⟨passes, last⟩ := unidirectionalStream_logged
      (c.srcStream env.srcRand env.clock Conn.stream) takes (env.stop srcStream) dstCarries
    obtain ⟨part, whole, silent⟩ := Pipe_worker env env.clock
      (accepts_any c.dstMode c.dstAead env.dstRand env.clock succeeds_conn) dstStream trivial
        srcCarries.kind srcUnread held
      each cut srcCarries.logged
    exact ⟨drop_same silent, passes, part, last.sentOf ▸ List.prefix_rfl,
      fun arrived => ⟨rfl, last.sentOf, fun free => whole arrived free.1⟩⟩
  · intro rand log w each held cut
    have takes := wrappedStream_takes c.srcMode c.srcAead env.srcRand env.clock []
      [] c.srcExtend.FrameHeaderEnable
    obtain ⟨passes, last⟩ := unidirectionalStream_logged
      (c.dstStream env.dstRand env.clock Conn.stream) takes (env'.stop dstStream) srcCarries
    have fits := packed_fits c.dstMode c.dstExtend.FrameHeaderEnable each
    obtain ⟨begins, all⟩ := decrypt_cut c.dstMode lawful rand fits cut
    obtain ⟨part, whole, silent⟩ := Pipe_worker env' env.clock
      (accepts_any c.srcMode c.srcAead env.srcRand env.clock succeeds_conn) srcStream trivial
        dstCarries.kind dstUnread
      (dstHolds held).plain each begins dstCarries.logged
    exact ⟨drop_same silent, passes, part, last.sentOf, fun arrived _ free => whole (all arrived) free.2⟩

/-- Whatever part of the wires of its peers has arrived. -/
theorem serve_tunnels (lawful : n.Lawful) (freshSrc : src.sent = []) (freshDst : dst.sent = [])
    {v : Bytes} (each : Link.Buffers log) (held : src.Holds v)
    (cut : v <+: n.srcLink.forth rand log) :
    ∃ t, n.serve src dst = some t ∧ Forwards n t log (v = n.srcLink.forth rand log) ∧
      Returning n dst t := by
  have sameSrc := tcpTrimHead_silent n.inHead src
  rw [freshSrc] at sameSrc
  by_cases headed : n.inHead <+: v
  · obtain ⟨tail, rfl⟩ := headed
    obtain ⟨left, trimmed, leftHeld⟩ := tcpTrimHead_whole Conn.drains.toDelivers n.inHead held
    rw [trimmed] at sameSrc
    have unsent : left.sent = [] := sameSrc
    have part :
        tail <+: (sealed n.helper.srcMode n.helper.srcAead rand (n.srcLink.opened log)).flatten :=
      (List.prefix_append_right_inj n.inHead).mp cut
    have dialed := dialTCP_conn n.outHead dst
    rw [freshDst, List.nil_append] at dialed
    rcases WrapSrc_reads lawful.1 n.env leftHeld (n.srcLink.opened_fits each) part with
      ⟨e, refused, short⟩ | ⟨srcStream, u, opened, holds, split⟩
    · refine ⟨.idle [] [], by simp only [serve, trimmed, Server.serve, refused, unsent],
        idle_forwards n log fun whole => ?_, idle_returning n dst⟩
      exact short log List.prefix_rfl (List.append_cancel_left whole ▸ List.prefix_rfl)
    · obtain ⟨begins, all⟩ := decrypt_opened lawful.1 (n.srcLink.opened_fits each) part split
      have dialedHead : ({ dst with sent := n.outHead } : Conn).sent = n.outHead := rfl
      obtain ⟨t, served, forwards, returning⟩ :=
        serve_business lawful.2 unsent dialedHead opened holds.plain each begins
      refine ⟨t, by simp only [serve, trimmed, dialed, served],
        { forwards with all := fun whole => forwards.all ?_ }, returning⟩
      exact all (List.append_cancel_left whole)
  · obtain ⟨e, left, refused⟩ := tcpTrimHead_refused Conn.drains.toDelivers n.inHead held headed
    rw [refused] at sameSrc
    have unsent : left.sent = [] := sameSrc
    refine ⟨.idle [] [], by simp only [serve, refused, unsent],
      idle_forwards n log fun whole => headed ?_, idle_returning n dst⟩
    exact whole ▸ List.prefix_append _ _

/-- What goes forth does not depend on what comes back. -/
theorem serve_toDst {dst' : Conn} {t t' : Tunnelled} (same : dst.sent = dst'.sent)
    (served : n.serve src dst = some t)
    (served' : n.serve src dst' = some t') : t.toDst = t'.toDst := by
  obtain ⟨inHead, outHead, c, env, env'⟩ := n
  simp only [serve, dialTCP_conn] at served served'
  rcases trimmed : tcpTrimHead Conn.stream inHead src with ⟨e | _, left⟩
  · simp only [trimmed, Option.some.injEq] at served served'
    rw [← served, ← served']
  simp only [trimmed, same] at served served'
  obtain ⟨dstStream, ready, carries, _⟩ :=
    WrapDst_carries c env.dstRand { dst with sent := dst'.sent ++ outHead }
  obtain ⟨dstStream', ready', carries', _⟩ :=
    WrapDst_carries c env.dstRand { dst' with sent := dst'.sent ++ outHead }
  rcases opened : c.WrapSrcWithRole env.srcRand Conn.stream left with e | ⟨srcStream, _ | _ | _⟩
  · simp only [Server.serve, opened, Option.some.injEq] at served served'
    rw [← served, ← served']
  · simp only [Server.serve, opened, ready, ready', Option.some.injEq] at served served'
    have takes := wrappedStream_takes c.dstMode c.dstAead env.dstRand env.clock (dst'.sent ++ outHead)
      (opening c.dstExtend.FrameHeaderEnable) c.dstExtend.FrameHeaderEnable
    have last := (unidirectionalStream_logged (c.srcStream env.srcRand env.clock Conn.stream) takes
      (env.stop srcStream) carries).2
    have last' := (unidirectionalStream_logged (c.srcStream env.srcRand env.clock Conn.stream) takes
      (env.stop srcStream) carries').2
    have same :
      (unidirectionalStream (wrappedStream c.dstMode c.dstAead env.dstRand env.clock Conn.stream)
          (c.srcStream env.srcRand env.clock Conn.stream) dstStream (env.stop srcStream)).passed =
        (unidirectionalStream (wrappedStream c.dstMode c.dstAead env.dstRand env.clock Conn.stream)
          (c.srcStream env.srcRand env.clock Conn.stream) dstStream' (env.stop srcStream)).passed :=
      copyLoop_same _ takes takes _ rfl rfl carries carries'
    rw [← same] at last'
    rw [← served, ← served']
    exact last.sentOf.trans last'.sentOf.symm
  · simp [Server.serve, opened] at served
  · simp [Server.serve, opened] at served

end Node

/-! Any number of tunnels. -/

/-- Neighbours agree on the links between them; `first` and `last` are the links at the ends. -/
def Chained : Link → List Node → Link → Prop
  | first, [], last => first = last
  | first, n :: nodes, last => first = n.srcLink ∧ Chained n.dstLink nodes last

/-- A run of the tunnels, seen at any moment: `forth` and `back'` are put on the links at the ends,
`back` and `forth'` are what the first and the last tunnel have sent out there. Of what is put on
one end of a link, `arrives` says what is there at the other. -/
inductive Linked (arrives : Bytes → Bytes → Prop) : List Node → Bytes → Bytes → Bytes → Bytes → Prop
  | nil (forth back : Bytes) : Linked arrives [] forth back forth back
  | cons {n : Node} {nodes : List Node} {forth mid forth' back' : Bytes} {src dst : Conn} {t : Tunnelled}
      (freshSrc : src.sent = []) (freshDst : dst.sent = [])
      (arrivesSrc : arrives (Conn.arrived src.inbound) forth)
      (arrivesDst : arrives (Conn.arrived dst.inbound) mid) (served : n.serve src dst = some t)
      (linked : Linked arrives nodes t.toDst mid forth' back') :
        Linked arrives (n :: nodes) forth t.toSrc forth' back'

section chain

variable {nodes : List Node} {first last : Link} {forth back forth' back' u v : Bytes}

theorem Linked.parts (linked : Linked (· <+: ·) nodes forth back forth' back')
    (chained : Chained first nodes last) (lawful : ∀ n ∈ nodes, n.Lawful)
    (sends : Link.EncodesPart first.forth v forth) (returns : Link.EncodesPart last.back u back') :
    Link.EncodesPart last.forth v forth' ∧ Link.EncodesPart first.back u back := by
  induction linked generalizing first v with
  | nil forth back =>
    obtain rfl : first = last := chained
    exact ⟨sends, returns⟩
  | @cons n nodes forth mid forth' back' src dst t freshSrc freshDst arrivesSrc arrivesDst served
      linked ih =>
    obtain ⟨rfl, chained⟩ := chained
    obtain ⟨lawfulHere, lawful⟩ := List.forall_mem_cons.mp lawful
    obtain ⟨_, _, vPart, ⟨rand, log, each, rfl, rfl⟩, wPart⟩ := sends
    obtain ⟨t', served', forwards, returning⟩ :=
      Node.serve_tunnels lawfulHere freshSrc freshDst each rfl (arrivesSrc.trans wPart)
    obtain rfl := Option.some.inj (served.symm.trans served')
    have onward : Link.EncodesPart n.dstLink.forth v t.toDst :=
      ⟨_, _, forwards.begins.trans vPart, ⟨_, t.forth, forwards.each, rfl, rfl⟩, forwards.sent⟩
    obtain ⟨forthPart, _, _, uPart, ⟨rand', log', each', rfl, rfl⟩, wPart'⟩ :=
      ih chained lawful onward returns
    have returns := returning each' rfl (arrivesDst.trans wPart')
    exact ⟨forthPart, _, _, returns.begins.trans uPart,
      ⟨_, t.back, returns.each, rfl, returns.sent⟩, List.prefix_rfl⟩

theorem Linked.whole (linked : Linked (· = ·) nodes forth back forth' back')
    (chained : Chained first nodes last) (lawful : ∀ n ∈ nodes, n.Lawful)
    (free : ∀ n ∈ nodes, n.Free) (sends : Link.Encodes first.forth v forth)
    (returns : Link.Encodes last.back u back') :
    Link.Encodes last.forth v forth' ∧ Link.Encodes first.back u back := by
  induction linked generalizing first v with
  | nil forth back =>
    obtain rfl : first = last := chained
    exact ⟨sends, returns⟩
  | @cons n nodes forth mid forth' back' src dst t freshSrc freshDst arrivesSrc arrivesDst served
      linked ih =>
    obtain ⟨rfl, chained⟩ := chained
    obtain ⟨lawfulHere, lawful⟩ := List.forall_mem_cons.mp lawful
    obtain ⟨freeHere, free⟩ := List.forall_mem_cons.mp free
    obtain ⟨rand, log, each, rfl, rfl⟩ := sends
    obtain ⟨t', served', forwards, returning⟩ :=
      Node.serve_tunnels lawfulHere freshSrc freshDst each arrivesSrc List.prefix_rfl
    obtain rfl := Option.some.inj (served.symm.trans served')
    obtain ⟨copies, sent, all⟩ := forwards.all rfl
    have onward : Link.Encodes n.dstLink.forth log.flatten t.toDst :=
      ⟨_, t.forth, forwards.each, all freeHere, sent⟩
    obtain ⟨forthWhole, rand', log', each', rfl, rfl⟩ := ih chained lawful free onward returns
    have returns := returning each' arrivesDst List.prefix_rfl
    exact ⟨forthWhole, _, t.back, returns.each, returns.all rfl copies freeHere, returns.sent⟩

/-- The bytes of a peer, come in one piece. -/
def Conn.ofBytes (w : Bytes) : Conn := ⟨[.chunk w], false, []⟩

theorem Conn.arrived_ofBytes (w : Bytes) : Conn.arrived (Conn.ofBytes w).inbound = w := List.append_nil w

/-- Whatever is put on the ends can arrive everywhere. -/
theorem Linked.exists (chained : Chained first nodes last) (lawful : ∀ n ∈ nodes, n.Lawful)
    (free : ∀ n ∈ nodes, n.Free) (sends : Link.Encodes first.forth v forth) (back' : Bytes) :
    ∃ back forth', Linked (· = ·) nodes forth back forth' back' := by
  induction nodes generalizing first v forth with
  | nil => exact ⟨back', forth, .nil forth back'⟩
  | cons n nodes ih =>
    obtain ⟨rfl, chained⟩ := chained
    obtain ⟨lawfulHere, lawful⟩ := List.forall_mem_cons.mp lawful
    obtain ⟨freeHere, free⟩ := List.forall_mem_cons.mp free
    obtain ⟨rand, log, each, rfl, rfl⟩ := sends
    have entire : (Conn.ofBytes (n.srcLink.forth rand log)).Holds (n.srcLink.forth rand log) :=
      Conn.arrived_ofBytes _
    have fresh (w : Bytes) : (Conn.ofBytes w).sent = [] := rfl
    have serves (w : Bytes) :=
      Node.serve_tunnels lawfulHere (fresh _) (fresh w) each entire List.prefix_rfl
    obtain ⟨t, served, forwards, _⟩ := serves []
    obtain ⟨_, sent, all⟩ := forwards.all rfl
    obtain ⟨mid, forth', linked⟩ :=
      ih chained lawful free ⟨_, t.forth, forwards.each, all freeHere, sent⟩
    obtain ⟨t', served', _⟩ := serves mid
    have same : (Conn.ofBytes []).sent = (Conn.ofBytes mid).sent := rfl
    rw [Node.serve_toDst same served served'] at linked
    exact ⟨_, _, .cons rfl rfl (Conn.arrived_ofBytes _) (Conn.arrived_ofBytes mid) served' linked⟩

/-- Any number of tunnels that agree on the links between them, with plain links at the ends,
whatever the heads, the ciphers, the frames and the cuts in between. At any moment either end has
been sent a prefix of what the other has put in. What is put in can arrive on every link, and then
each end has been sent all of it. -/
theorem chain_transparent (chained : Chained first nodes last) (firstPlain : first.Plain)
    (lastPlain : last.Plain) (lawful : ∀ n ∈ nodes, n.Lawful) :
    (∀ forth back forth' back', Linked (· <+: ·) nodes forth back forth' back' →
      forth' <+: forth ∧ back <+: back') ∧
    ((∀ n ∈ nodes, n.Free) → ∀ forth back',
      (∃ back forth', Linked (· = ·) nodes forth back forth' back') ∧
      ∀ back forth', Linked (· = ·) nodes forth back forth' back' → forth' = forth ∧ back = back') := by
  constructor
  · intro forth back forth' back' linked
    obtain ⟨onward, returned⟩ := linked.parts (v := forth) (u := back') chained lawful
      ((Link.encodesPart_iff firstPlain.forth).mpr List.prefix_rfl)
        ((Link.encodesPart_iff lastPlain.back).mpr List.prefix_rfl)
    exact ⟨(Link.encodesPart_iff lastPlain.forth).mp onward,
      (Link.encodesPart_iff firstPlain.back).mp returned⟩
  · intro free forth back'
    have sends : Link.Encodes first.forth forth forth := (Link.encodes_iff firstPlain.forth).mpr rfl
    refine ⟨Linked.exists chained lawful free sends back', fun back forth' linked => ?_⟩
    obtain ⟨onward, returned⟩ :=
      linked.whole chained lawful free sends ((Link.encodes_iff lastPlain.back).mpr rfl)
    exact ⟨(Link.encodes_iff lastPlain.forth).mp onward, (Link.encodes_iff firstPlain.back).mp returned⟩

end chain

/-- A plain input, and an encrypted link with a head and frames to the next tunnel, which ends it. -/
def twoTunnels : List Node :=
  let aead := framedHelper.srcAead
  [⟨[], [0x47, 0x45, 0x54], ⟨.None, .GCM, aead, aead, ⟨false⟩, ⟨true⟩⟩, endsAfter none, endsAfter none⟩,
    ⟨[0x47, 0x45, 0x54], [], ⟨.GCM, .None, aead, aead, ⟨true⟩, ⟨false⟩⟩, endsAfter none, endsAfter none⟩]

theorem chain_transparent_two : ∃ back forth', Linked (· = ·) twoTunnels [1, 2, 3] back forth' [4, 5] ∧
    forth' = [1, 2, 3] ∧ back = [4, 5] := by
  have plain : Link.Plain ⟨[], .None, framedHelper.srcAead, false⟩ := ⟨rfl, rfl, rfl⟩
  have chained : Chained ⟨[], .None, framedHelper.srcAead, false⟩ twoTunnels
      ⟨[], .None, framedHelper.srcAead, false⟩ :=
    ⟨rfl, rfl, rfl⟩
  have opens : framedHelper.srcAead.Lawful := streamAEAD_lawful 12 16 _ _
  have lawful : ∀ n ∈ twoTunnels, n.Lawful := by
    intro n member
    rcases List.mem_pair.mp member with rfl | rfl
    · exact ⟨opens, opens⟩
    · exact ⟨opens, opens⟩
  have free : ∀ n ∈ twoTunnels, n.Free := by
    intro n member
    rcases List.mem_pair.mp member with rfl | rfl
    · exact ⟨rfl, rfl⟩
    · exact ⟨rfl, rfl⟩
  obtain ⟨_, whole⟩ := chain_transparent chained plain plain lawful
  obtain ⟨⟨back, forth', linked⟩, same⟩ := whole free [1, 2, 3] [4, 5]
  exact ⟨back, forth', linked, same back forth' linked⟩

end Gotun.Tun
