import Gotun.Crypto.Security
import Gotun.Tun.UDPStreams
import Gotun.Tun.WrappedMessages

/-! Datagrams through tunnels from `udp` to `udp`: `core.Pipe` copies the streams of a session, and
each of its writes becomes a datagram again. -/

namespace Gotun.Tun
open Gotun.Lib Gotun.Core Gotun.Crypto

variable {σ τ : Type}

/-- One relay, as its configuration and its surroundings make it. -/
structure Hop where
  helper : CryptoHelper
  srcRand : Rand
  dstRand : Rand
  clock : FrameStream.Clock

namespace Hop

variable (h : Hop) (S : Stream σ) (D : Stream τ)

/-- `handleInputStream` from the source to the backend, while the source lasts. The backend after it. -/
def uplink (src : σ) (dst : τ) : Option τ :=
  match h.helper.WrapSrcWithRole h.srcRand S src, h.helper.WrapDst h.dstRand D dst with
  | .ok (left, .Business), .ok right =>
    let copied := Pipe (h.helper.srcStream h.srcRand h.clock S)
      (h.helper.dstStream h.dstRand h.clock D) id left right
    some (cryptoOf copied.dst).base.rw
  | _, _ => none

/-- The other direction, while the backend lasts. The source after it. -/
def downlink (src : σ) (dst : τ) : Option σ :=
  match h.helper.WrapSrcWithRole h.srcRand S src, h.helper.WrapDst h.dstRand D dst with
  | .ok (left, .Business), .ok right =>
    let copied := Pipe (h.helper.dstStream h.dstRand h.clock D)
      (h.helper.srcStream h.srcRand h.clock S) id right left
    some (cryptoOf copied.dst).base.rw
  | _, _ => none

end Hop

/-- How much is left unread when the reads of a session end: of the datagrams that come last to its
worker or its dialled connection, and of the records, or the bytes, that come last over a leg. -/
structure Overdue where
  source : Nat
  leg : Nat
  deriving DecidableEq, Repr

/-- A session of a client begins with a datagram. Its reads end by the timeout of the worker, or by the
deadline that `core.Pipe` sets when the other direction ends or nothing has moved for 300 s. -/
structure Session where
  datagrams : List Bytes
  replies : List Bytes
  up : Overdue
  down : Overdue
  opened : datagrams ≠ []

namespace Session

def client (s : Session) : UDPWorkerStream :=
  (UDPWorkerStream.fresh s.datagrams).SetReadDeadline s.up.source

def target (s : Session) : UDPConn := (UDPConn.fresh s.replies).SetReadDeadline s.down.source

end Session

/-- The connection between two relays: its ends, and what arrives at one of them of what the other wrote
when the last part of it comes too late. -/
structure Leg (τ σ : Type) where
  near : Stream τ
  far : Stream σ
  dialled : τ
  up : Nat → τ → σ
  down : Nat → σ → τ

def udpLeg : Leg UDPConn UDPWorkerStream where
  near := UDPConn.stream
  far := UDPWorkerStream.stream
  dialled := .fresh []
  up unread c := (UDPWorkerStream.fresh c.sent).SetReadDeadline unread
  down unread s := (UDPConn.fresh s.sent).SetReadDeadline unread

/-- What was sent, in other pieces. The last bytes come only behind a deadline. -/
def arriving (cut : Bytes → List Bytes) (eofWithData : Bool) (unread : Nat) (c : Conn) : Conn where
  inbound := (cut (c.sent.rdrop unread)).map .chunk ++
    if unread = 0 then [] else [.deadline, .chunk (c.sent.rtake unread)]
  eofWithData := eofWithData
  sent := []

def tcpLeg (cut : Bytes → List Bytes) (eofWithData : Bool) : Leg Conn Conn where
  near := Conn.stream
  far := Conn.stream
  dialled := ⟨[], false, []⟩
  up := arriving cut eofWithData
  down := arriving cut eofWithData

namespace Leg

variable (leg : Leg τ σ) (first second : Hop) (s : Session)

/-- The near end of the leg once the first relay has copied what the client sent. -/
def entered : Option τ := first.uplink UDPWorkerStream.stream leg.near s.client leg.dialled

/-- The far end of the leg once the second relay has copied the replies. -/
def returned : Option σ :=
  (leg.entered first s).bind fun t => second.downlink leg.far UDPConn.stream (leg.up s.up.leg t) s.target

def uplink : List Bytes :=
  ((leg.entered first s).bind fun t => second.uplink leg.far UDPConn.stream
    (leg.up s.up.leg t) s.target).elim []
    UDPConn.sent

def downlink : List Bytes :=
  ((leg.returned first second s).bind fun t =>
    first.downlink UDPWorkerStream.stream leg.near s.client (leg.down s.down.leg t)).elim
      [] UDPWorkerStream.sent

end Leg

/-- A relay in the clear, or two that are joined by a leg under GCM; a `tcp` leg may cut the bytes
anywhere. -/
inductive Tunnel where
  | direct (hop : Hop)
  | overUDP (first second : Hop)
  | overTCP (first second : Hop) (cut : Bytes → List Bytes) (eofWithData : Bool)

/-- A relay whose input carries datagrams as they are. -/
structure Hop.ClearSrc (h : Hop) : Prop where
  mode : h.helper.srcMode = .None
  frames : h.helper.srcExtend.FrameHeaderEnable = false

/-- A relay whose output carries datagrams as they are. -/
structure Hop.ClearDst (h : Hop) : Prop where
  mode : h.helper.dstMode = .None
  frames : h.helper.dstExtend.FrameHeaderEnable = false

/-- Clear ends, and one key of AES-GCM for the leg between them, with frame headers or without. -/
structure Joined (first second : Hop) : Prop where
  ends : first.ClearSrc ∧ second.ClearDst
  sealed : first.helper.dstMode = .GCM ∧ second.helper.srcMode = .GCM
  key : second.helper.srcAead = first.helper.dstAead
  frames : second.helper.srcExtend.FrameHeaderEnable = first.helper.dstExtend.FrameHeaderEnable
  lawful : first.helper.dstAead.Lawful
  sizes : first.helper.dstAead.NonceSize = 12 ∧ first.helper.dstAead.Overhead = 16

namespace Tunnel

def WellFormed : Tunnel → Prop
  | .direct hop => hop.ClearSrc ∧ hop.ClearDst
  | .overUDP first second => Joined first second
  | .overTCP first second cut _ => Joined first second ∧ ∀ bytes, (cut bytes).flatten = bytes

/-- What the target receives of the datagrams that the client sends in a session. -/
def uplink : Tunnel → Session → List Bytes
  | .direct hop, s =>
    (hop.uplink UDPWorkerStream.stream UDPConn.stream s.client s.target).elim [] UDPConn.sent
  | .overUDP first second, s => udpLeg.uplink first second s
  | .overTCP first second cut eofWithData, s => (tcpLeg cut eofWithData).uplink first second s

/-- What the client receives of the replies of the target. -/
def downlink : Tunnel → Session → List Bytes
  | .direct hop, s =>
    (hop.downlink UDPWorkerStream.stream UDPConn.stream s.client s.target).elim
      [] UDPWorkerStream.sent
  | .overUDP first second, s => udpLeg.downlink first second s
  | .overTCP first second cut eofWithData, s => (tcpLeg cut eofWithData).downlink first second s

/-- Nothing comes too late. -/
def InTime : Tunnel → Overdue → Prop
  | .direct _, overdue => overdue.source = 0
  | .overUDP _ _, overdue | .overTCP _ _ _ _, overdue => overdue.source = 0 ∧ overdue.leg = 0

end Tunnel

/-! Legs. -/

/-- What arrives in time of some writes: all of them, or what comes before the last part. -/
structure InOrder (overdue : Nat) (records : List Bytes) (w : Bytes) : Prop where
  begins : w <+: records.flatten
  whole : overdue = 0 → w = records.flatten
  missing : w = records.flatten → records = [] ∨ overdue = 0

/-- The writes at one end of a leg arrive in order at the other, and neither end is disturbed by the
other direction. -/
structure Leg.Lawful (leg : Leg τ σ) (NearSent : τ → List Bytes → Prop)
    (NearHolds : τ → Bytes → Prop) (Fits : Bytes → Prop) (FarSent : σ → List Bytes → Prop)
    (FarHolds : σ → Bytes → Prop) : Prop where
  nearTakes : Takes maxDatagram leg.near NearSent
  nearDelivers : Delivers leg.near NearHolds
  farSends : Sends leg.far Fits FarSent
  farFits : ∀ b : Bytes, b ≠ [] → b.length ≤ maxDatagram → Fits b
  farDelivers : Delivers leg.far FarHolds
  dialled : NearSent leg.dialled []
  up : ∀ {t records} (overdue : Nat), NearSent t records →
    (∀ r ∈ records, r ≠ [] ∧ r.length ≤ maxDatagram) →
    FarSent (leg.up overdue t) [] ∧ ∃ w, FarHolds (leg.up overdue t) w ∧ InOrder overdue records w
  down : ∀ {t records} (overdue : Nat), FarSent t records →
    (∀ r ∈ records, r ≠ [] ∧ r.length ≤ maxDatagram) →
    NearSent (leg.down overdue t) [] ∧ ∃ w, NearHolds (leg.down overdue t) w ∧ InOrder overdue records w

theorem rdrop_eq {α : Type} {l : List α} {n : Nat} (same : l.rdrop n = l) : l = [] ∨ n = 0 := by
  have lengths := congrArg List.length same
  rw [List.rdrop, List.length_take] at lengths
  rcases Nat.eq_zero_or_pos l.length with none_there | some_there
  · exact Or.inl (List.length_eq_zero_iff.mp none_there)
  · exact Or.inr (by omega)

theorem InOrder.of_items {records : List Bytes} (overdue : Nat) (nonempty : ∀ r ∈ records, r ≠ []) :
    InOrder overdue records (records.rdrop overdue).flatten where
  begins := (List.take_prefix _ records).flatten
  whole none_late := by rw [none_late, List.rdrop_zero]
  missing same := rdrop_eq (eq_of_flatten (List.take_prefix _ records) nonempty same)

theorem InOrder.of_bytes {records : List Bytes} (overdue : Nat) (nonempty : ∀ r ∈ records, r ≠ []) :
    InOrder overdue records (records.flatten.rdrop overdue) where
  begins := List.take_prefix _ _
  whole none_late := by rw [none_late, List.rdrop_zero]
  missing same := by
    refine (rdrop_eq same).imp_left fun empty => ?_
    exact (eq_of_flatten List.nil_prefix nonempty empty.symm).symm

theorem udpLeg_lawful : udpLeg.Lawful UDPConn.Sent (fun c w => ∃ ms, UDPConn.Holds c ms ∧ w = ms.flatten)
    (fun p => p.length ≤ maxDatagram) UDPWorkerStream.Sent
      (fun s w => ∃ ms, UDPWorkerStream.Holds s ms ∧ w = ms.flatten) where
  nearTakes := UDPConn.takes
  nearDelivers := UDPConn.messages.delivers
  farSends := UDPWorkerStream.sends
  farFits _ _ small := small
  farDelivers := UDPWorkerStream.messages.delivers
  dialled := rfl
  up {c records} overdue sent each := by
    obtain rfl : c.sent = records := sent
    have arrives := UDPWorkerStream.fresh_holds each overdue
    exact ⟨rfl, _, ⟨_, arrives, rfl⟩, .of_items overdue fun r member => (each r member).1⟩
  down {s records} overdue sent each := by
    obtain rfl : s.sent = records := sent
    have arrives := UDPConn.fresh_holds each overdue
    exact ⟨rfl, _, ⟨_, arrives, rfl⟩, .of_items overdue fun r member => (each r member).1⟩

theorem arriving_holds {cut : Bytes → List Bytes} (whole : ∀ bytes, (cut bytes).flatten = bytes)
    (eofWithData : Bool) (overdue : Nat) (c : Conn) :
    (arriving cut eofWithData overdue c).Holds (c.sent.rdrop overdue) := by
  have behind : Conn.arrived
      (if overdue = 0 then [] else [.deadline, .chunk (c.sent.rtake overdue)]) = [] := by
    split_ifs <;> rfl
  show Conn.arrived (_ ++ _) = _
  rw [Conn.arrived_chunks_append, behind, List.append_nil, whole]

theorem tcpLeg_lawful {cut : Bytes → List Bytes} (whole : ∀ bytes, (cut bytes).flatten = bytes)
    (eofWithData : Bool) :
    (tcpLeg cut eofWithData).Lawful (Conn.Sent []) Conn.Holds (fun _ => True)
      (Conn.Sent []) Conn.Holds := by
  have arrives {c : Conn} {records : List Bytes} (overdue : Nat) (sent : Conn.Sent [] c records)
      (each : ∀ r ∈ records, r ≠ [] ∧ r.length ≤ maxDatagram) :
      Conn.Sent [] (arriving cut eofWithData overdue c) [] ∧
        ∃ w, (arriving cut eofWithData overdue c).Holds w ∧ InOrder overdue records w := by
    refine ⟨rfl, _, arriving_holds whole eofWithData overdue c, ?_⟩
    rw [show c.sent = records.flatten from sent]
    exact .of_bytes overdue fun r member => (each r member).1
  exact ⟨(Conn.sends []).takes fun _ _ _ => trivial, Conn.drains.toDelivers, Conn.sends [],
    fun _ _ _ => trivial, Conn.drains.toDelivers, rfl, arrives, arrives⟩

theorem recordSize_small {aead : AEAD} (sizes : aead.NonceSize = 12 ∧ aead.Overhead = 16) :
    recordSize aead (SocketBufSize + 3) ≤ maxDatagram := by
  rw [recordSize, sizes.1, sizes.2]
  decide

/-- What a copy makes of the datagrams that are read in time. -/
def copied (datagrams : List Bytes) (overdue : Nat) : List Bytes :=
  (datagrams.rdrop overdue).flatMap (pieces SocketBufSize)

section copied

variable {datagrams : List Bytes} (each : ∀ d ∈ datagrams, d ≠ [] ∧ d.length ≤ maxDatagram)

theorem copied_begins (datagrams : List Bytes) (overdue : Nat) :
    copied datagrams overdue <+: datagrams.flatMap (pieces SocketBufSize) :=
  (List.take_prefix _ datagrams).flatMap _

include each

theorem pieces_fit :
    ∀ b ∈ datagrams.flatMap (pieces SocketBufSize), b ≠ [] ∧ b.length ≤ SocketBufSize := by
  intro b member
  obtain ⟨d, there, piece⟩ := List.mem_flatMap.mp member
  exact mem_pieces (by decide) (each d there).1 piece

theorem copied_fit (overdue : Nat) : ∀ b ∈ copied datagrams overdue, b ≠ [] ∧ b.length ≤ SocketBufSize :=
  fun b member => pieces_fit each b ((copied_begins datagrams overdue).subset member)

theorem copied_eq_iff (overdue : Nat) :
    copied datagrams overdue = datagrams.flatMap (pieces SocketBufSize) ↔
      datagrams = [] ∨ overdue = 0 := by
  constructor
  · intro same
    have bytes := congrArg List.flatten same
    rw [copied, flatMap_pieces_flatten, flatMap_pieces_flatten] at bytes
    exact rdrop_eq
      (eq_of_flatten (List.take_prefix _ datagrams) (fun d member => (each d member).1) bytes)
  · rintro (rfl | rfl)
    · rw [copied, List.rdrop_nil]
    · rw [copied, List.rdrop_zero]

end copied

/-- Pieces are not cut again. -/
theorem pieces_again {log : List Bytes} (fit : ∀ b ∈ log, b ≠ [] ∧ b.length ≤ SocketBufSize) :
    log.flatMap (pieces SocketBufSize) = log :=
  (flatMap_pieces_eq_iff (by decide) log).mpr fun b member => (fit b member).2

/-! One relay. -/

/-- What a stream below in the clear holds, or has been sent. -/
def Unwrapped (P : σ → List Bytes → Prop) : WrappedStream σ → List Bytes → Prop :=
  Sum.elim (fun g ms => P g.base.rw ms) fun _ _ => False

theorem Unwrapped.below {P : σ → List Bytes → Prop} {s : WrappedStream σ} {ms : List Bytes}
    (holds : Unwrapped P s ms) :
    P (cryptoOf s).base.rw ms := by
  cases s with
  | inl g => exact holds
  | inr b => exact holds.elim

section relay

variable {h : Hop} {S : Stream σ} {D : Stream τ} {src : σ} {dst : τ} {ms : List Bytes}
variable {left : WrappedStream σ} {right : WrappedStream τ}
variable {P : WrappedStream σ → List Bytes → Prop} {Q : WrappedStream τ → List Bytes → Prop}

theorem Hop.uplink_pieces
    (accepted : h.helper.WrapSrcWithRole h.srcRand S src = .ok (left, .Business))
    (dialled : h.helper.WrapDst h.dstRand D dst = .ok right)
    (messages : Messages (h.helper.srcStream h.srcRand h.clock S) P)
    (takes : Takes SocketBufSize (h.helper.dstStream h.dstRand h.clock D) Q) (held : P left ms)
    (start : Q right []) :
    ∃ g, h.uplink S D src dst = some (cryptoOf g).base.rw ∧ Q g (ms.flatMap (pieces SocketBufSize)) := by
  refine ⟨_, ?_, unidirectionalStream_pieces messages takes held start⟩
  rw [Hop.uplink, accepted, dialled]
  rfl

theorem Hop.downlink_pieces
    (accepted : h.helper.WrapSrcWithRole h.srcRand S src = .ok (left, .Business))
    (dialled : h.helper.WrapDst h.dstRand D dst = .ok right)
    (messages : Messages (h.helper.dstStream h.dstRand h.clock D) Q)
    (takes : Takes SocketBufSize (h.helper.srcStream h.srcRand h.clock S) P) (held : Q right ms)
    (start : P left []) :
    ∃ g, h.downlink S D src dst = some (cryptoOf g).base.rw ∧
      P g (ms.flatMap (pieces SocketBufSize)) := by
  refine ⟨_, ?_, unidirectionalStream_pieces messages takes held start⟩
  rw [Hop.downlink, accepted, dialled]
  rfl

variable {Holds : σ → List Bytes → Prop} {Sent : τ → List Bytes → Prop}

theorem Hop.ClearSrc.accepts (clear : h.ClearSrc) (S : Stream σ) (src : σ) :
    h.helper.WrapSrcWithRole h.srcRand S src = .ok (.inl (wrapped src), .Business) := if_pos clear.frames

theorem Hop.ClearSrc.messages (clear : h.ClearSrc) (messages : Messages S Holds) :
    Messages (h.helper.srcStream h.srcRand h.clock S) (Unwrapped Holds) :=
  (NewReaderWriter_messages_clear _ _ clear.mode messages).sum (.unused _)

theorem Hop.ClearSrc.takes (clear : h.ClearSrc) (takes : Takes maxDatagram S Holds) :
    Takes SocketBufSize (h.helper.srcStream h.srcRand h.clock S) (Unwrapped Holds) :=
  (NewReaderWriter_takes_clear _ _ clear.mode (takes.mono (by decide))).sum (.unused _ _)

theorem Hop.ClearDst.dials (clear : h.ClearDst) (D : Stream τ) (dst : τ) :
    h.helper.WrapDst h.dstRand D dst = .ok (.inl (wrapped dst)) := if_pos clear.frames

theorem Hop.ClearDst.messages (clear : h.ClearDst) (messages : Messages D Sent) :
    Messages (h.helper.dstStream h.dstRand h.clock D) (Unwrapped Sent) :=
  (NewReaderWriter_messages_clear _ _ clear.mode messages).sum (.unused _)

theorem Hop.ClearDst.takes (clear : h.ClearDst) (takes : Takes maxDatagram D Sent) :
    Takes SocketBufSize (h.helper.dstStream h.dstRand h.clock D) (Unwrapped Sent) :=
  (NewReaderWriter_takes_clear _ _ clear.mode (takes.mono (by decide))).sum (.unused _ _)

end relay

/-! Over a leg. -/

section leg

variable {aead : AEAD} {rand : Rand} {frames : Bool} {head log : List Bytes}
variable (opens : ∀ b ∈ head, b ≠ [] ∧ b.length ≤ SocketBufSize + 3)
  (fit : ∀ b ∈ log, b ≠ [] ∧ b.length ≤ SocketBufSize)

include opens fit

theorem packed_after_fit : ∀ b ∈ head ++ packed frames log, b ≠ [] ∧ b.length ≤ SocketBufSize + 3 :=
  List.forall_mem_append.mpr ⟨opens, fun _ member => mem_packed fit member⟩

theorem sealed_fit (lawful : aead.Lawful) (sizes : aead.NonceSize = 12 ∧ aead.Overhead = 16) :
    ∀ r ∈ sealed .GCM aead rand (head ++ packed frames log), r ≠ [] ∧ r.length ≤ maxDatagram := by
  intro r member
  obtain ⟨some_bytes, small⟩ :=
    sealed_small rand lawful (fun b there => (packed_after_fit opens fit b there).2) r member
  exact ⟨some_bytes, small.trans (recordSize_small sizes)⟩

/-- Of the writes that arrive in order, the reader finds the first buffers, unless even what opens
the stream is late. -/
theorem found_in_order (lawful : aead.Lawful) {overdue : Nat} {w : Bytes}
    (inOrder : InOrder overdue (sealed .GCM aead rand (head ++ packed frames log)) w) :
    (∃ part, part <+: log ∧ (recordDecoder aead).blocks w = head ++ packed frames part ∧
      (overdue = 0 → part = log) ∧
      (part = log → log = [] ∨ overdue = 0)) ∨
    ((recordDecoder aead).blocks w).length < head.length ∧ overdue ≠ 0 := by
  have fits (b : Bytes) (member : b ∈ head ++ packed frames log) : Fits .GCM b :=
    have small := packed_after_fit opens fit b member
    ⟨small.1, small.2.trans (by decide)⟩
  obtain ⟨begins, all⟩ := blocks_cut lawful rand fits inOrder.begins
  rcases prefix_packed begins with ⟨part, fewer, found, same⟩ | short
  · refine Or.inl ⟨part, fewer, found, fun none_late => same (all (inOrder.whole none_late)), ?_⟩
    rintro rfl
    refine (inOrder.missing (whole_of_blocks lawful rand fits inOrder.begins found)).imp_left
      fun nothing => ?_
    simp only [sealed, sealedItems, List.map_eq_nil_iff, List.mapIdx_eq_nil_iff,
      List.append_eq_nil_iff] at nothing
    cases frames with
    | false => exact nothing.2
    | true => exact List.map_eq_nil_iff.mp nothing.2
  · refine Or.inr ⟨short, fun none_late => ?_⟩
    rw [all (inOrder.whole none_late), List.length_append] at short
    omega

end leg

/-- What is left of `log` when its last part is late. -/
structure Cut (overdue : Nat) (log got : List Bytes) : Prop where
  begins : got <+: log
  whole : overdue = 0 → got = log
  missing : got = log → log = [] ∨ overdue = 0

namespace Leg

variable {leg : Leg τ σ} {first second : Hop} {s : Session} {NearSent : τ → List Bytes → Prop}
variable {NearHolds : τ → Bytes → Prop} {Fits : Bytes → Prop} {FarSent : σ → List Bytes → Prop}
  {FarHolds : σ → Bytes → Prop}
variable (carries : leg.Lawful NearSent NearHolds Fits FarSent FarHolds) (joined : Joined first second)
variable (sends : ∀ d ∈ s.datagrams, d ≠ [] ∧ d.length ≤ maxDatagram)

include carries joined sends

/-- The first relay greets, and writes what it copies. -/
theorem entered_sent : ∃ t, leg.entered first s = some t ∧
    NearSent t (sealed .GCM first.helper.dstAead first.dstRand
      (opening first.helper.dstExtend.FrameHeaderEnable ++
        packed first.helper.dstExtend.FrameHeaderEnable (copied s.datagrams s.up.source))) := by
  have crypto := NewReaderWriter_takes_sealed first.dstRand joined.lawful joined.sealed.1 (by decide)
    (carries.nearTakes.mono (recordSize_small joined.sizes))
  obtain ⟨right, dialled, start, _⟩ :=
    WrapDst_sealed first.dstRand joined.sealed.1 (by decide) crypto carries.dialled
  have sink := Carries.takes first.clock (opening first.helper.dstExtend.FrameHeaderEnable)
    first.helper.dstExtend.FrameHeaderEnable crypto
  obtain ⟨g, ok, out⟩ := Hop.uplink_pieces (joined.ends.1.accepts UDPWorkerStream.stream s.client)
    dialled (joined.ends.1.messages UDPWorkerStream.messages) sink
    (UDPWorkerStream.fresh_holds sends s.up.source) start
  exact ⟨_, ok, out.logged.1⟩

/-- The second relay accepts the stream and holds what comes in time of the copied datagrams, or it
is not even greeted. -/
theorem accepted_or_late {t : τ} (sent : NearSent t (sealed .GCM first.helper.dstAead first.dstRand
      (opening first.helper.dstExtend.FrameHeaderEnable ++
        packed first.helper.dstExtend.FrameHeaderEnable (copied s.datagrams s.up.source)))) :
    (∃ left part, second.helper.WrapSrcWithRole second.srcRand leg.far (leg.up s.up.leg t) =
      .ok (left, .Business) ∧
      SealedIn second.helper.srcAead FarHolds left part ∧
      Carries .GCM second.helper.srcAead second.srcRand FarSent
        [] second.helper.srcExtend.FrameHeaderEnable left [] ∧
      (∀ b ∈ part, b ≠ [] ∧ b.length ≤ SocketBufSize) ∧
        Cut s.up.leg (copied s.datagrams s.up.source) part) ∨
    (∃ e, second.helper.WrapSrcWithRole second.srcRand leg.far (leg.up s.up.leg t) = .error e) ∧
      s.up.leg ≠ 0 := by
  have fit := copied_fit sends s.up.source
  have opens := opening_small first.helper.dstExtend.FrameHeaderEnable SocketBufSize (by decide)
  obtain ⟨start, w, held, inOrder⟩ :=
    carries.up s.up.leg sent (sealed_fit opens fit joined.lawful joined.sizes)
  rcases found_in_order opens fit joined.lawful inOrder with
    ⟨part, begins, found, whole, missing⟩ | ⟨short, late⟩
  · have small (b : Bytes) (member : b ∈ part) := fit b (begins.subset member)
    rw [← joined.key, ← joined.frames] at found
    obtain ⟨left, accepted, holds, ready⟩ :=
      WrapSrc_sealed second.srcRand joined.sealed.2 carries.farSends start carries.farDelivers held
      found fun b member => ⟨(small b member).1, (small b member).2.trans (by decide)⟩
    exact Or.inl ⟨left, part, accepted, holds, ready, small, begins, whole, missing⟩
  · rw [← joined.key, ← joined.frames] at short
    refine Or.inr ⟨?_, late⟩
    cases frames : second.helper.srcExtend.FrameHeaderEnable with
    | false =>
      rw [frames] at short
      exact absurd short (Nat.not_lt_zero _)
    | true =>
      rw [frames] at short
      have nothing : (recordDecoder second.helper.srcAead).blocks w = [] :=
        List.eq_nil_of_length_eq_zero (Nat.lt_one_iff.mp short)
      exact WrapSrc_refused second.srcRand joined.sealed.2 frames carries.farDelivers held nothing

/-- The target receives what comes in time of the copied datagrams. -/
theorem uplink_cut : Cut s.up.leg (copied s.datagrams s.up.source) (leg.uplink first second s) := by
  obtain ⟨t, entered, sent⟩ := entered_sent carries joined sends
  rcases accepted_or_late carries joined sends sent with
    ⟨left, part, accepted, holds, _, small, cut⟩ | ⟨⟨e, refused⟩, late⟩
  · have source := sealed_messages second.helper.srcAead second.srcRand second.clock joined.sealed.2
      carries.farDelivers
    obtain ⟨g, ok, out⟩ := Hop.uplink_pieces accepted (joined.ends.2.dials UDPConn.stream s.target)
      source (joined.ends.2.takes UDPConn.takes) holds rfl
    have received := out.below
    rw [pieces_again small] at received
    have got : leg.uplink first second s = part := by
      rw [uplink, entered, Option.bind_some, ok]
      exact received
    rwa [got]
  · have nothing : leg.uplink first second s = [] := by
      rw [uplink, entered, Option.bind_some, Hop.uplink, refused]
      rfl
    rw [nothing]
    exact ⟨List.nil_prefix, fun in_time => absurd in_time late, fun empty => Or.inl empty.symm⟩

/-- The client receives what comes in time of the copied replies. -/
theorem downlink_cut (greeted : s.up.leg = 0)
    (answers : ∀ d ∈ s.replies, d ≠ [] ∧ d.length ≤ maxDatagram) :
    Cut s.down.leg (copied s.replies s.down.source) (leg.downlink first second s) := by
  obtain ⟨t, entered, sent⟩ := entered_sent carries joined sends
  rcases accepted_or_late carries joined sends sent with ⟨left, _, accepted, _, ready, _⟩ | ⟨_, late⟩
  · have lawful : second.helper.srcAead.Lawful := joined.key ▸ joined.lawful
    have sizes := joined.sizes
    rw [← joined.key] at sizes
    -- from the target to the leg
    have far := (carries.farSends.takes carries.farFits).mono (recordSize_small sizes)
    have crypto := NewReaderWriter_takes_sealed second.srcRand lawful joined.sealed.2 (by decide) far
    have sink := Carries.takes second.clock [] second.helper.srcExtend.FrameHeaderEnable crypto
    obtain ⟨g, ok, out⟩ := Hop.downlink_pieces accepted (joined.ends.2.dials UDPConn.stream s.target)
      (joined.ends.2.messages UDPConn.messages) sink (UDPConn.fresh_holds answers s.down.source) ready
    have returned : leg.returned first second s = some (cryptoOf g).base.rw := by
      rw [returned, entered, Option.bind_some, ok]
    -- from the leg to the client
    have fit := copied_fit answers s.down.source
    obtain ⟨start, w, held, inOrder⟩ := carries.down s.down.leg out.logged.1
      (sealed_fit (List.forall_mem_nil _) fit lawful sizes)
    rcases found_in_order (List.forall_mem_nil _) fit lawful inOrder with
      ⟨part, begins, found, whole, missing⟩ | ⟨short, _⟩
    · have small (b : Bytes) (member : b ∈ part) := fit b (begins.subset member)
      rw [joined.key, joined.frames] at found
      have crypto := NewReaderWriter_takes_sealed first.dstRand joined.lawful joined.sealed.1 (by decide)
        (carries.nearTakes.mono (recordSize_small joined.sizes))
      obtain ⟨right, dialled, _, opens⟩ :=
        WrapDst_sealed first.dstRand joined.sealed.1 (by decide) crypto start
      have holds := opens carries.nearDelivers held found
        fun b member => ⟨(small b member).1, (small b member).2.trans (by decide)⟩
      have source := sealed_messages first.helper.dstAead first.dstRand first.clock joined.sealed.1
        carries.nearDelivers
      obtain ⟨g', ok', out'⟩ :=
        Hop.downlink_pieces (joined.ends.1.accepts UDPWorkerStream.stream s.client) dialled source
        (joined.ends.1.takes (UDPWorkerStream.sends.takes fun _ _ small => small)) holds rfl
      have received := out'.below
      rw [pieces_again small] at received
      have got : leg.downlink first second s = part := by
        rw [downlink, returned, Option.bind_some, ok']
        exact received
      rw [got]
      exact ⟨begins, whole, missing⟩
    · exact absurd short (Nat.not_lt_zero _)
  · exact absurd greeted late

end Leg

theorem copied_cut (datagrams : List Bytes) (overdue : Nat) :
    Cut 0 (copied datagrams overdue) (copied datagrams overdue) :=
  ⟨List.prefix_rfl, fun _ => rfl, fun _ => Or.inr rfl⟩

theorem Cut.eq_iff {datagrams got : List Bytes} (overdue : Overdue)
    (each : ∀ d ∈ datagrams, d ≠ [] ∧ d.length ≤ maxDatagram)
    (cut : Cut overdue.leg (copied datagrams overdue.source) got) :
    got <+: datagrams.flatMap (pieces SocketBufSize) ∧
      (got = datagrams.flatMap (pieces SocketBufSize) ↔ datagrams = [] ∨ overdue.source = 0 ∧
        overdue.leg = 0) := by
  have all := copied_begins datagrams overdue.source
  refine ⟨cut.begins.trans all, fun same => ?_, ?_⟩
  · have read : copied datagrams overdue.source = datagrams.flatMap (pieces SocketBufSize) :=
      all.eq_of_length_le (same ▸ cut.begins.length_le)
    rcases (copied_eq_iff each overdue.source).mp read with none_sent | in_time
    · exact Or.inl none_sent
    rcases cut.missing (same.trans read.symm) with nothing | arrived
    · refine Or.inl ?_
      have bytes := congrArg List.flatten (read.symm.trans nothing)
      rw [flatMap_pieces_flatten] at bytes
      exact (eq_of_flatten List.nil_prefix (fun d member => (each d member).1) bytes.symm).symm
    · exact Or.inr ⟨in_time, arrived⟩
  · rintro (rfl | ⟨in_time, arrived⟩)
    · exact List.prefix_nil.mp (cut.begins.trans all)
    · exact (cut.whole arrived).trans ((copied_eq_iff each overdue.source).mpr (Or.inr in_time))

namespace Tunnel

/-- A relay copies what is read in time. -/
theorem direct_uplink {hop : Hop} {s : Session} (wellFormed : (direct hop).WellFormed)
    (sends : ∀ d ∈ s.datagrams, d ≠ [] ∧ d.length ≤ maxDatagram) :
    (direct hop).uplink s = copied s.datagrams s.up.source := by
  obtain ⟨g, ok, out⟩ := Hop.uplink_pieces (wellFormed.1.accepts UDPWorkerStream.stream s.client)
    (wellFormed.2.dials UDPConn.stream s.target) (wellFormed.1.messages UDPWorkerStream.messages)
    (wellFormed.2.takes UDPConn.takes) (UDPWorkerStream.fresh_holds sends s.up.source) rfl
  rw [uplink, ok]
  exact out.below

theorem direct_downlink {hop : Hop} {s : Session} (wellFormed : (direct hop).WellFormed)
    (answers : ∀ d ∈ s.replies, d ≠ [] ∧ d.length ≤ maxDatagram) :
    (direct hop).downlink s = copied s.replies s.down.source := by
  obtain ⟨g, ok, out⟩ := Hop.downlink_pieces (wellFormed.1.accepts UDPWorkerStream.stream s.client)
    (wellFormed.2.dials UDPConn.stream s.target) (wellFormed.2.messages UDPConn.messages)
    (wellFormed.1.takes (UDPWorkerStream.sends.takes fun _ _ small => small))
      (UDPConn.fresh_holds answers s.down.source) rfl
  rw [downlink, ok]
  exact out.below

/-- The target receives the pieces of the datagrams, or the first of them where something comes too
late. -/
theorem uplink_begins (t : Tunnel) (wellFormed : t.WellFormed) (s : Session)
    (sends : ∀ d ∈ s.datagrams, d ≠ [] ∧ d.length ≤ maxDatagram) :
    t.uplink s <+: s.datagrams.flatMap (pieces SocketBufSize) ∧
      (t.uplink s = s.datagrams.flatMap (pieces SocketBufSize) ↔ t.InTime s.up) := by
  have only {p : Prop} : s.datagrams = [] ∨ p ↔ p := or_iff_right s.opened
  cases t with
  | direct hop =>
    rw [direct_uplink wellFormed sends]
    have cut := Cut.eq_iff ⟨s.up.source, 0⟩ sends (copied_cut s.datagrams s.up.source)
    rwa [only, and_iff_left rfl] at cut
  | overUDP first second =>
    have cut := Cut.eq_iff s.up sends (Leg.uplink_cut udpLeg_lawful wellFormed sends)
    rwa [only] at cut
  | overTCP first second piecesOf eofWithData =>
    have cut := Cut.eq_iff s.up sends
      (Leg.uplink_cut (tcpLeg_lawful wellFormed.2 eofWithData) wellFormed.1 sends)
    rwa [only] at cut

/-- Once the datagrams have arrived, the client receives the pieces of the replies, or the first of
them. -/
theorem downlink_begins (t : Tunnel) (wellFormed : t.WellFormed) (s : Session)
    (sends : ∀ d ∈ s.datagrams, d ≠ [] ∧ d.length ≤ maxDatagram) (inTime : t.InTime s.up)
    (answers : ∀ d ∈ s.replies, d ≠ [] ∧ d.length ≤ maxDatagram) :
    t.downlink s <+: s.replies.flatMap (pieces SocketBufSize) ∧
      (t.downlink s = s.replies.flatMap (pieces SocketBufSize) ↔ s.replies = [] ∨ t.InTime s.down) := by
  cases t with
  | direct hop =>
    rw [direct_downlink wellFormed answers]
    have cut := Cut.eq_iff ⟨s.down.source, 0⟩ answers (copied_cut s.replies s.down.source)
    rwa [and_iff_left rfl] at cut
  | overUDP first second =>
    exact Cut.eq_iff s.down answers (Leg.downlink_cut udpLeg_lawful wellFormed sends inTime.2 answers)
  | overTCP first second piecesOf eofWithData =>
    exact Cut.eq_iff s.down answers
      (Leg.downlink_cut (tcpLeg_lawful wellFormed.2 eofWithData) wellFormed.1 sends inTime.2 answers)

/-- Over the sessions of a client, one after the other, the target receives the datagrams and the
client the replies as they were sent if and only if none is larger than the buffer of the copy and
none comes too late. -/
theorem datagrams_kept_iff (t : Tunnel) (wellFormed : t.WellFormed) (sessions : List Session)
    (sends : ∀ s ∈ sessions, ∀ d ∈ s.datagrams, d ≠ [] ∧ d.length ≤ maxDatagram)
    (answers : ∀ s ∈ sessions, ∀ d ∈ s.replies, d ≠ [] ∧ d.length ≤ maxDatagram) :
    sessions.flatMap t.uplink = sessions.flatMap Session.datagrams ∧
        sessions.flatMap t.downlink = sessions.flatMap Session.replies ↔
      ∀ s ∈ sessions, ((∀ d ∈ s.datagrams, d.length ≤ SocketBufSize) ∧
        ∀ d ∈ s.replies, d.length ≤ SocketBufSize) ∧
        t.InTime s.up ∧ (s.replies = [] ∨ t.InTime s.down) := by
  have room : 0 < SocketBufSize := by decide
  have up (s : Session) (member : s ∈ sessions) := t.uplink_begins wellFormed s (sends s member)
  have down (s : Session) (member : s ∈ sessions) (inTime : t.InTime s.up) :=
    t.downlink_begins wellFormed s (sends s member) inTime (answers s member)
  rw [flatMap_kept_iff room (fun s member d there => (sends s member d there).1) fun s member =>
    (up s member).1]
  constructor
  · rintro ⟨sent, answered⟩ s member
    have inTime (s : Session) (member : s ∈ sessions) : t.InTime s.up :=
      (up s member).2.mp (sent s member).1
    rw [flatMap_kept_iff room (fun s member d there => (answers s member d there).1)
      fun s member => (down s member (inTime s member)).1] at answered
    exact ⟨⟨(sent s member).2, (answered s member).2⟩, inTime s member,
      (down s member (inTime s member)).2.mp (answered s member).1⟩
  · intro kept
    refine ⟨fun s member => ⟨(up s member).2.mpr (kept s member).2.1, (kept s member).1.1⟩, ?_⟩
    rw [flatMap_kept_iff room (fun s member d there => (answers s member d there).1)
      fun s member => (down s member (kept s member).2.1).1]
    exact fun s member =>
      ⟨(down s member (kept s member).2.1).2.mpr (kept s member).2.2, (kept s member).1.2⟩

/-- AES-GCM as far as its sizes go. -/
def legAEAD : AEAD := streamAEAD 12 16 (fun _ i => UInt8.ofNat i) fun _ _ _ => 1

/-- A client and a server with a leg over `udp` that has frame headers. -/
def udpTun : Tunnel :=
  .overUDP ⟨⟨.None, .GCM, legAEAD, legAEAD, ⟨false⟩, ⟨true⟩⟩, nines, nines, fun _ => 0⟩
    ⟨⟨.GCM, .None, legAEAD, legAEAD, ⟨true⟩, ⟨false⟩⟩, nines, nines, fun _ => 0⟩

/-- Two datagrams and their echo. -/
def echoed : Session :=
  ⟨[[104, 105], [119, 111, 114, 108, 100]], [[104, 105], [119, 111, 114, 108, 100]], ⟨0, 0⟩,
    ⟨0, 0⟩, by decide⟩

/-- One datagram without an answer, as no one reads one any more. -/
def unanswered : Session := ⟨[[33]], [], ⟨0, 0⟩, ⟨1, 1⟩, by decide⟩

theorem datagrams_kept_echo :
    [echoed, unanswered].flatMap udpTun.uplink = [[104, 105], [119, 111, 114, 108, 100], [33]] ∧
      [echoed, unanswered].flatMap udpTun.downlink = [[104, 105], [119, 111, 114, 108, 100]] := by
  have wellFormed : udpTun.WellFormed :=
    ⟨⟨⟨rfl, rfl⟩, rfl, rfl⟩, ⟨rfl, rfl⟩, rfl, rfl, streamAEAD_lawful 12 16 _ _, rfl, rfl⟩
  refine (datagrams_kept_iff udpTun wellFormed [echoed, unanswered] (by decide) (by decide)).mpr
    fun s member => ?_
  rcases List.mem_cons.mp member with rfl | member
  · exact ⟨by decide, ⟨rfl, rfl⟩, Or.inr ⟨rfl, rfl⟩⟩
  · obtain rfl := List.mem_singleton.mp member
    exact ⟨by decide, ⟨rfl, rfl⟩, Or.inl rfl⟩

/-- One relay in the clear. -/
def plainTun : Tunnel :=
  .direct ⟨⟨.None, .None, legAEAD, legAEAD, ⟨false⟩, ⟨false⟩⟩, nines, nines, fun _ => 0⟩

/-- One byte more than the buffer of the copy takes. -/
def largeDatagram : Bytes := List.replicate 20481 7

theorem largeDatagram_accepted : largeDatagram ≠ [] ∧ largeDatagram.length ≤ maxDatagram := by
  have size : largeDatagram.length = 20481 := List.length_replicate
  refine ⟨List.ne_nil_of_length_eq_add_one size, ?_⟩
  rw [size]
  decide

def largeSession : Session := ⟨[largeDatagram], [], ⟨0, 0⟩, ⟨0, 0⟩, List.cons_ne_nil _ _⟩

theorem large_datagram_cut :
    plainTun.WellFormed ∧ (∀ d ∈ largeSession.datagrams, d ≠ [] ∧ d.length ≤ maxDatagram) ∧
      plainTun.InTime largeSession.up ∧ plainTun.uplink largeSession ≠ largeSession.datagrams := by
  have wellFormed : plainTun.WellFormed := ⟨⟨rfl, rfl⟩, rfl, rfl⟩
  have sends : ∀ d ∈ largeSession.datagrams, d ≠ [] ∧ d.length ≤ maxDatagram :=
    List.forall_mem_singleton.mpr largeDatagram_accepted
  refine ⟨wellFormed, sends, rfl, fun kept => ?_⟩
  have size : largeDatagram.length = 20481 := List.length_replicate
  rw [(plainTun.uplink_begins wellFormed largeSession sends).2.mpr rfl,
    flatMap_pieces_eq_iff (by decide)] at kept
  have small := kept largeDatagram List.mem_cons_self
  rw [size] at small
  exact absurd small (by decide)

/-- A small datagram that comes to the worker of a session whose reads have timed out. -/
def timedOut : Session := ⟨[[104, 105], [33]], [], ⟨1, 0⟩, ⟨0, 0⟩, by decide⟩

example : plainTun.uplink timedOut = [[104, 105]] := by decide

end Tunnel

end Gotun.Tun
