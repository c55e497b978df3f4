import Gotun.Crypto.ReaderWriter
import Gotun.Tun.Frames

/-! `tun/crypto_helper.go`: a stream is wrapped by its crypto mode and, where frame headers are
enabled, by a handshake and frames. -/

namespace Gotun.Tun
open Gotun.Lib Gotun.Core Gotun.Crypto

structure Extend where
  FrameHeaderEnable : Bool
  deriving DecidableEq, Repr

structure CryptoHelper where
  srcMode : Mode
  dstMode : Mode
  srcAead : AEAD
  dstAead : AEAD
  srcExtend : Extend
  dstExtend : Extend

abbrev CryptoStream (σ : Type) := Buffered (gcm σ)

/-- What wrapping returns: a `CryptoStream`, or a `FrameStream` over one. -/
abbrev WrappedStream (σ : Type) := CryptoStream σ ⊕ Buffered (FrameStream (CryptoStream σ))

variable {σ : Type}

namespace CryptoHelper

def SrcCrypto (c : CryptoHelper) (rand : Rand) (S : Stream σ) : Stream (CryptoStream σ) :=
  NewReaderWriter S c.srcMode c.srcAead rand

def DstCrypto (c : CryptoHelper) (rand : Rand) (S : Stream σ) : Stream (CryptoStream σ) :=
  NewReaderWriter S c.dstMode c.dstAead rand

def srcStream (c : CryptoHelper) (rand : Rand) (clock : FrameStream.Clock)
    (S : Stream σ) : Stream (WrappedStream σ) :=
  (c.SrcCrypto rand S).sum (FrameStream.asStream clock (c.SrcCrypto rand S))

def dstStream (c : CryptoHelper) (rand : Rand) (clock : FrameStream.Clock)
    (S : Stream σ) : Stream (WrappedStream σ) :=
  (c.DstCrypto rand S).sum (FrameStream.asStream clock (c.DstCrypto rand S))

/-- A stream without frames counts as a business stream. -/
def WrapSrcWithRole (c : CryptoHelper) (rand : Rand) (S : Stream σ) (s : σ) :
    Except Err (WrappedStream σ × StreamRole) :=
  if c.srcExtend.FrameHeaderEnable = false then .ok (.inl (wrapped s), .Business)
  else match readStreamHandshake (c.SrcCrypto rand S) (wrapped s) with
    | (.error e, _) => .error e
    | (.ok role, stream) => .ok (.inr (NewFrameStream stream role), role)

def wrapDstWithRole (c : CryptoHelper) (rand : Rand) (S : Stream σ) (role : StreamRole) (s : σ) :
    Except Err (WrappedStream σ) :=
  if c.dstExtend.FrameHeaderEnable = false then .ok (.inl (wrapped s))
  else match writeStreamHandshake (c.DstCrypto rand S) role (wrapped s) with
    | (.error e, _) => .error e
    | (.ok _, stream) => .ok (.inr (NewFrameStream stream role))

def WrapDst (c : CryptoHelper) (rand : Rand) (S : Stream σ) (s : σ) : Except Err (WrappedStream σ) :=
  c.wrapDstWithRole rand S .Business s

def WrapProbeDst (c : CryptoHelper) (rand : Rand) (S : Stream σ)
    (s : σ) : Except Err (WrappedStream σ) :=
  c.wrapDstWithRole rand S .Probe s

def WrapBandwidthDst (c : CryptoHelper) (rand : Rand) (S : Stream σ)
    (s : σ) : Except Err (WrappedStream σ) :=
  c.wrapDstWithRole rand S .Bandwidth s

end CryptoHelper

/-! The handshake. -/

section handshake

variable {S : Stream σ} {Holds : σ → Bytes → Prop}

theorem readStreamHandshake_ok (delivers : Delivers S Holds) {s : σ} {w : Bytes} {role : StreamRole}
    (held : Holds s w) (enough : 6 ≤ w.length) (parsed : parseHandshake (w.take 6) = .ok role) :
    ∃ t, readStreamHandshake S s = (.ok role, t) ∧ Holds t (w.drop 6) := by
  obtain ⟨t, first, left⟩ := delivers.readFull_ok 6 held enough
  refine ⟨t, ?_, left⟩
  rw [readStreamHandshake, Action.bind_ok _ first, Action.lift_apply, parsed]

theorem readStreamHandshake_error (delivers : Delivers S Holds) {s : σ} {w : Bytes} (held : Holds s w)
    (invalid : ∀ role, 6 ≤ w.length → parseHandshake (w.take 6) ≠ .ok role) :
    ∃ e t, readStreamHandshake S s = (.error e, t) := by
  by_cases short : w.length < 6
  · obtain ⟨e, t, failed⟩ := delivers.readFull_short 6 held short
    exact ⟨e, t, Action.bind_error _ failed⟩
  · obtain ⟨t, first, left⟩ := delivers.readFull_ok 6 held (Nat.not_lt.mp short)
    rcases parsed : parseHandshake (w.take 6) with e | role
    · refine ⟨e, t, ?_⟩
      rw [readStreamHandshake, Action.bind_ok _ first, Action.lift_apply, parsed]
    · exact absurd parsed (invalid role (Nat.not_lt.mp short))

theorem readStreamHandshake_keeps {P : σ → Prop} (kept : ∀ n s, P s → P (S.read n s).next) :
    Action.Keeps P (readStreamHandshake S) :=
  .bind (readFull_keeps kept 6) fun _ _ held => held

end handshake

end Gotun.Tun
