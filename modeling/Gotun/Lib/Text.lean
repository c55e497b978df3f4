import Mathlib.Data.List.Basic

/-! Texts as lists of characters: trimming, hexadecimal digits and the unpadded URL alphabet of base
64. -/

namespace Gotun.Lib.Text

/-- White space of Unicode. -/
def isSpace (c : Char) : Bool :=
  let n := c.toNat
  (0x09 ≤ n ∧ n ≤ 0x0D) ∨ n = 0x20 ∨ n = 0x85 ∨ n = 0xA0 ∨ n = 0x1680 ∨
    (0x2000 ≤ n ∧ n ≤ 0x200A) ∨ n = 0x2028 ∨
    n = 0x2029 ∨ n = 0x202F ∨ n = 0x205F ∨ n = 0x3000

def trimSpace (text : List Char) : List Char :=
  ((text.dropWhile isSpace).reverse.dropWhile isSpace).reverse

def trim (text : String) : String := String.ofList (trimSpace text.toList)

def hexDigit (c : Char) : Option Nat :=
  if '0' ≤ c ∧ c ≤ '9' then some (c.toNat - 48)
  else if 'a' ≤ c ∧ c ≤ 'f' then some (c.toNat - 87)
  else if 'A' ≤ c ∧ c ≤ 'F' then some (c.toNat - 55)
  else none

def decodeHex : List Char → Option (List UInt8)
  | [] => some []
  | [_] => none
  | a :: b :: rest => do
    let high ← hexDigit a
    let low ← hexDigit b
    let more ← decodeHex rest
    return UInt8.ofNat (16 * high + low) :: more

def sextet (c : Char) : Option Nat :=
  if 'A' ≤ c ∧ c ≤ 'Z' then some (c.toNat - 65)
  else if 'a' ≤ c ∧ c ≤ 'z' then some (c.toNat - 71)
  else if '0' ≤ c ∧ c ≤ '9' then some (c.toNat + 4)
  else if c = '-' then some 62
  else if c = '_' then some 63
  else none

/-- The digit of the lowest six bits. -/
def digit64 (n : Nat) : Char :=
  let n := n % 64
  if n < 26 then Char.ofNat (n + 65)
  else if n < 52 then Char.ofNat (n + 71)
  else if n < 62 then Char.ofNat (n - 4)
  else if n = 62 then '-'
  else '_'

/-- Bits that are left over at the end are ignored, and a single digit is no byte. -/
def bytesOfSextets : List Nat → Option (List UInt8)
  | [] => some []
  | [_] => none
  | [a, b] => some [UInt8.ofNat ((a * 64 + b) / 16)]
  | [a, b, c] =>
    let n := (a * 64 + b) * 64 + c
    some [UInt8.ofNat (n / 1024), UInt8.ofNat (n / 4)]
  | a :: b :: c :: d :: rest =>
    let n := ((a * 64 + b) * 64 + c) * 64 + d
    (bytesOfSextets rest).map fun more => UInt8.ofNat (n / 65536) :: UInt8.ofNat (n / 256) ::
      UInt8.ofNat n :: more

/-- Line breaks are skipped. -/
def decodeBase64 (text : List Char) : Option (List UInt8) :=
  ((text.filter fun c => c ≠ '\r' ∧ c ≠ '\n').mapM sextet).bind bytesOfSextets

def encodeBase64 : List UInt8 → List Char
  | [] => []
  | [a] =>
    let n := a.toNat * 16
    [digit64 (n / 64), digit64 n]
  | [a, b] =>
    let n := (a.toNat * 256 + b.toNat) * 4
    [digit64 (n / 4096), digit64 (n / 64), digit64 n]
  | a :: b :: c :: rest =>
    let n := (a.toNat * 256 + b.toNat) * 256 + c.toNat
    digit64 (n / 262144) :: digit64 (n / 4096) :: digit64 (n / 64) :: digit64 n :: encodeBase64 rest

/-- The bytes of a text. -/
def utf8 (text : List Char) : List UInt8 := text.flatMap String.utf8EncodeChar

end Gotun.Lib.Text
