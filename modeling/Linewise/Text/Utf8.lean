/-
Texts as bytes: the UTF-8 encoding and its strict decoder.

The decoder reads one byte at a time and keeps the bits of the character it is in. The first byte of a character says how
many bytes follow, and in which range the second lies, so that overlong forms, surrogates and code points past U+10FFFF
are refused at the first byte that cannot stand. A fault covers the bytes of the character up to there.
-/
import Linewise.Text.Basic

namespace Linewise

/-- the content of a file or stream -/
abbrev Bytes := List UInt8

namespace Utf8

/-! ### Encoding -/

/-- the bytes of a character -/
def encodeChar (c : Char) : Bytes :=
  let n := c.toNat
  let follow (bits : Nat) : UInt8 := (0x80 + bits % 0x40).toUInt8
  if n < 0x80 then [n.toUInt8]
  else if n < 0x800 then [(0xc0 + n / 0x40).toUInt8, follow n]
  else if n < 0x10000 then [(0xe0 + n / 0x1000).toUInt8, follow (n / 0x40), follow n]
  else [(0xf0 + n / 0x40000).toUInt8, follow (n / 0x1000), follow (n / 0x40), follow n]

/-- the bytes of a text -/
def encode (t : Text) : Bytes := t.flatMap encodeChar

/-! ### Decoding -/

/-- why bytes are not a text -/
inductive Cause where
  | invalidStart
  | invalidContinuation
  | unexpectedEnd
deriving DecidableEq, Repr, Inhabited

def Cause.message : Cause → Text
  | .invalidStart => "invalid start byte"
  | .invalidContinuation => "invalid continuation byte"
  | .unexpectedEnd => "unexpected end of data"

/-- the bytes that are not a text -/
structure Fault where
  cause : Cause
  /-- where the character begins -/
  start : Nat
  /-- its first byte -/
  first : UInt8
  /-- how many of its bytes could stand -/
  count : Nat
deriving DecidableEq, Repr, Inhabited

/-- the fault in one line; a single byte is shown -/
def Fault.message (f : Fault) : Text :=
  let which : Text :=
    if f.count = 1 then "byte 0x" ++ Text.hex 2 f.first.toNat ++ " in position " ++ Text.ofNat f.start
    else "bytes in position " ++ Text.ofNat f.start ++ "-" ++ Text.ofNat (f.start + f.count - 1)
  "'utf-8' codec can't decode " ++ which ++ ": " ++ f.cause.message

/-- a character of which at least one byte was read and at least one is missing -/
structure Begun where
  start : Nat
  first : UInt8
  /-- how many bytes were read -/
  count : Nat
  /-- how many bytes are missing -/
  missing : Nat
  /-- the bits read so far -/
  bits : Nat
  /-- the least byte that may come next -/
  low : Nat
  /-- the greatest byte that may come next -/
  high : Nat
deriving DecidableEq, Repr, Inhabited

/-- the character that a first byte begins, unless it is one of ASCII or none -/
def begin? (position : Nat) (b : UInt8) : Option Begun :=
  let n := b.toNat
  let begun (missing bits low high : Nat) : Begun := ⟨position, b, 1, missing, bits, low, high⟩
  if n < 0xc2 then none
  else if n < 0xe0 then some (begun 1 (n % 0x20) 0x80 0xbf)
  else if n < 0xf0 then
    some (begun 2 (n % 0x10) (if n = 0xe0 then 0xa0 else 0x80) (if n = 0xed then 0x9f else 0xbf))
  else if n < 0xf5 then
    some (begun 3 (n % 0x08) (if n = 0xf0 then 0x90 else 0x80) (if n = 0xf4 then 0x8f else 0xbf))
  else none

/-- the fault of a character that ends too early -/
def Begun.fault (p : Begun) (cause : Cause) : Fault := ⟨cause, p.start, p.first, p.count⟩

/-- the character with its next byte -/
def Begun.extend (p : Begun) (b : UInt8) : Begun :=
  { p with count := p.count + 1, missing := p.missing - 1, bits := p.bits * 64 + b.toNat % 64, low := 0x80, high := 0xbf }

/-- the text that bytes encode, from a position on, where a character may be begun already -/
def decodeFrom (position : Nat) : Option Begun → Bytes → Except Fault Text
  | none, [] => .ok []
  | some p, [] => .error (p.fault .unexpectedEnd)
  | none, b :: rest =>
    if b < 0x80 then (decodeFrom (position + 1) none rest).map (Char.ofNat b.toNat :: ·)
    else match begin? position b with
      | none => .error ⟨.invalidStart, position, b, 1⟩
      | some p => decodeFrom (position + 1) (some p) rest
  | some p, b :: rest =>
    if b.toNat < p.low || p.high < b.toNat then .error (p.fault .invalidContinuation)
    else if p.missing = 1 then (decodeFrom (position + 1) none rest).map (Char.ofNat (p.extend b).bits :: ·)
    else decodeFrom (position + 1) (some (p.extend b)) rest

/-- the text that the bytes encode -/
def decode (bytes : Bytes) : Except Fault Text := decodeFrom 0 none bytes

end Utf8

end Linewise
