/-
Bytes that arrive in blocks and are decoded as they arrive.

A byte that cannot stand is met with the block that it arrives in, and that block adds nothing to the text; a character
that ends too early is met when nothing more arrives. Either way what was read before is the whole characters of the
blocks before, and the fault is counted from their end. The first two bytes of a surrogate are no beginning of a
character, but at the end of a block they are kept back like one.
-/
import Linewise.Text.Utf8

namespace Linewise.Utf8

/-- how many bytes arrive at a time -/
def blockSize : Nat := 8192

/-- the fault is a surrogate, and the block ends with the byte that shows it -/
def Fault.isKeptBack (f : Fault) (bytes : Bytes) : Bool :=
  let isLast := (f.start + 2) % blockSize = 0 || f.start + 2 = bytes.length
  f.cause = .invalidContinuation && f.first = 0xed && f.count = 1 && isLast &&
    (bytes[f.start + 1]?).any fun b => 0xa0 ≤ b && b ≤ 0xbf

/-- how many of the bytes had arrived before the block that the fault is met with -/
def Fault.arrived (f : Fault) (bytes : Bytes) : Nat :=
  if f.isKeptBack bytes then f.start + 2
  else match f.cause with
    | .invalidStart => f.start / blockSize * blockSize
    | .invalidContinuation => (f.start + f.count) / blockSize * blockSize
    | .unexpectedEnd => bytes.length

/-- how many of the bytes belong to whole characters before the first fault -/
def wholeLength (bytes : Bytes) : Nat :=
  match decode bytes with
  | .ok _ => bytes.length
  | .error f => f.start

/-- the text that was read before a fault of the bytes is met, and the fault as it is counted from the end of that text -/
def readBefore (bytes : Bytes) (f : Fault) : Text × Fault :=
  let read := wholeLength (bytes.take (f.arrived bytes))
  ((decode (bytes.take read)).toOption.getD [], { f with start := f.start - read })

end Linewise.Utf8
