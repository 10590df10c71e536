/-
Encoding and decoding undo each other on texts.

`decodeFrom_encodeChar`: the decoder reads one character back from its bytes and goes on behind them, whatever follows.
Hence `decode_encode`: every text is read back from its bytes.
-/
import Linewise.Text.Utf8

namespace Linewise.Utf8

/-- a number below 256 survives as a byte -/
theorem toNat_toUInt8_of_lt {n : Nat} (h : n < 0x100) : n.toUInt8.toNat = n := by
  simp only [Nat.toUInt8, UInt8.toNat_ofNat']
  omega

/-- a byte in range goes into the character -/
theorem decodeFrom_some_of_missing {position : Nat} {p : Begun} {b : UInt8} {rest : Bytes}
    (hb : p.low ≤ b.toNat ∧ b.toNat ≤ p.high) (hm : p.missing ≠ 1) :
    decodeFrom position (some p) (b :: rest) = decodeFrom (position + 1) (some (p.extend b)) rest := by
  have : ¬ (b.toNat < p.low ∨ p.high < b.toNat) := by omega
  simp [decodeFrom, this, hm]

/-- the last byte of a character completes it -/
theorem decodeFrom_some_of_last {position : Nat} {p : Begun} {b : UInt8} {rest : Bytes}
    (hb : p.low ≤ b.toNat ∧ b.toNat ≤ p.high) (hm : p.missing = 1) :
    decodeFrom position (some p) (b :: rest) =
      (decodeFrom (position + 1) none rest).map (Char.ofNat (p.extend b).bits :: ·) := by
  have : ¬ (b.toNat < p.low ∨ p.high < b.toNat) := by omega
  simp [decodeFrom, this, hm]

/-- a first byte begins a character -/
theorem decodeFrom_of_begin {position : Nat} {p : Begun} {b : UInt8} {rest : Bytes} (hb : 0x80 ≤ b.toNat)
    (hp : begin? position b = some p) :
    decodeFrom position none (b :: rest) = decodeFrom (position + 1) (some p) rest := by
  have : ¬ b < 0x80 := by
    rw [UInt8.lt_iff_toNat_lt]
    simpa using hb
  simp [decodeFrom, this, hp]

/-- the decoder reads a character back and goes on after it -/
theorem decodeFrom_encodeChar (position : Nat) (c : Char) (rest : Bytes) :
    decodeFrom position none (encodeChar c ++ rest) =
      (decodeFrom (position + (encodeChar c).length) none rest).map (c :: ·) := by
  have hc : c.toNat < 0xd800 ∨ (0xdfff < c.toNat ∧ c.toNat < 0x110000) := c.valid
  have back : Char.ofNat c.toNat = c := Char.ofNat_toNat c
  generalize hn : c.toNat = n at hc back
  unfold encodeChar
  simp only [hn]
  split
  · rename_i h
    have := toNat_toUInt8_of_lt (n := n) (by omega)
    simp only [List.cons_append, List.nil_append, decodeFrom, List.length_cons, List.length_nil]
    rw [if_pos (by rw [UInt8.lt_iff_toNat_lt, this]; exact h), this, back]
  have h2 (k : Nat) := toNat_toUInt8_of_lt (n := 0x80 + k % 0x40) (by omega)
  split
  · have h1 := toNat_toUInt8_of_lt (n := 0xc0 + n / 0x40) (by omega)
    have hp : begin? position (0xc0 + n / 0x40).toUInt8 =
        some ⟨position, (0xc0 + n / 0x40).toUInt8, 1, 1, n / 0x40, 0x80, 0xbf⟩ := by
      unfold begin?
      rw [h1, if_neg (by omega), if_pos (by omega)]
      congr 2
      omega
    simp only [List.cons_append, List.nil_append]
    rw [decodeFrom_of_begin (by omega) hp, decodeFrom_some_of_last (by simp only [h2]; omega) rfl]
    have : (Begun.extend ⟨position, (0xc0 + n / 0x40).toUInt8, 1, 1, n / 0x40, 0x80, 0xbf⟩
        (0x80 + n % 0x40).toUInt8).bits = n := by
      simp only [Begun.extend, h2]
      omega
    rw [this, back]
    rfl
  split
  · have h1 := toNat_toUInt8_of_lt (n := 0xe0 + n / 0x1000) (by omega)
    have hp : begin? position (0xe0 + n / 0x1000).toUInt8 =
        some ⟨position, (0xe0 + n / 0x1000).toUInt8, 1, 2, n / 0x1000,
          if n / 0x1000 = 0 then 0xa0 else 0x80, if n / 0x1000 = 0xd then 0x9f else 0xbf⟩ := by
      unfold begin?
      rw [h1, if_neg (by omega), if_neg (by omega), if_pos (by omega)]
      congr 2
      · omega
      · split <;> split <;> omega
      · split <;> split <;> omega
    simp only [List.cons_append, List.nil_append]
    rw [decodeFrom_of_begin (by omega) hp,
      decodeFrom_some_of_missing (by simp only [h2]; split <;> split <;> omega) (by simp),
      decodeFrom_some_of_last (by simp only [Begun.extend, h2]; omega) rfl]
    have : (Begun.extend (Begun.extend ⟨position, (0xe0 + n / 0x1000).toUInt8, 1, 2, n / 0x1000,
          if n / 0x1000 = 0 then 0xa0 else 0x80, if n / 0x1000 = 0xd then 0x9f else 0xbf⟩
          (0x80 + n / 0x40 % 0x40).toUInt8) (0x80 + n % 0x40).toUInt8).bits = n := by
      simp only [Begun.extend, h2]
      omega
    rw [this, back]
    rfl
  · have h1 := toNat_toUInt8_of_lt (n := 0xf0 + n / 0x40000) (by omega)
    have hp : begin? position (0xf0 + n / 0x40000).toUInt8 =
        some ⟨position, (0xf0 + n / 0x40000).toUInt8, 1, 3, n / 0x40000,
          if n / 0x40000 = 0 then 0x90 else 0x80, if n / 0x40000 = 4 then 0x8f else 0xbf⟩ := by
      unfold begin?
      rw [h1, if_neg (by omega), if_neg (by omega), if_neg (by omega), if_pos (by omega)]
      congr 2
      · omega
      · split <;> split <;> omega
      · split <;> split <;> omega
    simp only [List.cons_append, List.nil_append]
    rw [decodeFrom_of_begin (by omega) hp,
      decodeFrom_some_of_missing (by simp only [h2]; split <;> split <;> omega) (by simp),
      decodeFrom_some_of_missing (by simp only [Begun.extend, h2]; omega) (by simp [Begun.extend]),
      decodeFrom_some_of_last (by simp only [Begun.extend, h2]; omega) rfl]
    have : (Begun.extend (Begun.extend (Begun.extend ⟨position, (0xf0 + n / 0x40000).toUInt8, 1, 3, n / 0x40000,
          if n / 0x40000 = 0 then 0x90 else 0x80, if n / 0x40000 = 4 then 0x8f else 0xbf⟩
          (0x80 + n / 0x1000 % 0x40).toUInt8) (0x80 + n / 0x40 % 0x40).toUInt8)
          (0x80 + n % 0x40).toUInt8).bits = n := by
      simp only [Begun.extend, h2]
      omega
    rw [this, back]
    rfl

/-- from any position, a text is read back from its bytes -/
theorem decodeFrom_encode (position : Nat) (t : Text) : decodeFrom position none (encode t) = .ok t := by
  induction t generalizing position with
  | nil => rfl
  | cons c rest ih =>
    show decodeFrom position none (encodeChar c ++ encode rest) = _
    rw [decodeFrom_encodeChar, ih]
    rfl

/-- every text is read back from its bytes -/
theorem decode_encode (t : Text) : decode (encode t) = .ok t := decodeFrom_encode 0 t

end Linewise.Utf8
