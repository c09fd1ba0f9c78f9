/-
  Base64 with padding: bytes as text over an alphabet of 64 letters.

  Three bytes are four letters of six bits each.  A last group of one or two bytes is filled up with
  zero bits, and with `=` for the letters that stand for no byte.  `decode` is strict: it refuses a
  letter outside the alphabet, a wrong number of letters, and filling bits that are not zero.

  * `value_letter`   — the two tables are inverse to each other;
  * `quantum_one`, `quantum_two`, `quantum_three` — what the three kinds of group decode to;
  * `decode_encode`  — the round trip.
-/
import Mathlib.Data.List.Basic

namespace AttendanceApp.Base64

/-! ## The alphabet -/

/-- The letter of six bits. -/
def letter (n : Nat) : Char :=
  if n < 26 then Char.ofNat (65 + n)
  else if n < 52 then Char.ofNat (71 + n)
  else if n < 62 then Char.ofNat (n - 4)
  else if n = 62 then '+'
  else '/'

/-- The six bits of a letter. -/
def value (c : Char) : Option Nat :=
  if 'A' ≤ c ∧ c ≤ 'Z' then some (c.toNat - 65)
  else if 'a' ≤ c ∧ c ≤ 'z' then some (c.toNat - 71)
  else if '0' ≤ c ∧ c ≤ '9' then some (c.toNat + 4)
  else if c = '+' then some 62
  else if c = '/' then some 63
  else none

/-- The letters stand for the numbers below 64. -/
theorem value_letter : ∀ n < 64, value (letter n) = some n := by decide

theorem value_pad : value '=' = none := rfl

/-! ## Encoding -/

/-- Three bytes become four letters; one or two at the end are padded with '='. -/
def encode : List UInt8 → List Char
  | [] => []
  | [a] => [letter (a.toNat / 4), letter (a.toNat % 4 * 16), '=', '=']
  | [a, b] =>
    [letter (a.toNat / 4), letter (a.toNat % 4 * 16 + b.toNat / 16), letter (b.toNat % 16 * 4), '=']
  | a :: b :: c :: rest =>
    letter (a.toNat / 4) :: letter (a.toNat % 4 * 16 + b.toNat / 16) ::
      letter (b.toNat % 16 * 4 + c.toNat / 64) :: letter (c.toNat % 64) :: encode rest

/-! ## Decoding -/

/-- The bytes of a group of four letters. -/
def quantum (w x y z : Char) : Option (List UInt8) :=
  match value w, value x, value y, value z with
  | some p, some q, some r, some s =>
    some [UInt8.ofNat (p * 4 + q / 16), UInt8.ofNat (q % 16 * 16 + r / 4),
      UInt8.ofNat (r % 4 * 64 + s)]
  | some p, some q, some r, none =>
    if z = '=' ∧ r % 4 = 0 then
      some [UInt8.ofNat (p * 4 + q / 16), UInt8.ofNat (q % 16 * 16 + r / 4)]
    else none
  | some p, some q, none, none =>
    if y = '=' ∧ z = '=' ∧ q % 16 = 0 then some [UInt8.ofNat (p * 4 + q / 16)] else none
  | _, _, _, _ => none

/-- Only the last group may be shorter than three bytes. -/
def decode : List Char → Option (List UInt8)
  | [] => some []
  | w :: x :: y :: z :: rest =>
    match quantum w x y z with
    | some [a, b, c] => (decode rest).map fun bytes => a :: b :: c :: bytes
    | some bytes => if rest = [] then some bytes else none
    | none => none
  | _ => none

/-! ## The round trip -/

section Quantum

variable (a b c : UInt8)

/-- One byte comes back from its two letters. -/
theorem quantum_one :
    quantum (letter (a.toNat / 4)) (letter (a.toNat % 4 * 16)) '=' '=' = some [a] := by
  have ha := a.toNat_lt
  have hp := value_letter (a.toNat / 4) (by omega)
  have hq := value_letter (a.toNat % 4 * 16) (by omega)
  have hbyte : a.toNat / 4 * 4 + a.toNat % 4 * 16 / 16 = a.toNat := by omega
  have hfill : a.toNat % 4 * 16 % 16 = 0 := by omega
  simp only [quantum, hp, hq, value_pad]
  rw [if_pos ⟨trivial, trivial, hfill⟩, hbyte, UInt8.ofNat_toNat]

/-- Two bytes come back from their three letters. -/
theorem quantum_two :
    quantum (letter (a.toNat / 4)) (letter (a.toNat % 4 * 16 + b.toNat / 16))
      (letter (b.toNat % 16 * 4)) '=' = some [a, b] := by
  have ha := a.toNat_lt
  have hb := b.toNat_lt
  have hp := value_letter (a.toNat / 4) (by omega)
  have hq := value_letter (a.toNat % 4 * 16 + b.toNat / 16) (by omega)
  have hr := value_letter (b.toNat % 16 * 4) (by omega)
  have hfirst : a.toNat / 4 * 4 + (a.toNat % 4 * 16 + b.toNat / 16) / 16 = a.toNat := by omega
  have hsecond : (a.toNat % 4 * 16 + b.toNat / 16) % 16 * 16 + b.toNat % 16 * 4 / 4 = b.toNat := by
    omega
  have hfill : b.toNat % 16 * 4 % 4 = 0 := by omega
  simp only [quantum, hp, hq, hr, value_pad]
  rw [if_pos ⟨trivial, hfill⟩, hfirst, hsecond, UInt8.ofNat_toNat, UInt8.ofNat_toNat]

/-- Three bytes come back from their four letters. -/
theorem quantum_three :
    quantum (letter (a.toNat / 4)) (letter (a.toNat % 4 * 16 + b.toNat / 16))
      (letter (b.toNat % 16 * 4 + c.toNat / 64)) (letter (c.toNat % 64)) = some [a, b, c] := by
  have ha := a.toNat_lt
  have hb := b.toNat_lt
  have hc := c.toNat_lt
  have hp := value_letter (a.toNat / 4) (by omega)
  have hq := value_letter (a.toNat % 4 * 16 + b.toNat / 16) (by omega)
  have hr := value_letter (b.toNat % 16 * 4 + c.toNat / 64) (by omega)
  have hs := value_letter (c.toNat % 64) (by omega)
  have hfirst : a.toNat / 4 * 4 + (a.toNat % 4 * 16 + b.toNat / 16) / 16 = a.toNat := by omega
  have hsecond : (a.toNat % 4 * 16 + b.toNat / 16) % 16 * 16 +
      (b.toNat % 16 * 4 + c.toNat / 64) / 4 = b.toNat := by omega
  have hthird : (b.toNat % 16 * 4 + c.toNat / 64) % 4 * 64 + c.toNat % 64 = c.toNat := by omega
  simp only [quantum, hp, hq, hr, hs]
  rw [hfirst, hsecond, hthird, UInt8.ofNat_toNat, UInt8.ofNat_toNat, UInt8.ofNat_toNat]

end Quantum

/-- **The round trip.** -/
theorem decode_encode (bytes : List UInt8) : decode (encode bytes) = some bytes := by
  induction bytes using encode.induct with
  | case1 => rfl
  | case2 a =>
    rw [encode, decode, quantum_one]
    rfl
  | case3 a b =>
    rw [encode, decode, quantum_two]
    rfl
  | case4 a b c rest ih =>
    rw [encode, decode, quantum_three]
    show (decode (encode rest)).map _ = _
    rw [ih]
    rfl

end AttendanceApp.Base64
