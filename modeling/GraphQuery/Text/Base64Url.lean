/-!
# Base 64 for URLs

Bytes are written in digits of six bits, without padding. Reading is strict: the unused bits of the last digit must be
zero, and no length leaves a lone digit. What was written reads back (`Base64Url.decode_encode`).
-/

namespace GraphQuery
namespace Base64Url

/-- The digits in the order of their values. -/
def alphabet : List Char := "ABCDEFGHIJKLMNOPQRSTUVWXYZabcdefghijklmnopqrstuvwxyz0123456789-_".toList

/-- The digit of a value below 64. -/
def digit (n : Nat) : Char := alphabet.getD n 'A'

/-- The value of a digit. -/
def value? (c : Char) : Option Nat :=
  let i := alphabet.idxOf c
  if i < 64 then some i else none

/-- The digits of a sequence of bytes. -/
def encode : List UInt8 → List Char
  | a :: b :: c :: rest =>
    let n := (a.toNat * 256 + b.toNat) * 256 + c.toNat
    digit (n / 262144) :: digit (n / 4096 % 64) :: digit (n / 64 % 64) :: digit (n % 64) :: encode rest
  | [a, b] =>
    let n := (a.toNat * 256 + b.toNat) * 4
    [digit (n / 4096), digit (n / 64 % 64), digit (n % 64)]
  | [a] =>
    let n := a.toNat * 16
    [digit (n / 64), digit (n % 64)]
  | [] => []

/-- The bytes of a sequence of digits, if it is a written form. -/
def decode : List Char → Option (List UInt8)
  | a :: b :: c :: d :: rest => do
    let n := (((← value? a) * 64 + (← value? b)) * 64 + (← value? c)) * 64 + (← value? d)
    let bytes ← decode rest
    return UInt8.ofNat (n / 65536) :: UInt8.ofNat (n / 256 % 256) :: UInt8.ofNat (n % 256) :: bytes
  | [a, b, c] => do
    let n := ((← value? a) * 64 + (← value? b)) * 64 + (← value? c)
    if n % 4 = 0 then some [UInt8.ofNat (n / 1024), UInt8.ofNat (n / 4 % 256)] else none
  | [a, b] => do
    let n := (← value? a) * 64 + (← value? b)
    if n % 16 = 0 then some [UInt8.ofNat (n / 16)] else none
  | [_] => none
  | [] => some []

/-! ## Reading accepts exactly the written forms -/

/-- No two values share a digit. -/
theorem nodup_alphabet : alphabet.Nodup := by decide +kernel

/-- A digit has the value it is written for. -/
theorem value?_digit {n : Nat} (h : n < 64) : value? (digit n) = some n := by
  have hn : n < alphabet.length := h
  rw [digit, List.getD_eq_getElem?_getD, List.getElem?_eq_getElem hn, Option.getD_some, value?,
    nodup_alphabet.idxOf_getElem, if_pos h]

/-- What was written reads back. -/
theorem decode_encode (bs : List UInt8) : decode (encode bs) = some bs := by
  fun_induction encode bs with
  | case1 a b c rest n ih =>
    have ha := a.toNat_lt
    have hb := b.toNat_lt
    have hc := c.toNat_lt
    have h1 : n / 262144 < 64 := by omega
    have key : ((n / 262144 * 64 + n / 4096 % 64) * 64 + n / 64 % 64) * 64 + n % 64 = n := by omega
    simp only [decode, value?_digit h1, value?_digit (Nat.mod_lt _ (by decide : 0 < 64)), ih, key, Option.bind_eq_bind,
      Option.bind_some, Option.pure_def]
    have e1 : n / 65536 = a.toNat := by omega
    have e2 : n / 256 % 256 = b.toNat := by omega
    have e3 : n % 256 = c.toNat := by omega
    simp [e1, e2, e3]
  | case2 a b n =>
    have ha := a.toNat_lt
    have hb := b.toNat_lt
    have h1 : n / 4096 < 64 := by omega
    have key : (n / 4096 * 64 + n / 64 % 64) * 64 + n % 64 = n := by omega
    have e0 : n % 4 = 0 := by omega
    have e1 : n / 1024 = a.toNat := by omega
    have e2 : n / 4 % 256 = b.toNat := by omega
    simp [decode, value?_digit h1, value?_digit (Nat.mod_lt _ (by decide : 0 < 64)), key, e0, e1, e2]
  | case3 a n =>
    have ha := a.toNat_lt
    have h1 : n / 64 < 64 := by omega
    have key : n / 64 * 64 + n % 64 = n := by omega
    have e0 : n % 16 = 0 := by omega
    have e1 : n / 16 = a.toNat := by omega
    simp [decode, value?_digit h1, value?_digit (Nat.mod_lt _ (by decide : 0 < 64)), key, e0, e1]
  | case4 => rfl

end Base64Url
end GraphQuery
