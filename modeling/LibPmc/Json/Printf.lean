import LibPmc.Json.Layout
import Mathlib.Algebra.Order.Ring.Nat
/-!
# Printed numbers

What `printf` and `std::to_string` make of numbers. It is in the grammar of JSON; what they
print in hexadecimal has nothing to escape.
-/
namespace Cstr

/-- `%u` -/
def decimal (n : Nat) : List UInt8 := (Nat.toDigits 10 n).map fun c => UInt8.ofNat c.toNat

/-- `%0wu`, or `%.wu`. -/
def zeroPadded (w n : Nat) : List UInt8 := List.replicate (w - (decimal n).length) 0x30 ++ decimal n

def minus (i : Int) : List UInt8 := if i < 0 then octets "-" else []

/-- `%d` -/
def signed (i : Int) : List UInt8 := minus i ++ decimal i.natAbs

/-- The nearest integer to a fraction, the even one between two. -/
def roundEven (n d : Nat) : Nat :=
  if 2 * (n % d) < d then n / d
  else if d < 2 * (n % d) then n / d + 1
  else n / d + n / d % 2

/-- The double nearest to an integer of 64 bits, which is an integer again. -/
def toDouble (i : Int) : Int :=
  let unit := 2 ^ (i.natAbs.log2 - 52)
  i.sign * (roundEven i.natAbs unit * unit : Nat)

/-- `%f` of a fraction. -/
def fixed6 (i : Int) (d : Nat) : List UInt8 :=
  let s := roundEven (i.natAbs * 10 ^ 6) d
  minus i ++ decimal (s / 10 ^ 6) ++ octets "." ++ zeroPadded 6 (s % 10 ^ 6)

def hexChar (n : UInt8) : UInt8 := if n < 10 then 0x30 + n else 0x57 + n

/-- `%02x` -/
def hex2 (b : UInt8) : List UInt8 := [hexChar (b / 16), hexChar (b % 16)]

end Cstr

namespace Json

open Cstr

/-! ## Numbers -/

theorem decimal_eq (n : Nat) : decimal n =
    if n < 10 then [UInt8.ofNat (0x30 + n)] else decimal (n / 10) ++ [UInt8.ofNat (0x30 + n % 10)] := by
  have hd : ∀ d < 10, UInt8.ofNat (Nat.digitChar d).toNat = UInt8.ofNat (0x30 + d) := by decide
  unfold decimal
  rw [Nat.toDigits_eq_if (by decide)]
  split
  · next h => rw [List.map_singleton, hd n h]
  · rw [List.map_append, List.map_singleton, hd _ (Nat.mod_lt n (by decide))]

theorem isDigit_ofNat : ∀ d < 10, isDigit (UInt8.ofNat (0x30 + d)) := by decide

theorem digits_decimal (n : Nat) : Digits (decimal n) := by
  induction n using Nat.strong_induction_on with
  | _ n ih =>
    rw [decimal_eq]
    split
    · next h => exact ⟨by simp, List.forall_mem_singleton.2 (isDigit_ofNat n h)⟩
    · refine ⟨by simp, List.forall_mem_append.2 ⟨(ih (n / 10) (by omega)).2, ?_⟩⟩
      exact List.forall_mem_singleton.2 (isDigit_ofNat _ (Nat.mod_lt n (by decide)))

/-- Only the zero starts with a zero. -/
theorem head_decimal {n : Nat} (h : (decimal n).head? = some 0x30) : n = 0 := by
  have hz : ∀ d < 10, UInt8.ofNat (0x30 + d) = 0x30 → d = 0 := by decide
  induction n using Nat.strong_induction_on with
  | _ n ih =>
    rw [decimal_eq] at h
    split at h
    · next hn => exact hz n hn (Option.some.inj h)
    · rw [List.head?_append_of_ne_nil _ (digits_decimal _).1] at h
      have := ih (n / 10) (by omega) h
      omega

theorem isInt_decimal (n : Nat) : IsInt (decimal n) :=
  ⟨digits_decimal n, fun h => by rw [head_decimal h]; rfl⟩

theorem digits_zeroPadded (w n : Nat) : Digits (zeroPadded w n) := by
  have hd := digits_decimal n
  refine ⟨List.append_ne_nil_of_right_ne_nil _ hd.1, List.forall_mem_append.2 ⟨fun b hb => ?_, hd.2⟩⟩
  rw [List.eq_of_mem_replicate hb]
  rfl

theorem minus_cases (i : Int) : minus i = [] ∨ minus i = [0x2d] := by
  unfold minus
  split
  · exact .inr (by decide)
  · exact .inl rfl

theorem isNumber_signed (i : Int) : IsNumber (signed i) :=
  ⟨minus i, decimal i.natAbs, [], [], by simp [signed], minus_cases i, isInt_decimal _, .inl rfl, .inl rfl⟩

theorem isFrac_point {x : List UInt8} (h : Digits x) : IsFrac (octets "." ++ x) :=
  .inr ⟨x, by rw [show octets "." = [0x2e] by decide]; rfl, h⟩

theorem isNumber_fixed6 (i : Int) (d : Nat) : IsNumber (fixed6 i d) := by
  have hf := isFrac_point (digits_zeroPadded 6 (roundEven (i.natAbs * 10 ^ 6) d % 10 ^ 6))
  exact ⟨minus i, _, _, [], by rw [fixed6, List.append_nil, List.append_assoc _ (octets ".")], minus_cases i,
    isInt_decimal _, hf, .inl rfl⟩

/-! ## Hexadecimal digits -/

theorem ascii_hex2 (b : UInt8) : Ascii (hex2 b) := by
  have h : ∀ n < 16, PlainOctet (hexChar (UInt8.ofNat n)) ∧ hexChar (UInt8.ofNat n) < 0x80 := by decide
  have hh {c : UInt8} (hc : c.toNat < 16) : PlainOctet (hexChar c) ∧ hexChar c < 0x80 := by
    rw [← UInt8.ofNat_toNat (x := c)]
    exact h _ hc
  have hb := b.toNat_lt
  refine List.forall_mem_cons.2 ⟨hh ?_, List.forall_mem_singleton.2 (hh ?_)⟩
  · rw [UInt8.toNat_div]
    change b.toNat / 16 < 16
    omega
  · rw [UInt8.toNat_mod]
    exact Nat.mod_lt _ (by decide)

end Json
