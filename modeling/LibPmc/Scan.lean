import LibPmc.Strtok
import Mathlib.Data.List.DropRight
/-!
# Scans over a buffer

Loops that move a pointer while they like what they read, forward or backward, with every
position they read. Off the memory a scan has no defined end.
-/
namespace Cstr

/-- The positions a scan reads, and where it stops. -/
structure Scan where
  log : List Int
  pos : Option Nat

/-- `while(f(*cur)) cur++`, over the memory from position `i` on. -/
def forward (f : UInt8 → Bool) : List UInt8 → Nat → Scan
  | [], i => ⟨[(i : Int)], none⟩
  | c :: l, i =>
    if f c then
      let r := forward f l (i + 1)
      ⟨(i : Int) :: r.log, r.pos⟩
    else ⟨[(i : Int)], some i⟩

/-- `while(f(*--end))`, with `end` at position `i`. -/
def backward (f : UInt8 → Bool) (b : Buf) : Nat → Scan
  | 0 => ⟨[-1], none⟩
  | i + 1 =>
    if b[i]?.any f then
      let r := backward f b i
      ⟨(i : Int) :: r.log, r.pos⟩
    else ⟨[(i : Int)], some i⟩

theorem mem_forward {f : UInt8 → Bool} {l : List UInt8} {i : Nat} {p : Int} :
    p ∈ (forward f l i).log ↔ (i : Int) ≤ p ∧ p ≤ i + (l.takeWhile f).length := by
  induction l generalizing i with
  | nil => simp [forward]; omega
  | cons c l ih =>
    unfold forward
    by_cases h : f c = true
    · rw [if_pos h, List.takeWhile_cons_of_pos h]
      simp only [List.mem_cons, ih, List.length_cons]
      omega
    · rw [if_neg h, List.takeWhile_cons_of_neg h]
      simp
      omega

theorem forward_pos {f : UInt8 → Bool} {l : List UInt8} {i : Nat} :
    (forward f l i).pos = if l.dropWhile f = [] then none else some (i + (l.takeWhile f).length) := by
  induction l generalizing i with
  | nil => rfl
  | cons c l ih =>
    unfold forward
    by_cases h : f c = true
    · rw [if_pos h, List.takeWhile_cons_of_pos h, List.dropWhile_cons_of_pos h]
      dsimp only
      rw [ih, List.length_cons, Nat.add_assoc, Nat.add_comm 1]
    · rw [if_neg h, List.takeWhile_cons_of_neg h, List.dropWhile_cons_of_neg h]
      rfl

/-- A scan backward stops at the octet in front that `f` does not hold of, if not before. -/
theorem backward_stops {f : UInt8 → Bool} {b : Buf} {k i : Nat} (hk : k < i) (hf : b[k]?.any f = false) :
    ∃ p, (backward f b i).pos = some p ∧ k ≤ p ∧ p < i ∧ b[p]?.any f = false ∧
      (∀ q, p < q → q < i → b[q]?.any f = true) ∧ ∀ q ∈ (backward f b i).log, (k : Int) ≤ q ∧ q < i := by
  induction i with
  | zero => cases hk
  | succ i ih =>
    unfold backward
    by_cases h : b[i]?.any f = true
    · have hki : k < i := lt_of_le_of_ne (Nat.le_of_lt_succ hk) fun he => by rw [he, h] at hf; cases hf
      obtain ⟨p, hp, hkp, hpi, hnf, hall, hlog⟩ := ih hki
      rw [if_pos h]
      refine ⟨p, hp, hkp, by omega, hnf, fun q hq hqi => ?_, fun q hq => ?_⟩
      · rcases Nat.lt_succ_iff_lt_or_eq.1 hqi with hlt | rfl
        · exact hall q hq hlt
        · exact h
      · rcases List.mem_cons.1 hq with rfl | hq
        · omega
        · have := hlog q hq
          omega
    · rw [if_neg h]
      refine ⟨i, rfl, by omega, by omega, by simpa using h, fun q hq hqi => by omega, fun q hq => ?_⟩
      obtain rfl := List.mem_singleton.1 hq
      omega

end Cstr
