import Mathlib.Data.Nat.ModEq
import Mathlib.Algebra.Order.Ring.Nat
import Mathlib.Tactic.Ring
import Mathlib.Data.List.GetD
/-!
# Octets, words and memory

A memory is a total map from offsets to octets: code that runs past the end of
a buffer still reads or writes something, and a log kept beside the memory says
where. A word of `w` octets is a number below `256 ^ w`, written high octet
first (`beOctets`) or low octet first (`leOctets`).
-/
namespace Wire

/-- Exactly `n` octets. -/
abbrev Octets (n : Nat) := {l : List UInt8 // l.length = n}

instance (n : Nat) : Inhabited (Octets n) := ⟨⟨List.replicate n 0, by simp⟩⟩

/-- The first `n` octets of a list, filled up with zeros where it is too short. -/
def Octets.ofList (n : Nat) (l : List UInt8) : Octets n :=
  ⟨l.take n ++ List.replicate (n - l.length) 0, by simp; omega⟩

theorem Octets.ofList_val {n : Nat} {l : List UInt8} (h : n ≤ l.length) :
    (Octets.ofList n l).val = l.take n := by
  simp [Octets.ofList, Nat.sub_eq_zero_of_le h]

theorem Octets.ofList_append {n : Nat} (o : Octets n) (r : List UInt8) :
    Octets.ofList n (o.val ++ r) = o := by
  apply Subtype.ext
  rw [Octets.ofList_val (by simp [o.2])]
  simp [o.2]

/-! ## Words -/

/-- The number a list of octets holds, high octet first. -/
def beNat : List UInt8 → Nat
  | [] => 0
  | b :: bs => b.toNat * 256 ^ bs.length + beNat bs

/-- The low `w` octets of a number, high octet first. -/
def beOctets : Nat → Nat → List UInt8
  | 0, _ => []
  | w + 1, n => UInt8.ofNat (n / 256 ^ w) :: beOctets w n

@[simp] theorem beOctets_length (w n : Nat) : (beOctets w n).length = w := by
  induction w with
  | zero => rfl
  | succ w ih => simp [beOctets, ih]

theorem beNat_lt (l : List UInt8) : beNat l < 256 ^ l.length := by
  induction l with
  | nil => simp [beNat]
  | cons b bs ih =>
    have hb : b.toNat + 1 ≤ 256 := b.toNat_lt
    have hm : (b.toNat + 1) * 256 ^ bs.length ≤ 256 * 256 ^ bs.length := Nat.mul_le_mul_right _ hb
    simp only [beNat, List.length_cons, pow_succ]
    rw [Nat.add_mul, Nat.one_mul] at hm
    omega

theorem beNat_append (a b : List UInt8) : beNat (a ++ b) = beNat a * 256 ^ b.length + beNat b := by
  induction a with
  | nil => simp [beNat]
  | cons x a ih =>
    rw [List.cons_append, beNat, beNat, ih, List.length_append, pow_add]
    ring

theorem beNat_beOctets (w n : Nat) : beNat (beOctets w n) = n % 256 ^ w := by
  induction w with
  | zero => simp [beOctets, beNat, Nat.mod_one]
  | succ w ih =>
    have e : (UInt8.ofNat (n / 256 ^ w)).toNat = n / 256 ^ w % 256 := by simp
    rw [beOctets, beNat, ih, beOctets_length, e, pow_succ, Nat.mod_mul]
    ring

/-- Writing a word keeps it, as long as it fits. -/
theorem beNat_beOctets_of_lt {w n : Nat} (h : n < 256 ^ w) : beNat (beOctets w n) = n := by
  rw [beNat_beOctets, Nat.mod_eq_of_lt h]

/-- Only the low octets of a number are written. -/
theorem beOctets_mod (w n k : Nat) (h : w ≤ k) : beOctets w (n % 256 ^ k) = beOctets w n := by
  induction w with
  | zero => rfl
  | succ w ih =>
    have e : n % 256 ^ k / 256 ^ w % 256 = n / 256 ^ w % 256 := by
      obtain ⟨j, rfl⟩ : ∃ j, k = w + 1 + j := ⟨k - (w + 1), by omega⟩
      rw [show 256 ^ (w + 1 + j) = 256 ^ w * (256 * 256 ^ j) by rw [pow_add, pow_succ]; ring,
        Nat.mod_mul_right_div_self, Nat.mod_mul_right_mod]
    rw [beOctets, beOctets, ih (by omega)]
    congr 1
    apply UInt8.toNat_inj.1
    simpa using e

theorem beOctets_beNat (l : List UInt8) : beOctets l.length (beNat l) = l := by
  induction l with
  | nil => rfl
  | cons b bs ih =>
    have hpos : 0 < 256 ^ bs.length := Nat.pow_pos (by omega)
    have hd : (b.toNat * 256 ^ bs.length + beNat bs) / 256 ^ bs.length = b.toNat := by
      rw [Nat.add_comm, Nat.add_mul_div_right _ _ hpos, Nat.div_eq_of_lt (beNat_lt bs), Nat.zero_add]
    have hm : (b.toNat * 256 ^ bs.length + beNat bs) % 256 ^ bs.length = beNat bs := by
      rw [Nat.add_comm, Nat.add_mul_mod_self_right, Nat.mod_eq_of_lt (beNat_lt bs)]
    rw [List.length_cons, beOctets, beNat, hd, ← beOctets_mod _ _ _ (le_refl _), hm, ih]
    simp

/-- The low `w` octets of a number, low octet first. -/
def leOctets (w n : Nat) : List UInt8 := (beOctets w n).reverse

/-- The number a list of octets holds, low octet first. -/
def leNat (l : List UInt8) : Nat := beNat l.reverse

@[simp] theorem leOctets_length (w n : Nat) : (leOctets w n).length = w := by simp [leOctets]

theorem leNat_leOctets_of_lt {w n : Nat} (h : n < 256 ^ w) : leNat (leOctets w n) = n := by
  simp [leNat, leOctets, beNat_beOctets_of_lt h]

/-- A type whose values are words of `width` octets. -/
class Word (α : Type) where
  width : Nat
  toNat : α → Nat
  ofNat : Nat → α
  toNat_lt : ∀ a, toNat a < 256 ^ width
  ofNat_toNat : ∀ a, ofNat (toNat a) = a
  toNat_ofNat : ∀ n, n < 256 ^ width → toNat (ofNat n) = n

instance : Word UInt8 where
  width := 1
  toNat := UInt8.toNat
  ofNat := UInt8.ofNat
  toNat_lt a := by simpa using a.toNat_lt
  ofNat_toNat a := by simp
  toNat_ofNat n h := by simpa using h

instance : Word UInt16 where
  width := 2
  toNat := UInt16.toNat
  ofNat := UInt16.ofNat
  toNat_lt a := by simpa using a.toNat_lt
  ofNat_toNat a := by simp
  toNat_ofNat n h := by simpa using h

instance : Word UInt32 where
  width := 4
  toNat := UInt32.toNat
  ofNat := UInt32.ofNat
  toNat_lt a := by simpa using a.toNat_lt
  ofNat_toNat a := by simp
  toNat_ofNat n h := by simpa using h

instance : Word UInt64 where
  width := 8
  toNat := UInt64.toNat
  ofNat := UInt64.ofNat
  toNat_lt a := by simpa using a.toNat_lt
  ofNat_toNat a := by simp
  toNat_ofNat n h := by simpa using h

instance : Word Int8 where
  width := 1
  toNat a := a.toUInt8.toNat
  ofNat n := (UInt8.ofNat n).toInt8
  toNat_lt a := by simpa using a.toUInt8.toNat_lt
  ofNat_toNat a := by simp
  toNat_ofNat n h := by simpa using h

instance : Word Int16 where
  width := 2
  toNat a := a.toUInt16.toNat
  ofNat n := (UInt16.ofNat n).toInt16
  toNat_lt a := by simpa using a.toUInt16.toNat_lt
  ofNat_toNat a := by simp
  toNat_ofNat n h := by simpa using h

instance : Word Int32 where
  width := 4
  toNat a := a.toUInt32.toNat
  ofNat n := (UInt32.ofNat n).toInt32
  toNat_lt a := by simpa using a.toUInt32.toNat_lt
  ofNat_toNat a := by simp
  toNat_ofNat n h := by simpa using h

instance : Word Int64 where
  width := 8
  toNat a := a.toUInt64.toNat
  ofNat n := (UInt64.ofNat n).toInt64
  toNat_lt a := by simpa using a.toUInt64.toNat_lt
  ofNat_toNat a := by simp
  toNat_ofNat n h := by simpa using h

/-! ## Memory -/

/-- The octets of a buffer and of whatever lies behind it. -/
abbrev Mem := Nat → UInt8

/-- A memory that starts with the given octets. -/
def Mem.ofList (l : List UInt8) : Mem := fun i => l.getD i 0

/-- The `n` octets from `off` on. -/
def Mem.slice (m : Mem) (off : Nat) : Nat → List UInt8
  | 0 => []
  | n + 1 => m off :: slice m (off + 1) n

@[simp] theorem Mem.slice_length (m : Mem) (off n : Nat) : (m.slice off n).length = n := by
  induction n generalizing off with
  | zero => rfl
  | succ n ih => simp [slice, ih]

/-- `n` octets of memory, as an array of `n` octets. -/
def Mem.octets (m : Mem) (off n : Nat) : Octets n := ⟨m.slice off n, m.slice_length off n⟩

/-- The word of `w` octets at `off`, high octet first. -/
def Mem.word (m : Mem) (off w : Nat) : Nat := beNat (m.slice off w)

/-- Overwrite the octets from `off` on. -/
def Mem.store (m : Mem) (off : Nat) (l : List UInt8) : Mem := fun i =>
  if off ≤ i ∧ i < off + l.length then l.getD (i - off) 0 else m i

theorem Mem.slice_congr {m m' : Mem} {off n : Nat} (h : ∀ i, off ≤ i → i < off + n → m i = m' i) :
    m.slice off n = m'.slice off n := by
  induction n generalizing off with
  | zero => rfl
  | succ n ih =>
    rw [slice, slice, h off (le_refl _) (by omega), ih (fun i h1 h2 => h i (by omega) (by omega))]

theorem Mem.slice_add (m : Mem) (off a b : Nat) :
    m.slice off (a + b) = m.slice off a ++ m.slice (off + a) b := by
  induction a generalizing off with
  | zero => simp [slice]
  | succ a ih => rw [Nat.succ_add, slice, slice, ih]; simp [Nat.add_comm, Nat.add_left_comm]

theorem Mem.take_slice (m : Mem) (off : Nat) {k n : Nat} (h : k ≤ n) : (m.slice off n).take k = m.slice off k := by
  obtain ⟨j, rfl⟩ := Nat.exists_eq_add_of_le h
  rw [m.slice_add]; simp

theorem Mem.drop_slice (m : Mem) (off : Nat) {k n : Nat} (h : k ≤ n) :
    (m.slice off n).drop k = m.slice (off + k) (n - k) := by
  obtain ⟨j, rfl⟩ := Nat.exists_eq_add_of_le h
  rw [m.slice_add]; simp

theorem Mem.ofList_octets (m : Mem) (off : Nat) {k n : Nat} (h : k ≤ n) :
    Octets.ofList k (m.slice off n) = m.octets off k := by
  apply Subtype.ext
  rw [Octets.ofList_val (by simpa using h), m.take_slice off h]; rfl

theorem Mem.store_apply_of_outside {m : Mem} {off : Nat} {l : List UInt8} {i : Nat}
    (h : i < off ∨ off + l.length ≤ i) : m.store off l i = m i := by
  rw [store, if_neg (by omega)]

@[simp] theorem Mem.store_nil (m : Mem) (off : Nat) : m.store off [] = m := by
  funext i; simp [store]

theorem Mem.store_append (m : Mem) (off : Nat) (a b : List UInt8) :
    (m.store off a).store (off + a.length) b = m.store off (a ++ b) := by
  funext i
  simp only [store, List.length_append]
  by_cases hb : off + a.length ≤ i ∧ i < off + a.length + b.length
  · rw [if_pos hb, if_pos (by omega), List.getD_append_right _ _ _ _ (by omega)]
    congr 1; omega
  · rw [if_neg hb]
    by_cases ha : off ≤ i ∧ i < off + a.length
    · rw [if_pos ha, if_pos (by omega), List.getD_append _ _ _ _ (by omega)]
    · rw [if_neg ha, if_neg (by omega)]

theorem Mem.slice_store (m : Mem) (off : Nat) (l : List UInt8) : (m.store off l).slice off l.length = l := by
  induction l generalizing m off with
  | nil => rfl
  | cons b bs ih =>
    rw [List.length_cons, slice, show b :: bs = [b] ++ bs from rfl, ← store_append]
    simp only [List.length_singleton, ih]
    rw [store_apply_of_outside (.inl (by omega))]
    simp [store]

theorem Mem.slice_store_of_length (m : Mem) (off : Nat) {l : List UInt8} {n : Nat} (h : l.length = n) :
    (m.store off l).slice off n = l := by
  subst h
  exact m.slice_store off l

/-- Reading beside what was written reads the old octets. -/
theorem Mem.slice_store_of_disjoint {m : Mem} {off : Nat} {l : List UInt8} {p n : Nat}
    (h : p + n ≤ off ∨ off + l.length ≤ p) : (m.store off l).slice p n = m.slice p n :=
  slice_congr fun _ h1 h2 => store_apply_of_outside (by omega)

end Wire
