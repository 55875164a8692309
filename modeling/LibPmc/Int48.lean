import LibPmc.Emit
/-!
# Signed 48 bits integers

The sign is carried by hand: from bit 63 to bit 15 of the high half when a value is built,
and back when it is parsed. What is left out on the way back are the bits between.
-/
namespace LibPmc

open Wire Wire.Prog

def INT48_MIN : Int64 := -0x7fffffffffff - 1
def INT48_MAX : Int64 := 0x7fffffffffff
def INT16_MAX : UInt16 := 0x7fff

def u16_sig_bit : UInt16 := (1 : UInt16) <<< 15
def u64_sig_bit : UInt64 := (1 : UInt64) <<< 63

/-- The high half of a value that is built. -/
def high48 (val : Int64) : UInt16 :=
  let high := ((val >>> 32) &&& INT16_MAX.toUInt64.toInt64).toUInt64.toUInt16
  if val < 0 then high ||| u16_sig_bit else high

/-- The value of the two halves that are parsed. -/
def val48 (high : UInt16) (low : UInt32) : Int64 :=
  let ret := low.toUInt64 ||| ((high.toUInt64 &&& INT16_MAX.toUInt64) <<< 32)
  (if high &&& u16_sig_bit ≠ 0 then ret ||| u64_sig_bit else ret).toInt64

/-- `proc48(int64_t &val)` -/
def proc48Int64 (val : Int64) : P Int64 := do
  let build ← building
  if build ∧ (val < INT48_MIN ∨ val > INT48_MAX) then fail (some .VAL)
  else
    let high ← proc (high48 val)
    let low ← proc val.toUInt64.toUInt32
    return if build then val else val48 high low

/-! ## Bit by bit -/

theorem getLsbD_mask (i : Nat) : (0x7fff#64).getLsbD i = decide (i < 15) := by
  change Nat.testBit (2 ^ 15 - 1) i = decide (i < 15)
  exact Nat.testBit_two_pow_sub_one 15 i

theorem lt_zero_iff_msb (v : Int64) : v < 0 ↔ v.toBitVec.msb = true := by
  rw [Int64.lt_iff_toBitVec_slt, ← BitVec.slt_zero_eq_msb]
  rfl

theorem getLsbD_sign (i : Nat) : u16_sig_bit.toBitVec.getLsbD i = decide (i = 15) := by
  change Nat.testBit (2 ^ 15) i = decide (i = 15)
  rw [Nat.testBit_two_pow]
  exact decide_eq_decide.2 eq_comm

theorem getLsbD_high48 (v : Int64) {i : Nat} (hi : i < 16) : (high48 v).toBitVec.getLsbD i =
    (if i < 15 then v.toBitVec.getLsbD (32 + i) else v.toBitVec.msb) := by
  have hs : (((v >>> 32) &&& INT16_MAX.toUInt64.toInt64).toUInt64.toUInt16).toBitVec.getLsbD i =
      (v.toBitVec.getLsbD (32 + i) && decide (i < 15)) := by
    have e : ((v >>> 32) &&& INT16_MAX.toUInt64.toInt64).toUInt64.toBitVec =
        v.toBitVec.sshiftRight 32 &&& 0x7fff#64 := rfl
    have h64 : 32 + i < 64 := by omega
    have h64' : ¬ 64 ≤ i := by omega
    rw [UInt64.toBitVec_toUInt16, BitVec.getLsbD_setWidth, e, BitVec.getLsbD_and, getLsbD_mask,
      BitVec.getLsbD_sshiftRight, if_pos h64]
    simp [hi, h64']
  unfold high48
  by_cases hn : v < 0
  · have hm := (lt_zero_iff_msb v).1 hn
    simp only [if_pos hn, UInt16.toBitVec_or, BitVec.getLsbD_or, hs, getLsbD_sign, hm]
    split
    · have : ¬ i = 15 := by omega
      simp [*]
    · have : i = 15 := by omega
      simp [*]
  · have hm : v.toBitVec.msb = false := Bool.eq_false_iff.2 fun h => hn ((lt_zero_iff_msb v).2 h)
    simp only [if_neg hn, hs, hm]
    split <;> simp [*]

theorem and_sign_ne_zero (h : UInt16) : h &&& u16_sig_bit ≠ 0 ↔ h.toBitVec.getLsbD 15 = true := by
  have e : (h &&& u16_sig_bit).toBitVec = h.toBitVec &&& BitVec.twoPow 16 15 := rfl
  rw [ne_eq, ← UInt16.toBitVec_inj, e, BitVec.and_twoPow]
  cases h.toBitVec.getLsbD 15 <;> decide

theorem getLsbD_val48 (high : UInt16) (low : UInt32) {i : Nat} (hi : i < 64) : (val48 high low).toBitVec.getLsbD i =
    (if i < 32 then low.toBitVec.getLsbD i else if i < 47 then high.toBitVec.getLsbD (i - 32)
      else high.toBitVec.getLsbD 15 && decide (i = 63)) := by
  have hr : (low.toUInt64 ||| ((high.toUInt64 &&& INT16_MAX.toUInt64) <<< 32)).toBitVec.getLsbD i =
      (if i < 32 then low.toBitVec.getLsbD i else if i < 47 then high.toBitVec.getLsbD (i - 32) else false) := by
    have e : (low.toUInt64 ||| ((high.toUInt64 &&& INT16_MAX.toUInt64) <<< 32)).toBitVec =
      low.toBitVec.setWidth 64 ||| ((high.toBitVec.setWidth 64 &&& 0x7fff#64) <<< 32) := rfl
    rw [e, BitVec.getLsbD_or, BitVec.getLsbD_shiftLeft, BitVec.getLsbD_and, getLsbD_mask, BitVec.getLsbD_setWidth,
      BitVec.getLsbD_setWidth]
    by_cases h32 : i < 32
    · simp [h32, hi]
    · have hl : low.toBitVec.getLsbD i = false := BitVec.getLsbD_of_ge _ _ (by omega)
      have h47 : i - 32 < 15 ↔ i < 47 := by omega
      by_cases h : i < 47 <;> simp [h32, hi, hl, h47, h, show i - 32 < 64 by omega]
  have hb : u64_sig_bit.toBitVec.getLsbD i = decide (i = 63) := by
    change (BitVec.twoPow 64 63).getLsbD i = _
    rw [BitVec.getLsbD_twoPow]
    simp [eq_comm]
  unfold val48
  by_cases hs : high &&& u16_sig_bit ≠ 0
  · simp only [if_pos hs, UInt64.toBitVec_toInt64, UInt64.toBitVec_or _ u64_sig_bit, BitVec.getLsbD_or, hr, hb,
      (and_sign_ne_zero high).1 hs, Bool.true_and]
    by_cases h47 : i < 47
    · have h63 : ¬ i = 63 := by omega
      rw [if_pos h47, if_pos h47, decide_eq_false h63, Bool.or_false]
    · rw [if_neg h47, if_neg h47, if_neg (show ¬ i < 32 by omega), if_neg (show ¬ i < 32 by omega), Bool.false_or]
  · have hn : high.toBitVec.getLsbD 15 = false := Bool.eq_false_iff.2 fun h => hs ((and_sign_ne_zero high).2 h)
    simp only [if_neg hs, UInt64.toBitVec_toInt64, hr, hn, Bool.false_and]

/-- What comes back: the low 47 bits and the sign, and nothing between them. -/
theorem getLsbD_back (v : Int64) {i : Nat} (hi : i < 64) :
    (val48 (high48 v) v.toUInt64.toUInt32).toBitVec.getLsbD i =
      (if i < 47 then v.toBitVec.getLsbD i else v.toBitVec.msb && decide (i = 63)) := by
  rw [getLsbD_val48 _ _ hi, getLsbD_high48 v (show 15 < 16 by decide)]
  by_cases h32 : i < 32
  · have e : v.toUInt64.toUInt32.toBitVec = v.toBitVec.setWidth 32 := rfl
    rw [if_pos h32, if_pos (show i < 47 by omega), e, BitVec.getLsbD_setWidth, decide_eq_true h32, Bool.true_and]
  · rw [if_neg h32]
    by_cases h47 : i < 47
    · rw [if_pos h47, if_pos h47, getLsbD_high48 v (show i - 32 < 16 by omega), if_pos (show i - 32 < 15 by omega),
        show 32 + (i - 32) = i by omega]
    · rw [if_neg h47, if_neg h47]
      rfl

/-! ## The range -/

/-- `INT48_MIN <= v <= INT48_MAX` -/
def InRange48 (v : Int64) : Prop := INT48_MIN ≤ v ∧ v ≤ INT48_MAX

instance (v : Int64) : Decidable (InRange48 v) := by unfold InRange48; infer_instance

theorem toInt_of_inRange48 {v : Int64} (h : InRange48 v) : -2 ^ 47 ≤ v.toInt ∧ v.toInt < 2 ^ 47 := by
  have hl : -2 ^ 47 ≤ v.toInt := Int64.le_iff_toInt_le.1 h.1
  have hu : v.toInt ≤ 2 ^ 47 - 1 := Int64.le_iff_toInt_le.1 h.2
  omega

theorem back_of_nonneg {v : Int64} (h : InRange48 v) (h0 : 0 ≤ v) : val48 (high48 v) v.toUInt64.toUInt32 = v := by
  have hn : v.toBitVec.toNat < 2 ^ 47 := by
    have hi := toInt_of_inRange48 h
    have ht : v.toInt = v.toBitVec.toNat := by
      rw [Int64.toNat_toBitVec_of_le h0, Int64.cast_toNatClampNeg v h0]
    omega
  have hm : v.toBitVec.msb = false := by
    rw [BitVec.msb_eq_decide]
    exact decide_eq_false (by omega)
  apply Int64.toBitVec_inj.1
  apply BitVec.eq_of_getLsbD_eq
  intro i hi
  rw [getLsbD_back v hi, hm, Bool.false_and]
  split
  · rfl
  · exact (Nat.testBit_lt_two_pow (lt_of_lt_of_le hn (Nat.pow_le_pow_right (by decide) (by omega)))).symm

/-- Bit 47 of a negative value is set, and lost. -/
theorem back_of_neg {v : Int64} (h : InRange48 v) (h0 : v < 0) : val48 (high48 v) v.toUInt64.toUInt32 ≠ v := by
  intro he
  have hb := getLsbD_back v (show 47 < 64 by decide)
  rw [he] at hb
  have hi := toInt_of_inRange48 h
  have hlt : v.toInt < 0 := Int64.lt_iff_toInt_lt.1 h0
  have hn : v.toBitVec.toNat < 2 ^ 64 := v.toBitVec.isLt
  have ht : v.toInt = (v.toBitVec.toNat : Int).bmod (2 ^ 64) := BitVec.toInt_eq_toNat_bmod _
  have hbit : v.toBitVec.getLsbD 47 = true := by
    change Nat.testBit v.toBitVec.toNat 47 = true
    rw [Nat.testBit_eq_decide_div_mod_eq]
    have := Int.bmod_def (v.toBitVec.toNat : Int) (2 ^ 64)
    apply decide_eq_true
    omega
  rw [hbit, if_neg (by decide), decide_eq_false (by decide), Bool.and_false] at hb
  cases hb

/-! ## The program -/

theorem emits_proc48Int64 {v : Int64} (h : InRange48 v) : Emits (proc48Int64 v) 6 := by
  unfold proc48Int64
  refine Emits.building ?_
  rw [if_neg fun hn => hn.2.elim (Int64.not_lt.2 h.1) (Int64.not_lt.2 h.2)]
  exact Emits.cast (by rfl)

theorem write_proc48Int64 {v : Int64} (h : InRange48 v) : (proc48Int64 v).write =
    ⟨beOctets 2 (high48 v).toNat ++ beOctets 4 v.toUInt64.toUInt32.toNat, some v, none⟩ := by
  unfold proc48Int64
  change Prog.write (ite _ _ _) = _
  rw [if_neg fun hn => hn.2.elim (Int64.not_lt.2 h.1) (Int64.not_lt.2 h.2)]
  rfl

/-- The two halves, built without a look at the value and parsed by the parse mode. -/
theorem trip_halves (v t : Int64) : Trip (do
    let high ← proc (high48 v)
    let low ← proc v.toUInt64.toUInt32
    return val48 high low : P Int64) (proc48Int64 t) := by
  have h : Trip (do
      let high ← proc (high48 v)
      let low ← proc v.toUInt64.toUInt32
      return val48 high low : P Int64) (do
      let high ← proc (high48 t)
      let low ← proc t.toUInt64.toUInt32
      return val48 high low) := inferInstance
  exact ⟨h.trip⟩

theorem read_proc48Int64 (v t : Int64) (h : InRange48 v) (r : List UInt8) :
    (proc48Int64 t).read (6 + r.length) ((proc48Int64 v).write.octets ++ r) =
      ⟨some (val48 (high48 v) v.toUInt64.toUInt32), r.length, r, none⟩ := by
  rw [write_proc48Int64 h]
  exact (trip_halves v t).trip _ rfl r

/-- Parsing at a cursor what was built. -/
theorem run_built {v : Int64} (h : InRange48 v) (t : Int64) {c : Cursor MngParseError} (hb : c.build = false)
    (hl : 6 ≤ c.left) (ho : c.mem.slice c.cur 6 = (proc48Int64 v).write.octets) :
    ((proc48Int64 t).run c).1 = some (val48 (high48 v) v.toUInt64.toUInt32) ∧
      ((proc48Int64 t).run c).2.cur = c.cur + 6 := by
  obtain ⟨hv, hleft, -, -, hr⟩ := run_parse (proc48Int64 t) c hb
  obtain ⟨r, hw, hn⟩ : ∃ r : List UInt8, c.window = (proc48Int64 v).write.octets ++ r ∧ c.left = 6 + r.length := by
    refine ⟨c.mem.slice (c.cur + 6) (c.left.toNat - 6), ?_, by rw [Mem.slice_length]; omega⟩
    rw [← ho, ← Mem.slice_add, show 6 + (c.left.toNat - 6) = c.left.toNat by omega]
    rfl
  rw [hw, hn, read_proc48Int64 v t h] at hv hleft
  have he := hr.end_eq
  rw [hleft, hn] at he
  exact ⟨hv, by simp only at he; omega⟩

/-- In build mode with room for them, 6 octets get written that are parsed back as `v`, whatever
the variable held. -/
def Survives (v : Int64) : Prop :=
  ∀ c : Cursor MngParseError, c.build = true → 6 ≤ c.left → ∃ o : Octets 6,
    ((proc48Int64 v).run c).1 = some v ∧ ((proc48Int64 v).run c).2.mem = c.mem.store c.cur o.val ∧
    ((proc48Int64 v).run c).2.cur = c.cur + 6 ∧ ((proc48Int64 v).run c).2.err = c.err ∧
    ∀ (t : Int64) (c' : Cursor MngParseError), c'.build = false → 6 ≤ c'.left → c'.mem.octets c'.cur 6 = o →
      ((proc48Int64 t).run c').1 = some v ∧ ((proc48Int64 t).run c').2.cur = c'.cur + 6

/-- In build mode nothing gets written, and the error is set. -/
def RefusedVal (v : Int64) : Prop :=
  ∀ c : Cursor MngParseError, c.build = true → (proc48Int64 v).run c = (none, { c with err := .VAL })

theorem refusedVal_of_not_inRange48 {v : Int64} (h : ¬ InRange48 v) : RefusedVal v := by
  intro c hb
  have hr : v < INT48_MIN ∨ v > INT48_MAX := by
    by_contra hn
    obtain ⟨hl, hu⟩ := not_or.1 hn
    exact h ⟨Int64.not_lt.1 hl, Int64.not_lt.1 hu⟩
  unfold proc48Int64
  rw [run_bind]
  simp only [building, run, hb, if_true, true_and, if_pos hr]
  rfl

theorem run_proc48Int64 {v : Int64} (h : InRange48 v) {c : Cursor MngParseError} (hb : c.build = true)
    (hl : 6 ≤ c.left) : ((proc48Int64 v).run c).1 = some v ∧
      ((proc48Int64 v).run c).2.mem = c.mem.store c.cur (proc48Int64 v).write.octets ∧
      ((proc48Int64 v).run c).2.cur = c.cur + 6 ∧ ((proc48Int64 v).run c).2.err = c.err := by
  have he := emits_proc48Int64 h
  obtain ⟨hv, hm, hc, -, -, herr⟩ := run_build he.tame hb (by rw [he.length]; exact hl)
  rw [he.length] at hc
  rw [write_proc48Int64 h] at hv herr
  exact ⟨hv, hm, hc, herr⟩

theorem survives_of_nonneg {v : Int64} (h : InRange48 v) (h0 : 0 ≤ v) : Survives v := by
  intro c hb hl
  obtain ⟨hv, hm, hc, he⟩ := run_proc48Int64 h hb hl
  refine ⟨⟨_, (emits_proc48Int64 h).length⟩, hv, hm, hc, he, fun t c' hb' hl' ho => ?_⟩
  obtain ⟨hv', hc'⟩ := run_built h t hb' hl' (congrArg Subtype.val ho)
  exact ⟨by rw [hv', back_of_nonneg h h0], hc'⟩

theorem not_survives_of_neg {v : Int64} (h : InRange48 v) (h0 : v < 0) : ¬ Survives v := by
  intro hr
  -- built into an empty buffer of 6 octets, and parsed from there
  let c : Cursor MngParseError := ⟨fun _ => 0, true, 0, 6, 0, .OK, [], []⟩
  obtain ⟨o, -, hm, -, -, ho⟩ := hr c rfl (le_refl _)
  have hm' := (run_proc48Int64 h (c := c) rfl (le_refl _)).2.1
  have hs : (c.mem.store c.cur (proc48Int64 v).write.octets).slice c.cur 6 = (proc48Int64 v).write.octets :=
    Mem.slice_store_of_length _ _ (emits_proc48Int64 h).length
  have hso : (c.mem.store c.cur (proc48Int64 v).write.octets).slice c.cur 6 = o.val := by
    rw [← hm', hm]
    exact Mem.slice_store_of_length _ _ o.2
  let c' : Cursor MngParseError := { c with mem := c.mem.store c.cur (proc48Int64 v).write.octets, build := false }
  have hv := (ho 0 c' rfl (le_refl _) (Subtype.ext hso)).1
  rw [(run_built h 0 (c := c') rfl (le_refl _) hs).1] at hv
  exact back_of_neg h h0 (Option.some.inj hv)

/-- A value survives, or is refused, exactly where it is not a negative one in range. -/
theorem proc48Int64_iff (v : Int64) :
    ((InRange48 v → Survives v) ∧ (¬ InRange48 v → RefusedVal v)) ↔ (InRange48 v → 0 ≤ v) := by
  constructor
  · rintro ⟨hr, -⟩ hi
    by_contra hn
    exact not_survives_of_neg hi (Int64.not_le.1 hn) (hr hi)
  · intro h
    exact ⟨fun hi => survives_of_nonneg hi (h hi), refusedVal_of_not_inRange48⟩

/-- Minus one is built as it should be, and comes back as another number. -/
theorem minus_one_lost : InRange48 (-1) ∧
    (proc48Int64 (-1)).write.octets = [0xff, 0xff, 0xff, 0xff, 0xff, 0xff] ∧
    ((proc48Int64 0).read 6 [0xff, 0xff, 0xff, 0xff, 0xff, 0xff]).val = some (-0x7fff800000000001) ∧
    ¬ Survives (-1) :=
  ⟨by decide, by decide, by decide, not_survives_of_neg (by decide) (by decide)⟩

end LibPmc
