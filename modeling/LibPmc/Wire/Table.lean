import LibPmc.Wire.Bounds
import LibPmc.Wire.Echo
/-!
# Tables of records

`Format p octets Complete` says that `p` parses the octets of a complete value to that value
and accepts nothing else. A loop that counts records then accepts exactly that many complete
records one after the other (`Format.count`), and a loop over what is left takes as many as
fit (`Format.whileLeft`). `pushed` is the list a counted loop has at its end also where it
fails.
-/
namespace Wire

open Prog

variable {ε α β : Type}

/-! ## Values and their octets -/

/-- `p` parses `a` from the octets `o` and leaves what is behind them. -/
def Gives (p : Prog ε α) (o : List UInt8) (a : α) : Prop :=
  ∀ r : List UInt8, p.read (o.length + r.length) (o ++ r) = ⟨some a, r.length, r, none⟩

namespace Gives
variable {a : α} {b : β} {o o' : List UInt8}

theorem pure (a : α) : Gives (pure a : Prog ε α) [] a := fun r => by simp

theorem bind {p : Prog ε α} {f : α → Prog ε β} (hp : Gives p o a) (hf : Gives (f a) o' b) :
    Gives (p >>= f) (o ++ o') b := by
  intro r
  have h := hp (o' ++ r)
  simp only [List.length_append, Nat.cast_add] at h
  rw [read_bind, List.length_append, Nat.cast_add, Int.add_assoc, List.append_assoc, h]
  exact hf r

theorem map {p : Prog ε α} {f : α → β} (hp : Gives p o a) : Gives (f <$> p) o (f a) := by
  have h : Gives (p >>= fun a => Pure.pure (f a)) (o ++ []) (f a) := hp.bind (pure _)
  rwa [List.append_nil] at h

/-- The parse mode alone matters. -/
theorem building {f : Bool → Prog ε α} (h : Gives (f false) o a) : Gives (Prog.building >>= f) o a := h

/-- A step that takes the octets and is done. -/
theorem xfer {n : Nat} {out : List UInt8} {kb : Prog ε α} {kp : Octets n → Prog ε α} (h : o.length = n)
    (hk : kp ⟨o, h⟩ = done a) : Gives (xfer n out kb kp) o a := by
  intro r
  subst h
  have hl : ¬ ((o.length : Int) + r.length < o.length) := by omega
  simp only [Prog.read, if_neg hl]
  rw [Octets.ofList_append ⟨o, rfl⟩ r, hk]
  simp [Prog.read]

theorem word [Word α] (v a : α) : Gives (word v : Prog ε α) (beOctets (Word.width α) (Word.toNat a)) a :=
  xfer (by simp) (by simp [beNat_beOctets_of_lt (Word.toNat_lt a), Word.ofNat_toNat])

theorem array {n : Nat} (v a : Octets n) : Gives (array v : Prog ε (Octets n)) a.val a := xfer a.2 rfl

end Gives

/-- `p` parses the octets of a complete value to that value, and nothing else. -/
structure Format (p : Prog ε α) (octets : α → List UInt8) (Complete : α → Prop) : Prop where
  sound : Parses p fun a o => Complete a ∧ o = octets a
  complete : ∀ a, Complete a → Gives p (octets a) a

/-! ## Counted records -/

/-- The values a loop over `n` records has appended when it ends, one way or the other. -/
def pushed (p : Prog ε α) : Nat → Int → List UInt8 → List α
  | 0, _, _ => []
  | n + 1, l, bs =>
    match p.read l bs with
    | ⟨some a, l', r, _⟩ => a :: pushed p n l' r
    | ⟨none, _, _, _⟩ => []

theorem read_count_succ (p : Prog ε α) (n : Nat) (l : Int) (bs : List UInt8) : ((count p (n + 1)).read l bs).val =
    match p.read l bs with
    | ⟨some a, l', r, _⟩ => ((count p n).read l' r).val.map (a :: ·)
    | ⟨none, _, _, _⟩ => none := by
  rw [Prog.count, read_bind]
  rcases p.read l bs with ⟨_ | a, l', r, e⟩
  · rfl
  · exact read_map_val _ _ _ _

/-- A loop that succeeds has appended what it gives. -/
theorem pushed_count {p : Prog ε α} (n : Nat) (l : Int) (bs : List UInt8) (recs : List α)
    (h : ((count p n).read l bs).val = some recs) : pushed p n l bs = recs := by
  induction n generalizing l bs recs with
  | zero => exact Option.some.inj h
  | succ n ih =>
    rw [read_count_succ] at h
    unfold pushed
    rcases hp : p.read l bs with ⟨_ | a, l', r, e⟩ <;> rw [hp] at h
    · cases h
    · obtain ⟨recs', hr, rfl⟩ := Option.map_eq_some_iff.1 h
      exact congrArg (a :: ·) (ih l' r recs' hr)

/-- A loop that fails has appended what a shorter one gives, up to the record that fails. -/
theorem pushed_fails {p : Prog ε α} (n : Nat) (l : Int) (bs : List UInt8) (h : ((count p n).read l bs).val = none) :
    (pushed p n l bs).length < n ∧
      ((count p (pushed p n l bs).length).read l bs).val = some (pushed p n l bs) ∧
      ((count p ((pushed p n l bs).length + 1)).read l bs).val = none := by
  induction n generalizing l bs with
  | zero => cases h
  | succ n ih =>
    rw [read_count_succ] at h
    rw [read_count_succ]
    unfold pushed
    rcases hp : p.read l bs with ⟨_ | a, l', r, e⟩ <;> rw [hp] at h
    · exact ⟨Nat.succ_pos n, rfl, rfl⟩
    · obtain ⟨hlt, hsome, hnone⟩ := ih l' r (Option.map_eq_none_iff.1 h)
      refine ⟨Nat.succ_lt_succ hlt, ?_, Option.map_eq_none_iff.2 hnone⟩
      dsimp only
      rw [List.length_cons, read_count_succ, hp]
      exact congrArg (Option.map (a :: ·)) hsome

/-- Records that take at least `k` octets are no more than the octets have room for. -/
theorem pushed_length_le {p : Prog ε α} {k : Nat} (hp : Parses p fun _ o => k ≤ o.length) (n : Nat) (bs : List UInt8) :
    (pushed p n bs.length bs).length * k ≤ bs.length := by
  induction n generalizing bs with
  | zero => simp [pushed]
  | succ n ih =>
    unfold pushed
    rcases hr : p.read bs.length bs with ⟨_ | a, l', r, e⟩
    · simp
    · obtain ⟨o, r', rfl, hr', ho⟩ := hp bs a (by rw [hr])
      obtain ⟨-, rfl, rfl, -⟩ := Outcome.mk.inj (hr.symm.trans hr')
      have hrest := ih r
      simp only [List.length_cons, List.length_append, Nat.succ_mul]
      omega

namespace Format
variable {p : Prog ε α} {octets : α → List UInt8} {Complete : α → Prop}

/-- So many complete records, one after the other. -/
theorem count (h : Format p octets Complete) (n : Nat) :
    Format (count p n) (List.flatMap octets) fun recs => recs.length = n ∧ ∀ a ∈ recs, Complete a where
  sound := by
    induction n with
    | zero => exact .pure ⟨⟨rfl, by simp⟩, rfl⟩
    | succ n ih =>
      refine h.sound.bind fun a o ha => ih.bind fun recs o' hr => .pure ?_
      obtain ⟨⟨rfl, hc⟩, rfl⟩ := hr
      refine ⟨⟨rfl, ?_⟩, by rw [ha.2, List.append_nil, List.flatMap_cons]⟩
      rintro b (_ | ⟨_, hb⟩)
      · exact ha.1
      · exact hc b hb
  complete := by
    rintro recs ⟨rfl, hc⟩
    induction recs with
    | nil => exact .pure []
    | cons a recs ih =>
      have hrest := ih fun b hb => hc b (List.mem_cons_of_mem _ hb)
      exact (h.complete a (hc a List.mem_cons_self)).bind hrest.map

/-! ## As many records as fit -/

/-- What takes `n` octets has complete values of `n` octets. -/
theorem length_octets (h : Format p octets Complete) {n : Nat} [hp : Takes p n] {a : α} (ha : Complete a) :
    (octets a).length = n := by
  have hr := h.complete a ha []
  simp only [List.length_nil, Nat.cast_zero, Int.add_zero, List.append_nil] at hr
  by_cases hn : n ≤ (octets a).length
  · obtain ⟨b, hb⟩ := hp.takes (octets a).length (octets a) (by omega)
    have hl := congrArg Outcome.left (hr.symm.trans hb)
    dsimp only at hl
    omega
  · have hs := (hp.short (octets a).length (octets a) (by omega) (by omega)).1
    rw [hr] at hs
    cases hs

/-- A loop over what is left takes complete records, and leaves less than one. -/
theorem whileLeft (h : Format p octets Complete) {n : Nat} [hp : Takes p n] (hn : 0 < n) (fuel : Nat)
    (bs : List UInt8) (hf : bs.length ≤ fuel) :
    ∃ recs rest, (Prog.whileLeft n p fuel).read bs.length bs = ⟨some recs, rest.length, rest, none⟩ ∧
      bs = recs.flatMap octets ++ rest ∧ (∀ a ∈ recs, Complete a) ∧ rest.length < n := by
  induction fuel generalizing bs with
  | zero => exact ⟨[], bs, rfl, rfl, by simp, by omega⟩
  | succ fuel ih =>
    unfold Prog.whileLeft
    rw [read_bind]
    simp only [remaining, Prog.read]
    by_cases hl : (bs.length : Int) < n
    · rw [if_pos hl]
      exact ⟨[], bs, rfl, rfl, by simp, by omega⟩
    · obtain ⟨a, ha⟩ := hp.takes bs.length bs (by omega)
      obtain ⟨o, r, rfl, hr, hc, rfl⟩ := h.sound bs a (by rw [ha])
      have hlen := h.length_octets hc
      obtain ⟨recs, rest, hrest, rfl, hcs, hlt⟩ := ih r (by rw [List.length_append] at hf; omega)
      refine ⟨a :: recs, rest, ?_, by simp, ?_, hlt⟩
      · rw [if_neg hl, read_bind, hr]
        simp only [read_bind, hrest, read_pure]
      · rintro b (_ | ⟨_, hb⟩)
        · exact hc
        · exact hcs b hb

end Format

/-- Pieces of one length lie at its multiples. -/
theorem take_drop_flatMap {f : α → List β} {n : Nat} (l : List α) (h : ∀ a ∈ l, (f a).length = n) (rest : List β)
    (k : Nat) (hk : k < l.length) : ((l.flatMap f ++ rest).drop (k * n)).take n = f l[k] := by
  induction l generalizing k with
  | nil => cases hk
  | cons a l ih =>
    have ha := h a List.mem_cons_self
    rw [List.flatMap_cons, List.append_assoc]
    cases k with
    | zero => simp [← ha]
    | succ k =>
      have hd : (k + 1) * n = (f a).length + k * n := by rw [ha, Nat.succ_mul, Nat.add_comm]
      rw [hd, ← List.drop_drop, List.drop_left]
      exact ih (fun b hb => h b (List.mem_cons_of_mem _ hb)) k (by simpa using hk)

end Wire
