import LibPmc.Wire.Trip
/-!
# How much a parse takes

`Checked E p` says that the parse mode of `p` moves only past octets it has checked for
and sets only errors in `E`, `Takes p n` that it takes exactly `n` octets and fails where they are not there. Both
are classes, found for a program from its steps.
-/
namespace Wire

open Prog

variable {ε α β : Type}

/-- The count of octets left never gets negative, and the errors set are in `E`. -/
class Checked (E : ε → Prop) (p : Prog ε α) : Prop where
  left_nonneg : ∀ (l : Int) (bs : List UInt8), 0 ≤ l → 0 ≤ (p.read l bs).left
  err : ∀ (l : Int) (bs : List UInt8), ∀ e ∈ (p.read l bs).err, E e

/-- The parse mode takes the next `n` octets. Where they are not there, it fails without
an error of its own and has taken no more than there are. -/
class Takes (p : Prog ε α) (n : outParam Nat) : Prop where
  takes : ∀ (l : Int) (bs : List UInt8), n ≤ l → ∃ a, p.read l bs = ⟨some a, l - n, bs.drop n, none⟩
  short : ∀ (l : Int) (bs : List UInt8), 0 ≤ l → l < n →
    (p.read l bs).val = none ∧ (p.read l bs).err = none ∧ 0 ≤ (p.read l bs).left

namespace Checked
variable {E : ε → Prop}

instance pure (a : α) : Checked E (Pure.pure a : Prog ε α) := ⟨fun _ _ h => h, fun _ _ _ h => by cases h⟩
instance done (a : α) : Checked E (Prog.done a : Prog ε α) := pure a
instance fail : Checked E (Prog.fail none : Prog ε α) := ⟨fun _ _ h => h, fun _ _ _ h => by cases h⟩

theorem fail_some {e : ε} (h : E e) : Checked E (Prog.fail (some e) : Prog ε α) :=
  ⟨fun _ _ h => h, fun _ _ _ he => by obtain rfl := Option.some.inj he; exact h⟩

instance xfer {n : Nat} {out : List UInt8} {kb : Prog ε α} {kp : Octets n → Prog ε α} [hk : ∀ o, Checked E (kp o)] :
    Checked E (Prog.xfer n out kb kp) where
  left_nonneg l bs hl := by
    unfold Prog.read
    split
    · exact hl
    · exact (hk _).left_nonneg _ _ (by omega)
  err l bs := by
    unfold Prog.read
    split
    · simp
    · exact (hk _).err _ _

instance mode {kb kp : Prog ε α} [hk : Checked E kp] : Checked E (Prog.mode kb kp) :=
  ⟨fun l bs hl => hk.left_nonneg l bs hl, fun l bs => hk.err l bs⟩

instance building : Checked E (Prog.building : Prog ε Bool) := mode
instance remaining : Checked E (Prog.remaining : Prog ε Int) := ⟨fun _ _ h => h, fun _ _ _ h => by cases h⟩

instance bind {p : Prog ε α} {f : α → Prog ε β} [hp : Checked E p] [hf : ∀ a, Checked E (f a)] :
    Checked E (p >>= f) where
  left_nonneg l bs hl := by
    have h := hp.left_nonneg l bs hl
    rw [read_bind]
    rcases hr : p.read l bs with ⟨_ | a, l', r, e⟩ <;> rw [hr] at h
    · exact h
    · exact (hf a).left_nonneg _ _ h
  err l bs := by
    have h := hp.err l bs
    rw [read_bind]
    rcases hr : p.read l bs with ⟨_ | a, l', r, e⟩ <;> rw [hr] at h
    · exact h
    · exact (hf a).err _ _

instance map {p : Prog ε α} {f : α → β} [Checked E p] : Checked E (f <$> p) :=
  inferInstanceAs (Checked E (p >>= fun a => Pure.pure (f a)))

instance ite {c : Prop} [Decidable c] {p q : Prog ε α} [hp : Checked E p] [hq : Checked E q] :
    Checked E (if c then p else q) := by
  split
  · exact hp
  · exact hq

instance word [Word α] (v : α) : Checked E (Prog.word v : Prog ε α) := xfer
instance wordLe [Word α] (v : α) : Checked E (Prog.wordLe v : Prog ε α) := xfer
instance array {n : Nat} (v : Octets n) : Checked E (Prog.array v : Prog ε (Octets n)) := xfer

instance each {f : α → Prog ε α} [∀ a, Checked E (f a)] : ∀ l : List α, Checked E (Prog.each f l)
  | [] => pure _
  | a :: l => by
    have := each (f := f) l
    unfold Prog.each
    infer_instance

instance all {f : α → Prog ε α} [∀ a, Checked E (f a)] (l : List α) : Checked E (Prog.all f l) := map

instance count {p : Prog ε α} [Checked E p] : ∀ n : Nat, Checked E (Prog.count p n)
  | 0 => pure _
  | n + 1 => by
    have := count (p := p) n
    unfold Prog.count
    infer_instance

instance whileLeft {size : Nat} {p : Prog ε α} [Checked E p] : ∀ fuel : Nat, Checked E (Prog.whileLeft size p fuel)
  | 0 => pure _
  | fuel + 1 => by
    have : Checked E (Prog.whileLeft size p fuel) := whileLeft fuel
    unfold Prog.whileLeft
    infer_instance

end Checked

namespace Takes

instance pure (a : α) : Takes (Pure.pure a : Prog ε α) 0 where
  takes l bs _ := ⟨a, by simp⟩
  short l bs h h' := by omega

theorem xfer {n : Nat} {out : List UInt8} {kb : Prog ε α} {f : Octets n → α} :
    Takes (Prog.xfer n out kb fun o => Prog.done (f o)) n where
  takes l bs h := by
    have hl : ¬ l < n := by omega
    exact ⟨f (Octets.ofList n bs), by simp only [Prog.read, if_neg hl]⟩
  short l bs h h' := by
    simp only [Prog.read, if_pos h']
    exact ⟨trivial, trivial, h⟩

instance word [Word α] (v : α) : Takes (Prog.word v : Prog ε α) (Word.width α) := xfer
instance wordLe [Word α] (v : α) : Takes (Prog.wordLe v : Prog ε α) (Word.width α) := xfer
instance array {n : Nat} (v : Octets n) : Takes (Prog.array v : Prog ε (Octets n)) n := xfer

instance bind {p : Prog ε α} {f : α → Prog ε β} {n m : Nat} [hp : Takes p n] [hf : ∀ a, Takes (f a) m] :
    Takes (p >>= f) (n + m) where
  takes l bs h := by
    obtain ⟨a, ha⟩ := hp.takes l bs (by omega)
    obtain ⟨b, hb⟩ := (hf a).takes (l - n) (bs.drop n) (by omega)
    refine ⟨b, ?_⟩
    rw [read_bind, ha]
    simp only [hb, List.drop_drop, Nat.cast_add, Int.sub_sub]
  short l bs h h' := by
    rw [read_bind]
    by_cases hn : (n : Int) ≤ l
    · obtain ⟨a, ha⟩ := hp.takes l bs hn
      rw [ha]
      exact (hf a).short _ _ (by omega) (by omega)
    · have hs := hp.short l bs h (by omega)
      rcases hr : p.read l bs with ⟨_ | a, l', r, e⟩
      · rw [hr] at hs; exact ⟨rfl, hs.2.1, hs.2.2⟩
      · rw [hr] at hs; cases hs.1

instance map {p : Prog ε α} {f : α → β} {n : Nat} [Takes p n] : Takes (f <$> p) (n + 0) :=
  inferInstanceAs (Takes (p >>= fun a => Pure.pure (f a)) (n + 0))

theorem cast {p : Prog ε α} {n m : Nat} [hp : Takes p n] (h : n = m) : Takes p m := h ▸ hp

/-- The parse mode alone matters. -/
theorem building {f : Bool → Prog ε α} {n : Nat} (hf : Takes (f false) n) : Takes (Prog.building >>= f) n :=
  ⟨fun l bs h => hf.takes l bs h, fun l bs h h' => hf.short l bs h h'⟩

/-- A loop over what is left ends well, with less than a record left. -/
theorem whileLeft {p : Prog ε α} {n : Nat} [hp : Takes p n] (hn : 0 < n) (fuel : Nat) (l : Int) (bs : List UInt8)
    (hl : 0 ≤ l) (hf : l ≤ fuel) :
    ∃ r l' bs', (Prog.whileLeft n p fuel).read l bs = ⟨some r, l', bs', none⟩ ∧ 0 ≤ l' ∧ l' < n := by
  induction fuel generalizing l bs with
  | zero => exact ⟨[], l, bs, rfl, hl, by omega⟩
  | succ fuel ih =>
    unfold Prog.whileLeft
    rw [read_bind]
    simp only [remaining, Prog.read]
    by_cases h : l < n
    · rw [if_pos h]
      exact ⟨[], l, bs, rfl, hl, h⟩
    · obtain ⟨a, ha⟩ := hp.takes l bs (by omega)
      obtain ⟨r, l', bs', hr, h0, h1⟩ := ih (l - n) (bs.drop n) (by omega) (by omega)
      rw [if_neg h, read_bind, ha]
      simp only [read_bind, hr, read_pure]
      exact ⟨a :: r, l', bs', rfl, h0, h1⟩

end Takes

/-! ## What a parse gives -/

/-- Every value parsed is in `Q`. -/
def Yields (p : Prog ε α) (Q : α → Prop) : Prop :=
  ∀ (l : Int) (bs : List UInt8) (a : α), (p.read l bs).val = some a → Q a

namespace Yields
variable {Q : α → Prop}

theorem pure {a : α} (h : Q a) : Yields (Pure.pure a : Prog ε α) Q := by
  rintro l bs b hb
  obtain rfl := Option.some.inj hb
  exact h

theorem map {p : Prog ε β} {f : β → α} (h : ∀ b, Q (f b)) : Yields (f <$> p) Q := by
  rintro l bs a ha
  rw [read_map_val, Option.map_eq_some_iff] at ha
  obtain ⟨b, -, rfl⟩ := ha
  exact h b

theorem ite {c : Prop} [Decidable c] {p q : Prog ε α} (hp : Yields p Q) (hq : Yields q Q) :
    Yields (if c then p else q) Q := by
  split
  · exact hp
  · exact hq

end Yields

/-! ## Steps that move past more than they check -/

/-- Whether a step that checks for `n` octets succeeds, and what it leaves. -/
def check (n : Nat) (l : Int) : Bool × Int := if l < n then (false, l) else (true, l - n)

/-- A step that moves past `k` octets without a check. -/
def past (k : Nat) (l : Int) : Bool × Int := (true, l - k)

/-- One step after the other. -/
def andThen (φ ψ : Int → Bool × Int) (l : Int) : Bool × Int := if (φ l).1 then ψ (φ l).2 else φ l

theorem check_andThen (n : Nat) (φ : Int → Bool × Int) (l : Int) :
    andThen (check n) φ l = if l < n then (false, l) else φ (l - n) := by
  unfold andThen check
  split <;> rfl

theorem past_andThen (k : Nat) (φ : Int → Bool × Int) (l : Int) : andThen (past k) φ l = φ (l - k) := rfl

theorem andThen_assoc (φ ψ χ : Int → Bool × Int) : andThen (andThen φ ψ) χ = andThen φ (andThen ψ χ) := by
  funext l
  unfold andThen
  cases h : (φ l).1 <;> simp [h]

/-- Single octets: they are there, or all that there is gets taken. -/
theorem octets_andThen (n : Nat) (φ : Int → Bool × Int) (l : Int) (hl : 0 ≤ l) :
    (andThen (check 1))^[n] φ l = if l < n then (false, 0) else φ (l - n) := by
  induction n generalizing l with
  | zero => rw [if_neg (by omega)]; simp
  | succ n ih =>
    rw [Function.iterate_succ_apply', check_andThen]
    by_cases h : l < (1 : Nat)
    · rw [if_pos h, if_pos (by omega), show l = 0 by omega]
    · rw [if_neg h, ih _ (by omega)]
      by_cases h' : l - (1 : Nat) < n
      · rw [if_pos h', if_pos (by omega)]
      · rw [if_neg h', if_neg (by omega), Int.sub_sub, ← Nat.cast_add, Nat.add_comm]

/-- The count of octets left alone decides whether parsing succeeds and what it leaves. It
sets no error. -/
class Spends (p : Prog ε α) (φ : outParam (Int → Bool × Int)) : Prop where
  isSome : ∀ (l : Int) (bs : List UInt8), (p.read l bs).val.isSome = (φ l).1
  left : ∀ (l : Int) (bs : List UInt8), (p.read l bs).left = (φ l).2
  err : ∀ (l : Int) (bs : List UInt8), (p.read l bs).err = none

namespace Spends

instance pure (a : α) : Spends (Pure.pure a : Prog ε α) (past 0) :=
  ⟨fun _ _ => rfl, fun l bs => by simp [past], fun _ _ => rfl⟩

instance move (k : Nat) (a : α) : Spends (Prog.move k (Pure.pure a) : Prog ε α) (past k) :=
  ⟨fun _ _ => rfl, fun _ _ => rfl, fun _ _ => rfl⟩

theorem xfer {n : Nat} {out : List UInt8} {kb : Prog ε α} {f : Octets n → α} :
    Spends (Prog.xfer n out kb fun o => Prog.done (f o)) (check n) where
  isSome l bs := by unfold check Prog.read; split <;> rfl
  left l bs := by unfold check Prog.read; split <;> rfl
  err l bs := by unfold Prog.read; split <;> rfl

instance word [Word α] (v : α) : Spends (Prog.word v : Prog ε α) (check (Word.width α)) := xfer

instance bind {p : Prog ε α} {f : α → Prog ε β} {φ ψ : Int → Bool × Int} [hp : Spends p φ]
    [hf : ∀ a, Spends (f a) ψ] :
    Spends (p >>= f) (andThen φ ψ) := by
  have h (l : Int) (bs : List UInt8) : (((p >>= f).read l bs).val.isSome, ((p >>= f).read l bs).left) =
      andThen φ ψ l := by
    have hs := hp.isSome l bs
    have hl := hp.left l bs
    rw [read_bind]
    rcases hr : p.read l bs with ⟨_ | a, l', r, e⟩ <;> rw [hr] at hs hl
    · simp only [andThen, ← hs, Option.isSome_none, Bool.false_eq_true, if_false]
      exact Prod.ext hs hl
    · simp only [andThen, ← hs, Option.isSome_some, if_true, ← hl]
      exact Prod.ext ((hf a).isSome l' r) ((hf a).left l' r)
  refine ⟨fun l bs => congrArg Prod.fst (h l bs), fun l bs => congrArg Prod.snd (h l bs), fun l bs => ?_⟩
  have he := hp.err l bs
  rw [read_bind]
  rcases hr : p.read l bs with ⟨_ | a, l', r, e⟩
  · rw [hr] at he
    exact he
  · exact (hf a).err l' r

instance map {p : Prog ε α} {f : α → β} {φ : Int → Bool × Int} [Spends p φ] : Spends (f <$> p) (andThen φ (past 0)) :=
  inferInstanceAs (Spends (p >>= fun a => Pure.pure (f a)) (andThen φ (past 0)))

end Spends

end Wire
