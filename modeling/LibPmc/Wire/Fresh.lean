import LibPmc.Wire.Trip
/-!
# What a build leaves of its memory

`Gapless` says that the build mode of a program writes all the octets it moves past and sets only
some errors. `run_fresh`: such a program gives the same on every two memories, and they agree
behind it wherever it has moved.
-/
namespace Wire

open Prog

variable {ε α β : Type}

/-- Each transfer of the build mode writes at least the octets it moves past, and the errors set
are in `E`. -/
def Prog.Covers (E : ε → Prop) : Prog ε α → Prop
  | done _ => True
  | fail e => ∀ x ∈ e, E x
  | xfer n out kb _ => n ≤ out.length ∧ kb.Covers E
  | move _ _ => False
  | mode kb _ => kb.Covers E
  | left k => ∀ l, (k l).Covers E

class Gapless (E : ε → Prop) (p : Prog ε α) : Prop where
  covers : p.Covers E

namespace Gapless
variable {E : ε → Prop}

instance pure (a : α) : Gapless E (Pure.pure a : Prog ε α) := ⟨trivial⟩
instance word [Word α] (v : α) : Gapless E (Prog.word v : Prog ε α) := ⟨⟨by simp, trivial⟩⟩
instance wordLe [Word α] (v : α) : Gapless E (Prog.wordLe v : Prog ε α) := ⟨⟨by simp, trivial⟩⟩
instance array {n : Nat} (v : Octets n) : Gapless E (Prog.array v : Prog ε (Octets n)) := ⟨⟨v.2.ge, trivial⟩⟩

theorem fail_some {e : ε} (h : E e) : Gapless E (Prog.fail (some e) : Prog ε α) :=
  ⟨fun _ hx => Option.some.inj hx ▸ h⟩

instance bind {p : Prog ε α} {f : α → Prog ε β} [hp : Gapless E p] [hf : ∀ a, Gapless E (f a)] :
    Gapless E (p >>= f) := by
  obtain ⟨h⟩ := hp
  refine ⟨?_⟩
  change (p.bind f).Covers E
  induction p with
  | done a => exact (hf a).covers
  | fail e => exact h
  | xfer n out kb kp ihb _ => exact ⟨h.1, ihb h.2⟩
  | move n k => exact h.elim
  | mode kb kp ihb _ => exact ihb h
  | left k ih => exact fun l => ih l (h l)

instance map {p : Prog ε α} {f : α → β} [Gapless E p] : Gapless E (f <$> p) :=
  inferInstanceAs (Gapless E (p >>= fun a => Pure.pure (f a)))

instance ite {c : Prop} [Decidable c] {p q : Prog ε α} [hp : Gapless E p] [hq : Gapless E q] :
    Gapless E (if c then p else q) := by
  split
  · exact hp
  · exact hq

/-- The build mode alone matters. -/
theorem building {f : Bool → Prog ε α} (h : Gapless E (f true)) : Gapless E (Prog.building >>= f) := ⟨h.covers⟩

instance each {f : α → Prog ε α} [∀ a, Gapless E (f a)] : ∀ l : List α, Gapless E (Prog.each f l)
  | [] => pure _
  | a :: l => by
    have := each (f := f) l
    unfold Prog.each
    infer_instance

instance all {f : α → Prog ε α} [∀ a, Gapless E (f a)] (l : List α) : Gapless E (Prog.all f l) := map

end Gapless

/-! ## Two memories -/

/-- The same cursor over another memory. -/
def Cursor.over {ε : Type} (c : Cursor ε) (mem : Mem) : Cursor ε := { c with mem }

/-- Where the same octets are stored, two memories agree, and everywhere they did before. -/
theorem Mem.store_agree {a b : Mem} (off : Nat) (l : List UInt8) {i : Nat}
    (h : b i = a i ∨ off ≤ i ∧ i < off + l.length) : b.store off l i = a.store off l i := by
  unfold Mem.store
  split
  · rfl
  · exact h.resolve_right ‹_›

namespace Prog
variable {ε α : Type}

/-- The cursor moves as far as the size grows. -/
theorem run_size (p : Prog ε α) (c : Cursor ε) : (p.run c).2.cur + c.size = c.cur + (p.run c).2.size := by
  induction p generalizing c with
  | done a => rfl
  | fail e => rfl
  | xfer n out kb kp ihb ihp =>
    simp only [run]
    split
    · rfl
    · split
      · have h : _ + (c.size + n) = c.cur + n + _ := ihb ((c.store out).move n)
        omega
      · have h : _ + (c.size + n) = c.cur + n + _ := ihp (c.mem.octets c.cur n) ((c.load n).move n)
        omega
  | move n k ih =>
    have h : _ + (c.size + n) = c.cur + n + _ := ih (c.move n)
    simp only [run]
    omega
  | mode kb kp ihb ihp =>
    simp only [run]
    split
    · exact ihb c
    · exact ihp c
  | left k ih => exact ih c.left c

/-- Nothing is written in front of the cursor. -/
theorem run_front (p : Prog ε α) {c : Cursor ε} {i : Nat} (hi : i < c.cur) : (p.run c).2.mem i = c.mem i := by
  induction p generalizing c with
  | done a => rfl
  | fail e => rfl
  | xfer n out kb kp ihb ihp =>
    have hn : i < c.cur + n := by omega
    simp only [run]
    split
    · rfl
    · split
      · exact (ihb hn).trans (Mem.store_apply_of_outside (.inl hi))
      · exact ihp _ hn
  | move n k ih => exact ih (show i < c.cur + n by omega)
  | mode kb kp ihb ihp =>
    simp only [run]
    split
    · exact ihb hi
    · exact ihp hi
  | left k ih => exact ih c.left hi

/-- No more is moved past than there is room for. -/
theorem run_left {E : ε → Prop} {p : Prog ε α} (hp : p.Covers E) {c : Cursor ε} (hb : c.build = true)
    (h0 : 0 ≤ c.left) :
    0 ≤ (p.run c).2.left := by
  induction p generalizing c with
  | done a => exact h0
  | fail e => exact h0
  | xfer n out kb kp ihb _ =>
    simp only [run, hb, if_true]
    split
    · exact h0
    · exact ihb hp.2 hb (show 0 ≤ c.left - n by omega)
  | move n k => exact hp.elim
  | mode kb kp ihb _ =>
    simp only [run, hb, if_true]
    exact ihb hp hb h0
  | left k ih => exact ih c.left (hp c.left) hb h0

/-- No other error is set. -/
theorem run_err {E : ε → Prop} {p : Prog ε α} (hp : p.Covers E) {c : Cursor ε} (hb : c.build = true) (he : E c.err) :
    E (p.run c).2.err := by
  induction p generalizing c with
  | done a => exact he
  | fail e =>
    cases e with
    | none => exact he
    | some e => exact hp e rfl
  | xfer n out kb kp ihb _ =>
    simp only [run, hb, if_true]
    split
    · exact he
    · exact ihb hp.2 hb he
  | move n k => exact hp.elim
  | mode kb kp ihb _ =>
    simp only [run, hb, if_true]
    exact ihb hp hb he
  | left k ih => exact ih c.left (hp c.left) hb he

/-- What a gapless build gives, and what it leaves where it has moved, does not depend on what
the memory held. -/
theorem run_fresh {E : ε → Prop} {p : Prog ε α} (hp : p.Covers E) {c : Cursor ε} (hb : c.build = true) (mem : Mem) :
    ∃ mem', p.run (c.over mem) = ((p.run c).1, (p.run c).2.over mem') ∧
      ∀ i, mem i = c.mem i ∨ (c.cur ≤ i ∧ i < (p.run c).2.cur) → mem' i = (p.run c).2.mem i := by
  induction p generalizing c mem with
  | done a => exact ⟨mem, rfl, fun i hi => hi.resolve_right fun h => absurd h.2 (Nat.not_lt.2 h.1)⟩
  | fail e => exact ⟨mem, rfl, fun i hi => hi.resolve_right fun h => absurd h.2 (Nat.not_lt.2 h.1)⟩
  | xfer n out kb kp ihb _ =>
    have hl : (c.over mem).left = c.left := rfl
    have hb' : (c.over mem).build = true := hb
    simp only [run, hb, hb', hl, if_true]
    split
    · exact ⟨mem, rfl, fun i hi => hi.resolve_right fun h => absurd h.2 (Nat.not_lt.2 h.1)⟩
    · obtain ⟨mem', hr, ha⟩ := ihb hp.2 (c := (c.store out).move n) hb (mem.store c.cur out)
      refine ⟨mem', hr, fun i hi => ha i ?_⟩
      by_cases hlt : c.cur ≤ i ∧ i < c.cur + n
      · exact .inl (Mem.store_agree _ _ (.inr ⟨hlt.1, by have := hp.1; omega⟩))
      · rcases hi with hi | hi
        · exact .inl (Mem.store_agree _ _ (.inl hi))
        · exact .inr ⟨by simp only [Cursor.move, Cursor.store]; omega, hi.2⟩
  | move n k => exact hp.elim
  | mode kb kp ihb _ =>
    have hb' : (c.over mem).build = true := hb
    simp only [run, hb, hb', if_true]
    exact ihb hp hb mem
  | left k ih => exact ih c.left (hp c.left) hb mem

end Prog

end Wire
