import LibPmc.Wire.Fresh
/-!
# What a parse depends on

The log of a run names all the octets it depends on: `run_agree`.
-/
namespace Wire

/-- The memories hold the same where the log has read. -/
def AgreeOn (log : List (Nat × Nat)) (a b : Mem) : Prop := ∀ x ∈ log, ∀ i, x.1 ≤ i → i < x.1 + x.2 → b i = a i

theorem AgreeOn.append {l l' : List (Nat × Nat)} {a b : Mem} : AgreeOn (l ++ l') a b ↔ AgreeOn l a b ∧ AgreeOn l' a b :=
  List.forall_mem_append

theorem AgreeOn.slice {l : List (Nat × Nat)} {a b : Mem} (h : AgreeOn l a b) {off n : Nat} (hm : (off, n) ∈ l) :
    b.slice off n = a.slice off n := Mem.slice_congr fun i h1 h2 => h _ hm i h1 h2

/-- Where the log stays below an octet, the memories may differ from there on. -/
theorem AgreeOn.of_below {l : List (Nat × Nat)} {n : Nat} {a b : Mem} (hl : ∀ x ∈ l, x.1 + x.2 ≤ n)
    (h : ∀ i, i < n → b i = a i) : AgreeOn l a b := fun x hx i _ h2 => h i (by have := hl x hx; omega)

namespace Prog
variable {ε α : Type}

/-- The log grows. -/
theorem run_log (p : Prog ε α) (c : Cursor ε) : ∃ l, (p.run c).2.reads = c.reads ++ l := by
  induction p generalizing c with
  | done a => exact ⟨[], (List.append_nil _).symm⟩
  | fail e => exact ⟨[], (List.append_nil _).symm⟩
  | xfer n out kb kp ihb ihp =>
    simp only [run]
    split
    · exact ⟨[], (List.append_nil _).symm⟩
    · split
      · exact ihb ((c.store out).move n)
      · obtain ⟨l, hl⟩ := ihp (c.mem.octets c.cur n) ((c.load n).move n)
        exact ⟨(c.cur, n) :: l, by rw [hl]; simp [Cursor.move, Cursor.load]⟩
  | move n k ih => exact ih (c.move n)
  | mode kb kp ihb ihp =>
    simp only [run]
    split
    · exact ihb c
    · exact ihp c
  | left k ih => exact ih c.left c

/-- On a memory that holds the same where a parse reads, it gives the same. -/
theorem run_agree (p : Prog ε α) {c : Cursor ε} (hb : c.build = false) (mem : Mem)
    (h : AgreeOn (p.run c).2.reads c.mem mem) : p.run (c.over mem) = ((p.run c).1, (p.run c).2.over mem) := by
  induction p generalizing c with
  | done a => rfl
  | fail e => rfl
  | xfer n out kb kp ihb ihp =>
    have hl : (c.over mem).left = c.left := rfl
    have hb' : (c.over mem).build = false := hb
    simp only [run, hb, hb', hl, Bool.false_eq_true, if_false] at h ⊢
    split at h
    · rename_i hlt
      rw [if_pos hlt, if_pos hlt]
    · rename_i hlt
      rw [if_neg hlt, if_neg hlt]
      obtain ⟨l, hlog⟩ := run_log (kp (c.mem.octets c.cur n)) ((c.load n).move n)
      have hm : (c.cur, n) ∈ ((kp (c.mem.octets c.cur n)).run ((c.load n).move n)).2.reads := by
        rw [hlog]
        simp [Cursor.move, Cursor.load]
      have ho : (c.over mem).mem.octets (c.over mem).cur n = c.mem.octets c.cur n := Subtype.ext (h.slice hm)
      rw [ho]
      exact ihp (c.mem.octets c.cur n) (c := (c.load n).move n) hb h
  | move n k ih => exact ih (c := c.move n) hb h
  | mode kb kp ihb ihp =>
    have hb' : (c.over mem).build = false := hb
    simp only [run, hb, hb', Bool.false_eq_true, if_false] at h ⊢
    exact ihp hb h
  | left k ih => exact ih c.left hb h

end Prog

end Wire
