import LibPmc.Wire.Trip
/-!
# Which builds keep to their room

A transfer checks for the octets it moves past, and may write others than those. `Stays p l`
says that it never matters in the build mode of `p`: with `l` octets left, nothing is
written behind them. `run_stays` connects it to `run`.
-/
namespace Wire

namespace Prog
variable {ε α β : Type}

/-- With `l` octets left, each transfer fails or has room for all it writes. -/
def Stays : Prog ε α → Int → Prop
  | done _, _ => True
  | fail _, _ => True
  | xfer n out kb _, l => l < n ∨ ((out.length : Int) ≤ l ∧ kb.Stays (l - n))
  | move n k, l => k.Stays (l - n)
  | mode kb _, l => kb.Stays l
  | left k, l => (k l).Stays l

/-- The accesses of a log stay below `e`. -/
abbrev Within (e : Nat) (log : List (Nat × Nat)) : Prop := ∀ w ∈ log, w.1 + w.2 ≤ e

/-- Neither the mode nor the end of the room changes. -/
theorem run_end (p : Prog ε α) (c : Cursor ε) :
    (p.run c).2.build = c.build ∧ ((p.run c).2.cur : Int) + (p.run c).2.left = c.cur + c.left := by
  induction p generalizing c with
  | done a => exact ⟨rfl, rfl⟩
  | fail e => exact ⟨rfl, rfl⟩
  | xfer n out kb kp ihb ihp =>
    simp only [run]
    split
    · exact ⟨rfl, rfl⟩
    · split
      · obtain ⟨h1, h2⟩ := ihb ((c.store out).move n)
        exact ⟨h1, h2.trans (by simp [Cursor.move, Cursor.store])⟩
      · obtain ⟨h1, h2⟩ := ihp (c.mem.octets c.cur n) ((c.load n).move n)
        exact ⟨h1, h2.trans (by simp [Cursor.move, Cursor.load])⟩
  | move n k ih =>
    obtain ⟨h1, h2⟩ := ih (c.move n)
    exact ⟨h1, h2.trans (by simp [Cursor.move])⟩
  | mode kb kp ihb ihp =>
    simp only [run]
    split
    · exact ihb c
    · exact ihp c
  | left k ih => exact ih c.left c

/-- Nothing gets written behind the room exactly where the program stays in it. -/
theorem run_stays (p : Prog ε α) {c : Cursor ε} (hb : c.build = true) {e : Nat} (he : (c.cur : Int) + c.left = e) :
    Within e (p.run c).2.writes ↔ Within e c.writes ∧ p.Stays c.left := by
  induction p generalizing c with
  | done a => simp [run, Stays]
  | fail o => simp [run, Stays]
  | xfer n out kb kp ihb _ =>
    simp only [run, Stays, hb, if_true]
    by_cases h : c.left < n
    · simp [h]
    · rw [if_neg h, ihb (c := (c.store out).move n) hb (by simp [Cursor.move, Cursor.store]; omega)]
      have hw : c.cur + out.length ≤ e ↔ (out.length : Int) ≤ c.left := by omega
      simp only [Within, Cursor.move, Cursor.store, List.forall_mem_append, List.forall_mem_singleton, hw, h, false_or]
      exact and_assoc
  | move n k ih => exact ih (c := c.move n) hb (by simp [Cursor.move]; omega)
  | mode kb kp ihb _ =>
    simp only [run, hb, if_true]
    exact ihb hb he
  | left k ih => exact ih c.left hb he

/-- A tame build stays, whatever the room. -/
theorem Tame.stays {p : Prog ε α} (ht : p.Tame) : ∀ l : Int, p.Stays l := by
  induction p with
  | done a => intro _; trivial
  | fail e => intro _; trivial
  | xfer n out kb kp ihb _ =>
    intro l
    obtain ⟨rfl, hk⟩ := ht
    rcases lt_or_ge l (out.length : Int) with h | h
    · exact .inl h
    · exact .inr ⟨h, ihb hk _⟩
  | move n k => exact ht.elim
  | mode kb kp ihb _ => exact ihb ht
  | left k => exact ht.elim

theorem stays_bind {p : Prog ε α} (ht : p.Tame) {a : α} (hv : p.write.val = some a) (f : α → Prog ε β)
    {l : Int} (hl : 0 ≤ l) :
    (p >>= f).Stays l ↔ l < p.write.octets.length ∨ (f a).Stays (l - p.write.octets.length) := by
  change (p.bind f).Stays l ↔ _
  induction p generalizing l with
  | done b =>
    obtain rfl := Option.some.inj hv
    simp [Prog.bind, write, hl]
  | fail e => cases hv
  | xfer n out kb kp ihb _ =>
    obtain ⟨rfl, hk⟩ := ht
    simp only [Prog.bind, Stays, write, List.length_append, Nat.cast_add]
    rcases lt_or_ge l (out.length : Int) with h | h
    · exact iff_of_true (.inl h) (.inl (by omega))
    · have hi := ihb hk hv (show 0 ≤ l - out.length by omega)
      rw [hi, Int.sub_sub, show l - out.length < kb.write.octets.length ↔
        l < out.length + kb.write.octets.length by omega]
      simp only [h, true_and]
      exact ⟨fun h' => h'.elim (fun h' => absurd h' (by omega)) id, .inr⟩
  | move n k => exact ht.elim
  | mode kb kp ihb _ => exact ihb ht hv hl
  | left k => exact ht.elim

/-- Steps that write `n` octets: `Q` is settled where they have no room, and otherwise by
what comes after them. -/
theorem stays_step {p : Prog ε α} {n : Nat} (ht : p.Tame) {a : α} (hv : p.write.val = some a)
    (hn : p.write.octets.length = n) {f : α → Prog ε β} {l : Int} {Q : Prop} (h0 : 0 ≤ l) (hQ : l < n → Q)
    (h : 0 ≤ l - n → ((f a).Stays (l - n) ↔ Q)) : (p >>= f).Stays l ↔ Q := by
  rw [stays_bind ht hv f h0, hn]
  rcases lt_or_ge l (n : Int) with hl | hl
  · exact iff_of_true (.inl hl) (hQ hl)
  · rw [h (by omega)]
    exact ⟨fun h => h.resolve_left (by omega), .inr⟩

theorem stays_map (p : Prog ε α) (f : α → β) (l : Int) : (f <$> p).Stays l ↔ p.Stays l := by
  rw [← bind_pure_comp]
  change (p.bind _).Stays l ↔ _
  induction p generalizing l with
  | done a => rfl
  | fail e => rfl
  | xfer n out kb kp ihb _ => simp only [Prog.bind, Stays, ihb]
  | move n k ih => exact ih _
  | mode kb kp ihb _ => exact ihb _
  | left k ih => exact ih _ _

end Prog

open Prog

variable {ε α β : Type}

/-- The build mode is tame, whatever the value. -/
class Steady (p : Prog ε α) : Prop where
  tame : p.Tame

namespace Steady

instance pure (a : α) : Steady (Pure.pure a : Prog ε α) := ⟨trivial⟩
instance fail (e : Option ε) : Steady (Prog.fail e : Prog ε α) := ⟨trivial⟩
instance word [Word α] (v : α) : Steady (Prog.word v : Prog ε α) := ⟨⟨by simp, trivial⟩⟩
instance wordLe [Word α] (v : α) : Steady (Prog.wordLe v : Prog ε α) := ⟨⟨by simp, trivial⟩⟩
instance array {n : Nat} (v : Octets n) : Steady (Prog.array v : Prog ε (Octets n)) := ⟨⟨v.2, trivial⟩⟩

instance bind {p : Prog ε α} {f : α → Prog ε β} [hp : Steady p] [hf : ∀ a, Steady (f a)] : Steady (p >>= f) :=
  ⟨tame_bind hp.tame fun a _ => (hf a).tame⟩

instance map {p : Prog ε α} {f : α → β} [Steady p] : Steady (f <$> p) :=
  inferInstanceAs (Steady (p >>= fun a => Pure.pure (f a)))

instance ite {c : Prop} [Decidable c] {p q : Prog ε α} [hp : Steady p] [hq : Steady q] :
    Steady (if c then p else q) := by
  split
  · exact hp
  · exact hq

/-- The build mode alone matters. -/
theorem building {f : Bool → Prog ε α} (h : Steady (f true)) : Steady (Prog.building >>= f) := ⟨h.tame⟩

instance each {f : α → Prog ε α} [∀ a, Steady (f a)] : ∀ l : List α, Steady (Prog.each f l)
  | [] => pure _
  | a :: l => by
    have := each (f := f) l
    unfold Prog.each
    infer_instance

instance all {f : α → Prog ε α} [∀ a, Steady (f a)] (l : List α) : Steady (Prog.all f l) := map

end Steady

theorem stays_word [Word α] (v : α) {n : Nat} (hn : Word.width α = n) {f : α → Prog ε β} {l : Int}
    {Q : Prop} (h0 : 0 ≤ l)
    (hQ : l < n → Q) (h : 0 ≤ l - n → ((f v).Stays (l - n) ↔ Q)) : (word v >>= f).Stays l ↔ Q :=
  stays_step (p := word v) Steady.tame rfl (by simp [word, write, hn]) h0 hQ h

end Wire
