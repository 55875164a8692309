import LibPmc.Wire.Octets
/-!
# Programs that build or parse octets

One program text both builds and parses: it moves a cursor over a memory, and
in build mode every transfer writes the octets of a value, in parse mode it
reads the value from there. `Prog` is such a program, `run` its meaning on a
cursor, with every access logged.

Two plain functions say what a run amounts to. `read` is the parse mode on a
list of octets, `write` the octets of the build mode; `run_parse` and
`run_build` connect them to `run` once, for every program. What a program
builds, another one parses back: `Trip`.
-/
namespace Wire

/-- A program with errors `ε` and result `α`.

`xfer n out kb kp` needs `n` octets and moves past them: in build mode it writes
`out` and goes on with `kb`, in parse mode it goes on with `kp` of the octets
read. `move` skips octets without a check, `mode` asks for the mode and `left`
for the number of octets left. -/
inductive Prog (ε α : Type) where
  | done (a : α)
  | fail (e : Option ε)
  | xfer (n : Nat) (out : List UInt8) (kb : Prog ε α) (kp : Octets n → Prog ε α)
  | move (n : Nat) (k : Prog ε α)
  | mode (kb kp : Prog ε α)
  | left (k : Int → Prog ε α)

namespace Prog
variable {ε α β : Type}

protected def bind : Prog ε α → (α → Prog ε β) → Prog ε β
  | done a, f => f a
  | fail e, _ => fail e
  | xfer n out kb kp, f => xfer n out (kb.bind f) (fun o => (kp o).bind f)
  | move n k, f => move n (k.bind f)
  | mode kb kp, f => mode (kb.bind f) (kp.bind f)
  | left k, f => left (fun l => (k l).bind f)

instance : Monad (Prog ε) where
  pure := done
  bind := Prog.bind

instance : LawfulMonad (Prog ε) := by
  refine LawfulMonad.mk' (Prog ε) (fun p => ?_) (fun _ _ => rfl) (fun p f g => ?_)
  · change p.bind (fun a => done a) = p
    induction p <;> simp_all [Prog.bind]
  · change (p.bind f).bind g = p.bind fun a => (f a).bind g
    induction p <;> simp_all [Prog.bind]

end Prog

/-! ## Running on a cursor -/

/-- The state a program runs on. `reads` and `writes` log every access as
(offset, number of octets). -/
structure Cursor (ε : Type) where
  mem : Mem
  build : Bool
  cur : Nat
  left : Int
  size : Nat
  err : ε
  reads : List (Nat × Nat)
  writes : List (Nat × Nat)

namespace Cursor
variable {ε : Type}

/-- Move past `n` octets. -/
def move (c : Cursor ε) (n : Nat) : Cursor ε :=
  { c with cur := c.cur + n, left := c.left - n, size := c.size + n }

def load (c : Cursor ε) (n : Nat) : Cursor ε := { c with reads := c.reads ++ [(c.cur, n)] }

def store (c : Cursor ε) (l : List UInt8) : Cursor ε :=
  { c with mem := c.mem.store c.cur l, writes := c.writes ++ [(c.cur, l.length)] }

/-- The octets left to the program. -/
def window (c : Cursor ε) : List UInt8 := c.mem.slice c.cur c.left.toNat

end Cursor

namespace Prog
variable {ε α β : Type}

/-- A failed transfer leaves the error as it was, `fail (some e)` sets it. -/
def run : Prog ε α → Cursor ε → Option α × Cursor ε
  | done a, c => (some a, c)
  | fail e, c => (none, { c with err := e.getD c.err })
  | xfer n out kb kp, c =>
    if c.left < n then (none, c)
    else if c.build then kb.run ((c.store out).move n)
    else (kp (c.mem.octets c.cur n)).run ((c.load n).move n)
  | move n k, c => k.run (c.move n)
  | mode kb kp, c => if c.build then kb.run c else kp.run c
  | left k, c => (k c.left).run c

theorem run_bind (p : Prog ε α) (f : α → Prog ε β) (c : Cursor ε) :
    (p >>= f).run c = match p.run c with
      | (some a, c') => (f a).run c'
      | (none, c') => (none, c') := by
  change (p.bind f).run c = _
  induction p generalizing c with
  | done a => rfl
  | fail e => rfl
  | xfer n out kb kp ihb ihp =>
    simp only [Prog.bind, run, ihb, ihp]
    split
    · rfl
    · split <;> rfl
  | move n k ih => simp only [Prog.bind, run, ih]
  | mode kb kp ihb ihp =>
    simp only [Prog.bind, run, ihb, ihp]
    split <;> rfl
  | left k ih => simp only [Prog.bind, run, ih]

/-! ## Parsing a list of octets -/

/-- What parsing a list of octets gives: the value, the count of octets left
(negative after a move past the end), those octets, and the error set. -/
structure Outcome (ε α : Type) where
  val : Option α
  left : Int
  rest : List UInt8
  err : Option ε

def read : Prog ε α → Int → List UInt8 → Outcome ε α
  | done a, l, bs => ⟨some a, l, bs, none⟩
  | fail e, l, bs => ⟨none, l, bs, e⟩
  | xfer n _ _ kp, l, bs =>
    if l < n then ⟨none, l, bs, none⟩ else (kp (Octets.ofList n bs)).read (l - n) (bs.drop n)
  | move n k, l, bs => k.read (l - n) (bs.drop n)
  | mode _ kp, l, bs => kp.read l bs
  | left k, l, bs => (k l).read l bs

theorem read_bind (p : Prog ε α) (f : α → Prog ε β) (l : Int) (bs : List UInt8) :
    (p >>= f).read l bs = match p.read l bs with
      | ⟨some a, l', r, _⟩ => (f a).read l' r
      | ⟨none, l', r, e⟩ => ⟨none, l', r, e⟩ := by
  change (p.bind f).read l bs = _
  induction p generalizing l bs with
  | done a => rfl
  | fail e => rfl
  | xfer n out kb kp ihb ihp =>
    simp only [Prog.bind, read, ihp]
    split <;> rfl
  | move n k ih => simp only [Prog.bind, read, ih]
  | mode kb kp ihb ihp => simp only [Prog.bind, read, ihp]
  | left k ih => simp only [Prog.bind, read, ih]

theorem read_map_val (f : α → β) (p : Prog ε α) (l : Int) (bs : List UInt8) :
    ((f <$> p).read l bs).val = (p.read l bs).val.map f := by
  rw [← bind_pure_comp, read_bind]
  rcases p.read l bs with ⟨_ | a, l', r, e⟩ <;> rfl

theorem read_map_left (f : α → β) (p : Prog ε α) (l : Int) (bs : List UInt8) :
    ((f <$> p).read l bs).left = (p.read l bs).left := by
  rw [← bind_pure_comp, read_bind]
  rcases p.read l bs with ⟨_ | a, l', r, e⟩ <;> rfl

theorem read_map_err (f : α → β) (p : Prog ε α) (l : Int) (bs : List UInt8) (h : (p.read l bs).val = none) :
    ((f <$> p).read l bs).err = (p.read l bs).err := by
  rw [← bind_pure_comp, read_bind]
  rcases hr : p.read l bs with ⟨_ | a, l', r, e⟩
  · rfl
  · rw [hr] at h; cases h

@[simp] theorem read_pure (a : α) (l : Int) (bs : List UInt8) :
    (pure a : Prog ε α).read l bs = ⟨some a, l, bs, none⟩ := rfl

/-- `c'` comes from `c` by moving forward and reading only octets that were left to `c`. -/
structure Reads (c c' : Cursor ε) : Prop where
  mem : c'.mem = c.mem
  build : c'.build = c.build
  end_eq : (c'.cur : Int) + c'.left = c.cur + c.left
  cur_le : c.cur ≤ c'.cur
  writes : c'.writes = c.writes
  reads : ∃ l, c'.reads = c.reads ++ l ∧ ∀ r ∈ l, c.cur ≤ r.1 ∧ ((r.1 + r.2 : Nat) : Int) ≤ c.cur + c.left

theorem Reads.refl (c : Cursor ε) : Reads c c :=
  ⟨rfl, rfl, rfl, le_refl _, rfl, [], by simp, by simp⟩

theorem Reads.trans {a b c : Cursor ε} (h : Reads a b) (h' : Reads b c) : Reads a c := by
  obtain ⟨l, hl, hin⟩ := h.reads
  obtain ⟨l', hl', hin'⟩ := h'.reads
  refine ⟨h'.mem.trans h.mem, h'.build.trans h.build, h'.end_eq.trans h.end_eq, h.cur_le.trans h'.cur_le,
    h'.writes.trans h.writes, l ++ l', by rw [hl', hl, List.append_assoc], ?_⟩
  intro r hr
  rcases List.mem_append.1 hr with hr | hr
  · exact hin r hr
  · have := hin' r hr
    exact ⟨h.cur_le.trans this.1, by rw [← h.end_eq]; exact this.2⟩

theorem Reads.move (c : Cursor ε) (n : Nat) : Reads c (c.move n) :=
  ⟨rfl, rfl, by simp [Cursor.move], by simp [Cursor.move], rfl, [], by simp [Cursor.move], by simp⟩

theorem Reads.load {c : Cursor ε} {n : Nat} (h : (n : Int) ≤ c.left) : Reads c ((c.load n).move n) := by
  refine ⟨rfl, rfl, ?_, by simp [Cursor.move, Cursor.load], rfl, [(c.cur, n)], rfl, ?_⟩
  · simp [Cursor.move, Cursor.load]
  · intro r hr
    obtain rfl := List.mem_singleton.1 hr
    simp only [Nat.cast_add]
    omega

theorem window_move (c : Cursor ε) (n : Nat) : (c.move n).window = c.window.drop n := by
  simp only [Cursor.window, Cursor.move]
  by_cases h : n ≤ c.left.toNat
  · rw [c.mem.drop_slice _ h]; congr 1; omega
  · rw [List.drop_eq_nil_of_le (by simp; omega), show (c.left - n).toNat = 0 by omega]; rfl

/-- Parsing at a cursor is parsing the octets left to it. -/
theorem run_parse (p : Prog ε α) (c : Cursor ε) (hb : c.build = false) :
    (p.run c).1 = (p.read c.left c.window).val ∧ (p.run c).2.left = (p.read c.left c.window).left ∧
      (p.run c).2.err = (p.read c.left c.window).err.getD c.err ∧
      (p.run c).2.window = (p.read c.left c.window).rest ∧ Reads c (p.run c).2 := by
  induction p generalizing c with
  | done a => exact ⟨rfl, rfl, rfl, rfl, .refl c⟩
  | fail e => exact ⟨rfl, rfl, rfl, rfl, rfl, rfl, rfl, le_refl _, rfl, [], by simp [run], by simp⟩
  | xfer n out kb kp _ ihp =>
    simp only [run, read]
    by_cases h : c.left < n
    · simp [if_pos h, Reads.refl]
    · have hn : n ≤ c.left.toNat := by omega
      obtain ⟨h1, h2, h3, h4, h5⟩ := ihp (c.mem.octets c.cur n) ((c.load n).move n) hb
      have hw : ((c.load n).move n).window = c.window.drop n := window_move (c.load n) n
      have ho : Octets.ofList n c.window = c.mem.octets c.cur n := c.mem.ofList_octets c.cur hn
      simp only [if_neg h, hb, Bool.false_eq_true, if_false, ho]
      rw [hw] at h1 h2 h3 h4
      exact ⟨h1, h2, h3, h4, (Reads.load (by omega)).trans h5⟩
  | move n k ih =>
    obtain ⟨h1, h2, h3, h4, h5⟩ := ih (c.move n) hb
    rw [window_move] at h1 h2 h3 h4
    exact ⟨h1, h2, h3, h4, (Reads.move c n).trans h5⟩
  | mode kb kp _ ihp =>
    simp only [run, read, hb, Bool.false_eq_true, if_false]
    exact ihp c hb
  | left k ih => exact ih c.left c hb

/-! ## The octets of a build -/

/-- What a build writes, its value and the error it sets. -/
structure Written (ε α : Type) where
  octets : List UInt8
  val : Option α
  err : Option ε

def write : Prog ε α → Written ε α
  | done a => ⟨[], some a, none⟩
  | fail e => ⟨[], none, e⟩
  | xfer _ out kb _ => { kb.write with octets := out ++ kb.write.octets }
  | move _ k => k.write
  | mode kb _ => kb.write
  | left k => (k 0).write

/-- A build that gives a value sets no error. -/
theorem write_err {p : Prog ε α} {a : α} (h : p.write.val = some a) : p.write.err = none := by
  induction p with
  | done b => rfl
  | fail e => cases h
  | xfer n out kb kp ihb _ => exact ihb h
  | move n k ih => exact ih h
  | mode kb kp ihb _ => exact ihb h
  | left k ih => exact ih 0 h

/-- The build mode writes as many octets as it checks and moves past, and
neither moves otherwise nor asks how much is left. -/
def Tame : Prog ε α → Prop
  | done _ => True
  | fail _ => True
  | xfer n out kb _ => out.length = n ∧ kb.Tame
  | move _ _ => False
  | mode kb _ => kb.Tame
  | left _ => False

theorem write_bind (p : Prog ε α) (f : α → Prog ε β) :
    (p >>= f).write = match p.write with
      | ⟨o, some a, _⟩ => { (f a).write with octets := o ++ (f a).write.octets }
      | ⟨o, none, e⟩ => ⟨o, none, e⟩ := by
  change (p.bind f).write = _
  induction p with
  | done a => rfl
  | fail e => rfl
  | xfer n out kb kp ihb _ =>
    simp only [Prog.bind, write, ihb]
    rcases kb.write with ⟨o, _ | a, e⟩ <;> simp
  | move n k ih => simp only [Prog.bind, write, ih]
  | mode kb kp ihb _ => simp only [Prog.bind, write, ihb]
  | left k ih => simp only [Prog.bind, write, ih]

theorem write_bind_of_some {p : Prog ε α} {a : α} (h : p.write.val = some a) (f : α → Prog ε β) :
    (p >>= f).write = { (f a).write with octets := p.write.octets ++ (f a).write.octets } := by
  rw [write_bind]
  generalize p.write = w at h ⊢
  obtain ⟨o, _, e⟩ := w
  subst h
  rfl

theorem write_map_val (f : α → β) (p : Prog ε α) : (f <$> p).write.val = p.write.val.map f := by
  rw [← bind_pure_comp, write_bind]
  rcases p.write with ⟨o, _ | a, e⟩ <;> rfl

theorem write_map_octets (f : α → β) (p : Prog ε α) : (f <$> p).write.octets = p.write.octets := by
  rw [← bind_pure_comp, write_bind]
  rcases p.write with ⟨o, _ | a, e⟩
  · rfl
  · exact List.append_nil o

@[simp] theorem write_pure (a : α) : (pure a : Prog ε α).write = ⟨[], some a, none⟩ := rfl
@[simp] theorem tame_pure (a : α) : (pure a : Prog ε α).Tame := trivial

theorem tame_bind {p : Prog ε α} {f : α → Prog ε β} (hp : p.Tame) (hf : ∀ a, p.write.val = some a → (f a).Tame) :
    (p >>= f).Tame := by
  change (p.bind f).Tame
  induction p with
  | done a => exact hf a rfl
  | fail e => trivial
  | xfer n out kb kp ihb _ => exact ⟨hp.1, ihb hp.2 hf⟩
  | move n k => exact hp.elim
  | mode kb kp ihb _ => exact ihb hp hf
  | left k => exact hp.elim

/-- `c'` comes from `c` by moving forward and writing only octets that were left to `c`. -/
structure Writes (c c' : Cursor ε) : Prop where
  build : c'.build = c.build
  end_eq : (c'.cur : Int) + c'.left = c.cur + c.left
  cur_le : c.cur ≤ c'.cur
  reads : c'.reads = c.reads
  outside : ∀ i : Nat, i < c.cur ∨ (c.cur + c.left : Int) ≤ i → c'.mem i = c.mem i
  writes : ∃ l, c'.writes = c.writes ++ l ∧ ∀ r ∈ l, c.cur ≤ r.1 ∧ ((r.1 + r.2 : Nat) : Int) ≤ c.cur + c.left

theorem Writes.refl (c : Cursor ε) : Writes c c :=
  ⟨rfl, rfl, le_refl _, rfl, fun _ _ => rfl, [], by simp, by simp⟩

theorem Writes.trans {a b c : Cursor ε} (h : Writes a b) (h' : Writes b c) : Writes a c := by
  obtain ⟨l, hl, hin⟩ := h.writes
  obtain ⟨l', hl', hin'⟩ := h'.writes
  refine ⟨h'.build.trans h.build, h'.end_eq.trans h.end_eq, h.cur_le.trans h'.cur_le, h'.reads.trans h.reads,
    fun i hi => ?_, l ++ l', by rw [hl', hl, List.append_assoc], ?_⟩
  · rw [h'.outside i (by have := h.cur_le; have := h.end_eq; omega), h.outside i hi]
  · intro r hr
    rcases List.mem_append.1 hr with hr | hr
    · exact hin r hr
    · have := hin' r hr
      exact ⟨h.cur_le.trans this.1, by rw [← h.end_eq]; exact this.2⟩

theorem Writes.store {c : Cursor ε} {out : List UInt8} (h : (out.length : Int) ≤ c.left) :
    Writes c ((c.store out).move out.length) := by
  refine ⟨rfl, ?_, by simp [Cursor.move, Cursor.store], rfl, fun i hi => ?_, [(c.cur, out.length)], rfl, ?_⟩
  · simp [Cursor.move, Cursor.store]
  · exact Mem.store_apply_of_outside (by omega)
  · intro r hr
    obtain rfl := List.mem_singleton.1 hr
    simp only [Nat.cast_add]
    omega

/-- A tame build stays inside its room, whether it succeeds or not. -/
theorem run_writes {p : Prog ε α} (ht : p.Tame) {c : Cursor ε} (hb : c.build = true) : Writes c (p.run c).2 := by
  induction p generalizing c with
  | done a => exact .refl c
  | fail e => exact ⟨rfl, rfl, le_refl _, rfl, fun _ _ => rfl, [], by simp [run], by simp⟩
  | xfer n out kb kp ihb _ =>
    obtain ⟨rfl, hk⟩ := ht
    simp only [run, hb, if_true]
    split
    · exact .refl c
    · exact (Writes.store (by omega)).trans (ihb hk hb)
  | move n k => exact ht.elim
  | mode kb kp ihb _ =>
    simp only [run, hb, if_true]
    exact ihb ht hb
  | left k => exact ht.elim

/-- With room for its octets, a tame build writes them and gives its value. -/
theorem run_build {p : Prog ε α} (ht : p.Tame) {c : Cursor ε} (hb : c.build = true)
    (hl : (p.write.octets.length : Int) ≤ c.left) :
    (p.run c).1 = p.write.val ∧ (p.run c).2.mem = c.mem.store c.cur p.write.octets ∧
      (p.run c).2.cur = c.cur + p.write.octets.length ∧ (p.run c).2.left = c.left - p.write.octets.length ∧
      (p.run c).2.size = c.size + p.write.octets.length ∧ (p.run c).2.err = p.write.err.getD c.err := by
  induction p generalizing c with
  | done a => simp [run, write]
  | fail e => simp [run, write]
  | xfer n out kb kp ihb _ =>
    obtain ⟨rfl, hk⟩ := ht
    simp only [write, List.length_append, Nat.cast_add] at hl ⊢
    have hroom : ¬ c.left < out.length := by omega
    simp only [run, hb, if_true, if_neg hroom]
    obtain ⟨h1, h2, h3, h4, h5, h6⟩ := ihb hk (c := (c.store out).move out.length) hb
      (by simp [Cursor.move, Cursor.store]; omega)
    refine ⟨h1, ?_, ?_, ?_, ?_, h6⟩
    · rw [h2, ← Mem.store_append]; rfl
    · rw [h3]; simp [Cursor.move, Cursor.store, Nat.add_assoc]
    · rw [h4]; simp [Cursor.move, Cursor.store]; omega
    · rw [h5]; simp [Cursor.move, Cursor.store, Nat.add_assoc]
  | move n k => exact ht.elim
  | mode kb kp ihb _ =>
    simp only [run, hb, if_true, write] at hl ⊢
    exact ihb ht hb hl
  | left k => exact ht.elim

/-- Without that room it fails with the error it came with. -/
theorem run_short {p : Prog ε α} (ht : p.Tame) {c : Cursor ε} (hb : c.build = true) (h0 : 0 ≤ c.left)
    (hl : c.left < p.write.octets.length) : (p.run c).1 = none ∧ (p.run c).2.err = c.err := by
  induction p generalizing c with
  | done a => simp only [write, List.length_nil] at hl; omega
  | fail e => simp only [write, List.length_nil] at hl; omega
  | xfer n out kb kp ihb _ =>
    obtain ⟨rfl, hk⟩ := ht
    simp only [write, List.length_append, Nat.cast_add] at hl
    simp only [run, hb, if_true]
    split
    · exact ⟨rfl, rfl⟩
    · exact ihb hk (c := (c.store out).move out.length) hb (by simp [Cursor.move, Cursor.store]; omega)
        (by simp [Cursor.move, Cursor.store]; omega)
  | move n k => exact ht.elim
  | mode kb kp ihb _ =>
    simp only [run, hb, if_true, write] at hl ⊢
    exact ihb ht hb h0 hl
  | left k => exact ht.elim

end Prog

end Wire
