import LibPmc.Wire.Prog
/-!
# Steps of programs, and the round trip

The steps most programs are made of: words, arrays, lists of records. `Emits p n`
says that the build mode of `p` is tame, writes `n` octets and succeeds; `Trip p q`
that whatever `p` builds, `q` parses back, and leaves the octets behind it. Both
are classes, so that a program made of such steps has them by instance search.
-/
namespace Wire

namespace Prog
variable {ε α β : Type}

def building : Prog ε Bool := mode (done true) (done false)

def remaining : Prog ε Int := left done

/-- A word, high octet first. -/
def word [Word α] (v : α) : Prog ε α :=
  xfer (Word.width α) (beOctets (Word.width α) (Word.toNat v)) (done v)
    (fun o => done (Word.ofNat (beNat o.val)))

/-- A word, low octet first. -/
def wordLe [Word α] (v : α) : Prog ε α :=
  xfer (Word.width α) (leOctets (Word.width α) (Word.toNat v)) (done v)
    (fun o => done (Word.ofNat (leNat o.val)))

/-- Exactly `n` octets. -/
def array {n : Nat} (v : Octets n) : Prog ε (Octets n) := xfer n v.val (done v) done

/-- One record after the other. -/
def each (f : α → Prog ε α) : (l : List α) → Prog ε {r : List α // r.length = l.length}
  | [] => pure ⟨[], rfl⟩
  | a :: l => do
    let a ← f a
    let r ← each f l
    return ⟨a :: r.val, by simp [r.2]⟩

def all (f : α → Prog ε α) (l : List α) : Prog ε (List α) := Subtype.val <$> each f l

/-- A counted number of new records. -/
def count (p : Prog ε α) : Nat → Prog ε (List α)
  | 0 => pure []
  | n + 1 => do
    let a ← p
    let r ← count p n
    return a :: r

/-- New records while `size` octets are left, at most `fuel` of them. -/
def whileLeft (size : Nat) (p : Prog ε α) : Nat → Prog ε (List α)
  | 0 => pure []
  | fuel + 1 => do
    let l ← remaining
    if l < size then return []
    else
      let a ← p
      let r ← whileLeft size p fuel
      return a :: r

theorem all_cons (f : α → Prog ε α) (a : α) (l : List α) :
    all f (a :: l) = do
      let a ← f a
      let r ← all f l
      return a :: r := by
  simp [all, each, ← bind_pure_comp]

/-- The values a list of records is left with. -/
theorem write_all {f : α → Prog ε α} {g : α → α} :
    ∀ l : List α, (∀ a ∈ l, (f a).write.val = some (g a)) → (all f l).write.val = some (l.map g)
  | [], _ => rfl
  | a :: l, h => by
    have ih := write_all l fun b hb => h b (List.mem_cons_of_mem _ hb)
    rw [all_cons, write_bind_of_some (h a List.mem_cons_self), write_bind_of_some ih]
    rfl

/-- Their octets, one after the other. -/
theorem write_all_octets {f : α → Prog ε α} {g : α → α} :
    ∀ l : List α, (∀ a ∈ l, (f a).write.val = some (g a)) →
      (all f l).write.octets = (l.map fun a => (f a).write.octets).flatten
  | [], _ => rfl
  | a :: l, h => by
    have hl (b) (hb : b ∈ l) := h b (List.mem_cons_of_mem _ hb)
    have ih := write_all_octets l hl
    rw [all_cons, write_bind_of_some (h a List.mem_cons_self), write_bind_of_some (write_all l hl)]
    simp [ih]

end Prog

open Prog

variable {ε α β : Type}

/-! ## What a build emits -/

/-- The build mode is tame, writes `n` octets and gives a value. -/
class Emits (p : Prog ε α) (n : outParam Nat) : Prop where
  tame : p.Tame
  length : p.write.octets.length = n
  ok : ∃ a, p.write.val = some a

namespace Emits

instance pure (a : α) : Emits (pure a : Prog ε α) 0 := ⟨trivial, rfl, a, rfl⟩

instance word [Word α] (v : α) : Emits (word v : Prog ε α) (Word.width α) :=
  ⟨⟨by simp, trivial⟩, by simp [Prog.word, write], v, by simp [Prog.word, write]⟩

instance wordLe [Word α] (v : α) : Emits (wordLe v : Prog ε α) (Word.width α) :=
  ⟨⟨by simp, trivial⟩, by simp [Prog.wordLe, write], v, by simp [Prog.wordLe, write]⟩

instance array {n : Nat} (v : Octets n) : Emits (array v : Prog ε (Octets n)) n :=
  ⟨⟨v.2, trivial⟩, by simp [Prog.array, write, v.2], v, by simp [Prog.array, write]⟩

theorem bind' {p : Prog ε α} {f : α → Prog ε β} {n m : Nat} [hp : Emits p n]
    (hf : ∀ a, p.write.val = some a → Emits (f a) m) : Emits (p >>= f) (n + m) := by
  obtain ⟨a, ha⟩ := hp.ok
  obtain ⟨b, hb⟩ := (hf a ha).ok
  have e := write_bind_of_some ha f
  exact ⟨tame_bind hp.tame fun a ha => (hf a ha).tame, by simp [e, hp.length, (hf a ha).length], b, by rw [e]; exact hb⟩

instance bind {p : Prog ε α} {f : α → Prog ε β} {n m : Nat} [Emits p n] [hf : ∀ a, Emits (f a) m] :
    Emits (p >>= f) (n + m) := bind' fun a _ => hf a

instance map {p : Prog ε α} {f : α → β} {n : Nat} [Emits p n] : Emits (f <$> p) (n + 0) :=
  inferInstanceAs (Emits (p >>= fun a => Pure.pure (f a)) (n + 0))

theorem cast {p : Prog ε α} {n m : Nat} [hp : Emits p n] (h : n = m) : Emits p m := h ▸ hp

/-- The build mode alone matters. -/
theorem building {f : Bool → Prog ε α} {n : Nat} (h : Emits (f true) n) : Emits (Prog.building >>= f) n :=
  ⟨h.tame, h.length, h.ok⟩

theorem each (f : α → Prog ε α) (size : α → Nat) :
    ∀ l : List α, (∀ a ∈ l, Emits (f a) (size a)) → Emits (Prog.each f l) (l.map size).sum
  | [], _ => Emits.pure _
  | a :: l, h => by
    have := h a List.mem_cons_self
    have := each f size l fun b hb => h b (List.mem_cons_of_mem _ hb)
    exact Emits.bind (m := (l.map size).sum + 0)

theorem all {f : α → Prog ε α} {size : α → Nat} {l : List α} (h : ∀ a ∈ l, Emits (f a) (size a)) :
    Emits (Prog.all f l) ((l.map size).sum + 0) :=
  have := each f size l h
  Emits.map

end Emits

/-! ## Building and parsing back -/

/-- What `p` builds, `q` parses back. -/
class Trip (p q : Prog ε α) : Prop where
  trip : ∀ a, p.write.val = some a → ∀ r : List UInt8,
    q.read (p.write.octets.length + r.length) (p.write.octets ++ r) = ⟨some a, r.length, r, none⟩

namespace Trip

instance pure (a : α) : Trip (pure a : Prog ε α) (pure a) where
  trip b hb r := by
    obtain rfl := Option.some.inj hb
    simp

/-- A step that builds the octets `o` of `v` and parses `v` from them. -/
theorem xfer {n : Nat} {o o' : List UInt8} {v : α} {kb : Prog ε α} {kp : Octets n → Prog ε α} (ho : o.length = n)
    (hv : kp ⟨o, ho⟩ = done v) : Trip (xfer n o (done v) kp) (xfer n o' kb kp) where
  trip a ha r := by
    obtain rfl := Option.some.inj ha
    subst ho
    have hl : ¬ ((o.length : Int) + r.length < o.length) := by omega
    simp only [write, List.append_nil, Prog.read, if_neg hl]
    rw [Octets.ofList_append ⟨o, rfl⟩ r, hv]
    simp [Prog.read]

instance word [Word α] (v v' : α) : Trip (word v : Prog ε α) (word v') :=
  xfer (by simp) (by simp [beNat_beOctets_of_lt (Word.toNat_lt v), Word.ofNat_toNat])

instance wordLe [Word α] (v v' : α) : Trip (wordLe v : Prog ε α) (wordLe v') :=
  xfer (by simp) (by simp [leNat_leOctets_of_lt (Word.toNat_lt v), Word.ofNat_toNat])

instance array {n : Nat} (v v' : Octets n) : Trip (array v : Prog ε (Octets n)) (array v') :=
  xfer v.2 rfl

theorem bind' {p q : Prog ε α} {f g : α → Prog ε β} [hp : Trip p q]
    (hf : ∀ a, p.write.val = some a → Trip (f a) (g a)) : Trip (p >>= f) (q >>= g) where
  trip b hb r := by
    rw [write_bind] at hb ⊢
    rcases hw : p.write with ⟨o, _ | a, e⟩
    · rw [hw] at hb; cases hb
    · have ht := hp.trip a (by rw [hw])
      rw [hw] at hb ht
      have ht' := ht ((f a).write.octets ++ r)
      simp only [List.length_append, Nat.cast_add, List.append_assoc] at ht' ⊢
      rw [read_bind, Int.add_assoc, ht']
      exact (hf a (by rw [hw])).trip b hb r

instance bind {p q : Prog ε α} {f g : α → Prog ε β} [Trip p q] [hf : ∀ a, Trip (f a) (g a)] :
    Trip (p >>= f) (q >>= g) := bind' fun a _ => hf a

instance map {p q : Prog ε α} {f : α → β} [Trip p q] : Trip (f <$> p) (f <$> q) :=
  inferInstanceAs (Trip (p >>= fun a => Pure.pure (f a)) (q >>= fun a => Pure.pure (f a)))

/-- Each mode has its own branch. -/
theorem building {f g : Bool → Prog ε α} (h : Trip (f true) (g false)) :
    Trip (Prog.building >>= f) (Prog.building >>= g) :=
  ⟨h.trip⟩

/-- A list built record by record is parsed back by a loop that counts them. -/
theorem count {f : α → Prog ε α} {q : Prog ε α} :
    ∀ l : List α, (∀ a ∈ l, Trip (f a) q) → Trip (all f l) (count q l.length)
  | [], _ => Trip.pure []
  | a :: l, h => by
    have := h a List.mem_cons_self
    have ih := count l fun b hb => h b (List.mem_cons_of_mem _ hb)
    rw [all_cons]
    exact inferInstanceAs (Trip _ (q >>= fun a => Prog.count q l.length >>= fun r => Pure.pure (a :: r)))

end Trip

end Wire
