import LibPmc.Wire.Trip
/-!
# Parsing, and building what was parsed

`Parses p φ` is the rule for a parse: of every value it gives, and of the octets it
consumed for it, `φ` holds. `Builds q o b` says that building with `q` writes the octets
`o` and gives `b`. A step whose build writes what its parse consumed satisfies
`Parses p fun a o => Builds (q a) o a`, and a chain of such steps builds its octets one
after the other.
-/
namespace Wire

open Prog

variable {ε α β : Type}

/-! ## The octets a build writes -/

/-- The build mode is tame, writes the octets `o` and gives `b`. -/
class Builds (q : Prog ε β) (o : outParam (List UInt8)) (b : outParam β) : Prop where
  tame : q.Tame
  octets : q.write.octets = o
  val : q.write.val = some b

namespace Builds

instance pure (a : α) : Builds (pure a : Prog ε α) [] a := ⟨trivial, rfl, rfl⟩

instance bind {p : Prog ε α} {f : α → Prog ε β} {o o' : List UInt8} {a : α} {b : β} [hp : Builds p o a]
    [hf : Builds (f a) o' b] : Builds (p >>= f) (o ++ o') b := by
  have e := write_bind_of_some hp.val f
  refine ⟨tame_bind hp.tame fun a' ha' => ?_, by rw [e, hp.octets, hf.octets], by rw [e]; exact hf.val⟩
  obtain rfl : a = a' := Option.some.inj (hp.val.symm.trans ha')
  exact hf.tame

instance map {p : Prog ε α} {f : α → β} {o : List UInt8} {a : α} [hp : Builds p o a] : Builds (f <$> p) o (f a) := by
  refine ⟨tame_bind hp.tame fun _ _ => trivial, ?_, ?_⟩
  · rw [write_map_octets, hp.octets]
  · rw [write_map_val, hp.val]
    rfl

theorem building {f : Bool → Prog ε α} {o : List UInt8} {a : α} (h : Builds (f true) o a) :
    Builds (Prog.building >>= f) o a := ⟨h.tame, h.octets, h.val⟩

theorem xfer {n : Nat} {o : List UInt8} {v : α} {kp : Octets n → Prog ε α} (h : o.length = n) :
    Builds (xfer n o (done v) kp) o v := ⟨⟨h, trivial⟩, List.append_nil o, rfl⟩

instance word [Word α] (v : α) : Builds (word v : Prog ε α) (beOctets (Word.width α) (Word.toNat v)) v :=
  xfer (by simp)

instance wordLe [Word α] (v : α) : Builds (wordLe v : Prog ε α) (leOctets (Word.width α) (Word.toNat v)) v :=
  xfer (by simp)

instance array {n : Nat} (v : Octets n) : Builds (array v : Prog ε (Octets n)) v.val v := xfer v.2

/-- The number of octets is the same however it is known. -/
theorem length {q : Prog ε β} {o : List UInt8} {b : β} (h : Builds q o b) {n : Nat} [he : Emits q n] :
    o.length = n := by
  rw [← h.octets, he.length]

theorem cast {q : Prog ε β} {o o' : List UInt8} {b : β} (h : Builds q o b) (he : o = o') : Builds q o' b := he ▸ h

/-- With room for its octets, the build writes them. -/
theorem run {q : Prog ε β} {o : List UInt8} {b : β} (h : Builds q o b) {c : Cursor ε} (hb : c.build = true)
    (hl : (o.length : Int) ≤ c.left) : (q.run c).1 = some b ∧ (q.run c).2.mem = c.mem.store c.cur o ∧
      (q.run c).2.cur = c.cur + o.length ∧ (q.run c).2.err = c.err := by
  obtain ⟨h1, h2, h3, -, -, h6⟩ := run_build h.tame hb (by rw [h.octets]; exact hl)
  rw [h.octets] at h2 h3
  rw [write_err h.val] at h6
  exact ⟨h1.trans h.val, h2, h3, h6⟩

end Builds

/-! ## The octets a parse consumes -/

/-- Of every value parsed, and of the octets consumed for it, `φ` holds. -/
def Parses (p : Prog ε α) (φ : α → List UInt8 → Prop) : Prop :=
  ∀ (l : List UInt8) (a : α), (p.read l.length l).val = some a →
    ∃ o r, l = o ++ r ∧ p.read l.length l = ⟨some a, r.length, r, none⟩ ∧ φ a o

namespace Parses
variable {φ : α → List UInt8 → Prop} {ψ : β → List UInt8 → Prop}

theorem pure {a : α} (h : φ a []) : Parses (pure a : Prog ε α) φ := by
  intro l b hb
  obtain rfl := Option.some.inj hb
  exact ⟨[], l, rfl, rfl, h⟩

theorem fail {e : Option ε} : Parses (fail e : Prog ε α) φ := by
  intro l b hb
  cases hb

theorem mono {p : Prog ε α} {φ' : α → List UInt8 → Prop} (h : Parses p φ) (hi : ∀ a o, φ a o → φ' a o) :
    Parses p φ' := by
  intro l a ha
  obtain ⟨o, r, hl, hr, ho⟩ := h l a ha
  exact ⟨o, r, hl, hr, hi a o ho⟩

theorem bind {p : Prog ε α} {f : α → Prog ε β} (hp : Parses p φ)
    (hf : ∀ a o, φ a o → Parses (f a) fun b o' => ψ b (o ++ o')) : Parses (p >>= f) ψ := by
  intro l b hb
  rw [read_bind] at hb ⊢
  rcases hr : p.read l.length l with ⟨_ | a, l', r, e⟩
  · rw [hr] at hb
    cases hb
  · obtain ⟨o, r', hl, hr', ho⟩ := hp l a (by rw [hr])
    obtain ⟨-, rfl, rfl, -⟩ := Outcome.mk.inj (hr.symm.trans hr')
    rw [hr] at hb
    obtain ⟨o', r', hl', hr', ho'⟩ := hf a o ho r b hb
    exact ⟨o ++ o', r', by rw [hl, hl', List.append_assoc], hr', ho'⟩

theorem map {p : Prog ε α} {f : α → β} (h : Parses p fun a o => ψ (f a) o) : Parses (f <$> p) ψ := by
  have hb : Parses (p >>= fun a => Pure.pure (f a)) ψ :=
    bind h fun a o ho => pure ((List.append_nil o).symm ▸ ho)
  exact hb

/-- The parse mode has its own branch. -/
theorem building {f : Bool → Prog ε α} (h : Parses (f false) φ) : Parses (Prog.building >>= f) φ := h

theorem remaining {f : Int → Prog ε α} (h : ∀ left, Parses (f left) φ) : Parses (Prog.remaining >>= f) φ :=
  fun l => h l.length l

theorem xfer {n : Nat} {out : List UInt8} {kb : Prog ε α} {kp : Octets n → Prog ε α}
    (h : ∀ o : Octets n, Parses (kp o) fun a o' => φ a (o.val ++ o')) : Parses (xfer n out kb kp) φ := by
  intro l a ha
  by_cases hn : (l.length : Int) < n
  · simp only [Prog.read, if_pos hn] at ha
    cases ha
  · have hle : n ≤ l.length := by omega
    have hlen : (l.length : Int) - n = ((l.drop n).length : Int) := by rw [List.length_drop]; omega
    simp only [Prog.read, if_neg hn, hlen] at ha ⊢
    obtain ⟨o', r, hl, hr, ho⟩ := h (Octets.ofList n l) (l.drop n) a ha
    refine ⟨(Octets.ofList n l).val ++ o', r, ?_, hr, ho⟩
    rw [Octets.ofList_val hle, List.append_assoc, ← hl, List.take_append_drop]

/-- A parse consumes the octets its cursor moves past. -/
theorem run {p : Prog ε α} (h : Parses p φ) {c : Cursor ε}
    (hc : c.build = false) (h0 : 0 ≤ c.left) {a : α} (ha : (p.run c).1 = some a) :
    φ a (c.mem.slice c.cur ((p.run c).2.cur - c.cur)) := by
  obtain ⟨h1, h2, -, -, hr⟩ := run_parse p c hc
  have hw : (c.window.length : Int) = c.left := by
    unfold Cursor.window
    rw [Mem.slice_length, Int.toNat_of_nonneg h0]
  rw [← hw] at h1 h2
  obtain ⟨o, r, hor, hread, ho⟩ := h c.window a (h1.symm.trans ha)
  rw [hread] at h2
  dsimp only at h2
  have hlen : (p.run c).2.cur - c.cur = o.length := by
    have hend := hr.end_eq
    have hle := hr.cur_le
    rw [hor, List.length_append] at hw
    omega
  have hs : c.mem.slice c.cur o.length = o := by
    have hle : o.length ≤ c.left.toNat := by
      rw [hor, List.length_append] at hw
      omega
    rw [← Mem.take_slice c.mem c.cur hle]
    change c.window.take o.length = o
    rw [hor, List.take_left]
  rw [hlen, hs]
  exact ho

theorem word [Word α] (v : α) : Parses (word v : Prog ε α) fun a o => Builds (word a : Prog ε α) o a := by
  refine xfer fun o => pure ?_
  refine (Builds.word _).cast ?_
  have hlt := beNat_lt o.val
  rw [o.2] at hlt
  have hb := beOctets_beNat o.val
  rw [o.2] at hb
  rw [Word.toNat_ofNat _ hlt, hb, List.append_nil]

theorem wordLe [Word α] (v : α) : Parses (wordLe v : Prog ε α) fun a o => Builds (wordLe a : Prog ε α) o a := by
  refine xfer fun o => pure ?_
  refine (Builds.wordLe _).cast ?_
  have ho : o.val.reverse.length = Word.width α := by rw [List.length_reverse, o.2]
  have hlt := beNat_lt o.val.reverse
  rw [ho] at hlt
  have hb := beOctets_beNat o.val.reverse
  rw [ho] at hb
  unfold leNat leOctets
  rw [Word.toNat_ofNat _ hlt, hb, List.append_nil, List.reverse_reverse]

theorem array {n : Nat} (v : Octets n) :
    Parses (array v : Prog ε (Octets n)) fun a o => Builds (array a : Prog ε (Octets n)) o a :=
  xfer fun o => pure ((Builds.array o).cast (List.append_nil _).symm)

/-- A counted list builds its records again. -/
theorem count {p : Prog ε α} {q : α → Prog ε α} (h : Parses p fun a o => Builds (q a) o a) (n : Nat) :
    Parses (count p n) fun l o => Builds (all q l) o l ∧ l.length = n := by
  induction n with
  | zero => exact pure ⟨Builds.pure [], rfl⟩
  | succ n ih =>
    refine bind h fun a o ha => bind ih fun l o' hl => pure ⟨?_, by rw [List.length_cons, hl.2]⟩
    have := hl.1
    rw [all_cons]
    infer_instance

/-- So does an open list, which leaves the octets that make no record. -/
theorem whileLeft {p : Prog ε α} {q : α → Prog ε α} (h : Parses p fun a o => Builds (q a) o a) (size fuel : Nat) :
    Parses (whileLeft size p fuel) fun l o => Builds (all q l) o l := by
  induction fuel with
  | zero => exact pure (Builds.pure [])
  | succ fuel ih =>
    refine remaining fun left => ?_
    split
    · exact pure (Builds.pure [])
    · refine bind h fun a o ha => bind ih fun l o' hl => pure ?_
      rw [all_cons]
      infer_instance

/-- A list of fixed length, one record after the other. -/
theorem each {f : α → Prog ε α} (h : ∀ v, Parses (f v) fun a o => Builds (f a) o a) :
    ∀ l : List α, Parses (each f l) fun r o => Builds (each f r.val) o ⟨r.val, rfl⟩ := by
  intro l
  induction l with
  | nil => exact pure (Builds.pure _)
  | cons b l ih =>
    refine bind (h _) fun a o ha => bind ih fun r o' hr => pure ?_
    have := hr
    exact Builds.bind

end Parses

end Wire
