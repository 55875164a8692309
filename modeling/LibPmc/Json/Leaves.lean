import LibPmc.Json.Layout
/-!
# What printed values carry

The numbers and strings of a value by their paths, and how those of a printed object come
from the members'.
-/
namespace Json

/-- A number or a string, by its octets. -/
inductive Leaf where
  | number (x : List UInt8)
  | text (t : List UInt8)

abbrev Leaves := List (List String × Leaf)

/-- The value has the leaf behind the path. -/
def Leaf.At (v : Value) (path : List String) : Leaf → Prop
  | .number x => v.lookup path = some (.number x)
  | .text t => v.Shows path t

namespace Value

/-- The value has each leaf. -/
def Has (v : Value) (ls : Leaves) : Prop := ∀ f ∈ ls, f.2.At v f.1

variable {v : Value} {n : String} {k : List UInt16} {fs : List (List UInt16 × Value)} {path : List String} {l : Leaf}

theorem at_cons_self : l.At (.object ((units n.toList, v) :: fs)) (n :: path) ↔ l.At v path := by
  cases l with
  | number x => simp [Leaf.At, lookup, get]
  | text t => exact shows_cons_self

theorem at_cons_of_ne (h : k ≠ units n.toList) :
    l.At (.object ((k, v) :: fs)) (n :: path) ↔ l.At (.object fs) (n :: path) := by
  cases l with
  | number x => simp [Leaf.At, lookup, get, h]
  | text t => exact shows_cons_of_ne h

end Value

/-- The piece is read as a value with these leaves, at any depth. -/
def Piece.Carries (p : Piece) (ls : Leaves) : Prop := ∃ v, (∀ d, Derives (.value v) (p.val d)) ∧ v.Has ls

theorem carries_number {x : List UInt8} (h : IsNumber x) : (Piece.number x h).Carries [([], .number x)] := by
  refine ⟨.number x, fun _ => .number h, ?_⟩
  intro f hf
  obtain rfl := List.mem_singleton.1 hf
  rfl

theorem has_string {cs : List Char} : (Value.string (units cs)).Has [([], .text (utf8 cs))] := by
  intro f hf
  obtain rfl := List.mem_singleton.1 hf
  exact ⟨cs, rfl, rfl⟩

theorem carries_fixed {t : List UInt8} (h : Plain t) : (Piece.fixed t h).Carries [([], .text t)] := by
  obtain ⟨cs, rfl, hcs⟩ := (plain_iff t).1 h
  exact ⟨_, fun _ => .string (chars_of_unescaped hcs), has_string⟩

theorem carries_text {t : List UInt8} (h : Plain t) : (Piece.text t).Carries [([], .text t)] := by
  obtain ⟨cs, rfl, hcs⟩ := (plain_iff t).1 h
  exact ⟨_, fun _ => .string (chars_of_unescaped hcs), has_string⟩

namespace Fields

/-- The members are read as those of an object with these leaves, each behind its name. -/
def Carries (ms : Fields) (ls : Leaves) : Prop := ∃ fs, (∀ d, ms.Reads d fs) ∧ (Value.object fs).Has ls ∧
  ∀ f ∈ ls, ∃ n ∈ ms.names, ∃ path, f.1 = n :: path

theorem carries_nil : Carries [] [] := ⟨[], fun _ => .nil, List.forall_mem_nil _, List.forall_mem_nil _⟩

theorem Carries.cons {n : String} {p : Piece} {ms : Fields} {ls ls' : Leaves} (hp : p.Carries ls) (h : ms.Carries ls')
    (hn : AreNames (names ((n, p) :: ms))) : Carries ((n, p) :: ms) (ls.map (fun f => (n :: f.1, f.2)) ++ ls') := by
  obtain ⟨v, hv, hls⟩ := hp
  obtain ⟨fs, hfs, hls', hpaths⟩ := h
  refine ⟨(units n.toList, v) :: fs, fun d => .cons ⟨rfl, hv d⟩ (hfs d), ?_, ?_⟩
  · intro f hf
    rcases List.mem_append.1 hf with hf | hf
    · obtain ⟨e, he, rfl⟩ := List.mem_map.1 hf
      exact Value.at_cons_self.2 (hls e he)
    · -- the path starts with the name of another member
      obtain ⟨n', hn', path, hpath⟩ := hpaths f hf
      have := hls' f hf
      rw [hpath] at this ⊢
      exact (Value.at_cons_of_ne (hn.ne hn')).2 this
  · intro f hf
    rcases List.mem_append.1 hf with hf | hf
    · obtain ⟨e, -, rfl⟩ := List.mem_map.1 hf
      exact ⟨n, List.mem_cons_self, e.1, rfl⟩
    · obtain ⟨n', hn', path, hpath⟩ := hpaths f hf
      exact ⟨n', List.mem_cons_of_mem _ hn', path, hpath⟩

theorem Carries.object {ms : Fields} {ls : Leaves} (h : ms.Carries ls) (hn : AreNames ms.names) :
    (Piece.object ms hn).Carries ls := by
  obtain ⟨fs, hfs, hls, -⟩ := h
  exact ⟨.object fs, fun d => (hfs (d + 1)).object hn, hls⟩

end Fields

end Json
