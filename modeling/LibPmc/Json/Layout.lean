import LibPmc.Json.Grammar
/-!
# Printed documents

A printer that puts every member on a line of its own and indents it by its depth. A
`Piece` is what it prints as the value of a member. Some of it are texts that it prints
between quotes as they are: what comes out is JSON that shows them exactly where all of
them are plain (`Piece.text_iff`).
-/
namespace Json

open Cstr

def indent (d : Nat) : List UInt8 := (List.replicate d (octets "  ")).flatten

theorem ws_indent (d : Nat) : Ws (indent d) := by
  have hs : Ws (octets "  ") := by decide
  intro b hb
  obtain ⟨l, hl, hb⟩ := List.mem_flatten.1 hb
  rw [List.eq_of_mem_replicate hl] at hb
  exact hs b hb

theorem ws_newline (d : Nat) : Ws (0x0a :: indent d) := List.forall_mem_cons.2 ⟨rfl, ws_indent d⟩

/-- A word does not go on here. -/
def Ends (r : List UInt8) : Prop := ∀ b, r.head? = some b → isWord b = false

/-- A line ends here, but for a comma. -/
def EndsLine (r : List UInt8) : Prop := ∃ t, r = 0x0a :: t ∨ r = 0x2c :: 0x0a :: t

theorem EndsLine.ends {r : List UInt8} (h : EndsLine r) : Ends r := by
  obtain ⟨t, rfl | rfl⟩ := h
  · rintro b ⟨⟩
    rfl
  · rintro b ⟨⟩
    rfl

theorem Ends.cons {b : UInt8} (r : List UInt8) (h : isWord b = false) : Ends (b :: r) := by
  rintro c ⟨⟩
  exact h

theorem Ws.ends {w r : List UInt8} (hw : Ws w) (hr : Ends r) : Ends (w ++ r) := by
  cases w with
  | nil => exact hr
  | cons b w =>
    refine .cons _ ?_
    rw [Bool.eq_false_iff]
    intro h
    exact absurd (hw b List.mem_cons_self) (by simp [isWs_of_isWord h])

abbrev Texts := List (List String × List UInt8)

/-- Each text is plain. -/
def Texts.Plain (ts : Texts) : Prop := ∀ e ∈ ts, Json.Plain e.2

instance (ts : Texts) : Decidable ts.Plain := List.decidableBAll _ ts

theorem Texts.plain_nil : Texts.Plain [] := List.forall_mem_nil _

/-- The value shows each text behind its path. -/
def Value.ShowsAll (v : Value) (ts : Texts) : Prop := ∀ e ∈ ts, v.Shows e.1 e.2

theorem Value.showsAll_nil (v : Value) : v.ShowsAll [] := List.forall_mem_nil _

/-- What is printed as the value of a member, by the depth of the member: white space
and the value. Printed values are read in one way, and as plain texts only. -/
structure Piece where
  pre : Nat → List UInt8
  val : Nat → List UInt8
  texts : Texts
  ws : ∀ d, Ws (pre d)
  head : ∀ d, ∃ b x, val d = b :: x ∧ isWs b = false
  sound : ∀ d, texts.Plain → ∃ v, Derives (.value v) (val d) ∧ v.ShowsAll texts
  exact : ∀ d {v z r r'}, Derives (.value v) z → Ends r → EndsLine r' → z ++ r = val d ++ r' → v.ShowsAll texts →
    texts.Plain ∧ z = val d

/-! ## Words -/

theorem Word.isWord_head {x r y : List UInt8} {b : UInt8} (hx : Word x) (hn : x ≠ []) (h : x ++ r = b :: y) :
    isWord b := by
  obtain ⟨c, x, rfl⟩ := List.exists_cons_of_ne_nil hn
  obtain ⟨rfl, -⟩ := List.cons.inj h
  exact hx c List.mem_cons_self

theorem words_eq {x y r r' : List UInt8} (hx : Word x) (hy : Word y) (hr : Ends r) (hr' : Ends r')
    (h : x ++ r = y ++ r') : x = y := by
  have hs {x r : List UInt8} (hx : Word x) (hr : Ends r) : (x ++ r).takeWhile isWord = x := by
    cases r with
    | nil => rw [List.append_nil]; exact List.takeWhile_eq_self_iff.2 hx
    | cons b r =>
      rw [takeWhile_stop (hr b rfl)]
      exact List.takeWhile_eq_self_iff.2 hx
  rw [← hs hx hr, h, hs hy hr']

theorem Derives.isWord_of_head {v : Value} {z r y : List UInt8} {b : UInt8} (hz : Derives (.value v) z)
    (hb : isWord b) (h : z ++ r = b :: y) : Word z := by
  rcases hz.value_cases with ⟨-, hw⟩ | ⟨s, x, -, rfl, -⟩ | ⟨vs, x, -, rfl, -⟩ | ⟨ms, x, -, rfl, -⟩
  · exact hw
  all_goals
    obtain ⟨rfl, -⟩ := List.cons.inj h
    exact absurd hb (by decide)

/-- A number or a constant. -/
def Piece.word (v : Value) (x : List UInt8) (h : Derives (.value v) x) (hn : x ≠ []) (hx : Word x) : Piece where
  pre _ := octets " "
  val _ := x
  texts := []
  ws _ := ws_space
  head _ := by
    obtain ⟨b, y, rfl⟩ := List.exists_cons_of_ne_nil hn
    exact ⟨b, y, rfl, isWs_of_isWord (hx b List.mem_cons_self)⟩
  sound _ _ := ⟨v, h, Value.showsAll_nil _⟩
  exact _ v z r r' hz hr hr' he _ := by
    obtain ⟨b, y, rfl⟩ := List.exists_cons_of_ne_nil hn
    refine ⟨Texts.plain_nil, ?_⟩
    exact words_eq (hz.isWord_of_head (hx b List.mem_cons_self) he) hx hr hr'.ends he

def Piece.number (x : List UInt8) (h : IsNumber x) : Piece := .word _ x (.number h) h.ne_nil h.word

def Piece.bool (b : Bool) : Piece :=
  .word _ _ (.bool b) (by cases b <;> decide) (by cases b <;> decide)

/-! ## Texts between quotes -/

theorem Derives.string_of_head {v : Value} {z r y : List UInt8} (hz : Derives (.value v) z) (h : z ++ r = 0x22 :: y) :
    ∃ s x, v = .string s ∧ z = quoted x ∧ Chars s x := by
  rcases hz.value_cases with ⟨hn, hw⟩ | hs | ⟨vs, x, -, rfl, -⟩ | ⟨ms, x, -, rfl, -⟩
  · exact absurd (hw.isWord_head hn h) (by decide)
  · exact hs
  · exact absurd (List.cons.inj h).1 (by decide)
  · exact absurd (List.cons.inj h).1 (by decide)

/-- Two readings up to a quote: the same, or one goes on behind the quote of the other. -/
theorem quote_cases {x t r r' : List UInt8} (h : x ++ 0x22 :: r = t ++ 0x22 :: r') :
    x = t ∨ (∃ a, t = x ++ 0x22 :: a) ∨ ∃ a, x = t ++ 0x22 :: a ∧ r' = a ++ 0x22 :: r := by
  rcases List.append_eq_append_iff.1 h with ⟨a, rfl, ha⟩ | ⟨a, rfl, ha⟩
  · cases a with
    | nil => exact .inl (List.append_nil x).symm
    | cons b a =>
      obtain ⟨rfl, -⟩ := List.cons.inj ha
      exact .inr (.inl ⟨a, rfl⟩)
  · cases a with
    | nil => exact .inl (List.append_nil t)
    | cons b a =>
      obtain ⟨rfl, hr⟩ := List.cons.inj ha
      exact .inr (.inr ⟨a, rfl, hr⟩)

/-- A plain text between quotes is read as a whole. -/
theorem Chars.eq_of_plain {s : List UInt16} {x t r r' : List UInt8} (hx : Chars s x) (ht : ∀ b ∈ t, PlainOctet b)
    (h : x ++ 0x22 :: r = t ++ 0x22 :: r') : x = t := by
  rcases quote_cases h with rfl | ⟨a, rfl⟩ | ⟨a, rfl, -⟩
  · rfl
  · exact absurd rfl (ht 0x22 (by simp)).2.1
  · exact absurd rfl (ht 0x5c hx.backslash_mem).2.2

theorem EndsLine.mem_of_quote {a r r' : List UInt8} (hr : EndsLine r') (h : r' = a ++ 0x22 :: r) : 0x0a ∈ a := by
  obtain ⟨q, rfl | rfl⟩ := hr
  · cases a with
    | nil => exact absurd (List.cons.inj h).1 (by decide)
    | cons b a =>
      obtain ⟨rfl, -⟩ := List.cons.inj h
      exact List.mem_cons_self
  · cases a with
    | nil => exact absurd (List.cons.inj h).1 (by decide)
    | cons b a =>
      obtain ⟨-, h⟩ := List.cons.inj h
      cases a with
      | nil => exact absurd (List.cons.inj h).1 (by decide)
      | cons c a =>
        obtain ⟨rfl, -⟩ := List.cons.inj h
        exact List.mem_cons_of_mem _ List.mem_cons_self

/-- A text between quotes that is read as itself is plain: an escape would make the
reading longer, into the end of the line. -/
theorem Chars.plain_of_shown {cs : List Char} {x r r' : List UInt8} (hx : Chars (units cs) x) (hr : EndsLine r')
    (h : x ++ 0x22 :: r = utf8 cs ++ 0x22 :: r') : Plain (utf8 cs) ∧ x = utf8 cs := by
  have hle := hx.weights_le
  rw [weights_units] at hle
  rcases quote_cases h with rfl | ⟨a, ha⟩ | ⟨a, rfl, ha⟩
  · refine ⟨hx.plain_or_lt.resolve_right fun hlt => ?_, rfl⟩
    rw [weights_units] at hlt
    exact lt_irrefl _ hlt
  · rw [ha, List.length_append, List.length_cons] at hle
    omega
  · -- no string has the newline in it
    have hm := hr.mem_of_quote ha
    exact absurd (hx.le_of_mem 0x0a (List.mem_append_right _ (List.mem_cons_of_mem _ hm))) (by decide)

theorem quoted_append (x r : List UInt8) : quoted x ++ r = 0x22 :: (x ++ 0x22 :: r) := by simp [quoted]

/-- A text that is known to be plain. -/
def Piece.fixed (t : List UInt8) (ht : Plain t) : Piece where
  pre _ := octets " "
  val _ := quoted t
  texts := []
  ws _ := ws_space
  head _ := ⟨_, _, rfl, rfl⟩
  sound _ _ := by
    obtain ⟨cs, rfl, hcs⟩ := (plain_iff t).1 ht
    exact ⟨_, .string (chars_of_unescaped hcs), Value.showsAll_nil _⟩
  exact _ v z r r' hz hr hr' he _ := by
    obtain ⟨s, x, rfl, rfl, hx⟩ := hz.string_of_head he
    rw [quoted_append, quoted_append] at he
    refine ⟨Texts.plain_nil, ?_⟩
    rw [hx.eq_of_plain ht.2 (List.cons.inj he).2]

/-- A text that is printed as it is. -/
def Piece.text (t : List UInt8) : Piece where
  pre _ := octets " "
  val _ := quoted t
  texts := [([], t)]
  ws _ := ws_space
  head _ := ⟨_, _, rfl, rfl⟩
  sound _ h := by
    obtain ⟨cs, rfl, hcs⟩ := (plain_iff t).1 (h _ List.mem_cons_self)
    refine ⟨_, .string (chars_of_unescaped hcs), ?_⟩
    simp only [Value.ShowsAll, List.forall_mem_singleton]
    exact ⟨cs, rfl, rfl⟩
  exact _ v z r r' hz hr hr' he hs := by
    obtain ⟨s, x, rfl, rfl, hx⟩ := hz.string_of_head he
    obtain ⟨cs, rfl, hcs⟩ := hs _ List.mem_cons_self
    obtain rfl : s = units cs := by simpa [Value.lookup] using hcs
    rw [quoted_append, quoted_append] at he
    obtain ⟨hp, rfl⟩ := hx.plain_of_shown hr' (List.cons.inj he).2
    refine ⟨?_, rfl⟩
    simp only [Texts.Plain, List.forall_mem_singleton]
    exact hp

/-! ## Arrays without elements -/

theorem Derives.array_of_head {v : Value} {z r y : List UInt8} (hz : Derives (.value v) z) (h : z ++ r = 0x5b :: y) :
    ∃ vs x, v = .array vs ∧ z = 0x5b :: x ++ [0x5d] ∧ (vs = [] ∧ Ws x ∨ Derives (.elements vs) x) := by
  rcases hz.value_cases with ⟨hn, hw⟩ | ⟨s, x, -, rfl, -⟩ | ha | ⟨ms, x, -, rfl, -⟩
  · exact absurd (hw.isWord_head hn h) (by decide)
  · exact absurd (List.cons.inj h).1 (by decide)
  · exact ha
  · exact absurd (List.cons.inj h).1 (by decide)

/-- Brackets with white space between them are the array without elements. -/
theorem Derives.noElements {v : Value} {z w r r' : List UInt8} (hz : Derives (.value v) z) (hw : Ws w)
    (he : z ++ r = 0x5b :: w ++ [0x5d] ++ r') : v = .array [] ∧ z = 0x5b :: w ++ [0x5d] := by
  obtain ⟨vs, x, rfl, rfl, hx⟩ := hz.array_of_head he
  rw [List.append_assoc, List.append_assoc] at he
  rcases hx with ⟨rfl, hx⟩ | hx
  · obtain ⟨rfl, -⟩ := hx.cancel hw rfl rfl (List.cons.inj he).2
    exact ⟨rfl, rfl⟩
  · -- no element starts with the bracket
    obtain ⟨w', b, y, rfl, hw', hb, hne⟩ := hx.elements_head
    simp only [List.cons_append, List.append_assoc, List.cons.injEq, true_and] at he
    exact absurd (hw'.cancel hw hb rfl he).2.1 hne

def Piece.noElements : Piece where
  pre d := 0x0a :: indent d
  val d := 0x5b :: (0x0a :: indent d) ++ [0x5d]
  texts := []
  ws d := ws_newline d
  head _ := ⟨_, _, rfl, rfl⟩
  sound d _ := ⟨_, .array₀ (ws_newline d), Value.showsAll_nil _⟩
  exact d v z r r' hz hr hr' he _ := by
    obtain ⟨-, rfl⟩ := hz.noElements (ws_newline d) he
    exact ⟨Texts.plain_nil, rfl⟩

/-! ## Objects -/

/-- ASCII characters without escapes. -/
def IsName (n : String) : Prop := Ascii (octets n)

instance (n : String) : Decidable (IsName n) := inferInstanceAs (Decidable (Ascii _))

theorem IsName.chars {n : String} (h : IsName n) : Chars (units n.toList) (octets n) := by
  rw [octets_eq_utf8]
  refine chars_of_unescaped fun c hc => (unescaped_iff c).2 fun b hb => (h b ?_).1
  rw [octets_eq_utf8]
  exact List.mem_flatMap.2 ⟨c, hc, hb⟩

/-- A name is read as itself. -/
theorem IsName.eq_units {n : String} {s : List UInt16} (h : IsName n) (hs : Chars s (octets n)) :
    s = units n.toList := by
  rw [hs.eq_map h, h.chars.eq_map h]

theorem IsName.octets_eq {n n' : String} (h : IsName n) (h' : IsName n') (he : units n.toList = units n'.toList) :
    octets n = octets n' := by
  rw [h.chars.eq_map h, h'.chars.eq_map h'] at he
  exact List.map_injective_iff.2 (fun a b hab => by simpa [← UInt8.toNat_inj, ← UInt16.toNat_inj] using hab) he

/-- Names of members: no two are the same. -/
def AreNames (ns : List String) : Prop := (∀ n ∈ ns, IsName n) ∧ (ns.map octets).Nodup

instance (ns : List String) : Decidable (AreNames ns) :=
  have : Decidable (∀ n ∈ ns, IsName n) := List.decidableBAll _ ns
  inferInstanceAs (Decidable (_ ∧ _))

theorem AreNames.tail {n : String} {ns : List String} (h : AreNames (n :: ns)) : AreNames ns :=
  ⟨fun n hn => h.1 n (List.mem_cons_of_mem _ hn), (List.nodup_cons.1 h.2).2⟩

theorem AreNames.ne {n n' : String} {ns : List String} (h : AreNames (n :: ns)) (hn : n' ∈ ns) :
    units n.toList ≠ units n'.toList := by
  intro he
  have ho := (h.1 n List.mem_cons_self).octets_eq (h.1 n' (List.mem_cons_of_mem _ hn)) he
  refine (List.nodup_cons.1 h.2).1 ?_
  rw [ho]
  exact List.mem_map_of_mem hn

namespace Value
variable {v : Value} {n : String} {k : List UInt16} {ms : List (List UInt16 × Value)} {path : List String}
  {t : List UInt8}

theorem shows_cons_self : (Value.object ((units n.toList, v) :: ms)).Shows (n :: path) t ↔ v.Shows path t := by
  simp [Shows, lookup, get]

theorem shows_cons_of_ne (h : k ≠ units n.toList) :
    (Value.object ((k, v) :: ms)).Shows (n :: path) t ↔ (Value.object ms).Shows (n :: path) t := by
  simp [Shows, lookup, get, h]

end Value

/-- The members of an object: each a name and what is printed as its value. -/
abbrev Fields := List (String × Piece)

namespace Fields

def names (ms : Fields) : List String := ms.map Prod.fst

def texts (ms : Fields) : Texts := ms.flatMap fun m => m.2.texts.map fun e => (m.1 :: e.1, e.2)

theorem texts_cons (n : String) (p : Piece) (ms : Fields) :
    texts ((n, p) :: ms) = p.texts.map (fun e => (n :: e.1, e.2)) ++ ms.texts := rfl

theorem plain_cons {n : String} {p : Piece} {ms : Fields} :
    (texts ((n, p) :: ms)).Plain ↔ p.texts.Plain ∧ ms.texts.Plain := by
  simp only [Texts.Plain, texts_cons, List.forall_mem_append, List.forall_mem_map]

theorem showsAll_cons {n : String} {p : Piece} {ms : Fields} {v : Value} {fs : List (List UInt16 × Value)}
    (hn : AreNames (names ((n, p) :: ms))) : (Value.object ((units n.toList, v) :: fs)).ShowsAll
      (texts ((n, p) :: ms)) ↔
      v.ShowsAll p.texts ∧ (Value.object fs).ShowsAll ms.texts := by
  simp only [Value.ShowsAll, texts_cons, List.forall_mem_append, List.forall_mem_map, Value.shows_cons_self]
  refine and_congr_right fun _ => forall₂_congr fun e he => ?_
  -- the path of the text starts with another name
  obtain ⟨m, hm, he⟩ := List.mem_flatMap.1 he
  obtain ⟨e, -, rfl⟩ := List.mem_map.1 he
  exact Value.shows_cons_of_ne (hn.ne (List.mem_map_of_mem hm))

theorem octets_colon : octets " :" = [0x20, 0x3a] := by decide

/-- The line of a member. -/
def line (d : Nat) (n : String) (p : Piece) : List UInt8 :=
  (0x0a :: indent d) ++ quoted (octets n) ++ octets " :" ++ p.pre d ++ p.val d

/-- The members as they are printed, the first without a comma. -/
def print (d : Nat) : Bool → Fields → List UInt8
  | _, [] => []
  | first, (n, p) :: ms => (if first then [] else [0x2c]) ++ line d n p ++ print d false ms

theorem print_append (d : Nat) (first : Bool) (a b : Fields) :
    print d first (a ++ b) = print d first a ++ print d (first && a.isEmpty) b := by
  induction a generalizing first with
  | nil => simp [print]
  | cons m a ih => simp [print, ih]

theorem print_false {d : Nat} {ms : Fields} (h : ms ≠ []) : print d false ms = 0x2c :: print d true ms := by
  cases ms with
  | nil => exact absurd rfl h
  | cons m ms => rfl

theorem line_append (d : Nat) (n : String) (p : Piece) (R : List UInt8) : line d n p ++ R =
    (0x0a :: indent d) ++ 0x22 :: (octets n ++ 0x22 :: ([0x20] ++ 0x3a :: (p.pre d ++ (p.val d ++ R)))) := by
  simp [line, quoted, octets_colon]

/-- The line of a member is read as itself. -/
theorem line_exact {d : Nat} {n : String} {p : Piece} {w k w₁ w₂ y T R : List UInt8} {s : List UInt16} {v : Value}
    (hn : IsName n) (hw : Ws w) (hk : Chars s k) (h₁ : Ws w₁) (h₂ : Ws w₂) (hv : Derives (.value v) y) (hT : Ends T)
    (hR : EndsLine R) (he : w ++ quoted k ++ w₁ ++ 0x3a :: w₂ ++ y ++ T = line d n p ++ R) :
    s = units n.toList ∧ (v.ShowsAll p.texts →
      p.texts.Plain ∧ y = p.val d ∧ w ++ quoted k ++ w₁ ++ 0x3a :: w₂ ++ y = line d n p ∧ T = R) := by
  have hl := he
  rw [line_append] at he
  simp only [quoted, List.append_assoc, List.cons_append] at he
  obtain ⟨rfl, -, he⟩ := hw.cancel (ws_newline d) rfl rfl he
  obtain rfl : k = octets n := hk.eq_of_plain (fun b hb => (hn b hb).1) he
  refine ⟨hn.eq_units hk, fun hs => ?_⟩
  obtain ⟨rfl, -, he⟩ := h₁.cancel ws_space rfl rfl (List.cons.inj (List.append_cancel_left he)).2
  -- both values start with something else than white space
  obtain ⟨b, y', rfl, hb, -⟩ := hv.head
  obtain ⟨b', x, hx, hb'⟩ := p.head d
  rw [hx] at he
  obtain ⟨rfl, rfl, hyx⟩ := h₂.cancel (p.ws d) hb hb' he
  obtain ⟨hp, hy⟩ := p.exact d hv hT hR (by rw [hx]; exact congrArg (b :: ·) hyx) hs
  have hline : 0x0a :: indent d ++ quoted (octets n) ++ [0x20] ++ 0x3a :: p.pre d ++ b :: y' = line d n p := by
    rw [hy, line, octets_colon]
    simp
  rw [hline] at hl
  exact ⟨hp, hy, hline, List.append_cancel_left hl⟩

/-- The members of a value are read from these, in their order. -/
def Reads (d : Nat) (fs : List (List UInt16 × Value)) (ms : Fields) : Prop :=
  List.Forall₂ (fun f m => f.1 = units m.1.toList ∧ Derives (.value f.2) (m.2.val d)) fs ms

/-- The value behind a name is read from the name's piece. -/
theorem Reads.get {d : Nat} {fs : List (List UInt16 × Value)} {ms : Fields} {n : String} {p : Piece}
    (h : Reads d fs ms) (hn : AreNames ms.names) (hp : (n, p) ∈ ms) :
    ∃ v, (Value.object fs).get n = some v ∧ Derives (.value v) (p.val d) := by
  induction h with
  | nil => exact absurd hp List.not_mem_nil
  | @cons f m fs ms hf _ ih =>
    obtain ⟨hk, hv⟩ := hf
    rcases List.mem_cons.1 hp with rfl | hp
    · refine ⟨f.2, ?_, hv⟩
      simp [Value.get, hk]
    · obtain ⟨v, hg, hv⟩ := ih hn.tail hp
      have hne : f.1 ≠ units n.toList := by
        rw [hk]
        exact hn.ne (List.mem_map_of_mem hp)
      refine ⟨v, ?_, hv⟩
      rw [← hg]
      simp [Value.get, hne]

theorem Reads.derives {d : Nat} {fs : List (List UInt16 × Value)} {ms : Fields} {w : List UInt8} (h : Reads d fs ms)
    (hms : ms ≠ []) (hn : AreNames ms.names) (hw : Ws w) : Derives (.members fs) (ms.print d true ++ w) := by
  induction h with
  | nil => exact absurd rfl hms
  | @cons f m fs ms hf _ ih =>
    obtain ⟨n, p⟩ := m
    obtain ⟨k, v⟩ := f
    obtain ⟨rfl, hv⟩ := hf
    have hk := (hn.1 n List.mem_cons_self).chars
    by_cases he : ms = []
    · subst he
      cases ‹List.Forall₂ _ fs []›
      have := Derives.member (ws_newline d) hk ws_space (p.ws d) hv hw
      simpa [print, line, octets_colon] using this
    · have := Derives.members (ws_newline d) hk ws_space (p.ws d) hv ws_nil (ih he hn.tail)
      simpa [print, line, octets_colon, print_false he] using this

theorem sound {ms : Fields} (hn : AreNames ms.names) (d : Nat) (ht : ms.texts.Plain) :
    ∃ fs, Reads d fs ms ∧ (Value.object fs).ShowsAll ms.texts := by
  induction ms with
  | nil => exact ⟨[], .nil, Value.showsAll_nil _⟩
  | cons m ms ih =>
    obtain ⟨n, p⟩ := m
    obtain ⟨hp, ht⟩ := plain_cons.1 ht
    obtain ⟨v, hv, hsv⟩ := p.sound d hp
    obtain ⟨fs, hf, hfs⟩ := ih hn.tail ht
    exact ⟨(units n.toList, v) :: fs, .cons ⟨rfl, hv⟩ hf, (showsAll_cons hn).2 ⟨hsv, hfs⟩⟩

theorem endsLine {d : Nat} {ms : Fields} {w r : List UInt8} : EndsLine (ms.print d false ++ (0x0a :: w) ++ r) := by
  cases ms with
  | nil => exact ⟨w ++ r, .inl rfl⟩
  | cons m ms => exact ⟨_, .inr (by simp [print, line]; rfl)⟩

/-- Printed members are read in one way. -/
theorem exact {ms : Fields} (hms : ms ≠ []) (hn : AreNames ms.names) {d : Nat} {fs : List (List UInt16 × Value)}
    {x w r r' : List UInt8} (hx : Derives (.members fs) x) (hw : Ws (0x0a :: w))
    (he : x ++ 0x7d :: r = ms.print d true ++ (0x0a :: w) ++ 0x7d :: r') (hs : (Value.object fs).ShowsAll ms.texts) :
    ms.texts.Plain ∧ x = ms.print d true ++ (0x0a :: w) ∧ Reads d fs ms := by
  induction ms generalizing fs x with
  | nil => exact absurd rfl hms
  | cons m ms ih =>
    obtain ⟨n, p⟩ := m
    have hnn := hn.1 n List.mem_cons_self
    have hR : EndsLine (print d false ms ++ (0x0a :: w) ++ 0x7d :: r') := endsLine
    cases hx with
    | @member w₀ s k w₁ w₂ v y w₃ h₀ hk h₁ h₂ hv h₃ =>
      have hT : Ends (w₃ ++ 0x7d :: r) := h₃.ends (.cons _ rfl)
      obtain ⟨rfl, hl⟩ := line_exact hnn h₀ hk h₁ h₂ hv hT hR (by simpa [print] using he)
      obtain ⟨hvs, -⟩ := (showsAll_cons hn).1 hs
      obtain ⟨hp, rfl, hline, ht⟩ := hl hvs
      by_cases hem : ms = []
      · subst hem
        obtain ⟨rfl, -⟩ := h₃.cancel hw rfl rfl ht
        refine ⟨plain_cons.2 ⟨hp, Texts.plain_nil⟩, ?_, .cons ⟨rfl, hv⟩ .nil⟩
        rw [hline]
        simp [print]
      · -- the derivation ends where a comma is printed
        rw [print_false hem] at ht
        exact absurd (h₃.cancel ws_nil rfl rfl ht).2.1 (by decide)
    | @members w₀ s k w₁ w₂ v y w₃ fs z h₀ hk h₁ h₂ hv h₃ hf =>
      have hT : Ends (w₃ ++ 0x2c :: (z ++ 0x7d :: r)) := h₃.ends (.cons _ rfl)
      obtain ⟨rfl, hl⟩ := line_exact hnn h₀ hk h₁ h₂ hv hT hR (by simpa [print] using he)
      obtain ⟨hvs, hms⟩ := (showsAll_cons hn).1 hs
      obtain ⟨hp, rfl, hline, ht⟩ := hl hvs
      by_cases hem : ms = []
      · subst hem
        exact absurd (h₃.cancel hw rfl rfl ht).2.1 (by decide)
      · rw [print_false hem] at ht
        obtain ⟨rfl, -, ht⟩ := h₃.cancel ws_nil rfl rfl ht
        obtain ⟨hq, rfl, hrs⟩ := ih hem hn.tail hf ht hms
        refine ⟨plain_cons.2 ⟨hp, hq⟩, ?_, .cons ⟨rfl, hv⟩ hrs⟩
        rw [hline]
        simp [print, print_false hem]

end Fields

theorem Derives.object_of_head {v : Value} {z r y : List UInt8} (hz : Derives (.value v) z) (h : z ++ r = 0x7b :: y) :
    ∃ fs x, v = .object fs ∧ z = 0x7b :: x ++ [0x7d] ∧ (fs = [] ∧ Ws x ∨ Derives (.members fs) x) := by
  rcases hz.value_cases with ⟨hn, hw⟩ | ⟨s, x, -, rfl, -⟩ | ⟨vs, x, -, rfl, -⟩ | ho
  · exact absurd (hw.isWord_head hn h) (by decide)
  · exact absurd (List.cons.inj h).1 (by decide)
  · exact absurd (List.cons.inj h).1 (by decide)
  · exact ho

/-- A printed object is read in one way, member by member. -/
theorem Derives.object_exact {ms : Fields} (hn : AreNames ms.names) {d : Nat} {v : Value} {z r r' : List UInt8}
    (hz : Derives (.value v) z)
    (he : z ++ r = 0x7b :: (ms.print (d + 1) true ++ (0x0a :: indent d)) ++ [0x7d] ++ r') (hs : v.ShowsAll ms.texts) :
    ms.texts.Plain ∧ z = 0x7b :: (ms.print (d + 1) true ++ (0x0a :: indent d)) ++ [0x7d] ∧
      ∃ fs, v = .object fs ∧ ms.Reads (d + 1) fs := by
  obtain ⟨fs, x, rfl, rfl, hx⟩ := hz.object_of_head he
  simp only [List.cons_append, List.append_assoc, List.cons.injEq, true_and] at he
  cases ms with
  | nil =>
    refine ⟨Texts.plain_nil, ?_⟩
    rcases hx with ⟨rfl, hx⟩ | hx
    · obtain ⟨rfl, -⟩ := hx.cancel (ws_newline d) rfl rfl he
      exact ⟨rfl, [], rfl, .nil⟩
    · obtain ⟨w, y, rfl, hw⟩ := hx.members_head
      rw [List.append_assoc] at he
      exact absurd (hw.cancel (ws_newline d) rfl rfl he).2.1 (by decide)
  | cons m ms =>
    rcases hx with ⟨-, hx⟩ | hx
    · simp only [Fields.print, if_pos, List.nil_append, List.append_assoc, Fields.line_append] at he
      exact absurd (hx.cancel (ws_newline (d + 1)) rfl rfl he).2.1 (by decide)
    · obtain ⟨hp, rfl, hrs⟩ := Fields.exact (List.cons_ne_nil m ms) hn hx (ws_newline d) (by simpa using he) hs
      exact ⟨hp, rfl, fs, rfl, hrs⟩

/-- What the members are read as is read from the object. -/
theorem Fields.Reads.object {ms : Fields} {d : Nat} {fs : List (List UInt16 × Value)} (h : ms.Reads (d + 1) fs)
    (hn : AreNames ms.names) :
    Derives (.value (.object fs)) (0x7b :: (ms.print (d + 1) true ++ (0x0a :: indent d)) ++ [0x7d]) := by
  by_cases he : ms = []
  · subst he
    cases h
    exact .object₀ (ws_newline d)
  · exact .object (h.derives he hn (ws_newline d))

def Piece.object (ms : Fields) (hn : AreNames ms.names) : Piece where
  pre d := 0x0a :: indent d
  val d := 0x7b :: (ms.print (d + 1) true ++ (0x0a :: indent d)) ++ [0x7d]
  texts := ms.texts
  ws d := ws_newline d
  head _ := ⟨_, _, rfl, rfl⟩
  sound d h := by
    obtain ⟨fs, hf, hs⟩ := Fields.sound hn (d + 1) h
    exact ⟨.object fs, hf.object hn, hs⟩
  exact d v z r r' hz hr hr' he hs := by
    obtain ⟨hp, hz, -⟩ := hz.object_exact hn he hs
    exact ⟨hp, hz⟩

/-- The texts of an object that is the only member. -/
theorem Fields.texts_object (n : String) {ms : Fields} (hn : AreNames ms.names) :
    texts [(n, Piece.object ms hn)] = ms.texts.map fun e => (n :: e.1, e.2) := by
  rw [texts_cons]
  exact List.append_nil _

/-- What is read from a printed object. -/
theorem Piece.object_reads {ms : Fields} {hn : AreNames ms.names} {d : Nat} {v : Value}
    (h : Derives (.value v) ((Piece.object ms hn).val d)) (hs : v.ShowsAll ms.texts) :
    ∃ fs, v = .object fs ∧ ms.Reads (d + 1) fs := by
  have he : (Piece.object ms hn).val d ++ [] = (Piece.object ms hn).val d ++ [] := rfl
  exact (h.object_exact hn he hs).2.2

/-- What is read from a printed array without elements. -/
theorem Piece.noElements_reads {d : Nat} {v : Value} (h : Derives (.value v) (Piece.noElements.val d)) :
    v = .array [] := by
  have he : Piece.noElements.val d ++ [] = Piece.noElements.val d ++ [] := rfl
  exact (h.noElements (ws_newline d) he).1

/-- A text of what is printed is a reading of it. -/
theorem Piece.derives_of_text {p : Piece} {v : Value} (h : Text v (p.val 0)) (hs : v.ShowsAll p.texts) :
    p.texts.Plain ∧ Derives (.value v) (p.val 0) := by
  obtain ⟨w, y, w', he, hw, hy, hw'⟩ := h
  obtain ⟨b, z, rfl, hb, -⟩ := hy.head
  obtain ⟨b', x, hx, hb'⟩ := p.head 0
  rw [hx, List.append_assoc] at he
  obtain ⟨rfl, rfl, hxz⟩ := hw.cancel ws_nil hb hb' he.symm
  have hT : Ends (w' ++ [0x0a]) := hw'.ends (.cons _ rfl)
  have he : b :: z ++ (w' ++ [0x0a]) = p.val 0 ++ [0x0a] := by
    rw [hx, ← hxz]
    simp
  obtain ⟨hp, hz⟩ := p.exact 0 hy hT ⟨[], .inl rfl⟩ he hs
  rw [hz] at hy
  exact ⟨hp, hy⟩

/-- What is printed is a text that shows its texts exactly where they are plain. -/
theorem Piece.text_iff (p : Piece) : (∃ v, Text v (p.val 0) ∧ v.ShowsAll p.texts) ↔ p.texts.Plain := by
  constructor
  · rintro ⟨v, ht, hs⟩
    exact (p.derives_of_text ht hs).1
  · intro h
    obtain ⟨v, hv, hs⟩ := p.sound 0 h
    exact ⟨v, ⟨[], p.val 0, [], by simp, ws_nil, hv, ws_nil⟩, hs⟩

end Json
