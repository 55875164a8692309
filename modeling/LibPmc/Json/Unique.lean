import LibPmc.Json.Layout
/-!
# The grammar is unambiguous

A text is read as one value only, so that whichever parser keeps to the grammar reads what
another one does. A derivation is compared with any other that starts at the same place:
both end there too.
-/
namespace Json

open Cstr

/-! ## Characters -/

theorem utf8EncodeChar_cancel {c c' : Char} {x y : List UInt8}
    (h : String.utf8EncodeChar c ++ x = String.utf8EncodeChar c' ++ y) : c = c' ∧ x = y := by
  have hc : c = c' := by
    have hd := @ByteArray.utf8DecodeChar?_utf8EncodeChar_append x.toByteArray c
    rw [← List.toByteArray_append, h, List.toByteArray_append, ByteArray.utf8DecodeChar?_utf8EncodeChar_append] at hd
    exact (Option.some.inj hd).symm
  subst hc
  exact ⟨rfl, List.append_cancel_left h⟩

/-- A character that stands for itself starts with no quote and no backslash. -/
theorem Unescaped.head {c : Char} (h : Unescaped c) :
    ∃ b y, String.utf8EncodeChar c = b :: y ∧ b ≠ 0x22 ∧ b ≠ 0x5c := by
  obtain ⟨b, y, hb⟩ := List.exists_cons_of_ne_nil (@String.utf8EncodeChar_ne_nil c)
  have hp := (unescaped_iff c).1 h b (hb ▸ List.mem_cons_self)
  exact ⟨b, y, hb, hp.2⟩

theorem escape_u : escape 0x75 = none := rfl

/-- What stands between two quotes is read in one way. -/
theorem Chars.unique {s s' : List UInt16} {x x' r r' : List UInt8} (h : Chars s x) (h' : Chars s' x')
    (he : x ++ 0x22 :: r = x' ++ 0x22 :: r') : x = x' ∧ s = s' := by
  induction h generalizing s' x' with
  | nil =>
    cases h' with
    | nil => exact ⟨rfl, rfl⟩
    | raw hc _ =>
      obtain ⟨b, y, hb, hq, -⟩ := hc.head
      rw [hb] at he
      exact absurd (List.cons.inj he).1.symm hq
    | esc | hex => exact absurd (List.cons.inj he).1 (by decide)
  | @raw c s x hc _ ih =>
    obtain ⟨b, y, hb, hq, hs⟩ := hc.head
    cases h' with
    | nil =>
      rw [hb] at he
      exact absurd (List.cons.inj he).1 hq
    | @raw c' s' x' hc' h' =>
      rw [List.append_assoc, List.append_assoc] at he
      obtain ⟨rfl, het⟩ := utf8EncodeChar_cancel he
      obtain ⟨rfl, rfl⟩ := ih h' het
      exact ⟨rfl, rfl⟩
    | esc | hex =>
      rw [hb] at he
      exact absurd (List.cons.inj he).1 hs
  | @esc b u s x hu _ ih =>
    cases h' with
    | nil => exact absurd (List.cons.inj he).1 (by decide)
    | raw hc _ =>
      obtain ⟨b, y, hb, -, hs⟩ := hc.head
      rw [hb] at he
      exact absurd (List.cons.inj he).1.symm hs
    | @esc b' u' s' x' hu' h' =>
      obtain ⟨rfl, het⟩ := List.cons.inj (List.cons.inj he).2
      obtain ⟨rfl, rfl⟩ := ih h' het
      obtain rfl := Option.some.inj (hu.symm.trans hu')
      exact ⟨rfl, rfl⟩
    | hex =>
      obtain ⟨rfl, -⟩ := List.cons.inj (List.cons.inj he).2
      cases escape_u.symm.trans hu
  | @hex a b c d u s x hu _ ih =>
    cases h' with
    | nil => exact absurd (List.cons.inj he).1 (by decide)
    | raw hc _ =>
      obtain ⟨b, y, hb, -, hs⟩ := hc.head
      rw [hb] at he
      exact absurd (List.cons.inj he).1.symm hs
    | esc hu' =>
      obtain ⟨rfl, -⟩ := List.cons.inj (List.cons.inj he).2
      cases escape_u.symm.trans hu'
    | @hex a' b' c' d' u' s' x' hu' h' =>
      simp only [List.cons_append, List.cons.injEq, true_and] at he
      obtain ⟨rfl, rfl, rfl, rfl, he⟩ := he
      obtain ⟨rfl, rfl⟩ := ih h' he
      obtain rfl := Option.some.inj (hu.symm.trans hu')
      exact ⟨rfl, rfl⟩

/-! ## Words -/

theorem IsNumber.head {x : List UInt8} (h : IsNumber x) : ∃ b y, x = b :: y ∧ (isDigit b ∨ b = 0x2d) := by
  obtain ⟨sign, i, f, e, rfl, hs, hi, -, -⟩ := h
  rcases hs with rfl | rfl
  · obtain ⟨b, y, rfl⟩ := List.exists_cons_of_ne_nil hi.1.1
    exact ⟨b, y ++ f ++ e, by simp, .inl (hi.1.2 b List.mem_cons_self)⟩
  · exact ⟨0x2d, i ++ f ++ e, by simp, .inr rfl⟩

/-- The value that a word is. -/
def wordValue (x : List UInt8) : Value :=
  if x = octets "null" then .null
  else if x = octets "true" then .bool true
  else if x = octets "false" then .bool false
  else .number x

theorem Derives.eq_wordValue {v : Value} {x : List UInt8} (h : Derives (.value v) x) (hx : Word x) :
    v = wordValue x := by
  cases h with
  | null => rfl
  | bool b => cases b <;> rfl
  | number h =>
    -- no constant starts as a number does
    obtain ⟨b, y, rfl, hb⟩ := h.head
    have hne (w : List UInt8) (hw : ∀ c, w.head? = some c → ¬ (isDigit c ∨ c = 0x2d)) : b :: y ≠ w := by
      rintro rfl
      exact hw b rfl hb
    unfold wordValue
    rw [if_neg (hne _ ?_), if_neg (hne _ ?_), if_neg (hne _ ?_)]
    all_goals
      intro c hc
      cases hc
      decide
  | string => exact absurd (hx 0x22 List.mem_cons_self) (by decide)
  | array₀ | array => exact absurd (hx 0x5b List.mem_cons_self) (by decide)
  | object₀ | object => exact absurd (hx 0x7b List.mem_cons_self) (by decide)

/-! ## Values -/

/-- Any other derivation that starts where this one does ends there too, with the same value. -/
def Form.Only : Form → List UInt8 → Prop
  | .value v, x => ∀ (v' : Value) (x' r r' : List UInt8), Derives (.value v') x' → Ends r → Ends r' →
      x ++ r = x' ++ r' → x = x' ∧ v = v'
  | .elements vs, x => ∀ (vs' : List Value) (x' r r' : List UInt8), Derives (.elements vs') x' →
      x ++ 0x5d :: r = x' ++ 0x5d :: r' → x = x' ∧ vs = vs'
  | .members ms, x => ∀ (ms' : List (List UInt16 × Value)) (x' r r' : List UInt8), Derives (.members ms') x' →
      x ++ 0x7d :: r = x' ++ 0x7d :: r' → x = x' ∧ ms = ms'

theorem Derives.only_word {v : Value} {x : List UInt8} (h : Derives (.value v) x) (hx : Word x) :
    Form.Only (.value v) x := by
  intro v' x' r r' h' hr hr' he
  obtain ⟨b, y, rfl, -⟩ := h.head
  have hx' := h'.isWord_of_head (hx b List.mem_cons_self) he.symm
  obtain rfl := words_eq hx hx' hr hr' he
  exact ⟨rfl, by rw [h.eq_wordValue hx, h'.eq_wordValue hx]⟩

/-- White space, a value and what is behind it are read in one way. -/
theorem Form.Only.cancel {v v' : Value} {w w' x x' r r' : List UInt8} (ih : Form.Only (.value v) x)
    (h : Derives (.value v) x) (h' : Derives (.value v') x') (hw : Ws w) (hw' : Ws w') (hr : Ends r) (hr' : Ends r')
    (he : w ++ (x ++ r) = w' ++ (x' ++ r')) : w = w' ∧ x = x' ∧ v = v' ∧ r = r' := by
  obtain ⟨b, y, rfl, hb, -⟩ := h.head
  obtain ⟨b', y', rfl, hb', -⟩ := h'.head
  obtain ⟨rfl, rfl, het⟩ := hw.cancel hw' hb hb' he
  have hx : b :: y ++ r = b :: y' ++ r' := congrArg (b :: ·) het
  obtain ⟨hxx, rfl⟩ := ih _ _ _ _ h' hr hr' hx
  rw [hxx] at hx
  exact ⟨rfl, hxx, rfl, List.append_cancel_left hx⟩

/-- A name, its colon and the value, likewise. -/
theorem Form.Only.cancel_member {n n' : List UInt16} {v v' : Value} {w k w₁ w₂ x r w' k' w₁' w₂' x' r' : List UInt8}
    (ih : Form.Only (.value v) x) (hw : Ws w) (hn : Chars n k) (h₁ : Ws w₁) (h₂ : Ws w₂) (h : Derives (.value v) x)
    (hw' : Ws w') (hn' : Chars n' k') (h₁' : Ws w₁') (h₂' : Ws w₂') (h' : Derives (.value v') x') (hr : Ends r)
    (hr' : Ends r') (he : w ++ (quoted k ++ (w₁ ++ 0x3a :: (w₂ ++ (x ++ r)))) =
      w' ++ (quoted k' ++ (w₁' ++ 0x3a :: (w₂' ++ (x' ++ r'))))) :
    w ++ quoted k ++ w₁ ++ 0x3a :: w₂ ++ x = w' ++ quoted k' ++ w₁' ++ 0x3a :: w₂' ++ x' ∧
      (n, v) = (n', v') ∧ r = r' := by
  rw [quoted_append, quoted_append] at he
  obtain ⟨rfl, -, hk⟩ := hw.cancel hw' rfl rfl he
  obtain ⟨rfl, rfl⟩ := hn.unique hn' hk
  obtain ⟨rfl, -, hv⟩ := h₁.cancel h₁' rfl rfl (List.cons.inj (List.append_cancel_left hk)).2
  obtain ⟨rfl, rfl, rfl, rfl⟩ := ih.cancel h h' h₂ h₂' hr hr' hv
  exact ⟨rfl, rfl, rfl⟩

/-- Braces with white space between them are the object without members. -/
theorem Derives.noMembers {v : Value} {z w r r' : List UInt8} (hz : Derives (.value v) z) (hw : Ws w)
    (he : z ++ r = 0x7b :: w ++ [0x7d] ++ r') : v = .object [] ∧ z = 0x7b :: w ++ [0x7d] := by
  obtain ⟨ms, x, rfl, rfl, hx⟩ := hz.object_of_head he
  rw [List.append_assoc, List.append_assoc] at he
  rcases hx with ⟨rfl, hx⟩ | hx
  · obtain ⟨rfl, -⟩ := hx.cancel hw rfl rfl (List.cons.inj he).2
    exact ⟨rfl, rfl⟩
  · -- a name starts with a quote
    obtain ⟨w', y, rfl, hw'⟩ := hx.members_head
    simp only [List.cons_append, List.append_assoc, List.cons.injEq, true_and] at he
    exact absurd (hw'.cancel hw rfl rfl he).2.1 (by decide)

theorem Derives.only {f : Form} {x : List UInt8} (h : Derives f x) : f.Only x := by
  induction h with
  | null => exact Derives.null.only_word (by decide)
  | bool b => exact (Derives.bool b).only_word (by cases b <;> decide)
  | number h => exact (Derives.number h).only_word h.word
  | string h =>
    intro v' x' r r' h' _ _ he
    rw [quoted_append] at he
    obtain ⟨s, x, rfl, rfl, hx⟩ := h'.string_of_head he.symm
    rw [quoted_append] at he
    obtain ⟨rfl, rfl⟩ := h.unique hx (List.cons.inj he).2
    exact ⟨rfl, rfl⟩
  | @array₀ w h =>
    intro v' x' r r' h' _ _ he
    obtain ⟨rfl, rfl⟩ := h'.noElements h he.symm
    exact ⟨rfl, rfl⟩
  | @array vs x h ih =>
    intro v' x' r r' h' _ _ he
    obtain ⟨vs', y, rfl, rfl, hy⟩ := h'.array_of_head he.symm
    rcases hy with ⟨rfl, hy⟩ | hy
    · obtain ⟨hv, hx⟩ := (Derives.array h).noElements hy he
      exact ⟨hx, hv⟩
    · simp only [List.cons_append, List.append_assoc, List.cons.injEq, true_and, List.nil_append] at he
      obtain ⟨rfl, rfl⟩ := ih _ _ _ _ hy he
      exact ⟨rfl, rfl⟩
  | @object₀ w h =>
    intro v' x' r r' h' _ _ he
    obtain ⟨rfl, rfl⟩ := h'.noMembers h he.symm
    exact ⟨rfl, rfl⟩
  | @object ms x h ih =>
    intro v' x' r r' h' _ _ he
    obtain ⟨ms', y, rfl, rfl, hy⟩ := h'.object_of_head he.symm
    rcases hy with ⟨rfl, hy⟩ | hy
    · obtain ⟨hv, hx⟩ := (Derives.object h).noMembers hy he
      exact ⟨hx, hv⟩
    · simp only [List.cons_append, List.append_assoc, List.cons.injEq, true_and, List.nil_append] at he
      obtain ⟨rfl, rfl⟩ := ih _ _ _ _ hy he
      exact ⟨rfl, rfl⟩
  | @element w v x w₁ hw h hw₁ ih =>
    intro vs' x' r r' h' he
    have hr : Ends (w₁ ++ 0x5d :: r) := hw₁.ends (.cons _ rfl)
    cases h' with
    | @element w' v' x' w₁' hw' h' hw₁' =>
      simp only [List.append_assoc] at he
      obtain ⟨rfl, rfl, rfl, hT⟩ := ih.cancel h h' hw hw' hr (hw₁'.ends (.cons _ rfl)) he
      obtain ⟨rfl, -⟩ := hw₁.cancel hw₁' rfl rfl hT
      exact ⟨rfl, rfl⟩
    | @elements w' v' x' w₁' vs' y' hw' h' hw₁' _ =>
      simp only [List.append_assoc, List.cons_append] at he
      obtain ⟨-, -, -, hT⟩ := ih.cancel h h' hw hw' hr (hw₁'.ends (.cons _ rfl)) he
      exact absurd (hw₁.cancel hw₁' rfl rfl hT).2.1 (by decide)
  | @elements w v x w₁ vs y hw h hw₁ _ ih iht =>
    intro vs' x' r r' h' he
    have hr : Ends (w₁ ++ 0x2c :: (y ++ 0x5d :: r)) := hw₁.ends (.cons _ rfl)
    cases h' with
    | @element w' v' x' w₁' hw' h' hw₁' =>
      simp only [List.append_assoc, List.cons_append] at he
      obtain ⟨-, -, -, hT⟩ := ih.cancel h h' hw hw' hr (hw₁'.ends (.cons _ rfl)) he
      exact absurd (hw₁.cancel hw₁' rfl rfl hT).2.1 (by decide)
    | @elements w' v' x' w₁' vs' y' hw' h' hw₁' ht' =>
      simp only [List.append_assoc, List.cons_append] at he
      obtain ⟨rfl, rfl, rfl, hT⟩ := ih.cancel h h' hw hw' hr (hw₁'.ends (.cons _ rfl)) he
      obtain ⟨rfl, -, hy⟩ := hw₁.cancel hw₁' rfl rfl hT
      obtain ⟨rfl, rfl⟩ := iht _ _ _ _ ht' hy
      exact ⟨rfl, rfl⟩
  | @member w n k w₁ w₂ v x w₃ hw hn h₁ h₂ h hw₃ ih =>
    intro ms' x' r r' h' he
    have hr : Ends (w₃ ++ 0x7d :: r) := hw₃.ends (.cons _ rfl)
    cases h' with
    | @member w' n' k' w₁' w₂' v' x' w₃' hw' hn' h₁' h₂' h' hw₃' =>
      simp only [List.append_assoc, List.cons_append] at he
      obtain ⟨hl, hm, hT⟩ := ih.cancel_member hw hn h₁ h₂ h hw' hn' h₁' h₂' h' hr (hw₃'.ends (.cons _ rfl)) he
      obtain ⟨rfl, -⟩ := hw₃.cancel hw₃' rfl rfl hT
      exact ⟨by rw [hl], by rw [hm]⟩
    | @members w' n' k' w₁' w₂' v' x' w₃' ms' y' hw' hn' h₁' h₂' h' hw₃' _ =>
      simp only [List.append_assoc, List.cons_append] at he
      obtain ⟨-, -, hT⟩ := ih.cancel_member hw hn h₁ h₂ h hw' hn' h₁' h₂' h' hr (hw₃'.ends (.cons _ rfl)) he
      exact absurd (hw₃.cancel hw₃' rfl rfl hT).2.1 (by decide)
  | @members w n k w₁ w₂ v x w₃ ms y hw hn h₁ h₂ h hw₃ _ ih iht =>
    intro ms' x' r r' h' he
    have hr : Ends (w₃ ++ 0x2c :: (y ++ 0x7d :: r)) := hw₃.ends (.cons _ rfl)
    cases h' with
    | @member w' n' k' w₁' w₂' v' x' w₃' hw' hn' h₁' h₂' h' hw₃' =>
      simp only [List.append_assoc, List.cons_append] at he
      obtain ⟨-, -, hT⟩ := ih.cancel_member hw hn h₁ h₂ h hw' hn' h₁' h₂' h' hr (hw₃'.ends (.cons _ rfl)) he
      exact absurd (hw₃.cancel hw₃' rfl rfl hT).2.1 (by decide)
    | @members w' n' k' w₁' w₂' v' x' w₃' ms' y' hw' hn' h₁' h₂' h' hw₃' ht' =>
      simp only [List.append_assoc, List.cons_append] at he
      obtain ⟨hl, hm, hT⟩ := ih.cancel_member hw hn h₁ h₂ h hw' hn' h₁' h₂' h' hr (hw₃'.ends (.cons _ rfl)) he
      obtain ⟨rfl, -, hy⟩ := hw₃.cancel hw₃' rfl rfl hT
      obtain ⟨rfl, rfl⟩ := iht _ _ _ _ ht' hy
      exact ⟨by rw [hl], by rw [hm]⟩

theorem ends_nil : Ends [] := by
  rintro b ⟨⟩

/-- A text is a text of one value. -/
theorem Text.unique {v v' : Value} {x : List UInt8} (h : Text v x) (h' : Text v' x) : v = v' := by
  obtain ⟨w, y, w₁, rfl, hw, hy, hw₁⟩ := h
  obtain ⟨w', y', w₁', he, hw', hy', hw₁'⟩ := h'
  have hr : Ends (w₁ ++ []) := hw₁.ends ends_nil
  have hr' : Ends (w₁' ++ []) := hw₁'.ends ends_nil
  simp only [List.append_assoc] at he
  rw [List.append_nil] at hr hr'
  exact (hy.only.cancel hy hy' hw hw' hr hr' he).2.2.1

end Json
