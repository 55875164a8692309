import LibPmc.Cstr
import Mathlib.Data.List.Basic
import Mathlib.Tactic.Common
/-!
# JSON texts

The grammar of RFC 8259 over octets: a text is UTF-8. A string stands for UTF-16 code
units, as its escapes do, and a number for its octets. `Derives` has one constructor for
each production.
-/
namespace Json

open Cstr

/-! ## Characters -/

/-- The octets of characters. -/
def utf8 (cs : List Char) : List UInt8 := cs.flatMap String.utf8EncodeChar

/-- The code units of a character: two outside the first plane. -/
def utf16 (c : Char) : List UInt16 :=
  if c.toNat < 0x10000 then [UInt16.ofNat c.toNat]
  else [UInt16.ofNat (0xd800 + (c.toNat - 0x10000) / 0x400), UInt16.ofNat (0xdc00 + (c.toNat - 0x10000) % 0x400)]

def units (cs : List Char) : List UInt16 := cs.flatMap utf16

/-- The characters a string holds as they are. -/
def Unescaped (c : Char) : Prop := 0x20 ≤ c.toNat ∧ c ≠ '"' ∧ c ≠ '\\'

instance (c : Char) : Decidable (Unescaped c) := inferInstanceAs (Decidable (_ ∧ _))

/-- An octet that is no control octet, quote or backslash. -/
def PlainOctet (b : UInt8) : Prop := 0x20 ≤ b ∧ b ≠ 0x22 ∧ b ≠ 0x5c

instance (b : UInt8) : Decidable (PlainOctet b) := inferInstanceAs (Decidable (_ ∧ _))

/-- A text that is UTF-8 and has nothing to escape. -/
def Plain (t : List UInt8) : Prop := t.toByteArray.IsValidUTF8 ∧ ∀ b ∈ t, PlainOctet b

instance (t : List UInt8) : Decidable (Plain t) :=
  have : Decidable (∀ b ∈ t, PlainOctet b) := List.decidableBAll _ t
  inferInstanceAs (Decidable (_ ∧ _))

/-- A text of ASCII characters that has nothing to escape. -/
def Ascii (t : List UInt8) : Prop := ∀ b ∈ t, PlainOctet b ∧ b < 0x80

instance (t : List UInt8) : Decidable (Ascii t) := List.decidableBAll _ t

/-- The code unit of a two-character escape. -/
def escape (b : UInt8) : Option UInt16 :=
  if b = 0x22 ∨ b = 0x5c ∨ b = 0x2f then some b.toUInt16
  else if b = 0x62 then some 0x08
  else if b = 0x66 then some 0x0c
  else if b = 0x6e then some 0x0a
  else if b = 0x72 then some 0x0d
  else if b = 0x74 then some 0x09
  else none

def hexDigit (b : UInt8) : Option Nat :=
  if 0x30 ≤ b ∧ b ≤ 0x39 then some (b.toNat - 0x30)
  else if 0x41 ≤ b ∧ b ≤ 0x46 then some (b.toNat - 0x41 + 10)
  else if 0x61 ≤ b ∧ b ≤ 0x66 then some (b.toNat - 0x61 + 10)
  else none

/-- The code unit of four hexadecimal digits. -/
def hex4 (a b c d : UInt8) : Option UInt16 := do
  return UInt16.ofNat ((((← hexDigit a) * 16 + (← hexDigit b)) * 16 + (← hexDigit c)) * 16 + (← hexDigit d))

/-- What stands between the quotes, with the code units it stands for. -/
inductive Chars : List UInt16 → List UInt8 → Prop where
  | nil : Chars [] []
  | raw {c : Char} {s x} (h : Unescaped c) (t : Chars s x) : Chars (utf16 c ++ s) (String.utf8EncodeChar c ++ x)
  | esc {b : UInt8} {u s x} (h : escape b = some u) (t : Chars s x) : Chars (u :: s) (0x5c :: b :: x)
  | hex {a b c d : UInt8} {u s x} (h : hex4 a b c d = some u) (t : Chars s x) :
      Chars (u :: s) (0x5c :: 0x75 :: a :: b :: c :: d :: x)

/-! ## Numbers -/

def isDigit (b : UInt8) : Bool := 0x30 ≤ b ∧ b ≤ 0x39

/-- `1*DIGIT` -/
def Digits (x : List UInt8) : Prop := x ≠ [] ∧ ∀ b ∈ x, isDigit b

def IsInt (x : List UInt8) : Prop := Digits x ∧ (x.head? = some 0x30 → x = [0x30])

def IsFrac (x : List UInt8) : Prop := x = [] ∨ ∃ y, x = 0x2e :: y ∧ Digits y

def IsExp (x : List UInt8) : Prop :=
  x = [] ∨ ∃ e sign y, x = e :: sign ++ y ∧ (e = 0x65 ∨ e = 0x45) ∧
    (sign = [] ∨ sign = [0x2b] ∨ sign = [0x2d]) ∧ Digits y

/-- `[ minus ] int [ frac ] [ exp ]` -/
def IsNumber (x : List UInt8) : Prop :=
  ∃ sign i f e, x = sign ++ i ++ f ++ e ∧ (sign = [] ∨ sign = [0x2d]) ∧ IsInt i ∧ IsFrac f ∧ IsExp e

/-! ## Values -/

inductive Value where
  | null
  | bool (b : Bool)
  | number (x : List UInt8)
  | string (s : List UInt16)
  | array (vs : List Value)
  | object (ms : List (List UInt16 × Value))

/-- The first member of a name. -/
def Value.get (v : Value) (name : String) : Option Value :=
  match v with
  | .object ms => (ms.find? (·.1 = units name.toList)).map Prod.snd
  | _ => none

/-- The value behind a path of names. -/
def Value.lookup (v : Value) : List String → Option Value
  | [] => some v
  | name :: path => (v.get name).bind (·.lookup path)

/-- The value behind the path is the string of the text. -/
def Value.Shows (v : Value) (path : List String) (t : List UInt8) : Prop :=
  ∃ cs, t = utf8 cs ∧ v.lookup path = some (.string (units cs))

def isWs (b : UInt8) : Bool := b = 0x20 ∨ b = 0x09 ∨ b = 0x0a ∨ b = 0x0d

def Ws (w : List UInt8) : Prop := ∀ b ∈ w, isWs b

instance (w : List UInt8) : Decidable (Ws w) := List.decidableBAll _ w

theorem ws_nil : Ws [] := List.forall_mem_nil _
theorem ws_space : Ws [0x20] := List.forall_mem_singleton.2 rfl

/-- What a production derives: a value, or the parts of an array or an object. -/
inductive Form where
  | value (v : Value)
  | elements (vs : List Value)
  | members (ms : List (List UInt16 × Value))

def quoted (x : List UInt8) : List UInt8 := 0x22 :: x ++ [0x22]

inductive Derives : Form → List UInt8 → Prop where
  | null : Derives (.value .null) (octets "null")
  | bool (b : Bool) : Derives (.value (.bool b)) (octets (if b then "true" else "false"))
  | number {x} (h : IsNumber x) : Derives (.value (.number x)) x
  | string {s x} (h : Chars s x) : Derives (.value (.string s)) (quoted x)
  | array₀ {w} (h : Ws w) : Derives (.value (.array [])) (0x5b :: w ++ [0x5d])
  | array {vs x} (h : Derives (.elements vs) x) : Derives (.value (.array vs)) (0x5b :: x ++ [0x5d])
  | object₀ {w} (h : Ws w) : Derives (.value (.object [])) (0x7b :: w ++ [0x7d])
  | object {ms x} (h : Derives (.members ms) x) : Derives (.value (.object ms)) (0x7b :: x ++ [0x7d])
  | element {w v x w'} (hw : Ws w) (h : Derives (.value v) x) (hw' : Ws w') : Derives (.elements [v]) (w ++ x ++ w')
  | elements {w v x w' vs y} (hw : Ws w) (h : Derives (.value v) x) (hw' : Ws w') (t : Derives (.elements vs) y) :
      Derives (.elements (v :: vs)) (w ++ x ++ w' ++ 0x2c :: y)
  | member {w n k w₁ w₂ v x w'} (hw : Ws w) (hn : Chars n k) (h₁ : Ws w₁) (h₂ : Ws w₂) (h : Derives (.value v) x)
      (hw' : Ws w') : Derives (.members [(n, v)]) (w ++ quoted k ++ w₁ ++ 0x3a :: w₂ ++ x ++ w')
  | members {w n k w₁ w₂ v x w' ms y} (hw : Ws w) (hn : Chars n k) (h₁ : Ws w₁) (h₂ : Ws w₂)
      (h : Derives (.value v) x) (hw' : Ws w') (t : Derives (.members ms) y) :
      Derives (.members ((n, v) :: ms)) (w ++ quoted k ++ w₁ ++ 0x3a :: w₂ ++ x ++ w' ++ 0x2c :: y)

/-- `JSON-text = ws value ws` -/
def Text (v : Value) (x : List UInt8) : Prop := ∃ w y w', x = w ++ y ++ w' ∧ Ws w ∧ Derives (.value v) y ∧ Ws w'

/-! ## UTF-8 and UTF-16 -/

theorem toByteArray_utf8 (cs : List Char) : (utf8 cs).toByteArray = cs.utf8Encode := rfl

theorem octets_eq_utf8 (s : String) : octets s = utf8 s.toList := by
  have h : s.toUTF8 = (utf8 s.toList).toByteArray := by
    rw [toByteArray_utf8, String.utf8Encode_toList]
    rfl
  unfold octets
  rw [h, List.toList_data_toByteArray]

theorem le_or {a k : UInt8} (h : 0x80 ≤ k) : 0x80 ≤ a ||| k := by
  rw [UInt8.le_iff_toNat_le] at h ⊢
  rw [UInt8.toNat_or]
  exact h.trans Nat.right_le_or

/-- A character of one octet is that octet; the octets of another are not ASCII. -/
theorem utf8EncodeChar_cases (c : Char) :
    (c.toNat < 0x80 ∧ String.utf8EncodeChar c = [c.val.toUInt8]) ∨
      (0x80 ≤ c.toNat ∧ ∀ b ∈ String.utf8EncodeChar c, 0x80 ≤ b) := by
  rw [String.utf8EncodeChar_eq_utf8EncodeCharFast]
  change (c.val.toNat < 0x80 ∧ _) ∨ (0x80 ≤ c.val.toNat ∧ _)
  unfold String.utf8EncodeCharFast
  have hk : (0x7f : UInt32).toNat = 0x7f := rfl
  by_cases h : c.val ≤ 0x7f
  · left
    rw [UInt32.le_iff_toNat_le] at h
    refine ⟨by omega, ?_⟩
    dsimp only
    rw [if_pos (UInt32.le_iff_toNat_le.2 h)]
  · right
    rw [UInt32.le_iff_toNat_le] at h
    refine ⟨by omega, ?_⟩
    dsimp only
    rw [if_neg (fun hn => h (UInt32.le_iff_toNat_le.1 hn))]
    -- every octet of the longer forms is an `or` with its high bit
    split
    · simp only [List.mem_cons, List.not_mem_nil, or_false]
      rintro b (rfl | rfl)
      · exact le_or (by decide)
      · exact le_or (by decide)
    · split
      · simp only [List.mem_cons, List.not_mem_nil, or_false]
        rintro b (rfl | rfl | rfl)
        · exact le_or (by decide)
        · exact le_or (by decide)
        · exact le_or (by decide)
      · simp only [List.mem_cons, List.not_mem_nil, or_false]
        rintro b (rfl | rfl | rfl | rfl)
        · exact le_or (by decide)
        · exact le_or (by decide)
        · exact le_or (by decide)
        · exact le_or (by decide)

/-- The octets that a code unit takes as a part of its character. -/
def weight (u : UInt16) : Nat :=
  if u < 0x80 then 1 else if u < 0x800 then 2 else if 0xd800 ≤ u ∧ u < 0xe000 then 2 else 3

def weights : List UInt16 → Nat
  | [] => 0
  | u :: s => weight u + weights s

@[simp] theorem weights_nil : weights [] = 0 := rfl
@[simp] theorem weights_cons (u : UInt16) (s : List UInt16) : weights (u :: s) = weight u + weights s := rfl
@[simp] theorem weights_append (s t : List UInt16) : weights (s ++ t) = weights s + weights t := by
  induction s with
  | nil => rw [List.nil_append, weights_nil, Nat.zero_add]
  | cons u s ih => rw [List.cons_append, weights_cons, weights_cons, ih, Nat.add_assoc]

theorem utf8Size_eq (c : Char) : c.utf8Size =
    if c.toNat < 0x80 then 1 else if c.toNat < 0x800 then 2 else if c.toNat < 0x10000 then 3 else 4 := by
  have h7 : (UInt32.ofNatLT 0x7F (by decide)).toNat = 0x7f := rfl
  have h8 : (UInt32.ofNatLT 0x7FF (by decide)).toNat = 0x7ff := rfl
  have h16 : (UInt32.ofNatLT 0xFFFF (by decide)).toNat = 0xffff := rfl
  simp only [Char.utf8Size, UInt32.le_iff_toNat_le, h7, h8, h16, Char.toNat_val]
  split_ifs <;> omega

theorem weight_eq {n : Nat} (h : n < 0x10000) : weight (UInt16.ofNat n) =
    if n < 0x80 then 1 else if n < 0x800 then 2 else if 0xd800 ≤ n ∧ n < 0xe000 then 2 else 3 := by
  have hn : (UInt16.ofNat n).toNat = n := UInt16.toNat_ofNat_of_lt' h
  simp only [weight, UInt16.lt_iff_toNat_lt, UInt16.le_iff_toNat_le, hn]
  rfl

theorem weights_utf16 (c : Char) : weights (utf16 c) = (String.utf8EncodeChar c).length := by
  rw [String.length_utf8EncodeChar, utf8Size_eq]
  -- no character is a surrogate
  have hv : c.toNat < 0xd800 ∨ 0xdfff < c.toNat ∧ c.toNat < 0x110000 := c.valid
  unfold utf16
  by_cases h : c.toNat < 0x10000
  · rw [if_pos h, weights_cons, weights_nil, weight_eq h]
    split_ifs <;> omega
  · rw [if_neg h, weights_cons, weights_cons, weights_nil, weight_eq (by omega), weight_eq (by omega)]
    split_ifs <;> omega

theorem utf8_cons (c : Char) (cs : List Char) : utf8 (c :: cs) = String.utf8EncodeChar c ++ utf8 cs := rfl
theorem units_cons (c : Char) (cs : List Char) : units (c :: cs) = utf16 c ++ units cs := rfl

theorem weights_units (cs : List Char) : weights (units cs) = (utf8 cs).length := by
  induction cs with
  | nil => rfl
  | cons c cs ih => rw [units_cons, utf8_cons, weights_append, List.length_append, weights_utf16, ih]

theorem toUInt8_toNat {c : Char} (h : c.toNat < 0x80) : c.val.toUInt8.toNat = c.toNat := by
  rw [UInt32.toNat_toUInt8]
  exact Nat.mod_eq_of_lt (by change c.toNat < 256; omega)

theorem plainOctet_of_le {b : UInt8} (h : 0x80 ≤ b) : PlainOctet b := by
  rw [UInt8.le_iff_toNat_le] at h
  refine ⟨?_, ?_, ?_⟩
  · rw [UInt8.le_iff_toNat_le]
    exact le_trans (by decide) h
  · rintro rfl
    exact absurd h (by decide)
  · rintro rfl
    exact absurd h (by decide)

theorem unescaped_iff (c : Char) : Unescaped c ↔ ∀ b ∈ String.utf8EncodeChar c, PlainOctet b := by
  have hq : '"'.toNat = 0x22 := rfl
  have hb : '\\'.toNat = 0x5c := rfl
  rcases utf8EncodeChar_cases c with ⟨hc, he⟩ | ⟨hc, he⟩
  · have ht := toUInt8_toNat hc
    rw [he, List.forall_mem_singleton]
    simp only [PlainOctet, Unescaped, UInt8.le_iff_toNat_le, ne_eq, ← UInt8.toNat_inj, ← Char.toNat_inj, ht, hq, hb]
    rfl
  · refine iff_of_true ⟨by omega, ?_, ?_⟩ fun b hb => plainOctet_of_le (he b hb)
    · rintro rfl
      omega
    · rintro rfl
      omega

theorem plain_iff (t : List UInt8) : Plain t ↔ ∃ cs, t = utf8 cs ∧ ∀ c ∈ cs, Unescaped c := by
  constructor
  · rintro ⟨⟨cs, h⟩, ht⟩
    obtain rfl : t = utf8 cs := List.toByteArray_inj.1 h
    exact ⟨cs, rfl, fun c hc => (unescaped_iff c).2 fun b hb => ht b (List.mem_flatMap.2 ⟨c, hc, hb⟩)⟩
  · rintro ⟨cs, rfl, hcs⟩
    refine ⟨⟨cs, rfl⟩, fun b hb => ?_⟩
    obtain ⟨c, hc, hbc⟩ := List.mem_flatMap.1 hb
    exact (unescaped_iff c).1 (hcs c hc) b hbc

theorem Plain.nil : Plain [] := (plain_iff []).2 ⟨[], rfl, by simp⟩

theorem Plain.cons {c : Char} {t : List UInt8} (hc : Unescaped c) (ht : Plain t) :
    Plain (String.utf8EncodeChar c ++ t) := by
  obtain ⟨cs, rfl, hcs⟩ := (plain_iff t).1 ht
  exact (plain_iff _).2 ⟨c :: cs, rfl, List.forall_mem_cons.2 ⟨hc, hcs⟩⟩

theorem Ascii.append {t t' : List UInt8} (h : Ascii t) (h' : Ascii t') :
    Ascii (t ++ t') := List.forall_mem_append.2 ⟨h, h'⟩

theorem Ascii.plain {t : List UInt8} (h : Ascii t) : Plain t := by
  induction t with
  | nil => exact .nil
  | cons b t ih =>
    obtain ⟨⟨hb, hlt⟩, ht⟩ := List.forall_mem_cons.1 h
    have hn : (Char.ofUInt8 b).toNat = b.toNat := UInt8.toNat_toUInt32 b
    rcases utf8EncodeChar_cases (Char.ofUInt8 b) with ⟨-, he⟩ | ⟨hc, -⟩
    · have hv : (Char.ofUInt8 b).val.toUInt8 = b := UInt8.toUInt8_toUInt32 b
      rw [hv] at he
      have hu : Unescaped (Char.ofUInt8 b) := (unescaped_iff _).2 (by rw [he]; exact List.forall_mem_singleton.2 hb)
      have := Plain.cons hu (ih ht)
      rwa [he] at this
    · exact absurd (UInt8.lt_iff_toNat_lt.1 hlt) (by change ¬ b.toNat < 0x80; omega)

/-! ## The octets of a string -/

theorem chars_of_unescaped {cs : List Char} (h : ∀ c ∈ cs, Unescaped c) : Chars (units cs) (utf8 cs) := by
  induction cs with
  | nil => exact .nil
  | cons c cs ih => exact .raw (h c List.mem_cons_self) (ih fun c' hc => h c' (List.mem_cons_of_mem c hc))

theorem hexDigit_le {b : UInt8} {n : Nat} (h : hexDigit b = some n) : 0x30 ≤ b := by
  unfold hexDigit at h
  split_ifs at h with h₁ h₂ h₃
  · exact h₁.1
  · exact UInt8.le_trans (by decide) h₂.1
  · exact UInt8.le_trans (by decide) h₃.1

theorem escape_le {b : UInt8} {u : UInt16} (h : escape b = some u) : 0x20 ≤ b := by
  unfold escape at h
  split_ifs at h with h₁ h₂ h₃ h₄ h₅ h₆
  · rcases h₁ with rfl | rfl | rfl <;> decide
  all_goals subst_vars; decide

/-- A two-character escape stands for an ASCII character. -/
theorem weight_escape {b : UInt8} {u : UInt16} (h : escape b = some u) : weight u = 1 := by
  unfold escape at h
  split_ifs at h with h₁ h₂ h₃ h₄ h₅ h₆
  · obtain rfl := Option.some.inj h
    rcases h₁ with rfl | rfl | rfl <;> rfl
  all_goals
    obtain rfl := Option.some.inj h
    rfl

theorem weight_le (u : UInt16) : weight u ≤ 3 := by
  unfold weight
  split_ifs <;> omega

theorem hex4_le {a b c d : UInt8} {u : UInt16} (h : hex4 a b c d = some u) :
    0x30 ≤ a ∧ 0x30 ≤ b ∧ 0x30 ≤ c ∧ 0x30 ≤ d := by
  simp only [hex4, Option.bind_eq_bind, Option.bind_eq_some_iff] at h
  obtain ⟨_, ha, _, hb, _, hc, _, hd, -⟩ := h
  exact ⟨hexDigit_le ha, hexDigit_le hb, hexDigit_le hc, hexDigit_le hd⟩

namespace Chars
variable {s : List UInt16} {x : List UInt8}

/-- A control octet is not in a string. -/
theorem le_of_mem (h : Chars s x) : ∀ b ∈ x, 0x20 ≤ b := by
  induction h with
  | nil => simp
  | raw hc _ ih => exact List.forall_mem_append.2 ⟨fun b hb => ((unescaped_iff _).1 hc b hb).1, ih⟩
  | esc hb _ ih => exact List.forall_mem_cons.2 ⟨by decide, List.forall_mem_cons.2 ⟨escape_le hb, ih⟩⟩
  | hex hu _ ih =>
    obtain ⟨ha, hb, hc, hd⟩ := hex4_le hu
    have hle {b : UInt8} (h : 0x30 ≤ b) : 0x20 ≤ b := UInt8.le_trans (by decide) h
    simp only [List.forall_mem_cons]
    exact ⟨by decide, by decide, hle ha, hle hb, hle hc, hle hd, ih⟩

theorem weights_le (h : Chars s x) : weights s ≤ x.length := by
  induction h with
  | nil => exact le_rfl
  | raw _ _ ih =>
    rw [weights_append, weights_utf16, List.length_append]
    omega
  | esc hb _ ih =>
    rw [weights_cons, weight_escape hb, List.length_cons, List.length_cons]
    omega
  | @hex _ _ _ _ u _ _ _ _ ih =>
    have := weight_le u
    simp only [weights_cons, List.length_cons]
    omega

/-- An escape makes a string longer than its characters are. -/
theorem plain_or_lt (h : Chars s x) : Plain x ∨ weights s < x.length := by
  induction h with
  | nil => exact .inl .nil
  | raw hc _ ih =>
    refine ih.imp (Plain.cons hc) fun hlt => ?_
    rw [weights_append, weights_utf16, List.length_append]
    omega
  | esc hb t _ =>
    have := t.weights_le
    right
    rw [weights_cons, weight_escape hb, List.length_cons, List.length_cons]
    omega
  | @hex _ _ _ _ u _ _ _ t _ =>
    have := t.weights_le
    have := weight_le u
    right
    simp only [weights_cons, List.length_cons]
    omega

/-- A quote in a string has a backslash before it. -/
theorem backslash_mem {p q : List UInt8} (h : Chars s (p ++ 0x22 :: q)) : 0x5c ∈ p := by
  generalize hx : p ++ 0x22 :: q = x at h
  induction h generalizing p with
  | nil => simp at hx
  | raw hc _ ih =>
    rcases List.append_eq_append_iff.1 hx with ⟨a, ha, h⟩ | ⟨a, rfl, h⟩
    · cases a with
      | nil => exact absurd (ih (p := []) h) List.not_mem_nil
      | cons b a =>
        -- the quote would be an octet of the character
        obtain ⟨rfl, -⟩ := List.cons.inj h
        have hm : (0x22 : UInt8) ∈ String.utf8EncodeChar _ := ha ▸ List.mem_append_right p List.mem_cons_self
        exact absurd rfl ((unescaped_iff _).1 hc _ hm).2.1
    · exact List.mem_append_right _ (ih h.symm)
  | esc | hex =>
    cases p with
    | nil => exact absurd (List.cons.inj hx).1 (by decide)
    | cons b p =>
      obtain ⟨rfl, -⟩ := List.cons.inj hx
      exact List.mem_cons_self

/-- ASCII characters that are no escapes stand for themselves. -/
theorem eq_map (h : Chars s x) (hx : Ascii x) : s = x.map UInt8.toUInt16 := by
  induction h with
  | nil => rfl
  | @raw c s x hc _ ih =>
    rw [Ascii, List.forall_mem_append] at hx
    rw [List.map_append, ih hx.2]
    congr 1
    rcases utf8EncodeChar_cases c with ⟨hlt, he⟩ | ⟨-, he⟩
    · rw [he, utf16, if_pos (by omega), List.map_singleton]
      refine congrArg (fun u => [u]) (UInt16.toNat_inj.1 ?_)
      rw [UInt8.toNat_toUInt16, toUInt8_toNat hlt]
      exact UInt16.toNat_ofNat_of_lt' (by change c.toNat < 65536; omega)
    · obtain ⟨b, r, hb⟩ := List.exists_cons_of_ne_nil (@String.utf8EncodeChar_ne_nil c)
      have hm : b ∈ String.utf8EncodeChar c := hb ▸ List.mem_cons_self
      exact absurd (hx.1 b hm).2 (UInt8.not_lt.2 (he b hm))
  | esc | hex => exact absurd rfl (hx 0x5c List.mem_cons_self).1.2.2

end Chars

/-! ## The octets of a value -/

/-- The octets of numbers and of the names of the constants. -/
def isWord (b : UInt8) : Bool := isDigit b ∨ (0x61 ≤ b ∧ b ≤ 0x7a) ∨ b = 0x45 ∨ b = 0x2b ∨ b = 0x2d ∨ b = 0x2e

/-- A text of such octets. -/
def Word (x : List UInt8) : Prop := ∀ b ∈ x, isWord b

instance (x : List UInt8) : Decidable (Word x) := List.decidableBAll _ x

theorem isWord_of_isDigit {b : UInt8} (h : isDigit b) : isWord b := by simp [isWord, h]

theorem isWs_of_isWord {b : UInt8} (h : isWord b) : isWs b = false := by
  rw [Bool.eq_false_iff]
  intro hw
  rcases of_decide_eq_true hw with rfl | rfl | rfl | rfl <;> exact absurd h (by decide)

theorem Digits.word {x : List UInt8} (h : Digits x) : Word x := fun b hb => isWord_of_isDigit (h.2 b hb)

theorem IsNumber.word {x : List UInt8} (h : IsNumber x) : Word x := by
  obtain ⟨sign, i, f, e, rfl, hs, hi, hf, he⟩ := h
  simp only [Word, List.forall_mem_append]
  refine ⟨⟨⟨?_, hi.1.word⟩, ?_⟩, ?_⟩
  · rcases hs with rfl | rfl
    · exact List.forall_mem_nil _
    · exact List.forall_mem_singleton.2 rfl
  · rcases hf with rfl | ⟨y, rfl, hy⟩
    · exact List.forall_mem_nil _
    · exact List.forall_mem_cons.2 ⟨rfl, hy.word⟩
  · rcases he with rfl | ⟨e, sign, y, rfl, he, hs, hy⟩
    · exact List.forall_mem_nil _
    · rw [List.forall_mem_append, List.forall_mem_cons]
      refine ⟨⟨?_, ?_⟩, hy.word⟩
      · rcases he with rfl | rfl <;> rfl
      · rcases hs with rfl | rfl | rfl
        · exact List.forall_mem_nil _
        · exact List.forall_mem_singleton.2 rfl
        · exact List.forall_mem_singleton.2 rfl

theorem IsNumber.ne_nil {x : List UInt8} (h : IsNumber x) : x ≠ [] := by
  obtain ⟨sign, i, f, e, rfl, -, hi, -, -⟩ := h
  intro h
  simp only [List.append_eq_nil_iff] at h
  exact hi.1.1 h.1.1.2

namespace Derives

/-- What a value looks like, by its first octet. -/
theorem value_cases {v : Value} {x : List UInt8} (h : Derives (.value v) x) :
    (x ≠ [] ∧ Word x) ∨ (∃ s y, v = .string s ∧ x = quoted y ∧ Chars s y) ∨
      (∃ vs y, v = .array vs ∧ x = 0x5b :: y ++ [0x5d] ∧ (vs = [] ∧ Ws y ∨ Derives (.elements vs) y)) ∨
      ∃ ms y, v = .object ms ∧ x = 0x7b :: y ++ [0x7d] ∧ (ms = [] ∧ Ws y ∨ Derives (.members ms) y) := by
  cases h with
  | null => exact .inl (by decide)
  | bool b => cases b <;> exact .inl (by decide)
  | number h => exact .inl ⟨h.ne_nil, h.word⟩
  | string h => exact .inr (.inl ⟨_, _, rfl, rfl, h⟩)
  | array₀ h => exact .inr (.inr (.inl ⟨_, _, rfl, rfl, .inl ⟨rfl, h⟩⟩))
  | array h => exact .inr (.inr (.inl ⟨_, _, rfl, rfl, .inr h⟩))
  | object₀ h => exact .inr (.inr (.inr ⟨_, _, rfl, rfl, .inl ⟨rfl, h⟩⟩))
  | object h => exact .inr (.inr (.inr ⟨_, _, rfl, rfl, .inr h⟩))

theorem head {v : Value} {x : List UInt8} (h : Derives (.value v) x) :
    ∃ b y, x = b :: y ∧ isWs b = false ∧ b ≠ 0x5d := by
  rcases h.value_cases with ⟨hn, hx⟩ | ⟨s, y, -, rfl, -⟩ | ⟨vs, y, -, rfl, -⟩ | ⟨ms, y, -, rfl, -⟩
  · obtain ⟨b, y, rfl⟩ := List.exists_cons_of_ne_nil hn
    have hb := hx b List.mem_cons_self
    refine ⟨b, y, rfl, isWs_of_isWord hb, ?_⟩
    rintro rfl
    exact absurd hb (by decide)
  · exact ⟨_, _, rfl, rfl, by decide⟩
  · exact ⟨_, _, rfl, rfl, by decide⟩
  · exact ⟨_, _, rfl, rfl, by decide⟩

theorem elements_head {vs : List Value} {x : List UInt8} (h : Derives (.elements vs) x) :
    ∃ w b y, x = w ++ b :: y ∧ Ws w ∧ isWs b = false ∧ b ≠ 0x5d := by
  cases h with
  | @element w v x w' hw h _ =>
    obtain ⟨b, y, rfl, hb⟩ := h.head
    exact ⟨w, b, y ++ w', by simp, hw, hb⟩
  | @elements w v x w' vs z hw h _ _ =>
    obtain ⟨b, y, rfl, hb⟩ := h.head
    exact ⟨w, b, y ++ w' ++ 0x2c :: z, by simp, hw, hb⟩

theorem members_head {ms : List (List UInt16 × Value)} {x : List UInt8} (h : Derives (.members ms) x) :
    ∃ w y, x = w ++ 0x22 :: y ∧ Ws w := by
  cases h with
  | @member w n k w₁ w₂ v x w' hw => exact ⟨w, k ++ [0x22] ++ w₁ ++ 0x3a :: w₂ ++ x ++ w', by simp [quoted], hw⟩
  | @members w n k w₁ w₂ v x w' ms y hw =>
    exact ⟨w, k ++ [0x22] ++ w₁ ++ 0x3a :: w₂ ++ x ++ w' ++ 0x2c :: y, by simp [quoted], hw⟩

end Derives

/-! ## White space and control octets -/

/-- White space before something else is read in one way. -/
theorem Ws.cancel {w w' : List UInt8} {b b' : UInt8} {x y : List UInt8} (hw : Ws w) (hw' : Ws w')
    (hb : isWs b = false)
    (hb' : isWs b' = false) (h : w ++ b :: x = w' ++ b' :: y) : w = w' ∧ b = b' ∧ x = y := by
  have hs {v r : List UInt8} {c : UInt8} (hv : Ws v) (hc : isWs c = false) : (v ++ c :: r).takeWhile isWs = v := by
    rw [takeWhile_stop hc]
    exact List.takeWhile_eq_self_iff.2 hv
  obtain rfl : w = w' := by rw [← hs hw hb, h, hs hw' hb']
  obtain ⟨rfl, rfl⟩ := List.cons.inj (List.append_cancel_left h)
  exact ⟨rfl, rfl, rfl⟩

/-- An octet that no text has in it. -/
def Control (b : UInt8) : Prop := b < 0x20 ∧ isWs b = false

instance (b : UInt8) : Decidable (Control b) := inferInstanceAs (Decidable (_ ∧ _))

def NoControl (x : List UInt8) : Prop := ∀ b ∈ x, ¬ Control b

instance (x : List UInt8) : Decidable (NoControl x) := List.decidableBAll _ x

theorem not_control_of_le {b : UInt8} (h : 0x20 ≤ b) : ¬ Control b := fun hc => UInt8.not_lt.2 h hc.1

theorem NoControl.append {x y : List UInt8} (hx : NoControl x) (hy : NoControl y) : NoControl (x ++ y) :=
  List.forall_mem_append.2 ⟨hx, hy⟩

theorem NoControl.cons {b : UInt8} {x : List UInt8} (hb : ¬ Control b) (hx : NoControl x) : NoControl (b :: x) :=
  List.forall_mem_cons.2 ⟨hb, hx⟩

theorem Ws.noControl {w : List UInt8} (h : Ws w) : NoControl w := fun b hb hc => absurd (h b hb) (by simp [hc.2])

theorem Word.noControl {x : List UInt8} (h : Word x) : NoControl x := by
  intro b hb
  have h := h b hb
  apply not_control_of_le
  simp only [isWord, isDigit, decide_eq_true_eq] at h
  rcases h with ⟨h, -⟩ | ⟨h, -⟩ | rfl | rfl | rfl | rfl
  · exact UInt8.le_trans (by decide) h
  · exact UInt8.le_trans (by decide) h
  all_goals decide

theorem Chars.noControl {s : List UInt16} {x : List UInt8} (h : Chars s x) : NoControl (quoted x) := by
  have hx : NoControl x := fun b hb => not_control_of_le (h.le_of_mem b hb)
  exact .append (.cons (by decide) hx) (by decide)

theorem Derives.noControl {f : Form} {x : List UInt8} (h : Derives f x) : NoControl x := by
  induction h with
  | null => decide
  | bool b => cases b <;> decide
  | number h => exact h.word.noControl
  | string h => exact h.noControl
  | array₀ h | object₀ h => exact .append (.cons (by decide) h.noControl) (by decide)
  | array _ ih | object _ ih => exact .append (.cons (by decide) ih) (by decide)
  | element hw _ hw' ih => exact (hw.noControl.append ih).append hw'.noControl
  | elements hw _ hw' _ ih iht => exact ((hw.noControl.append ih).append hw'.noControl).append (.cons (by decide) iht)
  | member hw hn h₁ h₂ _ hw' ih =>
    have hc := NoControl.cons (b := 0x3a) (by decide) h₂.noControl
    exact ((((hw.noControl.append hn.noControl).append h₁.noControl).append hc).append ih).append hw'.noControl
  | members hw hn h₁ h₂ _ hw' _ ih iht =>
    have hc := NoControl.cons (b := 0x3a) (by decide) h₂.noControl
    have hm := ((((hw.noControl.append hn.noControl).append h₁.noControl).append hc).append ih).append hw'.noControl
    exact hm.append (.cons (by decide) iht)

theorem Text.noControl {v : Value} {x : List UInt8} (h : Text v x) : NoControl x := by
  obtain ⟨w, y, w', rfl, hw, hy, hw'⟩ := h
  exact (hw.noControl.append hy.noControl).append hw'.noControl

end Json
