import LibPmc.Json.Unique
import LibPmc.ValidJson
/-!
# Trees that are put out

Any tree of objects can be put out by the emitter: `m_first` says whether a comma is due, and
the stack keeps it for the objects around. What is put out is read back as the tree.
-/
namespace LibPmc

open Cstr Json JsonProc JsonProcToJson

namespace JsonTree

/-! ## Trees -/

/-- A text without anything to escape. -/
abbrev PlainText := {s : String // ∀ c ∈ s.toList, Unescaped c}

instance (s : String) : Decidable (∀ c ∈ s.toList, Unescaped c) := List.decidableBAll _ s.toList

/-- A number, by the overload of `procValue` that puts it out. `other` is a `std::string` that
is one, or what `std::to_string` makes of a `float` or `double` that is finite. -/
inductive Number where
  | uint8 (val : UInt8)
  | uint16 (val : UInt16)
  | uint32 (val : UInt32)
  | uint64 (val : UInt64)
  | int8 (val : Int8)
  | int16 (val : Int16)
  | int32 (val : Int32)
  | int64 (val : Int64)
  | other (val : {x : List UInt8 // IsNumber x})

mutual

inductive Tree where
  | number (val : Number)
  | bool (val : Bool)
  | text (val : PlainText)
  | noElements
  | object (ms : Members)

/-- The members of an object, in their order. A name may be there twice. -/
inductive Members where
  | nil
  | cons (name : PlainText) (t : Tree) (ms : Members)

end

/-! ## The calls for a tree -/

def Number.proc (name : String) : Number → Emit
  | .uint8 val => procValue name val
  | .uint16 val => procValue name val
  | .uint32 val => procValue name val
  | .uint64 val => procValue name val
  | .int8 val => procValue name val
  | .int16 val => procValue name val
  | .int32 val => procValue name val
  | .int64 val => procValue name val
  | .other val => procNumber name val.val

mutual

/-- The calls for a member. -/
def Tree.proc (name : String) : Tree → Emit
  | .number val => val.proc name
  | .bool val => procBool name val
  | .text val => JsonProc.procString name (octets val.val)
  | .noElements => procArray name ([] : List ListRecord)
  | .object ms => object name ms.proc

def Members.proc : Members → Emit
  | .nil => fun p => p
  | .cons name t ms => fun p => ms.proc (t.proc name.val p)

end

/-- The calls for the object that is the whole tree. -/
def Members.emit (ms : Members) : Emit := fun p => (ms.proc p.startObject).closeObject

/-! ## What it is read as -/

def Number.text : Number → {x : List UInt8 // IsNumber x}
  | .uint8 val => ⟨signed val.toNat, isNumber_signed _⟩
  | .uint16 val => ⟨signed val.toNat, isNumber_signed _⟩
  | .uint32 val => ⟨signed val.toNat, isNumber_signed _⟩
  | .uint64 val => ⟨signed val.toNat, isNumber_signed _⟩
  | .int8 val => ⟨signed val.toInt, isNumber_signed _⟩
  | .int16 val => ⟨signed val.toInt, isNumber_signed _⟩
  | .int32 val => ⟨signed val.toInt, isNumber_signed _⟩
  | .int64 val => ⟨signed val.toInt, isNumber_signed _⟩
  | .other val => val

mutual

/-- The tree as a value of JSON. -/
def Tree.value : Tree → Json.Value
  | .number val => .number val.text.val
  | .bool val => .bool val
  | .text val => .string (units val.val.toList)
  | .noElements => .array []
  | .object ms => .object ms.values

def Members.values : Members → List (List UInt16 × Json.Value)
  | .nil => []
  | .cons name t ms => (units name.val.toList, t.value) :: ms.values

end

/-- Lines in braces, with a comma between each two of them. -/
def braces (d : Nat) (lines : List (List UInt8)) : List UInt8 :=
  0x7b :: ([0x2c].intercalate lines ++ (0x0a :: Json.indent d)) ++ [0x7d]

mutual

/-- What stands behind the colon of a member at depth `d`. -/
def Tree.print (d : Nat) : Tree → List UInt8
  | .number val => octets " " ++ val.text.val
  | .bool val => octets " " ++ octets (if val then "true" else "false")
  | .text val => octets " " ++ quoted (octets val.val)
  | .noElements => (0x0a :: Json.indent d) ++ 0x5b :: (0x0a :: Json.indent d) ++ [0x5d]
  | .object ms => (0x0a :: Json.indent d) ++ braces d (ms.lines (d + 1))

/-- Each member on a line of its own. -/
def Members.lines (d : Nat) : Members → List (List UInt8)
  | .nil => []
  | .cons name t ms => ((0x0a :: Json.indent d) ++ quoted (octets name.val) ++ octets " :" ++ t.print d) :: ms.lines d

end

/-! ## What the emitter puts out -/

theorem Number.proc_eq (n : Number) (name : String) : n.proc name = procNumber name n.text.val := by
  cases n <;> rfl

/-- Lines as they are put out one by one: all but the first get a comma. -/
def joined : Bool → List (List UInt8) → List UInt8
  | _, [] => []
  | first, l :: ls => (if first then [] else [0x2c]) ++ l ++ joined false ls

theorem joined_true : ∀ ls : List (List UInt8), joined true ls = [0x2c].intercalate ls
  | [] => rfl
  | [l] => by simp [joined]
  | l :: l' :: ls => by
    have ih := joined_true (l' :: ls)
    rw [List.intercalate_cons_cons, ← ih]
    simp [joined]

/-- A name, and what `val` is behind it. -/
theorem startName_val (p : JsonProcToJson) (name tail : String) (val : List UInt8) :
    (⟨(p.startName name tail).result ++ val, p.m_first_vals, false⟩ : JsonProcToJson) =
      ⟨p.result ++ ((if p.m_first then [] else [0x2c]) ++ ((0x0a :: Json.indent p.m_first_vals.length) ++
        quoted (octets name) ++ octets " :" ++ (octets tail ++ val))), p.m_first_vals, false⟩ := by
  rw [startName_eq]
  simp

/-- Braces around calls that put out lines: the stack and `m_first` are as before. -/
theorem closeObject_lines {f : Emit} {ls : List (List UInt8)} (p : JsonProcToJson)
    (hf : f p.startObject = ⟨p.startObject.result ++ joined true ls, p.startObject.m_first_vals, ls.isEmpty⟩) :
    (f p.startObject).closeObject = ⟨p.result ++ (Json.indent p.m_first_vals.length ++ braces p.m_first_vals.length ls),
      p.m_first_vals, p.m_first⟩ := by
  rw [hf, joined_true]
  simp [startObject, closeObject, start, stop, add, JsonProcToJson.indent, Json.indent, braces]

mutual

/-- A member is one line, with a comma before it unless it is the first. -/
theorem Tree.proc_eq (name : String) (p : JsonProcToJson) : ∀ t : Tree, t.proc name p =
    ⟨p.result ++ ((if p.m_first then [] else [0x2c]) ++ ((0x0a :: Json.indent p.m_first_vals.length) ++
      quoted (octets name) ++ octets " :" ++ t.print p.m_first_vals.length)), p.m_first_vals, false⟩
  | .number val => by
    rw [Tree.proc, Number.proc_eq, procNumber_eq, startName_val]
    rfl
  | .bool val => by
    rw [Tree.proc, procBool_eq, startName_val]
    rfl
  | .text val => by
    rw [Tree.proc, procString_eq, startName_val]
    rfl
  | .noElements => by
    rw [Tree.proc, procArray_eq, startName_val, octets_newline]
    simp [Tree.print]
  | .object ms => by
    have hf := Members.proc_eq (p.startName name "\n").startObject ms
    rw [Tree.proc, object, closeObject_lines _ hf, startName_eq]
    simp [Tree.print, startObject, start, add, JsonProcToJson.indent]

/-- The members are their lines, and after them a comma is due. -/
theorem Members.proc_eq (p : JsonProcToJson) : ∀ ms : Members, ms.proc p =
    ⟨p.result ++ joined p.m_first (ms.lines p.m_first_vals.length), p.m_first_vals,
      p.m_first && (ms.lines p.m_first_vals.length).isEmpty⟩
  | .nil => by simp [Members.proc, Members.lines, joined]
  | .cons name t ms => by
    change ms.proc (t.proc name.val p) = _
    rw [Tree.proc_eq, Members.proc_eq]
    simp [Members.lines, joined]

end

/-- The whole tree: its text is put behind what there is, and the stack and `m_first` end as
they began. -/
theorem Members.emit_eq (ms : Members) (p : JsonProcToJson) : ms.emit p =
    ⟨p.result ++ (Json.indent p.m_first_vals.length ++ braces p.m_first_vals.length
      (ms.lines (p.m_first_vals.length + 1))),
      p.m_first_vals, p.m_first⟩ :=
  closeObject_lines p (Members.proc_eq p.startObject ms)

/-! ## What it is read back as -/

theorem chars_octets (s : PlainText) : Chars (units s.val.toList) (octets s.val) := by
  rw [octets_eq_utf8]
  exact chars_of_unescaped s.2

theorem derives_braces {d : Nat} {ms : Members} (h : ms ≠ .nil →
    ∀ {w : List UInt8}, Ws w → Derives (.members ms.values) ([0x2c].intercalate (ms.lines (d + 1)) ++ w)) :
    Derives (.value (.object ms.values)) (braces d (ms.lines (d + 1))) := by
  cases ms with
  | nil => exact .object₀ (ws_newline d)
  | cons name t ms => exact .object (h (fun hn => by cases hn) (ws_newline d))

mutual

theorem Tree.derives (d : Nat) : ∀ t : Tree, ∃ w x, t.print d = w ++ x ∧ Ws w ∧ Derives (.value t.value) x
  | .number val => ⟨_, _, rfl, ws_space, .number val.text.2⟩
  | .bool val => ⟨_, _, rfl, ws_space, .bool val⟩
  | .text val => ⟨_, _, rfl, ws_space, .string (chars_octets val)⟩
  | .noElements => ⟨0x0a :: Json.indent d, 0x5b :: (0x0a :: Json.indent d) ++ [0x5d],
      by simp [Tree.print], ws_newline d,
      .array₀ (ws_newline d)⟩
  | .object ms => ⟨_, _, rfl, ws_newline d, derives_braces fun hn => Members.derives (d + 1) ms hn⟩

theorem Members.derives (d : Nat) : ∀ ms : Members, ms ≠ .nil → ∀ {w : List UInt8}, Ws w →
    Derives (.members ms.values) ([0x2c].intercalate (ms.lines d) ++ w)
  | .nil, hn, _, _ => absurd rfl hn
  | .cons name t .nil, _, w, hw => by
    obtain ⟨w₂, x, hx, hw₂, hd⟩ := t.derives d
    have := Derives.member (ws_newline d) (chars_octets name) ws_space hw₂ hd hw
    simpa [Members.lines, Members.values, hx, Fields.octets_colon] using this
  | .cons name t (.cons name' t' ms), _, w, hw => by
    obtain ⟨w₂, x, hx, hw₂, hd⟩ := t.derives d
    have ih := Members.derives d (.cons name' t' ms) (fun hn => by cases hn) hw
    have := Derives.members (ws_newline d) (chars_octets name) ws_space hw₂ hd ws_nil ih
    rw [Members.lines] at this ⊢
    rw [Members.lines, List.intercalate_cons_cons]
    simpa [Members.values, hx, Fields.octets_colon] using this

end

example : ((Members.cons ⟨"n", by decide⟩ (.number (.int8 (-5))) (.cons ⟨"o", by decide⟩ (.object
      (.cons ⟨"b", by decide⟩ (.bool true) .nil)) .nil)).emit .new).result =
    octets "\x7b\n  \"n\" : -5,\n  \"o\" :\n  \x7b\n    \"b\" : true\n  \x7d\n\x7d" := by decide +kernel

end JsonTree

end LibPmc
