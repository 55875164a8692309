import LibPmc.Frame
import LibPmc.Quote
/-!
# Keys with their values

A command is written as pairs of a key and a value, with white space around them. The loop of
`parseKeysFunc` takes a pair in each round, whatever kind of value the one before had, and
what a pair sets depends on no other pair.
-/
namespace LibPmc

open Cstr

/-! ## What is written -/

structure Token where
  string : List UInt8
  ne : string ≠ []
  octets : ∀ c ∈ string, c ≠ 0 ∧ toksep.contains c = false

def Token.ofString (s : String) (hne : Cstr.octets s ≠ [])
    (h : (Cstr.octets s).all (fun c => c ≠ 0 ∧ toksep.contains c = false) = true) : Token :=
  ⟨Cstr.octets s, hne, fun c hc => of_decide_eq_true (List.all_eq_true.1 h c hc)⟩

structure Space where
  string : List UInt8
  seps : ∀ c ∈ string, toksep.contains c = true

def Space.ofString (s : String) (h : (octets s).all toksep.contains = true) : Space :=
  ⟨octets s, fun c hc => List.all_eq_true.1 h c hc⟩

def blank : Space := .ofString " " (by decide)

theorem blank_ne : blank.string ≠ [] := by decide

/-- A bare token does not start with a quote, and a string between quotes has no escapes. -/
inductive Value where
  | bare (t : Token) (h : ∀ c ∈ t.string.head?, ¬ (c = 34 ∨ c = 39))
  | quoted (q : UInt8) (s : List UInt8) (hq : q = 34 ∨ q = 39) (hs : ∀ c ∈ s, c ≠ 0 ∧ c ≠ 92 ∧ c ≠ q)

namespace Value

def ofToken (t : Token) (h : t.string.head?.all (fun c => ¬ (c = 34 ∨ c = 39)) = true) : Value :=
  .bare t fun c hc => of_decide_eq_true ((Option.all_eq_true _ _).1 h c hc)

def string : Value → List UInt8
  | bare t _ => t.string
  | quoted _ s _ _ => s

def isQuoted : Value → Bool
  | bare _ _ => false
  | quoted _ _ _ _ => true

def octets : Value → List UInt8
  | bare t _ => t.string
  | quoted q s _ _ => q :: (s ++ [q])

end Value

structure Pair where
  name : Token
  value : Value

/-- A pair on a line, with the white space in front of its value and behind it. -/
structure Written where
  pair : Pair
  mid : Space
  gap : Space
  mid_ne : mid.string ≠ []

def Written.octets (w : Written) : List UInt8 :=
  w.pair.name.string ++ (w.mid.string ++ (w.pair.value.octets ++ w.gap.string))

def text (ws : List Written) : List UInt8 := ws.flatMap Written.octets

/-- There is white space between the pairs. -/
def Separated : List Written → Prop
  | [] => True
  | w :: ws => (ws ≠ [] → w.gap.string ≠ []) ∧ Separated ws

/-- The rest of a command line. -/
structure Line where
  lead : Space
  ws : List Written
  separated : Separated ws

def Line.octets (line : Line) : List UInt8 := line.lead.string ++ text line.ws

def Line.pairs (line : Line) : List Pair := line.ws.map Written.pair

/-! ## What it says -/

/-- The entry that a name has in a table: any name that of a single key. -/
def Keys.index (keys : Keys) (name : List UInt8) : Option Nat :=
  if keys.length = 1 then some 0 else keys.findIdx? fun k => caseEq (Cstr.octets k.1) name

/-- The string that a key holds. -/
def val_key_t.string (key : val_key_t) (buf : Buf) : Keyed (List UInt8) :=
  match key.str_val with
  | .null => throw .fault
  | .empty => return []
  | .at p => access (buf.str p)

/-- What a key makes of a string by itself: its number and the string it holds then. -/
def val_key_t.settle (key : val_key_t) (s : List UInt8) : Keyed (Int × List UInt8) := do
  let (key, buf) ← key.take (s ++ [0]) 0
  return (key.num, ← key.string buf)

/-- A handler that reads its token only, and at most writes it anew in its place. -/
def TokenOnly (handle : Buf → Nat → Keyed (Int × Buf)) : Prop :=
  ∃ g : List UInt8 → Option (Int × List UInt8),
    (∀ s n s', g s = some (n, s') → 0 ∉ s → s'.length = s.length ∧ 0 ∉ s') ∧
    ∀ buf p s, Buf.str buf p = some s → handle buf p = (g s).elim (.error .error) fun r => .ok (r.1, buf.put p r.2)

/-- The pair names a key of the table, and has quotes only where the key allows them. -/
def Pair.Names (keys : Keys) (p : Pair) (i : Nat) (k : String × val_key_t) : Prop :=
  keys.index p.name.string = some i ∧ keys[i]? = some k ∧ (p.value.isQuoted = true → k.2.can_str = true)

/-! ## A value is taken -/

section Take
variable {buf : Buf} {p : Nat} {s : List UInt8}

theorem str_at (pre : Buf) {s : List UInt8} (h0 : 0 ∉ s) (r : List UInt8) :
    Buf.str (pre ++ (s ++ 0 :: r)) pre.length = some s := by
  unfold Buf.str
  rw [List.drop_left, if_pos (List.mem_append_right _ List.mem_cons_self), cstr_append]
  exact congrArg some (cstr_of_notMem h0)

theorem zero_notMem_of_str (h : buf.str p = some s) : 0 ∉ s := by
  unfold Buf.str at h
  split at h
  · cases h
    exact fun hm => by simpa using List.mem_takeWhile_imp hm
  · cases h

/-- The string is part of the buffer. -/
theorem split_of_str (h : buf.str p = some s) : ∃ r, buf = buf.take p ++ (s ++ 0 :: r) ∧ (buf.take p).length = p := by
  unfold Buf.str at h
  split at h
  · next h0 =>
    cases h
    have hd : cstr (buf.drop p) ++ (buf.drop p).dropWhile (· ≠ 0) = buf.drop p := List.takeWhile_append_dropWhile
    have hz := List.head?_dropWhile_not (· ≠ 0) (buf.drop p)
    refine ⟨((buf.drop p).dropWhile (· ≠ 0)).tail, ?_, List.length_take_of_le (Buf.ended_lt h0).le⟩
    cases hl : (buf.drop p).dropWhile (· ≠ 0) with
    | nil =>
      rw [hl, List.append_nil] at hd
      exact absurd (by rw [hd]; exact h0) fun hm : 0 ∈ cstr (buf.drop p) => by simpa using List.mem_takeWhile_imp hm
    | cons c l =>
      rw [hl] at hz hd
      obtain rfl : c = 0 := by simpa using hz
      rw [List.tail_cons, hd, List.take_append_drop]
  · cases h

theorem put_string (pre : Buf) {s s' : List UInt8} (hlen : s'.length = s.length) (r : List UInt8) :
    Buf.put (pre ++ (s ++ r)) pre.length s' = pre ++ (s' ++ r) := by
  rw [put_left, hlen, List.drop_left]

/-- A string that is written over itself changes nothing. -/
theorem put_same (h : buf.str p = some s) : buf.put p s = buf := by
  obtain ⟨r, hb, hp⟩ := split_of_str h
  generalize buf.take p = pre at hb hp
  subst hp hb
  exact put_string pre rfl (0 :: r)

/-- Without a handler the token is all that counts, and it stays as it is. -/
theorem read_at (key : val_key_t) (tkn : Nat) (s : List UInt8) :
    key.read tkn s = (fun k => { k with str_val := .at tkn }) <$> key.read 0 s := by
  unfold val_key_t.read
  cases key.flag with
  | true =>
    simp only [if_true]
    split
    · rfl
    · rfl
  | false =>
    simp only [Bool.false_eq_true, if_false]
    split
    · rfl
    · split
      · rfl
      · rfl

theorem settle_read {key : val_key_t} (hk : key.handle = none) (h0 : 0 ∉ s) :
    key.settle s = (fun k => (k.num, s)) <$> key.read 0 s := by
  have hself : Buf.str (s ++ [0]) 0 = some s := str_at [] h0 []
  unfold val_key_t.settle
  rw [take_read hk, hself]
  change (((·, s ++ [0]) <$> key.read 0 s : Keyed _) >>= _) = _
  rcases read_cases key 0 s with hr | ⟨k, hr, hstr, -⟩
  · rw [hr]
    rfl
  · rw [hr]
    change (k.string (s ++ [0]) >>= fun t => pure (k.num, t)) = _
    unfold val_key_t.string
    rw [hstr]
    dsimp only
    rw [hself]
    rfl

/-- On any buffer a key takes a string as it does by itself. -/
theorem take_settle {key : val_key_t} (hh : ∀ f ∈ key.handle, TokenOnly f) (hs : buf.str p = some s) :
    (∃ key' s', key.take buf p = .ok (key', buf.put p s') ∧ key.settle s = .ok (key'.num, s') ∧ key'.str_val = .at p ∧
      key'.req = false ∧ s'.length = s.length ∧ 0 ∉ s' ∧ key'.can_str = key.can_str ∧ key'.handle = key.handle) ∨
    (key.take buf p = .error .error ∧ key.settle s = .error .error) := by
  have h0 := zero_notMem_of_str hs
  have hself : Buf.str (s ++ [0]) 0 = some s := str_at [] h0 []
  cases hk : key.handle with
  | some f =>
    obtain ⟨g, hg, hf⟩ := hh f hk
    have htake (b : Buf) (q : Nat) : key.take b q =
        f b q >>= fun r => return ({ key with str_val := .at q, num := r.1, req := false }, r.2) := by
      unfold val_key_t.take
      rw [hk]
    unfold val_key_t.settle
    rw [htake, htake, hf buf p s hs, hf (s ++ [0]) 0 s hself]
    cases hgs : g s with
    | none => exact .inr ⟨rfl, rfl⟩
    | some r =>
      obtain ⟨n, s'⟩ := r
      obtain ⟨hlen, h0'⟩ := hg s n s' hgs h0
      refine .inl ⟨{ key with str_val := .at p, num := n, req := false }, s', rfl, ?_, rfl, rfl, hlen, h0', rfl, hk⟩
      change (access (Buf.str (Buf.put (s ++ [0]) 0 s') 0) >>= fun t => pure (n, t)) = _
      have hput : Buf.put (s ++ [0]) 0 s' = s' ++ [0] := put_string [] hlen [0]
      rw [hput, show Buf.str (s' ++ [0]) 0 = some s' from str_at [] h0' []]
      rfl
  | none =>
    have htake : key.take buf p = (fun k => ({ k with str_val := StrVal.at p }, buf)) <$> key.read 0 s := by
      rw [take_read hk, hs]
      change ((·, buf) <$> key.read p s : Keyed _) = _
      rw [read_at]
      cases key.read 0 s <;> rfl
    rw [settle_read hk h0, htake]
    rcases read_cases key 0 s with hr | ⟨k, hr, hstr, hhandle, hcan, hreq⟩
    · rw [hr]
      exact .inr ⟨rfl, rfl⟩
    · rw [hr]
      exact .inl ⟨{ k with str_val := .at p }, s,
        by rw [put_same hs]; rfl, rfl, rfl, hreq, rfl, h0, hcan, hhandle.trans hk⟩

end Take

/-! ## The handlers -/

theorem toupper_ne_zero {c : UInt8} (h : c ≠ 0) : toupper c ≠ 0 := by
  unfold toupper
  split
  · next hc =>
    intro he
    have hz := congrArg UInt8.toNat he
    rw [UInt8.toNat_sub] at hz
    have hle := UInt8.le_iff_toNat_le.1 hc.1
    have hge := UInt8.le_iff_toNat_le.1 hc.2
    simp only [UInt8.reduceToNat] at hz hle hge
    omega
  · exact h

theorem ite_ne_fault {α : Type} {c : Prop} [Decidable c] {x y : Keyed α} (hx : x ≠ .error .fault)
    (hy : y ≠ .error .fault) :
    (if c then x else y) ≠ .error .fault := by
  split
  · exact hx
  · exact hy

theorem timeSourceOf_ne_fault (tkn : List UInt8) : timeSourceOf tkn ≠ .error .fault := by
  unfold timeSourceOf
  repeat' apply ite_ne_fault
  all_goals exact nofun

theorem portStateOf_ne_fault (tkn : List UInt8) : portStateOf tkn ≠ .error .fault := by
  unfold portStateOf
  repeat' apply ite_ne_fault
  all_goals exact nofun

theorem getTimeSource_tokenOnly : TokenOnly getTimeSource := by
  refine ⟨fun s => (timeSourceOf (s.map toupper)).toOption.map (·, s.map toupper), fun s n s' h h0 => ?_,
    fun buf p s hs => ?_⟩
  · obtain ⟨m, -, he⟩ := Option.map_eq_some_iff.1 h
    cases he
    refine ⟨List.length_map .., fun hm => ?_⟩
    obtain ⟨c, hc, hz⟩ := List.mem_map.1 hm
    exact toupper_ne_zero (fun h : c = 0 => h0 (h ▸ hc)) hz
  · unfold getTimeSource
    rw [hs]
    change (timeSourceOf (s.map toupper) >>= fun n => pure (n, buf.put p (s.map toupper))) = _
    dsimp only
    cases ht : timeSourceOf (s.map toupper) with
    | ok n => rfl
    | error e =>
      cases e with
      | error => rfl
      | fault => exact absurd ht (timeSourceOf_ne_fault _)

theorem getPortState_tokenOnly : TokenOnly getPortState := by
  refine ⟨fun s => (portStateOf s).toOption.map (·, s), fun s n s' h h0 => ?_, fun buf p s hs => ?_⟩
  · obtain ⟨m, -, he⟩ := Option.map_eq_some_iff.1 h
    cases he
    exact ⟨rfl, h0⟩
  · unfold getPortState
    rw [hs]
    change (portStateOf s >>= fun n => pure (n, buf)) = _
    dsimp only
    cases ht : portStateOf s with
    | ok n =>
      change Except.ok (n, buf) = Except.ok (n, buf.put p s)
      rw [put_same hs]
    | error e =>
      cases e with
      | error => rfl
      | fault => exact absurd ht (portStateOf_ne_fault _)

/-! ## A round takes a pair -/

/-- Behind `front` there are white space and then the text, up to the end of the line. -/
def Ahead (pl : Place) (front tx r : List UInt8) : Prop :=
  ∃ lead : Space, pl.buf = front ++ (lead.string ++ (tx ++ 0 :: r)) ∧ pl.pos = front.length

/-- The string at an offset lies within `front`, or it ends with the line. -/
def Kept (front : List UInt8) (buf : Buf) (tx : List UInt8) (p : Nat) (s : List UInt8) : Prop :=
  Buf.str front p = some s ∨ tx = [] ∧ buf.str p = some s

section Pair
variable {front tx r : List UInt8} {pl : Place}

/-- `a` is what was in front of the token, and `b` its end where that is not the end of the line. -/
def Taken (front a s b tx r : List UInt8) (pl : Place) : Prop :=
  Ahead pl (front ++ (a ++ (s ++ b))) tx r ∧ (b = [0] ∨ b = [] ∧ tx = [] ∧ pl.buf = front ++ (a ++ (s ++ 0 :: r)))

theorem Taken.str {a s b : List UInt8} (h : Taken front a s b tx r pl) (h0 : 0 ∉ s) :
    pl.buf.str (front ++ a).length = some s := by
  have hstr (x : List UInt8) : Buf.str (front ++ (a ++ (s ++ 0 :: x))) (front ++ a).length = some s := by
    rw [← List.append_assoc]
    exact str_at (front ++ a) h0 x
  obtain ⟨⟨lead, hb, -⟩, rfl | ⟨-, -, he⟩⟩ := h
  · rw [hb]
    simpa only [List.append_assoc, List.singleton_append] using hstr (lead.string ++ (tx ++ 0 :: r))
  · rw [he]
    exact hstr r

theorem Taken.kept {a s b : List UInt8} (h : Taken front a s b tx r pl) (h0 : 0 ∉ s) :
    Kept (front ++ (a ++ (s ++ b))) pl.buf tx (front ++ a).length s := by
  rcases h.2 with rfl | ⟨rfl, htx, -⟩
  · left
    rw [← List.append_assoc]
    exact str_at (front ++ a) h0 []
  · exact .inr ⟨htx, h.str h0⟩

/-- A string of the same length can be written over the token. -/
theorem Taken.put {a s s' b : List UInt8} (h : Taken front a s b tx r pl) (hlen : s'.length = s.length) :
    Taken front a s' b tx r { pl with buf := pl.buf.put (front ++ a).length s' } := by
  obtain ⟨⟨lead, hb, hpos⟩, hend⟩ := h
  have hput (x : List UInt8) : Buf.put (front ++ (a ++ (s ++ x))) (front ++ a).length s' =
      front ++ (a ++ (s' ++ x)) := by
    rw [← List.append_assoc, put_string _ hlen, List.append_assoc]
  refine ⟨⟨lead, ?_, ?_⟩, ?_⟩
  · rw [hb]
    simpa only [List.append_assoc] using hput (b ++ (lead.string ++ (tx ++ 0 :: r)))
  · rw [show ({ pl with buf := pl.buf.put (front ++ a).length s' } : Place).pos = pl.pos from rfl, hpos]
    simp only [List.length_append, hlen]
  · rcases hend with hb' | ⟨hb', htx, he⟩
    · exact .inl hb'
    · right
      dsimp only
      rw [he, hput]
      exact ⟨hb', htx, rfl⟩

/-- A token without quotes. -/
theorem nextToken_token (t : Token) (gap : Space) (hgap : tx ≠ [] → gap.string ≠ [])
    (h : Ahead pl front (t.string ++ (gap.string ++ tx)) r) :
    ∃ a b pl', nextToken false pl = .ok (some (front ++ a).length, pl') ∧ Taken front a t.string b tx r pl' := by
  obtain ⟨lead, hb, hpos⟩ := h
  obtain ⟨g, hg⟩ := gap
  dsimp only at hgap hb
  rw [nextToken_false, hpos, hb]
  cases g with
  | nil =>
    obtain rfl : tx = [] := by
      by_contra hn
      exact hgap hn rfl
    simp only [List.append_nil]
    rw [strtok_r_token front lead.seps t.octets t.ne (.inl rfl)]
    refine ⟨lead.string, [], ⟨_, _, none⟩, by rw [List.length_append]; rfl, ⟨⟨⟨[], nofun⟩, ?_, ?_⟩,
      .inr ⟨rfl, rfl, ?_⟩⟩⟩
    · simp
    · simp [Place.pos]
      omega
    · simp
  | cons c g =>
    have hc := hg c List.mem_cons_self
    have hc0 : c ≠ 0 := fun hz => by rw [hz, toksep_zero] at hc; cases hc
    simp only [List.append_assoc, List.cons_append]
    rw [strtok_r_token front lead.seps t.octets t.ne (.inr hc), if_neg hc0]
    refine ⟨lead.string, [0], ⟨_, _, none⟩, by rw [List.length_append]; rfl,
      ⟨⟨⟨g, fun x hx => hg x (List.mem_cons_of_mem c hx)⟩, ?_, ?_⟩, .inl rfl⟩⟩
    · simp
    · simp [Place.pos]
      omega

theorem staysOpen_plain {q prev : UInt8} {s : List UInt8} (hs : ∀ c ∈ s, c ≠ 0 ∧ c ≠ 92 ∧ c ≠ q) :
    StaysOpen q prev s := by
  induction s generalizing prev with
  | nil => trivial
  | cons c s ih =>
    obtain ⟨h0, -, hq⟩ := hs c List.mem_cons_self
    exact ⟨fun h => absurd h hq, h0, ih fun x hx => hs x (List.mem_cons_of_mem c hx)⟩

theorem unescape_plain {s : List UInt8} (hs : ∀ c ∈ s, c ≠ 0 ∧ c ≠ 92) (rest : List UInt8) :
    unescape (s ++ 0 :: rest) = some s := by
  induction s with
  | nil => exact unescape_zero rest
  | cons c s ih =>
    obtain ⟨h0, h92⟩ := hs c List.mem_cons_self
    rw [List.cons_append, unescape_cons h0 h92, ih fun x hx => hs x (List.mem_cons_of_mem c hx)]
    rfl

theorem getLastD_mem (s : List UInt8) (q : UInt8) : s.getLastD q = q ∨ s.getLastD q ∈ s := by
  cases h : s.getLast? with
  | none => exact .inl (by rw [List.getLastD_eq_getLast?, h]; rfl)
  | some c => exact .inr (by rw [List.getLastD_eq_getLast?, h]; exact List.mem_of_getLast? h)

/-- The next token is the value, without its quotes. -/
theorem nextToken_value {can_str : Bool} {v : Value} (hq : v.isQuoted = true → can_str = true) (gap : Space)
    (hgap : tx ≠ [] → gap.string ≠ []) (h : Ahead pl front (v.octets ++ (gap.string ++ tx)) r) :
    ∃ a b pl', nextToken can_str pl = .ok (some (front ++ a).length, pl') ∧ Taken front a v.string b tx r pl' := by
  cases v with
  | bare t hhead =>
    have htoken := nextToken_token t gap hgap h
    cases can_str with
    | false => exact htoken
    | true =>
      obtain ⟨lead, hb, hpos⟩ := h
      obtain ⟨c, s, hs⟩ := List.exists_cons_of_ne_nil t.ne
      obtain ⟨h0, hsep⟩ := t.octets c (hs ▸ List.mem_cons_self)
      have hquote : parse_quote pl.buf pl.save pl.lastStr = .ok (.noQuote, pl.buf) := by
        rw [hb]
        simp only [Value.octets, hs, List.cons_append, List.append_assoc]
        exact parse_quote_bare hpos lead.seps h0 hsep (hhead c (by rw [hs]; rfl))
      rw [nextToken_true, hquote]
      exact htoken
  | quoted q s hq' hs =>
    obtain rfl := hq rfl
    obtain ⟨lead, hb, hpos⟩ := h
    have hlast : s.getLastD q ≠ 92 := by
      rcases getLastD_mem s q with h | h
      · rw [h]
        rcases hq' with rfl | rfl <;> decide
      · exact (hs _ h).2.1
    obtain ⟨str, mid, hstr, hlen, hp⟩ := parse_quote_closed (gap.string ++ (tx ++ 0 :: r)) hpos lead.seps hq'
      (staysOpen_plain hs) hlast
    obtain rfl : str = s :=
      Option.some.inj ((hstr []).symm.trans (unescape_plain (fun c hc => ⟨(hs c hc).1, (hs c hc).2.1⟩) []))
    obtain rfl : mid = [] := List.length_eq_zero_iff.1 (by omega)
    have hbuf : pl.buf = front ++ (lead.string ++ q :: (str ++ q :: (gap.string ++ (tx ++ 0 :: r)))) := by
      rw [hb]
      simp [Value.octets]
    refine ⟨lead.string ++ [q], [0], ?_⟩
    rw [nextToken_true, hbuf, hp]
    refine ⟨⟨front ++ (lead.string ++ q :: (str ++ 0 :: ([] ++ (gap.string ++ (tx ++ 0 :: r))))), pl.save,
      some (front.length + lead.string.length + 1 + str.length + 1)⟩, ?_, ⟨⟨gap, ?_, ?_⟩, .inl rfl⟩⟩
    · simp only [List.length_append, List.length_singleton]
      rfl
    · simp [Value.string]
    · simp [Place.pos, Value.string]
      omega

theorem find_index {keys : Keys} {buf : Buf} {tkn i : Nat} {name : List UInt8} {k : String × val_key_t}
    (hs : buf.str tkn = some name) (hi : keys.index name = some i) (hk : keys[i]? = some k) :
    keys.find buf tkn = .ok (i, k) := by
  have hentry : keys.entry (some i) = .ok (i, k) := by
    unfold Keys.entry
    rw [Option.bind_some, hk]
    rfl
  unfold Keys.index at hi
  unfold Keys.find
  split at hi
  · next h1 =>
    cases hi
    rw [if_pos h1]
    exact hentry
  · next h1 =>
    rw [if_neg h1, hs]
    change keys.entry (keys.findIdx? _) = _
    rw [hi]
    exact hentry

/-- The handlers of a table read their tokens only. -/
def Keys.TokenOnly (keys : Keys) : Prop := ∀ k ∈ keys, ∀ f ∈ k.2.handle, LibPmc.TokenOnly f

variable {keys : Keys}

/-- A round takes the pair that is next, or refuses its value. -/
theorem keyRound_pair (hs : keys.singleCanStr = false) (hh : keys.TokenOnly) (w : Written) {i : Nat}
    {k : String × val_key_t} (hn : w.pair.Names keys i k) (hgap : tx ≠ [] → w.gap.string ≠ [])
    (h : Ahead pl front (w.octets ++ tx) r) :
    (keyRound keys pl = .error .error ∧ k.2.settle w.pair.value.string = .error .error) ∨
    ∃ key' pl' front' s', keyRound keys pl = .ok (.next (keys.set i (k.1, key')) pl') ∧ front <+: front' ∧
      Ahead pl' front' tx r ∧ k.2.settle w.pair.value.string = .ok (key'.num, s') ∧
      (∃ p, key'.str_val = .at p ∧ Kept front' pl'.buf tx p s') ∧ key'.req = false ∧ key'.can_str = k.2.can_str ∧
      key'.handle = k.2.handle := by
  obtain ⟨hi, hk, hq⟩ := hn
  obtain ⟨name, key⟩ := k
  have hassoc : w.octets ++ tx = w.pair.name.string ++
      (w.mid.string ++ (w.pair.value.octets ++ (w.gap.string ++ tx))) := by
    simp only [Written.octets, List.append_assoc]
  rw [hassoc] at h
  obtain ⟨a, b, pl₁, ht, h₁⟩ := nextToken_token w.pair.name w.mid (fun _ => w.mid_ne) h
  have h0 : 0 ∉ w.pair.name.string := fun hm => (w.pair.name.octets 0 hm).1 rfl
  obtain ⟨a', b', pl₂, hv, h₂⟩ := nextToken_value (show _ → key.can_str = true from hq) w.gap hgap h₁.1
  have hround : keyRound keys pl =
      key.take pl₂.buf (front ++ (a ++ (w.pair.name.string ++ b)) ++ a').length >>= fun r =>
      return .next (keys.set i (name, r.1)) { pl₂ with buf := r.2 } := by
    unfold keyRound
    rw [hs, ht]
    change (keys.find pl₁.buf _ >>= _ : Keyed Round) = _
    rw [find_index (h₁.str h0) hi hk]
    change (nextToken key.can_str pl₁ >>= _ : Keyed Round) = _
    rw [hv]
    rfl
  have h0' : 0 ∉ w.pair.value.string := by
    cases w.pair.value with
    | bare t _ => exact fun hm => (t.octets 0 hm).1 rfl
    | quoted q s _ hs => exact fun hm => (hs 0 hm).1 rfl
  rw [hround]
  rcases take_settle (hh _ (List.mem_of_getElem? hk)) (h₂.str h0') with
    ⟨key', s', htake, hset, hstr, hreq, hlen, hz, hcan, hhandle⟩ | ⟨htake, hset⟩
  · rw [htake]
    have hput := h₂.put hlen
    refine .inr ⟨key', _, _, s', rfl, ?_, hput.1, hset, ⟨_, hstr, hput.kept hz⟩, hreq, hcan, hhandle⟩
    rw [List.append_assoc]
    exact List.prefix_append _ _
  · rw [htake]
    exact .inl ⟨rfl, hset⟩

/-- Where no pair is left, the loop has its end. -/
theorem keyRound_end (hs : keys.singleCanStr = false) (h : Ahead pl front [] r) :
    keyRound keys pl = .ok (.ended keys pl.buf) := by
  obtain ⟨lead, hb, hpos⟩ := h
  have ht : nextToken false pl = .ok (none, ⟨pl.buf, front.length + lead.string.length, none⟩) := by
    rw [nextToken_false, hpos, hb, List.nil_append, strtok_r_end front toksep_zero lead.seps]
    rfl
  unfold keyRound
  rw [hs, ht]
  rfl

end Pair

/-! ## The loop takes all of them -/

/-- What the pairs leave of a table: each key named holds what it makes of its value, and the
others are as they were. -/
structure Settled (keys keys' : Keys) (buf : Buf) (ps : List Pair) : Prop where
  names : keys'.map (·.1) = keys.map (·.1)
  rest : ∀ i, (∀ p ∈ ps, keys.index p.name.string ≠ some i) → keys'[i]? = keys[i]?
  pair : ∀ p ∈ ps, ∀ i k, p.Names keys i k → ∃ key' s, keys'[i]? = some (k.1, key') ∧
    k.2.settle p.value.string = .ok (key'.num, s) ∧ key'.string buf = .ok s ∧ key'.req = false

section Loop
variable {keys keys' : Keys} {pl : Place} {front r : List UInt8}

theorem index_congr (h : keys'.map (·.1) = keys.map (·.1)) (name : List UInt8) :
    keys'.index name = keys.index name := by
  have hlen : keys'.length = keys.length := by simpa using congrArg List.length h
  have hfind (keys : Keys) : (keys.findIdx? fun k => caseEq (Cstr.octets k.1) name) =
      (keys.map (·.1)).findIdx? fun n => caseEq (Cstr.octets n) name := by
    rw [List.findIdx?_map]
    rfl
  unfold Keys.index
  rw [hlen, hfind keys', hfind keys, h]

theorem names_set {i : Nat} {k : String × val_key_t} (h : keys[i]? = some k) (key : val_key_t) :
    (keys.set i (k.1, key)).map (·.1) = keys.map (·.1) := by
  rw [List.map_set]
  refine List.ext_getElem? fun j => ?_
  rw [List.getElem?_set]
  split
  · next hj =>
    subst hj
    obtain ⟨hlt, rfl⟩ := List.getElem?_eq_some_iff.1 h
    rw [List.length_map, if_pos hlt, List.getElem?_map, h]
    rfl
  · rfl

/-- A pair that names another key does not see the change of a key. -/
theorem names_of_set {i j : Nat} {k k' : String × val_key_t} {p : Pair} (h : keys[i]? = some k) (key : val_key_t)
    (hij : i ≠ j) : p.Names (keys.set i (k.1, key)) j k' ↔ p.Names keys j k' := by
  unfold Pair.Names
  rw [index_congr (names_set h key), List.getElem?_set_ne hij]

theorem text_eq_nil {ws : List Written} (h : text ws = []) : ws = [] := by
  cases ws with
  | nil => rfl
  | cons w ws =>
    rw [text, List.flatMap_cons] at h
    exact absurd (List.append_eq_nil_iff.1 (List.append_eq_nil_iff.1 h).1).1 w.pair.name.ne

/-- Each value is taken in its round, or one of them is refused. -/
theorem keyLoop_pairs (n : Nat) (ws : List Written) (hs : keys.singleCanStr = false) (hh : keys.TokenOnly)
    (hsep : Separated ws) (hn : ∀ w ∈ ws, ∃ i k, w.pair.Names keys i k)
    (hd : ws.Pairwise fun w w' => keys.index w.pair.name.string ≠ keys.index w'.pair.name.string)
    (h : Ahead pl front (text ws) r) (hf : ws.length < n) :
    (keyLoop n keys pl = .error .error ∧ ∃ w ∈ ws, ∃ i k, w.pair.Names keys i k ∧
      k.2.settle w.pair.value.string = .error .error) ∨
    ∃ keys' rest, keyLoop n keys pl = .ok (keys', front ++ rest) ∧ (ws = [] → front ++ rest = pl.buf) ∧
      Settled keys keys' (front ++ rest) (ws.map Written.pair) := by
  induction ws generalizing n keys pl front with
  | nil =>
    obtain ⟨n, rfl⟩ := Nat.exists_eq_succ_of_ne_zero (Nat.ne_of_gt hf)
    right
    obtain ⟨lead, hb, -⟩ := id h
    refine ⟨keys, _, ?_, fun _ => hb.symm, rfl, fun _ _ => rfl, nofun⟩
    rw [keyLoop_succ, keyRound_end hs h, ← hb]
    rfl
  | cons w ws ih =>
    obtain ⟨n, rfl⟩ := Nat.exists_eq_succ_of_ne_zero (Nat.ne_of_gt (Nat.lt_of_le_of_lt (Nat.zero_le _) hf))
    obtain ⟨hgap, hsep'⟩ := hsep
    obtain ⟨hdw, hd'⟩ := List.pairwise_cons.1 hd
    obtain ⟨i, k, hname⟩ := hn w List.mem_cons_self
    have htext : text (w :: ws) = w.octets ++ text ws := List.flatMap_cons
    rw [htext] at h
    rw [keyLoop_succ]
    rcases keyRound_pair hs hh w hname (fun ht => hgap fun hws => ht (by rw [hws]; rfl)) h with
      ⟨hr, hset⟩ | ⟨key', pl', front', s', hr, ⟨x, rfl⟩, ha, hset, ⟨p, hstr, hkept⟩, hreq, hcan, hhandle⟩
    · rw [hr]
      exact .inl ⟨rfl, w, List.mem_cons_self, i, k, hname, hset⟩
    rw [hr]
    have hk := hname.2.1
    -- the others name other keys, and find the table as it was
    have hother {w' : Written} (hw : w' ∈ ws) {j : Nat} {k' : String × val_key_t}
        (hnm : w'.pair.Names keys j k') : i ≠ j := by
      rintro rfl
      exact hdw w' hw (hname.1.trans hnm.1.symm)
    have hnames := names_set hk key'
    have hsingle : Keys.singleCanStr (keys.set i (k.1, key')) = false := by
      unfold Keys.singleCanStr at hs ⊢
      rw [List.length_set, any_set hk (show (k.1, key').2.can_str = k.2.can_str from hcan)]
      exact hs
    have htoken : Keys.TokenOnly (keys.set i (k.1, key')) := by
      intro k' hm f hf
      rcases List.mem_or_eq_of_mem_set hm with hold | rfl
      · exact hh k' hold f hf
      · exact hh k (List.mem_of_getElem? hk) f (hhandle ▸ hf)
    have hn' : ∀ w' ∈ ws, ∃ j k', w'.pair.Names (keys.set i (k.1, key')) j k' := by
      intro w' hw
      obtain ⟨j, k', hnm⟩ := hn w' (List.mem_cons_of_mem w hw)
      exact ⟨j, k', (names_of_set hk key' (hother hw hnm)).2 hnm⟩
    have hback {w' : Written} (hw : w' ∈ ws) {j : Nat} {k' : String × val_key_t}
        (hnm : w'.pair.Names (keys.set i (k.1, key')) j k') : w'.pair.Names keys j k' := by
      obtain ⟨j', k'', hold⟩ := hn w' (List.mem_cons_of_mem w hw)
      obtain rfl : j' = j := Option.some.inj (hold.1.symm.trans ((index_congr hnames _).symm.trans hnm.1))
      exact (names_of_set hk key' (hother hw hold)).1 hnm
    rcases ih n hsingle htoken hsep' hn' (hd'.imp fun h => by rwa [index_congr hnames, index_congr hnames]) ha (by
        rw [List.length_cons] at hf
        omega) with ⟨hl, w', hw, j, k', hnm, hbad⟩ | ⟨keys', rest, hl, hend, hnames', hrest, hpair⟩
    · exact .inl ⟨hl, w', List.mem_cons_of_mem w hw, j, k', hback hw hnm, hbad⟩
    right
    refine ⟨keys', x ++ rest, by rw [← List.append_assoc]; exact hl, nofun, hnames'.trans hnames, fun j hj => ?_, ?_⟩
    · have hij : i ≠ j := by
        rintro rfl
        exact hj w.pair List.mem_cons_self hname.1
      rw [hrest j fun q hq => by rw [index_congr hnames]; exact hj q (List.mem_cons_of_mem _ hq),
        List.getElem?_set_ne hij]
    · rw [← List.append_assoc]
      intro q hq j kq hnm
      rcases List.mem_cons.1 hq with rfl | hq
      · obtain rfl : i = j := Option.some.inj (hname.1.symm.trans hnm.1)
        obtain rfl : k = kq := Option.some.inj (hk.symm.trans hnm.2.1)
        refine ⟨key', s', ?_, hset, ?_, hreq⟩
        · rw [hrest i fun q hq he => ?_, List.getElem?_set_self (List.getElem?_eq_some_iff.1 hk).1]
          obtain ⟨w', hw, rfl⟩ := List.mem_map.1 hq
          rw [index_congr hnames] at he
          exact hdw w' hw (hname.1.trans he.symm)
        · -- what the key holds is in front of where the others are read
          have hheld : Buf.str (front ++ x ++ rest) p = some s' := by
            rcases hkept with hk | ⟨htx, hk⟩
            · exact str_frame rest hk
            · rw [hend (text_eq_nil htx)]
              exact hk
          unfold val_key_t.string
          rw [hstr]
          dsimp only
          rw [hheld]
          rfl
      · obtain ⟨w', hw, rfl⟩ := List.mem_map.1 hq
        exact hpair w'.pair hq j kq ((names_of_set hk key' (hother hw hnm)).2 hnm)

end Loop

/-! ## Any order -/

/-- The number and the string of a key. -/
def val_key_t.held (key : val_key_t) (buf : Buf) : Keyed (Int × List UInt8) := do return (key.num, ← key.string buf)

/-- Pairs that name different keys of a table, each with a value that its key takes. -/
structure Pairs (keys : Keys) where
  list : List Pair
  distinct : list.Pairwise fun p q => caseEq p.name.string q.name.string = false
  valid : ∀ p ∈ list, ∃ i k, p.Names keys.start i k ∧ ∃ out, k.2.settle p.value.string = .ok out

/-- Every required key is named. -/
def Keys.Complete (keys : Keys) (ps : List Pair) : Prop :=
  ∀ i k, keys[i]? = some k → k.2.req = true → ∃ p ∈ ps, keys.index p.name.string = some i

/-- What an entry of a table says with the pairs: what its key makes of the value that is
listed for it, or its defaults. -/
def Keys.result (keys : Keys) (ps : List Pair) (i : Nat) : Keyed (Int × List UInt8) :=
  match keys.start[i]? with
  | none => throw .error
  | some k =>
    match ps.find? fun p => keys.index p.name.string = some i with
    | some p => k.2.settle p.value.string
    | none => pure (k.2.dflt, [])

section Order
variable {keys : Keys}

theorem start_names (keys : Keys) : keys.start.map (·.1) = keys.map (·.1) := by
  unfold Keys.start
  rw [List.map_map]
  rfl

theorem start_index (keys : Keys) (name : List UInt8) : keys.start.index name = keys.index name :=
  index_congr (start_names keys) name

theorem start_get {i : Nat} {k : String × val_key_t} (h : keys.start[i]? = some k) :
    ∃ key, keys[i]? = some (k.1, key) ∧ k.2.req = key.req ∧
      (k.2.req = false → k.2.num = k.2.dflt ∧ k.2.str_val = .empty) := by
  unfold Keys.start at h
  rw [List.getElem?_map] at h
  obtain ⟨⟨name, key⟩, hk, rfl⟩ := Option.map_eq_some_iff.1 h
  refine ⟨key, hk, ?_⟩
  dsimp only
  cases hr : key.req with
  | true =>
    rw [if_pos rfl]
    exact ⟨hr, fun h => by rw [hr] at h; cases h⟩
  | false =>
    rw [if_neg (by decide)]
    exact ⟨rfl, fun _ => ⟨rfl, rfl⟩⟩

theorem start_tokenOnly (hh : keys.TokenOnly) : keys.start.TokenOnly := by
  intro k hm f hf
  obtain ⟨k', hm', rfl⟩ := List.mem_map.1 hm
  dsimp only at hf
  split at hf
  · exact hh k' hm' f hf
  · exact hh k' hm' f hf

/-- Names that differ in more than their case find different entries. -/
theorem index_ne (h2 : 2 ≤ keys.length) {s t : List UInt8} {i : Nat} (hs : keys.index s = some i)
    (hne : caseEq s t = false) : keys.index t ≠ some i := by
  intro ht
  have h1 : keys.length ≠ 1 := by omega
  unfold Keys.index at hs ht
  rw [if_neg h1] at hs ht
  obtain ⟨hlt, hs', -⟩ := List.findIdx?_eq_some_iff_getElem.1 hs
  obtain ⟨_, ht', -⟩ := List.findIdx?_eq_some_iff_getElem.1 ht
  unfold caseEq at hs' ht' hne
  exact absurd ((of_decide_eq_true hs').symm.trans (of_decide_eq_true ht')) (of_decide_eq_false hne)

theorem length_le_text (ws : List Written) : ws.length ≤ (text ws).length := by
  induction ws with
  | nil => exact Nat.le_refl 0
  | cons w ws ih =>
    have hpos := List.length_pos_iff.2 w.pair.name.ne
    simp only [text, List.flatMap_cons, Written.octets, List.length_append, List.length_cons] at ih ⊢
    omega

/-- The parsing of pairs ends with what the loop makes of them. -/
theorem parseKeysFunc_pairs (hs : keys.start.singleCanStr = false) (hh : keys.TokenOnly) (line : Line)
    (hn : ∀ p ∈ line.pairs, ∃ i k, p.Names keys.start i k)
    (hd : line.pairs.Pairwise fun p q => keys.index p.name.string ≠ keys.index q.name.string) (front r : List UInt8) :
    (parseKeysFunc keys (front ++ (line.octets ++ 0 :: r)) front.length = .error .error ∧
      ∃ p ∈ line.pairs, ∃ i k, p.Names keys.start i k ∧ k.2.settle p.value.string = .error .error) ∨
    ∃ keys' buf, Settled keys.start keys' buf line.pairs ∧
      parseKeysFunc keys (front ++ (line.octets ++ 0 :: r)) front.length =
        if keys'.any (·.2.req) then .error .error else .ok (keys', buf) := by
  have ha : Ahead ⟨front ++ (line.octets ++ 0 :: r), front.length, none⟩ front (text line.ws) r :=
    ⟨line.lead, by simp only [Line.octets, List.append_assoc], rfl⟩
  have hlen := length_le_text line.ws
  have hf : line.ws.length < (front ++ (line.octets ++ 0 :: r)).length + 1 := by
    simp only [Line.octets, List.length_append, List.length_cons]
    omega
  have hd' : line.ws.Pairwise fun w w' =>
      keys.start.index w.pair.name.string ≠ keys.start.index w'.pair.name.string :=
    (List.pairwise_map.1 hd).imp fun h => by rwa [start_index, start_index]
  rw [parseKeysFunc_eq]
  rcases keyLoop_pairs _ line.ws hs (start_tokenOnly hh) line.separated
    (fun w hw => hn w.pair (List.mem_map_of_mem hw)) hd' ha hf with ⟨hl, w, hw, hbad⟩ | ⟨keys', rest, hl, -, hset⟩
  · rw [hl]
    exact .inl ⟨rfl, w.pair, List.mem_map_of_mem hw, hbad⟩
  · rw [hl]
    exact .inr ⟨keys', _, hset, rfl⟩

/-- No required key is left just where all of them are named. -/
theorem Settled.complete_iff {keys' : Keys} {buf : Buf} {ps : List Pair} (h : Settled keys.start keys' buf ps)
    (hn : ∀ p ∈ ps, ∃ i k, p.Names keys.start i k) : keys'.any (·.2.req) = false ↔ keys.Complete ps := by
  constructor
  · intro hany i k hk hreq
    by_contra hno
    have hstart : keys.start[i]? =
        some (k.1, if k.2.req then k.2 else { k.2 with str_val := .empty, num := k.2.dflt }) := by
      unfold Keys.start
      rw [List.getElem?_map, hk]
      rfl
    rw [if_pos hreq, ← h.rest i fun p hp he => hno ⟨p, hp, (start_index keys _).symm.trans he⟩] at hstart
    have := List.any_eq_false.1 hany _ (List.mem_of_getElem? hstart)
    exact this hreq
  · intro hc
    refine List.any_eq_false.2 fun k' hm hreq => ?_
    obtain ⟨i, hk'⟩ := List.mem_iff_getElem?.1 hm
    by_cases hnamed : ∃ p ∈ ps, keys.start.index p.name.string = some i
    · obtain ⟨p, hp, hi⟩ := hnamed
      obtain ⟨j, k, hnm⟩ := hn p hp
      obtain rfl : j = i := Option.some.inj (hnm.1.symm.trans hi)
      obtain ⟨key', s, hget, -, -, hreq'⟩ := h.pair p hp j k hnm
      rw [hk'] at hget
      cases hget
      rw [hreq'] at hreq
      cases hreq
    · rw [h.rest i fun p hp he => hnamed ⟨p, hp, he⟩] at hk'
      obtain ⟨key, hk, hreq', -⟩ := start_get hk'
      obtain ⟨p, hp, hi⟩ := hc i _ hk (hreq'.symm.trans hreq)
      exact hnamed ⟨p, hp, (start_index keys _).trans hi⟩

theorem caseEq_symm {s t : List UInt8} (h : caseEq s t = false) : caseEq t s = false := by
  unfold caseEq at h ⊢
  exact decide_eq_false fun he => of_decide_eq_false h he.symm

/-- Different names of a table with more than one key find different entries. -/
theorem pairs_distinct (h2 : 2 ≤ keys.length) {ps : List Pair} (hn : ∀ p ∈ ps, ∃ i k, p.Names keys.start i k)
    (hd : ps.Pairwise fun p q => caseEq p.name.string q.name.string = false) :
    ps.Pairwise fun p q => keys.index p.name.string ≠ keys.index q.name.string := by
  refine hd.imp_of_mem fun {p q} hp hq hne he => ?_
  obtain ⟨i, k, hi, -⟩ := hn p hp
  rw [start_index] at hi
  exact index_ne h2 hi hne (he.symm.trans hi)

/-- The entries hold what the table says. -/
theorem Settled.held {keys' : Keys} {buf : Buf} {ps qs : List Pair} (h : Settled keys.start keys' buf qs)
    (hp : qs.Perm ps) (hn : ∀ p ∈ ps, ∃ i k, p.Names keys.start i k) (hc : keys.Complete ps) {i : Nat}
    {k' : String × val_key_t} (hk' : keys'[i]? = some k') : k'.2.held buf = keys.result ps i := by
  have hlen : keys'.length = keys.start.length := by simpa using congrArg List.length h.names
  have hlt := (List.getElem?_eq_some_iff.1 hk').1
  obtain ⟨k, hk⟩ : ∃ k, keys.start[i]? = some k := ⟨_, List.getElem?_eq_getElem (hlen ▸ hlt)⟩
  unfold Keys.result
  rw [hk]
  dsimp only
  cases hf : ps.find? fun p => keys.index p.name.string = some i with
  | some p =>
    have hmem := List.mem_of_find?_eq_some hf
    have hi : keys.index p.name.string = some i := by simpa using List.find?_some hf
    obtain ⟨j, k₂, hnm⟩ := hn p hmem
    obtain rfl : j = i := Option.some.inj (hnm.1.symm.trans ((start_index keys _).trans hi))
    obtain rfl : k₂ = k := Option.some.inj (hnm.2.1.symm.trans hk)
    obtain ⟨key', s, hget, hset, hstr, -⟩ := h.pair p (hp.mem_iff.2 hmem) j k₂ hnm
    rw [hk'] at hget
    cases hget
    dsimp only
    rw [hset]
    unfold val_key_t.held
    rw [hstr]
    rfl
  | none =>
    have hno (p : Pair) (hm : p ∈ ps) : keys.index p.name.string ≠ some i := by
      simpa using List.find?_eq_none.1 hf p hm
    rw [h.rest i fun p hm => by rw [start_index]; exact hno p (hp.mem_iff.1 hm)] at hk'
    obtain rfl : k = k' := Option.some.inj (hk.symm.trans hk')
    obtain ⟨key, hget, hreq, hdflt⟩ := start_get hk
    have hfree : k.2.req = false := by
      by_contra hr
      obtain ⟨p, hm, hi⟩ := hc i _ hget (by rw [← hreq]; simpa using hr)
      exact hno p hm hi
    obtain ⟨hnum, hstr⟩ := hdflt hfree
    unfold val_key_t.held val_key_t.string
    rw [hnum, hstr]
    rfl

end Order

/-- The pairs can be written in any order: with all required keys among them each key holds what
the table says, which does not depend on the line, and else the command is refused. -/
theorem parseKeysFunc_any_order {keys : Keys} (h2 : 2 ≤ keys.length) (hh : keys.TokenOnly) (ps : Pairs keys)
    (line : Line)
    (hp : line.pairs.Perm ps.list) (front r : List UInt8) :
    (keys.Complete ps.list → ∃ keys' buf,
      parseKeysFunc keys (front ++ (line.octets ++ 0 :: r)) front.length = .ok (keys', buf) ∧
      keys'.map (·.1) = keys.map (·.1) ∧ ∀ i k', keys'[i]? = some k' → k'.2.held buf = keys.result ps.list i) ∧
    (¬ keys.Complete ps.list →
      parseKeysFunc keys (front ++ (line.octets ++ 0 :: r)) front.length = .error .error) := by
  have hn : ∀ p ∈ ps.list, ∃ i k, p.Names keys.start i k := fun p hm =>
    have ⟨i, k, hnm, _⟩ := ps.valid p hm
    ⟨i, k, hnm⟩
  have hnl : ∀ p ∈ line.pairs, ∃ i k, p.Names keys.start i k := fun p hm => hn p (hp.mem_iff.1 hm)
  have hd := (hp.pairwise_iff fun {p q} h => caseEq_symm h).2 ps.distinct
  have hs : keys.start.singleCanStr = false := by
    have hlen : keys.start.length ≠ 1 := by
      rw [show keys.start.length = keys.length from List.length_map ..]
      omega
    simp [Keys.singleCanStr, hlen]
  rcases parseKeysFunc_pairs hs hh line hnl (pairs_distinct h2 hnl hd) front r with
    ⟨-, p, hm, i, k, hnm, hbad⟩ | ⟨keys', buf, hset, hres⟩
  · -- every value is one that its key takes
    obtain ⟨j, k', hnm', out, hok⟩ := ps.valid p (hp.mem_iff.1 hm)
    obtain rfl : i = j := Option.some.inj (hnm.1.symm.trans hnm'.1)
    obtain rfl : k = k' := Option.some.inj (hnm.2.1.symm.trans hnm'.2.1)
    rw [hbad] at hok
    cases hok
  · have hiff : keys'.any (·.2.req) = false ↔ keys.Complete ps.list := by
      rw [hset.complete_iff hnl]
      unfold Keys.Complete
      simp only [hp.mem_iff]
    rw [hres]
    constructor
    · intro hc
      rw [if_neg (by rw [hiff.2 hc]; decide)]
      exact ⟨keys', buf, rfl, hset.names.trans (start_names keys), fun i k' hk' => hset.held hp hn hc hk'⟩
    · intro hc
      rw [if_pos (by simpa using fun h => hc (hiff.1 h))]

section DisplayName

/-- The keys of ALTERNATE_TIME_OFFSET_NAME. -/
def nameKeys : Keys := [("displayName", { can_str := true, req := true }), ("keyField", { max := 0xff, req := true })]

def namePair : Pair := ⟨.ofString "DisplayName" (by decide) (by decide),
  .quoted 34 (octets "a zone") (.inl rfl) fun c hc => of_decide_eq_true (List.all_eq_true.1
    (show (octets "a zone").all (fun c => c ≠ 0 ∧ c ≠ 92 ∧ c ≠ 34) = true by decide) c hc)⟩

def fieldPair : Pair :=
  ⟨.ofString "keyfield" (by decide) (by decide), .ofToken (.ofString "0x3" (by decide) (by decide)) (by decide)⟩

def namePairs : Pairs nameKeys where
  list := [namePair, fieldPair]
  distinct := by decide
  valid := by
    intro p hp
    rcases List.mem_cons.1 hp with rfl | hp
    · exact ⟨0, _, ⟨by decide, rfl, fun _ => rfl⟩, _, rfl⟩
    · obtain rfl := List.mem_singleton.1 hp
      exact ⟨1, _, ⟨by decide, rfl, fun h => absurd h (by decide)⟩, _, rfl⟩

theorem namePairs_complete : nameKeys.Complete namePairs.list := by
  intro i k hk hreq
  match i with
  | 0 => exact ⟨namePair, List.mem_cons_self, by decide⟩
  | 1 => exact ⟨fieldPair, List.mem_cons_of_mem _ List.mem_cons_self, by decide⟩
  | _ + 2 => cases hk

/-- The string last, and tabs between the two. -/
def nameLine : Line where
  lead := blank
  ws := [⟨fieldPair, blank, .ofString "\t" (by decide), blank_ne⟩,
    ⟨namePair, .ofString "\t" (by decide), ⟨[], nofun⟩, by decide⟩]
  separated := ⟨fun _ => by decide, fun h => absurd rfl h, trivial⟩

theorem displayName_last : ∃ keys buf, parseKeysFunc nameKeys (nameLine.octets ++ [0]) 0 = .ok (keys, buf) ∧
    keys.map (·.1) = nameKeys.map (·.1) ∧ ∀ i k, keys[i]? = some k → k.2.held buf = nameKeys.result namePairs.list i :=
  (parseKeysFunc_any_order (by decide) (fun k hk f hf => by
    rcases List.mem_cons.1 hk with rfl | hk
    · cases hf
    · obtain rfl := List.mem_singleton.1 hk
      cases hf) namePairs nameLine (.swap namePair fieldPair []) [] []).1 namePairs_complete

example : nameKeys.result namePairs.list 0 = .ok (0, octets "a zone") := rfl

example : nameKeys.result namePairs.list 1 = .ok (3, octets "0x3") := rfl

end DisplayName

end LibPmc
