import LibPmc.Strtok
/-!
# The keys of a pmc command

`parseKeysFunc` of `pmc_dump.cpp` and what it calls. The rest of a command is keys with
their values, read from the buffer of the line in place: the memory is a `Buf`, from the
line on to where it ends. A read behind that, or of a string that is not there, is a
`fault`; where the functions return `true`, the result is an `error`.
-/
namespace LibPmc

open Cstr

inductive Stop where
  | error
  | fault
  deriving DecidableEq

abbrev Keyed := Except Stop

def access {α : Type} : Option α → Keyed α
  | some a => .ok a
  | none => .error .fault

def toksep : List UInt8 := octets " \t\n\r"

/-! ## Values -/

/-- A `str_val`: the null pointer, the empty literal, or a pointer into the line. -/
inductive StrVal where
  | null
  | empty
  | at (p : Nat)

/-- `handle` takes the buffer and the value, and gives the buffer and `num`. -/
structure val_key_t where
  can_str : Bool := false
  base : Nat := 0
  dflt : Int := 0
  max : Int := 0
  min : Int := 0
  req : Bool := false
  flag : Bool := false
  num : Int := 0
  got_num : Bool := false
  str_val : StrVal := .null
  handle : Option (Buf → Nat → Keyed (Int × Buf)) := none

def toupper (c : UInt8) : UInt8 := if 97 ≤ c ∧ c ≤ 122 then c - 32 else c

/-- `strcasecmp` finds no difference. -/
def caseEq (s t : List UInt8) : Bool := s.map toupper = t.map toupper

/-- `strstr` finds the second string in the first. -/
def contains (s t : List UInt8) : Bool := s.tails.any t.isPrefixOf

/-- `strtoll`: the number, cut to 64 bits, and what is behind it. -/
def strtoll (s : List UInt8) (base : Nat) : Int × List UInt8 :=
  let (num, rest) := (strtol s base).getD (0, s)
  (max (-0x8000000000000000) (min num 0x7fffffffffffffff), rest)

/-- The clock source of a token in upper case. -/
def timeSourceOf (tkn : List UInt8) : Keyed Int :=
  let is (s : String) : Bool := tkn = octets s
  let has (s : String) : Bool := contains tkn (octets s)
  if is "GNSS" then pure 0x20
  else if is "GPS" then pure 0x20
  else if is "PTP" then pure 0x40
  else if is "NTP" then pure 0x50
  else if has "ATOMIC" then pure 0x10
  else if has "RADIO" then pure 0x30
  else if has "TERR" then pure 0x30
  else if has "SERIAL" then pure 0x39
  else if has "OSCILL" then pure 0xA0
  else if has "INTERN" then pure 0xA0
  else if has "OTHER" then pure 0x90
  else if has "HAND" then pure 0x60
  else
    -- a hexadecimal integer is left
    let (num, rest) := strtoll tkn 16
    if rest ≠ [] ∨ num < 0 ∨ num > 255 then throw .error else pure num

def getTimeSource (buf : Buf) (p : Nat) : Keyed (Int × Buf) := do
  let tkn := (← access (buf.str p)).map toupper
  let num ← timeSourceOf tkn
  return (num, buf.put p tkn)

def portStateOf (tkn : List UInt8) : Keyed Int :=
  let is (s : String) : Bool := caseEq (octets s) tkn
  if is "INITIALIZING" then pure 1
  else if is "FAULTY" then pure 2
  else if is "DISABLED" then pure 3
  else if is "LISTENING" then pure 4
  else if is "PRE_MASTER" then pure 5
  else if is "MASTER" || is "SOURCE" then pure 6
  else if is "PASSIVE" then pure 7
  else if is "UNCALIBRATED" then pure 8
  else if is "SLAVE" || is "CLIENT" then pure 9
  else throw .error

def getPortState (buf : Buf) (p : Nat) : Keyed (Int × Buf) := do
  let num ← portStateOf (← access (buf.str p))
  return (num, buf)

/-- The value of a key, from the token of it. -/
def val_key_t.take (key : val_key_t) (buf : Buf) (tkn : Nat) : Keyed (val_key_t × Buf) := do
  let key := { key with str_val := .at tkn }
  match key.handle with
  | some handle =>
    let (num, buf) ← handle buf tkn
    return ({ key with num, req := false }, buf)
  | none =>
    let key := if key.flag then { key with min := 0, max := 255 } else key
    let s ← access (buf.str tkn)
    let (num, rest) := strtoll s key.base
    if rest = [] ∧ key.min ≤ num ∧ num ≤ key.max then return ({ key with got_num := true, num, req := false }, buf)
    else if key.flag then
      let on := caseEq s (octets "enable") || caseEq s (octets "on") || caseEq s (octets "true")
      return ({ key with num := if on then 1 else 0, req := false }, buf)
    else if key.can_str then return ({ key with req := false }, buf)
    else throw .error

/-! ## Quoted strings -/

/-- What a character behind a backslash stands for. An unknown escape is left as it is. -/
def escape (c : UInt8) : List UInt8 :=
  match ((octets "tnrabefv").zip [9, 10, 13, 7, 8, 0x1b, 0x0c, 0x0b]).lookup c with
  | some e => [e]
  | none => if (octets " \"?'\\").contains c then [c] else [92, c]

/-- The escapes of a string are replaced. What is written never gets past what is read, so
that the string can be read from where it is written to. -/
def unescape : List UInt8 → Option (List UInt8)
  | [] => none
  | c :: s =>
    if c = 0 then some []
    else if c = 92 then
      match s with
      | [] => none
      | e :: s => (escape e ++ ·) <$> unescape s
    else (c :: ·) <$> unescape s

/-- Where the closing quote is, behind the octet `prev`: a quote behind a backslash does not
close. There is none where the string ends first, and no memory where it does not end. -/
def closing (close : UInt8) : UInt8 → List UInt8 → Option (Option Nat)
  | _, [] => none
  | prev, c :: s =>
    if c = close ∧ prev ≠ 92 then some (some 0)
    else if c = 0 then some none
    else (Option.map (· + 1)) <$> closing close c s

/-- What `parse_quote` returns: 0 without a token, 1 without a quote, 2 with the token and
the `lastStr` behind it. Its -1 is an error. -/
inductive Quote where
  | noTokens
  | noQuote
  | found (tkn lastStr : Nat)

def parse_quote (buf : Buf) (save : Nat) (lastStr : Option Nat) : Keyed (Quote × Buf) := do
  -- `strchr` finds the 0 that ends the separators as well: the end of the line is skipped
  let cur := buf.skip (lastStr.getD save) fun c => c = 0 ∨ toksep.contains c
  let close ← access buf[cur]?
  if close = 0 then return (.noTokens, buf)
  else if close ≠ 34 ∧ close ≠ 39 then return (.noQuote, buf)
  else
    let start := cur + 1
    match ← access (closing close close (buf.drop start)) with
    | none => throw .error
    | some n =>
      let buf : Buf := buf.set (start + n) 0
      let str ← access (unescape (buf.drop start))
      return (.found start (start + n + 1), buf.put start (str ++ [0]))

/-! ## Keys -/

abbrev Keys := List (String × val_key_t)

namespace Keys

def get (keys : Keys) (name : String) : val_key_t := (keys.lookup name).getD {}

/-- The entry at an index. -/
def entry (keys : Keys) (i : Option Nat) : Keyed (Nat × String × val_key_t) :=
  match i.bind fun i => keys[i]?.map (i, ·) with
  | some e => pure e
  | none => throw .error

/-- The key that a token names, with its index. No need to search a single key. -/
def find (keys : Keys) (buf : Buf) (tkn : Nat) : Keyed (Nat × String × val_key_t) :=
  if keys.length = 1 then keys.entry (some 0)
  else do
    let tkn ← access (buf.str tkn)
    keys.entry (keys.findIdx? fun k => caseEq (octets k.1) tkn)

end Keys

/-- The variables of the loop that say where to go on. -/
structure Place where
  buf : Buf
  save : Nat
  lastStr : Option Nat

/-- The next token, with or without quotes. The loop has these steps twice: for the key and
for its value. -/
def nextToken (can_str : Bool) (pl : Place) : Keyed (Option Nat × Place) := do
  let (quote, buf) ← if can_str then parse_quote pl.buf pl.save pl.lastStr else pure (.noQuote, pl.buf)
  match quote with
  | .noTokens => return (none, { pl with buf })
  | .found tkn lastStr => return (some tkn, { pl with buf, lastStr := some lastStr })
  | .noQuote =>
    let (tkn, buf, save) ← access (strtok_r toksep buf (pl.lastStr.getD pl.save))
    return (tkn, { buf, save, lastStr := none })

/-- A round ends the loop, or leads to the next. -/
inductive Round where
  | ended (keys : Keys) (buf : Buf)
  | next (keys : Keys) (pl : Place)

def Round.go (loop : Keys → Place → Keyed (Keys × Buf)) : Round → Keyed (Keys × Buf)
  | .ended keys buf => pure (keys, buf)
  | .next keys pl => loop keys pl

/-- `singleKeyCanStr`. -/
def Keys.singleCanStr (keys : Keys) : Bool := keys.length = 1 && keys.any (·.2.can_str)

/-- The body of the loop. -/
def keyRound (keys : Keys) (pl : Place) : Keyed Round := do
  let (tkn, pl) ← nextToken keys.singleCanStr pl
  match tkn with
  | none => return .ended keys pl.buf
  | some tkn =>
    let (i, name, key) ← keys.find pl.buf tkn
    let (value, pl) ← nextToken key.can_str pl
    if value = none ∧ keys.length ≠ 1 then return .ended keys pl.buf
    else
      -- the last token of the line is the value of a single key
      let (key, buf) ← key.take pl.buf (value.getD tkn)
      let keys := keys.set i (name, key)
      if value = none then return .ended keys buf else return .next keys { pl with buf }

def keyLoop : Nat → Keys → Place → Keyed (Keys × Buf)
  | 0, _, _ => throw .fault
  | fuel + 1, keys, pl => keyRound keys pl >>= Round.go (keyLoop fuel)

def parseKeysFunc (keys : Keys) (buf : Buf) (save : Nat) : Keyed (Keys × Buf) := do
  let keys := keys.map fun (name, key) =>
    (name, if key.req then key else { key with str_val := .empty, num := key.dflt })
  let (keys, buf) ← keyLoop (buf.length + 1) keys ⟨buf, save, none⟩
  if keys.any (·.2.req) then throw .error
  else return (keys, buf)

/-! ## The rounds of the loop -/

/-- The keys as the loop finds them. -/
def Keys.start (keys : Keys) : Keys :=
  keys.map fun (name, key) => (name, if key.req then key else { key with str_val := .empty, num := key.dflt })

theorem keyLoop_succ (n : Nat) (keys : Keys) (pl : Place) :
    keyLoop (n + 1) keys pl = keyRound keys pl >>= Round.go (keyLoop n) := rfl

theorem parseKeysFunc_eq (keys : Keys) (buf : Buf) (save : Nat) :
    parseKeysFunc keys buf save = keyLoop (buf.length + 1) keys.start ⟨buf, save, none⟩ >>= fun r =>
      if r.1.any (·.2.req) then throw .error else return r := rfl

theorem bind_eq_ok {α β : Type} {x : Keyed α} {f : α → Keyed β} {b : β} (h : (x >>= f) = .ok b) :
    ∃ a, x = .ok a ∧ f a = .ok b := by
  cases x with
  | error e => cases h
  | ok a => exact ⟨a, rfl, h⟩

theorem access_eq_ok {α : Type} {o : Option α} {a : α} (h : access o = .ok a) : o = some a := by
  cases o with
  | none => cases h
  | some b => exact congrArg some (Except.ok.inj h)

theorem closing_lt {close prev : UInt8} {l : List UInt8} {n : Nat} (h : closing close prev l = some (some n)) :
    n < l.length := by
  induction l generalizing prev n with
  | nil => cases h
  | cons c l ih =>
    unfold closing at h
    split at h
    · cases h
      exact Nat.succ_pos _
    · split at h
      · cases h
      · obtain ⟨o, ho, hn⟩ := Option.map_eq_some_iff.1 h
        obtain ⟨k, rfl, rfl⟩ := Option.map_eq_some_iff.1 hn
        exact Nat.succ_lt_succ (ih ho)

theorem escape_length (c : UInt8) : (escape c).length ≤ 2 := by
  unfold escape
  split
  · exact Nat.le_succ 1
  · split
    · exact Nat.le_succ 1
    · exact le_refl 2

theorem unescape_zero (s : List UInt8) : unescape (0 :: s) = some [] := by
  unfold unescape
  rw [if_pos rfl]

theorem unescape_backslash (e : UInt8) (s : List UInt8) : unescape (92 :: e :: s) = (escape e ++ ·) <$> unescape s := by
  rw [unescape.eq_def]
  dsimp only
  rw [if_neg (by decide), if_pos rfl]

theorem unescape_cons {c : UInt8} (hc : c ≠ 0) (h92 : c ≠ 92) (s : List UInt8) :
    unescape (c :: s) = (c :: ·) <$> unescape s := by
  rw [unescape.eq_def]
  dsimp only
  rw [if_neg hc, if_neg h92]

theorem unescape_end : unescape [92] = none := by
  rw [unescape.eq_def]
  dsimp only
  rw [if_neg (by decide), if_pos rfl]

/-- What is written and its 0 are no more than what was read. -/
theorem unescape_lt {l s : List UInt8} (h : unescape l = some s) : s.length < l.length := by
  induction l using unescape.induct generalizing s with
  | case1 => cases h
  | case2 l =>
    rw [unescape_zero] at h
    cases h
    exact Nat.succ_pos _
  | case3 =>
    rw [unescape_end] at h
    cases h
  | case4 e l _ ih =>
    rw [unescape_backslash] at h
    obtain ⟨s', hs, rfl⟩ := Option.map_eq_some_iff.1 h
    have := ih hs
    have := escape_length e
    simp only [List.length_append, List.length_cons]
    omega
  | case5 c l h0 h92 ih =>
    rw [unescape_cons h0 h92] at h
    obtain ⟨s', hs, rfl⟩ := Option.map_eq_some_iff.1 h
    exact Nat.succ_lt_succ (ih hs)

/-- Where the next token is looked for. -/
def Place.pos (pl : Place) : Nat := pl.lastStr.getD pl.save

/-- What a call does that returns: the buffer stays, or the string behind a quote is written
over itself and the next token is looked for behind it. -/
theorem parse_quote_cases {buf buf' : Buf} {save : Nat} {lastStr : Option Nat} {res : Quote}
    (h : parse_quote buf save lastStr = .ok (res, buf')) :
    buf' = buf ∧ (res = .noTokens ∨ res = .noQuote) ∨
      ∃ start n str, res = .found start (start + n + 1) ∧ lastStr.getD save < start ∧ start + n < buf.length ∧
        start + str.length < buf.length ∧ buf' = Buf.put (buf.set (start + n) 0) start (str ++ [0]) := by
  unfold parse_quote at h
  dsimp only at h
  have hle := buf.le_skip (lastStr.getD save) fun c => c = 0 ∨ toksep.contains c
  generalize buf.skip (lastStr.getD save) (fun c => c = 0 ∨ toksep.contains c) = cur at hle h
  obtain ⟨close, hc, h⟩ := bind_eq_ok h
  split at h
  · cases h
    exact .inl ⟨rfl, .inl rfl⟩
  split at h
  · cases h
    exact .inl ⟨rfl, .inr rfl⟩
  obtain ⟨o, ho, h⟩ := bind_eq_ok h
  cases o with
  | none => cases h
  | some n =>
    have hn := closing_lt (access_eq_ok ho)
    rw [List.length_drop] at hn
    obtain ⟨str, hs, h⟩ := bind_eq_ok h
    have hlt := unescape_lt (access_eq_ok hs)
    rw [List.length_drop, List.length_set] at hlt
    cases h
    exact .inr ⟨cur + 1, n, str, rfl, by omega, by omega, by omega, rfl⟩

theorem parse_quote_found {buf buf' : Buf} {save tkn next : Nat} {lastStr : Option Nat}
    (h : parse_quote buf save lastStr = .ok (.found tkn next, buf')) :
    buf'.length = buf.length ∧ lastStr.getD save < next := by
  rcases parse_quote_cases h with ⟨-, hr | hr⟩ | ⟨start, n, str, hr, hpos, hn, hlt, rfl⟩
  · cases hr
  · cases hr
  · cases hr
    refine ⟨?_, by omega⟩
    have hlen : tkn + (str ++ [0]).length ≤ (buf.set (tkn + n) 0).length := by
      rw [List.length_set, List.length_append, List.length_singleton]
      omega
    rw [Buf.put_length hlen, List.length_set]

/-- Without a quoted string the buffer is left as it was. -/
theorem parse_quote_plain {buf buf' : Buf} {save : Nat} {lastStr : Option Nat}
    (h : parse_quote buf save lastStr = .ok (.noQuote, buf')) : buf' = buf := by
  rcases parse_quote_cases h with ⟨hb, -⟩ | ⟨start, n, str, hr, -⟩
  · exact hb
  · cases hr

theorem nextToken_false (pl : Place) : nextToken false pl =
    access (strtok_r toksep pl.buf pl.pos) >>= fun r => pure (r.1, ⟨r.2.1, r.2.2, none⟩) := rfl

theorem nextToken_true (pl : Place) : nextToken true pl = parse_quote pl.buf pl.save pl.lastStr >>= fun r =>
    match r with
    | (.noTokens, buf) => pure (none, { pl with buf })
    | (.found tkn lastStr, buf) => pure (some tkn, { pl with buf, lastStr := some lastStr })
    | (.noQuote, buf) => nextToken false { pl with buf } := by
  change (parse_quote pl.buf pl.save pl.lastStr >>= _ : Keyed _) = _
  refine congrArg _ (funext fun r => ?_)
  obtain ⟨quote, buf⟩ := r
  cases quote <;> rfl

/-- Each token is behind the one before. -/
theorem nextToken_advances {can_str : Bool} {pl pl' : Place} {t : Nat}
    (h : nextToken can_str pl = .ok (some t, pl')) :
    pl'.buf.length = pl.buf.length ∧ pl.pos < pl'.pos := by
  -- without a quote it is a token of `strtok_r`
  have plain (h : (access (strtok_r toksep pl.buf pl.pos) >>= fun r =>
      pure (r.1, (⟨r.2.1, r.2.2, none⟩ : Place)) : Keyed (Option Nat × Place)) = .ok (some t, pl')) :
      pl'.buf.length = pl.buf.length ∧ pl.pos < pl'.pos := by
    obtain ⟨⟨o, b, q⟩, hs, h⟩ := bind_eq_ok h
    cases h
    obtain ⟨hlen, hlt, -⟩ := strtok_r_advances (access_eq_ok hs)
    exact ⟨hlen, hlt⟩
  unfold nextToken at h
  cases can_str with
  | false => exact plain h
  | true =>
    obtain ⟨⟨quote, buf⟩, hq, h⟩ := bind_eq_ok h
    cases quote with
    | noTokens => cases h
    | found tkn lastStr =>
      cases h
      exact parse_quote_found hq
    | noQuote =>
      obtain rfl := parse_quote_plain hq
      exact plain h

/-- The value of a key without a handler, from the string of its token. -/
def val_key_t.read (key : val_key_t) (tkn : Nat) (s : List UInt8) : Keyed val_key_t :=
  let key := { key with str_val := .at tkn }
  let key := if key.flag then { key with min := 0, max := 255 } else key
  let (num, rest) := strtoll s key.base
  if rest = [] ∧ key.min ≤ num ∧ num ≤ key.max then pure { key with got_num := true, num, req := false }
  else if key.flag then
    let on := caseEq s (octets "enable") || caseEq s (octets "on") || caseEq s (octets "true")
    pure { key with num := if on then 1 else 0, req := false }
  else if key.can_str then pure { key with req := false }
  else throw .error

theorem take_read {key : val_key_t} (hk : key.handle = none) (buf : Buf) (tkn : Nat) :
    key.take buf tkn = access (buf.str tkn) >>= fun s => (·, buf) <$> key.read tkn s := by
  unfold val_key_t.take val_key_t.read
  simp only [hk]
  refine congrArg _ (funext fun s => ?_)
  cases key.flag with
  | true =>
    simp only [if_true]
    split
    · rfl
    · rfl
  | false =>
    simp only [Bool.false_eq_true, if_false]
    split
    · rfl
    · split
      · rfl
      · rfl

/-- A value is refused, or the key holds it and is otherwise the key it was. -/
theorem read_cases (key : val_key_t) (tkn : Nat) (s : List UInt8) : key.read tkn s = .error .error ∨
    ∃ key', key.read tkn s = .ok key' ∧ key'.str_val = .at tkn ∧ key'.handle = key.handle ∧
      key'.can_str = key.can_str ∧ key'.req = false := by
  unfold val_key_t.read
  cases key.flag with
  | true =>
    simp only [if_true]
    split
    · exact .inr ⟨_, rfl, rfl, rfl, rfl, rfl⟩
    · exact .inr ⟨_, rfl, rfl, rfl, rfl, rfl⟩
  | false =>
    simp only [Bool.false_eq_true, if_false]
    split
    · exact .inr ⟨_, rfl, rfl, rfl, rfl, rfl⟩
    · split
      · exact .inr ⟨_, rfl, rfl, rfl, rfl, rfl⟩
      · exact .inl rfl

theorem any_set {α : Type} {f : α → Bool} {l : List α} {i : Nat} {a b : α} (h : l[i]? = some a) (hf : f b = f a) :
    (l.set i b).any f = l.any f := by
  induction l generalizing i with
  | nil => cases h
  | cons x l ih =>
    cases i with
    | zero =>
      cases h
      rw [List.set_cons_zero, List.any_cons, List.any_cons, hf]
    | succ i =>
      rw [List.set_cons_succ, List.any_cons, List.any_cons, ih h]

/-- A handler may change the octets of the buffer, not their number. -/
def KeepsLength (handle : Buf → Nat → Keyed (Int × Buf)) : Prop :=
  ∀ buf p num buf', handle buf p = .ok (num, buf') → buf'.length = buf.length

theorem getPortState_keeps : KeepsLength getPortState := by
  intro buf p num buf' h
  obtain ⟨s, -, h⟩ := bind_eq_ok h
  obtain ⟨n, -, h⟩ := bind_eq_ok h
  cases h
  rfl

theorem getTimeSource_keeps : KeepsLength getTimeSource := by
  intro buf p num buf' h
  obtain ⟨s, hs, h⟩ := bind_eq_ok h
  obtain ⟨n, -, h⟩ := bind_eq_ok h
  cases h
  have hstr := access_eq_ok hs
  unfold Buf.str at hstr
  split at hstr
  · next h0 =>
    cases hstr
    have hle : (cstr (buf.drop p)).length ≤ (buf.drop p).length := (List.takeWhile_sublist _).length_le
    have hp := Buf.ended_lt (show buf.Ended p from h0)
    rw [List.length_drop] at hle
    exact Buf.put_length (by rw [List.length_map]; omega)
  · cases hstr

theorem take_length {key key' : val_key_t} {buf buf' : Buf} {tkn : Nat} (hk : ∀ f ∈ key.handle, KeepsLength f)
    (h : key.take buf tkn = .ok (key', buf')) : buf'.length = buf.length ∧ key'.handle = key.handle := by
  unfold val_key_t.take at h
  cases hh : key.handle with
  | some f =>
    simp only [hh] at h
    obtain ⟨⟨num, b⟩, hf, h⟩ := bind_eq_ok h
    cases h
    exact ⟨hk f hh buf tkn num b hf, rfl⟩
  | none =>
    cases hf : key.flag with
    | true =>
      simp only [hh, hf, if_true] at h
      obtain ⟨s, -, h⟩ := bind_eq_ok h
      split at h <;> cases h <;> exact ⟨rfl, rfl⟩
    | false =>
      simp only [hh, hf, Bool.false_eq_true, if_false] at h
      obtain ⟨s, -, h⟩ := bind_eq_ok h
      split at h
      · cases h
        exact ⟨rfl, rfl⟩
      · split at h
        · cases h
          exact ⟨rfl, rfl⟩
        · cases h

theorem bind_congr_ok {α β : Type} {x : Keyed α} {f g : α → Keyed β} (h : ∀ a, x = .ok a → f a = g a) :
    (x >>= f) = (x >>= g) := by
  cases x with
  | error e => rfl
  | ok a => exact h a rfl

/-- Behind the memory there is no token. -/
theorem nextToken_behind {can_str : Bool} {pl : Place} (h : pl.buf.length < pl.pos) :
    nextToken can_str pl = .error .fault := by
  have hnone (f : UInt8 → Bool) : pl.buf[pl.buf.skip pl.pos f]? = none := by
    rw [List.getElem?_eq_none_iff]
    have := pl.buf.le_skip pl.pos f
    omega
  unfold nextToken
  cases can_str with
  | false =>
    have hs : strtok_r toksep pl.buf pl.pos = none := by
      unfold strtok_r
      dsimp only
      rw [hnone]
      rfl
    change (access (strtok_r toksep pl.buf pl.pos) >>= _ : Keyed _) = _
    rw [hs]
    rfl
  | true =>
    have hq : parse_quote pl.buf pl.save pl.lastStr = .error .fault := by
      unfold parse_quote
      dsimp only
      rw [show pl.lastStr.getD pl.save = pl.pos from rfl, hnone]
      rfl
    rw [if_pos rfl, hq]
    rfl

theorem keyLoop_behind (n : Nat) (keys : Keys) {pl : Place} (h : pl.buf.length < pl.pos) :
    keyLoop n keys pl = .error .fault := by
  cases n with
  | zero => rfl
  | succ n =>
    unfold keyLoop keyRound
    rw [nextToken_behind h]
    rfl

theorem Keys.find_entry {keys : Keys} {buf : Buf} {tkn i : Nat} {k : String × val_key_t}
    (h : keys.find buf tkn = .ok (i, k)) : keys[i]? = some k := by
  have hentry {o : Option Nat} (h : keys.entry o = .ok (i, k)) : keys[i]? = some k := by
    unfold Keys.entry at h
    split at h
    · next e he =>
      cases h
      obtain ⟨j, -, hj⟩ := Option.bind_eq_some_iff.1 he
      obtain ⟨k', hk, hjk⟩ := Option.map_eq_some_iff.1 hj
      cases hjk
      exact hk
    · cases h
  unfold Keys.find at h
  split at h
  · exact hentry h
  · obtain ⟨s, -, h⟩ := bind_eq_ok h
    exact hentry h

theorem Keys.find_mem {keys : Keys} {buf : Buf} {tkn i : Nat} {k : String × val_key_t}
    (h : keys.find buf tkn = .ok (i, k)) : k ∈ keys := List.mem_of_getElem? (Keys.find_entry h)

/-- A round that goes on took a name and its value, and set the key of the name. -/
theorem keyRound_next {keys keys' : Keys} {pl pl' : Place} (h : keyRound keys pl = .ok (.next keys' pl')) :
    ∃ tkn p i name key value p' key' buf, nextToken keys.singleCanStr pl = .ok (some tkn, p) ∧
      keys.find p.buf tkn = .ok (i, name, key) ∧ nextToken key.can_str p = .ok (some value, p') ∧
      key.take p'.buf value = .ok (key', buf) ∧ keys' = keys.set i (name, key') ∧ pl' = { p' with buf } := by
  unfold keyRound at h
  obtain ⟨⟨tkn, p⟩, ht, h⟩ := bind_eq_ok h
  cases tkn with
  | none => cases h
  | some tkn =>
    obtain ⟨⟨i, name, key⟩, he, h⟩ := bind_eq_ok h
    obtain ⟨⟨value, p'⟩, hv, h⟩ := bind_eq_ok h
    dsimp only at h
    split at h
    · cases h
    obtain ⟨⟨key', buf⟩, htake, h⟩ := bind_eq_ok h
    cases value with
    | none => cases h
    | some value =>
      cases h
      exact ⟨tkn, p, i, name, key, value, p', key', buf, ht, he, hv, htake, rfl, rfl⟩

/-- A round moves on by a token at least. -/
theorem keyRound_advances {keys keys' : Keys} {pl pl' : Place} (hk : ∀ k ∈ keys, ∀ f ∈ k.2.handle, KeepsLength f)
    (h : keyRound keys pl = .ok (.next keys' pl')) :
    pl'.buf.length = pl.buf.length ∧ pl.pos < pl'.pos ∧ ∀ k ∈ keys', ∀ f ∈ k.2.handle, KeepsLength f := by
  obtain ⟨tkn, p, i, name, key, value, p', key', buf, ht, he, hv, htake, rfl, rfl⟩ := keyRound_next h
  obtain ⟨hlen, hlt⟩ := nextToken_advances ht
  obtain ⟨hlen', hlt'⟩ := nextToken_advances hv
  obtain ⟨hbuf, hhandle⟩ := take_length (hk (name, key) (Keys.find_mem he)) htake
  refine ⟨by simp only; omega, lt_trans hlt hlt', fun k hmem => ?_⟩
  rcases List.mem_or_eq_of_mem_set hmem with hold | rfl
  · exact hk k hold
  · exact hhandle ▸ hk (name, key) (Keys.find_mem he)

/-- With more rounds than octets left, their number does not matter. -/
theorem keyLoop_fuel {n m : Nat} {keys : Keys} {pl : Place} (hk : ∀ k ∈ keys, ∀ f ∈ k.2.handle, KeepsLength f)
    (hn : pl.buf.length < pl.pos + n) (hm : pl.buf.length < pl.pos + m) : keyLoop n keys pl = keyLoop m keys pl := by
  induction n generalizing m keys pl with
  | zero => rw [keyLoop_behind m keys hn, keyLoop_behind 0 keys hn]
  | succ n ih =>
    cases m with
    | zero => rw [keyLoop_behind (n + 1) keys hm, keyLoop_behind 0 keys hm]
    | succ m =>
      rw [keyLoop_succ, keyLoop_succ]
      refine bind_congr_ok fun round hr => ?_
      cases round with
      | ended keys' buf => rfl
      | next keys' pl' =>
        -- there is less to go
        obtain ⟨hlen, hlt, hk'⟩ := keyRound_advances hk hr
        exact ih hk' (by omega) (by omega)

/-! ## A single flag -/

theorem toksep_zero : toksep.contains 0 = false := by decide

/-- A key that takes any token. -/
structure val_key_t.IsFlag (key : val_key_t) : Prop where
  flag : key.flag = true
  can_str : key.can_str = false
  handle : key.handle = none

section Flag
variable {key : val_key_t} {name : String} {buf : Buf}

theorem take_flag (hk : key.IsFlag) {tkn : Nat} (h : buf.Ended tkn) :
    ∃ key', key.take buf tkn = .ok (key', buf) ∧ key'.IsFlag ∧ key'.req = false := by
  obtain ⟨hflag, hstr, hhandle⟩ := hk
  unfold val_key_t.take
  simp only [hhandle, hflag, if_true, Buf.str_of_ended h]
  by_cases hn : (strtoll (cstr (buf.drop tkn)) key.base).2 = [] ∧ 0 ≤ (strtoll (cstr (buf.drop tkn)) key.base).1 ∧
      (strtoll (cstr (buf.drop tkn)) key.base).1 ≤ 255
  · exact ⟨_, if_pos hn, ⟨rfl, hstr, rfl⟩, rfl⟩
  · exact ⟨_, if_neg hn, ⟨rfl, hstr, rfl⟩, rfl⟩

/-- A token without quotes is one of `strtok_r`. -/
theorem nextToken_plain {save : Nat} (h : buf.Ended save) :
    (∃ q, nextToken false ⟨buf, save, none⟩ = .ok (none, ⟨buf, q, none⟩)) ∨
      ∃ t buf' q, nextToken false ⟨buf, save, none⟩ = .ok (some t, ⟨buf', q, none⟩) ∧ buf'.length = buf.length ∧
        save < q ∧ Buf.Ended buf' t ∧ Buf.Ended buf' q := by
  unfold nextToken
  rcases strtok_r_spec toksep_zero h with ⟨q, hs, -⟩ | ⟨t, b, q, hs, hlen, hle, hlt, ht, hq⟩
  · refine .inl ⟨q, ?_⟩
    simp only [Bool.false_eq_true, if_false, Option.getD_none, pure_bind, hs]
    rfl
  · refine .inr ⟨t, b, q, ?_, hlen, by omega, ht, hq⟩
    simp only [Bool.false_eq_true, if_false, Option.getD_none, pure_bind, hs]
    rfl

/-- The loop takes every token of the line for it. -/
theorem keyLoop_flag (fuel : Nat) (hk : key.IsFlag) (hreq : key.req = false) {save : Nat} (h : buf.Ended save)
    (hf : buf.length < save + fuel) :
    ∃ key' buf', keyLoop fuel [(name, key)] ⟨buf, save, none⟩ = .ok ([(name, key')], buf') ∧ key'.req = false := by
  induction fuel generalizing key buf save with
  | zero =>
    have := Buf.ended_lt h
    omega
  | succ fuel ih =>
    have hstr : Keys.singleCanStr [(name, key)] = false := by simp [Keys.singleCanStr, hk.can_str]
    unfold keyLoop keyRound
    rw [hstr]
    rcases nextToken_plain h with ⟨q, hs⟩ | ⟨t, b, q, hs, hlen, hlt, ht, hq⟩
    · rw [hs]
      exact ⟨key, buf, rfl, hreq⟩
    rw [hs]
    change ∃ key' buf', (nextToken key.can_str ⟨b, q, none⟩ >>= _) >>= _ = Except.ok ([(name, key')], buf') ∧ _
    rw [hk.can_str]
    rcases nextToken_plain hq with ⟨q', hs'⟩ | ⟨v, b', q', hs', hlen', hlt', hv, hq'⟩
    · obtain ⟨key', htake, hk', hreq'⟩ := take_flag hk ht
      rw [hs']
      refine ⟨key', b, ?_, hreq'⟩
      change (key.take b t >>= fun r => pure (Round.ended [(name, r.1)] r.2)) >>= _ = _
      rw [htake]
      rfl
    · obtain ⟨key', htake, hk', hreq'⟩ := take_flag hk hv
      obtain ⟨key'', buf', hl, hreq''⟩ := ih hk' hreq' hq' (by omega)
      rw [hs']
      refine ⟨key'', buf', ?_, hreq''⟩
      change (key.take b' v >>= fun r => pure (Round.next [(name, r.1)] ⟨r.2, q', none⟩)) >>= _ = _
      rw [htake]
      exact hl

/-- So the parsing of a command with a single flag always succeeds. -/
theorem parseKeysFunc_flag (name : String) {save : Nat} (h : buf.Ended save) :
    ∃ keys buf', parseKeysFunc [(name, { flag := true })] buf save = .ok (keys, buf') := by
  have hk : ({ flag := true, str_val := .empty } : val_key_t).IsFlag := ⟨rfl, rfl, rfl⟩
  obtain ⟨key', buf', hl, hreq⟩ := keyLoop_flag (buf.length + 1) hk rfl h (by omega)
  refine ⟨[(name, key')], buf', ?_⟩
  change (keyLoop (buf.length + 1) [(name, { flag := true, str_val := .empty })] ⟨buf, save, none⟩ >>= fun r =>
    if r.1.any (·.2.req) then throw .error else pure r) = _
  rw [hl]
  change (if ([(name, key')].any fun k => k.2.req) = true then _ else _) = _
  rw [if_neg (by simp [hreq])]
  rfl

end Flag

end LibPmc
