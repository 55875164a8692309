import LibPmc.Command
import LibPmc.Frame
import LibPmc.Quote
/-!
# The end of the command line

`parse_quote` skips what `strchr` finds in the separators, and that includes the NUL that ends
the line. The memory behind the line belongs to other commands.
-/
namespace LibPmc

open Cstr

/-- The TLVs with a text key. -/
inductive TextTlv where
  | USER_DESCRIPTION
  | ALTERNATE_TIME_OFFSET_NAME

namespace TextTlv

def id : TextTlv → MngVals
  | .USER_DESCRIPTION => .USER_DESCRIPTION
  | .ALTERNATE_TIME_OFFSET_NAME => .ALTERNATE_TIME_OFFSET_NAME

def keys : TextTlv → Keys
  | .USER_DESCRIPTION => [("userDescription", { can_str := true })]
  | .ALTERNATE_TIME_OFFSET_NAME => [("displayName", { can_str := true, req := true }),
      ("keyField", { max := 0xff, req := true })]

end TextTlv

/-- The calls of `parse_quote` that the loop makes from a place on: for a key, for its value,
or in a later round. -/
inductive QuoteCall : Keys → Place → Place → Prop
  | key {keys : Keys} {pl : Place} (h : keys.singleCanStr = true) : QuoteCall keys pl pl
  | value {keys : Keys} {pl pl' : Place} {tkn i : Nat} {name : String} {key : val_key_t}
      (ht : nextToken keys.singleCanStr pl = .ok (some tkn, pl')) (hf : keys.find pl'.buf tkn = .ok (i, name, key))
      (hc : key.can_str = true) : QuoteCall keys pl pl'
  | later {keys keys' : Keys} {pl pl' call : Place} (h : keyRound keys pl = .ok (.next keys' pl'))
      (hc : QuoteCall keys' pl' call) : QuoteCall keys pl call

/-- Where the NUL is that ends the line. -/
def Tail.lineEnd (tail : Tail) : Nat := tail.save + (cstr (tail.buf.drop tail.save)).length

/-- In front of the end of the line there is more than separators. -/
def Place.HasToken (e : Nat) (pl : Place) : Prop := ∃ c ∈ (pl.buf.take e).drop pl.pos, toksep.contains c = false

/-- A call reads nothing behind the end of the line: it does not fault on the memory that ends
there. Without a token left, it returns 0. -/
structure Place.InLine (e : Nat) (call : Place) : Prop where
  reads : parse_quote (call.buf.take (e + 1)) call.save call.lastStr ≠ .error .fault
  ends : ¬ call.HasToken e → parse_quote call.buf call.save call.lastStr = .ok (.noTokens, call.buf)

/-- Each call stays in the line, and the TLV is the one that the line alone gives. -/
structure ScanEnds (tlv : TextTlv) (tail : Tail) : Prop where
  calls : ∀ call, QuoteCall tlv.keys.start ⟨tail.buf, tail.save, none⟩ call → call.InLine tail.lineEnd
  own : ∀ mem : BaseMngTlv, mem.id = tlv.id →
    call_data mem tail.buf tail.save = call_data mem (tail.buf.take (tail.lineEnd + 1)) tail.save

/-! ## A place on the line -/

/-- From the place on there is the rest of the line, which ends at `e`, and the memory `r`. -/
def OnLine (e : Nat) (r : List UInt8) (pl : Place) : Prop :=
  ∃ pre text, pl.buf = pre ++ (text ++ 0 :: r) ∧ pl.pos = pre.length ∧ 0 ∉ text ∧ e = pre.length + text.length

section OnLine
variable {e : Nat} {r : List UInt8} {pl : Place}

theorem OnLine.ended (h : OnLine e r pl) {p : Nat} (hp : p ≤ e) : Buf.Ended pl.buf p := by
  obtain ⟨pre, text, hb, -, -, rfl⟩ := h
  unfold Buf.Ended
  rw [hb, ← List.append_assoc, List.drop_append_of_le_length (by rw [List.length_append]; exact hp)]
  exact List.mem_append_right _ List.mem_cons_self

theorem OnLine.pos_le (h : OnLine e r pl) : pl.pos ≤ e := by
  obtain ⟨pre, text, -, hpos, -, rfl⟩ := h
  omega

theorem OnLine.length (h : OnLine e r pl) : pl.buf.length = e + 1 + r.length := by
  obtain ⟨pre, text, hb, -, -, rfl⟩ := h
  rw [hb]
  simp only [List.length_append, List.length_cons]
  omega

/-- A text is white space, and what it stands in front of. -/
theorem exists_words (text : List UInt8) : ∃ ws t, text = ws ++ t ∧ (∀ c ∈ ws, toksep.contains c = true) ∧
    ∀ c ∈ t.head?, toksep.contains c = false := by
  refine ⟨text.takeWhile toksep.contains, text.dropWhile toksep.contains, List.takeWhile_append_dropWhile.symm,
    fun c hc => List.mem_takeWhile_imp hc, fun c hc => ?_⟩
  have := List.head?_dropWhile_not toksep.contains text
  rw [hc] at this
  simpa using this

theorem hasToken_iff {pre text : List UInt8} (hb : pl.buf = pre ++ (text ++ 0 :: r)) (hpos : pl.pos = pre.length) :
    pl.HasToken (pre.length + text.length) ↔ ∃ c ∈ text, toksep.contains c = false := by
  unfold Place.HasToken
  rw [hb, hpos, ← List.append_assoc, List.take_left' (by rw [List.length_append]), List.drop_left]

/-- With a token left, `parse_quote` leaves it, takes it, or finds no end of it. -/
theorem parse_quote_onLine (h : OnLine e r pl) (ht : pl.HasToken e) :
    parse_quote pl.buf pl.save pl.lastStr = .ok (.noQuote, pl.buf) ∨
      parse_quote pl.buf pl.save pl.lastStr = .error .error ∨
      ∃ tkn next buf, parse_quote pl.buf pl.save pl.lastStr = .ok (.found tkn next, buf) ∧ tkn ≤ e ∧
        OnLine e r ⟨buf, pl.save, some next⟩ := by
  obtain ⟨pre, text, hb, hpos, h0, rfl⟩ := h
  obtain ⟨ws, t, rfl, hws, hhead⟩ := exists_words text
  have hne : t ≠ [] := by
    rintro rfl
    obtain ⟨c, hc, hs⟩ := (hasToken_iff hb hpos).1 ht
    rw [List.append_nil] at hc
    rw [hws c hc] at hs
    cases hs
  obtain ⟨q, t, rfl⟩ := List.exists_cons_of_ne_nil hne
  have hq0 : q ≠ 0 := fun hq => h0 (hq ▸ List.mem_append_right _ List.mem_cons_self)
  have hpos' : pl.lastStr.getD pl.save = pre.length := hpos
  rw [hb, List.append_assoc, List.cons_append]
  by_cases hq : q = 34 ∨ q = 39
  · right
    cases hc : closing q q (t ++ 0 :: r) with
    | none => exact absurd hc (closing_ended (List.mem_append_right _ List.mem_cons_self))
    | some o =>
      cases o with
      | none =>
        left
        rw [parse_quote_open hpos' hws hq, hc]
        rfl
      | some n =>
        right
        obtain ⟨body, rest, hsplit, -, hopen, hl⟩ := closing_sound hc
        -- the string is closed in front of the end of the line
        obtain ⟨t', rfl, rfl⟩ : ∃ t', t = body ++ q :: t' ∧ rest = t' ++ 0 :: r := by
          rcases List.append_eq_append_iff.1 hsplit with ⟨a, rfl, ha⟩ | ⟨a, rfl, ha⟩
          · cases a with
            | nil => exact absurd (List.cons.inj ha).1.symm hq0
            | cons x a =>
              obtain ⟨rfl, -⟩ := List.cons.inj ha
              exact absurd (List.mem_append_right t List.mem_cons_self) hopen.zero_notMem
          · cases a with
            | nil => exact absurd (List.cons.inj ha).1 hq0
            | cons x a =>
              obtain ⟨rfl, rfl⟩ := List.cons.inj ha
              exact ⟨a, rfl, rfl⟩
        obtain ⟨str, mid, -, hlen, hp⟩ := parse_quote_closed (t' ++ 0 :: r) hpos' hws hq hopen hl
        rw [List.append_assoc, List.cons_append]
        refine ⟨_, _, _, hp, by simp only [List.length_append, List.length_cons]; omega,
          pre ++ (ws ++ q :: (str ++ 0 :: mid)), t', by simp, ?_, ?_, ?_⟩
        · simp only [Place.pos, Option.getD_some, List.length_append, List.length_cons]
          omega
        · exact fun hm => h0 (List.mem_append_right _ (List.mem_cons_of_mem _ (List.mem_append_right _
            (List.mem_cons_of_mem _ hm))))
        · simp only [List.length_append, List.length_cons]
          omega
  · left
    exact parse_quote_bare hpos' hws hq0 (hhead q rfl) hq

theorem nextToken_false_onLine (h : OnLine e r pl) :
    (¬ pl.HasToken e ∧ ∃ pl', nextToken false pl = .ok (none, pl') ∧ OnLine e r pl') ∨
      ∃ tkn pl', nextToken false pl = .ok (some tkn, pl') ∧ tkn ≤ e ∧ OnLine e r pl' := by
  obtain ⟨pre, text, hb, hpos, h0, rfl⟩ := h
  obtain ⟨ws, t, rfl, hws, hhead⟩ := exists_words text
  rw [nextToken_false, hpos]
  cases t with
  | nil =>
    left
    rw [List.append_nil] at hb h0 ⊢
    refine ⟨fun ht => ?_, ⟨pl.buf, pre.length + ws.length, none⟩, ?_, pre ++ ws, [],
      by rw [hb]; simp, by simp [Place.pos],
      List.not_mem_nil, by simp⟩
    · obtain ⟨c, hc, hs⟩ := (hasToken_iff hb hpos).1 ht
      rw [hws c hc] at hs
      cases hs
    · rw [hb, strtok_r_end pre toksep_zero hws]
      rfl
  | cons x t =>
    right
    let word (c : UInt8) : Bool := !toksep.contains c
    have hw : ∀ c ∈ (x :: t).takeWhile word, c ≠ 0 ∧ toksep.contains c = false := fun c hc =>
      ⟨fun hz => h0 (hz ▸ List.mem_append_right _ ((List.takeWhile_sublist word).subset hc)),
        by simpa [word] using List.mem_takeWhile_imp hc⟩
    have hne : (x :: t).takeWhile word ≠ [] := by
      rw [List.takeWhile_cons_of_pos (by simpa [word] using hhead x rfl)]
      exact List.cons_ne_nil _ _
    have hsplit : (x :: t).takeWhile word ++ (x :: t).dropWhile word = x :: t := List.takeWhile_append_dropWhile
    have hstop := List.head?_dropWhile_not word (x :: t)
    generalize (x :: t).takeWhile word = w at hw hne hsplit
    generalize (x :: t).dropWhile word = l at hsplit hstop
    rw [← hsplit] at hb h0 ⊢
    refine ⟨pre.length + ws.length, ?_⟩
    cases l with
    | nil =>
      -- the end of the line ends the token
      rw [List.append_nil] at hb h0 ⊢
      refine ⟨⟨pl.buf, pre.length + ws.length + w.length, none⟩, ?_, by simp only [List.length_append]; omega,
        pre ++ (ws ++ w), [], by rw [hb]; simp, by simp [Place.pos]; omega, List.not_mem_nil, by simp⟩
      rw [hb, List.append_assoc, strtok_r_token pre hws hw hne (.inl rfl)]
      rfl
    | cons c l =>
      have hsep : toksep.contains c = true := by simpa [word] using hstop
      have hc0 : c ≠ 0 := fun hz => h0 (hz ▸ List.mem_append_right _ (List.mem_append_right _ List.mem_cons_self))
      refine ⟨⟨pre ++ (ws ++ (w ++ 0 :: (l ++ 0 :: r))), pre.length + ws.length + w.length + 1, none⟩, ?_,
        by simp only [List.length_append]; omega, pre ++ (ws ++ (w ++ [0])), l, by simp, by simp [Place.pos]; omega,
        fun hm => h0 (List.mem_append_right _ (List.mem_append_right _ (List.mem_cons_of_mem _ hm))),
        by simp only [List.length_append, List.length_cons, List.length_nil]; omega⟩
      rw [hb, List.append_assoc, List.append_assoc, List.cons_append, strtok_r_token pre hws hw hne (.inr hsep),
        if_neg hc0]
      rfl

/-- So the next token is there, unless there is none or no end of it. -/
theorem nextToken_onLine (can_str : Bool) (h : OnLine e r pl) (ht : can_str = true → pl.HasToken e) :
    nextToken can_str pl = .error .error ∨
      (can_str = false ∧ ∃ pl', nextToken can_str pl = .ok (none, pl') ∧ OnLine e r pl') ∨
      ∃ tkn pl', nextToken can_str pl = .ok (some tkn, pl') ∧ tkn ≤ e ∧ OnLine e r pl' := by
  cases can_str with
  | false =>
    rcases nextToken_false_onLine h with ⟨-, hn⟩ | hs
    · exact .inr (.inl ⟨rfl, hn⟩)
    · exact .inr (.inr hs)
  | true =>
    rw [nextToken_true]
    rcases parse_quote_onLine h (ht rfl) with hq | hq | ⟨tkn, next, buf, hq, hle, hl⟩
    · rw [hq]
      rcases nextToken_false_onLine h with ⟨hn, -⟩ | hs
      · exact absurd (ht rfl) hn
      · exact .inr (.inr hs)
    · rw [hq]
      exact .inl rfl
    · rw [hq]
      exact .inr (.inr ⟨tkn, _, rfl, hle, hl⟩)

/-- Without one, the call reads behind the end. -/
theorem parse_quote_onLine_end (h : OnLine e [] pl) (hn : ¬ pl.HasToken e) :
    parse_quote pl.buf pl.save pl.lastStr = .error .fault := by
  obtain ⟨pre, text, hb, hpos, -, rfl⟩ := h
  have hws : ∀ c ∈ text ++ [0], decide (c = 0 ∨ toksep.contains c = true) = true := by
    intro c hc
    refine decide_eq_true ?_
    rcases List.mem_append.1 hc with hc | hc
    · right
      by_contra hs
      exact hn ((hasToken_iff hb hpos).2 ⟨c, hc, by simpa using hs⟩)
    · exact .inl (List.mem_singleton.1 hc)
  have hskip := Buf.skip_append (l := []) (f := fun c => c = 0 ∨ toksep.contains c) pre hws nofun
  rw [List.append_nil] at hskip
  have hcur : (pre ++ (text ++ [0]))[pre.length + (text ++ [0]).length]? = none :=
    List.getElem?_eq_none (by rw [List.length_append])
  unfold parse_quote
  dsimp only
  rw [show pl.lastStr.getD pl.save = pre.length from hpos, hb, hskip, hcur]
  rfl

theorem OnLine.cut (h : OnLine e r pl) : OnLine e [] { pl with buf := pl.buf.take (e + 1) } ∧
    pl.buf = pl.buf.take (e + 1) ++ r := by
  obtain ⟨pre, text, hb, hpos, h0, rfl⟩ := h
  have hsplit : pl.buf = (pre ++ (text ++ [0])) ++ r := by rw [hb]; simp
  have hcut : pl.buf.take (pre.length + text.length + 1) = pre ++ (text ++ [0]) := by
    rw [hsplit]
    exact List.take_left' (by simp; omega)
  rw [hcut]
  exact ⟨⟨pre, text, rfl, hpos, h0, rfl⟩, hsplit⟩

theorem hasToken_cut : ({ pl with buf := pl.buf.take (e + 1) } : Place).HasToken e ↔ pl.HasToken e := by
  unfold Place.HasToken
  rw [List.take_take, Nat.min_eq_left (Nat.le_succ e)]
  rfl

/-- A call does what it should just where a token is left. -/
theorem inLine_iff (h : OnLine e r pl) : pl.InLine e ↔ pl.HasToken e := by
  obtain ⟨hcut, -⟩ := h.cut
  constructor
  · intro hl
    by_contra hn
    exact hl.reads (parse_quote_onLine_end hcut fun ht => hn (hasToken_cut.1 ht))
  · intro ht
    refine ⟨?_, fun hn => absurd ht hn⟩
    rcases parse_quote_onLine hcut (hasToken_cut.2 ht) with hq | hq | ⟨tkn, next, buf, hq, -⟩
    · exact hq ▸ nofun
    · exact hq ▸ nofun
    · exact hq ▸ nofun

end OnLine

/-! ## A round on the line -/

/-- The values that the keys hold are on the line. -/
def Keys.ValuesTo (e : Nat) (keys : Keys) : Prop := ∀ k ∈ keys, ∀ p, k.2.str_val = .at p → p ≤ e

theorem find_ne_fault {keys : Keys} {buf : Buf} {tkn : Nat} (h : buf.Ended tkn) :
    keys.find buf tkn ≠ .error .fault := by
  have hentry (o : Option Nat) : keys.entry o ≠ .error .fault := by
    unfold Keys.entry
    split
    · exact nofun
    · exact nofun
  unfold Keys.find
  split
  · exact hentry _
  · rw [Buf.str_of_ended h]
    exact hentry _

section Round
variable {e : Nat} {r : List UInt8} {pl : Place} {keys : Keys}

/-- A round whose calls have their tokens stays on the line. A single text key does not let it
be the last. -/
theorem keyRound_onLine (h : OnLine e r pl) (hk : keys.Plain) (hv : keys.ValuesTo e)
    (hc : ∀ c, OnLine e r c → QuoteCall keys pl c → c.HasToken e) :
    keyRound keys pl = .error .error ∨
      (∃ keys' buf, keyRound keys pl = .ok (.ended keys' buf) ∧ keys.singleCanStr = false ∧ keys'.ValuesTo e ∧
        ∀ p ≤ e, Buf.Ended buf p) ∨
      ∃ keys' pl', keyRound keys pl = .ok (.next keys' pl') ∧ OnLine e r pl' ∧ keys'.ValuesTo e ∧
        keys'.singleCanStr = keys.singleCanStr := by
  rcases nextToken_onLine keys.singleCanStr h fun hs => hc pl h (.key hs) with
    ht | ⟨hs, pl', ht, hl⟩ | ⟨tkn, pl', ht, hle, hl⟩
  · left
    unfold keyRound
    rw [ht]
    rfl
  · refine .inr (.inl ⟨keys, pl'.buf, ?_, hs, hv, fun p hp => hl.ended hp⟩)
    unfold keyRound
    rw [ht]
    rfl
  have hround : keyRound keys pl = keys.find pl'.buf tkn >>= fun e =>
      nextToken e.2.2.can_str pl' >>= fun v =>
        if v.1 = none ∧ keys.length ≠ 1 then return .ended keys v.2.buf
        else e.2.2.take v.2.buf (v.1.getD tkn) >>= fun k =>
          if v.1 = none then return .ended (keys.set e.1 (e.2.1, k.1)) k.2
          else return .next (keys.set e.1 (e.2.1, k.1)) { v.2 with buf := k.2 } := by
    unfold keyRound
    rw [ht]
    rfl
  rw [hround]
  cases hf : keys.find pl'.buf tkn with
  | error e' =>
    cases e' with
    | error => exact .inl rfl
    | fault => exact absurd hf (find_ne_fault (hl.ended hle))
  | ok x =>
  obtain ⟨i, name, key⟩ := x
  have hmem := Keys.find_mem hf
  -- the value is set in place, and keeps what kind of key it is
  have htake (value : Option Nat) {pl'' : Place} (hl : OnLine e r pl'') (hle : value.getD tkn ≤ e) :
      key.take pl''.buf (value.getD tkn) = .error .error ∨
        ∃ key', key.take pl''.buf (value.getD tkn) = .ok (key', pl''.buf) ∧
          Keys.ValuesTo e (keys.set i (name, key')) ∧
          Keys.singleCanStr (keys.set i (name, key')) = keys.singleCanStr := by
    rw [take_read (hk _ hmem), Buf.str_of_ended (hl.ended hle)]
    change ((·, pl''.buf) <$> key.read _ _ : Keyed _) = _ ∨ ∃ key', ((·, pl''.buf) <$> key.read _ _ : Keyed _) = _ ∧ _
    rcases read_cases key (value.getD tkn) (cstr (pl''.buf.drop (value.getD tkn))) with hr | ⟨key', hr,
      hstr, -, hcan, -⟩
    · rw [hr]
      exact .inl rfl
    · rw [hr]
      refine .inr ⟨key', rfl, fun k hm p hp => ?_, ?_⟩
      · rcases List.mem_or_eq_of_mem_set hm with hold | rfl
        · exact hv k hold p hp
        · rw [hstr] at hp
          cases hp
          exact hle
      · unfold Keys.singleCanStr
        rw [List.length_set, any_set (Keys.find_entry hf) (show (name, key').2.can_str =
          (name, key).2.can_str from hcan)]
  change nextToken key.can_str pl' >>= _ = _ ∨ (∃ keys' buf, nextToken key.can_str pl' >>= _ = _ ∧ _) ∨
    ∃ keys' pl'', nextToken key.can_str pl' >>= _ = _ ∧ _
  rcases nextToken_onLine key.can_str hl fun hs => hc pl' hl (.value ht hf hs) with
    hn | ⟨hs, pl'', hn, hl'⟩ | ⟨v, pl'', hn, hle', hl'⟩
  · rw [hn]
    exact .inl rfl
  · rw [hn]
    change (if (none : Option Nat) = none ∧ keys.length ≠ 1 then _ else _ : Keyed Round) = _ ∨
      (∃ keys' buf, (if (none : Option Nat) = none ∧ keys.length ≠ 1 then _ else _ : Keyed Round) = _ ∧ _) ∨
      ∃ keys' pl', (if (none : Option Nat) = none ∧ keys.length ≠ 1 then _ else _ : Keyed Round) = _ ∧ _
    by_cases h1 : keys.length = 1
    · rw [if_neg fun hn => hn.2 h1]
      have hsingle : keys.singleCanStr = false := by
        obtain ⟨k, rfl⟩ := List.length_eq_one_iff.1 h1
        obtain rfl := List.mem_singleton.1 hmem
        simp [Keys.singleCanStr, hs]
      rcases htake none hl' hle with hbad | ⟨key', hok, hv', -⟩
      · rw [hbad]
        exact .inl rfl
      · rw [hok]
        exact .inr (.inl ⟨_, _, rfl, hsingle, hv', fun p hp => hl'.ended hp⟩)
    · rw [if_pos ⟨rfl, h1⟩]
      have hsingle : keys.singleCanStr = false := by simp [Keys.singleCanStr, h1]
      exact .inr (.inl ⟨_, _, rfl, hsingle, hv, fun p hp => hl'.ended hp⟩)
  · rw [hn]
    rcases htake (some v) hl' hle' with hbad | ⟨key', hok, hv', hcan⟩
    · left
      change (key.take pl''.buf v >>= _ : Keyed Round) = _
      rw [show key.take pl''.buf v = _ from hbad]
      rfl
    · refine .inr (.inr ⟨keys.set i (name, key'), pl'', ?_, hl', hv', hcan⟩)
      change (key.take pl''.buf v >>= _ : Keyed Round) = _
      rw [show key.take pl''.buf v = _ from hok]
      rfl

end Round

/-! ## The run -/

section Run
variable {e : Nat} {r : List UInt8} {pl call : Place} {keys : Keys}

/-- As long as each call has its token, the calls are on the line. -/
theorem calls_onLine {P : Place → Prop} (hP : ∀ c, OnLine e r c → P c → c.HasToken e) (hk : keys.Plain)
    (hv : keys.ValuesTo e) (h : OnLine e r pl) (hall : ∀ c, QuoteCall keys pl c → P c) (hc : QuoteCall keys pl call) :
    OnLine e r call := by
  induction hc with
  | key => exact h
  | @value keys pl pl' tkn i name key ht hf hcan =>
    rcases nextToken_onLine keys.singleCanStr h fun hs => hP pl h (hall pl (.key hs)) with
      hn | ⟨-, p, hn, -⟩ | ⟨t, p, hn, -, hl⟩
    · rw [hn] at ht
      cases ht
    · rw [hn] at ht
      cases ht
    · rw [hn] at ht
      cases ht
      exact hl
  | @later keys keys' pl pl' call hr hc ih =>
    rcases keyRound_onLine h hk hv fun c hl hq => hP c hl (hall c hq) with hn | ⟨k, b, hn, -⟩ | ⟨k, p, hn, hl, hv', -⟩
    · rw [hn] at hr
      cases hr
    · rw [hn] at hr
      cases hr
    · rw [hn] at hr
      cases hr
      exact ih (keyRound_plain hk hn) hv' hl fun c hq => hall c (.later hn hq)

theorem calls_inLine_iff (hk : keys.Plain) (hv : keys.ValuesTo e) (h : OnLine e r pl) :
    (∀ c, QuoteCall keys pl c → c.InLine e) ↔ ∀ c, QuoteCall keys pl c → c.HasToken e := by
  constructor
  · intro hall c hc
    have hl := calls_onLine (fun c hl hi => (inLine_iff hl).1 hi) hk hv h hall hc
    exact (inLine_iff hl).1 (hall c hc)
  · intro hall c hc
    have hl := calls_onLine (P := Place.HasToken e) (fun c _ ht => ht) hk hv h hall hc
    exact (inLine_iff hl).2 (hall c hc)

/-- On the line alone the loop has an end. -/
theorem keyLoop_onLine (n : Nat) (hk : keys.Plain) (hv : keys.ValuesTo e) (h : OnLine e [] pl)
    (hall : ∀ c, QuoteCall keys pl c → c.HasToken e) (hn : e + 1 < pl.pos + n) :
    keyLoop n keys pl = .error .error ∨ ∃ keys' buf, keyLoop n keys pl = .ok (keys', buf) ∧ keys.singleCanStr = false ∧
      keys'.ValuesTo e ∧ ∀ p ≤ e, Buf.Ended buf p := by
  induction n generalizing keys pl with
  | zero =>
    have := h.pos_le
    omega
  | succ n ih =>
    rw [keyLoop_succ]
    rcases keyRound_onLine h hk hv fun c _ hq => hall c hq with hr | ⟨keys', buf, hr, hs, hv', hb⟩ | ⟨keys', pl',
      hr, hl, hv', hs⟩
    · rw [hr]
      exact .inl rfl
    · rw [hr]
      exact .inr ⟨keys', buf, rfl, hs, hv', hb⟩
    · obtain ⟨-, hlt, -⟩ := keyRound_advances (fun k hm f hf => by rw [hk k hm] at hf; cases hf) hr
      rw [hr, ← hs]
      exact ih (keyRound_plain hk hr) hv' hl (fun c hc => hall c (.later hr hc)) (by omega)

/-- More memory behind does not change the calls. -/
theorem QuoteCall.behind (hk : keys.Plain) (hc : QuoteCall keys pl call) (r : List UInt8) :
    QuoteCall keys (pl.behind r) (call.behind r) := by
  induction hc with
  | key hs => exact .key hs
  | @value keys pl pl' tkn i name key ht hf hcan =>
    refine @QuoteCall.value _ _ _ tkn i name key ?_ ?_ hcan
    · rw [nextToken_frame r _ pl (ht ▸ nofun), ht]
      rfl
    · rw [show (pl'.behind r).buf = pl'.buf ++ r from rfl, find_frame r tkn (hf ▸ nofun), hf]
      rfl
  | @later keys keys' pl pl' call hr hc ih =>
    refine @QuoteCall.later _ keys' _ _ _ ?_ (ih (keyRound_plain hk hr))
    rw [keyRound_frame r hk pl (hr ▸ nofun), hr]
    rfl

end Run

/-! ## The TLVs -/

section Tlv
variable {tail : Tail}

theorem Tail.onLine (tail : Tail) :
    OnLine tail.lineEnd (tail.buf.drop (tail.lineEnd + 1)) ⟨tail.buf, tail.save, none⟩ := by
  have hle := Buf.ended_lt tail.ended
  have hsplit : cstr (tail.buf.drop tail.save) ++ (tail.buf.drop tail.save).dropWhile (· ≠ 0) =
      tail.buf.drop tail.save :=
    List.takeWhile_append_dropWhile
  have h0 : 0 ∉ cstr (tail.buf.drop tail.save) := fun hm => by simpa using List.mem_takeWhile_imp hm
  have hz := List.head?_dropWhile_not (· ≠ 0) (tail.buf.drop tail.save)
  have hend : tail.buf.drop (tail.save + (cstr (tail.buf.drop tail.save)).length) =
      (tail.buf.drop tail.save).dropWhile (· ≠ 0) := Buf.drop_skip tail.buf tail.save (· ≠ 0)
  unfold Tail.lineEnd
  cases hd : (tail.buf.drop tail.save).dropWhile (· ≠ 0) with
  | nil =>
    rw [hd, List.append_nil] at hsplit
    rw [hsplit] at h0
    exact absurd tail.ended h0
  | cons c l =>
    rw [hd] at hz hend hsplit
    obtain rfl : c = 0 := by simpa using hz
    refine ⟨tail.buf.take tail.save, cstr (tail.buf.drop tail.save), ?_, ?_, h0, ?_⟩
    · rw [← List.drop_drop, hend, List.drop_one, List.tail_cons, hsplit, List.take_append_drop]
    · rw [List.length_take_of_le hle.le]
      rfl
    · rw [List.length_take_of_le hle.le]

theorem TextTlv.plain (tlv : TextTlv) : tlv.keys.start.Plain := by
  cases tlv <;> simp [Keys.Plain, Keys.start, TextTlv.keys]

theorem TextTlv.valuesTo (tlv : TextTlv) (e : Nat) : tlv.keys.start.ValuesTo e := by
  cases tlv <;> simp [Keys.ValuesTo, Keys.start, TextTlv.keys]

/-- The strings of the keys are on the line. -/
theorem str_own {keys : Keys} {e : Nat} {buf : Buf} (hv : keys.ValuesTo e) (hb : ∀ p ≤ e, Buf.Ended buf p)
    (name : String)
    (r : List UInt8) : keys.str name (buf ++ r) = keys.str name buf := by
  unfold Keys.str
  cases hs : (keys.get name).str_val with
  | null => rfl
  | empty => rfl
  | «at» p =>
    unfold Keys.get at hs
    cases hl : keys.lookup name with
    | none =>
      rw [hl] at hs
      cases hs
    | some k =>
      rw [hl] at hs
      have hm : (name, k) ∈ keys := by
        obtain ⟨l, l', rfl, -⟩ := List.lookup_eq_some_iff.1 hl
        exact List.mem_append_right _ List.mem_cons_self
      have hended := hb p (hv (name, k) hm p hs)
      dsimp only
      rw [Buf.str_of_ended hended, str_frame r (Buf.str_of_ended hended)]

/-- Where each call has its token, the line and the memory behind it are parsed as the line alone. -/
theorem parse_own (tlv : TextTlv) (ht : ∀ c, QuoteCall tlv.keys.start ⟨tail.buf, tail.save, none⟩ c →
    c.HasToken tail.lineEnd) :
    (parseKeysFunc tlv.keys tail.buf tail.save = .error .error ∧
      parseKeysFunc tlv.keys (tail.buf.take (tail.lineEnd + 1)) tail.save = .error .error) ∨
    ∃ keys buf r, parseKeysFunc tlv.keys tail.buf tail.save = .ok (keys, buf ++ r) ∧
      parseKeysFunc tlv.keys (tail.buf.take (tail.lineEnd + 1)) tail.save = .ok (keys, buf) ∧
      tlv.keys.singleCanStr = false ∧ keys.ValuesTo tail.lineEnd ∧ ∀ p ≤ tail.lineEnd, Buf.Ended buf p := by
  obtain ⟨hcut, hsplit⟩ := tail.onLine.cut
  generalize tail.buf.drop (tail.lineEnd + 1) = r at hcut hsplit
  dsimp only at hcut hsplit
  have hlen := hcut.length
  dsimp only at hlen
  generalize tail.buf.take (tail.lineEnd + 1) = line at hcut hsplit hlen
  have hkeys : tlv.keys.Plain := by cases tlv <;> simp [Keys.Plain, TextTlv.keys]
  have hcan : tlv.keys.start.singleCanStr = tlv.keys.singleCanStr := by cases tlv <;> rfl
  -- the run on the line alone makes the same calls
  have hall (c : Place) (hc : QuoteCall tlv.keys.start ⟨line, tail.save, none⟩ c) :
    (c.behind r).HasToken tail.lineEnd :=
    ht _ (hsplit ▸ hc.behind tlv.plain r)
  have htoken (c : Place) (hl : OnLine tail.lineEnd [] c) (h : (c.behind r).HasToken tail.lineEnd) :
      c.HasToken tail.lineEnd := by
    have hlen := hl.length
    unfold Place.HasToken Place.behind at h
    dsimp only at h
    rwa [List.take_append_of_le_length (by rw [hlen]; omega)] at h
  have hcalls (c : Place) (hc : QuoteCall tlv.keys.start ⟨line, tail.save, none⟩ c) : c.HasToken tail.lineEnd :=
    htoken c (calls_onLine htoken tlv.plain (tlv.valuesTo _) hcut hall hc) (hall c hc)
  have hframe := parseKeysFunc_frame r hkeys line tail.save
  rw [hsplit]
  have hloop := keyLoop_onLine (line.length + 1) tlv.plain (tlv.valuesTo _) hcut hcalls (by
    simp only [Place.pos, Option.getD_none]
    omega)
  rw [hcan] at hloop
  rcases hloop with hl | ⟨keys, buf, hl, hs, hv, hb⟩
  · left
    have hp : parseKeysFunc tlv.keys line tail.save = .error .error := by
      rw [parseKeysFunc_eq, hl]
      rfl
    exact ⟨by rw [hframe (by rw [hp]; exact error_ne_fault), hp]; rfl, hp⟩
  · have hp : parseKeysFunc tlv.keys line tail.save =
        if keys.any (·.2.req) then .error .error else .ok (keys, buf) := by
      rw [parseKeysFunc_eq, hl]
      rfl
    by_cases hr : keys.any (·.2.req) = true
    · rw [if_pos hr] at hp
      exact .inl ⟨by rw [hframe (by rw [hp]; exact error_ne_fault), hp]; rfl, hp⟩
    · rw [if_neg hr] at hp
      exact .inr ⟨keys, buf, r, by rw [hframe (by rw [hp]; exact ok_ne_fault _), hp]; rfl, hp, hs, hv, hb⟩

theorem call_data_own (tlv : TextTlv) (ht : ∀ c, QuoteCall tlv.keys.start ⟨tail.buf, tail.save, none⟩ c →
    c.HasToken tail.lineEnd)
    (mem : BaseMngTlv) (hid : mem.id = tlv.id) :
    call_data mem tail.buf tail.save = call_data mem (tail.buf.take (tail.lineEnd + 1)) tail.save := by
  rcases parse_own tlv ht with ⟨hp, hp'⟩ | ⟨keys, buf, r, hp, hp', -, hv, hb⟩
  · cases tlv with
    | USER_DESCRIPTION =>
      cases mem <;> cases hid
      unfold TextTlv.keys at hp hp'
      simp only [call_data, build_USER_DESCRIPTION, hp, hp']
    | ALTERNATE_TIME_OFFSET_NAME =>
      cases mem <;> cases hid
      unfold TextTlv.keys at hp hp'
      simp only [call_data, build_ALTERNATE_TIME_OFFSET_NAME, hp, hp']
  · have hs (name : String) : keys.str name (buf ++ r) = keys.str name buf := str_own hv hb name r
    cases tlv with
    | USER_DESCRIPTION =>
      cases mem <;> cases hid
      unfold TextTlv.keys at hp hp'
      simp only [call_data, build_USER_DESCRIPTION, hp, hp']
      simp only [bind, Except.bind, hs]
    | ALTERNATE_TIME_OFFSET_NAME =>
      cases mem <;> cases hid
      unfold TextTlv.keys at hp hp'
      simp only [call_data, build_ALTERNATE_TIME_OFFSET_NAME, hp, hp']
      simp only [bind, Except.bind, hs]

/-- The scan ends with the line where each call of `parse_quote` finds a token in front of the
end, for every line of both TLVs. -/
theorem scanEnds_iff (tlv : TextTlv) (tail : Tail) : ScanEnds tlv tail ↔
    ∀ call, QuoteCall tlv.keys.start ⟨tail.buf, tail.save, none⟩ call → call.HasToken tail.lineEnd := by
  have hcalls := calls_inLine_iff tlv.plain (tlv.valuesTo _) tail.onLine
  constructor
  · intro h
    exact hcalls.1 h.calls
  · intro ht
    exact ⟨hcalls.2 ht, call_data_own tlv ht⟩

/-- A USER_DESCRIPTION command that is accepted has been read behind its end. -/
theorem accepted_reads_on {d : USER_DESCRIPTION_t} {d' : BaseMngTlv}
    (h : call_data (.USER_DESCRIPTION d) tail.buf tail.save = .ok d') : ¬ ScanEnds .USER_DESCRIPTION tail := by
  intro hs
  have ht := (calls_inLine_iff (TextTlv.plain _) (TextTlv.valuesTo _ _) tail.onLine).1 hs.calls
  rcases parse_own _ ht with ⟨hp, -⟩ | ⟨keys, buf, r, -, -, hcan, -⟩
  · unfold TextTlv.keys at hp
    simp only [call_data, build_USER_DESCRIPTION, hp] at h
    cases h
  · cases hcan

/-- The argument behind the command is taken for its value: the description is not `foo`. -/
theorem next_argument_read : ¬ ScanEnds .USER_DESCRIPTION ⟨octets "set" ++ 0 :: octets "USER_DESCRIPTION" ++ 0 ::
    octets "foo" ++ 0 :: octets "\"old\"" ++ 0 :: octets "get TIME" ++ [0], 21, by unfold Buf.Ended; decide⟩ := by
  refine @accepted_reads_on _ default (.USER_DESCRIPTION ⟨⟨0, octets "old"⟩⟩) ?_
  rfl

end Tlv

end LibPmc
