import LibPmc.Keys
/-!
# What is behind the memory

A run that does not read behind its memory does not depend on what is there: with more octets
behind, it gives the same result, and the octets are left as they are. That is shown for each
function of the parsing of keys that calls no handler.
-/
namespace LibPmc

open Cstr

/-! ## Results with a frame -/

/-- Where the first run does not fault, the second gives what `g` makes of its result. -/
def Framed {α β : Type} (g : α → β) (x : Keyed α) (y : Keyed β) : Prop := x ≠ .error .fault → y = g <$> x

section Framed
variable {α β γ δ : Type} {g : α → β} {h : γ → δ}

theorem ok_ne_fault (a : α) : (.ok a : Keyed α) ≠ .error .fault := nofun

theorem error_ne_fault : (.error .error : Keyed α) ≠ .error .fault := nofun

theorem Framed.ok (a : α) : Framed g (.ok a) (.ok (g a)) := fun _ => rfl

theorem Framed.error (e : Stop) : Framed g (.error e) (.error e) := fun _ => rfl

theorem Framed.fault (y : Keyed β) : Framed g (.error .fault) y := fun hx => absurd rfl hx

theorem Framed.bind {x : Keyed α} {y : Keyed β} {f : α → Keyed γ} {f' : β → Keyed δ} (hx : Framed g x y)
    (hf : ∀ a, x = .ok a → Framed h (f a) (f' (g a))) : Framed h (x >>= f) (y >>= f') := by
  intro hne
  cases x with
  | error e =>
    rw [hx fun he => hne (by rw [he]; rfl)]
    rfl
  | ok a =>
    rw [hx nofun]
    exact hf a rfl hne

theorem Framed.access {o o' : Option α} (ho : ∀ a, o = some a → o' = some a) : Framed id (access o) (access o') := by
  cases o with
  | none => exact .fault _
  | some a =>
    rw [ho a rfl]
    exact .ok a

end Framed

/-! ## The functions -/

section Frame
variable {buf : Buf} (r : List UInt8)

theorem drop_frame {p : Nat} (h : p ≤ buf.length) : List.drop p (buf ++ r) = buf.drop p ++ r :=
  List.drop_append_of_le_length h

theorem getElem?_frame {p : Nat} {c : UInt8} (h : buf[p]? = some c) : (buf ++ r)[p]? = some c := by
  rw [List.getElem?_append_left (List.getElem?_eq_some_iff.1 h).1, h]

theorem skip_frame {p : Nat} {f : UInt8 → Bool} (h : buf.skip p f < buf.length) :
    Buf.skip (buf ++ r) p f = buf.skip p f := by
  have hp := buf.le_skip p f
  have hd : (buf.drop p).dropWhile f ≠ [] := by
    rw [← Buf.drop_skip]
    exact fun hn => absurd (List.drop_eq_nil_iff.1 hn) (by omega)
  -- the octet where the skip stops is in front of `r`
  have hstop : ∃ c ∈ buf.drop p, f c = false := by
    obtain ⟨c, l, hc⟩ := List.exists_cons_of_ne_nil hd
    refine ⟨c, (List.dropWhile_sublist f).subset (hc ▸ List.mem_cons_self), ?_⟩
    simpa [hc] using List.head?_dropWhile_not f (buf.drop p)
  unfold Buf.skip
  rw [drop_frame r (by omega), takeWhile_append_of_stop hstop]

theorem str_frame {p : Nat} {s : List UInt8} (h : buf.str p = some s) : Buf.str (buf ++ r) p = some s := by
  unfold Buf.str at h ⊢
  split at h
  · next h0 =>
    rw [drop_frame r (Buf.ended_lt h0).le, if_pos (List.mem_append_left r h0), ← h]
    exact congrArg some (takeWhile_append_of_stop ⟨0, h0, rfl⟩ r)
  · cases h

theorem put_frame {p : Nat} {l : List UInt8} (h : p + l.length ≤ buf.length) :
    Buf.put (buf ++ r) p l = buf.put p l ++ r := by
  unfold Buf.put
  rw [List.take_append_of_le_length (by omega), drop_frame r h]
  simp only [List.append_assoc]

theorem set_frame {p : Nat} (h : p < buf.length) : List.set (buf ++ r) p 0 = buf.set p 0 ++ r :=
  List.set_append_left p 0 h

theorem strtok_r_frame {sep : List UInt8} {p q : Nat} {o : Option Nat} {b : Buf}
    (h : strtok_r sep buf p = some (o, b, q)) : strtok_r sep (buf ++ r) p = some (o, b ++ r, q) := by
  unfold strtok_r at h ⊢
  dsimp only [bind] at h ⊢
  obtain ⟨c, hc, h⟩ := Option.bind_eq_some_iff.1 h
  rw [skip_frame r (List.getElem?_eq_some_iff.1 hc).1, getElem?_frame r hc, Option.bind_some]
  split at h
  · next h0 =>
    cases h
    rw [if_pos h0]
    rfl
  · next h0 =>
    obtain ⟨d, hd, h⟩ := Option.bind_eq_some_iff.1 h
    have hlt := (List.getElem?_eq_some_iff.1 hd).1
    have hend : tokenEnd sep (buf ++ r) (buf.skip p sep.contains) = tokenEnd sep buf (buf.skip p sep.contains) :=
      skip_frame r hlt
    rw [if_neg h0, hend, getElem?_frame r hd, Option.bind_some]
    split at h
    · next hd0 =>
      cases h
      rw [if_pos hd0]
      rfl
    · next hd0 =>
      cases h
      rw [if_neg hd0, set_frame r hlt]
      rfl

theorem closing_frame {close prev : UInt8} {l : List UInt8} {o : Option Nat} (h : closing close prev l = some o) :
    closing close prev (l ++ r) = some o := by
  induction l generalizing prev o with
  | nil => cases h
  | cons c l ih =>
    rw [closing] at h
    rw [List.cons_append, closing]
    split at h
    · next hc => rw [if_pos hc, h]
    · next hc =>
      rw [if_neg hc]
      split at h
      · next h0 => rw [if_pos h0, h]
      · next h0 =>
        obtain ⟨o', ho, rfl⟩ := Option.map_eq_some_iff.1 h
        rw [if_neg h0, ih ho]
        rfl

theorem unescape_frame {l s : List UInt8} (h : unescape l = some s) : unescape (l ++ r) = some s := by
  induction l using unescape.induct generalizing s with
  | case1 => cases h
  | case2 l =>
    rw [unescape_zero] at h
    rw [List.cons_append, unescape_zero, h]
  | case3 =>
    rw [unescape_end] at h
    cases h
  | case4 e l _ ih =>
    rw [unescape_backslash] at h
    obtain ⟨s', hs, rfl⟩ := Option.map_eq_some_iff.1 h
    rw [List.cons_append, List.cons_append, unescape_backslash, ih hs]
    rfl
  | case5 c l h0 h92 ih =>
    rw [unescape_cons h0 h92] at h
    obtain ⟨s', hs, rfl⟩ := Option.map_eq_some_iff.1 h
    rw [List.cons_append, unescape_cons h0 h92, ih hs]
    rfl

theorem parse_quote_frame (save : Nat) (lastStr : Option Nat) :
    Framed (fun x => (x.1, x.2 ++ r)) (parse_quote buf save lastStr) (parse_quote (buf ++ r) save lastStr) := by
  unfold parse_quote
  dsimp only
  generalize hcur : buf.skip (lastStr.getD save) (fun c => c = 0 ∨ toksep.contains c) = cur
  by_cases hlt : cur < buf.length
  case neg =>
    rw [List.getElem?_eq_none (by omega)]
    exact .fault _
  rw [skip_frame r (by rw [hcur]; exact hlt), hcur]
  refine .bind (.access fun c hc => getElem?_frame r hc) fun close hc => ?_
  dsimp only [id]
  split
  · exact .ok (Quote.noTokens, buf)
  split
  · exact .ok (Quote.noQuote, buf)
  refine .bind (g := id) (.access fun o ho => ?_) fun o ho => ?_
  · rw [drop_frame r (by omega)]
    exact closing_frame r ho
  cases o with
  | none => exact .error _
  | some n =>
    have hn := closing_lt (access_eq_ok ho)
    rw [List.length_drop] at hn
    have hset : List.set (buf ++ r) (cur + 1 + n) 0 = buf.set (cur + 1 + n) 0 ++ r := set_frame r (by omega)
    have hd : List.drop (cur + 1) (buf.set (cur + 1 + n) 0 ++ r) = (buf.set (cur + 1 + n) 0).drop (cur + 1) ++ r :=
      drop_frame r (by rw [List.length_set]; omega)
    dsimp only [id]
    rw [hset, hd]
    refine .bind (g := id) (.access fun s hs => unescape_frame r hs) fun s hs => ?_
    have hlen := unescape_lt (access_eq_ok hs)
    rw [List.length_drop, List.length_set] at hlen
    dsimp only [id]
    rw [put_frame r (by rw [List.length_set, List.length_append, List.length_singleton]; omega)]
    exact .ok (_, _)

end Frame

/-! ## The loop -/

/-- The same place with more memory behind. -/
def Place.behind (pl : Place) (r : List UInt8) : Place := { pl with buf := pl.buf ++ r }

def Round.behind (r : List UInt8) : Round → Round
  | .ended keys buf => .ended keys (buf ++ r)
  | .next keys pl => .next keys (pl.behind r)

/-- No key calls a handler. -/
def Keys.Plain (keys : Keys) : Prop := ∀ k ∈ keys, k.2.handle = none

section Loop
variable {keys : Keys} {buf : Buf} (r : List UInt8)

theorem nextToken_frame (can_str : Bool) (pl : Place) :
    Framed (fun x => (x.1, x.2.behind r)) (nextToken can_str pl) (nextToken can_str (pl.behind r)) := by
  have hplain (pl : Place) : Framed (fun x => (x.1, x.2.behind r)) (nextToken false pl)
      (nextToken false (pl.behind r)) := by
    rw [nextToken_false, nextToken_false]
    refine .bind (g := fun x => (x.1, x.2.1 ++ r, x.2.2)) ?_ fun x _ => .ok (x.1, (⟨x.2.1, x.2.2, none⟩ : Place))
    change Framed _ _ (access (strtok_r toksep (pl.buf ++ r) pl.pos))
    cases h : strtok_r toksep pl.buf pl.pos with
    | none => exact .fault _
    | some x =>
      rw [strtok_r_frame r h]
      exact .ok x
  cases can_str with
  | false => exact hplain pl
  | true =>
    rw [nextToken_true, nextToken_true]
    refine .bind (parse_quote_frame r pl.save pl.lastStr) fun x _ => ?_
    obtain ⟨quote, b⟩ := x
    cases quote with
    | noTokens => exact .ok (none, { pl with buf := b })
    | found tkn lastStr => exact .ok (some tkn, { pl with buf := b, lastStr := some lastStr })
    | noQuote => exact hplain { pl with buf := b }

theorem find_frame (tkn : Nat) : Framed id (keys.find buf tkn) (keys.find (buf ++ r) tkn) := by
  have hentry (o : Option Nat) : Framed id (keys.entry o) (keys.entry o) := by
    cases keys.entry o with
    | error e => exact .error e
    | ok e => exact .ok e
  unfold Keys.find
  split
  · exact hentry _
  · exact .bind (.access fun s hs => str_frame r hs) fun s _ => hentry _

theorem take_frame {key : val_key_t} (hk : key.handle = none) (tkn : Nat) :
    Framed (fun x => (x.1, x.2 ++ r)) (key.take buf tkn) (key.take (buf ++ r) tkn) := by
  rw [take_read hk, take_read hk]
  refine .bind (.access fun s hs => str_frame r hs) fun s _ => ?_
  dsimp only [id]
  cases key.read tkn s with
  | error e => exact .error e
  | ok key' => exact .ok (key', buf)

theorem keyRound_frame (hk : keys.Plain) (pl : Place) :
    Framed (Round.behind r) (keyRound keys pl) (keyRound keys (pl.behind r)) := by
  unfold keyRound
  refine .bind (nextToken_frame r _ pl) fun x _ => ?_
  obtain ⟨tkn, pl⟩ := x
  cases tkn with
  | none => exact .ok (Round.ended keys pl.buf)
  | some tkn =>
    refine .bind (find_frame r tkn) fun e he => ?_
    obtain ⟨i, name, key⟩ := e
    refine .bind (nextToken_frame r key.can_str pl) fun x _ => ?_
    obtain ⟨value, pl⟩ := x
    dsimp only
    split
    · exact .ok (Round.ended keys pl.buf)
    refine .bind (take_frame r (hk (name, key) (Keys.find_mem he)) _) fun x _ => ?_
    obtain ⟨key', b⟩ := x
    dsimp only
    split
    · exact .ok (Round.ended _ b)
    · exact .ok (Round.next _ { pl with buf := b })

theorem keyRound_plain {keys' : Keys} {pl pl' : Place} (hk : keys.Plain)
    (h : keyRound keys pl = .ok (.next keys' pl')) :
    keys'.Plain := by
  obtain ⟨tkn, p, i, name, key, value, p', key', buf, -, he, -, ht, rfl, rfl⟩ := keyRound_next h
  have hkey : key.handle = none := hk (name, key) (Keys.find_mem he)
  intro k hm
  rcases List.mem_or_eq_of_mem_set hm with hold | rfl
  · exact hk k hold
  · exact (take_length (fun f hf => by rw [hkey] at hf; cases hf) ht).2.trans hkey

theorem keyLoop_frame (n : Nat) (hk : keys.Plain) (pl : Place) :
    Framed (fun x => (x.1, x.2 ++ r)) (keyLoop n keys pl) (keyLoop n keys (pl.behind r)) := by
  induction n generalizing keys pl with
  | zero => exact .fault _
  | succ n ih =>
    rw [keyLoop_succ, keyLoop_succ]
    refine .bind (keyRound_frame r hk pl) fun round hr => ?_
    cases round with
    | ended keys' b => exact .ok (keys', b)
    | next keys' pl' => exact ih (keyRound_plain hk hr) pl'

theorem start_plain (hk : keys.Plain) : keys.start.Plain := by
  intro k hm
  obtain ⟨k', hm', rfl⟩ := List.mem_map.1 hm
  dsimp only
  split
  · exact hk k' hm'
  · exact hk k' hm'

theorem parseKeysFunc_frame (hk : keys.Plain) (buf : Buf) (save : Nat) :
    Framed (fun x => (x.1, x.2 ++ r)) (parseKeysFunc keys buf save) (parseKeysFunc keys (buf ++ r) save) := by
  have hs := start_plain hk
  have hfuel : keyLoop (buf.length + 1) keys.start ⟨buf, save, none⟩ =
      keyLoop ((buf ++ r).length + 1) keys.start ⟨buf, save, none⟩ := by
    refine keyLoop_fuel (fun k hm f hf => ?_) ?_ ?_
    · rw [hs k hm] at hf
      cases hf
    · simp only [Place.pos, Option.getD_none]
      omega
    · simp only [Place.pos, Option.getD_none, List.length_append]
      omega
  rw [parseKeysFunc_eq, parseKeysFunc_eq, hfuel]
  refine .bind (keyLoop_frame r _ hs ⟨buf, save, none⟩) fun x _ => ?_
  dsimp only
  split
  · exact .error _
  · exact .ok x

end Loop

end LibPmc
