import Mathlib.Algebra.Order.Ring.Nat
import Mathlib.Data.List.Induction
import LibPmc.Os
/-!
# Waiting with a timeout

`SockBase::poll` and `SockBase::tpoll` of `sock.cpp`, and the loop of `rcv_timeout` in the pmc
tool. `tpoll` takes the time that has passed from the caller's timeout in whole milliseconds:
what a call takes beside them is never taken off.
-/
namespace LibPmc

open Os Sys

structure timeval where
  tv_sec : Int
  tv_usec : Int

inductive PollCall where
  | gettimeofday
  | select (timeout : Option timeval)

/-- `select` gives its return value, and whether the descriptor is in the set. -/
abbrev PollCall.Res : PollCall → Type
  | gettimeofday => timeval
  | select _ => Int × Bool

abbrev PollOS := Sys PollCall PollCall.Res

abbrev PollEvent := Event PollCall PollCall.Res

def timersub (a b : timeval) : timeval :=
  if a.tv_usec - b.tv_usec < 0 then ⟨a.tv_sec - b.tv_sec - 1, a.tv_usec - b.tv_usec + 1000000⟩
  else ⟨a.tv_sec - b.tv_sec, a.tv_usec - b.tv_usec⟩

/-- The timeout that `select` gets. -/
def selectTimeout (timeout_ms : UInt64) : Option timeval :=
  if timeout_ms > 0 then some ⟨(timeout_ms / 1000).toNat, (timeout_ms % 1000).toNat * 1000⟩ else none

def poll (timeout_ms : UInt64) : PollOS Bool := do
  let ret : Int × Bool ← sys (PollCall.select (selectTimeout timeout_ms))
  return decide (ret.1 > 0) && ret.2

/-- The milliseconds of a difference, as an unsigned number. -/
def pass (left : timeval) : UInt64 := UInt64.ofInt (left.tv_sec * 1000 + left.tv_usec.tdiv 1000)

/-- The result, and what the caller's timeout is left with. -/
def tpoll (timeout_ms : UInt64) : PollOS (Bool × UInt64) :=
  if timeout_ms > 0 then do
    let start ← sys .gettimeofday
    let ret ← poll timeout_ms
    let now ← sys .gettimeofday
    let pass := pass (timersub now start)
    return (ret, if timeout_ms > pass then timeout_ms - pass else 0)
  else do
    let ret ← poll timeout_ms
    return (ret, timeout_ms)

/-! ## Calls on one timeout -/

namespace timeval

def Normal (t : timeval) : Prop := 0 ≤ t.tv_usec ∧ t.tv_usec < 1000000

def micros (t : timeval) : Int := t.tv_sec * 1000000 + t.tv_usec

end timeval

/-- The clock is normal and does not go back: the call has taken `e` microseconds. Without a
timeout it is not asked. -/
inductive Took : List PollEvent → Nat → Prop
  | timed {start now : timeval} {pto : Option timeval} {ret : Int × Bool} {e : Nat} (hs : start.Normal)
      (hn : now.Normal)
      (h : now.micros = start.micros + e) :
      Took [⟨.gettimeofday, start⟩, ⟨.select pto, ret⟩, ⟨.gettimeofday, now⟩] e
  | blocked {pto : Option timeval} {ret : Int × Bool} {e : Nat} : Took [⟨.select pto, ret⟩] e

/-- One call after the other on a variable that starts with `timeout`: what they took, and
what the variable is left with. -/
inductive Calls (timeout : UInt64) : List Nat → UInt64 → Prop
  | init : Calls timeout [] timeout
  | call {es : List Nat} {t t' : UInt64} {evs : List PollEvent} {ret : Bool} {e : Nat} (h : Calls timeout es t)
      (hend : (tpoll t).Ends evs (ret, t')) (htook : Took evs e) : Calls timeout (es ++ [e]) t'

/-- As long as the variable is positive, the calls have taken less than its first value. -/
def WaitBounded (timeout : UInt64) (es : List Nat) : Prop :=
  ∀ pre t, pre <+: es → Calls timeout pre t → 0 < t → pre.sum < timeout.toNat * 1000

/-- The milliseconds of a call that are taken off. -/
def counted (e : Nat) : Nat := e / 1000 % 2 ^ 64

/-- The microseconds that are not. -/
def dropped (e : Nat) : Nat := e - counted e * 1000

theorem counted_le (e : Nat) : counted e * 1000 ≤ e := by
  have h : e / 1000 % 2 ^ 64 ≤ e / 1000 := Nat.mod_le _ _
  unfold counted
  omega

theorem sum_eq (es : List Nat) : es.sum = (es.map counted).sum * 1000 + (es.map dropped).sum := by
  induction es with
  | nil => rfl
  | cons e es ih =>
    have h := counted_le e
    simp only [List.sum_cons, List.map_cons, ih, dropped, Nat.add_mul]
    omega

/-- The difference of two readings in milliseconds, rounded down. -/
theorem pass_timersub {start now : timeval} {e : Nat} (hs : start.Normal) (hn : now.Normal)
    (h : now.micros = start.micros + e) : (pass (timersub now start)).toNat = counted e := by
  obtain ⟨hs0, hs1⟩ := hs
  obtain ⟨hn0, hn1⟩ := hn
  unfold timeval.micros at h
  have hp : (timersub now start).tv_sec * 1000 + (timersub now start).tv_usec.tdiv 1000 = ((e / 1000 : Nat) : Int) := by
    unfold timersub
    split
    · rw [Int.tdiv_eq_ediv_of_nonneg (by dsimp only; omega)]
      dsimp only
      omega
    · rw [Int.tdiv_eq_ediv_of_nonneg (by dsimp only; omega)]
      dsimp only
      omega
  unfold pass counted
  rw [hp]
  simp [UInt64.ofInt]
  omega

theorem poll_ends {t : UInt64} {evs : List PollEvent} {b : Bool} : (poll t).Ends evs b ↔
    ∃ r : Int × Bool, evs = [⟨.select (selectTimeout t), r⟩] ∧ b = (decide (r.1 > 0) && r.2) := by
  unfold poll
  rw [ends_bind_pure]
  exact exists_congr fun r => by rw [ends_sys]

/-- A call with a timeout asks the clock before and after it waits. -/
theorem tpoll_ends {t : UInt64} (ht : t > 0) {evs : List PollEvent} {b : Bool} {t' : UInt64} :
    (tpoll t).Ends evs (b, t') ↔ ∃ (start now : timeval) (r : Int × Bool),
      evs = [⟨.gettimeofday, start⟩, ⟨.select (selectTimeout t), r⟩, ⟨.gettimeofday, now⟩] ∧
      b = (decide (r.1 > 0) && r.2) ∧
      t' = if t > pass (timersub now start) then t - pass (timersub now start) else 0 := by
  unfold tpoll
  rw [if_pos ht]
  constructor
  · intro h
    obtain ⟨start, _, rfl, h1⟩ := ends_sys_bind.1 h
    obtain ⟨ret, es₁, es₂, rfl, hp, h2⟩ := ends_bind.1 h1
    obtain ⟨r, rfl, rfl⟩ := poll_ends.1 hp
    obtain ⟨now, _, rfl, h3⟩ := ends_sys_bind.1 h2
    obtain ⟨rfl, h4⟩ := ends_pure.1 h3
    obtain ⟨rfl, rfl⟩ := Prod.mk.inj h4
    exact ⟨start, now, r, rfl, rfl, rfl⟩
  · rintro ⟨start, now, r, rfl, rfl, rfl⟩
    refine ends_sys_bind.2 ⟨start, _, rfl, ends_bind.2 ⟨_, [_], [_], rfl, poll_ends.2 ⟨r, rfl, rfl⟩, ?_⟩⟩
    exact ends_sys_bind.2 ⟨now, [], rfl, ends_pure.2 ⟨rfl, rfl⟩⟩

/-- A call takes the whole milliseconds off the timeout. -/
theorem tpoll_left {t t' : UInt64} {evs : List PollEvent} {ret : Bool} {e : Nat}
    (hend : (tpoll t).Ends evs (ret, t')) (htook : Took evs e) : t'.toNat = t.toNat - counted e := by
  by_cases ht : t > 0
  · obtain ⟨start, now, r, rfl, -, rfl⟩ := (tpoll_ends ht).1 hend
    obtain ⟨hs, hn, h⟩ : start.Normal ∧ now.Normal ∧ now.micros = start.micros + e := by
      cases htook with
      | timed hs hn h => exact ⟨hs, hn, h⟩
    have hp := pass_timersub hs hn h
    split
    next hlt => rw [UInt64.toNat_sub_of_le _ _ (UInt64.le_of_lt hlt), hp]
    next hlt =>
      have hle : t.toNat ≤ (pass (timersub now start)).toNat := UInt64.le_iff_toNat_le.1 (UInt64.not_lt.1 hlt)
      rw [hp] at hle
      exact (Nat.sub_eq_zero_of_le hle).symm
  · obtain rfl : t = 0 := by simpa using UInt64.not_lt.1 ht
    unfold tpoll at hend
    rw [if_neg ht, ends_bind_pure] at hend
    obtain ⟨_, -, h⟩ := hend
    obtain ⟨-, rfl⟩ := Prod.mk.inj h
    simp

/-- After any calls, the variable has lost what they count. -/
theorem Calls.left {timeout t : UInt64} {es : List Nat} (h : Calls timeout es t) :
    t.toNat = timeout.toNat - (es.map counted).sum := by
  induction h with
  | init => rfl
  | call _ hend htook ih =>
    rw [tpoll_left hend htook, ih]
    simp [Nat.sub_sub]

theorem exists_took (t : UInt64) (e : Nat) : ∃ evs t', (tpoll t).Ends evs (true, t') ∧ Took evs e := by
  by_cases ht : t > 0
  · refine ⟨_, _, (tpoll_ends ht).2 ⟨⟨0, 0⟩, ⟨(e / 1000000 : Nat), (e % 1000000 : Nat)⟩, (1, true), rfl, rfl, rfl⟩, ?_⟩
    refine .timed ⟨by decide, by decide⟩ ⟨by dsimp only; omega, by dsimp only; omega⟩ ?_
    simp only [timeval.micros]
    omega
  · refine ⟨[⟨.select (selectTimeout t), (1, true)⟩], t, ?_, .blocked⟩
    unfold tpoll
    rw [if_neg ht]
    exact ends_bind_pure.2 ⟨true, poll_ends.2 ⟨(1, true), rfl, rfl⟩, rfl⟩

/-- Every list of times is the times of some calls. -/
theorem exists_calls (timeout : UInt64) (es : List Nat) : ∃ t, Calls timeout es t := by
  induction es using List.reverseRecOn with
  | nil => exact ⟨timeout, .init⟩
  | append_singleton es e ih =>
    obtain ⟨t, ht⟩ := ih
    obtain ⟨evs, t', hend, htook⟩ := exists_took t e
    exact ⟨t', ht.call hend htook⟩

/-- The times are such that nothing needed is dropped: at every call before the counted milliseconds
use up the timeout, the microseconds dropped so far are less than the milliseconds left. -/
def DropsLittle (timeout : UInt64) (es : List Nat) : Prop :=
  ∀ pre, pre <+: es → (pre.map counted).sum < timeout.toNat →
    (pre.map dropped).sum < (timeout.toNat - (pre.map counted).sum) * 1000

theorem wait_bounded_iff (timeout : UInt64) (es : List Nat) : WaitBounded timeout es ↔ DropsLittle timeout es := by
  have hpos {t : UInt64} {pre : List Nat} (h : Calls timeout pre t) :
      0 < t ↔ (pre.map counted).sum < timeout.toNat := by
    have hl := h.left
    rw [UInt64.lt_iff_toNat_lt, hl]
    exact Nat.sub_pos_iff_lt
  have hsum (pre : List Nat) (hlt : (pre.map counted).sum < timeout.toNat) : pre.sum < timeout.toNat * 1000 ↔
      (pre.map dropped).sum < (timeout.toNat - (pre.map counted).sum) * 1000 := by
    rw [sum_eq pre, Nat.sub_mul]
    omega
  constructor
  · intro h pre hpre hlt
    obtain ⟨t, ht⟩ := exists_calls timeout pre
    exact (hsum pre hlt).1 (h pre t hpre ht ((hpos ht).2 hlt))
  · intro h pre t hpre ht h0
    have hlt := (hpos ht).1 h0
    exact (hsum pre hlt).2 (h pre hpre hlt)

/-! ## The tool's wait for a reply -/

/-- The tool's `wait`, in milliseconds. -/
def wait : UInt64 := 500

/-- `rcv_timeout` is about to call `tpoll`, after it has waited these times and has received a
packet each time. What it was received as makes it wait on. -/
inductive Waiting : List Nat → UInt64 → Prop
  | start : Waiting [] wait
  | again {es : List Nat} {t t' : UInt64} {evs : List PollEvent} {e : Nat} {rcv : Int} (h : Waiting es t)
      (hend : (tpoll t).Ends evs (true, t')) (htook : Took evs e) (hrcv : rcv = 1) (ht : t' > 0) :
        Waiting (es ++ [e]) t'

/-- With a packet each 999 microseconds the timeout stays what it is. -/
theorem waiting_packets (n : Nat) : Waiting (List.replicate n 999) wait := by
  induction n with
  | zero => exact .start
  | succ n ih =>
    obtain ⟨evs, t', hend, htook⟩ := exists_took wait 999
    have hl := tpoll_left hend htook
    obtain rfl : t' = wait := UInt64.toNat_inj.1 (by rw [hl]; decide)
    rw [List.replicate_succ']
    exact ih.again hend htook rfl (by decide)

theorem Waiting.calls {es : List Nat} {t : UInt64} (h : Waiting es t) : Calls wait es t := by
  induction h with
  | start => exact .init
  | again _ hend htook _ _ ih => exact ih.call hend htook

/-- After 501 packets in 500499 microseconds, the tool still waits for 500 milliseconds. -/
theorem wait_not_bounded : Waiting (List.replicate 501 999) 500 ∧ (List.replicate 501 999).sum = 500499 ∧
    ¬ ∀ (timeout : UInt64) (es : List Nat), 0 < timeout → WaitBounded timeout es := by
  have hw := waiting_packets 501
  have hsum : (List.replicate 501 999).sum = 500499 := List.sum_replicate_nat
  refine ⟨hw, hsum, fun h => ?_⟩
  have hlt := h 500 (List.replicate 501 999) (by decide) _ 500 (List.prefix_refl _) hw.calls (by decide)
  rw [hsum] at hlt
  exact absurd hlt (by decide)

end LibPmc
