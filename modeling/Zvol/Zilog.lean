import Mathlib.Data.Fintype.Basic
import Zvol.Io.Paths

/-!
# `zvol_ensure_zilog`: the intent log under `zv_suspend_lock`

Threads that write (`zvol_strategy_impl`, `zvol_cdev_write`, the `DIOCGDELETE` ioctl) take
`zv_suspend_lock` as reader and call `zvol_ensure_zilog`, which opens the intent log on first
use: it tries to upgrade its hold to writer, or drops it and waits for the writer hold, checks
`zv_zilog` again, opens the log if it is still `NULL`, and downgrades to a reader hold. Suspend
sections take the lock as writer, close the log and set `zv_zilog` to `NULL`.

`Sys.Inv.reach`: in every run, each thread holds the lock as its point of the code says, a writer
excludes every other holder, the log is open whenever a thread is back in its caller, and the
log has been opened once more than closed exactly when `zv_zilog` is set.
-/

namespace Zvol.Zilog

/-- How a thread holds `zv_suspend_lock`: its reader holds and its writer hold. -/
structure Hold where
  readers : Nat := 0
  writer : Bool := false
  deriving DecidableEq, Repr

/-- Where a thread is, before its next step. -/
inductive Pc where
  | idle
  -- the caller: `rw_enter(&zv->zv_suspend_lock, ZVOL_RW_READER)`, then `zvol_ensure_zilog`
  | enterR | check | tryUpgrade | exitR | enterW | recheck | downgrade
  -- back in the caller: `zvol_log_write`, `zvol_log_truncate`, `zil_commit`, then `rw_exit`
  | use | exit
  -- a suspend section: `rw_enter(RW_WRITER)`, `zil_close` and `zv_zilog = NULL`, `rw_exit`
  | suspendEnter | suspendClose | suspendExit
  deriving DecidableEq, Repr

/-- A thread: where it is and how it holds the lock. -/
structure Th where
  pc : Pc := .idle
  hold : Hold := {}
  deriving DecidableEq, Repr

/-- Ghost state: the calls of `zil_open` and `zil_close`, and whether a thread released a hold
it did not have. -/
structure Ghost where
  opens : Nat := 0
  closes : Nat := 0
  fault : Bool := false
  deriving DecidableEq, Repr

/-- `zv_zilog` (set or `NULL`) and the threads. -/
structure Sys (n : Nat) where
  zilog : Bool
  th : Fin n → Th
  g : Ghost

/-- What a thread sees of the other threads' holds. -/
structure View where
  /-- No other thread holds the lock. -/
  othersFree : Bool
  /-- No thread holds the lock as writer. -/
  noWriter : Bool

variable {n : Nat}

/-- The view of thread `t` in `s`. -/
def Sys.view (s : Sys n) (t : Fin n) : View :=
  ⟨decide (∀ u, u ≠ t → (s.th u).hold = {}), decide (∀ u, (s.th u).hold.writer = false)⟩

/-- `rw_exit`: the writer hold if there is one, else a reader hold. -/
def release (g : Ghost) (h : Hold) : Hold × Ghost :=
  if h.writer then ({ h with writer := false }, g)
  else if 0 < h.readers then ({ h with readers := h.readers - 1 }, g)
  else (h, { g with fault := true })

/-- The next step of a thread, with `upgrade` saying whether `rw_tryupgrade` may succeed. -/
def threadStep (v : View) (zilog : Bool) (g : Ghost) (th : Th) (upgrade : Bool) :
    Option (Bool × Ghost × Th) :=
  let h := th.hold
  match th.pc with
  | .idle => none
  | .enterR =>
    if v.noWriter then some (zilog, g, { pc := .check, hold := { h with readers := h.readers + 1 } })
    else none
  | .check => some (zilog, g, { th with pc := if zilog then .use else .tryUpgrade })
  | .tryUpgrade =>
    if upgrade && v.othersFree && h.readers == 1 && !h.writer then
      some (zilog, g, { pc := .recheck, hold := { writer := true } })
    else some (zilog, g, { th with pc := .exitR })
  | .exitR =>
    let r := release g h
    some (zilog, r.2, { pc := .enterW, hold := r.1 })
  | .enterW =>
    if v.othersFree then some (zilog, g, { pc := .recheck, hold := { h with writer := true } })
    else none
  | .recheck =>
    if zilog then some (zilog, g, { th with pc := .downgrade })
    else some (true, { g with opens := g.opens + 1 }, { th with pc := .downgrade })
  | .downgrade =>
    some (zilog, { g with fault := g.fault || !h.writer }, { pc := .use, hold := { readers := 1 } })
  | .use => some (zilog, g, { th with pc := .exit })
  | .exit =>
    let r := release g h
    some (zilog, r.2, { pc := .idle, hold := r.1 })
  | .suspendEnter =>
    if v.othersFree then
      some (zilog, g, { pc := .suspendClose, hold := { h with writer := true } })
    else none
  | .suspendClose =>
    some (false, { g with closes := g.closes + if zilog then 1 else 0 }, { th with pc := .suspendExit })
  | .suspendExit =>
    let r := release g h
    some (zilog, r.2, { pc := .idle, hold := r.1 })

/-- `s` after thread `t` moved to `x`, with `zv_zilog` `z` and ghost state `g`. -/
def Sys.put (s : Sys n) (t : Fin n) (z : Bool) (g : Ghost) (x : Th) : Sys n :=
  ⟨z, Function.update s.th t x, g⟩

/-- The next step of thread `t`. -/
def runStep (s : Sys n) (t : Fin n) (upgrade : Bool) : Option (Sys n) :=
  (threadStep (s.view t) s.zilog s.g (s.th t) upgrade).map fun r => s.put t r.1 r.2.1 r.2.2

/-- What an idle thread starts: a write that needs the log, or a suspend section. -/
inductive Call where
  | write
  | suspend
  deriving DecidableEq, Repr

/-- An idle thread `t` starts `c`. -/
def startStep (s : Sys n) (t : Fin n) (c : Call) : Option (Sys n) :=
  if (s.th t).pc = .idle then
    some (s.put t s.zilog s.g { pc := match c with | .write => .enterR | .suspend => .suspendEnter })
  else none

/-- The states that runs reach from a log that is not open and idle threads. -/
inductive Reach : Sys n → Prop
  | init {s : Sys n} : s.zilog = false → (∀ t, s.th t = {}) → s.g = {} → Reach s
  | start {s s' : Sys n} {t : Fin n} {c : Call} : Reach s → startStep s t c = some s' → Reach s'
  | run {s s' : Sys n} {t : Fin n} {u : Bool} : Reach s → runStep s t u = some s' → Reach s'

/-! ## The invariant -/

/-- The hold a thread has at each point of the code. -/
def Pc.expect : Pc → Hold
  | .check | .tryUpgrade | .exitR | .use | .exit => { readers := 1 }
  | .recheck | .downgrade | .suspendClose | .suspendExit => { writer := true }
  | _ => {}

/-- The invariant of `zv_suspend_lock` and `zv_zilog`. -/
structure Sys.Inv (s : Sys n) : Prop where
  hold : ∀ t, (s.th t).hold = (s.th t).pc.expect
  writer : ∀ t u, (s.th t).hold.writer = true → u ≠ t → (s.th u).hold = {}
  zilog : ∀ t, ((s.th t).pc = .downgrade ∨ (s.th t).pc = .use) → s.zilog = true
  count : s.g.opens = s.g.closes + if s.zilog then 1 else 0
  fault : s.g.fault = false

variable {s s' : Sys n} {t : Fin n}

@[simp] theorem Sys.put_zilog (z : Bool) (g : Ghost) (x : Th) : (s.put t z g x).zilog = z := rfl
@[simp] theorem Sys.put_g (z : Bool) (g : Ghost) (x : Th) : (s.put t z g x).g = g := rfl
@[simp] theorem Sys.put_th_self (z : Bool) (g : Ghost) (x : Th) : (s.put t z g x).th t = x := by
  simp [Sys.put]
theorem Sys.put_th_ne {u : Fin n} (h : u ≠ t) (z : Bool) (g : Ghost) (x : Th) :
    (s.put t z g x).th u = s.th u := by
  simp [Sys.put, h]

/-- A thread that holds nothing is at no point of the caller or of a suspend section. -/
theorem Pc.expect_eq_empty {p : Pc} (h : p.expect = {}) :
    p ≠ .downgrade ∧ p ≠ .use := by
  cases p <;> simp_all [Pc.expect]

/-- The invariant after a step of `t` to `x`: `x` holds what its point says, a writer `x` finds
the others free, and a writer among the others leaves `x` with nothing. -/
theorem Sys.Inv.put (hi : s.Inv) {z : Bool} {g : Ghost} {x : Th} (hx : x.hold = x.pc.expect)
    (hw : x.hold.writer = true → ∀ u, u ≠ t → (s.th u).hold = {})
    (hw' : ∀ u, u ≠ t → (s.th u).hold.writer = true → x.hold = {})
    (hz : (x.pc = .downgrade ∨ x.pc = .use) → z = true)
    (hz' : z = false → s.zilog = true → ∀ u, u ≠ t → (s.th u).hold = {})
    (hc : g.opens = g.closes + if z then 1 else 0) (hf : g.fault = false) :
    (s.put t z g x).Inv := by
  refine ⟨fun u => ?_, fun a b ha hba => ?_, fun u hu => ?_, hc, hf⟩
  · by_cases hut : u = t
    · subst hut; simpa using hx
    · rw [Sys.put_th_ne hut]; exact hi.hold u
  · by_cases hat : a = t
    · subst hat
      rw [Sys.put_th_self] at ha
      rw [Sys.put_th_ne hba]
      exact hw ha b hba
    · rw [Sys.put_th_ne hat] at ha
      by_cases hbt : b = t
      · subst hbt; rw [Sys.put_th_self]; exact hw' a hat ha
      · rw [Sys.put_th_ne hbt]; exact hi.writer a b ha hba
  · simp only [Sys.put_zilog]
    by_cases hut : u = t
    · subst hut; exact hz (by simpa using hu)
    · rw [Sys.put_th_ne hut] at hu
      cases hzz : z
      · have hs := hi.zilog u hu
        have := hz' hzz hs u hut
        rw [hi.hold u] at this
        exact absurd hu (by have := Pc.expect_eq_empty this; tauto)
      · rfl

/-- `Sys.Inv.put` for a step that leaves `zv_zilog` as it is. -/
theorem Sys.Inv.put_keep (hi : s.Inv) {g : Ghost} {x : Th} (hx : x.hold = x.pc.expect)
    (hw : x.hold.writer = true → ∀ u, u ≠ t → (s.th u).hold = {})
    (hw' : ∀ u, u ≠ t → (s.th u).hold.writer = true → x.hold = {})
    (hz : (x.pc = .downgrade ∨ x.pc = .use) → s.zilog = true)
    (hc : g.opens = g.closes + if s.zilog then 1 else 0) (hf : g.fault = false) :
    (s.put t s.zilog g x).Inv :=
  hi.put hx hw hw' hz (fun hz hs => absurd (hz.symm.trans hs) (by decide)) hc hf

/-- A thread that holds the lock keeps every other thread from holding it as writer. -/
theorem Sys.Inv.no_writer_of_held (hi : s.Inv) (h : (s.th t).hold ≠ {}) :
    ∀ u, u ≠ t → (s.th u).hold.writer = false := by
  intro u hut
  cases hw : (s.th u).hold.writer
  · rfl
  · exact absurd (hi.writer u t hw (Ne.symm hut)) h

/-- Runs keep the invariant: a step of a thread. -/
theorem Sys.Inv.run {up : Bool} (hi : s.Inv) (hs : runStep s t up = some s') : s'.Inv := by
  obtain ⟨⟨z, g, x⟩, hst, rfl⟩ := Option.map_eq_some'.1 hs
  have hh := hi.hold t
  have hfree : (s.view t).othersFree = true → ∀ u, u ≠ t → (s.th u).hold = {} := by
    simp [Sys.view]
  have hnw : (s.view t).noWriter = true → ∀ u, (s.th u).hold.writer = false := by
    simp [Sys.view]
  have hwr : (s.th t).hold.writer = true → ∀ u, u ≠ t → (s.th u).hold = {} :=
    fun hw u hut => hi.writer t u hw hut
  have hf := hi.fault
  cases hpc : (s.th t).pc <;> rw [hpc] at hh <;> simp only [threadStep, hpc] at hst
  case idle => cases hst
  case enterR =>
    split_ifs at hst with hv
    simp only [Option.some.injEq, Prod.mk.injEq] at hst
    obtain ⟨rfl, rfl, rfl⟩ := hst
    exact hi.put_keep (by simp [hh, Pc.expect]) (by simp [hh, Pc.expect])
      (fun u _ hu => by simp [hnw hv u] at hu) (by simp) hi.count hf
  case check =>
    simp only [Option.some.injEq, Prod.mk.injEq] at hst
    obtain ⟨rfl, rfl, rfl⟩ := hst
    refine hi.put_keep (by cases s.zilog <;> simp [hh, Pc.expect]) (by simp [hh, Pc.expect])
      (fun u hut hu => ?_) (by cases h : s.zilog <;> simp [h]) hi.count hf
    simp [hi.no_writer_of_held (by simp [hh, Pc.expect]) u hut] at hu
  case tryUpgrade =>
    split_ifs at hst with hv <;> simp only [Option.some.injEq, Prod.mk.injEq] at hst <;>
      obtain ⟨rfl, rfl, rfl⟩ := hst
    · simp only [Bool.and_eq_true] at hv
      exact hi.put_keep (by simp [Pc.expect]) (fun _ => hfree hv.1.1.2)
        (fun u hut hu => by simp [hfree hv.1.1.2 u hut] at hu) (by simp) hi.count hf
    · exact hi.put_keep (by simp [hh, Pc.expect]) (by simp [hh, Pc.expect])
        (fun u hut hu => by simp [hi.no_writer_of_held (by simp [hh, Pc.expect]) u hut] at hu)
        (by simp) hi.count hf
  case enterW | suspendEnter =>
    split_ifs at hst with hv
    simp only [Option.some.injEq, Prod.mk.injEq] at hst
    obtain ⟨rfl, rfl, rfl⟩ := hst
    exact hi.put_keep (by simp [hh, Pc.expect]) (fun _ => hfree hv)
      (fun u hut hu => by simp [hfree hv u hut] at hu) (by simp) hi.count hf
  case recheck =>
    have hw := hwr (by simp [hh, Pc.expect])
    split_ifs at hst with hz <;> simp only [Option.some.injEq, Prod.mk.injEq] at hst <;>
      obtain ⟨rfl, rfl, rfl⟩ := hst
    · exact hi.put_keep (by simp [hh, Pc.expect]) (fun _ => hw)
        (fun u hut hu => by simp [hw u hut] at hu) (fun _ => hz) hi.count hf
    · exact hi.put (by simp [hh, Pc.expect]) (fun _ => hw)
        (fun u hut hu => by simp [hw u hut] at hu) (fun _ => rfl) (by simp)
        (by simpa [hz] using hi.count) hf
  case downgrade =>
    have hw := hwr (by simp [hh, Pc.expect])
    simp only [Option.some.injEq, Prod.mk.injEq] at hst
    obtain ⟨rfl, rfl, rfl⟩ := hst
    exact hi.put_keep (by simp [Pc.expect]) (by simp) (fun u hut hu => by simp [hw u hut] at hu)
      (fun _ => hi.zilog t (by simp [hpc])) hi.count (by simp [hf, hh, Pc.expect])
  case use =>
    simp only [Option.some.injEq, Prod.mk.injEq] at hst
    obtain ⟨rfl, rfl, rfl⟩ := hst
    exact hi.put_keep (by simp [hh, Pc.expect]) (by simp [hh, Pc.expect])
      (fun u hut hu => by simp [hi.no_writer_of_held (by simp [hh, Pc.expect]) u hut] at hu)
      (by simp) hi.count hf
  case exitR | exit | suspendExit =>
    -- `rw_exit` of the hold the point has
    simp only [Option.some.injEq, Prod.mk.injEq] at hst
    obtain ⟨rfl, rfl, rfl⟩ := hst
    exact hi.put_keep (by simp [hh, release, Pc.expect]) (by simp [hh, release, Pc.expect])
      (fun _ _ _ => by simp [hh, release, Pc.expect]) (by simp)
      (by simpa [hh, release, Pc.expect] using hi.count) (by simpa [hh, release, Pc.expect] using hf)
  case suspendClose =>
    have hw := hwr (by simp [hh, Pc.expect])
    simp only [Option.some.injEq, Prod.mk.injEq] at hst
    obtain ⟨rfl, rfl, rfl⟩ := hst
    exact hi.put (by simp [hh, Pc.expect]) (fun _ => hw) (fun u hut hu => by simp [hw u hut] at hu)
      (by simp) (fun _ _ => hw) (by have := hi.count; cases h : s.zilog <;> simp_all) hf

/-- Runs keep the invariant: a thread starts a call. -/
theorem Sys.Inv.start {c : Call} (hi : s.Inv) (hs : startStep s t c = some s') : s'.Inv := by
  unfold startStep at hs
  split_ifs at hs with hidle
  simp only [Option.some.injEq] at hs
  subst hs
  have hh := hi.hold t
  rw [hidle] at hh
  exact hi.put_keep (by cases c <;> rfl) (by simp) (fun u hut hu => by cases c <;> rfl)
    (by cases c <;> simp) hi.count hi.fault

/-- Every reachable state satisfies the invariant. -/
theorem Sys.Inv.reach (h : Reach s) : s.Inv := by
  induction h with
  | init hz hth hg =>
    exact ⟨fun t => by simp [hth t, Pc.expect], fun t u ht => by simp [hth t] at ht,
      fun t ht => by simp [hth t] at ht, by simp [hz, hg], by simp [hg]⟩
  | start _ hs ih => exact ih.start hs
  | run _ hs ih => exact ih.run hs

/-- The points of a caller from its `rw_enter` as reader to the end of `zvol_ensure_zilog`. -/
def Pc.ensuring : Pc → Bool
  | .enterR | .check | .tryUpgrade | .exitR | .enterW | .recheck | .downgrade => true
  | _ => false

/-- At most how many of its own steps take a caller at `p` back to `.use`. -/
def Pc.toUse : Pc → Nat
  | .enterR => 7
  | .check => 6
  | .tryUpgrade => 5
  | .exitR => 4
  | .enterW => 3
  | .recheck => 2
  | .downgrade => 1
  | _ => 0

/-- Thread `t` runs alone, `rw_tryupgrade` answering `up`, until it is back in its caller or
has made `k` steps. -/
def runToUse (s : Sys n) (t : Fin n) (up : Bool) : Nat → Option (Sys n)
  | 0 => some s
  | k + 1 => if (s.th t).pc.ensuring then (runStep s t up).bind fun s' => runToUse s' t up k else some s

/-- A caller whose lock no other thread holds can make its step, which takes it closer to
`.use`, and leaves the other threads holding nothing. -/
theorem Sys.Inv.ensuring_step (hi : s.Inv) (hp : (s.th t).pc.ensuring = true)
    (hfree : ∀ u, u ≠ t → (s.th u).hold = {}) (up : Bool) :
    ∃ s', runStep s t up = some s' ∧ (s'.th t).pc.toUse < (s.th t).pc.toUse ∧
      ((s'.th t).pc.ensuring = true ∨ (s'.th t).pc = .use) ∧ ∀ u, u ≠ t → (s'.th u).hold = {} := by
  have hh := hi.hold t
  have hof : (s.view t).othersFree = true := by simpa [Sys.view] using hfree
  have hnw : (s.th t).hold = {} → (s.view t).noWriter = true := fun h0 => by
    simp only [Sys.view, decide_eq_true_eq]
    intro u
    by_cases hu : u = t
    · subst hu; simp [h0]
    · simp [hfree u hu]
  have hput : ∀ z g x u, u ≠ t → ((s.put t z g x).th u).hold = {} := fun z g x u hu => by
    rw [Sys.put_th_ne hu]; exact hfree u hu
  simp only [runStep, Option.map_eq_some', exists_exists_and_eq_and, Sys.put_th_self]
  cases hpc : (s.th t).pc <;> simp only [Pc.ensuring, hpc, Bool.false_eq_true] at hp <;>
    rw [hpc] at hh
  case enterR =>
    simp only [threadStep, hpc, hnw hh, ite_true, Option.some.injEq, exists_eq_left']
    exact ⟨by decide, by decide, hput _ _ _⟩
  all_goals simp only [threadStep, hpc, hof, hh, Pc.expect, ite_true, Option.some.injEq,
    exists_eq_left', release]
  all_goals first
    | exact ⟨by decide, by decide, hput _ _ _⟩
    | (split_ifs <;> (try simp only [Option.some.injEq, exists_eq_left']) <;>
        exact ⟨by decide, by decide, hput _ _ _⟩)

/-- A caller whose lock no other thread holds, running alone, is back in its caller within
`Pc.toUse` steps. -/
theorem Reach.runToUse (hr : Reach s) (hp : (s.th t).pc.ensuring = true ∨ (s.th t).pc = .use)
    (hfree : ∀ u, u ≠ t → (s.th u).hold = {}) (up : Bool) {k : Nat} (hk : (s.th t).pc.toUse ≤ k) :
    ∃ s', Zilog.runToUse s t up k = some s' ∧ Reach s' ∧ (s'.th t).pc = .use := by
  induction k generalizing s with
  | zero =>
    refine ⟨s, rfl, hr, hp.resolve_left fun he => ?_⟩
    cases hpc : (s.th t).pc <;> simp [Pc.ensuring, Pc.toUse, hpc] at he hk
  | succ k ih =>
    rcases hp with he | hu
    · obtain ⟨s', hs, hlt, hp', hfree'⟩ := (Sys.Inv.reach hr).ensuring_step he hfree up
      obtain ⟨s'', h'', hr'', hu⟩ := ih (hr.run hs) hp' hfree' (by omega)
      exact ⟨s'', by simp [Zilog.runToUse, he, hs, h''], hr'', hu⟩
    · exact ⟨s, by simp [Zilog.runToUse, hu, Pc.ensuring], hr, hu⟩

/-! ## One caller's events -/

/-- Only `zil_open` and `zil_close` change `zv_zilog`: at the recheck and in a suspend
section. -/
theorem threadStep_zilog {v : View} {z z' : Bool} {g g' : Ghost} {th x : Th} {up : Bool}
    (hs : threadStep v z g th up = some (z', g', x)) :
    z' = z ∨ th.pc = .recheck ∨ th.pc = .suspendClose := by
  cases hpc : th.pc <;> simp only [threadStep, hpc] at hs <;> (try split_ifs at hs) <;>
    simp only [Option.some.injEq, Prod.mk.injEq, reduceCtorEq] at hs <;>
    obtain ⟨rfl, -, -⟩ := hs <;> simp

/-- While a thread holds the lock, no other thread changes `zv_zilog`: that takes the writer
hold. -/
theorem Sys.Inv.other_zilog (hi : s.Inv) {u : Fin n} {up : Bool} (ht : (s.th t).hold ≠ {})
    (hut : u ≠ t) (hs : runStep s u up = some s') : s'.zilog = s.zilog := by
  obtain ⟨⟨z, g, x⟩, hst, rfl⟩ := Option.map_eq_some'.1 hs
  rcases threadStep_zilog hst with h | h | h
  · exact h
  all_goals
    exact absurd (hi.writer u t (by rw [hi.hold u, h]; rfl) hut.symm) ht

/-- A caller that tries to upgrade its hold found the log `NULL`, and no other thread can set it
while it holds the lock as reader. -/
theorem Reach.upgrading (hr : Reach s) : ∀ t, (s.th t).pc = .tryUpgrade → s.zilog = false := by
  induction hr with
  | init _ hth => intro t ht; simp [hth t] at ht
  | @start s s' u c _ hs ih =>
    intro t ht
    unfold startStep at hs
    split_ifs at hs
    cases hs
    by_cases htu : t = u
    · subst htu; cases c <;> simp at ht
    · rw [Sys.put_th_ne htu] at ht; exact ih t ht
  | @run s s' u up hr hs ih =>
    intro t ht
    by_cases htu : t = u
    · subst htu
      obtain ⟨⟨z, g, x⟩, hst, rfl⟩ := Option.map_eq_some'.1 hs
      simp only [Sys.put_th_self] at ht
      cases hpc : (s.th t).pc <;> simp only [threadStep, hpc] at hst <;> (try split_ifs at hst) <;>
        simp only [Option.some.injEq, Prod.mk.injEq, reduceCtorEq] at hst <;>
        obtain ⟨rfl, -, rfl⟩ := hst <;> simp_all
    · obtain ⟨⟨z, g, x⟩, -, rfl⟩ := Option.map_eq_some'.1 hs
      rw [Sys.put_th_ne htu] at ht
      exact ((Sys.Inv.reach hr).other_zilog (by rw [(Sys.Inv.reach hr).hold t, ht]; decide)
        (Ne.symm htu) hs).trans (ih t ht)

/-- The points of `zvol_ensure_zilog` itself, from the first check of `zv_zilog` to the
downgrade. -/
def Pc.inEnsure : Pc → Bool
  | .check | .tryUpgrade | .exitR | .enterW | .recheck | .downgrade => true
  | _ => false

/-- The events of `Zvol.Io` that a caller's step from `p` to `p'` makes on the log `zilog`:
`rw_tryupgrade` with its outcome, `rw_exit`, `rw_enter` as writer, `zil_open`, `rw_downgrade`. -/
def stepEvs (zilog : Bool) (p p' : Pc) : List Io.Ev :=
  match p with
  | .tryUpgrade => [.suspendTryUpgrade (p' == .recheck)]
  | .exitR => [.suspendExit]
  | .enterW => [.suspendEnter true]
  | .recheck => if zilog then [] else [.zilOpen]
  | .downgrade => [.suspendDowngrade]
  | _ => []

/-- Runs from `s` to `s'` in which the caller `t` makes the events `evs` inside
`zvol_ensure_zilog`: its own steps there, and any steps and starts of the other threads. -/
inductive Trace (t : Fin n) : Sys n → List Io.Ev → Sys n → Prop
  | refl (s : Sys n) : Trace t s [] s
  | self {s s' s'' : Sys n} {up : Bool} {evs : List Io.Ev} :
      (s.th t).pc.inEnsure = true → runStep s t up = some s' → Trace t s' evs s'' →
      Trace t s (stepEvs s.zilog (s.th t).pc (s'.th t).pc ++ evs) s''
  | other {s s' s'' : Sys n} {u : Fin n} {up : Bool} {evs : List Io.Ev} :
      u ≠ t → runStep s u up = some s' → Trace t s' evs s'' → Trace t s evs s''
  | start {s s' s'' : Sys n} {u : Fin n} {c : Call} {evs : List Io.Ev} :
      u ≠ t → startStep s u c = some s' → Trace t s' evs s'' → Trace t s evs s''

theorem Trace.reach {evs : List Io.Ev} (h : Trace t s evs s') (hr : Reach s) : Reach s' := by
  induction h with
  | refl => exact hr
  | self _ hs _ ih => exact ih (hr.run hs)
  | other _ hs _ ih => exact ih (hr.run hs)
  | start _ hs _ ih => exact ih (hr.start hs)

/-- The events after a failed `rw_tryupgrade` and the wait for the writer hold: `zil_open`
unless another writer opened the log meanwhile, then `rw_downgrade`. -/
def afterWait (raced : Bool) : List Io.Ev := (if raced then [] else [.zilOpen]) ++ [.suspendDowngrade]

/-- The events of `zvol_ensure_zilog` from `rw_tryupgrade` on, on a `NULL` log. -/
def FromTry (evs : List Io.Ev) : Prop :=
  evs = [.suspendTryUpgrade true, .zilOpen, .suspendDowngrade] ∨
    ∃ r, evs = [.suspendTryUpgrade false, .suspendExit, .suspendEnter true] ++ afterWait r

/-- The events a caller at `p`, on the log `zilog`, still makes in `zvol_ensure_zilog`, for some
outcome of `rw_tryupgrade` and of the wait. -/
def Rem (p : Pc) (zilog : Bool) (evs : List Io.Ev) : Prop :=
  match p with
  | .check => zilog = true ∧ evs = [] ∨ zilog = false ∧ FromTry evs
  | .tryUpgrade => zilog = false ∧ FromTry evs
  | .exitR => ∃ r, evs = [.suspendExit, .suspendEnter true] ++ afterWait r
  | .enterW => ∃ r, evs = .suspendEnter true :: afterWait r
  | .recheck => evs = afterWait zilog
  | .downgrade => evs = [.suspendDowngrade]
  | .use => evs = []
  | _ => False

/-- A caller's step inside `zvol_ensure_zilog` leaves it there or back in its caller, and
prefixes its events to those still to come. -/
theorem Reach.rem_self (hr : Reach s) {up : Bool}
    (hp : (s.th t).pc.inEnsure = true) (hs : runStep s t up = some s') :
    ((s'.th t).pc.inEnsure = true ∨ (s'.th t).pc = .use) ∧
      ∀ evs, (Rem (s'.th t).pc s'.zilog evs →
        Rem (s.th t).pc s.zilog (stepEvs s.zilog (s.th t).pc (s'.th t).pc ++ evs)) := by
  have hup := hr.upgrading t
  obtain ⟨⟨z, g, x⟩, hst, rfl⟩ := Option.map_eq_some'.1 hs
  simp only [Sys.put_th_self, Sys.put_zilog]
  cases hpc : (s.th t).pc <;> simp only [Pc.inEnsure, hpc, Bool.false_eq_true] at hp <;>
    simp only [threadStep, hpc] at hst <;> (try split_ifs at hst) <;>
    simp only [Option.some.injEq, Prod.mk.injEq, reduceCtorEq] at hst <;>
    obtain ⟨rfl, -, rfl⟩ := hst
  all_goals simp_all [Pc.inEnsure, Rem, stepEvs, FromTry, afterWait]

theorem runStep_th_ne {u : Fin n} {up : Bool} (hs : runStep s u up = some s') (htu : t ≠ u) :
    s'.th t = s.th t := by
  obtain ⟨_, -, rfl⟩ := Option.map_eq_some'.1 hs
  exact Sys.put_th_ne htu _ _ _

theorem startStep_frame {u : Fin n} {c : Call} (hs : startStep s u c = some s') (htu : t ≠ u) :
    s'.th t = s.th t ∧ s'.zilog = s.zilog := by
  unfold startStep at hs
  split_ifs at hs
  cases hs
  exact ⟨Sys.put_th_ne htu _ _ _, rfl⟩

/-- Another thread's step leaves what the caller still does as it was: it can change the log
only while the caller holds nothing, and then what the caller still does does not depend on
the log. -/
theorem Sys.Inv.rem_other (hi : s.Inv) {u : Fin n} {up : Bool} {evs : List Io.Ev} (hut : u ≠ t)
    (hs : runStep s u up = some s') (h : Rem (s'.th t).pc s'.zilog evs) :
    Rem (s.th t).pc s.zilog evs := by
  have hz : (s.th t).hold ≠ {} → s'.zilog = s.zilog := fun hh => hi.other_zilog hh hut hs
  have hh := hi.hold t
  rw [runStep_th_ne hs (Ne.symm hut)] at h
  cases hpc : (s.th t).pc <;> rw [hpc] at h hh <;> simp only [Rem] at h ⊢
  all_goals first
    | exact h
    | (rw [← hz (by rw [hh]; decide)]; exact h)

/-- What a caller does inside `zvol_ensure_zilog`, along any run that brings it back to its
caller, is what `Rem` says from its point on. -/
theorem Trace.rem {evs : List Io.Ev} (h : Trace t s evs s') (hr : Reach s)
    (hp : (s.th t).pc.inEnsure = true ∨ (s.th t).pc = .use) (he : (s'.th t).pc = .use) :
    Rem (s.th t).pc s.zilog evs := by
  induction h with
  | refl => rw [he]; rfl
  | self hin hs _ ih =>
    have hstep := hr.rem_self hin hs
    exact hstep.2 _ (ih (hr.run hs) hstep.1 he)
  | other hut hs _ ih =>
    have ht := runStep_th_ne hs (Ne.symm hut)
    exact (Sys.Inv.reach hr).rem_other hut hs (ih (hr.run hs) (by rwa [ht]) he)
  | start hut hs _ ih =>
    obtain ⟨ht, hz⟩ := startStep_frame hs (Ne.symm hut)
    have := ih (hr.start hs) (by rwa [ht]) he
    rwa [ht, hz] at this

/-- The two models of `zvol_ensure_zilog` agree. Whatever the other threads do meanwhile, a
caller makes, from the first check of `zv_zilog` until it is back in its caller, the events of
`Io.ensureZilog` on some answers of `rw_tryupgrade` and of the wait for the writer hold, with
the log the check found; and it finds the log set on return, as `Io.ensureZilog` leaves it. -/
theorem ensure_zilog_trace {evs : List Io.Ev} (hr : Reach s) (ht : (s.th t).pc = .check)
    (h : Trace t s evs s') (he : (s'.th t).pc = .use) :
    ∃ st : Io.St, st.zilog = s.zilog ∧ evs = (Io.ensureZilog st).evs ∧
      s'.zilog = (Io.ensureZilog st).st.zilog := by
  have hz : s'.zilog = true := (Sys.Inv.reach (h.reach hr)).zilog t (.inr he)
  have hrem := h.rem hr (.inl (by rw [ht]; rfl)) he
  rw [ht] at hrem
  rcases hrem with ⟨h1, rfl⟩ | ⟨h1, rfl | ⟨r, rfl⟩⟩
  · exact ⟨{ data := fun _ => 0, zilog := true }, h1.symm, by simp [Io.ensureZilog],
      by simp [Io.ensureZilog, hz]⟩
  · exact ⟨{ data := fun _ => 0, zilog := false }, h1.symm, by simp [Io.ensureZilog],
      by simp [Io.ensureZilog, hz]⟩
  · exact ⟨{ data := fun _ => 0, zilog := false, upgrade := false, raced := r }, h1.symm,
      by cases r <;> simp [Io.ensureZilog, afterWait], by simp [Io.ensureZilog, hz]⟩

/-- A move of the system: thread `t` starts a call, or makes its next step with `rw_tryupgrade`
answering `up`. -/
inductive Act (n : Nat) where
  | start (t : Fin n) (c : Call)
  | step (t : Fin n) (up : Bool)

/-- The moves `as` one after another. -/
def runActs (s : Sys n) : List (Act n) → Option (Sys n)
  | [] => some s
  | .start t c :: as => (startStep s t c).bind fun s' => runActs s' as
  | .step t up :: as => (runStep s t up).bind fun s' => runActs s' as

theorem Reach.runActs (h : Reach s) {as : List (Act n)} (hr : Zilog.runActs s as = some s') :
    Reach s' := by
  induction as generalizing s with
  | nil => cases hr; exact h
  | cons a as ih =>
    cases a <;> obtain ⟨s₁, h₁, hr⟩ := Option.bind_eq_some.1 hr
    · exact ih (h.start h₁) hr
    · exact ih (h.run h₁) hr

end Zvol.Zilog
