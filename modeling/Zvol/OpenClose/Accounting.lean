import Zvol.OpenClose.Discipline

/-!
# The open and close paths: what the open count accounts for

The setup log (`LogOk`): the successful calls of `zvol_first_open` and the calls of
`zvol_last_close` alternate, starting with a first open; the first open is called at count zero
on a volume that is not set up; the parity of the log is `zv_objset`; and each call made by the
open and close functions is made under `zv_state_lock` and `zv_suspend_lock` as reader, with no
writer in its suspend section.

`Owes`: what the volume and the ghost counts owe to one thread, with the other threads taken as
a whole. `threadStep_owes` is the step lemma: every step of the thread keeps it, provided the
other threads are as the system invariant says.
-/

namespace Zvol.OpenClose

/-! ## The setup log -/

/-- The successful calls of `zvol_first_open` (`true`) and the calls of `zvol_last_close`
(`false`) in the log, oldest first. -/
def setupSeq (log : List Setup) : List Bool :=
  log.filterMap fun e => if e.first then if e.ok then some true else none else some false

/-- `true` and `false` alternate, starting with `true`. -/
def Alternates (l : List Bool) : Prop :=
  l = (List.range l.length).map (fun i => i % 2 == 0)

theorem alternates_append {l : List Bool} (h : Alternates l) :
    Alternates (l ++ [l.length % 2 == 0]) := by
  unfold Alternates at *
  rw [List.length_append, List.length_singleton, List.range_succ, List.map_append, ← h]
  rfl

@[simp] theorem setupSeq_nil : setupSeq [] = [] := rfl

@[simp] theorem setupSeq_append (log : List Setup) (e : Setup) :
    setupSeq (log ++ [e]) =
      setupSeq log ++ (if e.first then if e.ok then [true] else [] else [false]) := by
  simp only [setupSeq, List.filterMap_append, List.filterMap_cons, List.filterMap_nil]
  split_ifs <;> rfl

/-- The setup log agrees with the volume, whose objset is set or not (`objset`). -/
structure LogOk (log : List Setup) (objset : Bool) : Prop where
  alternates : Alternates (setupSeq log)
  parity : objset = true ↔ (setupSeq log).length % 2 = 1
  first : ∀ e ∈ log, e.first = true → e.openCount = 0 ∧ e.objset = false
  last : ∀ e ∈ log, e.first = false → e.objset = true
  locked : ∀ e ∈ log, e.forced = false →
    e.stateHeld = true ∧ e.suspendHeld = true ∧ e.writerActive = false

/-- A call made by the open and close functions holds `zv_state_lock` and `zv_suspend_lock` as
reader, and no thread holds `zv_suspend_lock` as writer. -/
def Setup.Locked (e : Setup) : Prop :=
  e.forced = false → e.stateHeld = true ∧ e.suspendHeld = true ∧ e.writerActive = false

variable {log : List Setup} {e : Setup}

theorem Setup.locked_mk' {first ok forced : Bool} {z : Zv} {h : Holds} {w : Bool}
    (hs : h.state = true) (hr : h.suspend = .reader) (hw : w = false) :
    (Setup.mk' first ok forced z h w).Locked :=
  fun _ => ⟨hs, by simp [Setup.mk', hr], hw⟩

/-- The empty log. -/
theorem LogOk.nil : LogOk [] false where
  alternates := rfl
  parity := by simp
  first := by simp
  last := by simp
  locked := by simp

/-- A call of `zvol_first_open` on a volume that is not set up. -/
theorem LogOk.append_first (h : LogOk log false) (hf : e.first = true) (h0 : e.openCount = 0)
    (hobj : e.objset = false) (hl : e.Locked) : LogOk (log ++ [e]) e.ok := by
  have hp := h.parity
  refine ⟨?_, ?_, ?_, ?_, ?_⟩
  · cases hok : e.ok
    · simpa [hf, hok] using h.alternates
    · have h2 : ((setupSeq log).length % 2 == 0) = true := by simp at hp; simpa using hp
      have := alternates_append h.alternates
      rw [h2] at this
      simpa [hf, hok] using this
  · cases hok : e.ok <;> simp [hf, hok] at hp ⊢ <;> omega
  · simp only [List.mem_append, List.mem_singleton]
    rintro e' (he | rfl) hf'
    exacts [h.first e' he hf', ⟨h0, hobj⟩]
  · simp only [List.mem_append, List.mem_singleton]
    rintro e' (he | rfl) hf'
    exacts [h.last e' he hf', by simp [hf] at hf']
  · simp only [List.mem_append, List.mem_singleton]
    rintro e' (he | rfl)
    exacts [h.locked e' he, hl]

/-- A call of `zvol_last_close` on a volume that is set up. -/
theorem LogOk.append_last (h : LogOk log true) (hf : e.first = false) (hobj : e.objset = true)
    (hl : e.Locked) : LogOk (log ++ [e]) false := by
  have hp := h.parity
  refine ⟨?_, ?_, ?_, ?_, ?_⟩
  · have h2 : ((setupSeq log).length % 2 == 0) = false := by simp at hp; simpa using hp
    have := alternates_append h.alternates
    rw [h2] at this
    simpa [hf] using this
  · simp [hf] at hp ⊢; omega
  · simp only [List.mem_append, List.mem_singleton]
    rintro e' (he | rfl) hf'
    exacts [h.first e' he hf', by simp [hf] at hf']
  · simp only [List.mem_append, List.mem_singleton]
    rintro e' (he | rfl) hf'
    exacts [h.last e' he hf', hobj]
  · simp only [List.mem_append, List.mem_singleton]
    rintro e' (he | rfl)
    exacts [h.locked e' he, hl]


/-! ## What a step owes the open count -/

/-- What the volume `z` and the ghost state `g` owe to the thread `th`, with the other threads
taken as a whole: `others` is the count their closes may still take off, `past` says that one
of them is a close past its clear of `ZVOL_EXCL`, and `window` that one of them is in a
`Th.window`. -/
structure Owes (z : Zv) (g : Ghost) (th : Th) (others : Nat) (past window : Prop) : Prop where
  objset : z.objset = true ↔ 0 < z.openCount ∨ th.window z ∨ window
  pending : g.held + th.pending + others ≤ z.openCount
  count : z.openCount + g.closed + g.revoked = g.granted
  excl : z.excl = true → z.openCount = 1 ∧ th.pc.closePast = false ∧ ¬past
  log : LogOk g.log z.objset

variable {v : View} {z z' : Zv} {g g' : Ghost} {th x : Th} {o : Outcome} {P : Nat} {C W : Prop}

/-- What a close stores into `zv_open_count` (`zv_open_count = new_open_count`, or
`zv_open_count--`): the count less the close's own, when that is part of it. -/
theorem Th.stored_count (hd : th.Data z) (hl : th.Locals) (hpc : th.pc = .closeZslExit)
    (hle : th.count ≤ z.openCount) (hb : z.openCount < 2 ^ 32) :
    toU32 (if th.geom then th.newOpenCount else (z.openCount : Int) - 1) =
      z.openCount - th.count := by
  have hc : 1 ≤ th.count ∧ (th.geom = false → th.count = 1) := by simpa [Th.Locals, hpc] using hl
  have hdat : if th.geom then th.newOpenCount = z.openCount - th.count ∧
      (toU32 th.newOpenCount = 0 → th.dropSuspend = true)
    else z.openCount = 1 → th.dropSuspend = true := by simpa [Th.Data, hpc] using hd
  cases hg : th.geom <;> simp only [hg, Bool.false_eq_true, ↓reduceIte] at hdat ⊢
  · have := hc.2 hg
    have := toU32_of_lt (x := (z.openCount : Int) - 1) (by omega) (by omega)
    omega
  · have := toU32_of_lt (x := th.newOpenCount) (by omega) (by omega)
    omega

/-- A step keeps the count a `uint32_t`, and a wrap once flagged stays flagged. -/
theorem threadStep_wrap (hs : threadStep v z g th o = some (z', g', x)) (hok : th.Ok)
    (hd : th.Data z) (hb : z.openCount < 2 ^ 32) :
    z'.openCount < 2 ^ 32 ∧ (g.wrapped = true → g'.wrapped = true) := by
  cases ht : th.pc.touches
  · obtain ⟨rfl, hg, -⟩ := (threadStep_spec hok hd hs).quiet ht
    rw [hg]; exact ⟨hb, id⟩
  cases hpc : th.pc <;> simp only [Pc.touches, hpc, Bool.false_eq_true] at ht <;>
    simp only [threadStep, hpc] at hs <;> (try split_ifs at hs) <;>
    simp only [Option.some.injEq, Prod.mk.injEq, reduceCtorEq] at hs <;>
    obtain ⟨rfl, rfl, rfl⟩ := hs
  all_goals first
    | exact ⟨hb, by simp⟩
    | simpa using openChecks_bound z g th o hb
    | exact ⟨(renameForcedClose_openCount_le _ _ _ _).trans_lt hb, by simp⟩
    | exact ⟨by simpa [closeStore] using
        toU32_lt (if th.geom then th.newOpenCount else (z.openCount : Int) - 1),
        by simp [closeStore, Ghost.release]⟩

/-- A quiet step (`StepFacts.quiet`) keeps what is owed. -/
theorem Owes.quiet (h : Owes z g th P C W) (hp : x.pending ≤ th.pending)
    (hwin : x.window z ↔ th.window z) (hpast : x.pc.closePast = true → th.pc.closePast = true)
    (f : Bool) : Owes z { g with fault := f } x P C W where
  objset := by rw [hwin]; exact h.objset
  pending := by have := h.pending; simp only at this ⊢; omega
  count := h.count
  excl := fun he => by
    obtain ⟨h1, h2, h3⟩ := h.excl he
    exact ⟨h1, by cases hx : x.pc.closePast <;> simp_all, h3⟩
  log := h.log

/-- A step keeps what is owed, when the other threads' windows hold `zv_state_lock` (`hW`),
their closes past the clear of `ZVOL_EXCL` still owe a count (`hC`), a drained cdev leaves no
count to claim (`hdrain`), a reader of `zv_suspend_lock` excludes its writers (`hw`), and the
count, a `uint32_t`, does not wrap (`hb`, `hwrap`). -/
theorem threadStep_owes (hs : threadStep v z g th o = some (z', g', x)) (hok : th.Ok)
    (hd : th.Data z) (hW : W → th.holds.state = false ∧ v.stateFree = false)
    (hC : C → 1 ≤ P) (hdrain : v.cdevDrained = true → z.volmode = .dev → P = 0)
    (hw : th.holds.suspend = .reader → v.writerActive = false) (hb : z.openCount < 2 ^ 32)
    (hwrap : g'.wrapped = false) (h : Owes z g th P C W) :
    Owes z' g' x P C W := by
  cases ht : th.pc.touches
  · obtain ⟨rfl, hg, hp, hwin, hpast⟩ := (threadStep_spec hok hd hs).quiet ht
    rw [hg]; exact h.quiet hp hwin hpast _
  have hst := hok.state_eq
  have hl := hok.locals
  have hh := hok.holds
  cases hpc : th.pc <;> simp only [Pc.touches, hpc, Bool.false_eq_true] at ht <;> simp only [threadStep, hpc] at hs
  case openFirstOpen =>
    simp only [Option.some.injEq, Prod.mk.injEq] at hs
    obtain ⟨rfl, rfl, rfl⟩ := hs
    have h0 : z.openCount = 0 := by simpa [Th.Data, hpc] using hd
    have hnW : ¬W := fun hw' => by simp [(hW hw').1, hpc, Pc.state] at hst
    have hobj : z.objset = false := by simpa [h0, Th.window, hpc, hnW] using h.objset
    have hex : z.excl = false := by
      cases he : z.excl
      · rfl
      · simpa [h0] using (h.excl he).1
    have hp := h.pending
    simp only [Th.pending, hpc] at hp
    have hr : th.holds.suspend = .reader := by simp [hh, Th.expected, Holds.expect, hpc, Pc.suspend]
    have hlog : (Setup.mk' true (decide (o.firstOpen = 0)) false z th.holds v.writerActive).Locked :=
      Setup.locked_mk' (hst.trans (by simp [hpc, Pc.state])) hr (hw hr)
    have hlog' := LogOk.append_first (hobj ▸ h.log) rfl h0 hobj hlog
    by_cases hf : o.firstOpen = 0 <;> cases hdn : th.dropNamespace <;>
      simp only [hf, hdn, if_true, if_false, decide_eq_true_eq] at hlog' ⊢ <;>
      exact ⟨by simp [Th.window, h0, hnW, hobj, hf], by simpa [Th.pending] using hp, h.count,
        by simp [hex], by simpa [Setup.mk', hf, hobj] using hlog'⟩
  case openChecks =>
    simp only [Option.some.injEq, Prod.mk.injEq] at hs
    obtain ⟨rfl, rfl, rfl⟩ := hs
    have hnW : ¬W := fun hw' => by simp [(hW hw').1, hpc, Pc.state] at hst
    have hds : z.openCount = 0 → th.dropSuspend = true := by simpa [Th.Data, hpc] using hd
    have hc : 1 ≤ th.count ∧ (th.geom = false → th.count = 1) := by simpa [Th.Locals, hpc] using hl
    have hp := h.pending
    simp only [Th.pending, hpc] at hp
    have hobj : z.objset = true := by simp [h.objset, Th.window, hpc]; omega
    have hex : z.excl = true → z.openCount = 1 ∧ ¬C := fun he => ⟨(h.excl he).1, (h.excl he).2.2⟩
    have hr : z.openCount = 0 → th.holds.suspend = .reader := fun h0 => by
      simp [hh, Th.expected, Holds.expect, hpc, Pc.suspend, Pc.suspendIfDrop, hds h0]
    unfold openChecks
    split_ifs with h1 h2 h3 <;> unfold lastCloseIfZero lastClose
    rotate_left 3
    · -- the grant, which does not wrap
      have hlt : z.openCount + th.count < 2 ^ 32 := by
        have := hwrap
        simp only [lastCloseIfZero_wrapped, openChecks, h1, h2, h3, Bool.false_eq_true, ↓reduceIte,
          Bool.or_eq_false_iff, decide_eq_false_iff_not, not_le] at this
        exact this.2
      have h32 : toU32 (z.openCount + th.count) = z.openCount + th.count := by
        have := toU32_of_lt (x := z.openCount + th.count) (by omega) (by omega)
        omega
      have hne : z.openCount + th.count ≠ 0 := by omega
      simp only [h32, hne, if_false]
      refine ⟨?_, ?_, ?_, ?_, h.log⟩
      · simp [Th.window, hobj]; omega
      · simp [Th.pending]; omega
      · have := h.count; simp; omega
      · intro he
        simp only [Bool.or_eq_true, Bool.and_eq_true, bne_iff_ne, ne_eq, not_and, not_not] at h2 h3 he
        have hg : th.geom = false := by cases hg : th.geom <;> simp_all [hok.oexcl]
        rcases he with he | he
        · simp [h2] at he
        · have h0 := h3 he
          have := hc.2 hg
          exact ⟨by simp only; omega, rfl, fun hc' => by have := hC hc'; omega⟩
    all_goals
      dsimp only
      split_ifs with h0
      · refine ⟨by simp [Th.window, hnW, h0], by simp [Th.pending]; omega, h.count,
          fun he => by have := (h.excl he).1; omega, ?_⟩
        simp only
        exact LogOk.append_last (hobj ▸ h.log) rfl hobj
          (Setup.locked_mk' (hst.trans (by simp [hpc, Pc.state])) (hr h0) (hw (hr h0)))
      · exact ⟨by simp [Th.window, hnW, hobj]; omega, by simpa [Th.pending] using hp, h.count,
          fun he => ⟨(h.excl he).1, rfl, (h.excl he).2.2⟩, h.log⟩
  case closeStateEnter =>
    split_ifs at hs <;> simp only [Option.some.injEq, Prod.mk.injEq, reduceCtorEq] at hs <;>
      obtain ⟨rfl, rfl, rfl⟩ := hs <;>
      exact ⟨by simpa [Th.window, hpc] using h.objset, by simpa [Th.pending, hpc] using h.pending,
        h.count, by simp, h.log⟩
  case closeZslExit =>
    simp only [Option.some.injEq, Prod.mk.injEq] at hs
    obtain ⟨rfl, rfl, rfl⟩ := hs
    have hnW : ¬W := fun hw' => by simp [(hW hw').1, hpc, Pc.state] at hst
    have hc : 1 ≤ th.count ∧ (th.geom = false → th.count = 1) := by simpa [Th.Locals, hpc] using hl
    have hdat : if th.geom then th.newOpenCount = z.openCount - th.count ∧
        (toU32 th.newOpenCount = 0 → th.dropSuspend = true)
      else z.openCount = 1 → th.dropSuspend = true := by simpa [Th.Data, hpc] using hd
    have hp := h.pending
    simp only [Th.pending, hpc] at hp
    have hobj : z.objset = true := by simp [h.objset]; omega
    have hex : z.excl = false := by
      cases he : z.excl
      · rfl
      · simpa [hpc, Pc.closePast] using (h.excl he).2.1
    -- the store does not go below zero, so it is the difference
    have hcount := Th.stored_count hd hl hpc (by omega) hb
    have hds : z.openCount - th.count = 0 → th.dropSuspend = true := by
      cases hg : th.geom <;> simp only [hg, Bool.false_eq_true, ↓reduceIte] at hdat hcount
      · intro h0; exact hdat (by have := hc.2 hg; omega)
      · intro h0; exact hdat.2 (by omega)
    have hr : z.openCount - th.count = 0 → th.holds.suspend = .reader := fun h0 => by
      simp [hh, Th.expected, Holds.expect, hpc, Pc.suspend, Pc.suspendIfDrop, hds h0]
    unfold closeStore lastCloseIfZero lastClose
    simp only [hcount]
    split_ifs with h0
    · refine ⟨by simp [Th.window, hnW, h0], by simp [Th.pending, Ghost.release]; omega,
        by have := h.count; simp [Ghost.release]; omega, by simp [hex], ?_⟩
      exact LogOk.append_last (hobj ▸ h.log) rfl hobj
        (Setup.locked_mk' (hst.trans (by simp [hpc, Pc.state])) (hr h0) (hw (hr h0)))
    · exact ⟨by simp [Th.window, hnW, hobj]; omega, by simp [Th.pending, Ghost.release]; omega,
        by have := h.count; simp [Ghost.release]; omega, by simp [hex], h.log⟩
  case markRemoving | waitClose | clearPrivate =>
    split_ifs at hs <;> simp only [Option.some.injEq, Prod.mk.injEq, reduceCtorEq] at hs <;>
      obtain ⟨rfl, rfl, rfl⟩ := hs <;>
      exact ⟨by simpa [Th.window, hpc] using h.objset, by simpa [Th.pending, hpc] using h.pending,
        h.count, fun he => ⟨(h.excl he).1, rfl, (h.excl he).2.2⟩, h.log⟩
  case renameMinor =>
    split_ifs at hs with hg
    · simp only [Option.some.injEq, Prod.mk.injEq] at hs
      obtain ⟨rfl, rfl, rfl⟩ := hs
      simp only [Bool.and_eq_true, bne_iff_ne, ne_eq, Bool.or_eq_true, decide_eq_true_eq] at hg
      have hnW : ¬W := fun hw' => by simp [(hW hw').2] at hg
      unfold renameForcedClose lastClose
      split_ifs with hr
      · simp only [Bool.and_eq_true, decide_eq_true_eq] at hr
        have hP : P = 0 := hdrain (by simpa [hr.1] using hg.2) hr.1
        have hobj : z.objset = true := by simp [h.objset]; omega
        refine ⟨by simp [Th.window, hnW], by simp [Th.pending, hP], by have := h.count; simp; omega,
          by simp, ?_⟩
        exact LogOk.append_last (hobj ▸ h.log) rfl hobj (fun hf => by simp [Setup.mk'] at hf)
      · exact ⟨by simpa [Th.window, hpc] using h.objset, by simpa [Th.pending, hpc] using h.pending,
          h.count, fun he => ⟨(h.excl he).1, rfl, (h.excl he).2.2⟩, h.log⟩

end Zvol.OpenClose
