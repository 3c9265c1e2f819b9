import Zvol.OpenClose.Invariant

/-!
# The open and close paths: what every run guarantees

From the invariant (`Sys.Inv.reach`): the open count is what the successful opens granted less
what the closes stored (`open_count_accounted`, runs with no rename); the successful first opens
and the last closes alternate, and the volume is set up exactly when the count is positive
(`setup_alternates`); `ZVOL_EXCL` means a count of one, and an open that finds it set changes
nothing (`excl_open_count`). Without a rename, every setup and teardown holds `zv_state_lock` and
`zv_suspend_lock` as reader (`setup_locked_without_rename`).

Runs on a concrete volume show where the code does less: the forced close of
`zvol_os_rename_minor` calls `zvol_last_close` without `zv_suspend_lock`, while a suspend section
holds it (`rename_last_close_unlocked`); an open that finds `ZVOL_EXCL` set on a read-only volume
fails with `EROFS`, not `EBUSY` (`excl_open_erofs`); and `zvol_cdev_open` does not check
`ZVOL_REMOVING`, so the count grows after removal marked the volume
(`removing_open_succeeds`).
-/

namespace Zvol.OpenClose

variable {n : Nat} {s s' : Sys n} {v : View} {z z' : Zv} {g g' : Ghost} {th x : Th} {o : Outcome}

/-! ## Runs -/

/-- The state after the steps `as` is reached when the state before is, with each call it
makes allowed. -/
theorem reachBy_runActs {allow : Call → Prop} (as : List (Act n)) (h : ReachBy allow s)
    (ha : ∀ t c, Act.start t c ∈ as → allow c) (hr : runActs s as = some s') : ReachBy allow s' := by
  induction as generalizing s with
  | nil => simp only [runActs, Option.some.injEq] at hr; exact hr ▸ h
  | cons a as ih =>
    simp only [runActs, Option.bind_eq_some] at hr
    obtain ⟨s₁, h₁, h₂⟩ := hr
    refine ih ?_ (fun t c hc => ha t c (List.mem_cons_of_mem _ hc)) h₂
    cases a with
    | start t c => exact ReachBy.start h (ha t c (List.mem_cons_self _ _)) h₁
    | run t o => exact ReachBy.run h h₁

theorem reach_runActs (as : List (Act n)) (h : Reach s) (hr : runActs s as = some s') : Reach s' :=
  reachBy_runActs as h (fun _ _ _ => trivial) hr

/-- A close's count is part of the open count. -/
theorem Sys.Counts.pending_le (hc : s.Counts) (t : Fin n) : (s.th t).pending ≤ s.zv.openCount := by
  have := hc.pending
  rw [s.pending_sum t] at this
  omega

/-! ## Runs without a rename -/

/-- A run with no call of `zvol_os_rename_minor`: no count is dropped by its forced close. -/
structure NoRename (s : Sys n) : Prop where
  revoked : s.g.revoked = 0
  log : s.g.log.countP (·.forced) = 0
  pc : ∀ t, (s.th t).pc ≠ .renameMinor

/-- Runs with no call of `zvol_os_rename_minor` drop no count. -/
theorem NoRename.reach (h : ReachBy (fun c => c ≠ .renameMinor) s) : NoRename s := by
  induction h with
  | init h => exact ⟨by simp [h.g], by simp [h.g], fun t => by simp [h.th t]⟩
  | @start s s' t c _ hc hs ih =>
    by_cases hidle : (s.th t).pc = .idle
    swap
    · simp [startStep, hidle] at hs
    simp only [startStep, hidle, ne_eq, not_true_eq_false, ↓reduceIte] at hs
    have hput : ∀ z g x, x.pc ≠ .renameMinor → g.revoked = s.g.revoked → g.log = s.g.log →
        NoRename (s.put t z g x) := fun z g x hx hr hl =>
      ⟨hr.trans ih.revoked, hl ▸ ih.log, fun u => by
        by_cases hu : u = t
        · subst hu; simpa using hx
        · rw [Sys.put_th_ne _ _ hu]; exact ih.pc u⟩
    cases c <;> simp only at hs <;> (try split_ifs at hs) <;>
      simp only [Option.some.injEq, reduceCtorEq] at hs <;> subst hs <;>
      first | exact absurd rfl hc | exact hput _ _ _ (by simp) rfl rfl
  | @run s s' t o hr hs ih =>
    obtain ⟨⟨z', g', x⟩, hst, rfl⟩ := Option.map_eq_some'.1 hs
    have hi := Sys.Inv.reach hr
    have hf := threadStep_spec (hi.ok t) (hi.data t) hst
    obtain ⟨hrev, hlog⟩ := hf.notRename (ih.pc t)
    refine ⟨hrev.trans ih.revoked, hlog.trans ih.log, fun u => ?_⟩
    by_cases hu : u = t
    · subst hu; simpa using mt hf.intoRename (ih.pc u)
    · rw [Sys.put_th_ne _ _ hu]; exact ih.pc u

/-- A DEV volume before its first open, with three idle threads. -/
def devStart : Sys 3 := ⟨{ volmode := .dev }, fun _ => {}, {}⟩

theorem devStart_init : devStart.Init := ⟨rfl, rfl, rfl, fun _ => rfl, rfl⟩

/-- Threads 0 and 1 open the cdev, and thread 0's close runs up to the store of its count. -/
def devClosingActs : List (Act 3) :=
  [.start 0 (.cdevOpen false false false)] ++ List.replicate 11 (.run 0 {}) ++
    [.start 1 (.cdevOpen false false false)] ++ List.replicate 7 (.run 1 {}) ++
    [.start 0 .cdevClose] ++ List.replicate 2 (.run 0 {})

def devClosing : Sys 3 := (runActs devStart devClosingActs).getD devStart

theorem devClosing_reach : ReachBy (fun c => c ≠ .renameMinor) devClosing :=
  reachBy_runActs devClosingActs (.init devStart_init) (fun t c h => by
    simp [devClosingActs] at h; rcases h with ⟨-, rfl⟩ | ⟨-, rfl⟩ | ⟨-, rfl⟩ <;> simp) rfl

/-- Thread 0 opens the cdev and closes it, then thread 1 opens it: the volume is set up, torn
down and set up again. -/
def devReopenedActs : List (Act 3) :=
  [.start 0 (.cdevOpen false false false)] ++ List.replicate 11 (.run 0 {}) ++
    [.start 0 .cdevClose] ++ List.replicate 7 (.run 0 {}) ++
    [.start 1 (.cdevOpen false false false)] ++ List.replicate 11 (.run 1 {})

def devReopened : Sys 3 := (runActs devStart devReopenedActs).getD devStart

theorem devReopened_reach : ReachBy (fun c => c ≠ .renameMinor) devReopened :=
  reachBy_runActs devReopenedActs (.init devStart_init) (fun t c h => by
    simp [devReopenedActs] at h; rcases h with ⟨-, rfl⟩ | ⟨-, rfl⟩ | ⟨-, rfl⟩ <;> simp) rfl

/-- Thread 0 opens the cdev with `O_EXCL` on a read-only volume, and thread 1's open for writing
runs up to its checks. -/
def devExclCheckingActs : List (Act 3) :=
  [.start 0 (.cdevOpen false true false)] ++ List.replicate 11 (.run 0 { readonly := true }) ++
    [.start 1 (.cdevOpen true false false)] ++ List.replicate 3 (.run 1 {})

def devExclChecking : Sys 3 := (runActs devStart devExclCheckingActs).getD devStart

theorem devExclChecking_reach : Reach devExclChecking :=
  reach_runActs devExclCheckingActs (.init devStart_init) rfl

/-! ## The open count -/

/-- In a run of opens and closes with no rename, where no open pushed `zv_open_count` past
`UINT32_MAX`, the count is what the opens that returned 0 granted less what the closes that
stored their new value took; and a close about to store its new value (`zv_open_count =
new_open_count` or `zv_open_count--`) stores the current count less its own, which never goes
below zero. -/
theorem open_count_accounted (h : ReachBy (fun c => c ≠ .renameMinor) s)
    (hw : s.g.wrapped = false) :
    s.zv.openCount + s.g.closed = s.g.granted ∧
    ∀ t, (s.th t).pc = .closeZslExit →
      (s.th t).count ≤ s.zv.openCount ∧
      toU32 (if (s.th t).geom then (s.th t).newOpenCount else (s.zv.openCount : Int) - 1) =
        s.zv.openCount - (s.th t).count := by
  have hi := Sys.Inv.reach h
  have hc := hi.counts hw
  refine ⟨by have := hc.count; rw [(NoRename.reach h).revoked] at this; omega, fun t hpc => ?_⟩
  have hp : (s.th t).count ≤ s.zv.openCount := by simpa [Th.pending, hpc] using hc.pending_le t
  exact ⟨hp, Th.stored_count (hi.data t) (hi.ok t).locals hpc hp hi.bound⟩

theorem open_count_accounted_closing :
    ReachBy (fun c => c ≠ .renameMinor) devClosing ∧ devClosing.g.wrapped = false ∧
    (devClosing.th 0).pc = .closeZslExit ∧
    (devClosing.zv.openCount + devClosing.g.closed = devClosing.g.granted ∧
    ∀ t, (devClosing.th t).pc = .closeZslExit →
      (devClosing.th t).count ≤ devClosing.zv.openCount ∧
      toU32 (if (devClosing.th t).geom then (devClosing.th t).newOpenCount
        else (devClosing.zv.openCount : Int) - 1) =
        devClosing.zv.openCount - (devClosing.th t).count) :=
  ⟨devClosing_reach, rfl, rfl, open_count_accounted devClosing_reach rfl⟩

/-! ## Setting the volume up -/

/-- The `true`s of an alternating list outnumber its `false`s by its length's parity. -/
theorem alternates_count (m : Nat) :
    ((List.range m).map (fun i => i % 2 == 0)).count true =
      ((List.range m).map (fun i => i % 2 == 0)).count false + m % 2 := by
  induction m with
  | zero => rfl
  | succ m ih =>
    simp only [List.range_succ, List.map_append, List.count_append, List.map_cons, List.map_nil,
      List.count_singleton, ih]
    by_cases hm : m % 2 = 0 <;> simp [hm] <;> omega

theorem Alternates.count {l : List Bool} (h : Alternates l) :
    l.count true = l.count false + l.length % 2 := by
  rw [h, alternates_count]
  simp

/-- With no thread holding `zv_state_lock`, no open is in its window. -/
theorem Sys.Counts.objset_free (hi : s.Inv) (hc : s.Counts) (hfree : s.stateFree) :
    s.zv.objset = true ↔ 0 < s.zv.openCount := by
  rw [hc.objset]
  exact ⟨fun h => h.resolve_right fun ⟨t, ht⟩ => by
    simpa [hfree t] using (hi.ok t).state_of_window ht, .inl⟩

/-- The successful calls of `zvol_first_open` and the calls of `zvol_last_close` alternate,
starting with a first open; each first open is called at count zero on a volume not set up; and
with no thread holding `zv_state_lock`, there is one more successful first open than last close,
and `zv_objset` is set, exactly when the count is positive. All this in runs where no open
pushed `zv_open_count` past `UINT32_MAX`. -/
theorem setup_alternates (h : Reach s) (hw : s.g.wrapped = false) :
    Alternates (setupSeq s.g.log) ∧
    (∀ e ∈ s.g.log, e.first = true → e.openCount = 0 ∧ e.objset = false) ∧
    (s.stateFree →
      ((setupSeq s.g.log).count true = (setupSeq s.g.log).count false + 1 ↔ 0 < s.zv.openCount) ∧
      (s.zv.objset = true ↔ 0 < s.zv.openCount)) := by
  have hi := Sys.Inv.reach h
  have hc := hi.counts hw
  refine ⟨hc.log.alternates, hc.log.first, fun hfree => ⟨?_, hc.objset_free hi hfree⟩⟩
  rw [hc.log.alternates.count, ← hc.objset_free hi hfree, hc.log.parity]
  omega

theorem setup_alternates_reopened :
    Reach devReopened ∧ devReopened.g.wrapped = false ∧ devReopened.g.log.length = 3 ∧
    devReopened.stateFree ∧
    (Alternates (setupSeq devReopened.g.log) ∧
    (∀ e ∈ devReopened.g.log, e.first = true → e.openCount = 0 ∧ e.objset = false) ∧
    (devReopened.stateFree →
      ((setupSeq devReopened.g.log).count true = (setupSeq devReopened.g.log).count false + 1 ↔
        0 < devReopened.zv.openCount) ∧
      (devReopened.zv.objset = true ↔ 0 < devReopened.zv.openCount))) :=
  have h : Reach devReopened := reach_runActs devReopenedActs (.init devStart_init) rfl
  ⟨h, rfl, rfl, by decide, setup_alternates h rfl⟩

/-- In runs with no rename, where no open pushed `zv_open_count` past `UINT32_MAX`, every call
of `zvol_first_open` and `zvol_last_close` is made under `zv_state_lock` and `zv_suspend_lock`
as reader, with no writer in a suspend section. -/
theorem setup_locked_without_rename (h : ReachBy (fun c => c ≠ .renameMinor) s)
    (hw : s.g.wrapped = false) :
    ∀ e ∈ s.g.log, e.stateHeld = true ∧ e.suspendHeld = true ∧ e.writerActive = false :=
  fun e he => ((Sys.Inv.reach h).counts hw).log.locked e he
    (by simpa using List.countP_eq_zero.1 (NoRename.reach h).log e he)

theorem setup_locked_without_rename_reopened :
    ReachBy (fun c => c ≠ .renameMinor) devReopened ∧ devReopened.g.wrapped = false ∧
    devReopened.g.log.length = 3 ∧
    ∀ e ∈ devReopened.g.log, e.stateHeld = true ∧ e.suspendHeld = true ∧ e.writerActive = false :=
  ⟨devReopened_reach, rfl, rfl, setup_locked_without_rename devReopened_reach rfl⟩

/-- The forced close of `zvol_os_rename_minor` calls `zvol_last_close` without
`zv_suspend_lock`, here while a suspend section holds it as writer: thread 0 opens the cdev,
thread 1 enters a suspend section, thread 2 renames the volume. -/
theorem rename_last_close_unlocked :
    ∃ s : Sys 3, Reach s ∧
      ∃ e ∈ s.g.log, e.first = false ∧ e.suspendHeld = false ∧ e.writerActive = true :=
  ⟨_, reach_runActs [.start 0 (.cdevOpen false false false), .run 0 {}, .run 0 {}, .run 0 {},
      .run 0 {}, .run 0 {}, .run 0 {}, .run 0 {}, .run 0 {}, .run 0 {}, .run 0 {}, .run 0 {},
      .start 1 .suspend, .run 1 {}, .start 2 .renameMinor, .run 2 {}] (.init devStart_init) rfl,
    by decide⟩

/-! ## Exclusive opens -/

/-- `ZVOL_EXCL` set means a count of one (so the `ASSERT3U(zv_open_count, ==, 1)` of the close
functions holds); an `O_EXCL` open succeeds only on a count of zero; and an open that checks
while `ZVOL_EXCL` is set leaves the count and the flag alone, returning `EROFS` if it asks to
write a read-only volume (on GEOM, also one with an incompatible encryption version), and
`EBUSY` otherwise. -/
theorem excl_open_count (h : Reach s) (hw : s.g.wrapped = false) :
    (s.zv.excl = true → s.zv.openCount = 1) ∧
    ∀ t o s', (s.th t).pc = .openChecks → runStep s t o = some s' →
      ((s'.th t).err = 0 → (s.th t).oexcl = true → s.zv.openCount = 0) ∧
      (s.zv.excl = true → s'.zv.openCount = s.zv.openCount ∧ s'.zv.excl = true ∧
        (s'.th t).err = if (s.th t).fwrite && (s.zv.rdonly || ((s.th t).geom && o.incompatible))
          then EROFS else EBUSY) := by
  have hc := (Sys.Inv.reach h).counts hw
  refine ⟨fun he => (hc.excl he).1, fun t o s' hpc hs => ?_⟩
  obtain ⟨⟨z', g', x⟩, hst, rfl⟩ := Option.map_eq_some'.1 hs
  simp only [threadStep, hpc, Option.some.injEq, Prod.mk.injEq] at hst
  obtain ⟨rfl, rfl, rfl⟩ := hst
  simp only [Sys.put_zv, Sys.put_th_self]
  constructor
  · unfold openChecks
    split_ifs <;> simp_all [EROFS, EBUSY]
  · intro he
    have h1 := (hc.excl he).1
    unfold openChecks lastCloseIfZero
    split_ifs <;> simp_all

theorem excl_open_count_checking :
    Reach devExclChecking ∧ devExclChecking.g.wrapped = false ∧ devExclChecking.zv.excl = true ∧
    (devExclChecking.th 1).pc = .openChecks ∧
    ((devExclChecking.zv.excl = true → devExclChecking.zv.openCount = 1) ∧
    ∀ t o s', (devExclChecking.th t).pc = .openChecks → runStep devExclChecking t o = some s' →
      ((s'.th t).err = 0 → (devExclChecking.th t).oexcl = true →
        devExclChecking.zv.openCount = 0) ∧
      (devExclChecking.zv.excl = true → s'.zv.openCount = devExclChecking.zv.openCount ∧
        s'.zv.excl = true ∧
        (s'.th t).err = if (devExclChecking.th t).fwrite &&
            (devExclChecking.zv.rdonly || ((devExclChecking.th t).geom && o.incompatible))
          then EROFS else EBUSY)) :=
  ⟨devExclChecking_reach, rfl, rfl, rfl, excl_open_count devExclChecking_reach rfl⟩

/-- An open for writing that checks while `ZVOL_EXCL` is set returns `EROFS` on a read-only
volume: thread 0 opens the cdev with `O_EXCL`, read-only, thread 1 opens it for writing. -/
theorem excl_open_erofs :
    ∃ s : Sys 3, Reach s ∧ s.zv.excl = true ∧ (s.th 1).pc = .openChecks ∧
      (runStep s 1 {}).map (fun s' => (s'.th 1).err) = some EROFS :=
  ⟨devExclChecking, devExclChecking_reach, by decide⟩

/-! ## Removal -/

/-- `zvol_cdev_open` checks `zso_dying` but not `ZVOL_REMOVING`: thread 0 opens the cdev,
removal marks the volume (thread 2), and thread 1 then opens it, returns 0 and raises the count. -/
theorem removing_open_succeeds :
    ∃ s s' : Sys 3, Reach s ∧ s.zv.removing = true ∧ (s.th 1).pc = .idle ∧ s.Leads s' ∧
      (s'.th 1).ret = some 0 ∧ s.zv.openCount < s'.zv.openCount :=
  ⟨_, _, reach_runActs [.start 0 (.cdevOpen false false false), .run 0 {}, .run 0 {}, .run 0 {},
      .run 0 {}, .run 0 {}, .run 0 {}, .run 0 {}, .run 0 {}, .run 0 {}, .run 0 {}, .run 0 {},
      .start 2 .markRemoving, .run 2 {}] (.init devStart_init) rfl, by decide, by decide,
    ⟨[.start 1 (.cdevOpen false false false), .run 1 {}, .run 1 {}, .run 1 {}, .run 1 {}, .run 1 {},
      .run 1 {}, .run 1 {}], rfl⟩, by decide, by decide⟩

end Zvol.OpenClose
