import Zvol.OpenClose.Step

/-!
# The open and close paths: the locks each point of the code holds

`Th.expected`: the locks a thread holds at each point of the code, as the code takes and
releases them, `drop_suspend` and `drop_namespace` included; `Th.Ok`: the thread's locks are
those, and its locals are what the code leaves in them there. A step keeps `Th.Ok`, releases
only locks the thread holds, and takes only locks that the other threads leave free
(`threadStep_spec`).
-/

namespace Zvol.OpenClose

namespace Pc

/-- `zvol_state_lock` is held, as reader. -/
def zsl : Pc → Bool
  | .openNoPriv | .openStateEnter | .openGone | .openTrySuspend | .openFbStateExit
  | .openFbSuspend | .openFbStateEnter | .openFbSuspendExit | .openZslExit
  | .closeNoPriv | .closeStateEnter | .closeTrySuspend | .closeFbStateExit | .closeFbSuspend
  | .closeFbStateEnter | .closeFbSuspendExit | .closeZslExit => true
  | _ => false

/-- `zv_state_lock` is held. -/
def state : Pc → Bool
  | .openGone | .openTrySuspend | .openFbStateExit | .openFbSuspendExit | .openZslExit
  | .openTryNs | .openNsStateExit | .openFirstOpen | .openNsExit | .openChecks
  | .openOutZvLocked
  | .closeTrySuspend | .closeFbStateExit | .closeFbSuspendExit | .closeZslExit
  | .closeStateExit => true
  | _ => false

/-- `zv_suspend_lock` is held as reader, whatever `drop_suspend` says. -/
def suspend : Pc → Bool
  | .openFbStateEnter | .openFbSuspendExit | .openTryNs | .openNsStateExit | .openNsSuspendExit
  | .openFirstOpen | .openNsExit | .closeFbStateEnter | .closeFbSuspendExit => true
  | _ => false

/-- `zv_suspend_lock` is held as reader exactly when `drop_suspend` is set. -/
def suspendIfDrop : Pc → Bool
  | .openZslExit | .openChecks | .openOutZvLocked | .openOutLocked | .closeZslExit
  | .closeStateExit | .closeOutSuspend => true
  | _ => false

/-- The thread is in `zvol_geom_access`, outside the open or close. -/
def acc : Pc → Bool
  | .accStart | .accUnlock | .accLock => true
  | _ => false

/-- The thread is in an open function. -/
def isOpen : Pc → Bool
  | .openRetry | .openNoPriv | .openStateEnter | .openGone | .openTrySuspend | .openFbStateExit
  | .openFbSuspend | .openFbStateEnter | .openFbSuspendExit | .openZslExit | .openTryNs
  | .openNsStateExit | .openNsSuspendExit | .openFirstOpen | .openNsExit | .openChecks
  | .openOutZvLocked | .openOutLocked => true
  | _ => false

/-- The thread is in a close function. -/
def isClose : Pc → Bool
  | .closeEnter | .closeNoPriv | .closeStateEnter | .closeTrySuspend | .closeFbStateExit
  | .closeFbSuspend | .closeFbStateEnter | .closeFbSuspendExit | .closeZslExit
  | .closeStateExit | .closeOutSuspend => true
  | _ => false

/-- The thread runs an entry point for a caller, or returns to it. -/
def inCall : Pc → Bool
  | .idle | .suspendEnter | .suspendExit | .nsEnter | .nsExit | .markRemoving | .waitClose
  | .clearPrivate | .renameMinor => false
  | _ => true

/-- The topology lock, taken by GEOM around `zvol_geom_access`, is held. -/
def topology : Pc → Bool
  | .accStart | .accUnlock | .callerExit => true
  | _ => false

/-- `spa_namespace_lock` is held if the open took it (`drop_namespace`). -/
def nsIfDrop : Pc → Bool
  | .openFirstOpen | .openNsExit => true
  | _ => false

/-- A close that has cleared `ZVOL_EXCL` and not yet stored its new count. -/
def closePast : Pc → Bool
  | .closeTrySuspend | .closeFbStateExit | .closeFbSuspend | .closeFbStateEnter
  | .closeFbSuspendExit | .closeZslExit => true
  | _ => false

end Pc

/-- The locks a thread holds at `p` with `drop_suspend` and `drop_namespace` as given: its
caller's (the topology lock on the GEOM side, `spa_namespace_lock` if it owns it), and those
the code has taken and not released. -/
def Holds.expect (p : Pc) (dropSuspend dropNamespace geom ownsNs : Bool) : Holds where
  zvolState := if p.zsl then .reader else .none
  state := p.state
  suspend := match p with
    | .suspendExit => .writer
    | p => if p.suspend || (p.suspendIfDrop && dropSuspend) then .reader else .none
  spaNamespace := match p with
    | .nsExit => true
    | p => (ownsNs && p.inCall) || (dropNamespace && p.nsIfDrop)
  topology := geom && p.topology

/-- The locks a thread holds at its point of the code. -/
def Th.expected (th : Th) : Holds :=
  Holds.expect th.pc th.dropSuspend th.dropNamespace th.geom th.ownsNs

/-- What the code leaves in a thread's locals at its point: `drop_suspend` and
`drop_namespace`, and the counts `zvol_geom_access` and the cdev entry points pass. -/
def Th.Locals (th : Th) : Prop :=
  let cnt := 1 ≤ th.count ∧ (th.geom = false → th.count = 1)
  match th.pc with
  | .accStart => th.geom = true ∧ th.dropSuspend = false
  | .accUnlock => th.geom = true ∧ th.dropSuspend = false ∧ th.delta ≠ 0
  | .accLock => th.geom = true
  | .openRetry | .openNoPriv | .openStateEnter | .openGone => th.dropSuspend = false ∧ cnt
  | .openTrySuspend | .openFbStateExit | .openFbSuspend | .openFbStateEnter | .openFbSuspendExit
  | .openNsStateExit | .openNsSuspendExit => th.dropSuspend = true ∧ cnt
  | .openTryNs => th.dropSuspend = true ∧ th.ownsNs = false ∧ cnt
  | .openFirstOpen => th.dropSuspend = true ∧ (th.dropNamespace = true → th.ownsNs = false) ∧ cnt
  | .openNsExit => th.dropSuspend = true ∧ th.dropNamespace = true ∧ th.ownsNs = false ∧ cnt
  | .closeEnter | .closeNoPriv | .closeStateEnter | .closeTrySuspend | .closeFbStateExit
  | .closeFbSuspend | .closeFbStateEnter | .closeFbSuspendExit => th.dropSuspend = true ∧ cnt
  | .openZslExit | .openChecks | .openOutZvLocked | .openOutLocked | .closeZslExit
  | .closeStateExit | .closeOutSuspend => cnt
  | _ => True

/-- A thread holds the locks of its point of the code, and its locals are what the code
leaves there; a GEOM open never asks for `O_EXCL`. -/
structure Th.Ok (th : Th) : Prop where
  holds : th.holds = th.expected
  locals : th.Locals
  oexcl : th.geom = true → th.oexcl = false

/-- What a thread that holds `zv_state_lock` knows of the volume at its point of the code: the
open count it has checked, and the `new_open_count` of `zvol_geom_close`. -/
def Th.Data (z : Zv) (th : Th) : Prop :=
  match th.pc with
  | .openTrySuspend | .openFbStateExit | .openTryNs | .openNsStateExit | .openFirstOpen
  | .openNsExit => z.openCount = 0
  | .openFbSuspendExit => z.openCount ≠ 0
  | .openZslExit => th.dropSuspend = true ↔ z.openCount = 0
  | .openChecks => z.openCount = 0 → th.dropSuspend = true
  | .closeTrySuspend | .closeFbStateExit =>
    if th.geom then th.newOpenCount = z.openCount - th.count ∧ toU32 th.newOpenCount = 0
    else z.openCount = 1
  | .closeFbSuspendExit =>
    if th.geom then th.newOpenCount = z.openCount - th.count ∧ toU32 th.newOpenCount ≠ 0
    else z.openCount ≠ 1
  | .closeZslExit =>
    if th.geom then
      th.newOpenCount = z.openCount - th.count ∧ (toU32 th.newOpenCount = 0 → th.dropSuspend = true)
    else z.openCount = 1 → th.dropSuspend = true
  | _ => True

/-- The points of the code whose step writes the volume, or the ghost counts and log. -/
def Pc.touches : Pc → Bool
  | .openFirstOpen | .openChecks | .closeStateEnter | .closeZslExit | .markRemoving | .waitClose
  | .clearPrivate | .renameMinor => true
  | _ => false

/-- The count a close may still take off `zv_open_count`: claimed from `Ghost.held` when the
call starts, given up when the close stores its new count or fails. -/
def Th.pending (th : Th) : Nat :=
  match th.pc with
  | .accStart | .accUnlock => (-th.delta).toNat
  | .closeEnter | .closeNoPriv | .closeStateEnter | .closeTrySuspend | .closeFbStateExit
  | .closeFbSuspend | .closeFbStateEnter | .closeFbSuspendExit | .closeZslExit => th.count
  | _ => 0

/-- An open that has set the volume up, or found it set up at count zero, and has not yet
added its count: `zv_objset` is set with no count to show for it. -/
def Th.window (z : Zv) (th : Th) : Prop :=
  (th.pc = .openNsExit ∧ th.err = 0) ∨ (th.pc = .openChecks ∧ z.openCount = 0)

/-- The locks a thread holds. -/
def Holds.held (h : Holds) : Lock → Bool
  | .spaNamespace => h.spaNamespace
  | .zvolState => h.zvolState != .none
  | .suspend => h.suspend != .none
  | .state => h.state
  | .topology => h.topology
  | .range => false

/-- The lock the step at a point blocks on: `g_topology_lock` back in `zvol_geom_access`,
`rw_enter` of `zvol_state_lock` and of `zv_suspend_lock`, `mutex_enter` of `zv_state_lock`, and
the writer section and the holder of `spa_namespace_lock` of the environment. -/
def Pc.takes : Pc → Option Lock
  | .accLock => some .topology
  | .openRetry | .closeEnter => some .zvolState
  | .openStateEnter | .openFbStateEnter | .closeStateEnter | .closeFbStateEnter => some .state
  | .openFbSuspend | .closeFbSuspend | .suspendEnter => some .suspend
  | .nsEnter => some .spaNamespace
  | _ => none

/-- The points whose step tries a lock: `rw_tryenter` of `zv_suspend_lock`, `mutex_tryenter` of
`spa_namespace_lock`. -/
def Pc.tries : Pc → Bool
  | .openTrySuspend | .openTryNs | .closeTrySuspend => true
  | _ => false

/-- A thread at a point that blocks on a lock holds only locks below it. -/
theorem Th.Ok.above_takes {th : Th} (hok : th.Ok) {l : Lock} (h : th.pc.takes = some l) :
    Lock.above th.holds.held l = true := by
  rw [hok.holds]
  clear hok
  obtain ⟨pc, geom, ownsNs, _, _, _, _, _, ds, dn, _, _, _, _⟩ := th
  simp only [Th.expected] at h ⊢
  cases pc <;> simp only [Pc.takes, reduceCtorEq, Option.some.injEq] at h <;> subst h <;>
    revert ds dn geom ownsNs <;> decide

/-! ## One step of a thread -/

/-- `Th.Ok` spelled out, for `simp`. -/
theorem Th.ok_iff {th : Th} :
    th.Ok ↔ th.holds = th.expected ∧ th.Locals ∧ (th.geom = true → th.oexcl = false) :=
  ⟨fun h => ⟨h.1, h.2, h.3⟩, fun h => ⟨h.1, h.2.1, h.2.2⟩⟩

variable {v : View} {z z' : Zv} {g g' : Ghost} {th x : Th} {o : Outcome}

/-- What one step of a thread `th` to `x` does, with the volume going from `z` to `z'` and the
ghost state from `g` to `g'`, while it sees the other threads as `v`. -/
structure StepFacts (v : View) (z z' : Zv) (g g' : Ghost) (th x : Th) : Prop where
  /-- The thread keeps its discipline: the locks of its new point, its locals, and what it
  knows of the volume. -/
  ok : x.Ok
  data : x.Data z'
  /-- It releases only locks it holds. -/
  fault : g'.fault = g.fault
  /-- It takes a lock only if it holds it already or finds it free enough, -/
  state : x.holds.state = true → th.holds.state = true ∨ v.stateFree = true
  ns : x.holds.spaNamespace = true → th.holds.spaNamespace = true ∨ v.nsFree = true
  topology : x.holds.topology = true → th.holds.topology = true ∨ v.topologyFree = true
  reader : x.holds.suspend ≠ .none →
    th.holds.suspend ≠ .none ∨ v.suspendNoWriter = true ∨ v.suspendFree = true
  writer : x.holds.suspend = .writer → th.holds.suspend = .writer ∨ v.suspendFree = true
  /-- and only at a point that blocks on it, or by a try. -/
  takesState : x.holds.state = true →
    th.holds.state = true ∨ th.pc.takes = some .state ∨ th.pc.tries = true
  takesNs : x.holds.spaNamespace = true →
    th.holds.spaNamespace = true ∨ th.pc.takes = some .spaNamespace ∨ th.pc.tries = true
  takesTopology : x.holds.topology = true →
    th.holds.topology = true ∨ th.pc.takes = some .topology ∨ th.pc.tries = true
  takesSuspend : x.holds.suspend ≠ .none →
    th.holds.suspend ≠ .none ∨ th.pc.takes = some .suspend ∨ th.pc.tries = true
  takesZvolState : x.holds.zvolState ≠ .none →
    th.holds.zvolState ≠ .none ∨ th.pc.takes = some .zvolState ∨ th.pc.tries = true
  /-- It keeps its side and the volume's mode. -/
  geom : x.geom = th.geom
  volmode : z'.volmode = z.volmode
  /-- At a point that touches nothing it leaves the volume and the ghost counts alone, claims
  no count, and neither opens a window nor enters a close. -/
  quiet : th.pc.touches = false → z' = z ∧ g' = { g with fault := g'.fault } ∧
    x.pending ≤ th.pending ∧ (x.window z ↔ th.window z) ∧
    (x.pc.closePast = true → th.pc.closePast = true)
  /-- Only the rename's step drops a count or logs a forced close, and no other step enters
  it. -/
  intoRename : x.pc = .renameMinor → th.pc = .renameMinor
  notRename : th.pc ≠ .renameMinor →
    g'.revoked = g.revoked ∧ g'.log.countP (·.forced) = g.log.countP (·.forced)

/-- `StepFacts` as one conjunction, for `simp`. -/
theorem stepFacts_iff : StepFacts v z z' g g' th x ↔
    (x.Ok ∧ x.Data z') ∧ g'.fault = g.fault ∧
    (x.holds.state = true → th.holds.state = true ∨ v.stateFree = true) ∧
    (x.holds.spaNamespace = true → th.holds.spaNamespace = true ∨ v.nsFree = true) ∧
    (x.holds.topology = true → th.holds.topology = true ∨ v.topologyFree = true) ∧
    (x.holds.suspend ≠ .none →
      th.holds.suspend ≠ .none ∨ v.suspendNoWriter = true ∨ v.suspendFree = true) ∧
    (x.holds.suspend = .writer → th.holds.suspend = .writer ∨ v.suspendFree = true) ∧
    (x.holds.state = true →
      th.holds.state = true ∨ th.pc.takes = some .state ∨ th.pc.tries = true) ∧
    (x.holds.spaNamespace = true →
      th.holds.spaNamespace = true ∨ th.pc.takes = some .spaNamespace ∨ th.pc.tries = true) ∧
    (x.holds.topology = true →
      th.holds.topology = true ∨ th.pc.takes = some .topology ∨ th.pc.tries = true) ∧
    (x.holds.suspend ≠ .none →
      th.holds.suspend ≠ .none ∨ th.pc.takes = some .suspend ∨ th.pc.tries = true) ∧
    (x.holds.zvolState ≠ .none →
      th.holds.zvolState ≠ .none ∨ th.pc.takes = some .zvolState ∨ th.pc.tries = true) ∧
    x.geom = th.geom ∧ z'.volmode = z.volmode ∧
    (th.pc.touches = false → z' = z ∧ g' = { g with fault := g'.fault } ∧
      x.pending ≤ th.pending ∧ (x.window z ↔ th.window z) ∧
      (x.pc.closePast = true → th.pc.closePast = true)) ∧
    (x.pc = .renameMinor → th.pc = .renameMinor) ∧
    (th.pc ≠ .renameMinor →
      g'.revoked = g.revoked ∧ g'.log.countP (·.forced) = g.log.countP (·.forced)) :=
  ⟨fun h => ⟨⟨h.1, h.2⟩, h.3, h.4, h.5, h.6, h.7, h.8, h.9, h.10, h.11, h.12, h.13, h.14, h.15,
      h.16, h.17, h.18⟩,
    fun ⟨⟨h1, h2⟩, h3, h4, h5, h6, h7, h8, h9, h10, h11, h12, h13, h14, h15, h16, h17, h18⟩ =>
      ⟨h1, h2, h3, h4, h5, h6, h7, h8, h9, h10, h11, h12, h13, h14, h15, h16, h17, h18⟩⟩

/-- What every step does, in the one case analysis of `threadStep`. -/
theorem threadStep_spec (hok : th.Ok) (hd : th.Data z)
    (hs : threadStep v z g th o = some (z', g', x)) : StepFacts v z z' g g' th x := by
  rw [stepFacts_iff]
  obtain ⟨hh, hl, he⟩ := hok
  rcases th with ⟨pc, geom, ownsNs, delta, probe, fwrite, oexcl, count, ds, dn, err, noc, holds, ret⟩
  simp only [Th.expected] at hh
  subst hh
  cases pc <;> simp only [threadStep] at hs <;> simp only [Th.Locals] at hl <;>
    simp only [Th.Data] at hd <;> (try split_ifs at hs) <;>
    simp only [Option.some.injEq, Prod.mk.injEq, reduceCtorEq, false_and, and_false] at hs <;>
    obtain ⟨rfl, rfl, rfl⟩ := hs <;> (try unfold Th.retTo) <;> (try split) <;>
    simp_all [Ghost.release, closeStore, Th.ok_iff, Th.expected, Holds.expect, Pc.zsl, Pc.state,
      Pc.suspend, Pc.suspendIfDrop, Pc.inCall, Pc.topology, Pc.nsIfDrop, Th.Locals, Th.Data,
      Pc.takes, Pc.tries, Pc.touches, Th.pending, Th.window, Pc.closePast, lastCloseIfZero_log,
      Setup.mk', List.countP_append]
  all_goals first | omega | (cases geom <;> simp_all)

/-- A step takes a lock only at a point that blocks on it, or by a try. -/
theorem StepFacts.takes {v : View} {z z' : Zv} {g g' : Ghost} {th x : Th}
    (h : StepFacts v z z' g g' th x) {l : Lock} (h0 : th.holds.held l = false)
    (h1 : x.holds.held l = true) : th.pc.takes = some l ∨ th.pc.tries = true := by
  cases l <;> simp only [Holds.held, bne_iff_ne, ne_eq, Bool.not_eq_true] at h0 h1
  · exact (h.takesNs h1).resolve_left (by simp [h0])
  · exact (h.takesZvolState h1).resolve_left (by simpa using h0)
  · exact (h.takesSuspend h1).resolve_left (by simpa using h0)
  · exact (h.takesState h1).resolve_left (by simp [h0])
  · exact (h.takesTopology h1).resolve_left (by simp [h0])
  · cases h1

/-- A thread that neither holds `zv_state_lock` nor finds it free changes nothing the lock
protects. -/
theorem threadStep_frame (hs : threadStep v z g th o = some (z', g', x)) (hok : th.Ok)
    (hd : th.Data z) (hst : th.holds.state = false) (hfree : v.stateFree = false) :
    z' = { z with priv := z'.priv } ∧ g' = { g with fault := g'.fault } := by
  cases ht : th.pc.touches
  · obtain ⟨rfl, hg, -⟩ := (threadStep_spec hok hd hs).quiet ht
    exact ⟨rfl, hg⟩
  · -- a point that touches the volume holds `zv_state_lock` or waits for it, but for
    -- `zvol_os_clear_private`, which clears the private pointer only
    have hpc : th.pc.state = false := (congrArg Holds.state hok.holds).symm.trans hst
    rcases th with ⟨pc, geom, ownsNs, delta, probe, fwrite, oexcl, count, ds, dn, err, noc, holds, ret⟩
    cases pc <;> simp only [Pc.touches, reduceCtorEq] at ht <;>
      simp only [Pc.state, reduceCtorEq] at hpc <;>
      simp only [threadStep, hfree, Bool.and_false, Bool.false_and, Bool.false_eq_true, ↓reduceIte,
        reduceCtorEq] at hs
    split_ifs at hs
    obtain ⟨rfl, rfl, -⟩ := hs
    exact ⟨rfl, rfl⟩

theorem Th.Ok.state_eq (hok : th.Ok) : th.holds.state = th.pc.state := by
  rw [hok.holds]; rfl

/-- An open in its window holds `zv_state_lock`. -/
theorem Th.Ok.state_of_window (hok : th.Ok) (hw : th.window z) : th.holds.state = true := by
  rcases hw with ⟨hpc, -⟩ | ⟨hpc, -⟩ <;> simp [hok.state_eq, hpc, Pc.state]

/-- A close past its clear of `ZVOL_EXCL` still owes its count. -/
theorem Th.Ok.pending_of_closePast (hok : th.Ok) (hp : th.pc.closePast = true) :
    1 ≤ th.pending := by
  have hl := hok.locals
  rcases th with ⟨pc, geom, ownsNs, delta, probe, fwrite, oexcl, count, ds, dn, err, noc, holds, ret⟩
  cases pc <;> simp_all [Pc.closePast, Th.pending, Th.Locals]

/-- A cdev thread that owes a count is inside a cdev entry point. -/
theorem Th.Ok.inCdev_of_pending (hok : th.Ok) (hg : th.geom = false) (hp : 0 < th.pending) :
    th.inCdev = true := by
  have hl := hok.locals
  rcases th with ⟨pc, geom, ownsNs, delta, probe, fwrite, oexcl, count, ds, dn, err, noc, holds, ret⟩
  cases pc <;> simp_all [Th.pending, Th.Locals, Th.inCdev]

/-- What a thread knows of the volume is its open count. -/
theorem Th.Data.congr (h : th.Data z) (hc : z'.openCount = z.openCount) : th.Data z' := by
  simpa only [Th.Data, hc] using h

/-- A thread that does not hold `zv_state_lock` claims nothing of the volume. -/
theorem Th.Ok.data (hok : th.Ok) (hst : th.holds.state = false) : th.Data z := by
  have hh := hok.holds
  rcases th with ⟨pc, geom, ownsNs, delta, probe, fwrite, oexcl, count, ds, dn, err, noc, holds, ret⟩
  simp only [Th.expected] at hh
  subst hh
  cases pc <;> simp_all [Th.Data, Holds.expect, Pc.state]

end Zvol.OpenClose
