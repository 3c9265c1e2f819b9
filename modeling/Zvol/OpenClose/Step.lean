import Zvol.OpenClose.State

/-!
# The open and close paths: steps

`runStep s t o` is the next step of thread `t`, translated from `zvol_geom_access`,
`zvol_geom_open`, `zvol_geom_close`, `zvol_cdev_open` and `zvol_cdev_close`: one lock operation
with the code that follows it up to the next one. A blocking acquisition (`rw_enter`,
`mutex_enter`, `g_topology_lock`) is enabled only when the lock is free enough; a try
(`rw_tryenter`, `mutex_tryenter`) succeeds exactly when it is. `startStep s t c` is a call of an
entry point by an idle thread, under what its callers promise: GEOM's access deltas all have
one sign and, with their sum, fit in an `int`, and no close gives back more than was granted and
not yet claimed (`Ghost.held`).
The environment (`Call.suspend` to `Call.renameMinor`) takes the same locks as the code it
stands for.
-/

namespace Zvol.OpenClose

variable {n : Nat}

namespace Sys

variable (s : Sys n)

/-- No thread holds `zv_state_lock`. -/
def stateFree : Prop := ∀ t, (s.th t).holds.state = false

/-- No thread holds `spa_namespace_lock`. -/
def nsFree : Prop := ∀ t, (s.th t).holds.spaNamespace = false

/-- No thread holds the GEOM topology lock. -/
def topologyFree : Prop := ∀ t, (s.th t).holds.topology = false

/-- No thread holds `zv_suspend_lock` as writer. -/
def suspendNoWriter : Prop := ∀ t, (s.th t).holds.suspend ≠ .writer

/-- No thread holds `zv_suspend_lock`. -/
def suspendFree : Prop := ∀ t, (s.th t).holds.suspend = .none

/-- No thread holds `zvol_state_lock` as writer. -/
def zvolStateNoWriter : Prop := ∀ t, (s.th t).holds.zvolState ≠ .writer

/-- No thread holds `zvol_state_lock`. -/
def zvolStateFree : Prop := ∀ t, (s.th t).holds.zvolState = .none

/-- Some thread holds `zv_suspend_lock` as writer. -/
def writerActive : Prop := ∃ t, (s.th t).holds.suspend = .writer

instance : Decidable s.stateFree :=
  inferInstanceAs (Decidable (∀ t, (s.th t).holds.state = false))
instance : Decidable s.nsFree :=
  inferInstanceAs (Decidable (∀ t, (s.th t).holds.spaNamespace = false))
instance : Decidable s.topologyFree :=
  inferInstanceAs (Decidable (∀ t, (s.th t).holds.topology = false))
instance : Decidable s.suspendNoWriter :=
  inferInstanceAs (Decidable (∀ t, (s.th t).holds.suspend ≠ .writer))
instance : Decidable s.suspendFree :=
  inferInstanceAs (Decidable (∀ t, (s.th t).holds.suspend = .none))
instance : Decidable s.zvolStateNoWriter :=
  inferInstanceAs (Decidable (∀ t, (s.th t).holds.zvolState ≠ .writer))
instance : Decidable s.zvolStateFree :=
  inferInstanceAs (Decidable (∀ t, (s.th t).holds.zvolState = .none))
instance : Decidable s.writerActive :=
  inferInstanceAs (Decidable (∃ t, (s.th t).holds.suspend = .writer))

/-- `s` after thread `t` moved to `th`, with the volume `z` and the ghost state `g`. -/
def put (t : Fin n) (z : Zv) (g : Ghost) (th : Th) : Sys n := ⟨z, Function.update s.th t th, g⟩

end Sys

/-- The thread is in `zvol_cdev_open` or `zvol_cdev_close`: what `destroy_dev` waits for. -/
def Th.inCdev (th : Th) : Bool :=
  !th.geom && match th.pc with
    | .openRetry | .openNoPriv | .openStateEnter | .openGone | .openTrySuspend
    | .openFbStateExit | .openFbSuspend | .openFbStateEnter | .openFbSuspendExit
    | .openZslExit | .openTryNs | .openNsStateExit | .openNsSuspendExit | .openFirstOpen
    | .openNsExit | .openChecks | .openOutZvLocked | .openOutLocked
    | .closeEnter | .closeNoPriv | .closeStateEnter | .closeTrySuspend | .closeFbStateExit
    | .closeFbSuspend | .closeFbStateEnter | .closeFbSuspendExit | .closeZslExit
    | .closeStateExit | .closeOutSuspend => true
    | _ => false

/-- No thread is inside a cdev entry point. -/
def Sys.cdevDrained (s : Sys n) : Prop := ∀ t, (s.th t).inCdev = false

instance (s : Sys n) : Decidable s.cdevDrained :=
  inferInstanceAs (Decidable (∀ t, (s.th t).inCdev = false))

/-- What a thread sees of the other threads' locks. -/
structure View where
  stateFree : Bool
  nsFree : Bool
  topologyFree : Bool
  suspendNoWriter : Bool
  suspendFree : Bool
  zvolStateNoWriter : Bool
  zvolStateFree : Bool
  writerActive : Bool
  cdevDrained : Bool

/-- The view of the threads of `s`. -/
def Sys.view (s : Sys n) : View :=
  ⟨s.stateFree, s.nsFree, s.topologyFree, s.suspendNoWriter, s.suspendFree, s.zvolStateNoWriter,
    s.zvolStateFree, s.writerActive, s.cdevDrained⟩

/-- The ghost state after a release: releasing a lock the thread does not hold is a fault. -/
def Ghost.release (g : Ghost) (held : Bool) : Ghost := { g with fault := g.fault || !held }

/-- `zvol_last_close`: the objset is disowned; the call is logged as `e`. -/
def lastClose (z : Zv) (g : Ghost) (e : Setup) : Zv × Ghost :=
  ({ z with objset := false }, { g with log := g.log ++ [e] })

/-- The log entry of a call made with the volume `z`, by a thread holding `h`, while a writer
holds `zv_suspend_lock` or not (`w`). -/
def Setup.mk' (first ok forced : Bool) (z : Zv) (h : Holds) (w : Bool) : Setup :=
  ⟨first, ok, forced, z.openCount, z.objset, h.state, h.suspend = .reader, w⟩

/-- The open and close functions return `e`: into `zvol_geom_access`, which then takes the
topology lock back, or to the caller of the cdev entry point. -/
def Th.retTo (th : Th) (e : Int) : Th :=
  if th.geom then { th with pc := .accLock, err := e }
  else { th with pc := .callerExit, err := e, ret := some e }

@[simp] theorem Th.retTo_holds (th : Th) (e : Int) : (th.retTo e).holds = th.holds := by
  unfold Th.retTo; split <;> rfl

@[simp] theorem Th.retTo_geom (th : Th) (e : Int) : (th.retTo e).geom = th.geom := by
  unfold Th.retTo; split <;> rfl

@[simp] theorem Th.retTo_pc (th : Th) (e : Int) :
    (th.retTo e).pc = if th.geom then .accLock else .callerExit := by
  unfold Th.retTo; split <;> simp_all

/-- `if (zv->zv_open_count == 0) { zvol_last_close(zv); wakeup(zv); }`, where the open
functions end (`out_opened`) and where the close functions store their new count. -/
def lastCloseIfZero (z : Zv) (g : Ghost) (h : Holds) (w : Bool) : Zv × Ghost :=
  if z.openCount = 0 then lastClose z g (Setup.mk' false true false z h w) else (z, g)

/-- The checks of the open functions after the first open (`zvol_geom_open`,
`zvol_cdev_open`): the read-only check (with the encryption version check on the GEOM side),
the exclusivity checks, and the grant `zv_open_count += count`, modulo 2³². -/
def openChecks (z : Zv) (g : Ghost) (th : Th) (o : Outcome) : Zv × Ghost × Int :=
  if th.fwrite && (z.rdonly || (th.geom && o.incompatible)) then (z, g, EROFS)
  else if z.excl then (z, g, EBUSY)
  else if th.oexcl && z.openCount != 0 then (z, g, EBUSY)
  else ({ z with excl := z.excl || th.oexcl, openCount := toU32 (z.openCount + th.count) },
    { g with granted := g.granted + th.count, held := g.held + th.count
             wrapped := g.wrapped || decide (2 ^ 32 ≤ z.openCount + th.count) }, 0)

/-- The store of the close functions: `zv_open_count = new_open_count` (`zvol_geom_close`) or
`zv_open_count--` (`zvol_cdev_close`), modulo 2³², and the last close when it reaches zero. -/
def closeStore (z : Zv) (g : Ghost) (th : Th) (w : Bool) : Zv × Ghost :=
  lastCloseIfZero
    { z with openCount := toU32 (if th.geom then th.newOpenCount else (z.openCount : Int) - 1) }
    { g with closed := g.closed + th.count } th.holds w

/-- `zvol_os_rename_minor` on a DEV volume: `destroy_dev` of the old node, then the forced
close of its openers. -/
def renameForcedClose (z : Zv) (g : Ghost) (h : Holds) (w : Bool) : Zv × Ghost :=
  if z.volmode = .dev && 0 < z.openCount then
    lastClose { z with excl := false, openCount := 0 }
      { g with revoked := g.revoked + z.openCount, held := 0 }
      (Setup.mk' false true true { z with excl := false, openCount := 0 } { h with state := true } w)
  else (z, g)

@[simp] theorem lastCloseIfZero_fault (z : Zv) (g : Ghost) (h : Holds) (w : Bool) :
    (lastCloseIfZero z g h w).2.fault = g.fault := by
  unfold lastCloseIfZero; split_ifs <;> rfl

@[simp] theorem lastCloseIfZero_volmode (z : Zv) (g : Ghost) (h : Holds) (w : Bool) :
    (lastCloseIfZero z g h w).1.volmode = z.volmode := by
  unfold lastCloseIfZero; split_ifs <;> rfl

@[simp] theorem lastCloseIfZero_revoked (z : Zv) (g : Ghost) (h : Holds) (w : Bool) :
    (lastCloseIfZero z g h w).2.revoked = g.revoked := by
  unfold lastCloseIfZero; split_ifs <;> rfl

@[simp] theorem lastCloseIfZero_wrapped (z : Zv) (g : Ghost) (h : Holds) (w : Bool) :
    (lastCloseIfZero z g h w).2.wrapped = g.wrapped := by
  unfold lastCloseIfZero; split_ifs <;> rfl

@[simp] theorem lastCloseIfZero_openCount (z : Zv) (g : Ghost) (h : Holds) (w : Bool) :
    (lastCloseIfZero z g h w).1.openCount = z.openCount := by
  unfold lastCloseIfZero; split_ifs <;> rfl

/-- The log after `lastCloseIfZero`: one entry more, a close that is not forced, when the count
is zero. -/
theorem lastCloseIfZero_log (z : Zv) (g : Ghost) (h : Holds) (w : Bool) :
    (lastCloseIfZero z g h w).2.log =
      g.log ++ if z.openCount = 0 then [Setup.mk' false true false z h w] else [] := by
  unfold lastCloseIfZero; split_ifs <;> simp [lastClose]

@[simp] theorem openChecks_revoked (z : Zv) (g : Ghost) (th : Th) (o : Outcome) :
    (openChecks z g th o).2.1.revoked = g.revoked := by
  unfold openChecks; split_ifs <;> rfl

@[simp] theorem openChecks_log (z : Zv) (g : Ghost) (th : Th) (o : Outcome) :
    (openChecks z g th o).2.1.log = g.log := by
  unfold openChecks; split_ifs <;> rfl

@[simp] theorem openChecks_fault (z : Zv) (g : Ghost) (th : Th) (o : Outcome) :
    (openChecks z g th o).2.1.fault = g.fault := by
  unfold openChecks; split_ifs <;> rfl

@[simp] theorem openChecks_volmode (z : Zv) (g : Ghost) (th : Th) (o : Outcome) :
    (openChecks z g th o).1.volmode = z.volmode := by
  unfold openChecks; split_ifs <;> rfl

/-- The checks keep the count a `uint32_t`, and a wrap once flagged stays flagged. -/
theorem openChecks_bound (z : Zv) (g : Ghost) (th : Th) (o : Outcome) (h : z.openCount < 2 ^ 32) :
    (openChecks z g th o).1.openCount < 2 ^ 32 ∧
      (g.wrapped = true → (openChecks z g th o).2.1.wrapped = true) := by
  have := toU32_lt (z.openCount + th.count)
  constructor
  · unfold openChecks; split_ifs <;> simp <;> omega
  · intro hw; unfold openChecks; split_ifs <;> simp [hw]

@[simp] theorem renameForcedClose_fault (z : Zv) (g : Ghost) (h : Holds) (w : Bool) :
    (renameForcedClose z g h w).2.fault = g.fault := by
  unfold renameForcedClose; split_ifs <;> rfl

@[simp] theorem renameForcedClose_volmode (z : Zv) (g : Ghost) (h : Holds) (w : Bool) :
    (renameForcedClose z g h w).1.volmode = z.volmode := by
  unfold renameForcedClose; split_ifs <;> rfl

@[simp] theorem renameForcedClose_wrapped (z : Zv) (g : Ghost) (h : Holds) (w : Bool) :
    (renameForcedClose z g h w).2.wrapped = g.wrapped := by
  unfold renameForcedClose; split_ifs <;> rfl

theorem renameForcedClose_openCount_le (z : Zv) (g : Ghost) (h : Holds) (w : Bool) :
    (renameForcedClose z g h w).1.openCount ≤ z.openCount := by
  unfold renameForcedClose; split_ifs <;> simp [lastClose]

/-- The next step of a thread `th` of a volume `z`, seeing the other threads' locks as `v`,
with the collaborators answering `o`: the volume, ghost state and thread after it, or `none`
when the thread is idle or waits for a lock. -/
def threadStep (v : View) (z : Zv) (g : Ghost) (th : Th) (o : Outcome) :
    Option (Zv × Ghost × Th) :=
  let h := th.holds
  let w := v.writerActive
  match th.pc with
  | .idle => none
  -- zvol_geom_access
  | .accStart =>
    if !z.priv then
      some (z, g, { th with pc := .callerExit, ret := some (if th.delta ≤ 0 then 0 else z.ppError) })
    else if th.delta = 0 then some (z, g, { th with pc := .callerExit, ret := some 0 })
    else some (z, g, { th with pc := .accUnlock })
  | .accUnlock =>
    let g := g.release h.topology
    let th : Th := { th with holds := { h with topology := false } }
    if (0 : Int) < th.delta then
      if !z.zpoolOnZvol && th.probe then some (z, g, th.retTo EOPNOTSUPP)
      else some (z, g, { th with pc := .openRetry, count := th.delta.toNat })
    else some (z, g, { th with pc := .closeEnter, count := (-th.delta).toNat, dropSuspend := true })
  | .accLock =>
    if v.topologyFree then
      some (z, g, { th with pc := .callerExit, holds := { h with topology := true }, ret := some th.err })
    else none
  | .callerExit =>
    let h' := { h with topology := h.topology && !th.geom
                       spaNamespace := h.spaNamespace && !th.ownsNs }
    some (z, g.release ((!th.geom || h.topology) && (!th.ownsNs || h.spaNamespace)),
      { th with pc := .idle, holds := h' })
  -- zvol_geom_open, zvol_cdev_open
  | .openRetry =>
    if v.zvolStateNoWriter then
      some (z, g, { th with holds := { h with zvolState := .reader }
                            pc := if z.priv then .openStateEnter else .openNoPriv })
    else none
  | .openNoPriv =>
    some (z, g.release (h.zvolState != .none),
      { th with holds := { h with zvolState := .none }, err := ENXIO, pc := .openOutLocked })
  | .openStateEnter =>
    if v.stateFree then
      let th := { th with holds := { h with state := true } }
      if z.dying || (th.geom && z.removing) then some (z, g, { th with pc := .openGone })
      else if z.openCount = 0 then
        some (z, g, { th with pc := .openTrySuspend, dropSuspend := true })
      else some (z, g, { th with pc := .openZslExit })
    else none
  | .openGone =>
    some (z, g.release (h.zvolState != .none),
      { th with holds := { h with zvolState := .none }, err := ENXIO, pc := .openOutZvLocked })
  | .openTrySuspend =>
    if v.suspendNoWriter then
      some (z, g, { th with holds := { h with suspend := .reader }, pc := .openZslExit })
    else some (z, g, { th with pc := .openFbStateExit })
  | .openFbStateExit =>
    some (z, g.release h.state, { th with holds := { h with state := false }, pc := .openFbSuspend })
  | .openFbSuspend =>
    if v.suspendNoWriter then
      some (z, g, { th with holds := { h with suspend := .reader }, pc := .openFbStateEnter })
    else none
  | .openFbStateEnter =>
    if v.stateFree then
      some (z, g, { th with holds := { h with state := true }
                            pc := if z.openCount ≠ 0 then .openFbSuspendExit else .openZslExit })
    else none
  | .openFbSuspendExit =>
    some (z, g.release (h.suspend != .none),
      { th with holds := { h with suspend := .none }, dropSuspend := false, pc := .openZslExit })
  | .openZslExit =>
    let g := g.release (h.zvolState != .none)
    let th := { th with holds := { h with zvolState := .none } }
    if z.openCount = 0 then
      some (z, g, { th with dropNamespace := false
                            pc := if h.spaNamespace then .openFirstOpen else .openTryNs })
    else some (z, g, { th with pc := .openChecks })
  | .openTryNs =>
    if v.nsFree then
      some (z, g, { th with holds := { h with spaNamespace := true }
                            dropNamespace := true
                            pc := .openFirstOpen })
    else some (z, g, { th with pc := .openNsStateExit })
  | .openNsStateExit =>
    some (z, g.release h.state, { th with holds := { h with state := false }, pc := .openNsSuspendExit })
  | .openNsSuspendExit =>
    some (z, g.release (h.suspend != .none),
      { th with holds := { h with suspend := .none }, dropSuspend := false, pc := .openRetry })
  | .openFirstOpen =>
    let ok := o.firstOpen = 0
    let g := { g with log := g.log ++ [Setup.mk' true ok false z h w] }
    let z := if ok then { z with objset := true, rdonly := o.readonly } else z
    some (z, g, { th with err := o.firstOpen
                          pc := if th.dropNamespace then .openNsExit
                            else if ok then .openChecks else .openOutZvLocked })
  | .openNsExit =>
    some (z, g.release h.spaNamespace,
      { th with holds := { h with spaNamespace := false }
                pc := if th.err = 0 then .openChecks else .openOutZvLocked })
  | .openChecks =>
    let r := openChecks z g th o
    let r' := lastCloseIfZero r.1 r.2.1 h w
    some (r'.1, r'.2, { th with err := r.2.2, pc := .openOutZvLocked })
  | .openOutZvLocked =>
    some (z, g.release h.state, { th with holds := { h with state := false }, pc := .openOutLocked })
  | .openOutLocked =>
    if th.dropSuspend then
      some (z, g.release (h.suspend != .none),
        { th with holds := { h with suspend := .none } }.retTo th.err)
    else some (z, g, th.retTo th.err)
  -- zvol_geom_close, zvol_cdev_close
  | .closeEnter =>
    if v.zvolStateNoWriter then
      some (z, g, { th with holds := { h with zvolState := .reader }
                            pc := if z.priv then .closeStateEnter else .closeNoPriv })
    else none
  | .closeNoPriv =>
    some (z, g.release (h.zvolState != .none),
      { th with holds := { h with zvolState := .none } }.retTo ENXIO)
  | .closeStateEnter =>
    if v.stateFree then
      let z := { z with excl := false }
      let th := { th with holds := { h with state := true } }
      if th.geom then
        let noc : Int := z.openCount - th.count
        if toU32 noc = 0 then some (z, g, { th with newOpenCount := noc, pc := .closeTrySuspend })
        else some (z, g, { th with newOpenCount := noc, dropSuspend := false, pc := .closeZslExit })
      else if z.openCount = 1 then some (z, g, { th with pc := .closeTrySuspend })
      else some (z, g, { th with dropSuspend := false, pc := .closeZslExit })
    else none
  | .closeTrySuspend =>
    if v.suspendNoWriter then
      some (z, g, { th with holds := { h with suspend := .reader }, pc := .closeZslExit })
    else some (z, g, { th with pc := .closeFbStateExit })
  | .closeFbStateExit =>
    some (z, g.release h.state, { th with holds := { h with state := false }, pc := .closeFbSuspend })
  | .closeFbSuspend =>
    if v.suspendNoWriter then
      some (z, g, { th with holds := { h with suspend := .reader }, pc := .closeFbStateEnter })
    else none
  | .closeFbStateEnter =>
    if v.stateFree then
      let th := { th with holds := { h with state := true } }
      if th.geom then
        let noc : Int := z.openCount - th.count
        some (z, g, { th with newOpenCount := noc
                              pc := if toU32 noc ≠ 0 then .closeFbSuspendExit else .closeZslExit })
      else
        some (z, g, { th with pc := if z.openCount ≠ 1 then .closeFbSuspendExit else .closeZslExit })
    else none
  | .closeFbSuspendExit =>
    some (z, g.release (h.suspend != .none),
      { th with holds := { h with suspend := .none }, dropSuspend := false, pc := .closeZslExit })
  | .closeZslExit =>
    let th' := { th with holds := { h with zvolState := .none }, pc := .closeStateExit }
    let r := closeStore z (g.release (h.zvolState != .none)) th' w
    some (r.1, r.2, th')
  | .closeStateExit =>
    some (z, g.release h.state, { th with holds := { h with state := false }, pc := .closeOutSuspend })
  | .closeOutSuspend =>
    if th.dropSuspend then
      some (z, g.release (h.suspend != .none), { th with holds := { h with suspend := .none } }.retTo 0)
    else some (z, g, th.retTo 0)
  -- the environment
  | .suspendEnter =>
    if v.suspendFree then
      some (z, g, { th with holds := { h with suspend := .writer }, pc := .suspendExit })
    else none
  | .suspendExit =>
    some (z, g.release (h.suspend != .none), { th with holds := { h with suspend := .none }, pc := .idle })
  | .nsEnter =>
    if v.nsFree then some (z, g, { th with holds := { h with spaNamespace := true }, pc := .nsExit })
    else none
  | .nsExit =>
    some (z, g.release h.spaNamespace, { th with holds := { h with spaNamespace := false }, pc := .idle })
  | .markRemoving =>
    if v.zvolStateFree && v.stateFree then
      some ({ z with removing := true }, g, { th with pc := .idle })
    else none
  | .waitClose =>
    if v.stateFree then
      some (if z.volmode = .geom then { z with dying := true } else z, g, { th with pc := .idle })
    else none
  | .clearPrivate =>
    if v.zvolStateFree then some ({ z with priv := false }, g, { th with pc := .idle }) else none
  | .renameMinor =>
    if v.zvolStateNoWriter && v.stateFree && (z.volmode != .geom || v.topologyFree) &&
        (z.volmode != .dev || v.cdevDrained) then
      let r := renameForcedClose z g h w
      some (r.1, r.2, { th with pc := .idle })
    else none

/-- The next step of thread `t`, with the collaborators answering `o`. -/
def runStep (s : Sys n) (t : Fin n) (o : Outcome) : Option (Sys n) :=
  (threadStep s.view s.zv s.g (s.th t) o).map fun r => s.put t r.1 r.2.1 r.2.2

/-- A call of `c` by thread `t`, which must be idle; the caller takes what it holds around the
call (the topology lock for GEOM, `spa_namespace_lock` if it owns it). -/
def startStep (s : Sys n) (t : Fin n) (c : Call) : Option (Sys n) :=
  if (s.th t).pc ≠ .idle then none else
  match c with
  | .geomAccess acr acw ace probe ownsNs =>
    let d := acr + acw + ace
    if s.zv.volmode = .geom ∧ ((0 ≤ acr ∧ 0 ≤ acw ∧ 0 ≤ ace) ∨ (acr ≤ 0 ∧ acw ≤ 0 ∧ ace ≤ 0)) ∧
        (fitsInt acr && fitsInt acw && fitsInt ace && fitsInt d) ∧
        s.topologyFree ∧ (ownsNs → s.nsFree) ∧ (-d).toNat ≤ s.g.held then
      some (s.put t s.zv { s.g with held := s.g.held - (-d).toNat }
        { pc := .accStart, geom := true, ownsNs, delta := d, probe, fwrite := acw != 0,
          holds := { topology := true, spaNamespace := ownsNs } })
    else none
  | .cdevOpen fwrite oexcl ownsNs =>
    if s.zv.volmode = .dev ∧ (ownsNs → s.nsFree) then
      some (s.put t s.zv s.g
        { pc := .openRetry, ownsNs, fwrite, oexcl, count := 1, holds := { spaNamespace := ownsNs } })
    else none
  | .cdevClose =>
    if s.zv.volmode = .dev ∧ 1 ≤ s.g.held then
      some (s.put t s.zv { s.g with held := s.g.held - 1 } { pc := .closeEnter, count := 1, dropSuspend := true })
    else none
  | .suspend => some (s.put t s.zv s.g { pc := .suspendEnter })
  | .spaNamespace => some (s.put t s.zv s.g { pc := .nsEnter })
  | .markRemoving => some (s.put t s.zv s.g { pc := .markRemoving })
  | .waitClose => some (s.put t s.zv s.g { pc := .waitClose })
  | .clearPrivate => some (s.put t s.zv s.g { pc := .clearPrivate })
  | .renameMinor => some (s.put t s.zv s.g { pc := .renameMinor })

/-- One step of the system. -/
def step (s : Sys n) : Act n → Option (Sys n)
  | .start t c => startStep s t c
  | .run t o => runStep s t o

/-- The state after the steps `as`, each taken in turn, or `none` if one is not enabled. -/
def runActs (s : Sys n) : List (Act n) → Option (Sys n)
  | [] => some s
  | a :: as => (step s a).bind fun s' => runActs s' as

/-- `s'` follows `s` by some steps. -/
def Sys.Leads (s s' : Sys n) : Prop := ∃ as, runActs s as = some s'

/-- A volume before its first open, with every thread idle. -/
structure Sys.Init (s : Sys n) : Prop where
  openCount : s.zv.openCount = 0
  excl : s.zv.excl = false
  objset : s.zv.objset = false
  th : ∀ t, s.th t = {}
  g : s.g = {}

/-- The states that runs reach in which every call is allowed by `allow`. -/
inductive ReachBy (allow : Call → Prop) : Sys n → Prop
  | init {s : Sys n} : s.Init → ReachBy allow s
  | start {s s' : Sys n} {t : Fin n} {c : Call} :
      ReachBy allow s → allow c → startStep s t c = some s' → ReachBy allow s'
  | run {s s' : Sys n} {t : Fin n} {o : Outcome} :
      ReachBy allow s → runStep s t o = some s' → ReachBy allow s'

/-- The states that runs reach. -/
def Reach (s : Sys n) : Prop := ReachBy (fun _ => True) s

end Zvol.OpenClose
