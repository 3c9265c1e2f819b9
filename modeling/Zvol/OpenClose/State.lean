import Zvol.Basic

/-!
# The open and close paths: states

One volume and `n` threads that call its entry points. Each thread is at a point of the code
(`Pc`) between two lock operations, with the locals of the function it runs (`drop_suspend`,
`drop_namespace`, `err`, `new_open_count`) and the locks it holds (`Holds`). A lock is held by
the threads whose `Holds` say so: `zv_state_lock` is free when no thread holds it
(`Sys.stateFree`), and so on. The ghost part (`Ghost`) counts the grants and releases of the
open count, and logs each call of `zvol_first_open` and `zvol_last_close` with the locks its
caller held (`Setup`).
-/

namespace Zvol.OpenClose

/-- The locks a thread holds: `zvol_state_lock`, `zv_state_lock`, `zv_suspend_lock`,
`spa_namespace_lock` and the GEOM topology lock. -/
@[ext] structure Holds where
  zvolState : RwHold := .none
  state : Bool := false
  suspend : RwHold := .none
  spaNamespace : Bool := false
  topology : Bool := false
  deriving DecidableEq, Repr

/-- The fields of a `zvol_state_t` (and of its `zvol_state_os`) that the open and close paths
read or write. `zv_open_count` is a `uint32_t`: every value stored in it is taken modulo 2³²
(`toU32`). -/
structure Zv where
  volmode : Volmode
  /-- `zv_open_count`. -/
  openCount : Nat := 0
  /-- `ZVOL_EXCL` in `zv_flags`. -/
  excl : Bool := false
  /-- `ZVOL_RDONLY` in `zv_flags`. -/
  rdonly : Bool := false
  /-- `ZVOL_REMOVING` in `zv_flags`. -/
  removing : Bool := false
  /-- `zso_dying`. -/
  dying : Bool := false
  /-- `pp->error` of the GEOM provider. -/
  ppError : Int := 0
  /-- `pp->private` (GEOM) or `si_drv2` (DEV) points at the volume. -/
  priv : Bool := true
  /-- `zv_objset` is set: the volume is set up by `zvol_first_open`. -/
  objset : Bool := false
  /-- The `zpool_on_zvol` tunable. -/
  zpoolOnZvol : Bool := false
  deriving DecidableEq, Repr

/-- An entry point that a thread calls. -/
inductive Call where
  /-- GEOM calls `zvol_geom_access(pp, acr, acw, ace)` with the topology lock held; `probe`:
  the thread's `zfs_geom_probe_vdev_key` is set; `ownsNs`: the caller holds
  `spa_namespace_lock`. -/
  | geomAccess (acr acw ace : Int) (probe ownsNs : Bool)
  /-- `zvol_cdev_open`, with or without `FWRITE` and `O_EXCL` in its flags. -/
  | cdevOpen (fwrite oexcl ownsNs : Bool)
  /-- `zvol_cdev_close`. -/
  | cdevClose
  /-- A section that holds `zv_suspend_lock` as writer: `zvol_suspend` to `zvol_resume`, or
  the upgrade in `zvol_ensure_zilog`. -/
  | suspend
  /-- Code elsewhere that holds `spa_namespace_lock` for a while. -/
  | spaNamespace
  /-- Removal marks the volume: `zv_flags |= ZVOL_REMOVING` under `zv_state_lock`, with
  `zvol_state_lock` held as writer. -/
  | markRemoving
  /-- `zvol_wait_close`. -/
  | waitClose
  /-- `zvol_os_clear_private`, under `zvol_state_lock` as writer. -/
  | clearPrivate
  /-- `zvol_os_rename_minor`, under its caller's `zvol_state_lock` and `zv_state_lock`. -/
  | renameMinor
  deriving DecidableEq, Repr

/-- Where a thread is: before the next lock operation of the function it runs. -/
inductive Pc where
  | idle
  -- `zvol_geom_access`: its checks, then `g_topology_unlock()`, and after the open or close
  -- `g_topology_lock()`; then the caller releases what it held around the call
  | accStart | accUnlock | accLock
  | callerExit
  -- `zvol_geom_open` and `zvol_cdev_open`
  | openRetry | openNoPriv | openStateEnter | openGone | openTrySuspend | openFbStateExit
  | openFbSuspend | openFbStateEnter | openFbSuspendExit | openZslExit | openTryNs
  | openNsStateExit | openNsSuspendExit | openFirstOpen | openNsExit | openChecks
  | openOutZvLocked | openOutLocked
  -- `zvol_geom_close` and `zvol_cdev_close`
  | closeEnter | closeNoPriv | closeStateEnter | closeTrySuspend | closeFbStateExit
  | closeFbSuspend | closeFbStateEnter | closeFbSuspendExit | closeZslExit | closeStateExit
  | closeOutSuspend
  -- the environment: a writer section of `zv_suspend_lock`, a holder of
  -- `spa_namespace_lock`, and the steps of removal and rename
  | suspendEnter | suspendExit | nsEnter | nsExit | markRemoving | waitClose | clearPrivate
  | renameMinor
  deriving DecidableEq, Repr

/-- A thread: where it is, the arguments and locals of the function it runs, and its locks. -/
structure Th where
  pc : Pc := .idle
  /-- It runs `zvol_geom_access` (GEOM), not a cdev entry point. -/
  geom : Bool := false
  /-- Its caller holds `spa_namespace_lock`. -/
  ownsNs : Bool := false
  /-- `acr + acw + ace`. -/
  delta : Int := 0
  probe : Bool := false
  /-- `FWRITE` and `O_EXCL` in the open's flags. -/
  fwrite : Bool := false
  oexcl : Bool := false
  /-- The `count` of `zvol_geom_open`/`zvol_geom_close`; 1 for the cdev paths. -/
  count : Nat := 0
  dropSuspend : Bool := false
  dropNamespace : Bool := false
  err : Int := 0
  /-- `new_open_count = zv_open_count - count`, an `int`. The code only compares it with zero
  and stores it back into `zv_open_count`, and both see it modulo 2³², so the model keeps the
  difference and reduces it there (`toU32`). -/
  newOpenCount : Int := 0
  holds : Holds := {}
  /-- What the last call returned. -/
  ret : Option Int := none
  deriving DecidableEq, Repr

/-- A call of `zvol_first_open` (`first`) or `zvol_last_close`, with its result and the state
it was made in: the open count, whether the objset was set, whether the calling thread held
`zv_state_lock` and `zv_suspend_lock` as reader, and whether a thread held `zv_suspend_lock`
as writer. -/
structure Setup where
  first : Bool
  ok : Bool
  /-- The call is the forced close of `zvol_os_rename_minor`. -/
  forced : Bool
  openCount : Nat
  objset : Bool
  stateHeld : Bool
  suspendHeld : Bool
  writerActive : Bool
  deriving DecidableEq, Repr

/-- Ghost state: what the open count accounts for, and the setup log. -/
structure Ghost where
  /-- The counts added by opens that succeed. -/
  granted : Nat := 0
  /-- The counts removed by closes that stored their new value. -/
  closed : Nat := 0
  /-- The counts dropped by the forced close of `zvol_os_rename_minor`. -/
  revoked : Nat := 0
  /-- Granted counts that no close has claimed yet: a close claims at most this much. -/
  held : Nat := 0
  /-- The calls of `zvol_first_open` and `zvol_last_close`, oldest first. -/
  log : List Setup := []
  /-- A thread released a lock it did not hold. -/
  fault : Bool := false
  /-- An open's `zv_open_count += count` went past `UINT32_MAX`, so the count wrapped. -/
  wrapped : Bool := false
  deriving DecidableEq, Repr

/-- A volume and the threads that call its entry points. -/
structure Sys (n : Nat) where
  zv : Zv
  th : Fin n → Th
  g : Ghost

/-- What the collaborators answer at a step: the result of `zvol_first_open`, whether the
volume is read-only after it (the dataset's `readonly` property, a snapshot, a read-only pool),
and `dmu_objset_incompatible_encryption_version`. -/
structure Outcome where
  firstOpen : Int := 0
  readonly : Bool := false
  incompatible : Bool := false
  deriving DecidableEq, Repr

/-- A step of the system: a thread calls an entry point, or takes its next step. -/
inductive Act (n : Nat) where
  | start (t : Fin n) (c : Call)
  | run (t : Fin n) (o : Outcome)

end Zvol.OpenClose
