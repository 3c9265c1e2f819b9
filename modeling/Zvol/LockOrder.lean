import Zvol.OpenClose.Invariant
import Zvol.Io.Sched
import Zvol.Minor.Create

/-!
# The lock order

`Lock.below` orders the locks of the file: `spa_namespace_lock < zvol_state_lock <
zv_suspend_lock < zv_state_lock < g_topology_lock`, with the range lock above `zv_suspend_lock`.
Each blocking acquisition takes a lock above every lock its thread holds (`Lock.above`); a try
(`rw_tryenter`, `mutex_tryenter`, `rw_tryupgrade`) blocks on nothing and may take any:

* the open and close paths: a thread at a point that blocks on a lock (`Pc.takes`) holds only
  locks below it, and a step takes a lock only at such a point or by a try;
* the I/O paths: each `rw_enter` of `zv_suspend_lock` and each `zfs_rangelock_enter`
  (`Io.Locks.ordered`), the writer `rw_enter` of `zvol_ensure_zilog` among them;
* `zvol_os_create_minor` and `zvol_os_rename_minor`, as their lock operations, over successive
  calls of one thread: a call whose `dataset_kstats_create` fails in GEOM mode returns holding
  `g_topology_lock`, and the next call that takes a lock breaks the order
  (`create_minor_relocks_after_kstats_failure`).
-/

namespace Zvol

/-- Every blocking acquisition of the file takes a lock above every lock its thread holds, in
the order `spa_namespace_lock < zvol_state_lock < zv_suspend_lock < zv_state_lock <
g_topology_lock`, the range lock above `zv_suspend_lock`:

* in every run of the open and close paths, a thread at a point that blocks on a lock holds
  only locks below it, and a step takes a lock only there or by a try;
* every request of the I/O paths, whatever the store and the collaborators answer, run by a
  thread that holds nothing, `zvol_ensure_zilog`'s writer `rw_enter` with it;
* successive `zvol_os_create_minor` calls of a thread that holds nothing, as long as none fails
  in `dataset_kstats_create` in GEOM mode, and `zvol_os_rename_minor` under its caller's
  `zvol_state_lock` and `zv_state_lock`. -/
theorem lock_order_kept :
    (∀ {n} {s : OpenClose.Sys n}, OpenClose.Reach s → ∀ t,
      (∀ l, (s.th t).pc.takes = some l → Lock.above (s.th t).holds.held l = true) ∧
      ∀ o s' l, OpenClose.runStep s t o = some s' → (s.th t).holds.held l = false →
        (s'.th t).holds.held l = true → (s.th t).pc.takes = some l ∨ (s.th t).pc.tries = true) ∧
    (∀ (tun : Io.Tunables) (st : Io.St) (r : Io.Req),
      ({} : Io.Locks).every Io.Locks.ordered (r.evs tun st) = true) ∧
    (∀ nameHash cs (res : Minor.Res), res.topology = false →
      (∀ c ∈ cs, c.1.kstats = 0 ∨ Minor.allocVolmode c.1 ≠ some Minor.ZFS_VOLMODE_GEOM) →
      LockOp.ordered [] (Minor.createMinorsLocks nameHash cs res) = true) ∧
    ∀ volmode, LockOp.ordered [.zvolState, .state] (Minor.renameMinorLocks volmode) = true := by
  refine ⟨fun h t => ⟨fun l hl => ((OpenClose.Sys.Inv.reach h).ok t).above_takes hl,
    fun o s' l hs h0 h1 => ?_⟩, fun tun st r => (r.seg tun st {} rfl rfl).2.2.2,
    Minor.createMinorsLocks_ordered, Minor.renameMinorLocks_ordered⟩
  obtain ⟨r, hr, rfl⟩ := Option.map_eq_some'.1 hs
  simp only [OpenClose.Sys.put_th_self] at h1
  have hi := OpenClose.Sys.Inv.reach h
  exact (OpenClose.threadStep_spec (hi.ok t) (hi.data t) hr).takes h0 h1

/-- `zvol_os_create_minor` after a call whose `dataset_kstats_create` failed in GEOM mode: that
call returns holding `g_topology_lock`, since `out_dmu_objset_disown:` gives it back only when
`error == 0`, and the next call on the thread keeps the order only if it takes no lock. The
`zv_state_lock` of a volume its lookup finds, `g_topology_lock` again in `zvol_alloc`, and
`zvol_state_lock` at `out_doi:` are none of them above the topology lock. -/
theorem create_minor_relocks_after_kstats_failure (nameHash : String → Nat) (env env' : Minor.Env)
    (name name' : String) (res : Minor.Res) (hinh : env.inhibitDev = false)
    (hfind : Minor.findByNameHash res.reg name (nameHash name) = none) (hown : name ∉ res.owned)
    (h0 : env.own = 0) (hinfo : env.objectInfo = 0) (hzap : env.zapLookup = 0)
    (hv : Minor.allocVolmode env = some Minor.ZFS_VOLMODE_GEOM) (hk : env.kstats ≠ 0) :
    (Minor.createMinor nameHash env name res).2.topology = true ∧
      (LockOp.ordered [] (Minor.createMinorsLocks nameHash [(env, name), (env', name')] res) = true ↔
        Minor.createMinorLocks nameHash env' name' (Minor.createMinor nameHash env name res).2 = []) := by
  constructor
  · rw [Minor.createMinor_kstats_fail nameHash env name res _ hinh hfind hown h0 hinfo hzap hv
      (fun h => absurd h (by decide)) hk]
    simp [Minor.Res.withVolume]
  · rw [Minor.createMinorsLocks, Minor.createMinorsLocks, Minor.createMinorsLocks, List.append_nil,
      Minor.createMinorLocks_kstats_fail nameHash env name res hinh hfind hown h0 hinfo hzap hv hk]
    simpa [LockOp.ordered, LockOp.held] using
      Minor.createMinorLocks_ordered_topology nameHash env' name' _

/-- A first GEOM volume `"a"` whose `dataset_kstats_create` fails with 1, then a create of `"b"`
with every collaborator succeeding: the second call blocks on `g_topology_lock`, held. -/
theorem create_minor_relocks_after_kstats_failure_b :
    LockOp.ordered [] (Minor.createMinorsLocks String.length [({ kstats := 1 }, "a"), ({}, "b")] {}) =
      false := by
  have h := (create_minor_relocks_after_kstats_failure String.length { kstats := 1 } {} "a" "b" {}
    rfl rfl (List.not_mem_nil _) rfl rfl rfl rfl (by decide)).2
  rw [← Bool.not_eq_true, h]
  decide

end Zvol
