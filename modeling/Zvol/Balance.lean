import Zvol.OpenClose.Invariant
import Zvol.Zilog
import Zvol.Io.Sched

/-!
# Every lock released once, every bio completed once

The three models together: the open and close paths (`Zvol.OpenClose`), `zvol_ensure_zilog`
among writers and suspend sections (`Zvol.Zilog`), and the I/O paths (`Zvol.Io`). A thread
that has returned from an entry point holds none of the locks it took, no thread ever releases
a lock it does not hold, and each bio handed to the GEOM or cdev strategy code is completed
once; `zvol_ensure_zilog` returns with the one reader hold its caller entered with.
-/

namespace Zvol

/-- On every path of every entry point, and in every interleaving, each lock taken is released
once before the thread returns, and each bio is completed once:

* the open and close paths: a thread back from `zvol_geom_access`, `zvol_cdev_open` or
  `zvol_cdev_close` holds nothing, and no release is of a lock not held;
* `zvol_ensure_zilog`: it returns holding `zv_suspend_lock` as reader once, as its caller
  entered, in every interleaving and on its own;
* the I/O entry points: run from a thread that holds nothing, each ends holding nothing, with
  no fault, having completed its bio once (`zvol_geom_bio_start`, `zvol_cdev_bio_strategy`)
  or none (`zvol_cdev_read`, `zvol_cdev_write`, `zvol_cdev_ioctl`), and so in every run;
* `zvol_strategy_impl` takes the range lock only past its checks, never for `BIO_FLUSH`. -/
theorem locks_released_once :
    (∀ {n} {s : OpenClose.Sys n}, OpenClose.Reach s →
      s.g.fault = false ∧ ∀ t, (s.th t).pc = .idle → (s.th t).holds = {}) ∧
    (∀ {n} {s : Zilog.Sys n}, Zilog.Reach s →
      s.g.fault = false ∧ (∀ t, (s.th t).pc = .idle → (s.th t).hold = {}) ∧
        ∀ t, (s.th t).pc = .use → (s.th t).hold = { readers := 1 }) ∧
    (∀ (st : Io.St) (l : Io.Locks), l.suspend = .reader → l.range = none →
      l.run (Io.ensureZilog st).evs = l) ∧
    (∀ (tun : Io.Tunables) (st : Io.St) (r : Io.Req),
      ({} : Io.Locks).run (r.evs tun st) = { completions := r.completions }) ∧
    (∀ (tun : Io.Tunables) {n} {s : Io.Sys n}, Io.Reach tun s → ∀ t, (s.th t).todo = [] →
      (s.th t).locks.suspend = .none ∧ (s.th t).locks.range = none ∧
        (s.th t).locks.fault = false) ∧
    ∀ (tun : Io.Tunables) (zv : Option Io.Vol) (bp : Io.Bio) (st : Io.St),
      (∃ off len w, Io.Ev.rangeEnter off len w ∈ (Io.strategyImpl tun zv bp st).evs) ↔
        ∃ v, zv = some v ∧ v.removing = false ∧
          (bp.cmd = .read ∨ ((bp.cmd = .write ∨ bp.cmd = .delete) ∧ v.rdonly = false)) ∧
          ¬(bp.length > 0 ∧ bp.offset ≥ v.volsize) := by
  refine ⟨fun h => ?_, fun h => ?_, fun st l hs hr => (Io.ensureZilog_seg st l hs hr).1,
    fun tun st r => ?_, fun tun _ _ h t ht => ((Io.Sys.Inv.reach h).ok t).idle ht,
    Io.strategyImpl_rangeEnter⟩
  · have hi := OpenClose.Sys.Inv.reach h
    exact ⟨hi.fault, fun t ht => ((hi.ok t).idle ht).1⟩
  · have hi := Zilog.Sys.Inv.reach h
    exact ⟨hi.fault, fun t ht => by simp [hi.hold t, ht, Zilog.Pc.expect],
      fun t ht => by simp [hi.hold t, ht, Zilog.Pc.expect]⟩
  · simpa using (r.seg tun st {} rfl rfl).1

end Zvol
