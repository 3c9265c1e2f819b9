import Zvol.Io.Sched

/-!
# What the interleaved I/O paths guarantee, and what they do not

* `store_access_in_range`: in every run, the next store access of each thread lies in the
  range it holds (a writer range if it modifies), so the next accesses of two threads never
  overlap with one of them modifying.
* `guarded_use_holds_suspend`: a request of a guarded entry point uses the objset only holding
  `zv_suspend_lock`, when no other thread holds it as writer.
* `objset_used_unlocked`: four paths use the objset holding no `zv_suspend_lock`:
  `zvol_cdev_write` reads `os_sync` before `rw_enter`, `DIOCGATTR` and `zvol_geom_bio_getattr`
  call `dmu_objset_spa`, and the seek ioctls call `dmu_offset_next`.
* `cdev_write_os_sync_unlocked`: so, in every run with a suspend section under way, another
  thread can start `zvol_cdev_write` and read `zv_objset->os_sync` inside it.
-/

namespace Zvol.Io

variable {tun : Tunables} {n : Nat} {s : Sys n}

/-- A covered access lies in the range the thread holds, a writer range if it modifies. -/
theorem Locks.covers_access {l : Locks} {e : Ev} (h : l.covers e = true)
    {a : Nat × Nat × Bool} (ha : a ∈ e.access) :
    ∃ r ∈ l.range, r.1 ≤ a.1 ∧ a.1 + a.2.1 ≤ r.1 + r.2.1 ∧ (a.2.2 = true → r.2.2 = true) := by
  simp only [Option.mem_def] at ha
  unfold covers Ev.within at h
  rcases hr : l.range with _ | r
  · simp [hr, ha] at h
  · simp only [hr, ha, Bool.and_eq_true, decide_eq_true_eq, Bool.or_eq_true,
      Bool.not_eq_true'] at h
    exact ⟨r, rfl, h.1.1, h.1.2, fun hw => by simpa [hw] using h.2⟩

/-- Accesses inside two ranges that do not conflict do not conflict. -/
theorem Sys.conflicts_of_inside {r r' a a' : Nat × Nat × Bool} (h : Sys.conflicts r r' = false)
    (ha : r.1 ≤ a.1 ∧ a.1 + a.2.1 ≤ r.1 + r.2.1 ∧ (a.2.2 = true → r.2.2 = true))
    (ha' : r'.1 ≤ a'.1 ∧ a'.1 + a'.2.1 ≤ r'.1 + r'.2.1 ∧ (a'.2.2 = true → r'.2.2 = true)) :
    Sys.conflicts a a' = false := by
  unfold Sys.conflicts at *
  cases hw : a.2.2 <;> cases hw' : a'.2.2 <;> simp_all <;> omega

/-- In every run, the next store access of each thread lies in the range it holds, a writer
range if the access modifies; hence the next accesses of two threads never overlap with one of
them modifying. -/
theorem store_access_in_range (hs : Reach tun s) :
    (∀ t e es, (s.th t).todo = e :: es → (s.th t).locks.covers e = true) ∧
      ∀ t u, u ≠ t → ∀ e es e' es', (s.th t).todo = e :: es → (s.th u).todo = e' :: es' →
        ∀ a ∈ e.access, ∀ a' ∈ e'.access, Sys.conflicts a a' = false := by
  have hi := Sys.Inv.reach hs
  have hc : ∀ t e es, (s.th t).todo = e :: es → (s.th t).locks.covers e = true :=
    fun t e es ht => ((hi.ok t).next ht).choose_spec.2.1
  refine ⟨hc, fun t u hut e es e' es' ht hu a ha a' ha' => ?_⟩
  obtain ⟨r, hr, hin⟩ := Locks.covers_access (hc t e es ht) ha
  obtain ⟨r', hr', hin'⟩ := Locks.covers_access (hc u e' es' hu) ha'
  exact Sys.conflicts_of_inside (hi.ranges t u hut r hr r' hr') hin hin'

/-- The threads `ts` take their next events, in turn. -/
def Sys.steps (s : Sys n) : List (Fin n) → Option (Sys n)
  | [] => some s
  | t :: ts => (s.step t).bind (·.steps ts)

theorem Reach.steps (h : Reach tun s) {ts : List (Fin n)} {s' : Sys n}
    (hs : s.steps ts = some s') : Reach tun s' := by
  induction ts generalizing s with
  | nil => cases hs; exact h
  | cons t ts ih =>
    obtain ⟨s₁, h₁, hs⟩ := Option.bind_eq_some.1 hs
    exact ih (h.step t h₁) hs

/-- A volume's store with the log open. -/
def rwStore : St := { data := fun _ => 0, zilog := true }

/-- On a volume of 1024 bytes, thread 0 starts `DIOCGDELETE` of bytes 0 to 511. -/
def deleteStart : Sys 2 :=
  (⟨fun _ => {}⟩ : Sys 2).start {} 0 (.cdevIoctl { volsize := 1024 } (.delete 0 512)) rwStore

/-- Thread 0 holds its writer range and has committed the truncate record: its next event is
`dmu_free_long_range`. -/
def deleting : Sys 2 := (deleteStart.steps [0, 0, 0, 0, 0, 0, 0]).getD deleteStart

/-- Thread 1 starts `DIOCGDELETE` of bytes 512 to 1023. -/
def deleteStart' : Sys 2 :=
  deleting.start {} 1 (.cdevIoctl { volsize := 1024 } (.delete 512 512)) rwStore

/-- Both threads hold writer ranges, side by side, and are at `dmu_free_long_range`. -/
def twoDeletes : Sys 2 := (deleteStart'.steps [1, 1, 1, 1, 1, 1, 1]).getD deleteStart'

theorem twoDeletes_reach : Reach ({} : Tunables) twoDeletes :=
  have h : Reach ({} : Tunables) deleting :=
    (Reach.init.start 0 _ _ rfl : Reach {} deleteStart).steps
      (rfl : deleteStart.steps [0, 0, 0, 0, 0, 0, 0] = some deleting)
  (h.start 1 _ _ rfl : Reach {} deleteStart').steps
    (rfl : deleteStart'.steps [1, 1, 1, 1, 1, 1, 1] = some twoDeletes)

/-- Two deletes of adjacent ranges, each about to free its bytes. -/
theorem store_access_in_range_twoDeletes :
    (twoDeletes.th 0).todo.head?.bind Ev.access = some (0, 512, true) ∧
      (twoDeletes.th 1).todo.head?.bind Ev.access = some (512, 512, true) ∧
      ((∀ t e es, (twoDeletes.th t).todo = e :: es → (twoDeletes.th t).locks.covers e = true) ∧
        ∀ t u, u ≠ t → ∀ e es e' es', (twoDeletes.th t).todo = e :: es →
          (twoDeletes.th u).todo = e' :: es' →
          ∀ a ∈ e.access, ∀ a' ∈ e'.access, Sys.conflicts a a' = false) :=
  ⟨by decide, by decide, store_access_in_range twoDeletes_reach⟩

/-- A guarded request uses the objset only holding `zv_suspend_lock`, and then no other thread
holds it as writer. -/
theorem guarded_use_holds_suspend (hs : Reach tun s) {t : Fin n} {e : Ev} {es : List Ev}
    (ht : (s.th t).todo = e :: es) {r : Req} (hr : (s.th t).req = some r)
    (hg : r.guarded = true) (he : e.usesObjset = true) :
    (s.th t).locks.suspend ≠ .none ∧ ∀ u, u ≠ t → (s.th u).locks.suspend ≠ .writer := by
  have hi := Sys.Inv.reach hs
  obtain ⟨r', hr', -, hgd⟩ := (hi.ok t).next ht
  obtain rfl : r' = r := Option.some.inj (hr'.symm.trans hr)
  have hheld : (s.th t).locks.suspend ≠ .none := by
    simpa [Locks.guards, he] using hgd hg
  exact ⟨hheld, fun u hut hw => hheld (hi.writer u t (Ne.symm hut) hw)⟩

/-- One thread that has taken `zv_suspend_lock` as reader for `DIOCGFLUSH` with the log open,
and is about to call `zil_commit`. -/
def flushing : Sys 1 :=
  let s := (⟨fun _ => {}⟩ : Sys 1).start {} 0 (.cdevIoctl { volsize := 8 } .flush)
    { data := fun _ => 0, zilog := true }
  s.put 0 { (s.th 0) with
    todo := [.zilCommit, .suspendExit], done := [.suspendEnter false],
    locks := { suspend := .reader } }

theorem flushing_reach : Reach ({} : Tunables) flushing :=
  .step 0 (.start 0 (.cdevIoctl { volsize := 8 } .flush) { data := fun _ => 0, zilog := true } .init
    rfl) rfl

theorem guarded_use_holds_suspend_flushing :
    (flushing.th 0).todo = .zilCommit :: [.suspendExit] ∧
      (flushing.th 0).req = some (.cdevIoctl { volsize := 8 } .flush) ∧
      (Req.cdevIoctl { volsize := 8 } .flush).guarded = true ∧ Ev.zilCommit.usesObjset = true ∧
      (flushing.th 0).locks.suspend ≠ .none ∧
        ∀ u, u ≠ 0 → (flushing.th u).locks.suspend ≠ .writer :=
  ⟨rfl, rfl, rfl, rfl, guarded_use_holds_suspend flushing_reach rfl rfl rfl rfl⟩

/-- The paths that use the objset holding no `zv_suspend_lock`: `zvol_cdev_write` without
`IO_SYNC` whenever it gets past its entry check, `DIOCGATTR`, the seek ioctls, and
`BIO_GETATTR` through `zvol_geom_bio_start`. -/
theorem objset_used_unlocked (tun : Tunables) (zv : Vol) (st : St) (uio : Uio) (name : String)
    (hole : Bool) (off : Int) (geomThread canSleep : Bool) (bp : Bio) :
    (({} : Locks).every Locks.guards (cdevWrite tun zv uio false st).evs = false ↔
        ¬(uio.resid > 0 ∧ (uio.offset < 0 ∨ toU64 uio.offset > zv.volsize))) ∧
      ({} : Locks).every Locks.guards (cdevIoctl tun zv (.attr name) st).evs = false ∧
      ({} : Locks).every Locks.guards (cdevIoctl tun zv (.seek hole off) st).evs = false ∧
      ({} : Locks).every Locks.guards
        (geomBioStart tun (some zv) geomThread canSleep { bp with cmd := .getattr } st).evs = false := by
  refine ⟨?_, ?_, ?_, ?_⟩
  · unfold cdevWrite
    split <;> simp_all [Locks.guards, Ev.usesObjset]
  · simp only [cdevIoctl, ioctlAttr]
    split_ifs <;> simp [Locks.guards, Ev.usesObjset]
  · simp [cdevIoctl, Locks.guards, Locks.step, Ev.usesObjset]
  · simp only [geomBioStart, geomBioGetattr, ↓reduceIte]
    split_ifs <;> simp [Locks.guards, Ev.usesObjset]

/-- Two threads: thread 1 has entered a suspend section and holds `zv_suspend_lock` as writer;
thread 0 runs nothing. -/
def inSuspend : Sys 2 :=
  let s := (⟨fun _ => {}⟩ : Sys 2).start {} 1 .suspend { data := fun _ => 0 }
  s.put 1 { (s.th 1) with
    todo := [.suspendExit], done := [.suspendEnter true], locks := { suspend := .writer } }

theorem inSuspend_reach : Reach ({} : Tunables) inSuspend :=
  .step 1 (.start 1 .suspend { data := fun _ => 0 } .init rfl) rfl

/-- In every run in which a thread holds `zv_suspend_lock` as writer and another runs nothing,
the idle thread can start `zvol_cdev_write` without `IO_SYNC`, past its entry check: its next
event reads `zv_objset->os_sync`, holding no `zv_suspend_lock`, inside the writer's section. -/
theorem cdev_write_os_sync_unlocked (zv : Vol) (uio : Uio) (st : St) (hs : Reach tun s)
    {t u : Fin n} (ht : (s.th t).todo = []) (hu : (s.th u).locks.suspend = .writer)
    (hchk : ¬(uio.resid > 0 ∧ (uio.offset < 0 ∨ toU64 uio.offset > zv.volsize))) :
    Reach tun (s.start tun t (.cdevWrite zv uio false) st) ∧
      ((s.start tun t (.cdevWrite zv uio false) st).th t).todo.head? = some .osSync ∧
      ((s.start tun t (.cdevWrite zv uio false) st).th t).locks.suspend = .none ∧
      ((s.start tun t (.cdevWrite zv uio false) st).th u).locks.suspend = .writer := by
  refine ⟨.start t _ st hs ht, ?_, ?_, by simpa using hu⟩
  · simp [Sys.start, Req.evs, cdevWrite, hchk]
  · simpa using ((Sys.Inv.reach hs).ok t).idle ht |>.1

theorem cdev_write_os_sync_unlocked_inSuspend :
    Reach ({} : Tunables) inSuspend ∧ (inSuspend.th 0).todo = [] ∧
      (inSuspend.th 1).locks.suspend = .writer ∧
      ¬((1 : Nat) > 0 ∧ ((0 : Int) < 0 ∨ toU64 0 > 8)) ∧
      Reach {} (inSuspend.start {} 0
        (.cdevWrite { volsize := 8 } { offset := 0, resid := 1, buf := fun _ => 0 } false)
        { data := fun _ => 0 }) ∧
      ((inSuspend.start {} 0
        (.cdevWrite { volsize := 8 } { offset := 0, resid := 1, buf := fun _ => 0 } false)
        { data := fun _ => 0 }).th 0).todo.head? = some .osSync ∧
      ((inSuspend.start {} 0
        (.cdevWrite { volsize := 8 } { offset := 0, resid := 1, buf := fun _ => 0 } false)
        { data := fun _ => 0 }).th 0).locks.suspend = .none ∧
      ((inSuspend.start {} 0
        (.cdevWrite { volsize := 8 } { offset := 0, resid := 1, buf := fun _ => 0 } false)
        { data := fun _ => 0 }).th 1).locks.suspend = .writer :=
  ⟨inSuspend_reach, rfl, rfl, by decide,
    cdev_write_os_sync_unlocked { volsize := 8 } { offset := 0, resid := 1, buf := fun _ => 0 }
      { data := fun _ => 0 } inSuspend_reach rfl rfl (by decide)⟩

end Zvol.Io
