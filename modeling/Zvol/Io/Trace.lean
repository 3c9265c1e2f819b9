import Zvol.Basic

/-!
# The I/O paths as event traces

Each function of the I/O paths returns, with its result and the store after it, the events it
caused (`Ev`), in order: the operations on `zv_suspend_lock` and on the volume's range lock,
each use of `zv_objset`, `zv_dn` or `zv_zilog` with the bytes it touches, and the completion of
the bio (`g_io_deliver`, `biofinish`, or the delivery inside `g_handleattr_*`).

A thread's locks after some events are the fold of `Locks.step` over them (`Locks.run`), and
`l.every P evs` says that each event satisfies `P` in the lock state it is taken in. The
disciplines of the I/O paths are such predicates: `Locks.guards` (an objset use holds
`zv_suspend_lock`), `Locks.covers` (a store access lies in the range the thread holds) and
`Locks.ordered` (a blocking acquisition keeps the lock order).
-/

namespace Zvol.Io

/-- `UINT64_MAX`. -/
def UINT64_MAX : Nat := 2 ^ 64 - 1

/-- `DEV_BSIZE`. -/
def DEV_BSIZE : Nat := 512

/-- The value of an `off_t` as a `uint64_t`. -/
def toU64 (x : Int) : Nat := (x % 2 ^ 64).toNat

theorem toU64_lt (x : Int) : toU64 x < 2 ^ 64 := by
  unfold toU64
  omega

/-- The value of a `uint64_t` as an `off_t`. -/
def ofU64 (x : Nat) : Int := if x < 2 ^ 63 then x else (x : Int) - 2 ^ 64

/-- What a thread does that the lock and access disciplines are about. -/
inductive Ev where
  /-- `rw_enter(&zv->zv_suspend_lock, ...)`, as writer or as reader. -/
  | suspendEnter (writer : Bool)
  /-- `rw_tryupgrade(&zv->zv_suspend_lock)`, and whether it succeeded. -/
  | suspendTryUpgrade (ok : Bool)
  /-- `rw_downgrade(&zv->zv_suspend_lock)`. -/
  | suspendDowngrade
  /-- `rw_exit(&zv->zv_suspend_lock)`. -/
  | suspendExit
  /-- `zfs_rangelock_enter(&zv->zv_rangelock, off, len, ...)`, as `RL_WRITER` or `RL_READER`. -/
  | rangeEnter (off len : Nat) (writer : Bool)
  /-- `zfs_rangelock_exit(lr)`. -/
  | rangeExit
  /-- `zv->zv_objset->os_sync` is read. -/
  | osSync
  /-- `dmu_objset_spa(zv->zv_objset)`. -/
  | spa
  /-- `dmu_objset_space(zv->zv_objset, ...)`. -/
  | space
  /-- `dmu_tx_create(zv->zv_objset)`. -/
  | txCreate
  /-- `dmu_tx_hold_write_by_dnode(tx, zv->zv_dn, off, len)`. -/
  | txHold (off len : Nat)
  /-- `dmu_tx_assign(tx, DMU_TX_WAIT)`, and its result. -/
  | txAssign (err : Int)
  /-- `dmu_tx_commit(tx)`. -/
  | txCommit
  /-- `dmu_tx_abort(tx)`. -/
  | txAbort
  /-- `zil_open(zv->zv_objset, ...)`. -/
  | zilOpen
  /-- `zvol_log_write(zv, tx, off, len, commit)`. -/
  | logWrite (off len : Nat) (commit : Bool)
  /-- `zvol_log_truncate(zv, tx, off, len)`. -/
  | logTruncate (off len : Nat)
  /-- `zil_commit(zv->zv_zilog, ZVOL_OBJ)`. -/
  | zilCommit
  /-- `dmu_read_by_dnode` or `dmu_read_uio_dnode` of `[off, off + len)`, and its result. -/
  | read (off len : Nat) (err : Int)
  /-- `dmu_write_by_dnode` or `dmu_write_uio_dnode` of `[off, off + len)`, and its result. -/
  | write (off len : Nat) (err : Int)
  /-- `dmu_free_long_range(zv->zv_objset, ZVOL_OBJ, off, len)`, and its result. -/
  | free (off len : Nat) (err : Int)
  /-- `dmu_offset_next(zv->zv_objset, ZVOL_OBJ, hole, &noff)`, which scans the object from
  `off` on, and its result. -/
  | seek (off : Nat) (hole : Bool) (err : Int)
  /-- `taskq_dispatch_ent` of `zvol_strategy_task`: the request goes on in a task. -/
  | dispatch
  /-- `g_io_deliver(bp, err)` (`geom`) or `biofinish(bp, NULL, err)`. -/
  | complete (geom : Bool) (err : Int)
  /-- A `g_handleattr_*` call matched the attribute and delivered the bio with `value`. -/
  | deliverAttr (value : Int)
  deriving DecidableEq, Repr

namespace Ev

/-- The event uses `zv_objset`, `zv_dn` or `zv_zilog`. -/
def usesObjset : Ev → Bool
  | osSync | spa | space | txCreate | txHold .. | txAssign _ | txCommit | txAbort | zilOpen
  | logWrite .. | logTruncate .. | zilCommit | read .. | write .. | free .. | seek .. => true
  | _ => false

/-- The bytes the event asks the store for, and whether it modifies them. -/
def access : Ev → Option (Nat × Nat × Bool)
  | read off len _ => some (off, len, false)
  | write off len _ => some (off, len, true)
  | free off len _ => some (off, len, true)
  | seek off _ _ => some (off, UINT64_MAX - off, false)
  | _ => none

/-- The bytes the event asks the store for, if any, lie in the range `r` (offset, length,
writer), and `r` is a writer range if the event modifies them. -/
def within (r : Nat × Nat × Bool) (e : Ev) : Bool :=
  match e.access with
  | none => true
  | some (off, len, w) => r.1 ≤ off && off + len ≤ r.1 + r.2.1 && (!w || r.2.2)

theorem within_mono {e : Ev} {off len o n : Nat} {w w' : Bool} (h : e.within (off, len, w))
    (ho : o ≤ off) (hn : off + len ≤ o + n) (hw : w → w') : e.within (o, n, w') := by
  unfold within at *
  revert h
  cases e.access with
  | none => intro; rfl
  | some a =>
    obtain ⟨x, y, m⟩ := a
    simp only [Bool.and_eq_true, decide_eq_true_eq, Bool.or_eq_true, Bool.not_eq_true']
    rintro ⟨⟨h1, h2⟩, h3⟩
    exact ⟨⟨by omega, by omega⟩, by cases m <;> simp_all⟩

/-- The lock a blocking acquisition takes: `rw_enter` of `zv_suspend_lock`, or
`zfs_rangelock_enter`. `rw_tryupgrade` is a try, which blocks on nothing. -/
def takes : Ev → Option Lock
  | suspendEnter _ => some .suspend
  | rangeEnter .. => some .range
  | _ => none

/-- The event takes or releases no lock and completes nothing. -/
def quiet : Ev → Bool
  | suspendEnter _ | suspendTryUpgrade _ | suspendDowngrade | suspendExit | rangeEnter .. | rangeExit
  | complete .. | deliverAttr _ => false
  | _ => true

end Ev

/-- What a thread holds of the I/O locks, how many completions it made, and whether it took a
lock it held or released one it did not hold. -/
structure Locks where
  suspend : RwHold := .none
  /-- The range it holds: offset, length, and whether as `RL_WRITER`. -/
  range : Option (Nat × Nat × Bool) := none
  completions : Nat := 0
  fault : Bool := false
  deriving DecidableEq, Repr

namespace Locks

/-- The thread's locks after the event. -/
def step (l : Locks) : Ev → Locks
  | .suspendEnter w =>
    if l.suspend = .none then { l with suspend := if w then .writer else .reader }
    else { l with fault := true }
  | .suspendTryUpgrade ok =>
    if l.suspend = .reader then { l with suspend := if ok then .writer else .reader }
    else { l with fault := true }
  | .suspendDowngrade =>
    if l.suspend = .writer then { l with suspend := .reader } else { l with fault := true }
  | .suspendExit =>
    if l.suspend = .none then { l with fault := true } else { l with suspend := .none }
  | .rangeEnter off len w =>
    if l.range = none then { l with range := some (off, len, w) } else { l with fault := true }
  | .rangeExit => if l.range = none then { l with fault := true } else { l with range := none }
  | .complete .. | .deliverAttr _ => { l with completions := l.completions + 1 }
  | _ => l

/-- The thread's locks after the events. -/
def run (l : Locks) (evs : List Ev) : Locks := evs.foldl step l

@[simp] theorem run_nil (l : Locks) : l.run [] = l := rfl

@[simp] theorem run_cons (l : Locks) (e : Ev) (evs : List Ev) :
    l.run (e :: evs) = (l.step e).run evs := rfl

@[simp] theorem run_append (l : Locks) (xs ys : List Ev) :
    l.run (xs ++ ys) = (l.run xs).run ys := List.foldl_append _ _ _ _

theorem step_quiet (l : Locks) {e : Ev} (h : e.quiet = true) : l.step e = l := by
  cases e <;> first | rfl | cases h

theorem run_quiet (l : Locks) {evs : List Ev} (h : ∀ e ∈ evs, e.quiet = true) :
    l.run evs = l := by
  induction evs with
  | nil => rfl
  | cons e evs ih =>
    rw [run_cons, step_quiet l (h e (List.mem_cons_self _ _))]
    exact ih fun e' he' => h e' (List.mem_cons_of_mem _ he')

/-- Each event satisfies `P` in the lock state the thread takes it in. -/
def every (P : Locks → Ev → Bool) (l : Locks) : List Ev → Bool
  | [] => true
  | e :: evs => P l e && (l.step e).every P evs

@[simp] theorem every_nil (P : Locks → Ev → Bool) (l : Locks) : l.every P [] = true := rfl

@[simp] theorem every_cons (P : Locks → Ev → Bool) (l : Locks) (e : Ev) (evs : List Ev) :
    l.every P (e :: evs) = (P l e && (l.step e).every P evs) := rfl

@[simp] theorem every_append (P : Locks → Ev → Bool) (l : Locks) (xs ys : List Ev) :
    l.every P (xs ++ ys) = (l.every P xs && (l.run xs).every P ys) := by
  induction xs generalizing l with
  | nil => simp
  | cons e xs ih => simp [ih, Bool.and_assoc]

/-- A quiet run keeps the lock state, so each of its events is checked in the same one. -/
theorem every_quiet (P : Locks → Ev → Bool) (l : Locks) {evs : List Ev}
    (h : ∀ e ∈ evs, e.quiet = true ∧ P l e = true) : l.every P evs = true := by
  induction evs with
  | nil => rfl
  | cons e evs ih =>
    obtain ⟨hq, hp⟩ := h e (List.mem_cons_self _ _)
    rw [every_cons, step_quiet l hq, hp, ih fun e' he' => h e' (List.mem_cons_of_mem _ he')]
    rfl

/-- An objset use is made holding `zv_suspend_lock`. -/
def guards (l : Locks) (e : Ev) : Bool := !e.usesObjset || l.suspend != .none

/-- A store access lies in the range the thread holds, and that range is a writer range if the
access modifies. -/
def covers (l : Locks) (e : Ev) : Bool :=
  match l.range with
  | none => e.access.isNone
  | some r => e.within r

/-- The locks the thread holds. -/
def held (l : Locks) : Lock → Bool
  | .suspend => l.suspend != .none
  | .range => l.range.isSome
  | _ => false

/-- A blocking acquisition takes a lock above every lock the thread holds. -/
def ordered (l : Locks) (e : Ev) : Bool :=
  match e.takes with
  | some k => Lock.above l.held k
  | none => true

/-- What the order asks of each event: `rw_enter` of `zv_suspend_lock` holds neither it nor a
range, `zfs_rangelock_enter` holds no range. -/
theorem ordered_eq (l : Locks) (e : Ev) : l.ordered e =
    match e with
    | .suspendEnter _ => l.suspend == .none && l.range.isNone
    | .rangeEnter .. => l.range.isNone
    | _ => true := by
  cases e <;> simp only [ordered, Ev.takes, Lock.above, Lock.all, List.all_cons, List.all_nil,
    held, Lock.below, Lock.rank] <;> cases l.suspend <;> cases l.range <;> rfl

theorem ordered_of_quiet (l : Locks) {e : Ev} (h : e.quiet = true) : l.ordered e = true := by
  cases e <;> first | rfl | cases h

/-- The thread holds no lock and released none it did not hold. -/
def Released (l : Locks) : Prop := l.suspend = .none ∧ l.range = none ∧ l.fault = false

end Locks

/-! ## The store -/

/-- `len` bytes of `src` from `srcOff` on, copied over `dst` from `dstOff` on. -/
def copy (dst : Nat → UInt8) (dstOff : Nat) (src : Nat → UInt8) (srcOff len : Nat) :
    Nat → UInt8 :=
  fun i => if dstOff ≤ i ∧ i < dstOff + len then src (srcOff + (i - dstOff)) else dst i

theorem copy_of_not_mem {dst src : Nat → UInt8} {dstOff srcOff len i : Nat}
    (h : i < dstOff ∨ dstOff + len ≤ i) : copy dst dstOff src srcOff len i = dst i :=
  if_neg (by omega)

theorem copy_of_lt {dst src : Nat → UInt8} {dstOff srcOff len i : Nat} (h : i < len) :
    copy dst dstOff src srcOff len (dstOff + i) = src (srcOff + i) := by
  simp only [copy, if_pos (show dstOff ≤ dstOff + i ∧ dstOff + i < dstOff + len by omega),
    Nat.add_sub_cancel_left]

@[simp] theorem copy_zero (dst src : Nat → UInt8) (dstOff srcOff : Nat) :
    copy dst dstOff src srcOff 0 = dst := by
  funext i
  simp [copy]

/-- Two copies of adjacent chunks are one copy of both. -/
theorem copy_copy (dst src : Nat → UInt8) (dstOff srcOff a b : Nat) :
    copy (copy dst dstOff src srcOff a) (dstOff + a) src (srcOff + a) b =
      copy dst dstOff src srcOff (a + b) := by
  funext i
  simp only [copy]
  split_ifs <;> first | rfl | omega | (congr 1; omega)

/-- The store and what the collaborators answer. -/
structure St where
  /-- The bytes of the volume's object `ZVOL_OBJ`. -/
  data : Nat → UInt8
  /-- `zv_zilog` is set. -/
  zilog : Bool := false
  /-- `rw_tryupgrade` succeeds: no other thread holds `zv_suspend_lock`. -/
  upgrade : Bool := true
  /-- After a failed `rw_tryupgrade`, another writer opened the log while this thread waited for
  the writer hold. -/
  raced : Bool := false
  /-- What the store calls (`dmu_tx_assign`, the reads and writes, `dmu_free_long_range`,
  `dmu_offset_next`) answer, in call order; a call past the end succeeds. -/
  answers : List Int := []
  /-- Where `dmu_offset_next` finds the next hole (`true`) or data (`false`) from an offset. -/
  next : Bool → Nat → Nat := fun _ off => off

namespace St

/-- The answer of the next store call. -/
def ans (s : St) : Int := s.answers.headD 0

/-- The store after the next store call has answered. -/
def pop (s : St) : St := { s with answers := s.answers.tail }

@[simp] theorem pop_data (s : St) : s.pop.data = s.data := rfl
@[simp] theorem pop_zilog (s : St) : s.pop.zilog = s.zilog := rfl
@[simp] theorem pop_upgrade (s : St) : s.pop.upgrade = s.upgrade := rfl
@[simp] theorem pop_raced (s : St) : s.pop.raced = s.raced := rfl
@[simp] theorem pop_next (s : St) : s.pop.next = s.next := rfl
@[simp] theorem pop_answers (s : St) : s.pop.answers = s.answers.tail := rfl

theorem ans_of_nil {s : St} (h : s.answers = []) : s.ans = 0 := by
  simp [ans, h]

theorem pop_of_nil {s : St} (h : s.answers = []) : s.pop = s := by
  cases s
  simp_all [pop]

end St

/-- What a function of the I/O paths returns: its result, the store after it, and its events. -/
structure Out (α : Type) where
  ret : α
  st : St
  evs : List Ev

end Zvol.Io
