import Mathlib.Data.Fintype.Basic
import Zvol.Io.Locking

/-!
# The I/O paths, interleaved

Threads run the entry points of the I/O paths on one volume, event after event, in any order
the locks allow: `zv_suspend_lock` blocks as a reader/writer lock (a failed `rw_tryupgrade`
never blocks), the range lock blocks a range that overlaps one another thread holds when
either is a writer range. A thread's events are those of its request (`Req.evs`), whatever the
store and the collaborators answer; a suspend section (`zvol_suspend` to `zvol_resume`) holds
`zv_suspend_lock` as writer.

`Sys.Inv.reach`: in every run, each thread's locks are those its request's events so far give
it, which is where each objset use and store access of the request is checked (`Req.seg`), no
other thread holds `zv_suspend_lock` while one holds it as writer, and no two threads hold
conflicting ranges.
-/

namespace Zvol.Io

/-- A request a thread makes of the volume: an entry point with its arguments, or a section
that holds `zv_suspend_lock` as writer. -/
inductive Req where
  | geomBioStart (zv : Option Vol) (geomThread canSleep : Bool) (bp : Bio)
  | cdevBioStrategy (zv : Option Vol) (bp : Bio)
  | cdevRead (zv : Vol) (uio : Uio)
  | cdevWrite (zv : Vol) (uio : Uio) (ioSync : Bool)
  | cdevIoctl (zv : Vol) (cmd : Ioctl)
  | suspend

namespace Req

/-- The events of the request, with the store and the collaborators' answers `s`. -/
def evs (tun : Tunables) (s : St) : Req → List Ev
  | geomBioStart zv geomThread canSleep bp => (Io.geomBioStart tun zv geomThread canSleep bp s).evs
  | cdevBioStrategy zv bp => (Io.cdevBioStrategy tun zv bp s).evs
  | cdevRead zv uio => (Io.cdevRead tun zv uio s).evs
  | cdevWrite zv uio ioSync => (Io.cdevWrite tun zv uio ioSync s).evs
  | cdevIoctl zv cmd => (Io.cdevIoctl tun zv cmd s).evs
  | suspend => [.suspendEnter true, .suspendExit]

/-- The bios the request completes. -/
def completions : Req → Nat
  | geomBioStart .. | cdevBioStrategy .. => 1
  | _ => 0

/-- The requests whose objset uses all hold `zv_suspend_lock`: all but `BIO_GETATTR`,
`zvol_cdev_write` without `IO_SYNC`, `DIOCGATTR` and the seek ioctls. -/
def guarded : Req → Bool
  | geomBioStart _ _ _ bp => bp.cmd != .getattr
  | cdevWrite _ _ ioSync => ioSync
  | cdevIoctl _ (.attr _) | cdevIoctl _ (.seek ..) => false
  | _ => true

/-- Each request is a segment from a thread that holds neither lock. -/
theorem seg (tun : Tunables) (s : St) (r : Req) : Seg .none r.completions r.guarded (r.evs tun s) := by
  cases r with
  | geomBioStart zv geomThread canSleep bp => exact geomBioStart_seg tun zv geomThread canSleep bp s
  | cdevBioStrategy zv bp => exact cdevBioStrategy_seg tun zv bp s
  | cdevRead zv uio => exact cdevRead_seg tun zv uio s
  | cdevWrite zv uio ioSync => exact cdevWrite_seg tun zv uio ioSync s
  | cdevIoctl zv cmd =>
    refine cdevIoctl_seg tun zv cmd s fun hg => ?_
    cases cmd <;> simp_all [guarded]
  | suspend =>
    rintro ⟨sus, rng, cpl, flt⟩ (rfl : sus = _) (rfl : rng = _)
    simp [evs, completions, Locks.step, Locks.guards, Locks.covers, Locks.ordered_eq, Ev.usesObjset,
      Ev.access]

end Req

/-- A thread: the request it runs (ghost), the events of it still to come and those done, and
the locks it holds. -/
structure Th where
  req : Option Req := none
  todo : List Ev := []
  done : List Ev := []
  locks : Locks := {}

/-- The threads that run requests on the volume. -/
structure Sys (n : Nat) where
  th : Fin n → Th

namespace Sys

variable {n : Nat}

/-- `t`'s state replaced by `x`. -/
def put (s : Sys n) (t : Fin n) (x : Th) : Sys n := ⟨Function.update s.th t x⟩

@[simp] theorem put_th_self (s : Sys n) (t : Fin n) (x : Th) : (s.put t x).th t = x := by
  simp [put]

@[simp] theorem put_th_ne (s : Sys n) {t u : Fin n} (x : Th) (h : u ≠ t) :
    (s.put t x).th u = s.th u := by
  simp [put, h]

/-- Two ranges conflict: they overlap and one of them is a writer range. -/
def conflicts (r r' : Nat × Nat × Bool) : Bool :=
  r.1 < r'.1 + r'.2.1 && r'.1 < r.1 + r.2.1 && (r.2.2 || r'.2.2)

/-- The other threads let `t` take the event now. -/
def allows (s : Sys n) (t : Fin n) : Ev → Bool
  | .suspendEnter false => decide (∀ u, u ≠ t → (s.th u).locks.suspend ≠ .writer)
  | .suspendEnter true | .suspendTryUpgrade true =>
    decide (∀ u, u ≠ t → (s.th u).locks.suspend = .none)
  | .rangeEnter off len w =>
    decide (∀ u, u ≠ t → ∀ r ∈ (s.th u).locks.range, conflicts (off, len, w) r = false)
  | _ => true

/-- `t` takes the next event of its request, if the others let it. -/
def step (s : Sys n) (t : Fin n) : Option (Sys n) :=
  match (s.th t).todo with
  | [] => none
  | e :: es =>
    if s.allows t e then
      some (s.put t { (s.th t) with
        todo := es, done := (s.th t).done ++ [e], locks := (s.th t).locks.step e })
    else none

/-- `t`, done with its request, starts the request `r`. -/
def start (tun : Tunables) (s : Sys n) (t : Fin n) (r : Req) (st : St) : Sys n :=
  s.put t { (s.th t) with req := some r, todo := r.evs tun st, done := [] }

end Sys

/-- The runs of the threads, from threads that run nothing and hold nothing. -/
inductive Reach (tun : Tunables) {n : Nat} : Sys n → Prop
  | init : Reach tun ⟨fun _ => {}⟩
  | step {s s' : Sys n} (t : Fin n) : Reach tun s → s.step t = some s' → Reach tun s'
  | start {s : Sys n} (t : Fin n) (r : Req) (st : St) :
      Reach tun s → (s.th t).todo = [] → Reach tun (s.start tun t r st)

/-! ## What one event does to the locks -/

namespace Locks

variable {l : Locks} {e : Ev}

/-- A writer hold comes from a writer hold, `rw_enter` as writer, or a successful upgrade. -/
theorem step_writer (h : (l.step e).suspend = .writer) :
    l.suspend = .writer ∨ e = .suspendEnter true ∨ e = .suspendTryUpgrade true := by
  cases e <;> simp only [step] at h <;> (try split_ifs at h) <;> simp_all

/-- A thread that holds no `zv_suspend_lock` takes it only by `rw_enter`. -/
theorem step_suspend_of_none (hl : l.suspend = .none) (h : (l.step e).suspend ≠ .none) :
    ∃ w, e = .suspendEnter w := by
  cases e <;> simp only [step] at h <;> (try split_ifs at h) <;> simp_all

/-- A range held after the event was held before, or is the one the event takes. -/
theorem step_range {r : Nat × Nat × Bool} (h : r ∈ (l.step e).range) :
    r ∈ l.range ∨ e = .rangeEnter r.1 r.2.1 r.2.2 := by
  cases e <;> simp only [step] at h <;> (try split_ifs at h) <;> simp_all
  subst h
  simp

end Locks

theorem Sys.conflicts_comm (r r' : Nat × Nat × Bool) : Sys.conflicts r r' = Sys.conflicts r' r := by
  unfold Sys.conflicts
  rw [Bool.or_comm]
  cases decide (r.1 < r'.1 + r'.2.1) <;> cases decide (r'.1 < r.1 + r.2.1) <;> rfl

/-! ## The invariant -/

/-- A thread's locks are those the events of its request done so far give it, from locks that
hold neither `zv_suspend_lock` nor a range and record no fault; the events are a request's. -/
def Th.Ok (tun : Tunables) (th : Th) : Prop :=
  ∃ l0 : Locks, l0.suspend = .none ∧ l0.range = none ∧ l0.fault = false ∧
    th.locks = l0.run th.done ∧
    (th.req = none → th.done = [] ∧ th.todo = []) ∧
    ∀ r, th.req = some r → ∃ st, th.done ++ th.todo = r.evs tun st

/-- The invariant of the I/O locks. -/
structure Sys.Inv {n : Nat} (tun : Tunables) (s : Sys n) : Prop where
  ok : ∀ t, (s.th t).Ok tun
  writer : ∀ t u, u ≠ t → (s.th t).locks.suspend = .writer → (s.th u).locks.suspend = .none
  ranges : ∀ t u, u ≠ t → ∀ r ∈ (s.th t).locks.range, ∀ r' ∈ (s.th u).locks.range,
    Sys.conflicts r r' = false

variable {tun : Tunables} {n : Nat} {s s' : Sys n} {t : Fin n}

/-- A thread done with its request holds neither lock and has no fault. -/
theorem Th.Ok.idle {th : Th} (h : th.Ok tun) (ht : th.todo = []) :
    th.locks.suspend = .none ∧ th.locks.range = none ∧ th.locks.fault = false := by
  obtain ⟨l0, hs, hr, hf, hl, hnone, hsome⟩ := h
  cases hreq : th.req with
  | none => simp [hl, (hnone hreq).1, hs, hr, hf]
  | some r =>
    obtain ⟨st, he⟩ := hsome r hreq
    rw [ht, List.append_nil] at he
    simp [hl, he, ((r.seg tun st) l0 hs hr).1, hs, hr, hf]

/-- The next event of a thread is checked in the locks it holds: its store access lies in the
range it holds, and, if its request is guarded, its objset use holds `zv_suspend_lock`. -/
theorem Th.Ok.next {th : Th} (h : th.Ok tun) {e : Ev} {es : List Ev} (ht : th.todo = e :: es) :
    ∃ r, th.req = some r ∧ th.locks.covers e = true ∧
      (r.guarded = true → th.locks.guards e = true) := by
  obtain ⟨l0, hs, hr, -, hl, hnone, hsome⟩ := h
  cases hreq : th.req with
  | none => simp [(hnone hreq).2] at ht
  | some r =>
    obtain ⟨st, he⟩ := hsome r hreq
    obtain ⟨-, hg, hc, -⟩ := (r.seg tun st) l0 hs hr
    rw [← he, ht] at hg hc
    simp only [Locks.every_append, Locks.every_cons, Bool.and_eq_true, ← hl] at hg hc
    exact ⟨r, rfl, hc.2.1, fun h => (hg h).2.1⟩

theorem Sys.Inv.init : Sys.Inv tun (⟨fun _ => {}⟩ : Sys n) :=
  ⟨fun _ => ⟨{}, rfl, rfl, rfl, rfl, fun _ => ⟨rfl, rfl⟩, fun _ => nofun⟩, fun _ _ _ h => (nomatch h),
    fun _ _ _ _ h => (nomatch h)⟩

/-- What a step of `t` is: it takes the next event of its request, which the others allow. -/
theorem Sys.step_eq (h : s.step t = some s') :
    ∃ e es, (s.th t).todo = e :: es ∧ s.allows t e = true ∧
      s' = s.put t { (s.th t) with
        todo := es, done := (s.th t).done ++ [e], locks := (s.th t).locks.step e } := by
  unfold Sys.step at h
  split at h
  · cases h
  · split at h
    · exact ⟨_, _, ‹_›, ‹_›, (Option.some.inj h).symm⟩
    · cases h

theorem Sys.Inv.step (hi : s.Inv tun) (h : s.step t = some s') : s'.Inv tun := by
  obtain ⟨e, es, ht, ha, rfl⟩ := Sys.step_eq h
  refine ⟨fun u => ?_, fun a b hba hw => ?_, fun a b hba r hr r' hr' => ?_⟩
  · by_cases hu : u = t
    · subst hu
      obtain ⟨l0, hs, hr, hf, hl, hnone, hsome⟩ := hi.ok u
      simp only [Sys.put_th_self]
      refine ⟨l0, hs, hr, hf, by simp [hl], fun hn => by simp [(hnone hn).2] at ht, fun r hr => ?_⟩
      obtain ⟨st, he⟩ := hsome r hr
      exact ⟨st, by simpa [ht] using he⟩
    · simpa [hu] using hi.ok u
  · by_cases hat : a = t
    · subst hat
      simp only [Sys.put_th_self, Sys.put_th_ne _ _ hba] at hw ⊢
      rcases Locks.step_writer hw with hw | rfl | rfl
      · exact hi.writer a b hba hw
      all_goals simpa [Sys.allows] using (of_decide_eq_true ha) b hba
    · simp only [Sys.put_th_ne _ _ hat] at hw
      by_cases hbt : b = t
      · subst hbt
        simp only [Sys.put_th_self]
        by_contra hne
        obtain ⟨w, rfl⟩ := Locks.step_suspend_of_none (hi.writer a b hba hw) hne
        cases w <;> simp [Sys.allows] at ha
        · exact ha a hat hw
        · simp [ha a hat] at hw
      · simpa [hbt] using hi.writer a b hba hw
  · by_cases hat : a = t
    · subst hat
      simp only [Sys.put_th_self, Sys.put_th_ne _ _ hba] at hr hr'
      rcases Locks.step_range hr with hr | rfl
      · exact hi.ranges a b hba r hr r' hr'
      · simpa [Sys.allows] using (of_decide_eq_true ha) b hba r' hr'
    · simp only [Sys.put_th_ne _ _ hat] at hr
      by_cases hbt : b = t
      · subst hbt
        simp only [Sys.put_th_self] at hr'
        rcases Locks.step_range hr' with hr' | rfl
        · exact hi.ranges a b hba r hr r' hr'
        · rw [Sys.conflicts_comm]
          simpa [Sys.allows] using (of_decide_eq_true ha) a hat r hr
      · simp only [Sys.put_th_ne _ _ hbt] at hr'
        exact hi.ranges a b hba r hr r' hr'

@[simp] theorem Sys.start_locks (st : St) (r : Req) (u : Fin n) :
    ((s.start tun t r st).th u).locks = (s.th u).locks := by
  by_cases hu : u = t
  · subst hu
    simp [Sys.start]
  · simp [Sys.start, hu]

theorem Sys.Inv.start (hi : s.Inv tun) (st : St) (r : Req) (ht : (s.th t).todo = []) :
    (s.start tun t r st).Inv tun := by
  refine ⟨fun u => ?_, fun a b hba hw => ?_, fun a b hba r hr r' hr' => ?_⟩
  · by_cases hu : u = t
    · subst hu
      obtain ⟨hs, hr, hf⟩ := (hi.ok u).idle ht
      exact ⟨(s.th u).locks, hs, hr, hf, by simp [Sys.start], by simp [Sys.start],
        fun r' hr' => ⟨st, by simp_all [Sys.start]⟩⟩
    · simpa [Sys.start, hu] using hi.ok u
  · simp only [Sys.start_locks] at hw ⊢
    exact hi.writer a b hba hw
  · simp only [Sys.start_locks] at hr hr'
    exact hi.ranges a b hba r hr r' hr'

/-- Every run keeps the invariant. -/
theorem Sys.Inv.reach (h : Reach tun s) : s.Inv tun := by
  induction h with
  | init => exact .init
  | step t _ hs ih => exact ih.step hs
  | start t r st _ ht ih => exact ih.start st r ht

end Zvol.Io
