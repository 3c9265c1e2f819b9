import Zvol.Io.Paths

/-!
# The locks of the I/O paths

Which locks each path takes and releases, and what it holds when it uses the objset or accesses
the store. The pieces of the paths between `rw_enter` and `rw_exit` of `zv_suspend_lock` all
are segments (`Seg`): run from a state that holds `zv_suspend_lock` as reader and no range, they
come back to it, each objset use on the way holds `zv_suspend_lock`, each store access lies
in the range held, a writer range if it modifies, and each blocking acquisition keeps the lock
order. Segments compose by `++` (`Seg.append`), so
each path is assembled from its pieces: `ensureZilog_seg`, quiet pieces (`Seg.of_quiet`), a
range with the loop that works inside it (`Seg.ranged`, `strategyLoop_inRange`,
`cdevReadLoop_inRange`, `cdevWriteLoop_inRange`), the `rw_enter`/`rw_exit` pair around them
(`Seg.suspended`), and the completion of the bio.
-/

namespace Zvol.Io

open Locks

/-- Events that take no lock, and whose store accesses lie in the range `(off, len, w)`. -/
def InRange (off len : Nat) (w : Bool) (evs : List Ev) : Prop :=
  ∀ e ∈ evs, e.quiet = true ∧ e.within (off, len, w) = true

namespace InRange

theorem nil (off len : Nat) (w : Bool) : InRange off len w [] := fun _ h => absurd h (List.not_mem_nil _)

theorem cons {off len : Nat} {w : Bool} {e : Ev} {evs : List Ev} (he : e.quiet = true)
    (hw : e.within (off, len, w) = true) (h : InRange off len w evs) : InRange off len w (e :: evs) :=
  List.forall_mem_cons.2 ⟨⟨he, hw⟩, h⟩

theorem append {off len : Nat} {w : Bool} {xs ys : List Ev} (hx : InRange off len w xs)
    (hy : InRange off len w ys) : InRange off len w (xs ++ ys) :=
  List.forall_mem_append.2 ⟨hx, hy⟩

/-- Accesses inside a range lie inside every range around it. -/
theorem mono {off len o n : Nat} {w w' : Bool} {evs : List Ev} (h : InRange off len w evs)
    (ho : o ≤ off) (hn : off + len ≤ o + n) (hw : w → w') : InRange o n w' evs :=
  fun e he => ⟨(h e he).1, Ev.within_mono (h e he).2 ho hn hw⟩

/-- Events that access no byte are in every range. -/
theorem of_access {off len : Nat} {w : Bool} {evs : List Ev}
    (h : ∀ e ∈ evs, e.quiet = true ∧ e.access = none) : InRange off len w evs :=
  fun e he => ⟨(h e he).1, by simp [Ev.within, (h e he).2]⟩

end InRange

/-- Run from any lock state that holds `zv_suspend_lock` as `h` and no range, the events end in
that state with `n` more completions, each store access lies in the range held, a writer range
if it modifies, each blocking acquisition takes a lock above those held, and, if `g`, each
objset use holds `zv_suspend_lock`. -/
def Seg (h : RwHold) (n : Nat) (g : Bool) (evs : List Ev) : Prop :=
  ∀ l : Locks, l.suspend = h → l.range = none →
    l.run evs = { l with completions := l.completions + n } ∧
      (g = true → l.every guards evs = true) ∧ l.every covers evs = true ∧
      l.every ordered evs = true

namespace Seg

variable {h : RwHold} {m n : Nat} {g : Bool} {xs ys evs : List Ev}

theorem nil : Seg h 0 g [] := fun _ _ _ => ⟨rfl, fun _ => rfl, rfl, rfl⟩

theorem append (hx : Seg h m g xs) (hy : Seg h n g ys) : Seg h (m + n) g (xs ++ ys) := by
  intro l hs hr
  obtain ⟨h1, h2, h3, h4⟩ := hx l hs hr
  obtain ⟨h5, h6, h7, h8⟩ := hy { l with completions := l.completions + m } hs hr
  refine ⟨by simp [h1, h5, Nat.add_assoc], fun hg => ?_, ?_, ?_⟩
  · simp [h1, h2 hg, h6 hg]
  · simp [h1, h3, h7]
  · simp [h1, h4, h8]

theorem weaken (hx : Seg h n true evs) : Seg h n g evs :=
  fun l hs hr => ⟨(hx l hs hr).1, fun _ => (hx l hs hr).2.1 rfl, (hx l hs hr).2.2⟩

/-- Events that take no lock and access no byte, and use the objset only holding
`zv_suspend_lock` if `g`. -/
theorem of_quiet (he : ∀ e ∈ evs, e.quiet = true ∧ e.access = none)
    (hg : g = true → h ≠ .none ∨ ∀ e ∈ evs, e.usesObjset = false) : Seg h 0 g evs := by
  intro l hs hr
  refine ⟨run_quiet l fun e h => (he e h).1, fun hg' => every_quiet _ l fun e h => ⟨(he e h).1, ?_⟩,
    every_quiet _ l fun e h => ⟨(he e h).1, by simp [covers, hr, (he e h).2]⟩,
    every_quiet _ l fun e h => ⟨(he e h).1, ordered_of_quiet l (he e h).1⟩⟩
  rcases hg hg' with hn | hn
  · simp [guards, hs, hn]
  · simp [guards, hn e h]

/-- A range taken, events inside it, the range released, and what follows. -/
theorem ranged {off len : Nat} {w : Bool} {mid rest : List Ev} (hm : InRange off len w mid)
    (hg : g = true → h ≠ .none) (hrest : Seg h n g rest) :
    Seg h n g (.rangeEnter off len w :: (mid ++ .rangeExit :: rest)) := by
  rintro ⟨sus, rng, cpl, flt⟩ (rfl : sus = _) (rfl : rng = _)
  obtain ⟨h1, h2, h3, h4⟩ := hrest ⟨sus, none, cpl, flt⟩ rfl rfl
  have hq : ∀ e ∈ mid, e.quiet = true := fun e he => (hm e he).1
  refine ⟨by simp [step, run_quiet _ hq, h1], fun hg' => ?_, ?_, ?_⟩
  · have : every guards ⟨sus, some (off, len, w), cpl, flt⟩ mid = true :=
      every_quiet _ _ fun e he => ⟨(hm e he).1, by simp [guards, hg hg']⟩
    simp [step, run_quiet _ hq, this, guards, Ev.usesObjset, hg hg', h2 hg']
  · have : every covers ⟨sus, some (off, len, w), cpl, flt⟩ mid = true :=
      every_quiet _ _ fun e he => ⟨(hm e he).1, by simp [covers, (hm e he).2]⟩
    simp [step, run_quiet _ hq, this, covers, Ev.access, Ev.within, h3]
  · have : every ordered ⟨sus, some (off, len, w), cpl, flt⟩ mid = true :=
      every_quiet _ _ fun e he => ⟨(hm e he).1, ordered_of_quiet _ (hm e he).1⟩
    simp [step, run_quiet _ hq, this, ordered_eq, h4]

/-- `rw_enter(&zv->zv_suspend_lock, ZVOL_RW_READER)`, a piece run holding it, `rw_exit`, and
what follows. -/
theorem suspended {rest : List Ev} (hx : Seg .reader m g evs) (hrest : Seg .none n g rest) :
    Seg .none (m + n) g (.suspendEnter false :: (evs ++ .suspendExit :: rest)) := by
  rintro ⟨sus, rng, cpl, flt⟩ (rfl : sus = _) (rfl : rng = _)
  obtain ⟨h1, h2, h3, h4⟩ := hx ⟨.reader, none, cpl, flt⟩ rfl rfl
  obtain ⟨h5, h6, h7, h8⟩ := hrest ⟨.none, none, cpl + m, flt⟩ rfl rfl
  refine ⟨?_, fun hg => ?_, ?_, ?_⟩ <;>
    simp_all [step, guards, covers, ordered_eq, Ev.usesObjset, Ev.access, Nat.add_assoc]

/-- The bio is completed. -/
theorem complete (geom : Bool) (err : Int) : Seg h 1 g [.complete geom err] :=
  fun _ _ hr => ⟨rfl, fun _ => rfl, by simp [covers, hr, Ev.access], rfl⟩

/-- A `g_handleattr_*` call delivers the bio. -/
theorem deliverAttr (value : Int) : Seg h 1 g [.deliverAttr value] :=
  fun _ _ hr => ⟨rfl, fun _ => rfl, by simp [covers, hr, Ev.access], rfl⟩

/-- `taskq_dispatch_ent` takes no lock and uses nothing of the volume. -/
theorem dispatch : Seg h 0 g [.dispatch] :=
  of_quiet (by simp [Ev.quiet, Ev.access]) fun _ => .inr (by simp [Ev.usesObjset])

/-- An event that takes no lock and accesses no byte, whatever it uses. -/
theorem unlocked (e : Ev) (hq : e.quiet = true) (ha : e.access = none) : Seg h 0 false [e] :=
  of_quiet (by simp [hq, ha]) nofun

end Seg

/-- `zvol_ensure_zilog` returns with the reader hold it was entered with, and opens the log
holding the lock as writer. -/
theorem ensureZilog_seg (s : St) : Seg .reader 0 true (ensureZilog s).evs := by
  rintro ⟨sus, rng, cpl, flt⟩ (rfl : sus = _) (rfl : rng = _)
  unfold ensureZilog
  split_ifs <;> simp [step, guards, covers, ordered_eq, Ev.usesObjset, Ev.access]

/-! ## The chunk loops -/

theorem strategyLoop_inRange (volsize maxphys : Nat) (hmax : 0 < maxphys) (doread commit : Bool)
    (c : Cursor) (s : St) :
    InRange c.off c.resid (!doread) (strategyLoop volsize maxphys hmax doread commit c s).evs := by
  induction c, s using strategyLoop.induct volsize maxphys hmax doread commit with
  | case1 c s h err hd herr =>
    have herr : s.ans ≠ 0 := herr
    rw [strategyLoop, dif_pos h]
    simp [hd, herr, InRange, Ev.quiet, Ev.within, Ev.access]
  | case2 c s h size err hd herr ih =>
    have herr : s.ans = 0 := not_not.1 herr
    subst hd
    rw [strategyLoop, dif_pos h]
    simp only [herr, ↓reduceIte, ne_eq, not_true_eq_false]
    refine .cons rfl ?_ (ih.mono ?_ ?_ id) <;> simp [Ev.within, Ev.access, size]
    omega
  | case3 c s h err hd herr =>
    have herr : s.ans ≠ 0 := herr
    rw [strategyLoop, dif_pos h]
    simp [hd, herr, InRange, Ev.quiet, Ev.within, Ev.access]
  | case4 c s h size err hd herr ih =>
    have herr : s.ans = 0 := not_not.1 herr
    obtain rfl : doread = false := by simpa using hd
    rw [strategyLoop, dif_pos h]
    simp only [herr, ↓reduceIte, ne_eq, not_true_eq_false, Bool.false_eq_true]
    refine .append ?_ (ih.mono ?_ ?_ id) <;> simp [InRange, Ev.quiet, Ev.within, Ev.access, size]
    omega
  | case5 c s h =>
    rw [strategyLoop, dif_neg h]
    exact InRange.nil _ _ _

theorem cdevReadLoop_inRange (volsize half : Nat) (hhalf : 0 < half) (hv : volsize < 2 ^ 64)
    (uio : Uio) (s : St) :
    InRange (toU64 uio.offset) uio.resid false (cdevReadLoop volsize half hhalf uio s).evs := by
  induction uio, s using cdevReadLoop.induct volsize half hhalf with
  | case1 uio s h err herr =>
    have herr : s.ans ≠ 0 := herr
    rw [cdevReadLoop, dif_pos h]
    simp [herr, InRange, Ev.quiet, Ev.within, Ev.access, cdevChunk_le]
  | case2 uio s h bytes off err herr hpos ih =>
    have herr : s.ans = 0 := not_not.1 herr
    have hb := @cdevChunk_bound volsize half uio hv h.2
    rw [cdevReadLoop, dif_pos h]
    simp only [herr, ↓reduceIte, ne_eq, not_true_eq_false]
    refine .cons rfl ?_ (ih.mono ?_ ?_ id) <;> simp [Ev.within, Ev.access, bytes, cdevChunk_le, hb.2]
    have := cdevChunk_le volsize half uio
    omega
  | case3 uio s h =>
    rw [cdevReadLoop, dif_neg h]
    exact InRange.nil _ _ _

theorem cdevWriteLoop_inRange (volsize half : Nat) (hhalf : 0 < half) (hv : volsize < 2 ^ 64)
    (commit : Bool) (uio : Uio) (s : St) :
    InRange (toU64 uio.offset) uio.resid true (cdevWriteLoop volsize half hhalf commit uio s).evs := by
  induction uio, s using cdevWriteLoop.induct volsize half hhalf commit with
  | case1 uio s h err herr =>
    have herr : s.ans ≠ 0 := herr
    rw [cdevWriteLoop, dif_pos h]
    simp [herr, InRange, Ev.quiet, Ev.within, Ev.access]
  | case2 uio s h err herr err' herr' =>
    have herr : s.ans = 0 := not_not.1 herr
    have herr' : s.pop.ans ≠ 0 := herr'
    rw [cdevWriteLoop, dif_pos h]
    simp [herr, herr', InRange, Ev.quiet, Ev.within, Ev.access, cdevChunk_le]
  | case3 uio s h bytes off err herr err' herr' hpos ih =>
    have herr : s.ans = 0 := not_not.1 herr
    have herr' : s.pop.ans = 0 := not_not.1 herr'
    have hb := @cdevChunk_bound volsize half uio hv h.2
    rw [cdevWriteLoop, dif_pos h]
    simp only [herr, herr', ↓reduceIte, ne_eq, not_true_eq_false]
    refine .append ?_ (ih.mono ?_ ?_ id) <;>
      simp [InRange, Ev.quiet, Ev.within, Ev.access, bytes, cdevChunk_le, hb.2]
    have := cdevChunk_le volsize half uio
    omega
  | case4 uio s h =>
    rw [cdevWriteLoop, dif_neg h]
    exact InRange.nil _ _ _

/-! ## The paths -/

/-- Events that take no lock, access no byte, and that the code makes holding
`zv_suspend_lock`. -/
theorem Seg.of_quiet_held {evs : List Ev} (he : ∀ e ∈ evs, e.quiet = true ∧ e.access = none) :
    Seg .reader 0 true evs :=
  Seg.of_quiet he fun _ => .inl (by decide)

theorem strategyRw_seg (tun : Tunables) (zv : Vol) (bp : Bio) (s : St) :
    Seg .reader 0 true (strategyRw tun zv bp s).evs := by
  have hpre : ∀ d : Bool, Seg .reader 0 true (if d then [] else [Ev.osSync]) := fun d =>
    .of_quiet_held (by cases d <;> simp [Ev.quiet, Ev.access])
  have hcommit : ∀ c : Bool, Seg .reader 0 true (if c then [Ev.zilCommit] else []) := fun c =>
    .of_quiet_held (by cases c <;> simp [Ev.quiet, Ev.access])
  unfold strategyRw strategyUnlock
  dsimp only
  split
  · exact .nil
  simp only [List.append_assoc, List.singleton_append]
  split
  · split
    · refine (hpre _).append (.ranged ?_ (fun _ => by decide) (hcommit _))
      exact .of_access (by simp [Ev.quiet, Ev.access])
    · refine (hpre _).append (.ranged ?_ (fun _ => by decide) (hcommit _))
      simp [InRange, Ev.quiet, Ev.access, Ev.within, *]
  · simp only [List.cons_append]
    exact (hpre _).append
      (.ranged (strategyLoop_inRange _ _ _ _ _ ⟨bp.offset, 0, bp.length, bp.data⟩ s)
        (fun _ => by decide) (hcommit _))

/-- `zvol_strategy_impl` takes the range lock for `BIO_READ`, `BIO_WRITE` and `BIO_DELETE`
exactly when the request has no bytes to move at or past the end of the volume. -/
theorem strategyRw_rangeEnter (tun : Tunables) (zv : Vol) (bp : Bio) (s : St) :
    (∃ off len w, Ev.rangeEnter off len w ∈ (strategyRw tun zv bp s).evs) ↔
      ¬(bp.length > 0 ∧ bp.offset ≥ zv.volsize) := by
  unfold strategyRw strategyUnlock
  dsimp only
  split
  · simp_all
  · refine iff_of_true ⟨bp.offset, bp.length, !(bp.cmd == .read), ?_⟩ ‹_›
    split_ifs <;> simp

theorem ensureZilog_rangeEnter (s : St) (off len : Nat) (w : Bool) :
    Ev.rangeEnter off len w ∉ (ensureZilog s).evs := by
  unfold ensureZilog
  split_ifs <;> simp

/-- `zvol_strategy_impl` takes the range lock exactly when the request gets past its checks
and is not a flush: the volume is there and not being removed, the command is `BIO_READ`, or
`BIO_WRITE` or `BIO_DELETE` on a writable volume, and it has no bytes to move at or past the
end. -/
theorem strategyImpl_rangeEnter (tun : Tunables) (zv : Option Vol) (bp : Bio) (s : St) :
    (∃ off len w, Ev.rangeEnter off len w ∈ (strategyImpl tun zv bp s).evs) ↔
      ∃ v, zv = some v ∧ v.removing = false ∧
        (bp.cmd = .read ∨ ((bp.cmd = .write ∨ bp.cmd = .delete) ∧ v.rdonly = false)) ∧
        ¬(bp.length > 0 ∧ bp.offset ≥ v.volsize) := by
  unfold strategyImpl
  split
  · simp
  · rename_i v
    simp only [List.cons_append, List.mem_cons, reduceCtorEq, false_or, List.mem_append,
      List.mem_singleton, List.not_mem_nil, or_false, Option.some.injEq, exists_eq_left']
    unfold strategyBody
    cases hr : v.removing
    · cases hc : bp.cmd <;> cases hro : v.rdonly <;>
        simp only [hc, hro, reduceCtorEq, ↓reduceIte, Bool.false_eq_true, List.mem_append,
          ensureZilog_rangeEnter, false_or, List.mem_singleton, List.not_mem_nil, or_false] <;>
        (try rw [strategyRw_rangeEnter]) <;> simp
    · simp

theorem strategyBody_seg (tun : Tunables) (zv : Vol) (bp : Bio) (s : St) :
    Seg .reader 0 true (strategyBody tun zv bp s).evs := by
  unfold strategyBody
  split
  · exact .nil
  split
  all_goals first
    | exact .nil
    | exact strategyRw_seg _ _ _ _
    | split
      · exact .nil
      · simp only [*, reduceCtorEq, ↓reduceIte]
        first
          | exact (ensureZilog_seg s).append (strategyRw_seg _ _ _ _)
          | exact (ensureZilog_seg s).append (.of_quiet_held (by simp [Ev.quiet, Ev.access]))

theorem strategyImpl_seg (tun : Tunables) (zv : Option Vol) (bp : Bio) (s : St) :
    Seg .none 1 true (strategyImpl tun zv bp s).evs := by
  unfold strategyImpl
  split
  · exact .complete _ _
  · simpa only [List.cons_append, Nat.zero_add] using
      Seg.suspended (strategyBody_seg _ _ _ _) (.complete _ _)

theorem strategyTask_seg (tun : Tunables) (zv : Option Vol) (bp : Bio) (s : St) :
    Seg .none 1 true (strategyTask tun zv bp s).evs :=
  strategyImpl_seg tun zv bp s

theorem geomBioStrategy_seg (tun : Tunables) (zv : Option Vol) (bp : Bio) (sync : Bool) (s : St) :
    Seg .none 1 true (geomBioStrategy tun zv bp sync s).evs := by
  unfold geomBioStrategy
  split
  · exact .complete _ _
  · split
    · exact strategyImpl_seg _ _ _ _
    · exact Seg.dispatch.append (strategyTask_seg _ _ _ _)

theorem cdevBioStrategy_seg (tun : Tunables) (zv : Option Vol) (bp : Bio) (s : St) :
    Seg .none 1 true (cdevBioStrategy tun zv bp s).evs :=
  geomBioStrategy_seg tun zv bp false s

/-- `zvol_geom_bio_start` completes the bio once; only `BIO_GETATTR` uses the objset without
`zv_suspend_lock`. -/
theorem geomBioStart_seg (tun : Tunables) (zv : Option Vol) (geomThread canSleep : Bool)
    (bp : Bio) (s : St) :
    Seg .none 1 (bp.cmd != .getattr) (geomBioStart tun zv geomThread canSleep bp s).evs := by
  unfold geomBioStart
  split
  · exact .complete _ _
  · split
    · have hg : (bp.cmd != .getattr) = false := by simp [*]
      rw [hg]
      unfold geomBioGetattr
      split_ifs <;> simp only [List.append_nil] <;>
        first
        | exact (Seg.unlocked .spa rfl rfl).append (.deliverAttr _)
        | exact (Seg.unlocked .spa rfl rfl).append ((Seg.unlocked .space rfl rfl).append
            (.deliverAttr _))
        | exact (Seg.unlocked .spa rfl rfl).append (.complete _ _)
    · exact (geomBioStrategy_seg _ _ _ _ _).weaken

theorem cdevRead_seg (tun : Tunables) (zv : Vol) (uio : Uio) (s : St) :
    Seg .none 0 true (cdevRead tun zv uio s).evs := by
  unfold cdevRead
  split
  · exact .nil
  · simpa only [List.append_assoc, List.cons_append, List.nil_append] using
      Seg.suspended (.ranged (cdevReadLoop_inRange _ _ _ zv.volsize_lt uio s) (fun _ => by decide)
        .nil) .nil

/-- `zvol_cdev_write` reads `os_sync` before it takes `zv_suspend_lock`, unless `IO_SYNC` is
set. -/
theorem cdevWrite_seg (tun : Tunables) (zv : Vol) (uio : Uio) (ioSync : Bool) (s : St) :
    Seg .none 0 ioSync (cdevWrite tun zv uio ioSync s).evs := by
  unfold cdevWrite
  split
  · exact .nil
  · have hpre : Seg .none 0 ioSync (if ioSync then [] else [Ev.osSync]) :=
      .of_quiet (by split <;> simp [Ev.quiet, Ev.access]) fun h => .inr (by simp [h])
    have hcommit : ∀ c : Bool, Seg .reader 0 true (if c then [Ev.zilCommit] else []) := fun c =>
      .of_quiet_held (by cases c <;> simp [Ev.quiet, Ev.access])
    simpa only [List.append_assoc, List.cons_append, List.nil_append] using
      hpre.append (Seg.suspended ((ensureZilog_seg s).append
        (.ranged (cdevWriteLoop_inRange _ _ _ zv.volsize_lt _ uio _) (fun _ => by decide)
          (hcommit _))) .nil).weaken

theorem ioctlDelete_seg (zv : Vol) (offset length : Nat) (s : St) :
    Seg .none 0 true (ioctlDelete zv offset length s).evs := by
  unfold ioctlDelete
  dsimp only
  split
  · have hm : InRange offset length true
        [.txCreate, .txAssign (ensureZilog s).st.ans, .txAbort] :=
      .of_access (by simp [Ev.quiet, Ev.access])
    simpa only [List.append_assoc, List.cons_append, List.nil_append] using
      Seg.suspended ((ensureZilog_seg s).append (.ranged hm (fun _ => by decide) .nil)) .nil
  · have hm : InRange offset length true
        [.txCreate, .txAssign (ensureZilog s).st.ans, .osSync, .logTruncate offset length,
          .txCommit, .free offset length (ensureZilog s).st.pop.ans] := by
      simp [InRange, Ev.quiet, Ev.access, Ev.within]
    have hsync : Seg .reader 0 true (if zv.syncAlways then [Ev.zilCommit] else []) :=
      .of_quiet_held (by split <;> simp [Ev.quiet, Ev.access])
    simpa only [List.append_assoc, List.cons_append, List.nil_append] using
      Seg.suspended ((ensureZilog_seg s).append (.ranged hm (fun _ => by decide) hsync)) .nil

/-- `zvol_cdev_ioctl` takes and releases its locks in pairs; only `DIOCGATTR` and the seek
ioctls use the objset without `zv_suspend_lock`. -/
theorem cdevIoctl_seg (tun : Tunables) (zv : Vol) (cmd : Ioctl) (s : St) {g : Bool}
    (hg : g = true → (∀ name, cmd ≠ .attr name) ∧ ∀ hole off, cmd ≠ .seek hole off) :
    Seg .none 0 g (cdevIoctl tun zv cmd s).evs := by
  unfold cdevIoctl
  split
  · exact .nil
  · exact .nil
  · simpa only [List.cons_append] using
      (Seg.suspended (.of_quiet_held (by split <;> simp [Ev.quiet, Ev.access])) .nil).weaken
  · split
    · exact .nil
    · split
      · exact .nil
      · exact (ioctlDelete_seg _ _ _ _).weaken
  · exact .nil
  · exact .nil
  · obtain rfl : g = false := by cases g <;> simp_all
    unfold ioctlAttr
    split_ifs <;> first
      | exact Seg.unlocked .spa rfl rfl
      | exact (Seg.unlocked .spa rfl rfl).append (Seg.unlocked .space rfl rfl)
  · obtain rfl : g = false := by cases g <;> simp_all
    show Seg _ _ _ (_ :: ([_] ++ [_]))
    refine Seg.ranged ?_ (fun h => absurd h Bool.false_ne_true) .nil
    have := toU64_lt ‹Int›
    simp [InRange, Ev.quiet, Ev.access, Ev.within, UINT64_MAX]
    omega
  · exact .nil

end Zvol.Io
