import Zvol.Io.Chunks
import Zvol.Io.RoundTrip

/-!
# What the read and write paths transfer

The chunk loops of `Zvol.Io.Chunks` placed in their callers. `strategyRw_rw` is
`zvol_strategy_impl` for `BIO_READ` and `BIO_WRITE` past its offset check, for every sequence of
store outcomes: the loop's chunks up to the first failure, `bio_completed`, and the error after
the `EINVAL` check at the `unlock:` label, which a failed chunk always leaves alone, since every
chunk starts below `volsize`.

* `strategy_cdev_transfer`: when every store call succeeds, the strategy loop moves its plan,
  the request cut at the first multiple of `zvol_maxphys` at or past `volsize - off`, and the
  cdev loops move the request cut at `volsize`; the two agree exactly when the request ends
  inside the volume or `zvol_maxphys` divides `volsize - off`. Otherwise a write moves bytes past
  `volsize` (`strategy_write_past_volsize`).
* `strategy_stops_at_first_failure`: the strategy loop stops at its first failing chunk, whose
  transaction is aborted, and reports that chunk's error; neither `zvol_strategy_impl` nor
  `zvol_cdev_read` returns `ECKSUM`.
* `write_log_records`: the events of `BIO_WRITE`, `zvol_cdev_write`, `BIO_DELETE` and
  `DIOCGDELETE`, on every path: each logged record is a chunk whose transaction was assigned
  and whose write succeeded, in that chunk's transaction, and `zil_commit` comes last.
-/

namespace Zvol.Io

/-! ## `zvol_strategy_impl` for reads and writes -/

/-- `zvol_strategy_impl` for `BIO_READ` and `BIO_WRITE`, from its offset check to the `resume:`
label, for every sequence of store outcomes. -/
theorem strategyRw_rw (tun : Tunables) (zv : Vol) (bp : Bio) (s : St)
    (hcmd : bp.cmd = .read ∨ bp.cmd = .write) (hio : bp.length = 0 ∨ bp.offset < zv.volsize) :
    strategyRw tun zv bp s =
      let doread := bp.cmd == .read
      let commit := !doread && zv.syncAlways
      let ns := strategySizes zv.volsize tun.maxphys tun.maxphys_pos bp.offset bp.length
      let k := okCount s.answers ns.length
      let done := (ns.take k).sum
      ⟨(if k < ns.length then eio (s.answers.getD k 0)
          else if done < bp.length ∧ bp.offset + done > zv.volsize then EINVAL else 0,
          { bp with
            data := if doread then copy bp.data 0 s.data bp.offset done else bp.data
            completed := done }),
        { s with
          data := if doread then s.data else copy s.data bp.offset bp.data 0 done
          answers := s.answers.drop (if k < ns.length then k + 1 else k) },
        (if doread then [] else [Ev.osSync]) ++ [Ev.rangeEnter bp.offset bp.length (!doread)] ++
          (chunksFrom bp.offset (ns.take k)).flatMap (okChunk doread commit) ++
          (if k < ns.length then
            failChunk doread (bp.offset + done, ns.getD k 0) (s.answers.getD k 0) else []) ++
          Ev.rangeExit :: if commit then [Ev.zilCommit] else []⟩ := by
  have hdel : bp.cmd ≠ .delete := by rcases hcmd with h | h <;> simp [h]
  have hchk : ¬(bp.length > 0 ∧ bp.offset ≥ zv.volsize) := by omega
  unfold strategyRw strategyUnlock
  simp only [hchk, hdel, ↓reduceIte, strategyLoop_eq, List.append_assoc]
  set ns := strategySizes zv.volsize tun.maxphys tun.maxphys_pos bp.offset bp.length
  set k := okCount s.answers ns.length
  have hle : (ns.take k).sum ≤ bp.length := by
    have := take_sum_le ns k
    rw [strategySizes_sum] at this
    omega
  rw [Nat.sub_sub_self hle]
  by_cases hk : k < ns.length
  · have hlt := strategySizes_start_lt bp.offset bp.length k hk
    simp only [hk, ↓reduceIte, gt_iff_lt, Nat.lt_asymm hlt, and_false]
  · simp only [hk, ↓reduceIte]

/-- The error of `zvol_strategy_impl` for `BIO_READ` and `BIO_WRITE` is never `ECKSUM`. -/
theorem strategyRw_ne_ECKSUM (tun : Tunables) (zv : Vol) (bp : Bio) (s : St)
    (hcmd : bp.cmd = .read ∨ bp.cmd = .write) : (strategyRw tun zv bp s).ret.1 ≠ ECKSUM := by
  by_cases hio : bp.length = 0 ∨ bp.offset < zv.volsize
  · rw [strategyRw_rw tun zv bp s hcmd hio]
    dsimp only
    split_ifs
    · exact eio_ne_ECKSUM _
    all_goals decide
  · unfold strategyRw
    rw [if_pos (by omega)]
    exact (by decide : ( EIO : Int) ≠ ECKSUM)

/-! ## All calls succeed -/

/-- With every store call succeeding, the cdev loops move the request cut at `volsize`. -/
theorem cdev_all_ok (tun : Tunables) (zv : Vol) (off len : Nat) (buf : Nat → UInt8) (s : St)
    (ioSync : Bool) (hreq : len = 0 ∨ off < zv.volsize) (hs : ∀ a ∈ s.answers, a = 0) :
    let uio : Uio := { offset := off, resid := len, buf := buf }
    let N := min len (zv.volsize - off)
    (cdevRead tun zv uio s).ret.2.resid = len - N ∧
      (cdevRead tun zv uio s).ret.2.buf = copy buf 0 s.data off N ∧
      (cdevWrite tun zv uio ioSync s).ret.2.resid = len - N ∧
      (cdevWrite tun zv uio ioSync s).st.data = copy s.data off buf 0 N := by
  have hoff : toU64 (off : Int) = off ∨ len = 0 := by
    rcases hreq with h | h
    · exact .inr h
    · have := zv.volsize_lt
      unfold toU64
      omega
  have hchk : ¬(len > 0 ∧ ((off : Int) < 0 ∨ toU64 off > zv.volsize)) := by
    rcases hoff with h | h <;> omega
  have hz : ∀ a ∈ (ensureZilog s).st.answers, a = 0 := by simpa [ensureZilog_st] using hs
  simp only [cdevRead, cdevWrite, gt_iff_lt, if_neg hchk, cdevReadLoop_eq _ _ _ zv.volsize_lt,
    cdevWriteLoop_eq _ _ _ _ zv.volsize_lt, okCount_of_zeros hs, okPairs_of_zeros hs,
    okPairs_of_zeros hz, List.take_length, cdevSizes_sum, ensureZilog_st]
  rcases hoff with h | h <;> simp [h]

/-- With every store call succeeding, the loop of `zvol_strategy_impl` moves the chunks of its
plan, of 1 to `zvol_maxphys` bytes each, end to end from the request's offset and each starting
below `volsize`: the request cut at `T`, the first multiple of `zvol_maxphys` at or past
`volsize - off`, which `bio_completed` counts. The cdev loops move the request cut at `volsize`;
the two agree exactly when the request ends inside the volume or `zvol_maxphys` divides
`volsize - off`. -/
theorem strategy_cdev_transfer (tun : Tunables) (zv : Vol) (bp : Bio) (s : St) (ioSync : Bool)
    (hcmd : bp.cmd = .read ∨ bp.cmd = .write) (hreq : bp.length = 0 ∨ bp.offset < zv.volsize)
    (hs : ∀ a ∈ s.answers, a = 0) :
    let M := tun.maxphys
    let V := zv.volsize
    let ns := strategySizes V M tun.maxphys_pos bp.offset bp.length
    let T := min bp.length (M * ((V - bp.offset + M - 1) / M))
    let N := min bp.length (V - bp.offset)
    let r := strategyRw tun zv bp s
    let uio : Uio := { offset := bp.offset, resid := bp.length, buf := bp.data }
    (∀ n ∈ ns, 0 < n ∧ n ≤ M) ∧ (∀ k < ns.length, bp.offset + (ns.take k).sum < V) ∧
      r.evs.filterMap Ev.access = (chunksFrom bp.offset ns).map (fun c => (c.1, c.2,
        bp.cmd == .write)) ∧
      ns.sum = T ∧ r.ret.2.completed = T ∧
      r.st.data = (if bp.cmd = .write then copy s.data bp.offset bp.data 0 T else s.data) ∧
      r.ret.2.data = (if bp.cmd = .read then copy bp.data 0 s.data bp.offset T else bp.data) ∧
      (cdevRead tun zv uio s).ret.2.resid = bp.length - N ∧
      (cdevRead tun zv uio s).ret.2.buf = copy bp.data 0 s.data bp.offset N ∧
      (cdevWrite tun zv uio ioSync s).ret.2.resid = bp.length - N ∧
      (cdevWrite tun zv uio ioSync s).st.data = copy s.data bp.offset bp.data 0 N ∧
      (T = N ↔ bp.length ≤ V - bp.offset ∨ M ∣ V - bp.offset) := by
  simp only []
  rw [strategyRw_rw tun zv bp s hcmd hreq]
  set ns := strategySizes zv.volsize tun.maxphys tun.maxphys_pos bp.offset bp.length
  have hk : okCount s.answers ns.length = ns.length := okCount_of_zeros hs _
  have hT : ns.sum =
    min bp.length (tun.maxphys * ((zv.volsize - bp.offset + tun.maxphys - 1) / tun.maxphys)) :=
    strategySizes_sum _ _
  simp only [hk, List.take_length, lt_irrefl, ↓reduceIte, hT]
  obtain ⟨c1, c2, c3, c4⟩ := cdev_all_ok tun zv bp.offset bp.length bp.data s ioSync hreq hs
  refine ⟨strategySizes_bound _ _, strategySizes_start_lt _ _, ?_, trivial, trivial, ?_, ?_,
    c1, c2, c3, c4, ?_⟩
  · simp only [List.filterMap_append, okChunks_access]
    rcases hcmd with h | h <;> simp [h, Ev.access, apply_ite (List.filterMap Ev.access)]
  · rcases hcmd with h | h <;> simp [h]
  · rcases hcmd with h | h <;> simp [h]
  · exact min_mul_roundUp_eq_iff _ _ tun.maxphys_pos

/-- `zvol_strategy_impl` writes past the end of the volume. A `BIO_WRITE` that runs past
`volsize`, where `zvol_maxphys` does not divide `volsize - off`, has a last chunk that starts
below `volsize`, which is all the loop checks, and ends past it: with every store call
succeeding, it writes the byte at `volsize` and `bio_completed` counts more than the
`volsize - off` bytes of the volume, while `zvol_cdev_write` of the same request stops at
`volsize`. -/
theorem strategy_write_past_volsize (tun : Tunables) (zv : Vol) (bp : Bio) (s : St) (ioSync : Bool)
    (hcmd : bp.cmd = .write) (hoff : bp.offset < zv.volsize) (hs : ∀ a ∈ s.answers, a = 0)
    (hlen : zv.volsize - bp.offset < bp.length) (hdvd : ¬tun.maxphys ∣ zv.volsize - bp.offset) :
    let uio : Uio := { offset := bp.offset, resid := bp.length, buf := bp.data }
    zv.volsize - bp.offset < (strategyRw tun zv bp s).ret.2.completed ∧
      (strategyRw tun zv bp s).st.data zv.volsize = bp.data (zv.volsize - bp.offset) ∧
      (cdevWrite tun zv uio ioSync s).st.data zv.volsize = s.data zv.volsize := by
  obtain ⟨-, -, -, -, hcomp, hdata, -, -, -, -, hcdev, hiff⟩ :=
    strategy_cdev_transfer tun zv bp s ioSync (.inr hcmd) (.inr hoff) hs
  have hup := mul_roundUp_ge (zv.volsize - bp.offset) tun.maxphys_pos
  have hne := mt hiff.1 (by omega)
  have hT : zv.volsize - bp.offset <
      min bp.length (tun.maxphys * ((zv.volsize - bp.offset + tun.maxphys - 1) / tun.maxphys)) := by
    omega
  refine ⟨hcomp ▸ hT, ?_, ?_⟩
  · rw [hdata, if_pos hcmd, copy, if_pos (by omega)]
    congr 1
    omega
  · rw [hcdev, copy_of_not_mem (by omega)]

/-- A write of 8 bytes at offset 4 of a volume of 8 bytes, with `zvol_maxphys` 8: one chunk
moves `[4, 12)`, and `bio_completed` is 8. -/
theorem strategy_write_past_volsize_eight :
    let zv : Vol := { volsize := 8 }
    let tun : Tunables := { maxphys := 8 }
    let bp : Bio := { cmd := .write, offset := 4, length := 8, data := fun _ => 1, toGeom := true }
    let s : St := { data := fun _ => 0 }
    let uio : Uio := { offset := bp.offset, resid := bp.length, buf := bp.data }
    zv.volsize - bp.offset < (strategyRw tun zv bp s).ret.2.completed ∧
      (strategyRw tun zv bp s).st.data zv.volsize = bp.data (zv.volsize - bp.offset) ∧
      (cdevWrite tun zv uio false s).st.data zv.volsize = s.data zv.volsize :=
  strategy_write_past_volsize { maxphys := 8 } { volsize := 8 }
    { cmd := .write, offset := 4, length := 8, data := fun _ => 1, toGeom := true }
    { data := fun _ => 0 } false rfl (by decide) (by simp) (by decide) (by decide)

/-! ## Store failures -/

/-- `zvol_strategy_impl` completes a `BIO_READ` or `BIO_WRITE` bio last, with an error that is
never `ECKSUM`. -/
theorem strategyImpl_complete_ne_ECKSUM (tun : Tunables) (v : Option Vol) (bp : Bio) (s : St)
    (hcmd : bp.cmd = .read ∨ bp.cmd = .write) :
    ∃ e, (strategyImpl tun v bp s).evs.getLast? = some (.complete bp.toGeom e) ∧ e ≠ ECKSUM := by
  cases v with
  | none => exact ⟨ ENXIO, rfl, by decide⟩
  | some zv =>
    refine ⟨(strategyBody tun zv bp s).ret.1, ?_, ?_⟩
    · simp only [strategyImpl, List.getLast?_append]
      rfl
    unfold strategyBody
    rcases hcmd with h | h
    · simp only [h]
      split_ifs
      · exact (by decide : ( ENXIO : Int) ≠ ECKSUM)
      · exact strategyRw_ne_ECKSUM tun zv bp s (.inl h)
    · simp only [h, reduceCtorEq, if_false]
      split_ifs
      · exact (by decide : ( ENXIO : Int) ≠ ECKSUM)
      · exact (by decide : EROFS ≠ ECKSUM)
      · exact strategyRw_ne_ECKSUM tun zv bp _ (.inr h)

/-- `zvol_cdev_read` never returns `ECKSUM`. -/
theorem cdevRead_ne_ECKSUM (tun : Tunables) (zv : Vol) (uio : Uio) (s : St) :
    (cdevRead tun zv uio s).ret.1 ≠ ECKSUM := by
  unfold cdevRead
  split_ifs
  · exact (by decide : ( EIO : Int) ≠ ECKSUM)
  · rw [cdevReadLoop_eq _ _ _ zv.volsize_lt]
    dsimp only
    split_ifs
    · exact eio_ne_ECKSUM _
    · decide

/-- The loop of `zvol_strategy_impl` stops at the first chunk whose call fails: a failed read
moves nothing, a failed write's transaction is aborted with nothing written or logged, the
chunks before it stay moved and `bio_completed` counts them, and the error is the failed call's
with `ECKSUM` as `EIO`. Neither `zvol_strategy_impl` nor `zvol_cdev_read` returns `ECKSUM`. -/
theorem strategy_stops_at_first_failure (tun : Tunables) (zv : Vol) (bp : Bio) (s : St)
    (hcmd : bp.cmd = .read ∨ bp.cmd = .write) :
    let doread := bp.cmd == .read
    let commit := !doread && zv.syncAlways
    let ns := strategySizes zv.volsize tun.maxphys tun.maxphys_pos bp.offset bp.length
    let k := okCount s.answers ns.length
    let done := (ns.take k).sum
    let r := strategyRw tun zv bp s
    (bp.length > 0 ∧ bp.offset ≥ zv.volsize → r = ⟨( EIO, bp), s, []⟩) ∧
      ((bp.length = 0 ∨ bp.offset < zv.volsize) →
        r.evs = (if doread then [] else [Ev.osSync]) ++
          [Ev.rangeEnter bp.offset bp.length (!doread)] ++
          (chunksFrom bp.offset (ns.take k)).flatMap (okChunk doread commit) ++
          (if k < ns.length then
            failChunk doread (bp.offset + done, ns.getD k 0) (s.answers.getD k 0) else []) ++
          Ev.rangeExit :: (if commit then [Ev.zilCommit] else []) ∧
        r.ret.2.completed = done ∧
        r.st.data = (if doread then s.data else copy s.data bp.offset bp.data 0 done) ∧
        (k < ns.length → r.ret.1 = eio (s.answers.getD k 0))) ∧
      (∀ v : Option Vol, ∃ e, (strategyImpl tun v bp s).evs.getLast? =
        some (.complete bp.toGeom e) ∧
        e ≠ ECKSUM) ∧
      ∀ uio, (cdevRead tun zv uio s).ret.1 ≠ ECKSUM := by
  refine ⟨fun h => by unfold strategyRw; rw [if_pos h], fun hio => ?_,
    fun v => strategyImpl_complete_ne_ECKSUM tun v bp s hcmd,
    fun uio => cdevRead_ne_ECKSUM tun zv uio s⟩
  rw [strategyRw_rw tun zv bp s hcmd hio]
  refine ⟨rfl, rfl, rfl, fun hk => ?_⟩
  simp only [hk, ↓reduceIte]

/-- A read of 3 bytes at offset 2 of a volume of 8 bytes. -/
theorem strategy_stops_at_first_failure_read :
    let tun : Tunables := {}
    let zv : Vol := { volsize := 8 }
    let bp : Bio := { cmd := .read, offset := 2, length := 3, data := fun _ => 7, toGeom := true }
    let s : St := { data := fun _ => 0, answers := [ ECKSUM] }
    (bp.cmd = .read ∨ bp.cmd = .write) ∧
      let doread := bp.cmd == .read
      let commit := !doread && zv.syncAlways
      let ns := strategySizes zv.volsize tun.maxphys tun.maxphys_pos bp.offset bp.length
      let k := okCount s.answers ns.length
      let done := (ns.take k).sum
      let r := strategyRw tun zv bp s
      (bp.length > 0 ∧ bp.offset ≥ zv.volsize → r = ⟨( EIO, bp), s, []⟩) ∧
        ((bp.length = 0 ∨ bp.offset < zv.volsize) →
          r.evs = (if doread then [] else [Ev.osSync]) ++
            [Ev.rangeEnter bp.offset bp.length (!doread)] ++
            (chunksFrom bp.offset (ns.take k)).flatMap (okChunk doread commit) ++
            (if k < ns.length then
              failChunk doread (bp.offset + done, ns.getD k 0) (s.answers.getD k 0) else []) ++
            Ev.rangeExit :: (if commit then [Ev.zilCommit] else []) ∧
          r.ret.2.completed = done ∧
          r.st.data = (if doread then s.data else copy s.data bp.offset bp.data 0 done) ∧
          (k < ns.length → r.ret.1 = eio (s.answers.getD k 0))) ∧
        (∀ v : Option Vol, ∃ e, (strategyImpl tun v bp s).evs.getLast? =
          some (.complete bp.toGeom e) ∧
          e ≠ ECKSUM) ∧
        ∀ uio, (cdevRead tun zv uio s).ret.1 ≠ ECKSUM :=
  ⟨.inl rfl, strategy_stops_at_first_failure _ _ _ _ (.inl rfl)⟩

/-! ## The log -/

/-- The events of `zvol_strategy_impl` for `BIO_WRITE`, on every path. -/
theorem strategyImpl_write_evs (tun : Tunables) (zv : Vol) (bp : Bio) (s : St)
    (h : bp.cmd = .write) :
    let ns := strategySizes zv.volsize tun.maxphys tun.maxphys_pos bp.offset bp.length
    let k := okCount s.answers ns.length
    ∃ e, (strategyImpl tun (some zv) bp s).evs = Ev.suspendEnter false ::
      (if zv.removing || zv.rdonly then [] else (ensureZilog s).evs ++
        if bp.length > 0 ∧ bp.offset ≥ zv.volsize then [] else
          [Ev.osSync, Ev.rangeEnter bp.offset bp.length true] ++
          (chunksFrom bp.offset (ns.take k)).flatMap (writeChunk zv.syncAlways) ++
          (if k < ns.length then
            abortChunk (bp.offset + (ns.take k).sum, ns.getD k 0) (s.answers.getD k 0) else []) ++
          Ev.rangeExit :: if zv.syncAlways then [Ev.zilCommit] else []) ++
      [Ev.suspendExit, Ev.complete bp.toGeom e] := by
  refine ⟨(strategyBody tun zv bp s).ret.1, ?_⟩
  simp only [strategyImpl, List.cons_append, List.cons.injEq, true_and]
  congr 1
  unfold strategyBody
  cases hr : zv.removing <;> cases ho : zv.rdonly <;>
    simp only [h, ↓reduceIte, Bool.or_self, Bool.or_true, Bool.true_or, Bool.false_eq_true,
      reduceCtorEq]
  by_cases hio : bp.length > 0 ∧ bp.offset ≥ zv.volsize
  · unfold strategyRw
    simp [hio]
  · rw [strategyRw_rw tun zv bp _ (.inr h) (by omega)]
    simp [h, hio, ensureZilog_st, show (Cmd.write == Cmd.read) = false from rfl]

/-- The events of `zvol_cdev_write`, on every path. -/
theorem cdevWrite_evs (tun : Tunables) (zv : Vol) (uio : Uio) (ioSync : Bool) (s : St) :
    let commit := ioSync || zv.syncAlways
    let off := toU64 uio.offset
    let ns := cdevSizes zv.volsize (tun.dmuMaxAccess >>> 1) tun.half_pos off uio.resid
    let k := okPairs s.answers ns.length
    (cdevWrite tun zv uio ioSync s).evs =
      if uio.resid > 0 ∧ (uio.offset < 0 ∨ off > zv.volsize) then [] else
        (if ioSync then [] else [Ev.osSync]) ++ Ev.suspendEnter false :: (ensureZilog s).evs ++
        Ev.rangeEnter off uio.resid true ::
          (chunksFrom off (ns.take k)).flatMap (writeChunk commit) ++
        (if k < ns.length then
          cdevFailChunk (off + (ns.take k).sum, ns.getD k 0) (s.answers.drop (2 * k)) else []) ++
        Ev.rangeExit :: (if commit then [Ev.zilCommit] else []) ++ [Ev.suspendExit] := by
  simp only []
  unfold cdevWrite
  by_cases hc : uio.resid > 0 ∧ (uio.offset < 0 ∨ toU64 uio.offset > zv.volsize)
  · rw [if_pos hc, if_pos hc]
  · rw [if_neg hc, if_neg hc]
    simp only [cdevWriteLoop_eq _ _ _ _ zv.volsize_lt, ensureZilog_st]
    simp

/-- The events of `zvol_strategy_impl` for `BIO_DELETE`, on every path. -/
theorem strategyImpl_delete_evs (tun : Tunables) (zv : Vol) (bp : Bio) (s : St)
    (h : bp.cmd = .delete) :
    let a := s.answers.headD 0
    ∃ e, (strategyImpl tun (some zv) bp s).evs = Ev.suspendEnter false ::
      (if zv.removing || zv.rdonly then [] else (ensureZilog s).evs ++
        if bp.length > 0 ∧ bp.offset ≥ zv.volsize then [] else
          [Ev.osSync, Ev.rangeEnter bp.offset bp.length true, Ev.txCreate, Ev.txAssign a] ++
          (if a ≠ 0 then [Ev.txAbort] else
            [Ev.logTruncate bp.offset bp.length, Ev.txCommit,
              Ev.free bp.offset bp.length (s.answers.tail.headD 0)]) ++
          Ev.rangeExit :: if zv.syncAlways then [Ev.zilCommit] else []) ++
      [Ev.suspendExit, Ev.complete bp.toGeom e] := by
  refine ⟨(strategyBody tun zv bp s).ret.1, ?_⟩
  simp only [strategyImpl, List.cons_append, List.cons.injEq, true_and]
  congr 1
  unfold strategyBody
  cases hr : zv.removing <;> cases ho : zv.rdonly <;>
    simp only [h, ↓reduceIte, Bool.or_self, Bool.or_true, Bool.true_or, Bool.false_eq_true,
      reduceCtorEq]
  unfold strategyRw strategyUnlock
  by_cases hio : bp.length > 0 ∧ bp.offset ≥ zv.volsize
  · simp [hio]
  · have ha : (ensureZilog s).st.ans = s.answers.headD 0 := by rw [ensureZilog_st]; rfl
    have hb : (ensureZilog s).st.pop.ans = s.answers.tail.headD 0 := by rw [ensureZilog_st]; rfl
    by_cases h0 : s.answers.headD 0 = 0 <;>
      simp [-List.headD_eq_head?_getD, hio, h, ha, hb, h0,
        show (Cmd.delete == Cmd.read) = false from rfl]

/-- The events of `DIOCGDELETE`, on every path. -/
theorem ioctlDelete_evs (tun : Tunables) (zv : Vol) (offset length : Int) (s : St) :
    let a := s.answers.headD 0
    let o := toU64 offset
    let l := toU64 length
    (cdevIoctl tun zv (.delete offset length) s).evs =
      if !tun.unmapEnabled ∨ offset % DEV_BSIZE ≠ 0 ∨ length % DEV_BSIZE ≠ 0 ∨
          offset < 0 ∨ o ≥ zv.volsize ∨ length ≤ 0 then [] else
        Ev.suspendEnter false :: (ensureZilog s).evs ++ [Ev.rangeEnter o l true, Ev.txCreate,
          Ev.txAssign a] ++
        (if a ≠ 0 then [Ev.txAbort, Ev.rangeExit] else
          [Ev.osSync, Ev.logTruncate o l, Ev.txCommit, Ev.free o l (s.answers.tail.headD 0),
            Ev.rangeExit] ++
          if zv.syncAlways then [Ev.zilCommit] else []) ++
        [Ev.suspendExit] := by
  simp only []
  unfold cdevIoctl ioctlDelete
  cases hu : tun.unmapEnabled
  · simp
  by_cases hc : offset % DEV_BSIZE ≠ 0 ∨ length % DEV_BSIZE ≠ 0 ∨ offset < 0 ∨
      toU64 offset ≥ zv.volsize ∨ length ≤ 0
  · simp only [hc, Bool.not_true, Bool.false_eq_true, false_or, ↓reduceIte]
  · simp only [hc, Bool.not_true, Bool.false_eq_true, false_or, ↓reduceIte]
    have ha : (ensureZilog s).st.ans = s.answers.headD 0 := by rw [ensureZilog_st]; rfl
    have hb : (ensureZilog s).st.pop.ans = s.answers.tail.headD 0 := by rw [ensureZilog_st]; rfl
    by_cases h0 : s.answers.headD 0 = 0 <;>
      simp [-List.headD_eq_head?_getD, hc, ha, hb, h0]

/-- The log of the write and delete paths: each write record (`logWrite`) is the chunk of a
transaction that was assigned and whose write succeeded, in that transaction, and the records
follow the chunks, end to end from the request's offset; a chunk that fails is logged by no
record. Each delete logs one truncate record of the freed range in a committed transaction
before `dmu_free_long_range`, and nothing when the transaction is not assigned. `zil_commit`,
when the commit flag is set, is called once, after the last record and before completion. -/
theorem write_log_records (tun : Tunables) (zv : Vol) (bp : Bio) (uio : Uio) (ioSync : Bool)
    (offset length : Int) (s : St) :
    (bp.cmd = .write →
      let ns := strategySizes zv.volsize tun.maxphys tun.maxphys_pos bp.offset bp.length
      let k := okCount s.answers ns.length
      ∃ e, (strategyImpl tun (some zv) bp s).evs = Ev.suspendEnter false ::
        (if zv.removing || zv.rdonly then [] else (ensureZilog s).evs ++
          if bp.length > 0 ∧ bp.offset ≥ zv.volsize then [] else
            [Ev.osSync, Ev.rangeEnter bp.offset bp.length true] ++
            (chunksFrom bp.offset (ns.take k)).flatMap (writeChunk zv.syncAlways) ++
            (if k < ns.length then
              abortChunk (bp.offset + (ns.take k).sum, ns.getD k 0) (s.answers.getD k 0) else []) ++
            Ev.rangeExit :: if zv.syncAlways then [Ev.zilCommit] else []) ++
        [Ev.suspendExit, Ev.complete bp.toGeom e]) ∧
    (let commit := ioSync || zv.syncAlways
      let off := toU64 uio.offset
      let ns := cdevSizes zv.volsize (tun.dmuMaxAccess >>> 1) tun.half_pos off uio.resid
      let k := okPairs s.answers ns.length
      (cdevWrite tun zv uio ioSync s).evs =
        if uio.resid > 0 ∧ (uio.offset < 0 ∨ off > zv.volsize) then [] else
          (if ioSync then [] else [Ev.osSync]) ++ Ev.suspendEnter false :: (ensureZilog s).evs ++
          Ev.rangeEnter off uio.resid true ::
            (chunksFrom off (ns.take k)).flatMap (writeChunk commit) ++
          (if k < ns.length then
            cdevFailChunk (off + (ns.take k).sum, ns.getD k 0) (s.answers.drop (2 * k)) else []) ++
          Ev.rangeExit :: (if commit then [Ev.zilCommit] else []) ++ [Ev.suspendExit]) ∧
    (bp.cmd = .delete →
      let a := s.answers.headD 0
      ∃ e, (strategyImpl tun (some zv) bp s).evs = Ev.suspendEnter false ::
        (if zv.removing || zv.rdonly then [] else (ensureZilog s).evs ++
          if bp.length > 0 ∧ bp.offset ≥ zv.volsize then [] else
            [Ev.osSync, Ev.rangeEnter bp.offset bp.length true, Ev.txCreate, Ev.txAssign a] ++
            (if a ≠ 0 then [Ev.txAbort] else
              [Ev.logTruncate bp.offset bp.length, Ev.txCommit,
                Ev.free bp.offset bp.length (s.answers.tail.headD 0)]) ++
            Ev.rangeExit :: if zv.syncAlways then [Ev.zilCommit] else []) ++
        [Ev.suspendExit, Ev.complete bp.toGeom e]) ∧
    (let a := s.answers.headD 0
      let o := toU64 offset
      let l := toU64 length
      (cdevIoctl tun zv (.delete offset length) s).evs =
        if !tun.unmapEnabled ∨ offset % DEV_BSIZE ≠ 0 ∨ length % DEV_BSIZE ≠ 0 ∨
            offset < 0 ∨ o ≥ zv.volsize ∨ length ≤ 0 then [] else
          Ev.suspendEnter false :: (ensureZilog s).evs ++ [Ev.rangeEnter o l true, Ev.txCreate,
            Ev.txAssign a] ++
          (if a ≠ 0 then [Ev.txAbort, Ev.rangeExit] else
            [Ev.osSync, Ev.logTruncate o l, Ev.txCommit, Ev.free o l (s.answers.tail.headD 0),
              Ev.rangeExit] ++
            if zv.syncAlways then [Ev.zilCommit] else []) ++
          [Ev.suspendExit]) :=
  ⟨strategyImpl_write_evs tun zv bp s, cdevWrite_evs tun zv uio ioSync s,
    strategyImpl_delete_evs tun zv bp s, ioctlDelete_evs tun zv offset length s⟩

end Zvol.Io
