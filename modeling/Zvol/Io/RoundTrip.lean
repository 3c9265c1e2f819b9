import Zvol.Io.Paths

/-!
# Writing and reading back

With a store whose calls all succeed (`St.answers = []`), the chunk loops move exactly the
bytes of the request, chunk after chunk, whatever the caps: the write loops leave the store as
one copy of the buffer over the request's range (`strategyLoop_write`, `cdevWriteLoop_write`),
and the read loops fill the buffer from it (`strategyLoop_read`, `cdevReadLoop_read`). Two
copies of adjacent chunks are one copy (`copy_copy`), which is the loop invariant.
-/

namespace Zvol.Io

theorem strategyLoop_write (volsize maxphys : Nat) (hmax : 0 < maxphys) (commit : Bool)
    (c : Cursor) (s : St) (hs : s.answers = []) (hfit : c.off + c.resid ≤ volsize) :
    (strategyLoop volsize maxphys hmax false commit c s).st =
        { s with data := copy s.data c.off c.buf c.addr c.resid } ∧
      (strategyLoop volsize maxphys hmax false commit c s).ret.1 = 0 := by
  induction c, s using strategyLoop.induct volsize maxphys hmax false commit with
  | case1 c s h err hd => cases hd
  | case2 c s h size err hd => cases hd
  | case3 c s h err hd herr => exact absurd (St.ans_of_nil hs) herr
  | case4 c s h size err hd herr ih =>
    rw [strategyLoop, dif_pos h]
    simp only [St.ans_of_nil hs, ↓reduceIte, ne_eq, not_true_eq_false, Bool.false_eq_true]
    obtain ⟨h1, h2⟩ := ih (by simp [hs]) (by simp only; omega)
    refine ⟨?_, h2⟩
    have hsz : size + (c.resid - size) = c.resid := by simp only [size]; omega
    rw [h1, St.pop_of_nil hs]
    simp only [copy_copy, hsz]
  | case5 c s h =>
    have : c.resid = 0 := by
      by_contra h'
      exact h ⟨h', by omega⟩
    rw [strategyLoop, dif_neg h]
    simp [this]

theorem strategyLoop_read (volsize maxphys : Nat) (hmax : 0 < maxphys) (commit : Bool)
    (c : Cursor) (s : St) (hs : s.answers = []) (hfit : c.off + c.resid ≤ volsize) :
    (strategyLoop volsize maxphys hmax true commit c s).st = s ∧
      (strategyLoop volsize maxphys hmax true commit c s).ret.1 = 0 ∧
      (strategyLoop volsize maxphys hmax true commit c s).ret.2.buf =
        copy c.buf c.addr s.data c.off c.resid := by
  induction c, s using strategyLoop.induct volsize maxphys hmax true commit with
  | case1 c s h err hd herr => exact absurd (St.ans_of_nil hs) herr
  | case2 c s h size err hd herr ih =>
    rw [St.pop_of_nil hs] at ih
    rw [strategyLoop, dif_pos h]
    simp only [St.ans_of_nil hs, St.pop_of_nil hs, ↓reduceIte, ne_eq, not_true_eq_false]
    obtain ⟨h1, h2, h3⟩ := ih hs (by simp only; omega)
    refine ⟨h1, h2, ?_⟩
    have hsz : size + (c.resid - size) = c.resid := by simp only [size]; omega
    rw [h3]
    simp only [copy_copy, hsz]
  | case3 c s h err hd => exact absurd rfl hd
  | case4 c s h size err hd => exact absurd rfl hd
  | case5 c s h =>
    have : c.resid = 0 := by
      by_contra h'
      exact h ⟨h', by omega⟩
    rw [strategyLoop, dif_neg h]
    simp [this]

theorem cdevWriteLoop_write (volsize half : Nat) (hhalf : 0 < half) (hv : volsize < 2 ^ 64)
    (commit : Bool) (uio : Uio) (s : St) (hs : s.answers = [])
    (hfit : toU64 uio.offset + uio.resid ≤ volsize) :
    (cdevWriteLoop volsize half hhalf commit uio s).st =
        { s with data := copy s.data (toU64 uio.offset) uio.buf uio.skip uio.resid } ∧
      (cdevWriteLoop volsize half hhalf commit uio s).ret.1 = 0 := by
  induction uio, s using cdevWriteLoop.induct volsize half hhalf commit with
  | case1 uio s h err herr => exact absurd (St.ans_of_nil hs) herr
  | case2 uio s h err herr err' herr' =>
    exact absurd (St.ans_of_nil (show s.pop.answers = [] by simp [hs])) herr'
  | case3 uio s h bytes off err herr err' herr' hpos ih =>
    have hb := @cdevChunk_bound volsize half uio hv h.2
    have hle := cdevChunk_le volsize half uio
    rw [St.pop_of_nil hs, St.pop_of_nil hs] at ih
    rw [cdevWriteLoop, dif_pos h]
    simp only [St.ans_of_nil hs, St.pop_of_nil hs, ↓reduceIte, ne_eq, not_true_eq_false]
    obtain ⟨h1, h2⟩ := ih hs (by simp only [hb.2]; omega)
    refine ⟨?_, h2⟩
    have hsz : bytes + (uio.resid - bytes) = uio.resid := by simp only [bytes]; omega
    rw [h1]
    simp only [hb.2, copy_copy, hsz, off, bytes]
  | case4 uio s h =>
    have : uio.resid = 0 := by
      by_contra h'
      exact h ⟨by omega, by omega⟩
    rw [cdevWriteLoop, dif_neg h]
    simp [this]

theorem cdevReadLoop_read (volsize half : Nat) (hhalf : 0 < half) (hv : volsize < 2 ^ 64)
    (uio : Uio) (s : St) (hs : s.answers = [])
    (hfit : toU64 uio.offset + uio.resid ≤ volsize) :
    (cdevReadLoop volsize half hhalf uio s).st = s ∧
      (cdevReadLoop volsize half hhalf uio s).ret.1 = 0 ∧
      (cdevReadLoop volsize half hhalf uio s).ret.2.buf =
        copy uio.buf uio.skip s.data (toU64 uio.offset) uio.resid := by
  induction uio, s using cdevReadLoop.induct volsize half hhalf with
  | case1 uio s h err herr => exact absurd (St.ans_of_nil hs) herr
  | case2 uio s h bytes off err herr hpos ih =>
    have hb := @cdevChunk_bound volsize half uio hv h.2
    have hle := cdevChunk_le volsize half uio
    rw [St.pop_of_nil hs] at ih
    rw [cdevReadLoop, dif_pos h]
    simp only [St.ans_of_nil hs, St.pop_of_nil hs, ↓reduceIte, ne_eq, not_true_eq_false]
    obtain ⟨h1, h2, h3⟩ := ih hs (by simp only [hb.2]; omega)
    refine ⟨h1, h2, ?_⟩
    have hsz : bytes + (uio.resid - bytes) = uio.resid := by simp only [bytes]; omega
    rw [h3]
    simp only [hb.2, copy_copy, hsz, off, bytes]
  | case3 uio s h =>
    have : uio.resid = 0 := by
      by_contra h'
      exact h ⟨by omega, by omega⟩
    rw [cdevReadLoop, dif_neg h]
    simp [this]

/-! ## The entry points -/

theorem ensureZilog_st (s : St) : (ensureZilog s).st = { s with zilog := true } := by
  unfold ensureZilog
  split
  · cases s
    simp_all
  · rfl

theorem strategyRw_write (tun : Tunables) (zv : Vol) (bp : Bio) (s : St) (hcmd : bp.cmd = .write)
    (hs : s.answers = []) (hfit : bp.offset + bp.length ≤ zv.volsize) :
    (strategyRw tun zv bp s).st = { s with data := copy s.data bp.offset bp.data 0 bp.length } := by
  have hio : ¬(bp.length > 0 ∧ bp.offset ≥ zv.volsize) := by omega
  unfold strategyRw strategyUnlock
  simp only [hcmd, hio, ↓reduceIte, reduceCtorEq]
  exact (strategyLoop_write _ _ _ _ ⟨bp.offset, 0, bp.length, bp.data⟩ s hs hfit).1

theorem strategyRw_read (tun : Tunables) (zv : Vol) (bp : Bio) (s : St) (hcmd : bp.cmd = .read)
    (hs : s.answers = []) (hfit : bp.offset + bp.length ≤ zv.volsize) :
    (strategyRw tun zv bp s).st = s ∧
      (strategyRw tun zv bp s).ret.2.data = copy bp.data 0 s.data bp.offset bp.length := by
  have hio : ¬(bp.length > 0 ∧ bp.offset ≥ zv.volsize) := by omega
  obtain ⟨h1, -, h3⟩ := strategyLoop_read zv.volsize tun.maxphys tun.maxphys_pos false
    ⟨bp.offset, 0, bp.length, bp.data⟩ s hs hfit
  unfold strategyRw strategyUnlock
  simp only [hcmd, hio, ↓reduceIte, reduceCtorEq]
  exact ⟨h1, h3⟩

theorem strategyImpl_write (tun : Tunables) (zv : Vol) (bp : Bio) (s : St)
    (hro : zv.rdonly = false) (hrm : zv.removing = false) (hcmd : bp.cmd = .write)
    (hs : s.answers = []) (hfit : bp.offset + bp.length ≤ zv.volsize) :
    (strategyImpl tun (some zv) bp s).st =
      { s with data := copy s.data bp.offset bp.data 0 bp.length, zilog := true } := by
  unfold strategyImpl strategyBody
  simp only [hrm, hro, hcmd, Bool.false_eq_true, ↓reduceIte, reduceCtorEq]
  rw [strategyRw_write tun zv bp _ hcmd (by simp [ensureZilog_st, hs]) hfit, ensureZilog_st]

theorem strategyImpl_read (tun : Tunables) (zv : Vol) (bp : Bio) (s : St)
    (hrm : zv.removing = false) (hcmd : bp.cmd = .read) (hs : s.answers = [])
    (hfit : bp.offset + bp.length ≤ zv.volsize) :
    (strategyImpl tun (some zv) bp s).st = s ∧
      (strategyImpl tun (some zv) bp s).ret.data = copy bp.data 0 s.data bp.offset bp.length := by
  unfold strategyImpl strategyBody
  simp only [hrm, hcmd, Bool.false_eq_true, ↓reduceIte]
  exact strategyRw_read tun zv bp s hcmd hs hfit

theorem cdevWrite_write (tun : Tunables) (zv : Vol) (uio : Uio) (ioSync : Bool) (s : St)
    (hs : s.answers = []) (hnn : 0 ≤ uio.offset)
    (hfit : toU64 uio.offset + uio.resid ≤ zv.volsize) :
    (cdevWrite tun zv uio ioSync s).st =
      { s with data := copy s.data (toU64 uio.offset) uio.buf uio.skip uio.resid, zilog := true } := by
  have hchk : ¬(uio.resid > 0 ∧ (uio.offset < 0 ∨ toU64 uio.offset > zv.volsize)) := by omega
  unfold cdevWrite
  rw [if_neg hchk]
  dsimp only
  rw [(cdevWriteLoop_write _ _ _ zv.volsize_lt _ uio _ (by simp [ensureZilog_st, hs]) hfit).1,
    ensureZilog_st]

theorem cdevRead_read (tun : Tunables) (zv : Vol) (uio : Uio) (s : St) (hs : s.answers = [])
    (hnn : 0 ≤ uio.offset) (hfit : toU64 uio.offset + uio.resid ≤ zv.volsize) :
    (cdevRead tun zv uio s).st = s ∧
      (cdevRead tun zv uio s).ret.2.buf = copy uio.buf uio.skip s.data (toU64 uio.offset) uio.resid := by
  have hchk : ¬(uio.resid > 0 ∧ (uio.offset < 0 ∨ toU64 uio.offset > zv.volsize)) := by omega
  obtain ⟨h1, -, h3⟩ := cdevReadLoop_read zv.volsize _ tun.half_pos zv.volsize_lt uio s hs hfit
  unfold cdevRead
  rw [if_neg hchk]
  exact ⟨h1, h3⟩

/-- Writing `N` bytes at `O` through `zvol_strategy_impl` (`BIO_WRITE`) or `zvol_cdev_write`
changes no byte outside `[O, O + N)`, and reading `N` bytes at `O` back through
`zvol_strategy_impl` (`BIO_READ`) or `zvol_cdev_read` returns the buffer written. -/
theorem write_read_round_trip (tun : Tunables) (zv : Vol) (s : St) (O N : Nat)
    (b junk : Nat → UInt8) (geomW geomR ioSync : Bool) (hro : zv.rdonly = false)
    (hrm : zv.removing = false) (hs : s.answers = []) (hfit : O + N ≤ zv.volsize) :
    ∀ w ∈ [(strategyImpl tun (some zv)
          { cmd := .write, offset := O, length := N, data := b, toGeom := geomW } s).st,
        (cdevWrite tun zv { offset := O, resid := N, buf := b } ioSync s).st],
      (∀ i, i < O ∨ O + N ≤ i → w.data i = s.data i) ∧
      (∀ i < N, (strategyImpl tun (some zv)
          { cmd := .read, offset := O, length := N, data := junk, toGeom := geomR } w).ret.data i =
        b i) ∧
      ∀ i < N, (cdevRead tun zv { offset := O, resid := N, buf := junk } w).ret.2.buf i = b i := by
  have hO : toU64 (O : Int) = O := by
    have := zv.volsize_lt
    unfold toU64
    omega
  have hw : ∀ w ∈ [(strategyImpl tun (some zv)
          { cmd := .write, offset := O, length := N, data := b, toGeom := geomW } s).st,
        (cdevWrite tun zv { offset := O, resid := N, buf := b } ioSync s).st],
      w.data = copy s.data O b 0 N ∧ w.answers = [] := by
    simp only [List.mem_cons, List.mem_singleton, List.not_mem_nil, or_false, forall_eq_or_imp,
      forall_eq]
    rw [strategyImpl_write tun zv _ s hro hrm rfl hs hfit,
      cdevWrite_write tun zv _ ioSync s hs (Int.ofNat_nonneg O) (by simpa [hO] using hfit)]
    simp [hO, hs]
  intro w hmem
  obtain ⟨hd, ha⟩ := hw w hmem
  refine ⟨fun i hi => by rw [hd]; exact copy_of_not_mem hi, fun i hi => ?_, fun i hi => ?_⟩
  · rw [(strategyImpl_read tun zv _ w hrm rfl ha hfit).2]
    simp [copy, hd, hi]
  · rw [(cdevRead_read tun zv _ w ha (Int.ofNat_nonneg O) (by simpa [hO] using hfit)).2]
    simp [copy, hd, hi, hO]

theorem write_read_round_trip_eight :
    ({ volsize := 8 } : Vol).rdonly = false ∧ ({ volsize := 8 } : Vol).removing = false ∧
      ({ data := fun _ => 0 } : St).answers = [] ∧ 2 + 3 ≤ ({ volsize := 8 } : Vol).volsize ∧
      ∀ w ∈ [(strategyImpl {} (some { volsize := 8 })
            { cmd := .write, offset := 2, length := 3, data := fun _ => 7, toGeom := true }
            { data := fun _ => 0 }).st,
          (cdevWrite {} { volsize := 8 } { offset := 2, resid := 3, buf := fun _ => 7 } false
            { data := fun _ => 0 }).st],
        (∀ i, i < 2 ∨ 2 + 3 ≤ i → w.data i = ({ data := fun _ => 0 } : St).data i) ∧
        (∀ i < 3, (strategyImpl {} (some { volsize := 8 })
            { cmd := .read, offset := 2, length := 3, data := fun _ => 0, toGeom := false } w).ret.data i =
          (fun _ => 7) i) ∧
        ∀ i < 3, (cdevRead {} { volsize := 8 } { offset := 2, resid := 3, buf := fun _ => 0 } w).ret.2.buf i =
          (fun _ => 7) i :=
  ⟨rfl, rfl, rfl, by decide, write_read_round_trip {} { volsize := 8 } { data := fun _ => 0 } 2 3
    (fun _ => 7) (fun _ => 0) true false false rfl rfl rfl (by decide)⟩

end Zvol.Io
