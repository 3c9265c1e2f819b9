import Mathlib.Algebra.Order.Ring.Nat
import Zvol.Io.Paths

/-!
# The chunk loops, chunk by chunk

What the loops of `zvol_strategy_impl`, `zvol_cdev_read` and `zvol_cdev_write` do for every
sequence of store outcomes. Each loop has a plan, the lengths of the chunks it moves when no call
fails (`strategySizes`, `cdevSizes`), laid end to end from the request's offset (`chunksFrom`).
Its chunks' calls answer in turn, and the loop stops at the first chunk whose call fails
(`okCount`, and `okPairs` for `zvol_cdev_write`, whose chunks make two calls):

* `strategyLoop_eq`, `cdevReadLoop_eq`, `cdevWriteLoop_eq`: the result, the cursor, the store
  and the events of each loop, from its plan and the number of its leading chunks that succeed;
* `strategySizes_sum`, `cdevSizes_sum`: how many bytes the plans move.
-/

namespace Zvol.Io

/-! ## Plans -/

/-- The chunks `(offset, length)` of consecutive lengths `ns`, from `off` on. -/
def chunksFrom (off : Nat) : List Nat → List (Nat × Nat)
  | [] => []
  | n :: ns => (off, n) :: chunksFrom (off + n) ns

@[simp] theorem chunksFrom_nil (off : Nat) : chunksFrom off [] = [] := rfl

@[simp] theorem chunksFrom_cons (off n : Nat) (ns : List Nat) :
    chunksFrom off (n :: ns) = (off, n) :: chunksFrom (off + n) ns := rfl

/-- The lengths of the chunks the loop of `zvol_strategy_impl` moves from `off` with `resid`
bytes to go when no call fails: `MIN(resid, zvol_maxphys)` while `off < volsize`. -/
def strategySizes (volsize maxphys : Nat) (hmax : 0 < maxphys) (off resid : Nat) : List Nat :=
  if _h : resid ≠ 0 ∧ off < volsize then
    min resid maxphys ::
      strategySizes volsize maxphys hmax (off + min resid maxphys) (resid - min resid maxphys)
  else []
termination_by resid
decreasing_by omega

/-- The lengths of the chunks the loops of `zvol_cdev_read` and `zvol_cdev_write` move from
`off` with `resid` bytes to go when no call fails: `MIN(resid, DMU_MAX_ACCESS >> 1)`, cut at
`volsize`, while `off < volsize`. -/
def cdevSizes (volsize half : Nat) (hhalf : 0 < half) (off resid : Nat) : List Nat :=
  if _h : 0 < resid ∧ off < volsize then
    min (min resid half) (volsize - off) ::
      cdevSizes volsize half hhalf (off + min (min resid half) (volsize - off))
        (resid - min (min resid half) (volsize - off))
  else []
termination_by resid
decreasing_by omega

section Sizes

variable {volsize maxphys half off resid : Nat} {hmax : 0 < maxphys} {hhalf : 0 < half}

theorem strategySizes_of (h : resid ≠ 0 ∧ off < volsize) :
    strategySizes volsize maxphys hmax off resid = min resid maxphys ::
      strategySizes volsize maxphys hmax (off + min resid maxphys) (resid - min resid maxphys) := by
  rw [strategySizes, dif_pos h]

theorem strategySizes_of_not (h : ¬(resid ≠ 0 ∧ off < volsize)) :
    strategySizes volsize maxphys hmax off resid = [] := by
  rw [strategySizes, dif_neg h]

theorem cdevSizes_of (h : 0 < resid ∧ off < volsize) :
    cdevSizes volsize half hhalf off resid = min (min resid half) (volsize - off) ::
      cdevSizes volsize half hhalf (off + min (min resid half) (volsize - off))
        (resid - min (min resid half) (volsize - off)) := by
  rw [cdevSizes, dif_pos h]

theorem cdevSizes_of_not (h : ¬(0 < resid ∧ off < volsize)) :
    cdevSizes volsize half hhalf off resid = [] := by
  rw [cdevSizes, dif_neg h]

end Sizes

/-- The chunk of the cdev loops is the plan's. -/
theorem cdevChunk_eq (volsize half : Nat) (uio : Uio) :
    cdevChunk volsize half uio = min (min uio.resid half) (volsize - toU64 uio.offset) := by
  simp only [cdevChunk]
  split_ifs <;> omega

/-! ## What the plans move

The strategy plan stops at the first chunk that starts at or past `volsize`, so it moves the
request cut at the first multiple of `zvol_maxphys` at or past `volsize - off`; the cdev plan
cuts every chunk at `volsize` and moves the request cut there. -/

section Moves

variable {volsize maxphys half : Nat} {hmax : 0 < maxphys} {hhalf : 0 < half}

theorem take_sum_le (ns : List Nat) (k : Nat) : (ns.take k).sum ≤ ns.sum := by
  have := List.sum_take_add_sum_drop ns k
  omega

theorem mul_roundUp_ge {m : Nat} (d : Nat) (hm : 0 < m) : d ≤ m * ((d + m - 1) / m) := by
  have h1 := Nat.div_add_mod (d + m - 1) m
  have h2 := Nat.mod_lt (d + m - 1) hm
  omega

theorem mul_roundUp_zero {m d : Nat} (hm : 0 < m) (hd : d = 0) : m * ((d + m - 1) / m) = 0 := by
  rw [hd, Nat.div_eq_of_lt (by omega), Nat.mul_zero]

theorem mul_roundUp_of_le {m d : Nat} (h0 : 0 < d) (h : d ≤ m) : m * ((d + m - 1) / m) = m := by
  rw [Nat.div_eq_of_lt_le (by omega : 1 * m ≤ d + m - 1) (by omega : d + m - 1 < (1 + 1) * m),
    Nat.mul_one]

theorem mul_roundUp_sub {m d : Nat} (hm : 0 < m) (h : m < d) :
    m * ((d + m - 1) / m) = m * ((d - m + m - 1) / m) + m := by
  rw [show d + m - 1 = d - m + m - 1 + m by omega, Nat.add_div_right _ hm, Nat.mul_succ]

theorem strategySizes_bound (off resid : Nat) :
    ∀ n ∈ strategySizes volsize maxphys hmax off resid, 0 < n ∧ n ≤ maxphys := by
  induction off, resid using strategySizes.induct volsize maxphys hmax with
  | case1 off resid h ih =>
    rw [strategySizes_of h]
    simp only [List.mem_cons, forall_eq_or_imp]
    exact ⟨⟨by omega, Nat.min_le_right _ _⟩, ih⟩
  | case2 off resid h => simp [strategySizes_of_not h]

theorem strategySizes_start_lt (off resid : Nat) :
    ∀ k < (strategySizes volsize maxphys hmax off resid).length,
      off + ((strategySizes volsize maxphys hmax off resid).take k).sum < volsize := by
  induction off, resid using strategySizes.induct volsize maxphys hmax with
  | case1 off resid h ih =>
    rw [strategySizes_of h]
    rintro (_ | k) hk
    · simpa using h.2
    · have := ih k (by simpa using hk)
      simp only [List.take_succ_cons, List.sum_cons]
      omega
  | case2 off resid h => simp [strategySizes_of_not h]

theorem strategySizes_sum (off resid : Nat) :
    (strategySizes volsize maxphys hmax off resid).sum =
      min resid (maxphys * ((volsize - off + maxphys - 1) / maxphys)) := by
  induction off, resid using strategySizes.induct volsize maxphys hmax with
  | case1 off resid h ih =>
    rw [strategySizes_of h, List.sum_cons, ih]
    by_cases hv : volsize - off ≤ maxphys
    · rw [mul_roundUp_of_le (by omega) hv]
      by_cases hr : volsize - off ≤ resid
      · rw [mul_roundUp_zero hmax (by omega : volsize - (off + min resid maxphys) = 0)]
        omega
      · rw [show resid - min resid maxphys = 0 by omega]
        omega
    · rw [mul_roundUp_sub hmax (by omega : maxphys < volsize - off)]
      by_cases hr : resid ≤ maxphys
      · rw [show resid - min resid maxphys = 0 by omega]
        omega
      · rw [show volsize - (off + min resid maxphys) = volsize - off - maxphys by omega]
        omega
  | case2 off resid h =>
    rw [strategySizes_of_not h, List.sum_nil]
    by_cases hr : resid = 0
    · simp [hr]
    · rw [mul_roundUp_zero hmax (by omega : volsize - off = 0)]
      omega

theorem cdevSizes_sum (off resid : Nat) :
    (cdevSizes volsize half hhalf off resid).sum = min resid (volsize - off) := by
  induction off, resid using cdevSizes.induct volsize half hhalf with
  | case1 off resid h ih =>
    rw [cdevSizes_of h, List.sum_cons, ih]
    omega
  | case2 off resid h =>
    rw [cdevSizes_of_not h]
    simp only [List.sum_nil]
    omega

theorem mul_roundUp_eq_iff {m d : Nat} (hm : 0 < m) : m * ((d + m - 1) / m) = d ↔ m ∣ d := by
  refine ⟨fun h => h ▸ Nat.dvd_mul_right _ _, fun hd => ?_⟩
  have hge := mul_roundUp_ge d hm
  have hlt : m * ((d + m - 1) / m) < d + m := by
    have := Nat.div_mul_le_self (d + m - 1) m
    rw [Nat.mul_comm] at this
    omega
  have h0 := Nat.eq_zero_of_dvd_of_lt (Nat.dvd_sub' (Nat.dvd_mul_right m _) hd)
    (show m * ((d + m - 1) / m) - d < m by omega)
  omega

/-- The request cut at the first multiple of `m` past `d` is the request cut at `d` exactly when
the request ends by `d` or `m` divides `d`. -/
theorem min_mul_roundUp_eq_iff {m : Nat} (d len : Nat) (hm : 0 < m) :
    min len (m * ((d + m - 1) / m)) = min len d ↔ len ≤ d ∨ m ∣ d := by
  rw [← mul_roundUp_eq_iff hm]
  have := mul_roundUp_ge d hm
  omega

end Moves

/-! ## Outcomes -/

/-- How many of the first `n` chunks succeed before the first that fails, when each chunk makes
one store call and the calls answer `answers` in turn (a call past the end succeeds). -/
def okCount : List Int → Nat → Nat
  | _, 0 => 0
  | answers, n + 1 => if answers.headD 0 = 0 then okCount answers.tail n + 1 else 0

/-- The same for chunks that make two calls each, `dmu_tx_assign` and the write: a chunk fails
when either call does. -/
def okPairs : List Int → Nat → Nat
  | _, 0 => 0
  | answers, n + 1 =>
    if answers.headD 0 = 0 ∧ answers.tail.headD 0 = 0 then okPairs answers.tail.tail n + 1 else 0

@[simp] theorem okCount_zero (answers : List Int) : okCount answers 0 = 0 := rfl

theorem okCount_succ (answers : List Int) (n : Nat) :
    okCount answers (n + 1) = if answers.headD 0 = 0 then okCount answers.tail n + 1 else 0 := rfl

theorem okCount_succ_of_ne {answers : List Int} {n : Nat} (h : answers.headD 0 ≠ 0) :
    okCount answers (n + 1) = 0 := if_neg h

theorem okCount_succ_of_eq {answers : List Int} {n : Nat} (h : answers.headD 0 = 0) :
    okCount answers (n + 1) = okCount answers.tail n + 1 := if_pos h

@[simp] theorem okCount_nil (n : Nat) : okCount [] n = n := by
  induction n with
  | zero => rfl
  | succ n ih => simp [okCount_succ, ih]

@[simp] theorem okPairs_zero (answers : List Int) : okPairs answers 0 = 0 := rfl

theorem okPairs_succ (answers : List Int) (n : Nat) :
    okPairs answers (n + 1) =
      if answers.headD 0 = 0 ∧ answers.tail.headD 0 = 0 then okPairs answers.tail.tail n + 1
      else 0 := rfl

theorem okPairs_succ_of_ne {answers : List Int} {n : Nat}
    (h : ¬(answers.headD 0 = 0 ∧ answers.tail.headD 0 = 0)) : okPairs answers (n + 1) = 0 :=
  if_neg h

theorem okPairs_succ_of_eq {answers : List Int} {n : Nat} (h1 : answers.headD 0 = 0)
    (h2 : answers.tail.headD 0 = 0) :
    okPairs answers (n + 1) = okPairs answers.tail.tail n + 1 := if_pos ⟨h1, h2⟩

@[simp] theorem okPairs_nil (n : Nat) : okPairs [] n = n := by
  induction n with
  | zero => rfl
  | succ n ih => simp [okPairs_succ, ih]

theorem getD_tail (l : List Int) (k : Nat) : l.tail.getD k 0 = l.getD (k + 1) 0 := by
  cases l <;> simp

theorem St.ans_eq (s : St) : s.ans = s.answers.getD 0 0 := by
  cases h : s.answers <;> simp [St.ans, h]

theorem okCount_of_zeros {answers : List Int} (h : ∀ a ∈ answers, a = 0) (n : Nat) :
    okCount answers n = n := by
  induction n generalizing answers with
  | zero => rfl
  | succ n ih =>
    have hd : answers.headD 0 = 0 := by cases answers <;> simp_all
    rw [okCount_succ, if_pos hd, ih fun a ha => h a (List.mem_of_mem_tail ha)]

theorem okPairs_of_zeros {answers : List Int} (h : ∀ a ∈ answers, a = 0) (n : Nat) :
    okPairs answers n = n := by
  induction n generalizing answers with
  | zero => rfl
  | succ n ih =>
    have hd : ∀ l : List Int, (∀ a ∈ l, a = 0) → l.headD 0 = 0 := fun l hl => by
      cases l <;> simp_all
    have ht : ∀ a ∈ answers.tail, a = 0 := fun a ha => h a (List.mem_of_mem_tail ha)
    rw [okPairs_succ, if_pos ⟨hd _ h, hd _ ht⟩, ih fun a ha => ht a (List.mem_of_mem_tail ha)]

/-- `ECKSUM` reported as `EIO`, as the loops of `zvol_strategy_impl` and `zvol_cdev_read` do. -/
def eio (err : Int) : Int := if err = ECKSUM then EIO else err

theorem eio_ne_ECKSUM (err : Int) : eio err ≠ ECKSUM := by
  unfold eio; split_ifs with h <;> simp_all [ EIO, ECKSUM]

/-! ## The events of a chunk -/

/-- A read of the chunk `c` that answers `err`. -/
def readChunk (c : Nat × Nat) (err : Int) : List Ev := [.read c.1 c.2 err]

/-- A write of the chunk `c` in its own transaction, logged with `commit`. -/
def writeChunk (commit : Bool) (c : Nat × Nat) : List Ev :=
  [.txCreate, .txHold c.1 c.2, .txAssign 0, .write c.1 c.2 0, .logWrite c.1 c.2 commit, .txCommit]

/-- A transaction for the chunk `c` that `dmu_tx_assign` refuses with `err`, aborted. -/
def abortChunk (c : Nat × Nat) (err : Int) : List Ev :=
  [.txCreate, .txHold c.1 c.2, .txAssign err, .txAbort]

/-- A transaction for the chunk `c` whose write fails with `err`, committed and not logged. -/
def unloggedChunk (c : Nat × Nat) (err : Int) : List Ev :=
  [.txCreate, .txHold c.1 c.2, .txAssign 0, .write c.1 c.2 err, .txCommit]

/-- A chunk of the loop of `zvol_strategy_impl` whose call succeeds. -/
def okChunk (doread commit : Bool) (c : Nat × Nat) : List Ev :=
  if doread then readChunk c 0 else writeChunk commit c

/-- A chunk of the loop of `zvol_strategy_impl` whose call fails with `err`. -/
def failChunk (doread : Bool) (c : Nat × Nat) (err : Int) : List Ev :=
  if doread then readChunk c err else abortChunk c err

@[simp] theorem okChunk_true (commit : Bool) : okChunk true commit = (readChunk · 0) := rfl
@[simp] theorem okChunk_false (commit : Bool) : okChunk false commit = writeChunk commit := rfl
@[simp] theorem failChunk_true : failChunk true = readChunk := rfl
@[simp] theorem failChunk_false : failChunk false = abortChunk := rfl

/-- Chunks that succeed ask the store for their own bytes, and only for them. -/
theorem okChunks_access (doread commit : Bool) (cs : List (Nat × Nat)) :
    (cs.flatMap (okChunk doread commit)).filterMap Ev.access = cs.map fun c => (c.1, c.2,
      !doread) := by
  rw [List.filterMap_flatMap, List.map_eq_flatMap]
  cases doread <;> rfl

/-- The chunk of `zvol_cdev_write` that fails, from the answers of its two calls. -/
def cdevFailChunk (c : Nat × Nat) (answers : List Int) : List Ev :=
  if answers.headD 0 ≠ 0 then abortChunk c (answers.headD 0)
  else unloggedChunk c (answers.tail.headD 0)

/-! ## The loops -/

/-- The loop of `zvol_strategy_impl` moves the chunks of its plan up to the first whose call
fails, and returns that call's error. -/
theorem strategyLoop_eq (volsize maxphys : Nat) (hmax : 0 < maxphys) (doread commit : Bool)
    (c : Cursor) (s : St) :
    strategyLoop volsize maxphys hmax doread commit c s =
      let ns := strategySizes volsize maxphys hmax c.off c.resid
      let k := okCount s.answers ns.length
      let done := (ns.take k).sum
      ⟨(if k < ns.length then eio (s.answers.getD k 0) else 0,
          ⟨c.off + done, c.addr + done, c.resid - done,
            if doread then copy c.buf c.addr s.data c.off done else c.buf⟩),
        { s with
          data := if doread then s.data else copy s.data c.off c.buf c.addr done
          answers := s.answers.drop (if k < ns.length then k + 1 else k) },
        (chunksFrom c.off (ns.take k)).flatMap (okChunk doread commit) ++
          if k < ns.length then failChunk doread (c.off + done, ns.getD k 0) (s.answers.getD k 0)
          else []⟩ := by
  induction c, s using strategyLoop.induct volsize maxphys hmax doread commit with
  | case1 c s h err hd herr | case3 c s h err hd herr =>
    rw [strategyLoop, dif_pos h, strategySizes_of h]
    simp only [hd, List.length_cons, okCount_succ_of_ne herr, List.take_zero, List.sum_nil,
      Nat.add_zero, Nat.sub_zero, copy_zero, Nat.zero_lt_succ, if_true, if_false, chunksFrom_nil,
      List.flatMap_nil, List.nil_append, List.getD_cons_zero, failChunk, readChunk, abortChunk,
      Nat.zero_add, List.drop_one, eio, ← St.ans_eq, if_pos herr, ↓reduceIte, ite_self]
    rfl
  | case2 c s h size err hd herr ih | case4 c s h size err hd herr ih =>
    rw [strategyLoop, dif_pos h, strategySizes_of h]
    have h0 : s.ans = 0 := not_not.mp herr
    simp only [h0, hd, ne_eq, not_true_eq_false, ↓reduceIte] at ih ⊢
    rw [ih]
    simp only [hd, List.length_cons, okCount_succ_of_eq h0, St.pop_answers, St.pop_data,
      List.take_succ_cons, List.sum_cons, Nat.add_lt_add_iff_right, getD_tail, List.drop_tail,
      chunksFrom_cons, List.flatMap_cons, okChunk, readChunk, writeChunk, ↓reduceIte, copy_copy,
      Nat.add_assoc, Nat.sub_sub, ite_add, List.singleton_append, List.cons_append,
      List.getD_cons_succ, St.pop_zilog, St.pop_upgrade, St.pop_raced, St.pop_next]
    rfl
  | case5 c s h =>
    rw [strategyLoop, dif_neg h, strategySizes_of_not h]
    simp

/-- The loop of `zvol_cdev_read` likewise, over the uio's offset as a `uint64_t`. -/
theorem cdevReadLoop_eq (volsize half : Nat) (hhalf : 0 < half) (hv : volsize < 2 ^ 64)
    (uio : Uio) (s : St) :
    cdevReadLoop volsize half hhalf uio s =
      let ns := cdevSizes volsize half hhalf (toU64 uio.offset) uio.resid
      let k := okCount s.answers ns.length
      let done := (ns.take k).sum
      ⟨(if k < ns.length then eio (s.answers.getD k 0) else 0,
          ⟨uio.offset + done, uio.resid - done, uio.skip + done,
            copy uio.buf uio.skip s.data (toU64 uio.offset) done⟩),
        { s with answers := s.answers.drop (if k < ns.length then k + 1 else k) },
        (chunksFrom (toU64 uio.offset) (ns.take k)).flatMap (readChunk · 0) ++
          if k < ns.length then
            readChunk (toU64 uio.offset + done, ns.getD k 0) (s.answers.getD k 0)
          else []⟩ := by
  induction uio, s using cdevReadLoop.induct volsize half hhalf with
  | case1 uio s h err herr =>
    rw [cdevReadLoop, dif_pos h, cdevSizes_of h]
    simp only [List.length_cons, okCount_succ_of_ne herr, List.take_zero, List.sum_nil,
      Nat.add_zero, Nat.sub_zero, copy_zero, Nat.zero_lt_succ, if_true, chunksFrom_nil,
      List.flatMap_nil, List.nil_append, List.getD_cons_zero, readChunk, Nat.zero_add,
      List.drop_one, eio, ← St.ans_eq, if_pos herr, ↓reduceIte, cdevChunk_eq,
      Int.Nat.cast_ofNat_Int, Int.add_zero]
    rfl
  | case2 uio s h bytes off err herr hpos ih =>
    have hb := (@cdevChunk_bound volsize half uio hv h.2).2
    rw [cdevChunk_eq] at hb
    rw [cdevReadLoop, dif_pos h, cdevSizes_of h]
    have h0 : s.ans = 0 := not_not.mp herr
    simp only [h0, ne_eq, not_true_eq_false, ↓reduceIte] at ih ⊢
    rw [ih]
    simp only [hb, cdevChunk_eq, List.length_cons, okCount_succ_of_eq h0, St.pop_answers,
      St.pop_data, List.take_succ_cons, List.sum_cons, Nat.add_lt_add_iff_right, getD_tail,
      List.drop_tail, chunksFrom_cons, List.flatMap_cons, readChunk, ↓reduceIte, copy_copy,
      Nat.add_assoc, Nat.sub_sub, ite_add, List.singleton_append, List.cons_append,
      List.getD_cons_succ, St.pop_zilog, St.pop_upgrade, St.pop_raced, St.pop_next, Int.natCast_add,
      Int.add_assoc, List.nil_append, bytes]
  | case3 uio s h =>
    rw [cdevReadLoop, dif_neg h, cdevSizes_of_not h]
    simp

/-- The loop of `zvol_cdev_write`, whose chunks make two calls: a chunk whose
`dmu_tx_assign` fails is aborted, one whose write fails is committed unlogged, and the error is
the failing call's, unchanged. -/
theorem cdevWriteLoop_eq (volsize half : Nat) (hhalf : 0 < half) (commit : Bool)
    (hv : volsize < 2 ^ 64) (uio : Uio) (s : St) :
    cdevWriteLoop volsize half hhalf commit uio s =
      let ns := cdevSizes volsize half hhalf (toU64 uio.offset) uio.resid
      let k := okPairs s.answers ns.length
      let done := (ns.take k).sum
      let a := s.answers.drop (2 * k)
      ⟨(if k < ns.length then (if a.headD 0 ≠ 0 then a.headD 0 else a.tail.headD 0) else 0,
          ⟨uio.offset + done, uio.resid - done, uio.skip + done, uio.buf⟩),
        { s with
          data := copy s.data (toU64 uio.offset) uio.buf uio.skip done
          answers :=
            if k < ns.length then (if a.headD 0 ≠ 0 then a.tail else a.tail.tail) else a },
        (chunksFrom (toU64 uio.offset) (ns.take k)).flatMap (writeChunk commit) ++
          if k < ns.length then cdevFailChunk (toU64 uio.offset + done,
            ns.getD k 0) a else []⟩ := by
  induction uio, s using cdevWriteLoop.induct volsize half hhalf commit with
  | case1 uio s h err herr =>
    rw [cdevWriteLoop, dif_pos h, cdevSizes_of h]
    have h1 : s.answers.headD 0 ≠ 0 := herr
    simp only [List.length_cons, okPairs_succ_of_ne (fun h' => h1 h'.1), List.take_zero,
      List.sum_nil, Nat.add_zero, Nat.sub_zero, copy_zero, Nat.zero_lt_succ, if_true,
      chunksFrom_nil, List.flatMap_nil, List.nil_append, List.getD_cons_zero, cdevFailChunk,
      abortChunk, Nat.mul_zero, List.drop_zero, h1, herr, ↓reduceIte, cdevChunk_eq,
      Int.Nat.cast_ofNat_Int, Int.add_zero, ne_eq, not_false_eq_true, List.cons_append,
      List.nil_append]
    rfl
  | case2 uio s h err herr err2 herr2 =>
    rw [cdevWriteLoop, dif_pos h, cdevSizes_of h]
    have h0 : s.ans = 0 := not_not.mp herr
    have h1 : s.answers.headD 0 = 0 := h0
    have h2 : s.answers.tail.headD 0 ≠ 0 := herr2
    simp only [List.length_cons, okPairs_succ_of_ne (fun h' => h2 h'.2), List.take_zero,
      List.sum_nil, Nat.add_zero, Nat.sub_zero, copy_zero, Nat.zero_lt_succ, if_true,
      chunksFrom_nil, List.flatMap_nil, List.nil_append, List.getD_cons_zero, cdevFailChunk,
      unloggedChunk, Nat.mul_zero, List.drop_zero, h0, h1, h2, herr2, ↓reduceIte, cdevChunk_eq,
      Int.Nat.cast_ofNat_Int, Int.add_zero, ne_eq, not_false_eq_true, not_true_eq_false,
      List.cons_append, List.nil_append]
    rfl
  | case3 uio s h bytes off err herr err2 herr2 hpos ih =>
    have hb := (@cdevChunk_bound volsize half uio hv h.2).2
    rw [cdevChunk_eq] at hb
    rw [cdevWriteLoop, dif_pos h, cdevSizes_of h]
    have h0 : s.ans = 0 := not_not.mp herr
    have h1 : s.answers.headD 0 = 0 := h0
    have h2 : s.pop.ans = 0 := not_not.mp herr2
    have h3 : s.answers.tail.headD 0 = 0 := h2
    simp only [h0, h2, ne_eq, not_true_eq_false, ↓reduceIte] at ih ⊢
    rw [ih]
    simp only [hb, cdevChunk_eq, List.length_cons, okPairs_succ_of_eq h1 h3, St.pop_answers,
      St.pop_data, List.take_succ_cons, List.sum_cons, Nat.add_lt_add_iff_right, List.drop_tail,
      chunksFrom_cons, List.flatMap_cons, writeChunk, ↓reduceIte, copy_copy, Nat.add_assoc,
      Nat.sub_sub, List.singleton_append, List.cons_append, List.getD_cons_succ, St.pop_zilog,
      St.pop_upgrade, St.pop_raced, St.pop_next, Int.natCast_add, Int.add_assoc, List.nil_append, bytes, off,
      Nat.mul_succ]
  | case4 uio s h =>
    rw [cdevWriteLoop, dif_neg h, cdevSizes_of_not h]
    simp

end Zvol.Io
