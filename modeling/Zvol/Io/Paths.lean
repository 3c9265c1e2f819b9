import Zvol.Io.Trace

/-!
# The I/O paths

`zvol_strategy_impl` and the functions that reach it (`zvol_geom_bio_start`,
`zvol_geom_bio_strategy`, `zvol_cdev_bio_strategy`, `zvol_strategy_task`),
`zvol_geom_bio_getattr`, `zvol_cdev_read`, `zvol_cdev_write`, `zvol_cdev_ioctl` and
`zvol_ensure_zilog`, one run of one thread each, with the store as a byte map.

The collaborators answer from the state (`St`): the store calls take their results from
`St.answers`, `rw_tryupgrade` succeeds when `St.upgrade` says so. A store call that fails
moves no byte. The chunk loops recurse on `resid`, which each chunk lowers: a chunk is never
empty, since the caps (`zvol_maxphys`, `DMU_MAX_ACCESS >> 1`) are positive.

The C code compares and passes signed offsets (`off_t`, the uio's offset) where it expects
`uint64_t`, which converts them (`toU64`); the model converts them at the same places.
-/

namespace Zvol.Io

/-- `DMU_MAX_ACCESS`. -/
def DMU_MAX_ACCESS : Nat := 64 * 1024 * 1024

/-- The tunables the I/O paths read. The chunk caps are positive, or a loop would not end. -/
structure Tunables where
  /-- `zvol_maxphys`, the chunk cap of `zvol_strategy_impl`. -/
  maxphys : Nat := DMU_MAX_ACCESS / 2
  maxphys_pos : 0 < maxphys := by decide
  /-- `DMU_MAX_ACCESS`; the cdev paths move at most half of it per chunk. -/
  dmuMaxAccess : Nat := DMU_MAX_ACCESS
  two_le_dmuMaxAccess : 2 ≤ dmuMaxAccess := by decide
  /-- `zvol_unmap_enabled`. -/
  unmapEnabled : Bool := true
  /-- `zvol_request_sync`. -/
  requestSync : Bool := false

theorem Tunables.half_pos (tun : Tunables) : 0 < tun.dmuMaxAccess >>> 1 := by
  have := tun.two_le_dmuMaxAccess
  rw [Nat.shiftRight_eq_div_pow]
  omega

/-- The fields of a volume the I/O paths read. -/
structure Vol where
  /-- `zv_volsize`, a `uint64_t`. -/
  volsize : Nat
  volsize_lt : volsize < 2 ^ 64 := by decide
  /-- `zv_volblocksize`. -/
  volblocksize : Nat := 0
  /-- `ZVOL_RDONLY` in `zv_flags`. -/
  rdonly : Bool := false
  /-- `ZVOL_REMOVING` in `zv_flags`. -/
  removing : Bool := false
  /-- `zv_objset->os_sync == ZFS_SYNC_ALWAYS`. -/
  syncAlways : Bool := false
  /-- What `dmu_objset_space` answers: the bytes referenced and available. -/
  refd : Nat := 0
  avail : Nat := 0
  /-- What `metaslab_class_get_space` and `metaslab_class_get_alloc` answer for the pool's
  normal class. -/
  classSpace : Nat := 0
  classAlloc : Nat := 0
  deriving DecidableEq, Repr

/-- `bio_cmd`. -/
inductive Cmd where
  | read | write | flush | delete | getattr | other
  deriving DecidableEq, Repr

/-- The fields of a `struct bio` the strategy code reads and writes. -/
structure Bio where
  cmd : Cmd
  /-- `bio_offset`. -/
  offset : Nat
  /-- `bio_length`. -/
  length : Nat
  /-- `bio_data`. -/
  data : Nat → UInt8
  /-- `bio_to` is set: a GEOM bio, delivered by `g_io_deliver`; else a cdev bio, finished by
  `biofinish`. -/
  toGeom : Bool
  /-- `bio_attribute`. -/
  bioAttribute : String := ""
  /-- `bio_completed`. -/
  completed : Nat := 0

/-- `zvol_ensure_zilog`, entered holding `zv_suspend_lock` as reader: if `zv_zilog` is `NULL`,
upgrade the hold (or drop it and wait for the writer hold), open the log if it is still `NULL`,
and downgrade. Only a thread that dropped its hold can find the log opened by the second check
(`St.raced`); `Zvol.Zilog.ensure_zilog_trace` derives these outcomes from the interleavings. -/
def ensureZilog (s : St) : Out Unit :=
  if s.zilog then ⟨(), s, []⟩
  else
    ⟨(), { s with zilog := true },
      (if s.upgrade then [.suspendTryUpgrade true]
        else [.suspendTryUpgrade false, .suspendExit, .suspendEnter true]) ++
      (if !s.upgrade && s.raced then [] else [.zilOpen]) ++ [.suspendDowngrade]⟩

/-- The variables the chunk loop of `zvol_strategy_impl` advances: the device offset, the
position in `bio_data`, the bytes left, and the bio's buffer. -/
structure Cursor where
  off : Nat
  addr : Nat
  resid : Nat
  buf : Nat → UInt8

/-- The chunk loop of `zvol_strategy_impl`: while `resid != 0 && off < volsize`, move
`MIN(resid, zvol_maxphys)` bytes; a failed chunk ends the loop with its error, `ECKSUM` turned
into `EIO`. -/
def strategyLoop (volsize maxphys : Nat) (hmax : 0 < maxphys) (doread commit : Bool)
    (c : Cursor) (s : St) : Out (Int × Cursor) :=
  if h : c.resid ≠ 0 ∧ c.off < volsize then
    let size := min c.resid maxphys
    let err := s.ans
    if doread then
      if err ≠ 0 then ⟨(if err = ECKSUM then EIO else err, c), s.pop, [.read c.off size err]⟩
      else
        let r := strategyLoop volsize maxphys hmax doread commit
          ⟨c.off + size, c.addr + size, c.resid - size, copy c.buf c.addr s.data c.off size⟩ s.pop
        ⟨r.ret, r.st, .read c.off size 0 :: r.evs⟩
    else
      if err ≠ 0 then
        ⟨(if err = ECKSUM then EIO else err, c), s.pop,
          [.txCreate, .txHold c.off size, .txAssign err, .txAbort]⟩
      else
        let r := strategyLoop volsize maxphys hmax doread commit
          ⟨c.off + size, c.addr + size, c.resid - size, c.buf⟩
          { s.pop with data := copy s.data c.off c.buf c.addr size }
        ⟨r.ret, r.st, [.txCreate, .txHold c.off size, .txAssign 0, .write c.off size 0,
          .logWrite c.off size commit, .txCommit] ++ r.evs⟩
  else ⟨(0, c), s, []⟩
termination_by c.resid
decreasing_by all_goals (simp_wf; omega)

/-- From the `unlock:` label of `zvol_strategy_impl` to the `commit:` label: release the range,
set `bio_completed`, and turn the error into `EINVAL` if the request stopped short past the end
of the volume. -/
def strategyUnlock (volsize : Nat) (commit : Bool) (bp : Bio) (err : Int) (off resid : Nat)
    (s : St) (evs : List Ev) : Out (Int × Bio) :=
  let completed := bp.length - resid
  ⟨(if completed < bp.length ∧ off > volsize then EINVAL else err, { bp with completed }), s,
    evs ++ .rangeExit :: if commit then [.zilCommit] else []⟩

/-- `zvol_strategy_impl` for `BIO_READ`, `BIO_WRITE` and `BIO_DELETE`, from `off =
bp->bio_offset` to the `resume:` label. -/
def strategyRw (tun : Tunables) (zv : Vol) (bp : Bio) (s : St) : Out (Int × Bio) :=
  let doread := bp.cmd == .read
  let off := bp.offset
  let resid := bp.length
  if resid > 0 ∧ off ≥ zv.volsize then ⟨( EIO, bp), s, []⟩
  else
    let commit := !doread && zv.syncAlways
    let pre := (if doread then [] else [Ev.osSync]) ++ [.rangeEnter off resid !doread]
    if bp.cmd = .delete then
      let err := s.ans
      if err ≠ 0 then
        strategyUnlock zv.volsize commit bp err off resid s.pop
          (pre ++ [.txCreate, .txAssign err, .txAbort])
      else
        let err := s.pop.ans
        let data := if err = 0 then copy s.data off (fun _ => 0) 0 resid else s.data
        strategyUnlock zv.volsize commit bp err off 0 { s.pop.pop with data }
          (pre ++ [.txCreate, .txAssign 0, .logTruncate off resid, .txCommit, .free off resid err])
    else
      let r := strategyLoop zv.volsize tun.maxphys tun.maxphys_pos doread commit
        ⟨off, 0, resid, bp.data⟩ s
      strategyUnlock zv.volsize commit { bp with data := r.ret.2.buf } r.ret.1 r.ret.2.off
        r.ret.2.resid r.st (pre ++ r.evs)

/-- `zvol_strategy_impl` between `rw_enter(&zv->zv_suspend_lock, ZVOL_RW_READER)` and the
`resume:` label: the error and the bio. -/
def strategyBody (tun : Tunables) (zv : Vol) (bp : Bio) (s : St) : Out (Int × Bio) :=
  if zv.removing then ⟨( ENXIO, bp), s, []⟩
  else
    match bp.cmd with
    | .read => strategyRw tun zv bp s
    | .write | .flush | .delete =>
      if zv.rdonly then ⟨(EROFS, bp), s, []⟩
      else
        let z := ensureZilog s
        if bp.cmd = .flush then ⟨(0, bp), z.st, z.evs ++ [.zilCommit]⟩
        else
          let r := strategyRw tun zv bp z.st
          ⟨r.ret, r.st, z.evs ++ r.evs⟩
    | _ => ⟨(EOPNOTSUPP, bp), s, []⟩

/-- `zvol_strategy_impl`: the request's volume (`NULL` if it is gone) and bio. -/
def strategyImpl (tun : Tunables) (zv : Option Vol) (bp : Bio) (s : St) : Out Bio :=
  match zv with
  | none => ⟨bp, s, [.complete bp.toGeom ENXIO]⟩
  | some zv =>
    let r := strategyBody tun zv bp s
    ⟨r.ret.2, r.st, .suspendEnter false :: r.evs ++ [.suspendExit, .complete bp.toGeom r.ret.1]⟩

/-- `zvol_strategy_task`: the task runs `zvol_strategy_impl` on its request. -/
def strategyTask (tun : Tunables) (zv : Option Vol) (bp : Bio) (s : St) : Out Bio :=
  strategyImpl tun zv bp s

/-- `zvol_geom_bio_strategy`: run the request now if `sync` or `zvol_request_sync`, else hand
it to a task. `zv` is `bio_to->private` or `bio_dev->si_drv2`. -/
def geomBioStrategy (tun : Tunables) (zv : Option Vol) (bp : Bio) (sync : Bool) (s : St) :
    Out Bio :=
  match zv with
  | none => ⟨bp, s, [.complete bp.toGeom ENXIO]⟩
  | some _ =>
    if sync || tun.requestSync then strategyImpl tun zv bp s
    else
      let r := strategyTask tun zv bp s
      ⟨r.ret, r.st, .dispatch :: r.evs⟩

/-- `zvol_cdev_bio_strategy`. -/
def cdevBioStrategy (tun : Tunables) (zv : Option Vol) (bp : Bio) (s : St) : Out Bio :=
  geomBioStrategy tun zv bp false s

/-- `zvol_geom_bio_getattr`: 0 if a `g_handleattr_*` call delivered the bio, 1 if the
attribute is not one of the volume's. -/
def geomBioGetattr (zv : Vol) (bp : Bio) (s : St) : Out Int :=
  let deliver (evs : List Ev) : Out Int := ⟨0, s, .spa :: evs⟩
  if bp.bioAttribute = "GEOM::candelete" then deliver [.deliverAttr 1]
  else if bp.bioAttribute = "blocksavail" then
    deliver [.space, .deliverAttr (zv.avail / DEV_BSIZE : Nat)]
  else if bp.bioAttribute = "blocksused" then
    deliver [.space, .deliverAttr (zv.refd / DEV_BSIZE : Nat)]
  else if bp.bioAttribute = "poolblocksavail" then
    deliver [.deliverAttr (toU64 (zv.classSpace - zv.classAlloc : Int) / DEV_BSIZE : Nat)]
  else if bp.bioAttribute = "poolblocksused" then
    deliver [.deliverAttr (zv.classAlloc / DEV_BSIZE : Nat)]
  else ⟨1, s, [.spa]⟩

/-- `zvol_geom_bio_start`: `zv` is `bio_to->private`; the request runs now if the thread is not
a GEOM thread and can sleep. -/
def geomBioStart (tun : Tunables) (zv : Option Vol) (geomThread canSleep : Bool) (bp : Bio)
    (s : St) : Out Bio :=
  match zv with
  | none => ⟨bp, s, [.complete true ENXIO]⟩
  | some v =>
    if bp.cmd = .getattr then
      let r := geomBioGetattr v bp s
      ⟨bp, r.st, r.evs ++ if r.ret ≠ 0 then [.complete true EOPNOTSUPP] else []⟩
    else geomBioStrategy tun zv bp (!geomThread && canSleep) s

/-- A `struct uio`: the device offset, the bytes left, and the caller's buffer with the number
of bytes moved so far. -/
structure Uio where
  offset : Int
  resid : Nat
  skip : Nat := 0
  buf : Nat → UInt8

/-- The chunk of the cdev loops: at most `DMU_MAX_ACCESS >> 1` bytes, and none past the end. -/
def cdevChunk (volsize half : Nat) (uio : Uio) : Nat :=
  let bytes := min uio.resid half
  if bytes > volsize - toU64 uio.offset then volsize - toU64 uio.offset else bytes

theorem cdevChunk_pos {volsize half : Nat} {uio : Uio} (hhalf : 0 < half) (hr : 0 < uio.resid)
    (ho : toU64 uio.offset < volsize) : 0 < cdevChunk volsize half uio := by
  simp only [cdevChunk]
  split_ifs <;> omega

theorem cdevChunk_le (volsize half : Nat) (uio : Uio) : cdevChunk volsize half uio ≤ uio.resid := by
  simp only [cdevChunk]
  split_ifs <;> omega

/-- The chunk of the cdev loops ends inside the volume, and the offset after it is the offset
before it moved on by the chunk. -/
theorem cdevChunk_bound {volsize half : Nat} {uio : Uio} (hv : volsize < 2 ^ 64)
    (ho : toU64 uio.offset < volsize) :
    toU64 uio.offset + cdevChunk volsize half uio ≤ volsize ∧
      toU64 (uio.offset + cdevChunk volsize half uio) = toU64 uio.offset + cdevChunk volsize half uio := by
  have hle : toU64 uio.offset + cdevChunk volsize half uio ≤ volsize := by
    simp only [cdevChunk]
    split_ifs <;> omega
  refine ⟨hle, ?_⟩
  unfold toU64 at *
  omega

/-- The loop of `zvol_cdev_read`: `dmu_read_uio_dnode` of one chunk at a time, which moves the
bytes into the caller's buffer and advances the uio. -/
def cdevReadLoop (volsize half : Nat) (hhalf : 0 < half) (uio : Uio) (s : St) : Out (Int × Uio) :=
  if h : 0 < uio.resid ∧ toU64 uio.offset < volsize then
    let bytes := cdevChunk volsize half uio
    let off := toU64 uio.offset
    let err := s.ans
    if err ≠ 0 then ⟨(if err = ECKSUM then EIO else err, uio), s.pop, [.read off bytes err]⟩
    else
      have := cdevChunk_pos hhalf h.1 h.2
      let r := cdevReadLoop volsize half hhalf
        ⟨uio.offset + bytes, uio.resid - bytes, uio.skip + bytes,
          copy uio.buf uio.skip s.data off bytes⟩ s.pop
      ⟨r.ret, r.st, .read off bytes 0 :: r.evs⟩
  else ⟨(0, uio), s, []⟩
termination_by uio.resid
decreasing_by simp_wf; omega

/-- `zvol_cdev_read`. -/
def cdevRead (tun : Tunables) (zv : Vol) (uio : Uio) (s : St) : Out (Int × Uio) :=
  if uio.resid > 0 ∧ (uio.offset < 0 ∨ toU64 uio.offset > zv.volsize) then ⟨( EIO, uio), s, []⟩
  else
    let r := cdevReadLoop zv.volsize (tun.dmuMaxAccess >>> 1) tun.half_pos uio s
    ⟨r.ret, r.st, [.suspendEnter false, .rangeEnter (toU64 uio.offset) uio.resid false] ++ r.evs ++
      [.rangeExit, .suspendExit]⟩

/-- The loop of `zvol_cdev_write`: one transaction per chunk; a chunk whose `dmu_tx_assign`
fails aborts it, one whose `dmu_write_uio_dnode` fails commits it unlogged, and either ends
the loop. -/
def cdevWriteLoop (volsize half : Nat) (hhalf : 0 < half) (commit : Bool) (uio : Uio) (s : St) :
    Out (Int × Uio) :=
  if h : 0 < uio.resid ∧ toU64 uio.offset < volsize then
    let bytes := cdevChunk volsize half uio
    let off := toU64 uio.offset
    let err := s.ans
    let pre := [Ev.txCreate, .txHold off bytes, .txAssign err]
    if err ≠ 0 then ⟨(err, uio), s.pop, pre ++ [.txAbort]⟩
    else
      let err := s.pop.ans
      if err ≠ 0 then ⟨(err, uio), s.pop.pop, pre ++ [.write off bytes err, .txCommit]⟩
      else
        have := cdevChunk_pos hhalf h.1 h.2
        let r := cdevWriteLoop volsize half hhalf commit
          ⟨uio.offset + bytes, uio.resid - bytes, uio.skip + bytes, uio.buf⟩
          { s.pop.pop with data := copy s.data off uio.buf uio.skip bytes }
        ⟨r.ret, r.st, pre ++ [.write off bytes 0, .logWrite off bytes commit, .txCommit] ++ r.evs⟩
  else ⟨(0, uio), s, []⟩
termination_by uio.resid
decreasing_by all_goals (simp_wf; omega)

/-- `zvol_cdev_write`; `ioSync` is `IO_SYNC` in `ioflag`. -/
def cdevWrite (tun : Tunables) (zv : Vol) (uio : Uio) (ioSync : Bool) (s : St) :
    Out (Int × Uio) :=
  if uio.resid > 0 ∧ (uio.offset < 0 ∨ toU64 uio.offset > zv.volsize) then ⟨( EIO, uio), s, []⟩
  else
    let commit := ioSync || zv.syncAlways
    let z := ensureZilog s
    let r := cdevWriteLoop zv.volsize (tun.dmuMaxAccess >>> 1) tun.half_pos commit uio z.st
    ⟨r.ret, r.st, (if ioSync then [] else [.osSync]) ++ .suspendEnter false :: z.evs ++
      .rangeEnter (toU64 uio.offset) uio.resid true :: r.evs ++ .rangeExit ::
      (if commit then [.zilCommit] else []) ++ [.suspendExit]⟩

/-- The ioctl commands of `zvol_cdev_ioctl`, with their arguments. -/
inductive Ioctl where
  | sectorSize | mediaSize | flush
  /-- `DIOCGDELETE` of `length` bytes at `offset`. -/
  | delete (offset length : Int)
  | stripeSize | stripeOffset
  /-- `DIOCGATTR` of the attribute `name`. -/
  | attr (name : String)
  /-- `FIOSEEKHOLE` (`hole`) or `FIOSEEKDATA` from `off`. -/
  | seek (hole : Bool) (off : Int)
  | other
  deriving DecidableEq, Repr

/-- `DIOCGDELETE` past its argument checks. -/
def ioctlDelete (zv : Vol) (offset length : Nat) (s : St) : Out (Int × Option Int) :=
  let z := ensureZilog s
  let s := z.st
  let err := s.ans
  let pre := .suspendEnter false :: z.evs ++ [.rangeEnter offset length true, .txCreate, .txAssign err]
  if err ≠ 0 then ⟨(err, none), s.pop, pre ++ [.txAbort, .rangeExit, .suspendExit]⟩
  else
    let err := s.pop.ans
    let data := if err = 0 then copy s.data offset (fun _ => 0) 0 length else s.data
    ⟨(err, none), { s.pop.pop with data },
      pre ++ [.osSync, .logTruncate offset length, .txCommit, .free offset length err, .rangeExit] ++
      (if zv.syncAlways then [.zilCommit] else []) ++ [.suspendExit]⟩

/-- `DIOCGATTR`: the attribute's value, or `ENOIOCTL`. -/
def ioctlAttr (zv : Vol) (name : String) (s : St) : Out (Int × Option Int) :=
  let value (evs : List Ev) (v : Nat) : Out (Int × Option Int) := ⟨(0, some v), s, .spa :: evs⟩
  if name = "GEOM::candelete" then value [] 1
  else if name = "blocksavail" then value [.space] (zv.avail / DEV_BSIZE)
  else if name = "blocksused" then value [.space] (zv.refd / DEV_BSIZE)
  else if name = "poolblocksavail" then
    value [] (toU64 (zv.classSpace - zv.classAlloc : Int) / DEV_BSIZE)
  else if name = "poolblocksused" then value [] (zv.classAlloc / DEV_BSIZE)
  else ⟨(ENOIOCTL, none), s, [.spa]⟩

/-- `zvol_cdev_ioctl`: the error and the value written back to `data`. -/
def cdevIoctl (tun : Tunables) (zv : Vol) (cmd : Ioctl) (s : St) : Out (Int × Option Int) :=
  match cmd with
  | .sectorSize => ⟨(0, some DEV_BSIZE), s, []⟩
  | .mediaSize => ⟨(0, some zv.volsize), s, []⟩
  | .flush =>
    ⟨(0, none), s, .suspendEnter false :: (if s.zilog then [.zilCommit] else []) ++ [.suspendExit]⟩
  | .delete offset length =>
    if !tun.unmapEnabled then ⟨(0, none), s, []⟩
    else if offset % DEV_BSIZE ≠ 0 ∨ length % DEV_BSIZE ≠ 0 ∨ offset < 0 ∨
        toU64 offset ≥ zv.volsize ∨ length ≤ 0 then ⟨(EINVAL, none), s, []⟩
    else ioctlDelete zv (toU64 offset) (toU64 length) s
  | .stripeSize => ⟨(0, some zv.volblocksize), s, []⟩
  | .stripeOffset => ⟨(0, some 0), s, []⟩
  | .attr name => ioctlAttr zv name s
  | .seek hole off =>
    let noff := toU64 off
    let err := s.ans
    ⟨(err, some (ofU64 (if err = 0 then s.next hole noff else noff))), s.pop,
      [.rangeEnter 0 UINT64_MAX false, .seek noff hole err, .rangeExit]⟩
  | .other => ⟨(ENOIOCTL, none), s, []⟩

end Zvol.Io
