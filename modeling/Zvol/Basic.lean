import Mathlib.Data.Fintype.Basic

/-!
# Error numbers, volume modes and lock holds

The error numbers `zvol_os.c` returns, with FreeBSD's values (`ECKSUM` is FreeBSD's
`EINTEGRITY`; `ENOIOCTL` is the kernel's "not handled here" answer of an ioctl), the modes a
volume is exposed in (`volmode`), how a thread holds a reader/writer lock, and the order the
file's locks are taken in (`Lock.below`).
-/

namespace Zvol

/-! ## Error numbers -/

def EIO : Int := 5
def ENXIO : Int := 6
def EBUSY : Int := 16
def EEXIST : Int := 17
def EINVAL : Int := 22
def EROFS : Int := 30
def EAGAIN : Int := 35
def EOPNOTSUPP : Int := 45
def ECKSUM : Int := 97
def ENOIOCTL : Int := -3

/-! ## `uint32_t` counters -/

/-- The value an integer has once stored in a `uint32_t` (`zv_open_count`, `zvol_minors`). -/
def toU32 (x : Int) : Nat := (x % 2 ^ 32).toNat

theorem toU32_lt (x : Int) : toU32 x < 2 ^ 32 := by
  unfold toU32
  omega

/-- A value that fits is stored as it is. -/
theorem toU32_of_lt {x : Int} (h0 : 0 ≤ x) (h : x < 2 ^ 32) : (toU32 x : Int) = x := by
  unfold toU32
  omega

theorem toU32_natCast {x : Nat} (h : x < 2 ^ 32) : toU32 x = x := by
  have := toU32_of_lt (Int.natCast_nonneg x) (by omega)
  omega

/-- `x` fits in a C `int`. -/
def fitsInt (x : Int) : Bool := -2 ^ 31 ≤ x && x < 2 ^ 31

/-- How a volume is exposed (`zv_volmode`): a GEOM provider, a character device, or not at
all. -/
inductive Volmode where
  | geom
  | dev
  | none
  deriving DecidableEq, Repr

/-- How a thread holds a reader/writer lock. -/
inductive RwHold where
  | none
  | reader
  | writer
  deriving DecidableEq, Repr

/-! ## The lock order -/

/-- The locks of the file: `spa_namespace_lock`, `zvol_state_lock`, `zv_suspend_lock`,
`zv_state_lock`, the GEOM topology lock, and the volume's range lock. -/
inductive Lock where
  | spaNamespace
  | zvolState
  | suspend
  | state
  | topology
  | range
  deriving DecidableEq, Repr

/-- The place of a lock in the chain `spa_namespace_lock < zvol_state_lock < zv_suspend_lock <
zv_state_lock < g_topology_lock`; the range lock is off the chain. -/
def Lock.rank : Lock → Option Nat
  | .spaNamespace => some 0
  | .zvolState => some 1
  | .suspend => some 2
  | .state => some 3
  | .topology => some 4
  | .range => none

/-- `a` is taken before `b`: `a` comes first in the chain, or `b` is the range lock and `a` is
`zv_suspend_lock` or below it. -/
def Lock.below (a b : Lock) : Bool :=
  match a.rank, b.rank with
  | some i, some j => i < j
  | some i, none => i ≤ 2
  | none, _ => false

/-- Every lock. -/
def Lock.all : List Lock := [.spaNamespace, .zvolState, .suspend, .state, .topology, .range]

/-- Every lock in `held` is below `l`: a thread that holds `held` may block on `l`. -/
def Lock.above (held : Lock → Bool) (l : Lock) : Bool := Lock.all.all fun k => !held k || k.below l

theorem Lock.mem_all (k : Lock) : k ∈ Lock.all := by
  cases k <;> simp [Lock.all]

theorem Lock.above_iff {held : Lock → Bool} {l : Lock} :
    Lock.above held l = true ↔ ∀ k, held k = true → k.below l = true := by
  simp only [Lock.above, List.all_eq_true, Bool.or_eq_true, Bool.not_eq_true']
  constructor
  · intro h k hk
    exact (h k (Lock.mem_all k)).resolve_left (by simp [hk])
  · intro h k _
    cases hk : held k
    · exact .inl rfl
    · exact .inr (h k hk)

/-- Nothing held, any lock may be taken. -/
@[simp] theorem Lock.above_none (l : Lock) : Lock.above (fun _ => false) l = true := by
  simp [Lock.above]

/-- A lock operation of straight-line code: a blocking acquisition or a release. -/
inductive LockOp where
  | take (l : Lock)
  | drop (l : Lock)
  deriving DecidableEq, Repr

/-- Each acquisition of `ops`, run by a thread that holds `held`, takes a lock above every lock
the thread holds then. -/
def LockOp.ordered (held : List Lock) : List LockOp → Bool
  | [] => true
  | .take l :: ops => Lock.above (fun k => decide (k ∈ held)) l && ordered (l :: held) ops
  | .drop l :: ops => ordered (held.erase l) ops

/-- The locks held after `ops`, from `held`. -/
def LockOp.held (held : List Lock) : List LockOp → List Lock
  | [] => held
  | .take l :: ops => LockOp.held (l :: held) ops
  | .drop l :: ops => LockOp.held (held.erase l) ops

/-- Code run after other code keeps the order when both do, the second from the locks the
first leaves held. -/
theorem LockOp.ordered_append (held : List Lock) (a b : List LockOp) :
    LockOp.ordered held (a ++ b) = (LockOp.ordered held a && LockOp.ordered (LockOp.held held a) b) := by
  induction a generalizing held with
  | nil => rfl
  | cons op a ih => cases op <;> simp [LockOp.ordered, LockOp.held, ih, Bool.and_assoc]

/-- `g_topology_lock` is the top of the chain: a thread holding it may block on no lock. -/
theorem LockOp.ordered_topology_take (l : Lock) (ops : List LockOp) :
    LockOp.ordered [.topology] (.take l :: ops) = false := by
  cases l <;> simp [LockOp.ordered, Lock.above, Lock.all, Lock.below, Lock.rank]

end Zvol
