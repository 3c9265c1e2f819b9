import Zvol.Minor.Create

/-!
# The device nodes of a volume

What `zvol_os_create_minor` leaves a registered volume with, a GEOM provider or a cdev, and the
calls of this file that change them afterwards: the provider update of `zvol_geom_open`'s first
open, `zvol_os_update_volsize`, `zvol_os_rename_minor`, `zvol_os_clear_private`,
`zvol_cdev_kqfilter` with `zvol_filter_vnode` and `zvol_filter_detach`, and `zvol_os_free`
with `zvol_geom_destroy`. Each call runs alone, as its locks and callers make it
(`g_topology_lock`, `zvol_state_lock`, `zv_state_lock`, which guards the knote list); a run is a
list of calls (`Node.run`). A call on a freed volume, or one that would follow a null pointer,
is not made (`none`). `g_resize_provider` posts an event that GEOM's event thread runs later
(`Call.resizeEvent`).

* `provider_size_reach`: in every run with positive sizes, a GEOM volume keeps its provider
  until it is freed, and whenever the provider points at the volume it shows no size yet, with
  no resize event pending, or the volume's size once its pending resize events have run.
* `free_asserts_iff`: the assertions of `zvol_os_free` on the nodes hold exactly when the last
  clear or rename of the run is `zvol_os_clear_private` (or, in DEV mode, a rename whose
  `make_dev_s` failed).
* `knote_fires_iff_resized`: a knote reports an event exactly when `zvol_os_update_volsize` has
  run since it was attached or last cleared by kqueue.
* `knotes_outlive_free`: `zvol_os_free` leaves knotes on the list of the freed volume exactly
  when the last rename's `make_dev_s` failed, each with the freed volume as its `kn_hook`.
-/

namespace Zvol.Minor

/-! ## Knotes -/

/-- `EVFILT_VNODE`, FreeBSD's value. -/
def EVFILT_VNODE : Int := -4

/-- `NOTE_ATTRIB`, FreeBSD's value. -/
def NOTE_ATTRIB : Nat := 8

/-- A knote as `zvol_cdev_kqfilter` and the filter see it: which it is, the volume it was attached
to (`kn_hook`, by the volume's id), the events it asks for (`kn_sfflags`) and the events it has
seen (`kn_fflags`). -/
structure Knote where
  id : Nat
  hook : Nat
  sfflags : Nat
  fflags : Nat := 0
  deriving DecidableEq, Repr

/-- `zvol_filter_vnode(kn, hint)`: the knote records the events of `hint` it asks for, and
reports whether it has seen any. -/
def filterVnode (kn : Knote) (hint : Nat) : Knote × Bool :=
  let kn := { kn with fflags := kn.fflags ||| (kn.sfflags &&& hint) }
  (kn, kn.fflags != 0)

/-- A knote on the list of the volume `id`: it asks for `NOTE_ATTRIB`, and its `kn_hook` is the
volume. -/
def Knote.Ok (id : Nat) (kn : Knote) : Prop := kn.sfflags = NOTE_ATTRIB ∧ kn.hook = id

/-! ## Nodes -/

/-- A GEOM provider of a volume: `pp->private` points at the volume, `pp->mediasize`, and the
sizes of the resize events `g_resize_provider` has posted that GEOM has not run yet, oldest
first. -/
structure Provider where
  name : String
  priv : Bool := true
  mediasize : Nat := 0
  pending : List Nat := []
  deriving DecidableEq, Repr

/-- The size the provider shows once its pending resize events have run. -/
def Provider.settled (pp : Provider) : Nat := pp.pending.getLastD pp.mediasize

/-- The provider of a volume of size `volsize` shows a size that settles on the volume's: no
size yet and no resize event pending, or, when it points at the volume, the volume's size once
its pending events have run. -/
structure Provider.Sized (volsize : Nat) (pp : Provider) : Prop where
  pending : pp.mediasize = 0 → pp.pending = []
  pos : ∀ x ∈ pp.pending, 0 < x
  size : pp.priv = true → pp.mediasize = 0 ∨ pp.settled = volsize

/-- With events pending, the size shown now does not change the size settled on. -/
theorem Provider.settled_of_pending {pp : Provider} (hp : pp.pending ≠ []) (m : Nat) :
    { pp with mediasize := m }.settled = pp.settled := by
  obtain ⟨x, rest, h⟩ := List.exists_cons_of_ne_nil hp
  simp only [Provider.settled, h, List.getLastD_cons]

/-- A cdev of a volume: `si_drv2` points at the volume. -/
structure Cdev where
  name : String
  drv2 : Bool := true
  deriving DecidableEq, Repr

/-- `zvol_state_os`, a union by the volume's mode: the GEOM state (`zsg_provider`), or the DEV
state (`zsd_cdev` and the knotes on `zsd_selinfo.si_note`); a volume in another mode has
neither. -/
inductive Zso where
  | geom (provider : Option Provider)
  | dev (cdev : Option Cdev) (knotes : List Knote)
  | other
  deriving DecidableEq, Repr

/-- The volume is in GEOM mode. -/
def Zso.isGeom : Zso → Bool
  | .geom _ => true
  | _ => false

/-- The volume is in DEV mode. -/
def Zso.isDev : Zso → Bool
  | .dev _ _ => true
  | _ => false

/-- A volume as its device nodes see it: which allocation it is, `zv_name`, `zv_volsize`, its
`zvol_state_os`, whether `zvol_os_free` has run, and `zvol_minors`. -/
structure Node where
  id : Nat
  name : String
  volsize : Nat
  zso : Zso
  freed : Bool := false
  minors : Nat
  deriving DecidableEq, Repr

namespace Node

/-- `zsg_provider`. -/
def provider (s : Node) : Option Provider :=
  match s.zso with
  | .geom pp => pp
  | _ => none

/-- `zsd_cdev`. -/
def cdev (s : Node) : Option Cdev :=
  match s.zso with
  | .dev dev _ => dev
  | _ => none

/-- The knotes on `zsd_selinfo.si_note`. -/
def knotes (s : Node) : List Knote :=
  match s.zso with
  | .dev _ kns => kns
  | _ => []

/-- The volume `zv` as `zvol_os_create_minor` leaves it when it returns 0 with `volsize` read
from the ZAP: in GEOM mode with the provider `zvol_alloc` made, its size 0, in DEV mode with the
cdev `make_dev_s` made and no knote, and counted in `zvol_minors`. -/
def created (zv : Zv) (volsize minors : Nat) : Node where
  id := zv.id
  name := zv.name
  volsize := volsize
  zso := if zv.volmode = ZFS_VOLMODE_GEOM then .geom (some { name := zv.name })
    else if zv.volmode = ZFS_VOLMODE_DEV then .dev (some { name := zv.name }) []
    else .other
  minors := toU32 (minors + 1)

/-- `zvol_geom_open` after a first `zvol_first_open` that succeeded, through a provider whose
`private` gave it the volume: `pp->mediasize = zv->zv_volsize`. -/
def firstOpen (s : Node) : Option Node :=
  match s.zso with
  | .geom (some pp) =>
    if pp.priv then some { s with zso := .geom (some { pp with mediasize := s.volsize }) } else none
  | _ => none

/-- `g_resize_provider(pp, size)`: posts a resize event, which GEOM runs later (`resizeEvent`). -/
def gResizeProvider (pp : Provider) (size : Nat) : Provider :=
  { pp with pending := pp.pending ++ [size] }

/-- GEOM's event thread runs the oldest resize event posted for the provider: `pp->mediasize`
takes its size. -/
def resizeEvent (s : Node) : Option Node :=
  match s.zso with
  | .geom (some pp) =>
    match pp.pending with
    | [] => none
    | size :: rest => some { s with zso := .geom (some { pp with mediasize := size, pending := rest }) }
  | _ => none

/-- `zvol_os_update_volsize(zv, volsize)`: the size is set; in GEOM mode, under
`g_topology_lock`, `ENXIO` if the provider no longer points at the volume, else the provider
takes the size if it had none, else `g_resize_provider` posts it; in DEV mode `KNOTE_UNLOCKED` of
`NOTE_ATTRIB` on the knote list. -/
def updateVolsize (volsize : Nat) (s : Node) : Option (Int × Node) :=
  let s := { s with volsize }
  match s.zso with
  | .geom pp => pp.map fun pp =>
    if !pp.priv then ( ENXIO, s)
    else if pp.mediasize = 0 then (0, { s with zso := .geom (some { pp with mediasize := volsize }) })
    else (0, { s with zso := .geom (some (gResizeProvider pp volsize)) })
  | .dev dev kns => some (0, { s with zso := .dev dev (kns.map fun kn => (filterVnode kn NOTE_ATTRIB).1) })
  | .other => some (0, s)

/-- The nodes of `zvol_os_rename_minor(zv, newname)`, `make_dev_s` answering `makeDev`: in GEOM
mode, under `g_topology_lock`, the provider is withered, with the events posted for it, and a new
one made that points at the volume, with the volume's size; in DEV mode the cdev, if any, is
destroyed, and a new one made if `make_dev_s` succeeds. The forced close of the DEV branch is
`Zvol.OpenClose`'s, the hash move `Zvol.Minor.renameMinor`. -/
def renameMinor (newname : String) (makeDev : Int) (s : Node) : Option Node :=
  let s' := { s with name := newname }
  match s.zso with
  | .geom pp => pp.map fun _ =>
    { s' with zso := .geom (some { name := newname, mediasize := s.volsize }) }
  | .dev _ kns => some { s' with zso := .dev (if makeDev = 0 then some { name := newname } else none) kns }
  | .other => some s'

/-- `zvol_os_clear_private(zv)`: in GEOM mode `pp->private = NULL` unless already cleared, in
DEV mode `si_drv2 = NULL` if there is a cdev. -/
def clearPrivate (s : Node) : Option Node :=
  match s.zso with
  | .geom pp => pp.map fun pp =>
    if !pp.priv then s else { s with zso := .geom (some { pp with priv := false }) }
  | .dev dev kns => some { s with zso := .dev (dev.map fun dev => { dev with drv2 := false }) kns }
  | .other => some s

/-- `zvol_cdev_kqfilter(dev, kn)` on the volume's cdev for a new knote `id`: `EINVAL` unless it
is an `EVFILT_VNODE` knote asking for `NOTE_ATTRIB` alone, else `kn_hook = zv` and
`knlist_add`. With `si_drv2` cleared the call would follow a null pointer. -/
def cdevKqfilter (id : Nat) (filter : Int) (sfflags : Nat) (s : Node) : Option (Int × Node) :=
  match s.zso with
  | .dev (some dev) kns =>
    if !dev.drv2 then none
    else if filter ≠ EVFILT_VNODE then some (EINVAL, s)
    else if sfflags ≠ NOTE_ATTRIB then some (EINVAL, s)
    else some (0, { s with zso := .dev (some dev) (⟨id, s.id, sfflags, 0⟩ :: kns) })
  | _ => none

/-- The knote list after `f`. -/
def mapKnotes (f : List Knote → List Knote) (s : Node) : Node :=
  match s.zso with
  | .dev dev kns => { s with zso := .dev dev (f kns) }
  | _ => s

/-- `zvol_filter_detach(kn)`: `knlist_remove` from the list of the volume `kn_hook` points at. -/
def filterDetach (id : Nat) (s : Node) : Node := s.mapKnotes (·.filter (·.id != id))

/-- kqueue reports an `EV_CLEAR` event of knote `id` and resets its `kn_fflags`. -/
def kqueueClear (id : Nat) (s : Node) : Node :=
  s.mapKnotes (·.map fun kn => if kn.id = id then { kn with fflags := 0 } else kn)

/-- `zvol_geom_destroy(zv)`: `zsg_provider = NULL`, and `g_wither_geom` withers the provider. -/
def geomDestroy (s : Node) : Node := { s with zso := .geom none }

/-- `zvol_os_free(zv)`: in GEOM mode `zvol_geom_destroy` under `g_topology_lock`; in DEV mode, if
there is a cdev, `destroy_dev`, `knlist_clear` and `knlist_destroy`; then the volume is freed and
`zvol_minors--`, a `uint32_t`. -/
def free (s : Node) : Node :=
  let s := match s.zso with
    | .geom _ => geomDestroy s
    | .dev (some _) _ => { s with zso := .dev none [] }
    | _ => s
  { s with freed := true, minors := (s.minors + 2 ^ 32 - 1) % 2 ^ 32 }

/-- The assertions of `zvol_os_free` on the nodes: `pp->private == NULL` in GEOM mode, and
`si_drv2 == NULL` in DEV mode when there is a cdev. -/
def freeAsserts (s : Node) : Bool :=
  match s.zso with
  | .geom pp => (pp.map (!·.priv)).getD false
  | .dev dev _ => (dev.map (!·.drv2)).getD true
  | .other => true

/-- A call on the volume, or GEOM's run of a resize event posted for its provider. -/
inductive Call where
  | firstOpen
  | updateVolsize (volsize : Nat)
  | resizeEvent
  | renameMinor (newname : String) (makeDev : Int)
  | clearPrivate
  | kqfilter (id : Nat) (filter : Int) (sfflags : Nat)
  | filterDetach (id : Nat)
  | kqueueClear (id : Nat)
  | free
  deriving DecidableEq, Repr

/-- The call is `zvol_os_update_volsize`. -/
def Call.isUpdateVolsize : Call → Bool
  | .updateVolsize _ => true
  | _ => false

/-- `c` on the volume: what it returns and the volume after. kqueue attaches a knote once, and
detaches or clears only knotes it has attached; kqueue's detach reaches the volume through the
knote's `kn_hook`, so on a freed volume it would read freed memory. -/
def call (s : Node) (c : Call) : Option (Int × Node) :=
  if s.freed then none else
  match c with
  | .firstOpen => (firstOpen s).map ((0 : Int), ·)
  | .updateVolsize v => updateVolsize v s
  | .resizeEvent => (resizeEvent s).map ((0 : Int), ·)
  | .renameMinor n d => (renameMinor n d s).map ((0 : Int), ·)
  | .clearPrivate => (clearPrivate s).map ((0 : Int), ·)
  | .kqfilter id f sf => if s.knotes.any (·.id == id) then none else cdevKqfilter id f sf s
  | .filterDetach id => if s.knotes.any (·.id == id) then some (0, filterDetach id s) else none
  | .kqueueClear id => if s.knotes.any (·.id == id) then some (0, kqueueClear id s) else none
  | .free => some (0, free s)

/-- The calls `cs` one after another. -/
def run (s : Node) : List Call → Option Node
  | [] => some s
  | c :: cs => (s.call c).bind fun r => r.2.run cs

/-- The states a registered volume reaches. -/
def Reach (s : Node) : Prop := ∃ zv volsize minors cs, (created zv volsize minors).run cs = some s

/-! ## Runs -/

variable {s s' : Node} {c : Call} {cs : List Call} {r : Int}

@[simp] theorem call_of_freed (h : s.freed = true) (c : Call) : s.call c = none := by
  simp [call, h]

theorem run_of_call (h : s.call c = some (r, s')) : s.run (c :: cs) = s'.run cs := by
  simp [run, h]

theorem run_append (cs ds : List Call) (s : Node) :
    s.run (cs ++ ds) = (s.run cs).bind (·.run ds) := by
  induction cs generalizing s with
  | nil => rfl
  | cons c cs ih =>
    simp only [List.cons_append, run]
    cases s.call c with
    | none => rfl
    | some p => exact ih p.2

/-- A property that every call keeps holds after every run. -/
theorem run_induct {P : Node → Prop}
    (hstep : ∀ {s s' : Node} {c : Call} {r : Int}, P s → s.call c = some (r, s') → P s') :
    ∀ {s s' : Node} {cs : List Call}, P s → s.run cs = some s' → P s'
  | _, _, [], hs, h => by cases h; exact hs
  | s, _, c :: cs, hs, h => by
    simp only [run] at h
    cases hc : s.call c with
    | none => simp [hc] at h
    | some p => simp only [hc, Option.some_bind] at h; exact run_induct hstep (hstep hs hc) h

theorem Reach.call (hs : s.Reach) (h : s.call c = some (r, s')) : s'.Reach := by
  obtain ⟨zv, v, m, cs, hr⟩ := hs
  exact ⟨zv, v, m, cs ++ [c], by simp [run_append, hr, run, h]⟩

/-! ## What each call does -/

variable {v : Nat} {n : String} {d : Int} {id : Nat} {f : Int} {sf : Nat}

theorem call_not_freed (h : s.call c = some (r, s')) : s.freed = false := by
  by_contra hf
  simp [Bool.eq_true_of_not_eq_false hf] at h

theorem call_firstOpen (h : s.call .firstOpen = some (r, s')) :
    ∃ pp, s.zso = .geom (some pp) ∧ pp.priv = true ∧ r = 0 ∧
      s' = { s with zso := .geom (some { pp with mediasize := s.volsize }) } := by
  have hf := call_not_freed h
  rw [call, if_neg (by simp [hf]), firstOpen] at h
  split at h
  · split_ifs at h with hp
    · simp only [Option.map_some', Option.some.injEq, Prod.mk.injEq] at h
      exact ⟨_, ‹_›, hp, h.1.symm, h.2.symm⟩
    · simp at h
  · simp at h

theorem call_updateVolsize (h : s.call (.updateVolsize v) = some (r, s')) :
    ∃ z, s' = { s with volsize := v, zso := z } ∧
      ((∃ pp, s.zso = .geom (some pp) ∧
        (pp.priv = false ∧ r = ENXIO ∧ z = s.zso ∨
          pp.priv = true ∧ r = 0 ∧ z = .geom (some
            (if pp.mediasize = 0 then { pp with mediasize := v } else gResizeProvider pp v)))) ∨
        (∃ dev kns, s.zso = .dev dev kns ∧ r = 0 ∧
          z = .dev dev (kns.map fun kn => (filterVnode kn NOTE_ATTRIB).1)) ∨
        (s.zso = .other ∧ r = 0 ∧ z = .other)) := by
  have hf := call_not_freed h
  rw [call, if_neg (by simp [hf]), updateVolsize] at h
  rcases hz : s.zso with (_ | pp) | ⟨dev, kns⟩ | _ <;>
    simp only [hz, Option.map_none', Option.map_some', Option.some.injEq, reduceCtorEq] at h
  · split_ifs at h with h1 h2 <;> cases h
    · exact ⟨_, rfl, .inl ⟨pp, rfl, .inl ⟨by simpa using h1, rfl, rfl⟩⟩⟩
    · exact ⟨_, rfl, .inl ⟨pp, rfl, .inr ⟨by simpa using h1, rfl, by simp [h2]⟩⟩⟩
    · exact ⟨_, rfl, .inl ⟨pp, rfl, .inr ⟨by simpa using h1, rfl, by simp [h2]⟩⟩⟩
  · cases h; exact ⟨_, rfl, .inr (.inl ⟨dev, kns, rfl, rfl, rfl⟩)⟩
  · cases h; exact ⟨_, rfl, .inr (.inr ⟨rfl, rfl, rfl⟩)⟩

theorem call_resizeEvent (h : s.call .resizeEvent = some (r, s')) :
    ∃ pp size rest, s.zso = .geom (some pp) ∧ pp.pending = size :: rest ∧ r = 0 ∧
      s' = { s with zso := .geom (some { pp with mediasize := size, pending := rest }) } := by
  have hf := call_not_freed h
  rw [call, if_neg (by simp [hf]), resizeEvent] at h
  split at h
  · rename_i pp hz
    split at h
    · simp at h
    · rename_i size rest hp
      simp only [Option.map_some', Option.some.injEq, Prod.mk.injEq] at h
      exact ⟨pp, size, rest, hz, hp, h.1.symm, h.2.symm⟩
  · simp at h

theorem call_renameMinor (h : s.call (.renameMinor n d) = some (r, s')) :
    r = 0 ∧ ∃ z, s' = { s with name := n, zso := z } ∧
      ((∃ pp, s.zso = .geom (some pp) ∧ z = .geom (some { name := n, mediasize := s.volsize })) ∨
        (∃ dev kns, s.zso = .dev dev kns ∧
          z = .dev (if d = 0 then some { name := n } else none) kns) ∨
        (s.zso = .other ∧ z = .other)) := by
  have hf := call_not_freed h
  rw [call, if_neg (by simp [hf]), renameMinor] at h
  rcases hz : s.zso with (_ | pp) | ⟨dev, kns⟩ | _ <;>
    simp only [hz, Option.map_none', Option.map_some', Option.some.injEq, Prod.mk.injEq,
      reduceCtorEq] at h <;>
    obtain ⟨rfl, rfl⟩ := h
  · exact ⟨rfl, _, rfl, .inl ⟨pp, rfl, rfl⟩⟩
  · exact ⟨rfl, _, rfl, .inr (.inl ⟨dev, kns, rfl, rfl⟩)⟩
  · exact ⟨rfl, _, rfl, .inr (.inr ⟨rfl, rfl⟩)⟩

theorem call_clearPrivate (h : s.call .clearPrivate = some (r, s')) :
    r = 0 ∧ ∃ z, s' = { s with zso := z } ∧
      ((∃ pp, s.zso = .geom (some pp) ∧ z = .geom (some { pp with priv := false })) ∨
        (∃ dev kns, s.zso = .dev dev kns ∧
          z = .dev (dev.map fun dev => { dev with drv2 := false }) kns) ∨
        (s.zso = .other ∧ z = .other)) := by
  have hf := call_not_freed h
  rw [call, if_neg (by simp [hf]), clearPrivate] at h
  rcases hz : s.zso with (_ | pp) | ⟨dev, kns⟩ | _ <;>
    simp only [hz, Option.map_none', Option.map_some', Option.some.injEq, Prod.mk.injEq,
      reduceCtorEq] at h
  · split_ifs at h with hp <;> obtain ⟨rfl, rfl⟩ := h
    · have : { pp with priv := false } = pp := by cases pp; simp_all
      exact ⟨rfl, _, by rw [this, ← hz], .inl ⟨pp, rfl, rfl⟩⟩
    · exact ⟨rfl, _, rfl, .inl ⟨pp, rfl, rfl⟩⟩
  · obtain ⟨rfl, rfl⟩ := h; exact ⟨rfl, _, rfl, .inr (.inl ⟨dev, kns, rfl, rfl⟩)⟩
  · obtain ⟨rfl, rfl⟩ := h; exact ⟨rfl, _, by rw [← hz], .inr (.inr ⟨rfl, rfl⟩)⟩

theorem call_kqfilter (h : s.call (.kqfilter id f sf) = some (r, s')) :
    (∀ kn ∈ s.knotes, kn.id ≠ id) ∧ ∃ dev kns, s.zso = .dev (some dev) kns ∧ dev.drv2 = true ∧
      ((f ≠ EVFILT_VNODE ∨ sf ≠ NOTE_ATTRIB) ∧ r = EINVAL ∧ s' = s ∨
        f = EVFILT_VNODE ∧ sf = NOTE_ATTRIB ∧ r = 0 ∧
          s' = { s with zso := .dev (some dev) (⟨id, s.id, sf, 0⟩ :: kns) }) := by
  have hf := call_not_freed h
  rw [call, if_neg (by simp [hf])] at h
  split_ifs at h with hk
  refine ⟨by simpa using hk, ?_⟩
  unfold cdevKqfilter at h
  split at h
  · rename_i dev kns hz
    split_ifs at h with h1 h2 h3 <;> simp only [Option.some.injEq, Prod.mk.injEq] at h <;>
      obtain ⟨rfl, rfl⟩ := h
    · exact ⟨dev, kns, hz, by simpa using h1, .inl ⟨.inl h2, rfl, rfl⟩⟩
    · exact ⟨dev, kns, hz, by simpa using h1, .inl ⟨.inr h3, rfl, rfl⟩⟩
    · exact ⟨dev, kns, hz, by simpa using h1, .inr ⟨not_not.1 h2, not_not.1 h3, rfl, rfl⟩⟩
  · simp at h

theorem call_filterDetach (h : s.call (.filterDetach id) = some (r, s')) :
    (∃ kn ∈ s.knotes, kn.id = id) ∧ r = 0 ∧ s' = s.filterDetach id := by
  have hf := call_not_freed h
  rw [call, if_neg (by simp [hf])] at h
  split_ifs at h with hk
  obtain ⟨rfl, rfl⟩ := Prod.mk.inj (Option.some.inj h)
  exact ⟨by simpa using hk, rfl, rfl⟩

theorem call_kqueueClear (h : s.call (.kqueueClear id) = some (r, s')) :
    (∃ kn ∈ s.knotes, kn.id = id) ∧ r = 0 ∧ s' = s.kqueueClear id := by
  have hf := call_not_freed h
  rw [call, if_neg (by simp [hf])] at h
  split_ifs at h with hk
  obtain ⟨rfl, rfl⟩ := Prod.mk.inj (Option.some.inj h)
  exact ⟨by simpa using hk, rfl, rfl⟩

theorem call_free (h : s.call .free = some (r, s')) : s.freed = false ∧ r = 0 ∧ s' = s.free := by
  have hf := call_not_freed h
  rw [call, if_neg (by simp [hf])] at h
  obtain ⟨rfl, rfl⟩ := Prod.mk.inj (Option.some.inj h)
  exact ⟨hf, rfl, rfl⟩

@[simp] theorem provider_mapKnotes (g : List Knote → List Knote) :
    (s.mapKnotes g).provider = s.provider := by
  unfold mapKnotes; split <;> simp [provider, *]

@[simp] theorem cdev_mapKnotes (g : List Knote → List Knote) : (s.mapKnotes g).cdev = s.cdev := by
  unfold mapKnotes; split <;> simp [cdev, *]

@[simp] theorem volsize_mapKnotes (g : List Knote → List Knote) :
    (s.mapKnotes g).volsize = s.volsize := by
  unfold mapKnotes; split <;> rfl

theorem knotes_mapKnotes {g : List Knote → List Knote} (hg : g [] = []) :
    (s.mapKnotes g).knotes = g s.knotes := by
  unfold mapKnotes; split <;> simp [knotes, *]

@[simp] theorem free_freed : s.free.freed = true := rfl

@[simp] theorem free_id : s.free.id = s.id := by
  unfold free; split <;> rfl

@[simp] theorem free_volsize : s.free.volsize = s.volsize := by
  unfold free; split <;> rfl

@[simp] theorem free_provider : s.free.provider = none := by
  unfold free; split <;> simp [provider, geomDestroy, *]

@[simp] theorem free_cdev : s.free.cdev = none := by
  rcases hz : s.zso with _ | ⟨_ | _, _⟩ | _ <;> simp [free, cdev, geomDestroy, hz]

theorem free_knotes : s.free.knotes = if s.cdev.isSome then [] else s.knotes := by
  rcases hz : s.zso with _ | ⟨_ | _, _⟩ | _ <;> simp [free, knotes, cdev, geomDestroy, hz]

/-! ## The invariant -/

/-- What holds of a registered volume's nodes after any calls. -/
structure Ok (s : Node) : Prop where
  /-- A GEOM volume keeps a provider until it is freed. -/
  geom : s.zso = .geom none → s.freed = true
  /-- Every knote on the list asks for `NOTE_ATTRIB` and hooks the volume. -/
  knotesOk : ∀ kn ∈ s.knotes, kn.Ok s.id

theorem Ok.of_geom {p : Provider} (hz : s.zso = .geom (some p)) : s.Ok :=
  ⟨by simp [hz], by simp [knotes, hz]⟩

theorem Ok.of_dev {dev : Option Cdev} {kns : List Knote} (hz : s.zso = .dev dev kns)
    (hk : ∀ kn ∈ kns, kn.Ok s.id) : s.Ok :=
  ⟨by simp [hz], by simpa [knotes, hz]⟩

theorem Ok.of_other (hz : s.zso = .other) : s.Ok :=
  ⟨by simp [hz], by simp [knotes, hz]⟩

theorem Ok.knotes_of {dev : Option Cdev} {kns : List Knote} (h : s.Ok)
    (hz : s.zso = .dev dev kns) : ∀ kn ∈ kns, kn.Ok s.id := by
  simpa [knotes, hz] using h.knotesOk

/-- A change of the knote list that keeps each knote's `kn_sfflags` and `kn_hook` keeps `Ok`. -/
theorem Ok.mapKnotes (h : s.Ok) {g : List Knote → List Knote}
    (hg : ∀ kns, (∀ kn ∈ kns, kn.Ok s.id) → ∀ kn ∈ g kns, kn.Ok s.id) :
    (s.mapKnotes g).Ok := by
  unfold Node.mapKnotes
  split
  · exact .of_dev rfl (hg _ (h.knotes_of ‹_›))
  · exact h

theorem Ok.created (zv : Zv) (volsize minors : Nat) : (created zv volsize minors).Ok := by
  unfold Node.created
  split_ifs
  exacts [.of_geom rfl, .of_dev rfl nofun, .of_other rfl]

theorem Ok.call (h : s.Ok) (hc : s.call c = some (r, s')) : s'.Ok := by
  cases c with
  | firstOpen => obtain ⟨pp, hz, -, -, rfl⟩ := call_firstOpen hc; exact .of_geom rfl
  | updateVolsize v =>
    obtain ⟨z, rfl, ⟨pp, hz, ⟨-, -, rfl⟩ | ⟨-, -, rfl⟩⟩ | ⟨dev, kns, hz, -, rfl⟩ | ⟨-, -, rfl⟩⟩ :=
      call_updateVolsize hc
    · exact .of_geom hz
    · exact .of_geom rfl
    · exact .of_dev rfl (by simpa [Knote.Ok, filterVnode] using h.knotes_of hz)
    · exact .of_other rfl
  | resizeEvent => obtain ⟨pp, -, -, -, -, -, rfl⟩ := call_resizeEvent hc; exact .of_geom rfl
  | renameMinor n d =>
    obtain ⟨-, z, rfl, ⟨pp, -, rfl⟩ | ⟨dev, kns, hz, rfl⟩ | ⟨-, rfl⟩⟩ := call_renameMinor hc
    · exact .of_geom rfl
    · exact .of_dev rfl (h.knotes_of hz)
    · exact .of_other rfl
  | clearPrivate =>
    obtain ⟨-, z, rfl, ⟨pp, hz, rfl⟩ | ⟨dev, kns, hz, rfl⟩ | ⟨-, rfl⟩⟩ := call_clearPrivate hc
    · exact .of_geom rfl
    · exact .of_dev rfl (h.knotes_of hz)
    · exact .of_other rfl
  | kqfilter id f sf =>
    obtain ⟨-, dev, kns, hz, -, ⟨-, -, rfl⟩ | ⟨-, rfl, -, rfl⟩⟩ := call_kqfilter hc
    · exact h
    · exact .of_dev rfl (by simpa [Knote.Ok] using h.knotes_of hz)
  | filterDetach id =>
    obtain ⟨-, -, rfl⟩ := call_filterDetach hc
    exact h.mapKnotes fun _ hk kn hm => hk kn (List.mem_of_mem_filter hm)
  | kqueueClear id =>
    obtain ⟨-, -, rfl⟩ := call_kqueueClear hc
    refine h.mapKnotes fun _ hk kn hm => ?_
    obtain ⟨k, hk', rfl⟩ := List.mem_map.1 hm
    split_ifs <;> exact hk k hk'
  | free =>
    obtain ⟨-, -, rfl⟩ := call_free hc
    refine ⟨fun _ => rfl, fun kn hm => ?_⟩
    rw [free_id]
    rw [free_knotes] at hm
    split_ifs at hm
    · simp at hm
    · exact h.knotesOk kn hm

/-! ## Runs of the calls -/

theorem run_freed (h : s.freed = true) (hr : s.run cs = some s') : s' = s := by
  cases cs with
  | nil => exact (Option.some.inj hr).symm
  | cons c cs => simp [run, h] at hr

/-- A run that ends on a volume not freed passes only through volumes not freed. -/
theorem run_cons_unfreed (hr : s.run (c :: cs) = some s') (hf : s'.freed = false) :
    ∃ r s₁, s.call c = some (r, s₁) ∧ s₁.run cs = some s' ∧ s₁.freed = false := by
  obtain ⟨⟨r, s₁⟩, hc, hr⟩ := Option.bind_eq_some.1 hr
  refine ⟨r, s₁, hc, hr, ?_⟩
  cases h : s₁.freed
  · rfl
  · rw [run_freed h hr] at hf; simp_all

@[simp] theorem isGeom_mapKnotes (g : List Knote → List Knote) :
    (s.mapKnotes g).zso.isGeom = s.zso.isGeom := by
  unfold mapKnotes; split <;> simp [Zso.isGeom, *]

@[simp] theorem isDev_mapKnotes (g : List Knote → List Knote) :
    (s.mapKnotes g).zso.isDev = s.zso.isDev := by
  unfold mapKnotes; split <;> simp [Zso.isDev, *]

/-- No call changes the volume's mode. -/
theorem call_kind (hc : s.call c = some (r, s')) :
    s'.zso.isGeom = s.zso.isGeom ∧ s'.zso.isDev = s.zso.isDev := by
  cases c with
  | firstOpen =>
    obtain ⟨pp, hz, -, -, rfl⟩ := call_firstOpen hc
    simp [Zso.isGeom, Zso.isDev, hz]
  | updateVolsize v =>
    obtain ⟨z, rfl, ⟨pp, hz, ⟨-, -, rfl⟩ | ⟨-, -, rfl⟩⟩ | ⟨dev, kns, hz, -, rfl⟩ | ⟨hz, -, rfl⟩⟩ :=
      call_updateVolsize hc <;> simp [Zso.isGeom, Zso.isDev, hz]
  | resizeEvent =>
    obtain ⟨pp, -, -, hz, -, -, rfl⟩ := call_resizeEvent hc
    simp [Zso.isGeom, Zso.isDev, hz]
  | renameMinor n d =>
    obtain ⟨-, z, rfl, ⟨pp, hz, rfl⟩ | ⟨dev, kns, hz, rfl⟩ | ⟨hz, rfl⟩⟩ := call_renameMinor hc <;>
      simp [Zso.isGeom, Zso.isDev, hz]
  | clearPrivate =>
    obtain ⟨-, z, rfl, ⟨pp, hz, rfl⟩ | ⟨dev, kns, hz, rfl⟩ | ⟨hz, rfl⟩⟩ := call_clearPrivate hc <;>
      simp [Zso.isGeom, Zso.isDev, hz]
  | kqfilter id f sf =>
    obtain ⟨-, dev, kns, hz, -, ⟨-, -, rfl⟩ | ⟨-, -, -, rfl⟩⟩ := call_kqfilter hc <;>
      simp [Zso.isGeom, Zso.isDev, hz]
  | filterDetach id => obtain ⟨-, -, rfl⟩ := call_filterDetach hc; simp [filterDetach]
  | kqueueClear id => obtain ⟨-, -, rfl⟩ := call_kqueueClear hc; simp [kqueueClear]
  | free =>
    obtain ⟨-, -, rfl⟩ := call_free hc
    rcases hz : s.zso with _ | ⟨_ | _, _⟩ | _ <;> simp [free, geomDestroy, Zso.isGeom, Zso.isDev, hz]

theorem kind_run (hr : s.run cs = some s') :
    s'.zso.isGeom = s.zso.isGeom ∧ s'.zso.isDev = s.zso.isDev :=
  run_induct (P := fun t => t.zso.isGeom = s.zso.isGeom ∧ t.zso.isDev = s.zso.isDev)
    (fun h hc => ⟨(call_kind hc).1.trans h.1, (call_kind hc).2.trans h.2⟩) ⟨rfl, rfl⟩ hr

/-- Every state a registered volume reaches satisfies `Ok`. -/
theorem Ok.reach (hs : s.Reach) : s.Ok := by
  obtain ⟨zv, v, m, cs, hr⟩ := hs
  exact run_induct (fun h hc => Ok.call h hc) (Ok.created zv v m) hr

/-! ## Sizes -/

/-- A volume of positive size whose provider, if any, is `Sized`. -/
structure Sized (s : Node) : Prop where
  volsize : 0 < s.volsize
  providerSized : ∀ pp, s.provider = some pp → pp.Sized s.volsize

theorem Sized.created (zv : Zv) (volsize minors : Nat) (hv : 0 < volsize) :
    (created zv volsize minors).Sized := by
  refine ⟨hv, fun pp hp => ?_⟩
  unfold Node.created provider at hp
  split_ifs at hp
  simp only [Option.some.injEq] at hp
  subst hp
  exact ⟨fun _ => rfl, nofun, fun _ => .inl rfl⟩

/-- A node whose provider is `pp` is `Sized` when its size is positive and `pp` is. -/
theorem Sized.of_geom {pp : Provider} (hz : s.zso = .geom (some pp)) (hv : 0 < s.volsize)
    (hp : pp.Sized s.volsize) : s.Sized :=
  ⟨hv, fun pp' h => by simp only [provider, hz, Option.some.injEq] at h; exact h ▸ hp⟩

/-- A node with no provider is `Sized` when its size is positive. -/
theorem Sized.of_none (hz : s.provider = none) (hv : 0 < s.volsize) : s.Sized :=
  ⟨hv, fun _ h => by simp [hz] at h⟩

theorem Sized.provider_of {pp : Provider} (h : s.Sized) (hz : s.zso = .geom (some pp)) :
    pp.Sized s.volsize :=
  h.providerSized pp (by simp [provider, hz])

/-- Every call keeps `Sized`, a resize to a positive size among them. -/
theorem Sized.call (h : s.Sized) (hc : s.call c = some (r, s'))
    (hpos : ∀ v, c = .updateVolsize v → 0 < v) : s'.Sized := by
  cases c with
  | firstOpen =>
    obtain ⟨pp, hz, hpriv, -, rfl⟩ := call_firstOpen hc
    have h' := h.provider_of hz
    refine .of_geom rfl h.volsize ⟨fun h0 => absurd h0 h.volsize.ne', h'.pos, fun _ => .inr ?_⟩
    by_cases hn : pp.pending = []
    · simp [Provider.settled, hn]
    · rw [Provider.settled_of_pending hn]
      exact (h'.size hpriv).resolve_left (mt h'.pending hn)
  | updateVolsize v =>
    have hv := hpos v rfl
    obtain ⟨z, rfl, ⟨pp, hz, ⟨hpriv, -, rfl⟩ | ⟨-, -, rfl⟩⟩ | ⟨dev, kns, hz, -, rfl⟩ | ⟨-, -, rfl⟩⟩ :=
      call_updateVolsize hc
    · have h' := h.provider_of hz
      exact .of_geom hz hv ⟨h'.pending, h'.pos, by simp [hpriv]⟩
    · have h' := h.provider_of hz
      refine .of_geom rfl hv ?_
      split_ifs with h0
      · exact ⟨fun h0' => absurd h0' hv.ne', by simp [h'.pending h0],
          fun _ => .inr (by simp [Provider.settled, h'.pending h0])⟩
      · refine ⟨fun h0' => absurd h0' h0, fun x hx => ?_,
          fun _ => .inr (by simp [Provider.settled, gResizeProvider])⟩
        simp only [gResizeProvider, List.mem_append, List.mem_singleton] at hx
        exact hx.elim (h'.pos x) (· ▸ hv)
    all_goals exact .of_none rfl hv
  | resizeEvent =>
    obtain ⟨pp, size, rest, hz, hp, -, rfl⟩ := call_resizeEvent hc
    have h' := h.provider_of hz
    have hx : 0 < size := h'.pos size (by simp [hp])
    refine .of_geom rfl h.volsize ⟨fun h0 => absurd h0 hx.ne',
      fun x hm => h'.pos x (by simp [hp, hm]), fun hpriv => .inr ?_⟩
    have hne : pp.mediasize ≠ 0 := fun h0 => by simp [h'.pending h0] at hp
    simpa only [Provider.settled, hp, List.getLastD_cons] using (h'.size hpriv).resolve_left hne
  | renameMinor n d =>
    obtain ⟨-, z, rfl, ⟨pp, -, rfl⟩ | ⟨dev, kns, -, rfl⟩ | ⟨-, rfl⟩⟩ := call_renameMinor hc
    · exact .of_geom rfl h.volsize
        ⟨fun h0 => absurd h0 h.volsize.ne', nofun, fun _ => .inr rfl⟩
    all_goals exact .of_none rfl h.volsize
  | clearPrivate =>
    obtain ⟨-, z, rfl, ⟨pp, hz, rfl⟩ | ⟨dev, kns, -, rfl⟩ | ⟨-, rfl⟩⟩ := call_clearPrivate hc
    · have h' := h.provider_of hz
      exact .of_geom rfl h.volsize ⟨h'.pending, h'.pos, nofun⟩
    all_goals exact .of_none rfl h.volsize
  | kqfilter id f sf =>
    obtain ⟨-, dev, kns, hz, -, ⟨-, -, rfl⟩ | ⟨-, -, -, rfl⟩⟩ := call_kqfilter hc
    · exact h
    · exact .of_none rfl h.volsize
  | filterDetach id =>
    obtain ⟨-, -, rfl⟩ := call_filterDetach hc
    exact ⟨by simpa [filterDetach] using h.volsize, by simpa [filterDetach] using h.providerSized⟩
  | kqueueClear id =>
    obtain ⟨-, -, rfl⟩ := call_kqueueClear hc
    exact ⟨by simpa [kqueueClear] using h.volsize, by simpa [kqueueClear] using h.providerSized⟩
  | free =>
    obtain ⟨-, -, rfl⟩ := call_free hc
    exact ⟨by simpa using h.volsize, by simp⟩

/-- A run whose resizes are to positive sizes keeps `Sized`. -/
theorem Sized.run (h : s.Sized) (hr : s.run cs = some s')
    (hcs : ∀ v, Call.updateVolsize v ∈ cs → 0 < v) : s'.Sized := by
  induction cs generalizing s with
  | nil => cases hr; exact h
  | cons c cs ih =>
    obtain ⟨⟨r, s₁⟩, hc, hr⟩ := Option.bind_eq_some.1 hr
    exact ih (h.call hc fun v hv => hcs v (hv ▸ List.mem_cons_self _ _)) hr
      fun v hv => hcs v (List.mem_cons_of_mem _ hv)

/-! ## What points at the volume -/

/-- A node of the volume points at it: the provider's `private` or the cdev's `si_drv2`. -/
def pointed (s : Node) : Bool := s.provider.any (·.priv) || s.cdev.any (·.drv2)

/-- The assertions of `zvol_os_free` hold when no node points at the volume. -/
theorem freeAsserts_eq (h : s.Ok) (hf : s.freed = false) : s.freeAsserts = !s.pointed := by
  rcases hz : s.zso with (_ | pp) | ⟨_ | dev, kns⟩ | _
  · simp [h.geom hz] at hf
  all_goals simp [freeAsserts, pointed, provider, cdev, hz]

/-- The call, if it is `zvol_os_clear_private` or `zvol_os_rename_minor`. -/
def Call.clearOrRename? (c : Call) : Option Call :=
  match c with
  | .clearPrivate | .renameMinor _ _ => some c
  | _ => none

/-- Whether a node points at a volume, GEOM or DEV as the flags say, right after the clear or
rename `c`: a clear unpoints it, a rename makes a node that points at it, in DEV mode when
`make_dev_s` succeeds. -/
def Call.points (geom dev : Bool) : Call → Bool
  | .renameMinor _ d => geom || dev && d == 0
  | _ => false

/-- Only a clear or a rename changes what points at the volume. -/
theorem pointed_call (hc : s.call c = some (r, s')) (hf : s'.freed = false) :
    s'.pointed = c.clearOrRename?.elim s.pointed (Call.points s.zso.isGeom s.zso.isDev) := by
  cases c with
  | firstOpen =>
    obtain ⟨pp, hz, hp, -, rfl⟩ := call_firstOpen hc
    simp [pointed, provider, cdev, hz, Call.clearOrRename?]
  | updateVolsize v =>
    obtain ⟨z, rfl, ⟨pp, hz, ⟨-, -, rfl⟩ | ⟨-, -, rfl⟩⟩ | ⟨dev, kns, hz, -, rfl⟩ | ⟨hz, -, rfl⟩⟩ :=
      call_updateVolsize hc
    · simp [pointed, provider, cdev, hz, Call.clearOrRename?]
    · split_ifs <;> simp [pointed, provider, cdev, hz, gResizeProvider, Call.clearOrRename?]
    all_goals simp [pointed, provider, cdev, hz, Call.clearOrRename?]
  | resizeEvent =>
    obtain ⟨pp, -, -, hz, -, -, rfl⟩ := call_resizeEvent hc
    simp [pointed, provider, cdev, hz, Call.clearOrRename?]
  | renameMinor n d =>
    obtain ⟨-, z, rfl, ⟨pp, hz, rfl⟩ | ⟨dev, kns, hz, rfl⟩ | ⟨hz, rfl⟩⟩ := call_renameMinor hc
    · simp [pointed, provider, cdev, hz, Zso.isGeom, Call.clearOrRename?, Call.points]
    · split_ifs <;>
        simp [pointed, provider, cdev, hz, Zso.isGeom, Zso.isDev, Call.clearOrRename?, Call.points, *]
    · simp [pointed, provider, cdev, hz, Zso.isGeom, Zso.isDev, Call.clearOrRename?, Call.points]
  | clearPrivate =>
    obtain ⟨-, z, rfl, ⟨pp, hz, rfl⟩ | ⟨dev, kns, hz, rfl⟩ | ⟨hz, rfl⟩⟩ := call_clearPrivate hc
    · simp [pointed, provider, cdev, Call.clearOrRename?, Call.points]
    · cases dev <;> simp [pointed, provider, cdev, Call.clearOrRename?, Call.points]
    · simp [pointed, provider, cdev, Call.clearOrRename?, Call.points]
  | kqfilter id f sf =>
    obtain ⟨-, dev, kns, hz, -, ⟨-, -, rfl⟩ | ⟨-, -, -, rfl⟩⟩ := call_kqfilter hc
    · rfl
    · simp [pointed, provider, cdev, hz, Call.clearOrRename?]
  | filterDetach id =>
    obtain ⟨-, -, rfl⟩ := call_filterDetach hc; simp [pointed, filterDetach, Call.clearOrRename?]
  | kqueueClear id =>
    obtain ⟨-, -, rfl⟩ := call_kqueueClear hc; simp [pointed, kqueueClear, Call.clearOrRename?]
  | free => obtain ⟨-, -, rfl⟩ := call_free hc; simp at hf

/-- The last `zvol_os_clear_private` or `zvol_os_rename_minor` of `cs`. -/
def lastClearOrRename : List Call → Option Call
  | [] => none
  | c :: cs => (lastClearOrRename cs).or c.clearOrRename?

theorem lastClearOrRename_cases {cs : List Call} {c : Call} (h : lastClearOrRename cs = some c) :
    c = .clearPrivate ∨ ∃ n d, c = .renameMinor n d := by
  induction cs with
  | nil => cases h
  | cons c' cs ih =>
    rcases Option.or_eq_some.1 h with h | ⟨-, h⟩
    · exact ih h
    · cases c' <;> simp only [Call.clearOrRename?, reduceCtorEq, Option.some.injEq] at h <;>
        subst h <;> simp

theorem elim_or {α β : Type} (o o' : Option α) (b : β) (f : α → β) :
    (o.or o').elim b f = o.elim (o'.elim b f) f := by
  cases o <;> rfl

/-- After a run, a node points at the volume as the last clear or rename left it. -/
theorem pointed_run (hr : s.run cs = some s') (hf : s'.freed = false) :
    s'.pointed = (lastClearOrRename cs).elim s.pointed (Call.points s.zso.isGeom s.zso.isDev) := by
  induction cs generalizing s with
  | nil => cases hr; rfl
  | cons c cs ih =>
    obtain ⟨r, s₁, hc, hr, hf₁⟩ := run_cons_unfreed hr hf
    have hk := call_kind hc
    rw [ih hr, hk.1, hk.2, pointed_call hc hf₁, lastClearOrRename, elim_or]

/-! ## Whether there is a cdev -/

/-- The `make_dev_s` answer of the call, if it is `zvol_os_rename_minor`. -/
def Call.rename? : Call → Option Int
  | .renameMinor _ d => some d
  | _ => none

/-- The `make_dev_s` answer of the last `zvol_os_rename_minor` of `cs`. -/
def lastRename : List Call → Option Int
  | [] => none
  | c :: cs => (lastRename cs).or c.rename?

/-- A rename in DEV mode leaves a cdev exactly when `make_dev_s` succeeds; no other call but the
free changes whether there is one. -/
theorem cdev_call (hc : s.call c = some (r, s')) (hf : s'.freed = false) :
    s'.cdev.isSome = c.rename?.elim s.cdev.isSome fun d => s.zso.isDev && d == 0 := by
  cases c with
  | firstOpen =>
    obtain ⟨pp, hz, -, -, rfl⟩ := call_firstOpen hc
    simp [cdev, hz, Call.rename?]
  | updateVolsize v =>
    obtain ⟨z, rfl, ⟨pp, hz, ⟨-, -, rfl⟩ | ⟨-, -, rfl⟩⟩ | ⟨dev, kns, hz, -, rfl⟩ | ⟨hz, -, rfl⟩⟩ :=
      call_updateVolsize hc <;> simp [cdev, hz, Call.rename?]
  | resizeEvent =>
    obtain ⟨pp, -, -, hz, -, -, rfl⟩ := call_resizeEvent hc
    simp [cdev, hz, Call.rename?]
  | renameMinor n d =>
    obtain ⟨-, z, rfl, ⟨pp, hz, rfl⟩ | ⟨dev, kns, hz, rfl⟩ | ⟨hz, rfl⟩⟩ := call_renameMinor hc
    · simp [cdev, hz, Zso.isDev, Call.rename?]
    · split_ifs <;> simp [cdev, hz, Zso.isDev, Call.rename?, *]
    · simp [cdev, hz, Zso.isDev, Call.rename?]
  | clearPrivate =>
    obtain ⟨-, z, rfl, ⟨pp, hz, rfl⟩ | ⟨dev, kns, hz, rfl⟩ | ⟨hz, rfl⟩⟩ := call_clearPrivate hc <;>
      simp [cdev, hz, Call.rename?]
  | kqfilter id f sf =>
    obtain ⟨-, dev, kns, hz, -, ⟨-, -, rfl⟩ | ⟨-, -, -, rfl⟩⟩ := call_kqfilter hc
    · rfl
    · simp [cdev, hz, Call.rename?]
  | filterDetach id => obtain ⟨-, -, rfl⟩ := call_filterDetach hc; simp [filterDetach, Call.rename?]
  | kqueueClear id => obtain ⟨-, -, rfl⟩ := call_kqueueClear hc; simp [kqueueClear, Call.rename?]
  | free => obtain ⟨-, -, rfl⟩ := call_free hc; simp at hf

/-- After a run, there is a cdev as the last rename left it. -/
theorem cdev_run (hr : s.run cs = some s') (hf : s'.freed = false) :
    s'.cdev.isSome = (lastRename cs).elim s.cdev.isSome fun d => s.zso.isDev && d == 0 := by
  induction cs generalizing s with
  | nil => cases hr; rfl
  | cons c cs ih =>
    obtain ⟨r, s₁, hc, hr, hf₁⟩ := run_cons_unfreed hr hf
    rw [ih hr, (call_kind hc).2, cdev_call hc hf₁, lastRename, elim_or]

/-! ## Knotes -/

/-- The knote `id` on the volume's list. -/
def knote (s : Node) (id : Nat) : Option Knote := s.knotes.find? (·.id == id)

theorem or_note_ne_zero (x : Nat) : x ||| NOTE_ATTRIB ≠ 0 := by
  intro h
  have := congrArg (Nat.testBit · 3) h
  simp only [Nat.testBit_or, Nat.zero_testBit, Bool.or_eq_false_iff] at this
  exact absurd this.2 (by decide)

/-- A call other than the detach, the clear of kqueue and the free keeps knote `id`, and
`zvol_os_update_volsize` makes it report an event. -/
theorem knote_call (h : s.Ok) (hc : s.call c = some (r, s')) {kn : Knote}
    (hkn : s.knote id = some kn) (h1 : c ≠ .filterDetach id) (h2 : c ≠ .kqueueClear id)
    (h3 : c ≠ .free) :
    ∃ kn', s'.knote id = some kn' ∧ (kn'.fflags != 0) = (kn.fflags != 0 || c.isUpdateVolsize) := by
  have hid : kn.id = id := by simpa using List.find?_some hkn
  have hmem := List.mem_of_find?_eq_some hkn
  cases c with
  | firstOpen =>
    obtain ⟨pp, hz, -, -, rfl⟩ := call_firstOpen hc
    simp [knote, knotes, hz] at hkn
  | updateVolsize v =>
    obtain ⟨z, rfl, ⟨pp, hz, -⟩ | ⟨dev, kns, hz, -, rfl⟩ | ⟨hz, -, rfl⟩⟩ := call_updateVolsize hc
    · simp [knote, knotes, hz] at hkn
    · have hs := (h.knotesOk kn hmem).1
      simp only [knote, knotes, hz] at hkn
      refine ⟨(filterVnode kn NOTE_ATTRIB).1, by simp [knote, knotes, filterVnode, Function.comp_def, hkn], ?_⟩
      simp [filterVnode, hs, Call.isUpdateVolsize, or_note_ne_zero]
    · simp [knote, knotes, hz] at hkn
  | resizeEvent =>
    obtain ⟨pp, -, -, hz, -, -, rfl⟩ := call_resizeEvent hc
    simp [knote, knotes, hz] at hkn
  | renameMinor n d =>
    obtain ⟨-, z, rfl, ⟨pp, hz, rfl⟩ | ⟨dev, kns, hz, rfl⟩ | ⟨hz, rfl⟩⟩ := call_renameMinor hc
    · simp [knote, knotes, hz] at hkn
    · exact ⟨kn, by simpa [knote, knotes, hz] using hkn, by simp [Call.isUpdateVolsize]⟩
    · simp [knote, knotes, hz] at hkn
  | clearPrivate =>
    obtain ⟨-, z, rfl, ⟨pp, hz, rfl⟩ | ⟨dev, kns, hz, rfl⟩ | ⟨hz, rfl⟩⟩ := call_clearPrivate hc
    · simp [knote, knotes, hz] at hkn
    · exact ⟨kn, by simpa [knote, knotes, hz] using hkn, by simp [Call.isUpdateVolsize]⟩
    · simp [knote, knotes, hz] at hkn
  | kqfilter id' f sf =>
    obtain ⟨hfresh, dev, kns, hz, -, ⟨-, -, rfl⟩ | ⟨-, -, -, rfl⟩⟩ := call_kqfilter hc
    · exact ⟨kn, hkn, by simp [Call.isUpdateVolsize]⟩
    · have hne : id' ≠ id := fun he => hfresh kn hmem (hid.trans he.symm)
      simp only [knote, knotes, hz] at hkn
      exact ⟨kn, by simp [knote, knotes, hne, hkn], by simp [Call.isUpdateVolsize]⟩
  | filterDetach id' =>
    obtain ⟨-, -, rfl⟩ := call_filterDetach hc
    have hne : id' ≠ id := fun he => h1 (he ▸ rfl)
    refine ⟨kn, ?_, by simp [Call.isUpdateVolsize]⟩
    rw [knote, filterDetach, knotes_mapKnotes rfl, List.find?_filter, ← hkn, knote]
    congr 1
    funext a
    by_cases ha : a.id = id <;> simp [ha, hne.symm]
  | kqueueClear id' =>
    obtain ⟨-, -, rfl⟩ := call_kqueueClear hc
    have hne : id' ≠ id := fun he => h2 (he ▸ rfl)
    refine ⟨kn, ?_, by simp [Call.isUpdateVolsize]⟩
    rw [knote, kqueueClear, knotes_mapKnotes rfl, List.find?_map]
    have : ((·.id == id) ∘ fun kn : Knote => if kn.id = id' then { kn with fflags := 0 } else kn) =
        (·.id == id) := by
      funext a; by_cases ha : a.id = id' <;> simp [ha]
    rw [this, ← knote, hkn]
    simp [hid, hne.symm]
  | free => exact absurd rfl h3

/-- Along a run without the detach, the clear of kqueue or the free, knote `id` stays, and
reports an event once `zvol_os_update_volsize` has run. -/
theorem knote_run (h : s.Ok) (hr : s.run cs = some s') {kn : Knote} (hkn : s.knote id = some kn)
    (hcs : ∀ c ∈ cs, c ≠ .filterDetach id ∧ c ≠ .kqueueClear id ∧ c ≠ .free) :
    ∃ kn', s'.knote id = some kn' ∧
      (kn'.fflags != 0) = (kn.fflags != 0 || cs.any Call.isUpdateVolsize) := by
  induction cs generalizing s kn with
  | nil => cases hr; exact ⟨kn, hkn, by simp⟩
  | cons c cs ih =>
    obtain ⟨⟨r, s₁⟩, hc, hr⟩ := Option.bind_eq_some.1 hr
    obtain ⟨h1, h2, h3⟩ := hcs c (List.mem_cons_self c cs)
    obtain ⟨kn₁, hk₁, he₁⟩ := knote_call h hc hkn h1 h2 h3
    obtain ⟨kn', hk', he'⟩ := ih (h.call hc) hr hk₁ fun c' hc' => hcs c' (List.mem_cons_of_mem c hc')
    exact ⟨kn', hk', by rw [he', he₁, List.any_cons, Bool.or_assoc]⟩

theorem any_isUpdateVolsize (cs : List Call) :
    cs.any Call.isUpdateVolsize = true ↔ ∃ v, Call.updateVolsize v ∈ cs := by
  rw [List.any_eq_true]
  constructor
  · rintro ⟨c, hc, hu⟩
    cases c <;> simp only [Call.isUpdateVolsize, Bool.false_eq_true] at hu
    exact ⟨_, hc⟩
  · rintro ⟨v, hv⟩
    exact ⟨_, hv, rfl⟩

/-! ## Over every run -/

/-- The assertions of `zvol_os_free` on the nodes, `pp->private == NULL` and
`si_drv2 == NULL`, hold after a run of a GEOM or DEV volume exactly when the run's last clear or
rename is `zvol_os_clear_private`, or, in DEV mode, a rename whose `make_dev_s` failed: a rename
after the removal's clear points a new node back at the volume. -/
theorem free_asserts_iff (zv : Zv) (volsize minors : Nat) (cs : List Call) {s : Node}
    (hr : (created zv volsize minors).run cs = some s) (hf : s.freed = false)
    (hm : zv.volmode = ZFS_VOLMODE_GEOM ∨ zv.volmode = ZFS_VOLMODE_DEV) :
    s.freeAsserts = true ↔ lastClearOrRename cs = some .clearPrivate ∨
      zv.volmode = ZFS_VOLMODE_DEV ∧ ∃ n d, d ≠ 0 ∧ lastClearOrRename cs = some (.renameMinor n d) := by
  rw [freeAsserts_eq (Ok.reach ⟨zv, volsize, minors, cs, hr⟩) hf, pointed_run hr hf]
  have hgd : ZFS_VOLMODE_GEOM ≠ ZFS_VOLMODE_DEV := by decide
  rcases h : lastClearOrRename cs with _ | c
  · rcases hm with hm | hm <;> simp [created, pointed, provider, cdev, hm, hgd.symm]
  · rcases lastClearOrRename_cases h with rfl | ⟨n, d, rfl⟩
    · simp [Call.points]
    · rcases hm with hm | hm <;> simp [Call.points, created, Zso.isGeom, Zso.isDev, hm, hgd, hgd.symm]

/-- A GEOM volume renamed, then cleared. -/
theorem free_asserts_iff_cleared :
    let zv : Zv := ⟨0, "a", 0, ZFS_VOLMODE_GEOM⟩
    let cs := [Call.renameMinor "b" 0, .clearPrivate]
    let s := ((created zv 5 0).run cs).getD (created zv 5 0)
    (s.freeAsserts = true ↔ lastClearOrRename cs = some .clearPrivate ∨
      zv.volmode = ZFS_VOLMODE_DEV ∧ ∃ n d, d ≠ 0 ∧ lastClearOrRename cs = some (.renameMinor n d)) :=
  free_asserts_iff ⟨0, "a", 0, ZFS_VOLMODE_GEOM⟩ 5 0 _ rfl rfl (.inl rfl)

/-- A knote attached, or last cleared by kqueue, reports an event through `zvol_filter_vnode`
after a run exactly when `zvol_os_update_volsize` ran in it: the knote stays on the list and
every update posts `NOTE_ATTRIB` to it, and nothing else does. -/
theorem knote_fires_iff_resized (hs : s.Reach) {kn : Knote} (hkn : s.knote id = some kn)
    (h0 : kn.fflags = 0) (hcs : ∀ c ∈ cs, c ≠ .filterDetach id ∧ c ≠ .kqueueClear id ∧ c ≠ .free)
    (hr : s.run cs = some s') :
    ∃ kn', s'.knote id = some kn' ∧ ((filterVnode kn' 0).2 = true ↔ ∃ v, Call.updateVolsize v ∈ cs) := by
  obtain ⟨kn', hk', he⟩ := knote_run (Ok.reach hs) hr hkn hcs
  refine ⟨kn', hk', ?_⟩
  rw [← any_isUpdateVolsize]
  simpa [filterVnode, h0] using congrArg (· = true) he

/-- A DEV volume with knote 0 attached, resized once. -/
theorem knote_fires_iff_resized_once :
    let zv : Zv := ⟨0, "a", 0, ZFS_VOLMODE_DEV⟩
    let s := ((created zv 5 0).run [.kqfilter 0 EVFILT_VNODE NOTE_ATTRIB]).getD (created zv 5 0)
    let s' := (s.run [.updateVolsize 6]).getD s
    ∃ kn', s'.knote 0 = some kn' ∧
      ((filterVnode kn' 0).2 = true ↔ ∃ v, Call.updateVolsize v ∈ [Call.updateVolsize 6]) :=
  knote_fires_iff_resized ⟨⟨0, "a", 0, ZFS_VOLMODE_DEV⟩, 5, 0, [.kqfilter 0 EVFILT_VNODE NOTE_ATTRIB], rfl⟩
    rfl rfl
    (by decide) rfl

/-- `zvol_os_free` of a DEV volume frees it with knotes still on its list exactly when knotes
were attached and the run's last `zvol_os_rename_minor` had `make_dev_s` fail: with no cdev, the
free skips `knlist_clear`, and each knote left keeps the freed volume as its `kn_hook`, which
`zvol_filter_detach` follows when kqueue drops it. -/
theorem knotes_outlive_free (zv : Zv) (hdev : zv.volmode = ZFS_VOLMODE_DEV) (volsize minors : Nat)
    (cs : List Call) {s s' : Node} (hr : (created zv volsize minors).run cs = some s)
    (hfree : s.call .free = some (0, s')) :
    s'.freed = true ∧ (s'.knotes ≠ [] ↔ s.knotes ≠ [] ∧ ∃ d, d ≠ 0 ∧ lastRename cs = some d) ∧
      ∀ kn ∈ s'.knotes, kn.hook = s'.id := by
  have hk := (Ok.reach ⟨zv, volsize, minors, cs, hr⟩).call hfree
  obtain ⟨hf, -, rfl⟩ := call_free hfree
  refine ⟨rfl, ?_, fun kn hm => (hk.knotesOk kn hm).2⟩
  have hgd : ZFS_VOLMODE_DEV ≠ ZFS_VOLMODE_GEOM := by decide
  rw [free_knotes, cdev_run hr hf]
  rcases lastRename cs with _ | d <;> simp [created, cdev, Zso.isDev, hdev, hgd, and_comm]

/-- A DEV volume with a knote, renamed with `make_dev_s` failing, cleared and freed. -/
theorem knotes_outlive_free_failed_rename :
    let zv : Zv := ⟨0, "a", 0, ZFS_VOLMODE_DEV⟩
    let cs := [Call.kqfilter 0 EVFILT_VNODE NOTE_ATTRIB, .renameMinor "b" 1, .clearPrivate]
    let s := ((created zv 5 0).run cs).getD (created zv 5 0)
    let s' := free s
    s'.freed = true ∧ (s'.knotes ≠ [] ↔ s.knotes ≠ [] ∧ ∃ d, d ≠ 0 ∧ lastRename cs = some d) ∧
      ∀ kn ∈ s'.knotes, kn.hook = s'.id :=
  knotes_outlive_free ⟨0, "a", 0, ZFS_VOLMODE_DEV⟩ rfl 5 0 _ rfl rfl

end Node

end Zvol.Minor
