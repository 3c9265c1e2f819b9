import Zvol.Basic

/-!
# Creating a minor

`zvol_os_create_minor` and `zvol_alloc`, one call, against the answers of their collaborators
(`Env`) and the resources they take and give back (`Res`): the GEOM topology lock, the datasets
owned through `dmu_objset_own`, the `zvol_state_t`, `zvol_state_os`, GEOM providers and cdevs
allocated, and the registry of volumes with `zvol_minors`.

The registry is common code (`zvol_state_list`, the hash table `zvol_htable`, `zvol_insert`,
`zvol_find_by_name_hash`, `zvol_name_hash`): it is modelled as this file uses it, with the name
hash a parameter (`nameHash`) and the chains of the table holding the volumes by identity. The
call is cut at the points where other threads can run between its parts (`createLookup`,
`objsetOwn`, `createSetup`, `createDisown`, `createInsert`); `Zvol.Minor.Registry` runs them on
several threads.

* `create_minor_kstats_leak`: when `dataset_kstats_create` fails, the call returns its error
  and leaves the volume allocated, and in GEOM mode its provider allocated and the topology lock
  held.
* `create_minor_outcomes`: on every other path the call gives back the topology lock and the
  dataset; an error leaves nothing allocated and the registry as it was, and 0, unless
  `zvol_inhibit_dev` is set, registers one volume of the name and counts it in `zvol_minors`.
* `createMinorLocks`: the lock operations of the call. It takes `g_topology_lock` holding
  nothing and `zvol_state_lock` only once it has given the topology lock back
  (`createMinorLocks_ordered`), and it ends holding the topology lock exactly when the
  resources say so (`createMinorLocks_held`). Successive calls of one thread
  (`createMinorsLocks`) keep the order while no call fails in `dataset_kstats_create` in GEOM
  mode (`createMinorsLocks_ordered`); a call made holding the topology lock keeps it only if it
  takes no lock (`createMinorLocks_ordered_topology`).
-/

namespace Zvol.Minor

/-! ## Volume modes -/

def ZFS_VOLMODE_DEFAULT : Nat := 0
def ZFS_VOLMODE_GEOM : Nat := 1
def ZFS_VOLMODE_DEV : Nat := 2
def ZFS_VOLMODE_NONE : Nat := 3

/-! ## The registry -/

/-- `ZVOL_HT_SIZE`, the number of chains of `zvol_htable`. -/
def ZVOL_HT_SIZE : Nat := 1024

/-- `ZVOL_HT_HEAD(hash)`: the chain of `zvol_htable` for `hash`. -/
def htHead (hash : Nat) : Nat := hash % ZVOL_HT_SIZE

/-- A `zvol_state_t` as the registry sees it: which allocation it is, `zv_name`, `zv_hash` and
`zv_volmode`. -/
structure Zv where
  id : Nat
  name : String
  hash : Nat
  volmode : Nat
  deriving DecidableEq, Repr

/-- `zvol_state_list`, newest first, and the chains of `zvol_htable`: the ids of the volumes
linked in each (`zv_hlink`). -/
structure Reg where
  list : List Zv := []
  buckets : Nat → List Nat := fun _ => []

/-- `zvol_insert`: the volume goes at the head of the list and of the chain of its hash. -/
def zvolInsert (r : Reg) (zv : Zv) : Reg where
  list := zv :: r.list
  buckets b := if b = htHead zv.hash then zv.id :: r.buckets b else r.buckets b

/-- `zvol_find_by_name_hash(name, hash, RW_NONE)`: the first volume of the chain of `hash`
whose hash is `hash` and whose name is `name`. -/
def findByNameHash (r : Reg) (name : String) (hash : Nat) : Option Zv :=
  (r.buckets (htHead hash)).findSome? fun id =>
    (r.list.find? (·.id == id)).filter fun zv => zv.hash == hash && zv.name == name

/-- The registry part of `zvol_os_rename_minor`: the volume `id` takes the hash of `newname`,
leaves its chain (`hlist_del`) for the head of the chain of the new hash, and takes the name. -/
def renameMinor (nameHash : String → Nat) (r : Reg) (id : Nat) (newname : String) : Reg where
  list := r.list.map fun zv =>
    if zv.id = id then { zv with name := newname, hash := nameHash newname } else zv
  buckets b :=
    let bs := (r.buckets b).filter (· != id)
    if b = htHead (nameHash newname) then id :: bs else bs

/-! ## One call -/

/-- What the creation of minors takes and gives back. -/
structure Res where
  reg : Reg := {}
  /-- `zvol_minors`, a `uint32_t`. -/
  minors : Nat := 0
  /-- The datasets owned (`dmu_objset_own`). -/
  owned : List String := []
  /-- `g_topology_lock` is held. -/
  topology : Bool := false
  /-- `zvol_state_t`, `struct zvol_state_os`, GEOM providers and cdevs allocated. -/
  zvs : Nat := 0
  zsos : Nat := 0
  providers : Nat := 0
  cdevs : Nat := 0
  /-- The id of the next `zvol_state_t` allocated. -/
  next : Nat := 0

/-- The answers of the collaborators of one `zvol_os_create_minor`. -/
structure Env where
  /-- `zvol_inhibit_dev`. -/
  inhibitDev : Bool := false
  /-- `dmu_objset_own`, when no one owns the dataset. -/
  own : Int := 0
  /-- `dmu_object_info(os, ZVOL_OBJ, doi)`. -/
  objectInfo : Int := 0
  /-- `zap_lookup(os, ZVOL_ZAP_OBJ, "size", ...)`. -/
  zapLookup : Int := 0
  /-- The `volmode` property, or `none` if `dsl_prop_get_integer` fails. -/
  volmodeProp : Option Nat := some ZFS_VOLMODE_DEFAULT
  /-- `zvol_volmode`. -/
  volmodeTunable : Nat := ZFS_VOLMODE_GEOM
  /-- `make_dev_s`. -/
  makeDev : Int := 0
  /-- `dataset_kstats_create`. -/
  kstats : Int := 0
  deriving DecidableEq, Repr

/-- The mode `zvol_alloc` gives the volume, or `none` if it returns `NULL` before allocating. -/
def allocVolmode (env : Env) : Option Nat :=
  match env.volmodeProp with
  | none => none
  | some v =>
    let volmode := if v = ZFS_VOLMODE_DEFAULT then env.volmodeTunable else v
    if volmode = ZFS_VOLMODE_NONE then none else some volmode

/-- The resources after `zvol_alloc` has allocated a volume in mode `v`: the `zvol_state_t` and
its `zvol_state_os`, and in GEOM mode a provider, with the topology lock, in DEV mode a cdev. -/
def Res.withVolume (res : Res) (v : Nat) : Res :=
  { res with
    zvs := res.zvs + 1
    zsos := res.zsos + 1
    next := res.next + 1
    topology := res.topology || v == ZFS_VOLMODE_GEOM
    providers := res.providers + if v = ZFS_VOLMODE_GEOM then 1 else 0
    cdevs := res.cdevs + if v = ZFS_VOLMODE_DEV then 1 else 0 }

/-- `zvol_alloc(name, ...)`: the new volume, or `none` for `NULL`. In GEOM mode it returns with
`g_topology_lock` held. -/
def zvolAlloc (nameHash : String → Nat) (env : Env) (name : String) (res : Res) :
    Option Zv × Res :=
  match allocVolmode env with
  | none => (none, res)
  | some volmode =>
    let zv : Zv := ⟨res.next, name, nameHash name, volmode⟩
    let res := { res with zvs := res.zvs + 1, zsos := res.zsos + 1, next := res.next + 1 }
    if volmode = ZFS_VOLMODE_GEOM then
      (some zv, { res with topology := true, providers := res.providers + 1 })
    else if volmode = ZFS_VOLMODE_DEV then
      if env.makeDev ≠ 0 then (none, { res with zvs := res.zvs - 1, zsos := res.zsos - 1 })
      else (some zv, { res with cdevs := res.cdevs + 1 })
    else (some zv, res)

/-- The setup reaches `zvol_alloc` in GEOM mode, which takes `g_topology_lock`. -/
def needsTopology (env : Env) : Bool :=
  env.objectInfo == 0 && env.zapLookup == 0 && allocVolmode env == some ZFS_VOLMODE_GEOM

/-- `zvol_os_create_minor` up to `dmu_objset_own`: what it returns if it returns there, with
`zvol_inhibit_dev` set or a volume of the name registered. -/
def createLookup (nameHash : String → Nat) (env : Env) (name : String) (reg : Reg) :
    Option Int :=
  if env.inhibitDev then some 0
  else if (findByNameHash reg name (nameHash name)).isSome then some EEXIST
  else none

/-- `dmu_objset_own`: a dataset has one owner at a time. -/
def objsetOwn (env : Env) (name : String) (res : Res) : Int × Res :=
  if name ∈ res.owned then (EBUSY, res)
  else if env.own ≠ 0 then (env.own, res)
  else (0, { res with owned := name :: res.owned })

/-- From `dmu_object_info` to `out_dmu_objset_disown:`: the error and the volume made. The ZIL
replay and the prefetch change none of the resources. -/
def createSetup (nameHash : String → Nat) (env : Env) (name : String) (res : Res) :
    Int × Option Zv × Res :=
  if env.objectInfo ≠ 0 then (env.objectInfo, none, res)
  else if env.zapLookup ≠ 0 then (env.zapLookup, none, res)
  else
    match zvolAlloc nameHash env name res with
    | (none, res) => (EAGAIN, none, res)
    | (some zv, res) => (env.kstats, some zv, res)

/-- `out_dmu_objset_disown:` `dmu_objset_disown`, then, if there is no error and the volume is
in GEOM mode, `g_topology_unlock`. -/
def createDisown (name : String) (error : Int) (zv : Option Zv) (res : Res) : Res :=
  let res := { res with owned := res.owned.erase name }
  match zv with
  | some zv =>
    if error = 0 ∧ zv.volmode = ZFS_VOLMODE_GEOM then { res with topology := false } else res
  | none => res

/-- `out_doi:` if there is no error and the volume is not in mode `NONE`, `zvol_insert` and
`zvol_minors++` under `zvol_state_lock`. -/
def createInsert (error : Int) (zv : Option Zv) (res : Res) : Res :=
  match zv with
  | some zv =>
    if error = 0 ∧ zv.volmode ≠ ZFS_VOLMODE_NONE then
      { res with reg := zvolInsert res.reg zv, minors := toU32 (res.minors + 1) }
    else res
  | none => res

/-- `zvol_os_create_minor(name)`: the error returned and the resources after. -/
def createMinor (nameHash : String → Nat) (env : Env) (name : String) (res : Res) : Int × Res :=
  match createLookup nameHash env name res.reg with
  | some r => (r, res)
  | none =>
    let (error, res) := objsetOwn env name res
    if error ≠ 0 then (error, res)
    else
      let (error, zv, res) := createSetup nameHash env name res
      (error, createInsert error zv (createDisown name error zv res))

/-- `zvol_busy()`: some volume is counted in `zvol_minors`. -/
def zvolBusy (minors : Nat) : Bool := minors != 0

/-! ## What each part does -/

section Parts

variable {nameHash : String → Nat} {env : Env} {name : String} {res : Res}

theorem allocVolmode_ne_none {v : Nat} (h : allocVolmode env = some v) : v ≠ ZFS_VOLMODE_NONE := by
  unfold allocVolmode at h
  split at h
  · cases h
  · simp only at h
    split_ifs at h with h1 h2 <;> simp_all

theorem zvolAlloc_some {v : Nat} (hv : allocVolmode env = some v)
    (hdev : v = ZFS_VOLMODE_DEV → env.makeDev = 0) :
    zvolAlloc nameHash env name res = (some ⟨res.next, name, nameHash name, v⟩, res.withVolume v) := by
  unfold zvolAlloc Res.withVolume
  rw [hv]
  by_cases hg : v = ZFS_VOLMODE_GEOM
  · subst hg
    simp [ZFS_VOLMODE_GEOM, ZFS_VOLMODE_DEV]
  · by_cases hd : v = ZFS_VOLMODE_DEV
    · subst hd
      simp [hdev rfl, ZFS_VOLMODE_GEOM, ZFS_VOLMODE_DEV]
    · simp [hg, hd]

theorem objsetOwn_ok (h : (objsetOwn env name res).1 = 0) :
    (objsetOwn env name res).2 = { res with owned := name :: res.owned } := by
  unfold objsetOwn at *
  split_ifs at * <;> simp_all [EBUSY]

theorem objsetOwn_fail (h : (objsetOwn env name res).1 ≠ 0) : (objsetOwn env name res).2 = res := by
  unfold objsetOwn at *
  split_ifs at * <;> simp_all

/-- Past `dmu_objset_own`, either no volume is made and the error is set, with the resources as
they were but for the id, or `zvol_alloc` made one and the error is `dataset_kstats_create`'s. -/
theorem createSetup_cases :
    let r := createSetup nameHash env name res
    (r.2.1 = none ∧ r.1 ≠ 0 ∧ { r.2.2 with next := res.next } = res) ∨
      ∃ v, env.objectInfo = 0 ∧ env.zapLookup = 0 ∧ allocVolmode env = some v ∧
        v ≠ ZFS_VOLMODE_NONE ∧
        r = (env.kstats, some ⟨res.next, name, nameHash name, v⟩, res.withVolume v) := by
  unfold createSetup
  split_ifs with hi hz
  · exact .inl ⟨rfl, hi, rfl⟩
  · exact .inl ⟨rfl, hz, rfl⟩
  · cases hv : allocVolmode env with
    | none =>
      unfold zvolAlloc
      rw [hv]
      exact .inl ⟨rfl, (by decide : EAGAIN ≠ 0), rfl⟩
    | some v =>
      by_cases hd : v = ZFS_VOLMODE_DEV ∧ env.makeDev ≠ 0
      · have : zvolAlloc nameHash env name res = (none, { res with next := res.next + 1 }) := by
          simp [zvolAlloc, hv, hd.1, hd.2, ZFS_VOLMODE_GEOM, ZFS_VOLMODE_DEV]
        rw [this]
        exact .inl ⟨rfl, (by decide : EAGAIN ≠ 0), rfl⟩
      · rw [zvolAlloc_some hv (fun h => by simpa [h] using hd)]
        exact .inr ⟨v, not_not.1 hi, not_not.1 hz, rfl, allocVolmode_ne_none hv, rfl⟩

@[simp] theorem objsetOwn_reg : (objsetOwn env name res).2.reg = res.reg := by
  unfold objsetOwn; split_ifs <;> rfl

@[simp] theorem objsetOwn_minors : (objsetOwn env name res).2.minors = res.minors := by
  unfold objsetOwn; split_ifs <;> rfl

@[simp] theorem createDisown_reg (error : Int) (zv : Option Zv) :
    (createDisown name error zv res).reg = res.reg := by
  unfold createDisown; split <;> (try split_ifs) <;> rfl

@[simp] theorem createDisown_minors (error : Int) (zv : Option Zv) :
    (createDisown name error zv res).minors = res.minors := by
  unfold createDisown; split <;> (try split_ifs) <;> rfl

@[simp] theorem createDisown_topology_of_ne (error : Int) (zv : Option Zv) (h : error ≠ 0) :
    (createDisown name error zv res).topology = res.topology := by
  unfold createDisown; split <;> (try split_ifs) <;> simp_all

/-- `out_doi:` registers the volume made, or nothing. -/
theorem createInsert_reg (error : Int) (zv : Option Zv) :
    (createInsert error zv res).reg = res.reg ∨
      ∃ z, zv = some z ∧ (createInsert error zv res).reg = zvolInsert res.reg z := by
  unfold createInsert; split <;> (try split_ifs) <;> simp

theorem createSetup_reg : (createSetup nameHash env name res).2.2.reg = res.reg := by
  rcases @createSetup_cases nameHash env name res with ⟨-, -, h⟩ | ⟨v, -, -, -, -, h⟩
  · exact (congrArg Res.reg h : _)
  · rw [h]; rfl

theorem createSetup_minors : (createSetup nameHash env name res).2.2.minors = res.minors := by
  rcases @createSetup_cases nameHash env name res with ⟨-, -, h⟩ | ⟨v, -, -, -, -, h⟩
  · exact (congrArg Res.minors h : _)
  · rw [h]; rfl

/-- The volume the setup makes has the name and its hash. -/
theorem createSetup_volume {zv : Zv} (h : (createSetup nameHash env name res).2.1 = some zv) :
    zv.name = name ∧ zv.hash = nameHash name := by
  rcases @createSetup_cases nameHash env name res with ⟨hz, -, -⟩ | ⟨v, -, -, -, -, he⟩
  · rw [hz] at h; cases h
  · rw [he] at h; cases h; exact ⟨rfl, rfl⟩

/-- Reaching `zvol_alloc` in GEOM mode, the setup makes a GEOM volume. -/
theorem createSetup_geom (h : needsTopology env = true) :
    createSetup nameHash env name res =
      (env.kstats, some ⟨res.next, name, nameHash name, ZFS_VOLMODE_GEOM⟩,
        res.withVolume ZFS_VOLMODE_GEOM) := by
  simp only [needsTopology, Bool.and_eq_true, beq_iff_eq] at h
  obtain ⟨⟨hi, hz⟩, hv⟩ := h
  simp only [createSetup, hi, hz, ne_eq, not_true_eq_false, if_false,
    zvolAlloc_some hv (fun h => absurd h (by decide))]

/-- A GEOM volume is made only past `zvol_alloc` in GEOM mode. -/
theorem needsTopology_of_geom {zv : Zv} (hz : (createSetup nameHash env name res).2.1 = some zv)
    (hg : zv.volmode = ZFS_VOLMODE_GEOM) : needsTopology env = true := by
  rcases @createSetup_cases nameHash env name res with ⟨h, -, -⟩ | ⟨v, hi, hzap, hv, -, he⟩
  · rw [h] at hz; cases hz
  · rw [he] at hz
    cases hz
    simp [needsTopology, hi, hzap, hv, ← hg]

theorem createLookup_zero (h : createLookup nameHash env name res.reg = some 0) :
    env.inhibitDev = true := by
  unfold createLookup at h
  split_ifs at h with h1 <;> simp_all [EEXIST]

end Parts

/-! ## The call -/

/-- The path where `dataset_kstats_create` fails: the call returns its error, with the volume
`zvol_alloc` made still allocated, out of the registry, and the dataset given back. -/
theorem createMinor_kstats_fail (nameHash : String → Nat) (env : Env) (name : String) (res : Res)
    (v : Nat) (hinh : env.inhibitDev = false)
    (hfind : findByNameHash res.reg name (nameHash name) = none) (hown : name ∉ res.owned)
    (h0 : env.own = 0) (hinfo : env.objectInfo = 0) (hzap : env.zapLookup = 0)
    (hv : allocVolmode env = some v) (hdev : v = ZFS_VOLMODE_DEV → env.makeDev = 0)
    (hk : env.kstats ≠ 0) :
    createMinor nameHash env name res = (env.kstats, { res.withVolume v with owned := res.owned }) := by
  have hl : createLookup nameHash env name res.reg = none := by simp [createLookup, hinh, hfind]
  have ho : objsetOwn env name res = (0, { res with owned := name :: res.owned }) := by
    simp [objsetOwn, hown, h0]
  have hs : createSetup nameHash env name { res with owned := name :: res.owned } =
      (env.kstats, some ⟨res.next, name, nameHash name, v⟩,
        ({ res with owned := name :: res.owned } : Res).withVolume v) := by
    simp only [createSetup, hinfo, hzap, ne_eq, not_true_eq_false, if_false, zvolAlloc_some hv hdev]
  simp [createMinor, hl, ho, hs, createDisown, createInsert, hk, Res.withVolume]

/-- When `dataset_kstats_create` fails, `zvol_os_create_minor` jumps to
`out_dmu_objset_disown:` with the error set, which skips `g_topology_unlock`, and returns with the
volume allocated and not registered: its `zvol_state_t` and `zvol_state_os`, in GEOM mode its
provider, with the topology lock still held, in DEV mode its cdev. -/
theorem create_minor_kstats_leak (nameHash : String → Nat) (env : Env) (name : String) (res : Res)
    (v : Nat) (hinh : env.inhibitDev = false)
    (hfind : findByNameHash res.reg name (nameHash name) = none) (hown : name ∉ res.owned)
    (h0 : env.own = 0) (hinfo : env.objectInfo = 0) (hzap : env.zapLookup = 0)
    (hv : allocVolmode env = some v) (hdev : v = ZFS_VOLMODE_DEV → env.makeDev = 0)
    (hk : env.kstats ≠ 0) :
    let r := createMinor nameHash env name res
    r.1 = env.kstats ∧ r.2.zvs = res.zvs + 1 ∧ r.2.zsos = res.zsos + 1 ∧
      (v = ZFS_VOLMODE_GEOM → r.2.topology = true ∧ r.2.providers = res.providers + 1) ∧
      (v = ZFS_VOLMODE_DEV → r.2.cdevs = res.cdevs + 1) ∧
      r.2.reg = res.reg ∧ r.2.minors = res.minors := by
  rw [createMinor_kstats_fail nameHash env name res v hinh hfind hown h0 hinfo hzap hv hdev hk]
  exact ⟨rfl, rfl, rfl, fun h => by simp [Res.withVolume, h], fun h => by simp [Res.withVolume, h],
    rfl, rfl⟩

/-- A first volume, in GEOM mode, whose `dataset_kstats_create` fails with 1. -/
theorem create_minor_kstats_leak_geom :
    let r := createMinor String.length { kstats := 1 } "a" {}
    r.1 = 1 ∧ r.2.zvs = 1 ∧ r.2.zsos = 1 ∧
      (ZFS_VOLMODE_GEOM = ZFS_VOLMODE_GEOM → r.2.topology = true ∧ r.2.providers = 1) ∧
      (ZFS_VOLMODE_GEOM = ZFS_VOLMODE_DEV → r.2.cdevs = 1) ∧ r.2.reg = {} ∧ r.2.minors = 0 :=
  create_minor_kstats_leak String.length { kstats := 1 } "a" {} ZFS_VOLMODE_GEOM rfl rfl
    (List.not_mem_nil _) rfl rfl rfl rfl (fun _ => rfl) (by decide)

/-- On every path but a failed `dataset_kstats_create`, `zvol_os_create_minor` returns with the
topology lock released and the datasets owned as before; with an error it leaves nothing
allocated and the registry and `zvol_minors` as they were, and with 0, unless `zvol_inhibit_dev`
is set, it registers one volume of the name and counts it. -/
theorem create_minor_outcomes (nameHash : String → Nat) (env : Env) (name : String) (res : Res)
    (htop : res.topology = false) (hk : env.kstats = 0) :
    let r := createMinor nameHash env name res
    r.2.owned = res.owned ∧ r.2.topology = false ∧
      (r.1 ≠ 0 → r.2.reg = res.reg ∧ r.2.minors = res.minors ∧ r.2.zvs = res.zvs ∧
        r.2.zsos = res.zsos ∧ r.2.providers = res.providers ∧ r.2.cdevs = res.cdevs) ∧
      (r.1 = 0 → env.inhibitDev = false → ∃ zv : Zv, zv.name = name ∧ zv.hash = nameHash name ∧
        r.2.reg = zvolInsert res.reg zv ∧ r.2.minors = toU32 (res.minors + 1)) := by
  unfold createMinor
  cases hl : createLookup nameHash env name res.reg with
  | some e =>
    refine ⟨rfl, htop, fun _ => ⟨rfl, rfl, rfl, rfl, rfl, rfl⟩, fun he hi => ?_⟩
    simp only at he
    rw [he] at hl
    simp [createLookup_zero hl] at hi
  | none =>
    simp only
    by_cases ho : (objsetOwn env name res).1 = 0
    · simp only [ho, ne_eq, not_true_eq_false, if_false, objsetOwn_ok ho]
      rcases @createSetup_cases nameHash env name { res with owned := name :: res.owned } with
        ⟨hz, he, hrec⟩ | ⟨v, -, -, hv, hnone, heq⟩
      · generalize createSetup nameHash env name { res with owned := name :: res.owned } = r at *
        obtain ⟨e, zo, res2⟩ := r
        simp only at hz he hrec
        subst hz
        simp only [Res.mk.injEq] at hrec
        obtain ⟨h1, h2, h3, h4, h5, h6, h7, h8, -⟩ := hrec
        simp [createInsert, createDisown, h1, h2, h3, h4, h5, h6, h7, h8, he, htop]
      · rw [heq]
        have hgn : ZFS_VOLMODE_GEOM ≠ ZFS_VOLMODE_NONE := by decide
        by_cases hg : v = ZFS_VOLMODE_GEOM <;>
          simp [createInsert, createDisown, Res.withVolume, hk, hnone, htop, hg, hgn] <;>
          exact fun _ => ⟨_, rfl, rfl, rfl⟩
    · simp [ho, objsetOwn_fail ho, htop]

/-! ## Locks -/

/-- The lock operations of `zvol_os_create_minor(name)`: the lookup returns a volume of the name
with its `zv_state_lock` held, which the call drops; `zvol_alloc` takes `g_topology_lock` in
GEOM mode, which `out_dmu_objset_disown:` drops if there is no error; `out_doi:` takes
`zvol_state_lock` as writer around `zvol_insert`. -/
def createMinorLocks (nameHash : String → Nat) (env : Env) (name : String) (res : Res) :
    List LockOp :=
  match createLookup nameHash env name res.reg with
  | some _ => if env.inhibitDev then [] else [.take .state, .drop .state]
  | none =>
    let (error, res) := objsetOwn env name res
    if error ≠ 0 then []
    else
      let (error, zv, _) := createSetup nameHash env name res
      (if needsTopology env then [.take .topology] else []) ++
        match zv with
        | some zv =>
          (if error = 0 ∧ zv.volmode = ZFS_VOLMODE_GEOM then [.drop .topology] else []) ++
            if error = 0 ∧ zv.volmode ≠ ZFS_VOLMODE_NONE then [.take .zvolState, .drop .zvolState]
            else []
        | none => []

/-- The lock operations of `zvol_os_rename_minor` on a volume in mode `volmode`: in GEOM mode,
`g_topology_lock` around the new provider. -/
def renameMinorLocks (volmode : Nat) : List LockOp :=
  if volmode = ZFS_VOLMODE_GEOM then [.take .topology, .drop .topology] else []

/-- `zvol_os_create_minor` takes `g_topology_lock` holding nothing, and `zvol_state_lock` only
once it has given the topology lock back. -/
theorem createMinorLocks_ordered (nameHash : String → Nat) (env : Env) (name : String)
    (res : Res) : LockOp.ordered [] (createMinorLocks nameHash env name res) = true := by
  unfold createMinorLocks
  split
  · split_ifs <;> rfl
  · simp only
    split_ifs with ho hn
    · rfl
    · rw [createSetup_geom hn]
      simp only [List.singleton_append, true_and, ne_eq,
        (by decide : ZFS_VOLMODE_GEOM ≠ ZFS_VOLMODE_NONE), not_false_eq_true, and_true]
      split_ifs <;> rfl
    · have hg := fun zv hz =>
        mt (@needsTopology_of_geom nameHash env name (objsetOwn env name res).2 zv hz) hn
      rcases hcs : createSetup nameHash env name (objsetOwn env name res).2 with ⟨e, zo, r'⟩
      simp only [hcs] at hg
      cases zo with
      | none => rfl
      | some zv =>
        simp only [hg zv rfl, and_false, if_false, List.nil_append]
        split_ifs <;> rfl

@[simp] theorem objsetOwn_topology (env : Env) (name : String) (res : Res) :
    (objsetOwn env name res).2.topology = res.topology := by
  unfold objsetOwn; split_ifs <;> rfl

@[simp] theorem createInsert_topology (error : Int) (zv : Option Zv) (res : Res) :
    (createInsert error zv res).topology = res.topology := by
  unfold createInsert; split <;> (try split_ifs) <;> rfl

/-- The lock operations agree with the call: from nothing held, the call ends holding
`g_topology_lock` alone when the resources say it holds it, and nothing otherwise. -/
theorem createMinorLocks_held (nameHash : String → Nat) (env : Env) (name : String)
    (res : Res) (h : res.topology = false) :
    LockOp.held [] (createMinorLocks nameHash env name res) =
      if (createMinor nameHash env name res).2.topology then [.topology] else [] := by
  unfold createMinorLocks createMinor
  split
  · by_cases hi : env.inhibitDev <;> simp [hi, h, LockOp.held]
  · simp only
    by_cases ho : (objsetOwn env name res).1 ≠ 0
    · simp [ho, h, LockOp.held]
    by_cases hn : needsTopology env = true
    · rw [createSetup_geom hn]
      by_cases he : env.kstats = 0 <;>
        simp [ho, hn, he, LockOp.held, createDisown, Res.withVolume, ZFS_VOLMODE_GEOM,
          ZFS_VOLMODE_NONE]
    · have hg := fun zv hz =>
        mt (@needsTopology_of_geom nameHash env name (objsetOwn env name res).2 zv hz) hn
      rcases @createSetup_cases nameHash env name (objsetOwn env name res).2 with
        ⟨hz, -, hr⟩ | ⟨v, -, -, -, -, hcs⟩
      · have ht := congrArg Res.topology hr
        simp only [objsetOwn_topology, h] at ht
        rcases hcs : createSetup nameHash env name (objsetOwn env name res).2 with ⟨e, zo, r'⟩
        simp only [hcs] at hz ht
        subst hz
        simp [ho, hn, LockOp.held, createDisown, ht]
      · rw [hcs] at hg ⊢
        have hv : v ≠ ZFS_VOLMODE_GEOM := hg _ rfl
        by_cases he : env.kstats = 0 ∧ v ≠ ZFS_VOLMODE_NONE <;>
          simp [ho, hn, hv, he, LockOp.held, createDisown, createInsert, Res.withVolume, h]

/-- The call takes no lock, or blocks on one first. -/
theorem createMinorLocks_cases (nameHash : String → Nat) (env : Env) (name : String) (res : Res) :
    createMinorLocks nameHash env name res = [] ∨
      ∃ l ops, createMinorLocks nameHash env name res = .take l :: ops := by
  unfold createMinorLocks
  split
  · split_ifs
    · exact .inl rfl
    · exact .inr ⟨_, _, rfl⟩
  · simp only
    split_ifs with ho hn
    · exact .inl rfl
    · exact .inr ⟨_, _, rfl⟩
    · have hg := fun zv hz =>
        mt (@needsTopology_of_geom nameHash env name (objsetOwn env name res).2 zv hz) hn
      rcases hcs : createSetup nameHash env name (objsetOwn env name res).2 with ⟨e, zo, r'⟩
      simp only [hcs] at hg
      cases zo with
      | none => exact .inl rfl
      | some zv =>
        simp only [hg zv rfl, and_false, if_false, List.nil_append]
        split_ifs
        · exact .inr ⟨_, _, rfl⟩
        · exact .inl rfl

/-- A call made holding `g_topology_lock` keeps the order only if it takes no lock. -/
theorem createMinorLocks_ordered_topology (nameHash : String → Nat) (env : Env) (name : String)
    (res : Res) :
    LockOp.ordered [.topology] (createMinorLocks nameHash env name res) = true ↔
      createMinorLocks nameHash env name res = [] := by
  rcases createMinorLocks_cases nameHash env name res with h | ⟨l, ops, h⟩ <;>
    simp [h, LockOp.ordered, LockOp.ordered_topology_take]

/-- A call whose `dataset_kstats_create` succeeds, or whose volume is not in GEOM mode, gives
the topology lock back. -/
theorem createMinor_topology (nameHash : String → Nat) (env : Env) (name : String) (res : Res)
    (h : res.topology = false) (hk : env.kstats = 0 ∨ allocVolmode env ≠ some ZFS_VOLMODE_GEOM) :
    (createMinor nameHash env name res).2.topology = false := by
  unfold createMinor
  split
  · exact h
  · simp only
    by_cases ho : (objsetOwn env name res).1 ≠ 0
    · simp [ho, h]
    rcases @createSetup_cases nameHash env name (objsetOwn env name res).2 with
      ⟨hz, -, hr⟩ | ⟨v, -, -, hv, -, hcs⟩
    · have ht := congrArg Res.topology hr
      simp only [objsetOwn_topology, h] at ht
      rcases hcs : createSetup nameHash env name (objsetOwn env name res).2 with ⟨e, zo, r'⟩
      simp only [hcs] at hz ht
      subst hz
      simp [ho, createDisown, ht]
    · rw [hcs]
      rcases hk with hk | hk
      · by_cases hg : v = ZFS_VOLMODE_GEOM <;>
          simp [ho, hk, hg, createDisown, Res.withVolume, h]
      · have hg : v ≠ ZFS_VOLMODE_GEOM := fun hg => hk (hg ▸ hv)
        simp [ho, hg, createDisown, Res.withVolume, h]

/-- On the path where `dataset_kstats_create` fails in GEOM mode the call takes
`g_topology_lock` in `zvol_alloc` and gives it back nowhere. -/
theorem createMinorLocks_kstats_fail (nameHash : String → Nat) (env : Env) (name : String)
    (res : Res) (hinh : env.inhibitDev = false)
    (hfind : findByNameHash res.reg name (nameHash name) = none) (hown : name ∉ res.owned)
    (h0 : env.own = 0) (hinfo : env.objectInfo = 0) (hzap : env.zapLookup = 0)
    (hv : allocVolmode env = some ZFS_VOLMODE_GEOM) (hk : env.kstats ≠ 0) :
    createMinorLocks nameHash env name res = [.take .topology] := by
  have hn : needsTopology env = true := by simp [needsTopology, hinfo, hzap, hv]
  simp [createMinorLocks, createLookup, hinh, hfind, objsetOwn, hown, h0, hn, createSetup_geom hn,
    hk]

/-- Successive `zvol_os_create_minor` calls of one thread, each with the answers of its
collaborators: their lock operations in order, each call on the resources the one before left. -/
def createMinorsLocks (nameHash : String → Nat) : List (Env × String) → Res → List LockOp
  | [], _ => []
  | (env, name) :: cs, res =>
    createMinorLocks nameHash env name res ++
      createMinorsLocks nameHash cs (createMinor nameHash env name res).2

/-- Successive calls on one thread that holds nothing keep the order as long as no call fails
in `dataset_kstats_create` in GEOM mode: each gives the topology lock back. -/
theorem createMinorsLocks_ordered (nameHash : String → Nat) (cs : List (Env × String)) (res : Res)
    (h : res.topology = false)
    (hk : ∀ c ∈ cs, c.1.kstats = 0 ∨ allocVolmode c.1 ≠ some ZFS_VOLMODE_GEOM) :
    LockOp.ordered [] (createMinorsLocks nameHash cs res) = true := by
  induction cs generalizing res with
  | nil => rfl
  | cons c cs ih =>
    obtain ⟨env, name⟩ := c
    have ht := createMinor_topology nameHash env name res h (hk _ (List.mem_cons_self _ _))
    rw [createMinorsLocks, LockOp.ordered_append, createMinorLocks_ordered,
      createMinorLocks_held nameHash env name res h, ht]
    exact ih _ ht fun c hc => hk c (List.mem_cons_of_mem _ hc)

/-- `zvol_os_rename_minor`, called with `zvol_state_lock` and the volume's `zv_state_lock` held,
takes `g_topology_lock` above them. -/
theorem renameMinorLocks_ordered (volmode : Nat) :
    LockOp.ordered [.zvolState, .state] (renameMinorLocks volmode) = true := by
  unfold renameMinorLocks
  split_ifs <;> rfl

end Zvol.Minor
