import Mathlib.Logic.Function.Basic
import Zvol.Minor.Create

/-!
# Creating minors, interleaved

Threads run `zvol_os_create_minor` part by part (`Zvol.Minor.Create`) on shared resources, and
`zvol_os_rename_minor`, under its caller's `zvol_state_lock`, moves a registered volume to a
name that no registered volume has. The parts are the stretches of the code between the points
where other threads get in: the lookup (`zvol_find_by_name_hash` under `zvol_state_lock`),
`dmu_objset_own`, the setup up to `out_dmu_objset_disown:`, which waits in `zvol_alloc` for
`g_topology_lock` while another thread holds it, `dmu_objset_disown` with
`g_topology_unlock`, and `zvol_insert` under `zvol_state_lock`. Run alone, the parts are the
call (`soloRun_createMinor`).

* `create_minor_duplicate_name`: two creations of one name both pass the lookup, since the
  first gives the dataset back before it registers its volume, and both register one.
* `registry_chains_reach`: in every run, every registered volume has the hash of its name and is
  linked in the chain of that hash, and the chains link registered volumes only, each in the
  chain of its hash.
-/

namespace Zvol.Minor

/-- Where a thread is in `zvol_os_create_minor`: before the part it runs next, with the error
and the volume of the setup once that has run, or returned with its error. -/
inductive Pc where
  | idle
  | lookup
  | own
  | setup
  | disown (error : Int) (zv : Option Zv)
  | insert (error : Int) (zv : Option Zv)
  | done (error : Int)
  deriving DecidableEq, Repr

/-- The volume a thread has made and not yet registered or dropped. -/
def Pc.volume : Pc → Option Zv
  | .disown _ zv | .insert _ zv => zv
  | _ => none

/-- A thread: where it is, the name it creates, and what its collaborators answer. -/
structure Th where
  pc : Pc := .idle
  name : String := ""
  env : Env := {}
  deriving DecidableEq, Repr

/-- The resources and the threads. -/
structure Sys (n : Nat) where
  res : Res
  th : Fin n → Th

/-- The next part thread `x` runs on the resources `res`: the resources after it and where the
thread is then, or `none` when it runs nothing or waits for `g_topology_lock`. -/
def threadStep (nameHash : String → Nat) (res : Res) (x : Th) : Option (Res × Pc) :=
  match x.pc with
  | .idle | .done _ => none
  | .lookup =>
    match createLookup nameHash x.env x.name res.reg with
    | some error => some (res, .done error)
    | none => some (res, .own)
  | .own =>
    let (error, res) := objsetOwn x.env x.name res
    some (res, if error ≠ 0 then .done error else .setup)
  | .setup =>
    if res.topology && needsTopology x.env then none
    else
      let (error, zv, res) := createSetup nameHash x.env x.name res
      some (res, .disown error zv)
  | .disown error zv => some (createDisown x.name error zv res, .insert error zv)
  | .insert error zv => some (createInsert error zv res, .done error)

/-- One thread run alone for `fuel` parts, or until it stops. -/
def soloRun (nameHash : String → Nat) : Nat → Res → Th → Res × Pc
  | 0, res, x => (res, x.pc)
  | fuel + 1, res, x =>
    match threadStep nameHash res x with
    | none => (res, x.pc)
    | some (res', pc) => soloRun nameHash fuel res' { x with pc }

/-- Run alone from resources with `g_topology_lock` free, the parts of a thread are
`zvol_os_create_minor`. -/
theorem soloRun_createMinor (nameHash : String → Nat) (env : Env) (name : String) (res : Res)
    (h : res.topology = false) :
    soloRun nameHash 5 res { pc := .lookup, name, env } =
      ((createMinor nameHash env name res).2, .done (createMinor nameHash env name res).1) := by
  simp only [soloRun, threadStep, createMinor]
  cases createLookup nameHash env name res.reg with
  | some e => rfl
  | none =>
    simp only
    by_cases ho : (objsetOwn env name res).1 = 0
    · have ht : (objsetOwn env name res).2.topology = false := by rw [objsetOwn_ok ho]; exact h
      simp only [ho, ne_eq, not_true_eq_false, if_false, ht, Bool.false_and, Bool.false_eq_true,
        ↓reduceIte]
    · simp only [ho, ne_eq, not_false_eq_true, if_true]

namespace Sys

variable {n : Nat} (nameHash : String → Nat)

/-- `s` with the resources `res` and thread `t` replaced by `x`. -/
def put (s : Sys n) (t : Fin n) (res : Res) (x : Th) : Sys n := ⟨res, Function.update s.th t x⟩

/-- Thread `t` runs its next part. -/
def step (s : Sys n) (t : Fin n) : Option (Sys n) :=
  (threadStep nameHash s.res (s.th t)).map fun r => s.put t r.1 { s.th t with pc := r.2 }

/-- Thread `t`, idle or returned, calls `zvol_os_create_minor(name)`, its collaborators
answering `env`. -/
def start (s : Sys n) (t : Fin n) (name : String) (env : Env) : Option (Sys n) :=
  match (s.th t).pc with
  | .idle | .done _ => some (s.put t s.res { pc := .lookup, name, env })
  | _ => none

/-- `zvol_os_rename_minor` moves the registered volume `id` to `newname`, which no registered
volume has. -/
def rename (s : Sys n) (id : Nat) (newname : String) : Option (Sys n) :=
  if (∃ zv ∈ s.res.reg.list, zv.id = id) ∧ ∀ zv ∈ s.res.reg.list, zv.name ≠ newname then
    some { s with res := { s.res with reg := renameMinor nameHash s.res.reg id newname } }
  else none

/-- No volume, and every thread idle. -/
def init : Sys n := ⟨{}, fun _ => {}⟩

end Sys

/-- What happens next: a thread calls `zvol_os_create_minor`, a thread runs its next part, or a
volume is renamed. -/
inductive Act (n : Nat) where
  | start (t : Fin n) (name : String) (env : Env)
  | step (t : Fin n)
  | rename (id : Nat) (newname : String)

variable {n : Nat} {nameHash : String → Nat}

/-- The system after `a`, if `a` can happen. -/
def Sys.act (nameHash : String → Nat) (s : Sys n) : Act n → Option (Sys n)
  | .start t name env => s.start t name env
  | .step t => s.step nameHash t
  | .rename id newname => s.rename nameHash id newname

/-- The system after the acts `as`, each in turn, or `none` if one cannot happen. -/
def runActs (nameHash : String → Nat) (s : Sys n) : List (Act n) → Option (Sys n)
  | [] => some s
  | a :: as => (s.act nameHash a).bind fun s' => runActs nameHash s' as

/-- The states that runs reach from no volume and idle threads. -/
inductive Reach (nameHash : String → Nat) : Sys n → Prop
  | init : Reach nameHash Sys.init
  | act {s s' : Sys n} (a : Act n) : Reach nameHash s → s.act nameHash a = some s' →
      Reach nameHash s'

theorem Reach.runActs {s s' : Sys n} {as : List (Act n)} (h : Reach nameHash s)
    (hr : Minor.runActs nameHash s as = some s') : Reach nameHash s' := by
  induction as generalizing s with
  | nil => cases hr; exact h
  | cons a as ih =>
    simp only [Minor.runActs, Option.bind_eq_some] at hr
    obtain ⟨s₁, h₁, hr⟩ := hr
    exact ih (.act a h h₁) hr

/-! ## The registry in every run -/

/-- A well-formed registry: each volume has the hash of its name and is linked in the chain of
that hash, and the chains link registered volumes only, each in the chain of its hash. -/
structure Reg.Ok (nameHash : String → Nat) (r : Reg) : Prop where
  hash : ∀ zv ∈ r.list, zv.hash = nameHash zv.name
  linked : ∀ zv ∈ r.list, zv.id ∈ r.buckets (htHead zv.hash)
  chains : ∀ b, ∀ id ∈ r.buckets b, ∃ zv ∈ r.list, zv.id = id ∧ htHead zv.hash = b

theorem Reg.Ok.empty : ({} : Reg).Ok nameHash :=
  ⟨nofun, nofun, fun _ _ h => absurd h (List.not_mem_nil _)⟩

/-- `zvol_insert` of a volume with the hash of its name keeps the registry well formed. -/
theorem Reg.Ok.insert {r : Reg} {zv : Zv} (h : r.Ok nameHash) (hz : zv.hash = nameHash zv.name) :
    (zvolInsert r zv).Ok nameHash where
  hash z hz' := by
    rcases List.mem_cons.1 hz' with rfl | hz'
    · exact hz
    · exact h.hash z hz'
  linked z hz' := by
    rcases List.mem_cons.1 hz' with rfl | hz'
    · simp [zvolInsert]
    · have := h.linked z hz'
      simp only [zvolInsert]
      split_ifs <;> simp [this]
  chains b id hid := by
    simp only [zvolInsert] at hid ⊢
    split_ifs at hid with hb
    · rcases List.mem_cons.1 hid with rfl | hid
      · exact ⟨zv, List.mem_cons_self _ _, rfl, hb.symm⟩
      · obtain ⟨z, hz', he⟩ := h.chains b id hid
        exact ⟨z, List.mem_cons_of_mem _ hz', he⟩
    · obtain ⟨z, hz', he⟩ := h.chains b id hid
      exact ⟨z, List.mem_cons_of_mem _ hz', he⟩

/-- The registry part of `zvol_os_rename_minor`, on a registered volume, keeps the registry
well formed. -/
theorem Reg.Ok.rename {r : Reg} {id : Nat} {newname : String} (h : r.Ok nameHash)
    (hid : ∃ zv ∈ r.list, zv.id = id) : (renameMinor nameHash r id newname).Ok nameHash where
  hash _ hz' := by
    obtain ⟨z, hz, rfl⟩ := List.mem_map.1 hz'
    split_ifs
    · rfl
    · exact h.hash z hz
  linked _ hz' := by
    obtain ⟨z, hz, rfl⟩ := List.mem_map.1 hz'
    simp only [renameMinor]
    split_ifs with he hb hb
    · simp [he]
    · exact absurd rfl hb
    · simp [h.linked z hz, he]
    · simp [h.linked z hz, he]
  chains b i hi := by
    simp only [renameMinor] at hi ⊢
    have old : i ∈ (r.buckets b).filter (· != id) →
        ∃ zv ∈ r.list.map (fun zv => if zv.id = id then
          { zv with name := newname, hash := nameHash newname } else zv), zv.id = i ∧
          htHead zv.hash = b := by
      intro hi
      obtain ⟨hi, hne⟩ := List.mem_filter.1 hi
      obtain ⟨z, hz, rfl, hb⟩ := h.chains b _ hi
      have hne : z.id ≠ id := by simpa using hne
      exact ⟨z, List.mem_map.2 ⟨z, hz, if_neg hne⟩, rfl, hb⟩
    split_ifs at hi with hb
    · rcases List.mem_cons.1 hi with rfl | hi
      · obtain ⟨z, hz, rfl⟩ := hid
        exact ⟨_, List.mem_map.2 ⟨z, hz, rfl⟩, by simp, by simp [hb]⟩
      · exact old hi
    · exact old hi

/-- A part keeps the registry well formed, and the volume a thread holds has the hash of its
name. -/
theorem threadStep_ok {res res' : Res} {x : Th} {p : Pc}
    (h : threadStep nameHash res x = some (res', p)) (hr : res.reg.Ok nameHash)
    (hp : ∀ zv, x.pc.volume = some zv → zv.hash = nameHash zv.name) :
    res'.reg.Ok nameHash ∧ ∀ zv, p.volume = some zv → zv.hash = nameHash zv.name := by
  unfold threadStep at h
  split at h
  · cases h
  · cases h
  · split at h <;> (obtain ⟨rfl, rfl⟩ := Prod.mk.inj (Option.some.inj h)) <;>
      exact ⟨hr, nofun⟩
  · have hreg := @objsetOwn_reg x.env x.name res
    obtain ⟨e, r⟩ := objsetOwn x.env x.name res
    simp only [Option.some.injEq, Prod.mk.injEq] at h
    obtain ⟨rfl, rfl⟩ := h
    refine ⟨by rwa [hreg], fun zv hz => ?_⟩
    split_ifs at hz <;> cases hz
  · split_ifs at h
    have hreg := @createSetup_reg nameHash x.env x.name res
    have hvol := @createSetup_volume nameHash x.env x.name res
    obtain ⟨e, zo, r⟩ := createSetup nameHash x.env x.name res
    simp only [Option.some.injEq, Prod.mk.injEq] at h
    obtain ⟨rfl, rfl⟩ := h
    refine ⟨by rwa [hreg], fun zv hz => ?_⟩
    obtain ⟨hn, hh⟩ := hvol hz
    rw [hh, hn]
  · rename_i e zv hpc
    obtain ⟨rfl, rfl⟩ := Prod.mk.inj (Option.some.inj h)
    exact ⟨by rwa [createDisown_reg], by rwa [hpc] at hp⟩
  · rename_i e zv hpc
    obtain ⟨rfl, rfl⟩ := Prod.mk.inj (Option.some.inj h)
    refine ⟨?_, nofun⟩
    rcases @createInsert_reg res e zv with he | ⟨z, rfl, he⟩
    · rwa [he]
    · rw [he]
      exact hr.insert (hp z (by rw [hpc]; rfl))

/-- The invariant of the registry: it is well formed, and the volumes the threads hold have the
hashes of their names. -/
structure Sys.Inv (nameHash : String → Nat) (s : Sys n) : Prop where
  reg : s.res.reg.Ok nameHash
  pending : ∀ t zv, (s.th t).pc.volume = some zv → zv.hash = nameHash zv.name

theorem Sys.put_th (s : Sys n) (t u : Fin n) (res : Res) (x : Th) :
    (s.put t res x).th u = if u = t then x else s.th u := by
  simp only [Sys.put, Function.update_apply]

theorem Sys.Inv.act {s s' : Sys n} {a : Act n} (hi : s.Inv nameHash)
    (h : s.act nameHash a = some s') : s'.Inv nameHash := by
  cases a with
  | start t name env =>
    simp only [Sys.act, Sys.start] at h
    split at h <;> cases h
    all_goals exact ⟨hi.reg, fun u zv => by
      rw [Sys.put_th]; split_ifs
      · exact nofun
      · exact hi.pending u zv⟩
  | step t =>
    obtain ⟨r, hr, rfl⟩ := Option.map_eq_some'.1 h
    obtain ⟨hreg, hp⟩ := threadStep_ok hr hi.reg (hi.pending t)
    refine ⟨hreg, fun u zv => ?_⟩
    rw [Sys.put_th]
    split_ifs
    · exact hp zv
    · exact hi.pending u zv
  | rename id newname =>
    simp only [Sys.act, Sys.rename] at h
    split_ifs at h with hg
    cases h
    exact ⟨hi.reg.rename hg.1, hi.pending⟩

theorem Sys.Inv.reach {s : Sys n} (h : Reach nameHash s) : s.Inv nameHash := by
  induction h with
  | init => exact ⟨.empty, fun _ _ => nofun⟩
  | act a _ ha ih => exact ih.act ha

/-- In every run of `zvol_os_create_minor` and `zvol_os_rename_minor` calls, every registered
volume has `zv_hash = zvol_name_hash(zv_name)` and is linked in the chain
`ZVOL_HT_HEAD(zv_hash)`, and the chains link registered volumes only, each in the chain of its
hash. -/
theorem registry_chains_reach {s : Sys n} (h : Reach nameHash s) :
    (∀ zv ∈ s.res.reg.list,
      zv.hash = nameHash zv.name ∧ zv.id ∈ s.res.reg.buckets (htHead zv.hash)) ∧
    ∀ b, ∀ id ∈ s.res.reg.buckets b, ∃ zv ∈ s.res.reg.list, zv.id = id ∧ htHead zv.hash = b :=
  let hi := Sys.Inv.reach h
  ⟨fun zv hz => ⟨hi.reg.hash zv hz, hi.reg.linked zv hz⟩, hi.reg.chains⟩

/-! ## `zvol_minors` in every run -/

/-- A part keeps `zvol_minors` at the number of registered volumes, modulo 2³²: only
`out_doi:` changes either, and it changes both. -/
theorem threadStep_minors {res res' : Res} {x : Th} {p : Pc}
    (h : threadStep nameHash res x = some (res', p)) (hm : res.minors = res.reg.list.length % 2 ^ 32) :
    res'.minors = res'.reg.list.length % 2 ^ 32 := by
  unfold threadStep at h
  split at h
  · cases h
  · cases h
  · split at h <;> (obtain ⟨rfl, rfl⟩ := Prod.mk.inj (Option.some.inj h)) <;> exact hm
  · have hreg := @objsetOwn_reg x.env x.name res
    have hmin := @objsetOwn_minors x.env x.name res
    obtain ⟨e, r⟩ := objsetOwn x.env x.name res
    simp only [Option.some.injEq, Prod.mk.injEq] at h hreg hmin
    obtain ⟨rfl, -⟩ := h
    rw [hmin, hreg, hm]
  · split_ifs at h
    have hreg := @createSetup_reg nameHash x.env x.name res
    have hmin := @createSetup_minors nameHash x.env x.name res
    obtain ⟨e, zo, r⟩ := createSetup nameHash x.env x.name res
    simp only [Option.some.injEq, Prod.mk.injEq] at h hreg hmin
    obtain ⟨rfl, -⟩ := h
    rw [hmin, hreg, hm]
  · obtain ⟨rfl, -⟩ := Prod.mk.inj (Option.some.inj h)
    rw [createDisown_minors, createDisown_reg, hm]
  · obtain ⟨rfl, -⟩ := Prod.mk.inj (Option.some.inj h)
    unfold createInsert; split <;> (try split_ifs) <;> simp [zvolInsert, hm, toU32]
    omega

/-- In every run of `zvol_os_create_minor` and `zvol_os_rename_minor` calls, `zvol_minors` is
the number of registered volumes, modulo 2³² as it is a `uint32_t`: the increment of `out_doi:`
goes with `zvol_insert` under `zvol_state_lock`, and a rename moves a volume without adding one.
So while fewer than 2³² volumes are registered, `zvol_busy()` holds exactly when one is. -/
theorem zvol_busy_iff_registered {s : Sys n} (h : Reach nameHash s) :
    s.res.minors = s.res.reg.list.length % 2 ^ 32 ∧
      (s.res.reg.list.length < 2 ^ 32 → (zvolBusy s.res.minors = true ↔ s.res.reg.list ≠ [])) := by
  have hm : s.res.minors = s.res.reg.list.length % 2 ^ 32 := by
    induction h with
    | init => rfl
    | act a _ ha ih =>
      cases a with
      | start t name env =>
        simp only [Sys.act, Sys.start] at ha
        split at ha <;> cases ha <;> exact ih
      | step t =>
        obtain ⟨r, hr, rfl⟩ := Option.map_eq_some'.1 ha
        exact threadStep_minors hr ih
      | rename id newname =>
        simp only [Sys.act, Sys.rename] at ha
        split_ifs at ha
        cases ha
        simpa [renameMinor] using ih
  refine ⟨hm, fun hlt => ?_⟩
  rw [zvolBusy, hm, Nat.mod_eq_of_lt hlt]
  simp

/-! ## Two volumes of one name -/

/-- Thread 0 creates `"a"` up to its `zvol_insert`; thread 1 then creates `"a"` up to its own;
both insert. -/
def dupActs : List (Act 2) :=
  [.start 0 "a" {}, .step 0, .step 0, .step 0, .step 0,
    .start 1 "a" {}, .step 1, .step 1, .step 1, .step 1, .step 0, .step 1]

/-- The state `dupActs` leads to. -/
def dupState (nameHash : String → Nat) : Sys 2 :=
  (Minor.runActs nameHash Sys.init dupActs).getD Sys.init

/-- The volume thread `i` makes in `dupActs`, the `i`-th allocated. -/
def dupVol (nameHash : String → Nat) (i : Nat) : Zv := ⟨i, "a", nameHash "a", ZFS_VOLMODE_GEOM⟩

theorem reach_dupState (nameHash : String → Nat) : Reach nameHash (dupState nameHash) :=
  Reach.init.runActs (rfl : Minor.runActs nameHash Sys.init dupActs = some (dupState nameHash))

theorem dupState_list (nameHash : String → Nat) :
    (dupState nameHash).res.reg.list = [dupVol nameHash 1, dupVol nameHash 0] := rfl

/-- Two calls of `zvol_os_create_minor("a")`: the first gives the dataset back
(`dmu_objset_disown`) before it registers its volume (`zvol_insert`), so the second finds no
volume of the name and owns the dataset; both return 0, and the registry holds two volumes
named `"a"`. -/
theorem create_minor_duplicate_name (nameHash : String → Nat) :
    ∃ s : Sys 2, Reach nameHash s ∧ (s.th 0).pc = .done 0 ∧ (s.th 1).pc = .done 0 ∧
      ∃ a ∈ s.res.reg.list, ∃ b ∈ s.res.reg.list, a.id ≠ b.id ∧ a.name = b.name :=
  ⟨dupState nameHash, reach_dupState nameHash, rfl, rfl, dupVol nameHash 1,
    by simp [dupState_list], dupVol nameHash 0, by simp [dupState_list], by simp [dupVol], rfl⟩

/-- The registry after the two creations of `"a"`. -/
theorem registry_chains_reach_dup :
    (∀ zv ∈ (dupState String.length).res.reg.list, zv.hash = String.length zv.name ∧
      zv.id ∈ (dupState String.length).res.reg.buckets (htHead zv.hash)) ∧
    ∀ b, ∀ id ∈ (dupState String.length).res.reg.buckets b,
      ∃ zv ∈ (dupState String.length).res.reg.list, zv.id = id ∧ htHead zv.hash = b :=
  registry_chains_reach (reach_dupState String.length)

/-- `zvol_minors` after the two creations of `"a"`. -/
theorem zvol_busy_iff_registered_dup :
    (dupState String.length).res.minors = (dupState String.length).res.reg.list.length % 2 ^ 32 ∧
      ((dupState String.length).res.reg.list.length < 2 ^ 32 →
        (zvolBusy (dupState String.length).res.minors = true ↔
          (dupState String.length).res.reg.list ≠ [])) :=
  zvol_busy_iff_registered (reach_dupState String.length)

end Zvol.Minor
