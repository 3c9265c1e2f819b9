import Zvol.OpenClose.Accounting
import Mathlib.Algebra.Order.BigOperators.Group.Finset

/-!
# The open and close paths: the invariant of every run

`Sys.Inv`: each thread keeps its discipline (`Th.Ok`, `Th.Data`); at most one thread holds
`zv_state_lock`, `spa_namespace_lock` and the topology lock; a writer of `zv_suspend_lock`
excludes every other holder; `zv_open_count` is below 2³²; and while no grant has wrapped it
(`Ghost.wrapped`), the counts agree (`Sys.Counts`): `zv_objset` is set exactly when the count is
positive or an open is in its window; the granted and not yet claimed counts, with those the
closes still owe, never exceed `zv_open_count`; the count is what the opens granted less what
the closes and the forced close took; `ZVOL_EXCL` means a count of one; and the setup log
agrees (`LogOk`).
`Sys.Inv.reach`: every reachable state satisfies it, by `Sys.Inv.init`, `Sys.Inv.start` and
`Sys.Inv.run`; the step of a thread is `threadStep_owes` for the counts, with the other threads
as a whole (`Sys.Counts.owes`).
-/

namespace Zvol.OpenClose

variable {n : Nat}

/-- What the open count accounts for, in a run where no grant wrapped it. -/
structure Sys.Counts (s : Sys n) : Prop where
  objset : s.zv.objset = true ↔ 0 < s.zv.openCount ∨ ∃ t, (s.th t).window s.zv
  pending : s.g.held + ∑ t, (s.th t).pending ≤ s.zv.openCount
  count : s.zv.openCount + s.g.closed + s.g.revoked = s.g.granted
  excl : s.zv.excl = true → s.zv.openCount = 1 ∧ ∀ t, (s.th t).pc.closePast = false
  log : LogOk s.g.log s.zv.objset

/-- The invariant of the open and close paths. -/
structure Sys.Inv (s : Sys n) : Prop where
  ok : ∀ t, (s.th t).Ok
  data : ∀ t, (s.th t).Data s.zv
  state : ∀ t u, (s.th t).holds.state = true → (s.th u).holds.state = true → t = u
  ns : ∀ t u, (s.th t).holds.spaNamespace = true → (s.th u).holds.spaNamespace = true → t = u
  topology : ∀ t u, (s.th t).holds.topology = true → (s.th u).holds.topology = true → t = u
  writer : ∀ t u, (s.th t).holds.suspend = .writer → u ≠ t → (s.th u).holds.suspend = .none
  geom : ∀ t, (s.th t).geom = true → s.zv.volmode = .geom
  bound : s.zv.openCount < 2 ^ 32
  counts : s.g.wrapped = false → s.Counts
  fault : s.g.fault = false

namespace Sys

variable (s : Sys n) (t : Fin n)

@[simp] theorem put_zv (z : Zv) (g : Ghost) (x : Th) : (s.put t z g x).zv = z := rfl
@[simp] theorem put_g (z : Zv) (g : Ghost) (x : Th) : (s.put t z g x).g = g := rfl
@[simp] theorem put_th_self (z : Zv) (g : Ghost) (x : Th) : (s.put t z g x).th t = x := by
  simp [put]
theorem put_th_ne {u : Fin n} (h : u ≠ t) (z : Zv) (g : Ghost) (x : Th) :
    (s.put t z g x).th u = s.th u := by
  simp [put, h]

/-- The count the closes of the threads other than `t` may still take off. -/
def others : Nat := ∑ u ∈ Finset.univ.erase t, (s.th u).pending

theorem pending_sum : ∑ u, (s.th u).pending = (s.th t).pending + s.others t :=
  (Finset.add_sum_erase _ _ (Finset.mem_univ t)).symm

@[simp] theorem view_stateFree : s.view.stateFree = decide s.stateFree := rfl
@[simp] theorem view_nsFree : s.view.nsFree = decide s.nsFree := rfl
@[simp] theorem view_topologyFree : s.view.topologyFree = decide s.topologyFree := rfl
@[simp] theorem view_suspendNoWriter : s.view.suspendNoWriter = decide s.suspendNoWriter := rfl
@[simp] theorem view_suspendFree : s.view.suspendFree = decide s.suspendFree := rfl
@[simp] theorem view_writerActive : s.view.writerActive = decide s.writerActive := rfl
@[simp] theorem view_cdevDrained : s.view.cdevDrained = decide s.cdevDrained := rfl

end Sys

variable {s s' : Sys n} {t : Fin n}

/-- What the counts owe to one thread. -/
theorem Sys.Counts.owes (hi : s.Counts) (t : Fin n) :
    Owes s.zv s.g (s.th t) (s.others t) (∃ u, u ≠ t ∧ (s.th u).pc.closePast = true)
      (∃ u, u ≠ t ∧ (s.th u).window s.zv) where
  objset := by
    rw [hi.objset]
    constructor
    · rintro (h | ⟨u, hu⟩)
      · exact .inl h
      · by_cases hut : u = t
        · exact .inr (.inl (hut ▸ hu))
        · exact .inr (.inr ⟨u, hut, hu⟩)
    · rintro (h | h | ⟨u, -, hu⟩)
      exacts [.inl h, .inr ⟨t, h⟩, .inr ⟨u, hu⟩]
  pending := by have := hi.pending; rw [s.pending_sum t] at this; omega
  count := hi.count
  excl := fun he => by
    obtain ⟨h1, h2⟩ := hi.excl he
    exact ⟨h1, h2 t, fun ⟨u, _, hu⟩ => by simp [h2 u] at hu⟩
  log := hi.log

/-- A thread holds no `zv_state_lock` while another does. -/
theorem Sys.Inv.state_false (hi : s.Inv) {u : Fin n} (hu : u ≠ t)
    (h : (s.th u).holds.state = true) : (s.th t).holds.state = false := by
  cases h' : (s.th t).holds.state
  · rfl
  · exact absurd (hi.state _ _ h h') hu

/-- `zv_state_lock` is not free while a thread holds it. -/
theorem Sys.view_stateFree_false {u : Fin n} (h : (s.th u).holds.state = true) :
    s.view.stateFree = false := by
  simpa [Sys.stateFree] using ⟨u, h⟩

/-- A window reads the volume only through its count. -/
theorem Th.window_congr {th : Th} {z z' : Zv} (h : z'.openCount = z.openCount) :
    th.window z' ↔ th.window z := by
  simp only [Th.window, h]

/-- A step of `t` leaves the other threads' claims alone. -/
theorem Sys.others_put (z : Zv) (g : Ghost) (x : Th) : (s.put t z g x).others t = s.others t :=
  Finset.sum_congr rfl fun u hu => by rw [Sys.put_th_ne _ _ (Finset.ne_of_mem_erase hu)]

/-- A lock that at most one thread holds stays so when `t` takes it only if it held it or found
it free. -/
theorem Sys.mutex_put (p : Th → Bool) (hm : ∀ a b, p (s.th a) = true → p (s.th b) = true → a = b)
    {z : Zv} {g : Ghost} {x : Th}
    (hx : p x = true → p (s.th t) = true ∨ ∀ u, p (s.th u) = false) :
    ∀ a b, p ((s.put t z g x).th a) = true → p ((s.put t z g x).th b) = true → a = b := by
  intro a b ha hb
  by_cases hat : a = t <;> by_cases hbt : b = t
  · rw [hat, hbt]
  · subst hat; rw [Sys.put_th_self] at ha; rw [Sys.put_th_ne _ _ hbt] at hb
    rcases hx ha with h | h
    · exact hm _ _ h hb
    · simp [h b] at hb
  · subst hbt; rw [Sys.put_th_self] at hb; rw [Sys.put_th_ne _ _ hat] at ha
    rcases hx hb with h | h
    · exact hm _ _ ha h
    · simp [h a] at ha
  · rw [Sys.put_th_ne _ _ hat] at ha; rw [Sys.put_th_ne _ _ hbt] at hb
    exact hm _ _ ha hb

/-- A step of a thread keeps the open count when another thread holds `zv_state_lock`. -/
theorem Sys.Inv.frame {o : Outcome} {z' : Zv} {g' : Ghost} {x : Th} (hi : s.Inv)
    (hst : threadStep s.view s.zv s.g (s.th t) o = some (z', g', x)) {u : Fin n} (hu : u ≠ t)
    (h : (s.th u).holds.state = true) : z'.openCount = s.zv.openCount := by
  simpa using congrArg Zv.openCount
    (threadStep_frame hst (hi.ok t) (hi.data t) (hi.state_false hu h) (Sys.view_stateFree_false h)).1

/-- Runs keep the counts: a step of a thread that does not wrap the count. -/
theorem Sys.Counts.run {o : Outcome} {z' : Zv} {g' : Ghost} {x : Th} (hi : s.Inv) (hc : s.Counts)
    (hst : threadStep s.view s.zv s.g (s.th t) o = some (z', g', x)) (hwrap : g'.wrapped = false) :
    (s.put t z' g' x).Counts := by
  have hok := hi.ok t
  have hd := hi.data t
  have howes := threadStep_owes hst hok hd ?hW ?hC ?hdrain ?hw hi.bound hwrap (hc.owes t)
  case hW =>
    rintro ⟨u, hu, hw⟩
    have h := (hi.ok u).state_of_window hw
    exact ⟨hi.state_false hu h, Sys.view_stateFree_false h⟩
  case hC =>
    rintro ⟨u, hu, hp⟩
    calc 1 ≤ (s.th u).pending := (hi.ok u).pending_of_closePast hp
      _ ≤ s.others t := by
        unfold Sys.others
        exact Finset.single_le_sum (fun i _ => Nat.zero_le (s.th i).pending)
          (Finset.mem_erase.2 ⟨hu, Finset.mem_univ u⟩)
  case hdrain =>
    intro hdr hdev
    simp only [Sys.view_cdevDrained, Sys.cdevDrained, decide_eq_true_eq] at hdr
    refine Finset.sum_eq_zero fun u _ => Nat.eq_zero_of_not_pos fun hp => ?_
    cases hg : (s.th u).geom
    · exact absurd (hdr u) (by simp [(hi.ok u).inCdev_of_pending hg hp])
    · simp [hi.geom u hg] at hdev
  case hw =>
    intro hr
    simp only [Sys.view_writerActive, Sys.writerActive, decide_eq_false_iff_not, not_exists]
    intro u hu
    by_cases hut : u = t
    · subst hut; simp [hr] at hu
    · simp [hi.writer u t hu (Ne.symm hut)] at hr
  have hwin : ∀ u, u ≠ t → ((s.th u).window z' ↔ (s.th u).window s.zv) := fun u hu =>
    ⟨fun hw => (Th.window_congr (hi.frame hst hu ((hi.ok u).state_of_window hw))).1 hw,
      fun hw => (Th.window_congr (hi.frame hst hu ((hi.ok u).state_of_window hw))).2 hw⟩
  refine ⟨?objset, ?pending, howes.count, ?excl, howes.log⟩
  case objset =>
    simp only [Sys.put_zv, howes.objset]
    constructor
    · rintro (h | h | ⟨u, hu, hw⟩)
      · exact .inl h
      · exact .inr ⟨t, by simpa using h⟩
      · exact .inr ⟨u, by rw [Sys.put_th_ne _ _ hu]; exact (hwin u hu).2 hw⟩
    · rintro (h | ⟨u, hw⟩)
      · exact .inl h
      · by_cases hut : u = t
        · subst hut; exact .inr (.inl (by simpa using hw))
        · rw [Sys.put_th_ne _ _ hut] at hw; exact .inr (.inr ⟨u, hut, (hwin u hut).1 hw⟩)
  case pending =>
    have := howes.pending
    rw [Sys.pending_sum _ t, Sys.others_put]
    simpa [add_assoc] using this
  case excl =>
    intro he
    obtain ⟨h1, h2, h3⟩ := howes.excl he
    refine ⟨h1, fun u => ?_⟩
    by_cases hut : u = t
    · subst hut; simpa using h2
    · rw [Sys.put_th_ne _ _ hut]
      cases hp : (s.th u).pc.closePast
      · rfl
      · exact absurd ⟨u, hut, hp⟩ h3

/-- Runs keep the invariant: a step of a thread. -/
theorem Sys.Inv.run {o : Outcome} (hi : s.Inv) (hs : runStep s t o = some s') : s'.Inv := by
  obtain ⟨⟨z', g', x⟩, hst, rfl⟩ := Option.map_eq_some'.1 hs
  have hf := threadStep_spec (hi.ok t) (hi.data t) hst
  have hwrap := threadStep_wrap hst (hi.ok t) (hi.data t) hi.bound
  refine ⟨?ok, ?data, ?state, ?ns, ?topology, ?writer, ?geom, hwrap.1, fun hw => ?counts,
    hf.fault.trans hi.fault⟩
  case ok =>
    intro u
    by_cases hu : u = t
    · subst hu; simpa using hf.ok
    · rw [Sys.put_th_ne _ _ hu]; exact hi.ok u
  case data =>
    intro u
    by_cases hu : u = t
    · subst hu; simpa using hf.data
    · rw [Sys.put_th_ne _ _ hu]
      cases h : (s.th u).holds.state
      · exact (hi.ok u).data h
      · exact (hi.data u).congr (hi.frame hst hu h)
  case state =>
    exact Sys.mutex_put (·.holds.state) hi.state fun h => by simpa [Sys.stateFree] using hf.state h
  case ns =>
    exact Sys.mutex_put (·.holds.spaNamespace) hi.ns fun h => by simpa [Sys.nsFree] using hf.ns h
  case topology =>
    exact Sys.mutex_put (·.holds.topology) hi.topology fun h => by
      simpa [Sys.topologyFree] using hf.topology h
  case writer =>
    intro a b ha hba
    by_cases hat : a = t
    · subst hat
      rw [Sys.put_th_self] at ha
      rw [Sys.put_th_ne _ _ hba]
      rcases hf.writer ha with h | h
      · exact hi.writer _ _ h hba
      · simp only [Sys.view_suspendFree, Sys.suspendFree, decide_eq_true_eq] at h; exact h b
    · rw [Sys.put_th_ne _ _ hat] at ha
      by_cases hbt : b = t
      · subst hbt
        rw [Sys.put_th_self]
        by_contra hne
        rcases hf.reader hne with h | h | h
        · exact h (hi.writer _ _ ha (Ne.symm hat))
        · simp only [Sys.view_suspendNoWriter, Sys.suspendNoWriter, decide_eq_true_eq] at h
          exact h a ha
        · simp only [Sys.view_suspendFree, Sys.suspendFree, decide_eq_true_eq] at h
          simp [h a] at ha
      · rw [Sys.put_th_ne _ _ hbt]; exact hi.writer _ _ ha hba
  case geom =>
    intro u hu
    simp only [Sys.put_zv, hf.volmode]
    by_cases hut : u = t
    · subst hut; rw [Sys.put_th_self, hf.geom] at hu; exact hi.geom _ hu
    · rw [Sys.put_th_ne _ _ hut] at hu; exact hi.geom _ hu
  case counts =>
    -- a wrap once flagged stays flagged, so the count did not wrap before either
    have hw' : g'.wrapped = false := hw
    have hw₀ : s.g.wrapped = false := by
      cases h : s.g.wrapped
      · rfl
      · simpa [hw'] using hwrap.2 h
    exact (hi.counts hw₀).run hi hst hw'

/-- An idle thread holds nothing and owes nothing. -/
theorem Th.Ok.idle {th : Th} (hok : th.Ok) (hidle : th.pc = .idle) :
    th.holds = {} ∧ th.pending = 0 ∧ (∀ z, ¬th.window z) ∧ th.pc.closePast = false := by
  refine ⟨?_, by simp [Th.pending, hidle], fun z => by simp [Th.window, hidle], by simp [hidle, Pc.closePast]⟩
  rw [hok.holds]
  simp [Th.expected, Holds.expect, hidle, Pc.zsl, Pc.state, Pc.suspend, Pc.suspendIfDrop, Pc.inCall,
    Pc.nsIfDrop, Pc.topology]

/-- A call by an idle thread `t`, which becomes `x` and claims `k` of the counts granted and not
yet claimed, keeps the invariant when `x` takes only free locks. -/
theorem Sys.Inv.start_put (hi : s.Inv) (hidle : (s.th t).pc = .idle) {x : Th} {k : Nat}
    (hx : x.Ok) (hxd : x.Data s.zv) (hk : k ≤ s.g.held) (hp : x.pending = k)
    (hwin : ∀ z, ¬x.window z) (hpast : x.pc.closePast = false) (hS : x.holds.state = false)
    (hN : x.holds.spaNamespace = true → s.nsFree) (hT : x.holds.topology = true → s.topologyFree)
    (hR : x.holds.suspend = .none) (hG : x.geom = true → s.zv.volmode = .geom) :
    (s.put t s.zv { s.g with held := s.g.held - k } x).Inv := by
  obtain ⟨hh0, hp0, hw0, hc0⟩ := (hi.ok t).idle hidle
  have hput : ∀ u, u ≠ t → (s.put t s.zv { s.g with held := s.g.held - k } x).th u = s.th u :=
    fun u hu => Sys.put_th_ne _ _ hu _ _ _
  refine ⟨fun u => ?_, fun u => ?_, ?_, ?_, ?_, ?_, fun u => ?_, hi.bound, fun hw => ?_, hi.fault⟩
  · by_cases hu : u = t
    · subst hu; simpa using hx
    · rw [hput u hu]; exact hi.ok u
  · by_cases hu : u = t
    · subst hu; simpa using hxd
    · rw [hput u hu]; exact hi.data u
  · exact Sys.mutex_put (fun th => th.holds.state) hi.state fun h => by simp [hS] at h
  · exact Sys.mutex_put (fun th => th.holds.spaNamespace) hi.ns fun h => .inr (hN h)
  · exact Sys.mutex_put (fun th => th.holds.topology) hi.topology fun h => .inr (hT h)
  · intro a b ha hba
    by_cases hat : a = t
    · subst hat; simp [hR] at ha
    · rw [hput a hat] at ha
      by_cases hbt : b = t
      · subst hbt; simpa using hR
      · rw [hput b hbt]; exact hi.writer _ _ ha hba
  · by_cases hu : u = t
    · subst hu; simpa using hG
    · rw [hput u hu]; exact hi.geom u
  have hc := hi.counts hw
  refine ⟨?_, ?_, hc.count, fun he => ?_, hc.log⟩
  · simp only [Sys.put_zv, hc.objset]
    refine or_congr Iff.rfl ⟨fun ⟨u, hu⟩ => ⟨u, ?_⟩, fun ⟨u, hu⟩ => ⟨u, ?_⟩⟩
    · by_cases hut : u = t
      · subst hut; exact absurd hu (hw0 _)
      · rwa [hput u hut]
    · by_cases hut : u = t
      · subst hut; simp at hu; exact absurd hu (hwin _)
      · rwa [hput u hut] at hu
  · have := hc.pending
    rw [Sys.pending_sum _ t] at this ⊢
    rw [Sys.others_put, Sys.put_th_self, hp]
    simp only [Sys.put_zv, Sys.put_g]
    omega
  · obtain ⟨h1, h2⟩ := hc.excl he
    refine ⟨h1, fun u => ?_⟩
    by_cases hut : u = t
    · subst hut; simpa using hpast
    · rw [hput u hut]; exact h2 u

/-- Runs keep the invariant: a call of an entry point. -/
theorem Sys.Inv.start {c : Call} (hi : s.Inv) (hs : startStep s t c = some s') : s'.Inv := by
  by_cases hidle : (s.th t).pc = .idle
  swap
  · simp [startStep, hidle] at hs
  have hg0 : s.g = { s.g with held := s.g.held - 0 } := by simp
  simp only [startStep, hidle, ne_eq, not_true_eq_false, ↓reduceIte] at hs
  cases c with
  | geomAccess acr acw ace probe ownsNs =>
    simp only at hs
    split_ifs at hs with hc
    obtain ⟨hgeom, -, -, htop, hns, hk⟩ := hc
    cases hs
    refine hi.start_put hidle ?_ trivial hk rfl (fun z => by simp [Th.window]) rfl rfl hns
      (fun _ => htop) rfl (fun _ => hgeom)
    exact ⟨by simp [Th.expected, Holds.expect, Pc.zsl, Pc.state, Pc.suspend, Pc.suspendIfDrop,
      Pc.inCall, Pc.nsIfDrop, Pc.topology], by simp [Th.Locals], by simp⟩
  | cdevOpen fwrite oexcl ownsNs =>
    simp only at hs
    split_ifs at hs with hc
    cases hs
    rw [hg0]
    refine hi.start_put hidle ?_ trivial (Nat.zero_le _) rfl (fun z => by simp [Th.window]) rfl rfl
      hc.2 (by simp) rfl (by simp)
    exact ⟨by simp [Th.expected, Holds.expect, Pc.zsl, Pc.state, Pc.suspend, Pc.suspendIfDrop,
      Pc.inCall, Pc.nsIfDrop, Pc.topology], by simp [Th.Locals], by simp⟩
  | cdevClose =>
    simp only at hs
    split_ifs at hs with hc
    cases hs
    refine hi.start_put hidle ⟨by decide, by simp [Th.Locals], by decide⟩ trivial hc.2 rfl
      (fun z => by simp [Th.window]) rfl rfl (by simp) (by simp) rfl (by simp)
  | _ =>
    simp only [Option.some.injEq] at hs
    subst hs
    rw [hg0]
    exact hi.start_put hidle ⟨by decide, trivial, by decide⟩ trivial (Nat.zero_le _) rfl
      (fun z => by simp [Th.window]) rfl rfl (by simp) (by simp) rfl (by simp)

/-- The invariant holds before the first open. -/
theorem Sys.Inv.init (h : s.Init) : s.Inv := by
  obtain ⟨h0, hex, hobj, hth, hg⟩ := h
  have hidle : ∀ t, (s.th t).Ok := fun t => by rw [hth t]; exact ⟨by decide, trivial, by decide⟩
  refine ⟨hidle, fun t => by rw [hth t]; trivial, ?_, ?_, ?_, ?_, ?_, ?_,
    fun _ => ⟨?_, ?_, ?_, ?_, ?_⟩, ?_⟩ <;>
    simp [hth, h0, hex, hobj, hg, Th.window, Th.pending, LogOk.nil]

/-- Every reachable state satisfies the invariant. -/
theorem Sys.Inv.reach {allow : Call → Prop} (h : ReachBy allow s) : s.Inv := by
  induction h with
  | init h => exact Sys.Inv.init h
  | start _ _ hs ih => exact ih.start hs
  | run _ hs ih => exact ih.run hs

end Zvol.OpenClose
