import DocQuery.Proofs.Provision.Runs
import DocQuery.Proofs.Provision.Threads

/-! # Pools under a contract

A duty says what the threads of a job promise. A pool whose jobs do their duty keeps doing so when
any of its threads goes on, in whatever order that happens, and while others change the catalog as
the contract allows. What a finished job has promised holds from then on.
-/

namespace DocQuery.Provision

variable {σ : Type} {C : Contract σ} {catalog : Catalog σ}

/-- What the threads of a job promise. -/
structure Duty (C : Contract σ) (catalog : Catalog σ) where
  provisioner : Provisioner
  container : Container
  place : Place
  /-- The promise of the first thread. -/
  first : Outcome → Data σ → Prop
  /-- The promise of a thread that provides a requirement. -/
  each : Requirement → Outcome → Data σ → Prop
  closed : ∀ {r rs d}, each r (.ok rs) d → rs = []
  follow : ∀ {rs d}, first (.ok rs) d → C.inv d → ∀ r ∈ rs,
    (provisioner.ensure container r).Safe C catalog place (Ends C (each r)) .idle d

def Duty.promise (D : Duty C catalog) (rest : List Requirement) : Nat → Outcome → Data σ → Prop
  | 0 => D.first
  | i + 1 => fun o d => ∃ r, rest[i]? = some r ∧ D.each r o d

def Duty.Kept (D : Duty C catalog) : Except Error Unit → Data σ → Prop
  | .error e, d => D.first (.error e) d ∨
    ∃ r rs, D.first (.ok rs) d ∧ r ∈ rs ∧ D.each r (.error e) d
  | .ok (), d => ∃ rs, D.first (.ok rs) d ∧ ∀ r ∈ rs, D.each r (.ok []) d

def Duty.judgement (D : Duty C catalog) (stance : Nat → Stance) (d : Data σ) : Job.Judgement σ where
  holds rest n x := x.Safe C catalog D.place (D.promise rest n) (stance n) d
  first h := h
  closed {rest n x o} h ho := by
    rw [Thread.eq_ended ho] at h
    obtain ⟨r, -, he⟩ := h.2 d .refl
    cases o with
    | error e => rfl
    | ok rs => exact D.closed he

namespace Job

def Honours (D : Duty C catalog) (stance : Nat → Stance) (t : Job σ) (d : Data σ) : Prop :=
  t.Holds D.provisioner D.container D.place (D.judgement stance d)

variable {D : Duty C catalog} {stance : Nat → Stance} {t : Job σ} {d : Data σ}

theorem Honours.safe (h : t.Honours D stance d) {n : Nat} {x : Thread σ}
    (hx : t.threads[n]? = some x) :
    x.Safe C catalog D.place (D.promise t.rest n) (stance n) d :=
  h.threads n x hx

/-- A thread that has ended has kept its promise, and others cannot break it. -/
theorem Honours.promise (h : t.Honours D stance d) {n : Nat} {x : Thread σ} {o : Outcome}
    (hx : t.threads[n]? = some x) (ho : x.outcome? = some o) {d' : Data σ}
    (hr : C.Rely none d d') : stance n = .idle ∧ D.promise t.rest n o d' := by
  have hs := h.safe hx
  rw [Thread.eq_ended ho] at hs
  exact ⟨hs.1, hs.2 d' hr⟩

theorem Honours.begin (h : t.Honours D stance d) {n : Nat} {f : Requirement}
    (hidle : stance (n + 1) = .idle) (hf : t.rest[n]? = some f) :
    (Thread.ready (D.provisioner.ensure D.container f)).Safe C catalog D.place
      (D.promise t.rest (n + 1)) (stance (n + 1)) d := by
  have hmem := List.mem_of_getElem? hf
  obtain ⟨x, hx, ho⟩ := outcome?_of_mem_rest hmem
  rw [hidle]
  refine ⟨trivial, fun d' hd hi => ?_⟩
  refine (D.follow (h.promise hx ho hd).2 hi f hmem).mono fun s o d he => ?_
  exact ⟨he.1, he.2.1, fun d' hd => ⟨f, hf, he.2.2 d' hd⟩⟩

theorem Honours.result (h : t.Honours D stance d) (hf : t.isFinished = true) :
    D.Kept t.result d := by
  rcases h.accounted.result_of_finished hf with ⟨e, he, i, x, hx, ho⟩ | ⟨hok, hall⟩
  · rw [he]
    have hp := (h.promise hx ho .refl).2
    cases i with
    | zero => exact Or.inl hp
    | succ i =>
        obtain ⟨r, hr, hp⟩ := hp
        have hm := List.mem_of_getElem? hr
        obtain ⟨x, hx, ho⟩ := outcome?_of_mem_rest hm
        exact Or.inr ⟨r, t.rest, (h.promise hx ho .refl).2, hm, hp⟩
  · rw [hok]
    obtain ⟨hlen, -⟩ := h.accounted.ended_of_finished hf
    have hkept : ∀ i, i < t.threads.length → ∃ x rs, t.threads[i]? = some x ∧
        x.outcome? = some (.ok rs) ∧ D.promise t.rest i (.ok rs) d := fun i hi => by
      have hx : t.threads[i]? = some t.threads[i] := List.getElem?_eq_getElem hi
      obtain ⟨rs, ho⟩ := hall i _ hx
      exact ⟨_, rs, hx, ho, (h.promise hx ho .refl).2⟩
    obtain ⟨x, rs, hx, ho, hp⟩ := hkept 0 (by omega)
    have hne : t.taken ≠ 0 := by
      have : t.taken = t.threads.length := by
        simpa [isFinished] using (Bool.and_eq_true_iff.1 hf).2
      omega
    obtain rfl : t.rest = rs := rest_eq hne hx ho
    refine ⟨t.rest, hp, fun r hr => ?_⟩
    obtain ⟨i, hi⟩ := List.mem_iff_getElem?.1 hr
    have hlt := (List.getElem?_eq_some_iff.1 hi).1
    obtain ⟨-, rs', -, -, r', hr', he⟩ := hkept (i + 1) (by omega)
    obtain rfl : r' = r := Option.some.inj (hr'.symm.trans hi)
    obtain rfl := D.closed he
    exact he

end Job

namespace Pool

structure Safe (D : Nat → Duty C catalog) (stance : ThreadId → Stance) (p : Pool σ) : Prop where
  orderly : Orderly C (fun id => (D id.job).place) stance p.world
  inv : C.inv p.world.toData
  jobs : ∀ (i : Nat) (t : Job σ), p.jobs[i]? = some t →
    t.Honours (D i) (fun n => stance ⟨i, n⟩) p.world.toData ∧ t.Tidy
  idle : ∀ id : ThreadId, p.thread? id = none → stance id = .idle

variable {D : Nat → Duty C catalog} {stance : ThreadId → Stance} {p p' : Pool σ}

theorem Safe.thread (h : p.Safe D stance) {id : ThreadId} (hid : stance id ≠ .idle) :
    ∃ t x, p.jobs[id.job]? = some t ∧ t.threads[id.thread]? = some x ∧
      x.Safe C catalog (D id.job).place ((D id.job).promise t.rest id.thread) (stance id)
        p.world.toData := by
  obtain ⟨x, hx⟩ := Option.ne_none_iff_exists'.1 (mt (h.idle id) hid)
  obtain ⟨t, ht, hx⟩ := Option.bind_eq_some_iff.1 hx
  exact ⟨t, x, ht, hx, (h.jobs _ t ht).1.safe hx⟩

theorem Safe.start {w : World σ} {jobs : List (Job σ)} (hinv : C.inv w.toData)
    (hrest : ∀ key, C.atRest key w.toData) (hlocks : ∀ i, (w.locks i).InOrder fun _ => .idle)
    (hjobs : ∀ (i : Nat) (t : Job σ), jobs[i]? = some t → ∃ flow : Flow Outcome,
      t = .start (D i).provisioner (D i).container (D i).place flow ∧
      ∀ d, C.inv d → flow.Safe C catalog (D i).place (Ends C (D i).first) .idle d) :
    Safe D (fun _ => .idle) ⟨w, jobs⟩ where
  orderly := by
    refine ⟨fun i => ?_, fun i key _ => hrest (i, key)⟩
    have hidle : atSite (fun id => (D id.job).place) (fun _ => .idle) i = fun _ => .idle := by
      funext id
      simp [atSite]
    rw [hidle]
    exact hlocks i
  inv := hinv
  jobs := by
    intro i t ht
    obtain ⟨flow, rfl, hflow⟩ := hjobs i t ht
    exact ⟨Job.holds_start ⟨trivial, fun d _ hi => hflow d hi⟩, Job.start_tidy _ _ _ _⟩
  idle := fun _ _ => rfl

/-- When all jobs are finished, no lock is in use. -/
theorem Safe.unlocked (h : p.Safe D stance) (hf : ∀ t ∈ p.jobs, t.isFinished = true) (i : Nat) :
    (p.world.locks i).InOrder fun _ => .idle := by
  have hidle : ∀ id, stance id = .idle := by
    intro id
    refine Decidable.byContradiction fun hne => ?_
    obtain ⟨t, x, ht, hx, -⟩ := h.thread hne
    obtain ⟨hhon, -⟩ := h.jobs _ t ht
    obtain ⟨o, ho⟩ := (hhon.accounted.ended_of_finished (hf t (List.mem_of_getElem? ht))).2 _ x hx
    exact hne (hhon.promise hx ho .refl).1
  have hsite : atSite (fun id => (D id.job).place) stance i = fun _ => .idle := by
    funext id
    simp [atSite, hidle]
  exact hsite ▸ h.orderly.locks i

theorem safe_settle {stance' : ThreadId → Stance} {id : ThreadId} {q : Progress σ Outcome}
    {d : Data σ} {Q : Outcome → Data σ → Prop} {x : Thread σ} (id' : ThreadId)
    (hh : Handover C (fun id => (D id.job).place) id stance stance' d q.world.toData q.woken)
    (hself : id' = id → q.pause.Safe C catalog (D id'.job).place Q (stance' id') q.world.toData)
    (hx : x.Safe C catalog (D id'.job).place Q (stance id') d) :
    (settle id q.pause q.woken id' x).Safe C catalog (D id'.job).place Q (stance' id')
      q.world.toData := by
  by_cases hn : id' = id
  · have hw : id' ∉ q.woken := fun hm => (hh.woken _ hm).1 hn
    rw [settle, if_neg hw, if_pos hn]
    exact hself hn
  · by_cases hw : id' ∈ q.woken
    · obtain ⟨-, hr, key, l, hst, hst', ha⟩ := hh.woken _ hw
      simp only [settle, hw, hn, if_true, if_false]
      rw [hst']
      rw [hst] at hx
      exact hx.grant hr ha
    · obtain ⟨hst, hr⟩ := hh.others _ hn hw
      simp only [settle, hw, hn, if_false]
      rw [hst]
      exact hx.rely hr

theorem idle_of_handover {stance' : ThreadId → Stance} {id id' : ThreadId} {d d' : Data σ}
    {woken : List ThreadId} {places : ThreadId → Place}
    (hh : Handover C places id stance stance' d d' woken) (hne : id' ≠ id)
    (hidle : stance id' = .idle) : stance' id' = .idle ∧ C.Rely none d d' := by
  have hw : id' ∉ woken := fun hm => by
    obtain ⟨-, -, key, l, hst, -⟩ := hh.woken _ hm
    rw [hidle] at hst
    cases hst
  obtain ⟨hst, hrely⟩ := hh.others id' hne hw
  rw [hidle, Stance.held_idle] at hrely
  exact ⟨hst.trans hidle, hrely⟩

/-- Whichever thread goes on, and however, every job keeps doing its duty, and the data change as
the contract allows. -/
theorem Safe.goes (h : p.Safe D stance) {id : ThreadId} {ds : List Deed}
    (hgoes : p.Goes catalog id ds p') :
    (∃ stance', p'.Safe D stance') ∧ C.Rely none p.world.toData p'.world.toData := by
  cases hgoes with
  | @on t x flow w now ds q ht hx hwake hadv =>
      obtain ⟨hhon, -⟩ := h.jobs _ t ht
      obtain ⟨hl, hd, hflow⟩ := (hhon.safe hx).wake h.inv hwake
      have horder : Orderly C (fun id => (D id.job).place) stance w ∧
          Handover C (fun id => (D id.job).place) id stance stance p.world.toData w.toData [] := by
        obtain ⟨d, locks⟩ := w
        obtain rfl : locks = p.world.locks := hl
        rcases hd with rfl | hc
        · exact ⟨h.orderly, .refl⟩
        · exact ⟨h.orderly.change hc, .of_change h.orderly hc⟩
      rw [hhon.place] at hadv
      obtain ⟨stance', hadvanced⟩ := hadv.safe horder.1 hflow
      have hhand := horder.2.trans hadvanced.handover
      rw [List.nil_append] at hhand
      have hsettle : ∀ (i n : Nat) (t' : Job σ) (y : Thread σ), p.jobs[i]? = some t' →
          t'.threads[n]? = some y →
          y.Safe C catalog (D i).place ((D i).promise t'.rest n) (stance ⟨i, n⟩) p.world.toData →
          (settle id q.pause q.woken ⟨i, n⟩ y).Safe C catalog (D i).place
            ((D i).promise t'.rest n) (stance' ⟨i, n⟩) q.world.toData := by
        intro i n t' y ht' hy hsafe
        refine safe_settle ⟨i, n⟩ hhand ?_ hsafe
        rintro rfl
        obtain rfl : t = t' := Option.some.inj (ht.symm.trans ht')
        exact hadvanced.safe
      have hnew : ∀ id' : ThreadId, p.thread? id' = none → stance' id' = .idle ∧
          C.Rely none p.world.toData q.world.toData := by
        intro id' hnone
        refine idle_of_handover hhand ?_ (h.idle id' hnone)
        rintro rfl
        rw [thread?_eq ht, hx] at hnone
        cases hnone
      rw [world_after]
      refine ⟨⟨stance', ?_, ?_, ?_, fun id' hid' => (hnew id' (thread?_of_after hid')).1⟩,
        (hnew ⟨p.jobs.length, 0⟩ (by simp [thread?])).2⟩
      · rw [world_after]
        exact hadvanced.orderly
      · rw [world_after]
        exact hadvanced.inv
      · intro i t' ht'
        rw [world_after]
        obtain ⟨hholds, htidy⟩ := holds_after
          (K := (D i).judgement (fun n => stance' ⟨i, n⟩) q.world.toData) ht hx hwake ht'
          (fun t' ht' => (h.jobs i t' ht').1) (fun t' n y => hsettle i n t' y)
          fun t' n f ht' hn hf => Job.Honours.begin ht' (hnew _ hn).1 hf
        exact ⟨hholds, htidy fun t' ht' => (h.jobs i t' ht').2⟩

theorem Safe.outside (h : p.Safe D stance) {d : Data σ} (hc : C.change none p.world.toData d)
    (hi : C.inv d) : { p with world := { p.world with toData := d } }.Safe D stance where
  orderly := ⟨h.orderly.locks, fun i key hn =>
    C.atRest_change hc (by simp) (h.orderly.atRest i key hn)⟩
  inv := hi
  jobs := by
    intro i t ht
    obtain ⟨hhon, htidy⟩ := h.jobs i t ht
    refine ⟨{ hhon with threads := fun n x hx => (hhon.safe hx).rely (.single ?_ hc) }, htidy⟩
    cases stance ⟨i, n⟩ <;> simp
  idle := h.idle

/-- Jobs do their duty along every run, and the data change as the contract allows. -/
theorem Safe.run (h : p.Safe D stance) {outside : σ → σ → Prop}
    (ho : ∀ (d : Data σ) (s : σ), C.inv d → outside d.catalog s →
      C.change none d { d with catalog := s } ∧ C.inv { d with catalog := s })
    {n : Nat} {ds : Chronicle} (hr : Run catalog (InCatalog outside) p n ds p') :
    (∃ stance', p'.Safe D stance') ∧ C.Rely none p.world.toData p'.world.toData := by
  induction hr with
  | start => exact ⟨⟨stance, h⟩, .refl⟩
  | goes _ hgoes ih =>
      obtain ⟨⟨stance', h'⟩, hrely⟩ := ih
      obtain ⟨hsafe, hrely'⟩ := h'.goes hgoes
      exact ⟨hsafe, hrely.trans hrely'⟩
  | others _ hs ih =>
      obtain ⟨⟨stance', h'⟩, hrely⟩ := ih
      obtain ⟨s, hs, rfl⟩ := hs
      obtain ⟨hc, hi⟩ := ho _ _ h'.inv hs
      exact ⟨⟨stance', h'.outside hc hi⟩, hrely.trans (.single (Or.inl rfl) hc)⟩

end Pool
end DocQuery.Provision
