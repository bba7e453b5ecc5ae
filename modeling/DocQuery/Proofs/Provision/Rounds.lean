import DocQuery.Proofs.Provision.Pools

/-! # One job by itself against a clock

When a job runs alone and each of its threads waits at most once, all of them for the same time, the
threads go on in rounds: those that can go on begin to wait, the clock jumps, and they end. However
many may run at a time, they begin to wait, and they end, in the order in which they began.
-/

namespace DocQuery.Provision

variable {σ : Type} {catalog : Catalog σ}

namespace Pool

theorem getElem?_settleJob {j : Job σ} {i : Nat} {x : Thread σ} {pause : Pause σ Outcome}
    (hx : j.threads[i]? = some x) :
    (settleJob ⟨0, i⟩ pause [] 0 j).threads[i]? = some (.paused pause) := by
  have hlt := (List.getElem?_eq_some_iff.1 hx).1
  simp [settleJob, Job.mapThreads, Job.collect, Job.refill, List.getElem?_append_left, hlt,
    settle]

theorem length_le_settleJob (j : Job σ) (i : Nat) (pause : Pause σ Outcome) :
    j.threads.length ≤ (settleJob ⟨0, i⟩ pause [] 0 j).threads.length := by
  simp [settleJob, Job.mapThreads, Job.collect, Job.refill]

theorem range'_settleJob (j : Job σ) (i : Nat) (pause : Pause σ Outcome) {g : Nat}
    (hg : g ≤ j.threads.length) :
    let j' := settleJob ⟨0, i⟩ pause [] 0 j
    List.range' g (j.threads.length - g) ++
        List.range' j.threads.length (j'.threads.length - j.threads.length) =
      List.range' g (j'.threads.length - g) := by
  intro j'
  have hle : j.threads.length ≤ j'.threads.length := length_le_settleJob j i pause
  have happend : List.range' g (j.threads.length - g) ++ List.range' (g + (j.threads.length - g))
      (j'.threads.length - j.threads.length) = List.range' g (j'.threads.length - g) := by
    rw [List.range'_append_1]
    congr 1
    omega
  rwa [Nat.add_sub_cancel' hg] at happend

end Pool

namespace Timed

/-- A run whose steps use up a potential comes to a rest, and more fuel does not matter. -/
theorem run_settles {I : Nat → Timed σ → Prop} {Q : Timed σ → Prop}
    (hstep : ∀ n t, I n t → (t.next? catalog = none ∧ Q t) ∨
      ∃ t' m, t.next? catalog = some t' ∧ m < n ∧ I m t')
    {n fuel : Nat} {t : Timed σ} (h : I n t) (hfuel : n ≤ fuel) : Q (t.run catalog fuel) := by
  induction fuel generalizing n t with
  | zero =>
      rcases hstep n t h with ⟨-, hq⟩ | ⟨t', m, -, hm, -⟩
      · exact hq
      · omega
  | succ fuel ih =>
      rw [run]
      rcases hstep n t h with ⟨hnone, hq⟩ | ⟨t', m, hsome, hm, h'⟩
      · rw [hnone]
        exact hq
      · rw [hsome]
        exact ih h' (by omega)

theorem foldl_addTurn (job : Nat) (l is : List Nat) :
    is.foldl (fun turns i => addTurn ⟨job, i⟩ turns) [(job, l)] = [(job, l ++ is)] := by
  induction is generalizing l with
  | nil => simp
  | cons i is ih =>
      rw [List.foldl_cons, addTurn, if_pos rfl, ih, List.append_assoc]
      rfl

theorem foldl_enqueue {α : Type} (f : α → ThreadId) (as : List α) (t : Timed σ) :
    as.foldl (fun t a => t.enqueue (f a)) t =
      { t with turns := as.foldl (fun turns a => addTurn (f a) turns) t.turns } := by
  induction as generalizing t with
  | nil => rfl
  | cons a as ih => exact ih _

/-- What comes of a job that runs alone when one of its threads goes on until it pauses, with others
behind it that have their turn. Threads that begin with this line up. -/
def goneOn (t : Timed σ) (j : Job σ) (i : Nat) (behind : List Nat) (pause : Pause σ Outcome)
    (w : World σ) : Timed σ :=
  let j' := Pool.settleJob ⟨0, i⟩ pause [] 0 j
  let begun := List.range' j.threads.length (j'.threads.length - j.threads.length)
  { pool := ⟨w, [j']⟩
    now := t.now
    timers := t.timers ++
      ((Thread.paused pause).delay?.map fun ms => (t.now + ms, ThreadId.mk 0 i)).toList
    turns := [(0, behind ++ begun)] }

theorem next?_alone {t : Timed σ} {j : Job σ} {i : Nat} {l : List Nat} {x : Thread σ}
    {flow : Flow Outcome} {w w' : World σ} {pause : Pause σ Outcome} (hj : t.pool.jobs = [j])
    (hl : t.turns = [(0, i :: l)]) (hx : j.threads[i]? = some x)
    (hw : x.wake? t.pool.world = some (flow, w))
    (hadvance : flow.advance catalog t.now j.place ⟨0, i⟩ w = ⟨pause, w', []⟩) :
    t.next? catalog = some (t.goneOn j i l pause w') := by
  let j' := Pool.settleJob ⟨0, i⟩ pause [] 0 j
  have hjob : t.pool.jobs[(ThreadId.mk 0 i).job]? = some j := by rw [hj]; rfl
  have hresume : t.pool.resume? catalog t.now ⟨0, i⟩ = some (⟨w', [j']⟩, []) := by
    rw [Pool.resume?_eq hjob hx hw, hadvance, Pool.after_of_woken_nil hjob rfl, hj]
    rfl
  have hthread : (Pool.mk w' [j']).thread? ⟨0, i⟩ = some (.paused pause) :=
    Pool.getElem?_settleJob hx
  have hbefore : begun { t with turns := [(0, l)] } 0 = j.threads.length := by simp [begun, hj]
  rw [next?, hl]
  dsimp only
  rw [resume, hresume]
  dsimp only
  rw [hthread, hbefore]
  cases hd : (Thread.paused pause).delay? with
  | none =>
      simp only [Option.bind_some, hd, List.foldl_nil]
      rw [foldl_enqueue fun i => ThreadId.mk 0 i]
      simp [begun, foldl_addTurn, goneOn, hd, j']
  | some ms =>
      simp only [Option.bind_some, hd, List.foldl_nil]
      rw [foldl_enqueue fun i => ThreadId.mk 0 i]
      simp [begun, foldl_addTurn, goneOn, hd, j']

end Timed

/-! ## Plans -/

/-- What a job does that runs alone: how its first thread begins and ends, how long each thread
waits (not at all if that is zero), and what holds of the world when so many threads have ended and
so many have begun to wait. -/
structure Plan (σ : Type) where
  provisioner : Provisioner
  container : Container
  place : Place
  first : Flow Outcome
  outcome : Outcome
  delay : Nat
  Holds : (ended sent : Nat) → World σ → Prop

namespace Plan

variable (c : Plan σ)

def rest : List Requirement := c.outcome.toOption.getD []

def flows : List (Flow Outcome) := c.first :: c.rest.map (c.provisioner.ensure c.container)

def ends : Nat → Outcome
  | 0 => c.outcome
  | _ + 1 => .ok []

def EndsNow (catalog : Catalog σ) (i sent : Nat) (p : Flow Outcome) (w : World σ) : Prop :=
  ∀ now, ∃ w', p.advance catalog now c.place ⟨0, i⟩ w = ⟨.ended (c.ends i), w', []⟩ ∧
    c.Holds (i + 1) sent w'

def Due (catalog : Catalog σ) (i : Nat) (x : Thread σ) : Prop :=
  x.delay? = some c.delay ∧ ∀ sent w, i < sent → c.Holds i sent w →
    ∃ p w', x.wake? w = some (p, w') ∧ c.EndsNow catalog i sent p w'

/-- Threads keep to a plan if each one that goes on at its turn ends or begins to wait as
planned. -/
structure Kept (catalog : Catalog σ) : Prop where
  prompt : c.delay = 0 → ∀ {i p w}, c.flows[i]? = some p → c.Holds i i w →
    c.EndsNow catalog i (i + 1) p w
  sends : c.delay ≠ 0 → ∀ {a i p w}, c.flows[i]? = some p → a ≤ i → c.Holds a i w →
    ∀ now, ∃ pause w', p.advance catalog now c.place ⟨0, i⟩ w = ⟨pause, w', []⟩ ∧
      c.Due catalog i (.paused pause) ∧ c.Holds a (i + 1) w'

/-- Where a thread stands when the first `a` have ended and the first `g` have begun to wait. -/
def Stands (catalog : Catalog σ) (a g i : Nat) (x : Thread σ) : Prop :=
  if i < a then x = .paused (.ended (c.ends i))
  else if i < g then c.Due catalog i x
  else ∃ p, c.flows[i]? = some p ∧ x = .ready p

structure UnderWay (catalog : Catalog σ) (a g : Nat) (j : Job σ) : Prop where
  provisioner : j.provisioner = c.provisioner
  container : j.container = c.container
  place : j.place = c.place
  tidy : j.Tidy
  stands : ∀ i x, j.threads[i]? = some x → c.Stands catalog a g i x
  sent_le : g ≤ j.threads.length

variable {c} {a b g i : Nat} {x : Thread σ} {j : Job σ} {t : Timed σ}

theorem Due.outcome? (h : c.Due catalog i x) : x.outcome? = none := by
  have hdelay := h.1
  match x with
  | .ready _ => rfl
  | .paused (.ended _) => simp [Thread.delay?] at hdelay
  | .paused (.asleep _ _) => rfl
  | .paused (.awaiting _ _ _ _) => rfl
  | .paused (.queued _ _) => rfl

theorem Stands.congr {a' g' : Nat} (h : c.Stands catalog a g i x) (ha : i < a' ↔ i < a)
    (hg : i < g' ↔ i < g) : c.Stands catalog a' g' i x := by
  simp only [Stands, ha, hg]
  exact h

theorem Stands.outcome? (h : c.Stands catalog a g i x) :
    x.outcome? = if i < a then some (c.ends i) else none := by
  rw [Stands] at h
  by_cases ha : i < a
  · rw [if_pos ha] at h ⊢
    rw [h]
    rfl
  · rw [if_neg ha] at h ⊢
    by_cases hg : i < g
    · rw [if_pos hg] at h
      exact h.outcome?
    · rw [if_neg hg] at h
      obtain ⟨p, -, rfl⟩ := h
      rfl

theorem rest_eq_of_taken (htaken : j.taken ≠ 0) (hbooks : j.Accounted)
    (hstands : ∀ i x, j.threads[i]? = some x → c.Stands catalog a g i x) : j.rest = c.rest := by
  have hlt : 0 < j.threads.length := List.length_pos_iff.2 hbooks.begun
  have hx := List.getElem?_eq_getElem hlt
  have hended := hbooks.ended 0 _ (Nat.pos_of_ne_zero htaken) hx
  have ho := (hstands 0 _ hx).outcome?
  by_cases ha : 0 < a
  · rw [if_pos ha] at ho
    rw [Job.rest_eq htaken hx ho]
    rfl
  · rw [if_neg ha] at ho
    exact absurd ho hended

theorem UnderWay.length_le (h : c.UnderWay catalog a g j) :
    j.threads.length ≤ c.rest.length + 1 := by
  have hle := h.tidy.begun_le
  by_cases htaken : j.taken = 0
  · rw [Job.rest_of_taken_zero htaken, List.length_nil] at hle
    omega
  · rwa [rest_eq_of_taken htaken h.tidy.toAccounted h.stands] at hle

/-- Once the threads stand as planned, the job takes what is due and begins further threads. -/
theorem UnderWay.collect_refill (hprovisioner : j.provisioner = c.provisioner)
    (hcontainer : j.container = c.container) (hplace : j.place = c.place) (hbooks : j.Accounted)
    (hstands : ∀ i x, j.threads[i]? = some x → c.Stands catalog a g i x) (hended : a ≤ g)
    (hsent : g ≤ j.threads.length) : c.UnderWay catalog a g j.collect.refill := by
  have hclosed : j.Closed := by
    intro i x o hx ho
    rw [(hstands _ x hx).outcome?] at ho
    split at ho
    · obtain rfl : .ok [] = o := Option.some.inj ho
      rfl
    · cases ho
  have hcollected := hbooks.collect hclosed
  refine ⟨hprovisioner, hcontainer, hplace, hcollected.refill_tidy fun _ => Job.collect_due _,
    fun i x hx => ?_, Nat.le_trans hsent (by simp [Job.refill, Job.collect])⟩
  rcases hcollected.refill_cases hx with hx | ⟨n, r, rfl, hle, hr, rfl⟩
  · exact hstands i x hx
  · have htaken : j.collect.taken ≠ 0 := fun hz => by simp [Job.rest_of_taken_zero hz] at hr
    have hrest : j.collect.rest = c.rest := rest_eq_of_taken htaken hcollected hstands
    have hle : j.threads.length ≤ n + 1 := hle
    rw [Stands, if_neg (by omega), if_neg (by omega)]
    refine ⟨_, ?_, rfl⟩
    show (c.rest.map _)[n]? = _
    rw [← hrest, List.getElem?_map, hr]
    show some (c.provisioner.ensure c.container r) = some (j.provisioner.ensure j.container r)
    rw [hprovisioner, hcontainer]

theorem UnderWay.settle (h : c.UnderWay catalog a g j) {pause : Pause σ Outcome} {a' g' : Nat}
    (hx : j.threads[i]? = some x) (hopen : x.outcome? = none)
    (hnew : c.Stands catalog a' g' i (.paused pause))
    (hothers : ∀ n, n ≠ i → (n < a' ↔ n < a) ∧ (n < g' ↔ n < g)) (hended : a' ≤ g')
    (hsent : g' ≤ j.threads.length) :
    c.UnderWay catalog a' g' (Pool.settleJob ⟨0, i⟩ pause [] 0 j) := by
  have hkeep : ∀ (n : Nat) (y : Thread σ), j.threads[n]? = some y → y.outcome? ≠ none →
      Pool.settle ⟨0, i⟩ pause [] ⟨0, n⟩ y = y := by
    intro n y hy
    refine Pool.settle_of_ended ?_
    rintro ⟨⟩
    obtain rfl : x = y := Option.some.inj (hx.symm.trans hy)
    exact hopen
  refine UnderWay.collect_refill h.provisioner h.container h.place
    (h.tidy.toAccounted.mapThreads hkeep) (fun n y hy => ?_) hended (by simpa [Job.mapThreads])
  simp only [Job.mapThreads, List.getElem?_mapIdx, Option.map_eq_some_iff] at hy
  obtain ⟨y, hy, rfl⟩ := hy
  by_cases hn : n = i
  · subst hn
    simpa [Pool.settle] using hnew
  · have hne : (⟨0, n⟩ : ThreadId) ≠ ⟨0, i⟩ := fun he => hn (congrArg ThreadId.thread he)
    simp only [Pool.settle, List.not_mem_nil, hne, if_false]
    exact (h.stands n y hy).congr (hothers n hn).1 (hothers n hn).2

/-- A job all of whose threads have ended is finished: every planned thread has begun, and the
result is that of the first. -/
theorem UnderWay.finished (h : c.UnderWay catalog a g j) (hall : j.threads.length ≤ a) :
    j.isFinished = true ∧ j.threads.length = c.rest.length + 1 ∧
      j.result = c.outcome.map fun _ => () := by
  have hends : ∀ (i : Nat) (x : Thread σ), j.threads[i]? = some x →
      x.outcome? = some (c.ends i) := by
    intro i x hx
    have hlt := (List.getElem?_eq_some_iff.1 hx).1
    rw [(h.stands i x hx).outcome?, if_pos (by omega)]
  have hfinished : j.isFinished = true := h.tidy.finished fun i x hx => by simp [hends i x hx]
  have hpos := List.length_pos_iff.2 h.tidy.begun
  have htaken : j.taken ≠ 0 := by
    have hbooks : j.backlog = [] ∧ j.taken = j.threads.length := by
      simpa [Job.isFinished] using hfinished
    omega
  have hlength := (h.tidy.toAccounted.ended_of_finished hfinished).1
  rw [rest_eq_of_taken htaken h.tidy.toAccounted h.stands] at hlength
  refine ⟨hfinished, hlength, ?_⟩
  rcases h.tidy.toAccounted.result_of_finished hfinished with ⟨e, he, i, x, hx, ho⟩ | ⟨hok, hall⟩
  · rw [hends i x hx] at ho
    cases i with
    | zero =>
        have houtcome : c.outcome = .error e := Option.some.inj ho
        rw [he, houtcome]
        rfl
    | succ i => cases ho
  · obtain ⟨rs, ho⟩ := hall 0 _ (List.getElem?_eq_getElem hpos)
    rw [hends 0 _ (List.getElem?_eq_getElem hpos)] at ho
    have houtcome : c.outcome = .ok rs := Option.some.inj ho
    rw [hok, houtcome]
    rfl

/-! ## Rounds -/

/-- A job that runs alone, in the course of a round. The first `a` threads have ended, those before
`b` have been woken and end next, and those before `g` wait. The others that have begun can go on
behind the ones that were woken. -/
structure Round (c : Plan σ) (catalog : Catalog σ) (a b g : Nat) (j : Job σ) (t : Timed σ) :
    Prop where
  jobs : t.pool.jobs = [j]
  underWay : c.UnderWay catalog a g j
  holds : c.Holds a g t.pool.world
  ended_le : a ≤ b
  woken_le : b ≤ g
  apart : a = b ∨ b = g
  prompt : c.delay = 0 → a = g
  turns : t.turns = [(0, List.range' a (b - a) ++ List.range' g (j.threads.length - g))] ∨
    t.turns = [] ∧ a = b ∧ g = j.threads.length
  timers : t.timers = (List.range' b (g - b)).map fun i => (t.now + c.delay, ThreadId.mk 0 i)

def potential (c : Plan σ) (a b g : Nat) (t : Timed σ) : Nat :=
  3 * (c.rest.length + 1 - a) + 3 * (c.rest.length + 1 - g) + 2 * (g - b) + t.turns.length

theorem Round.ended (h : c.Round catalog a g g j t) {g' : Nat} {p : Flow Outcome} {w : World σ}
    (hg : a < g') (hsame : ∀ n, n ≠ a → (n < g' ↔ n < g)) (hprompt : c.delay = 0 → a + 1 = g')
    (hturns : t.turns = [(0, a :: (List.range' (a + 1) (g' - (a + 1)) ++
      List.range' g' (j.threads.length - g')))])
    (hsent : g' ≤ j.threads.length) (hx : j.threads[a]? = some x) (hopen : x.outcome? = none)
    (hw : x.wake? t.pool.world = some (p, w)) (hends : c.EndsNow catalog a g' p w) : ∃ j' t',
    t.next? catalog = some t' ∧ c.Round catalog (a + 1) g' g' j' t' ∧ t'.turns.length = 1 := by
  obtain ⟨w', hadvance, hholds⟩ := hends t.now
  rw [← h.underWay.place] at hadvance
  refine ⟨Pool.settleJob ⟨0, a⟩ (.ended (c.ends a)) [] 0 j, _,
    Timed.next?_alone h.jobs hturns hx hw hadvance, ?_, rfl⟩
  have hnew : c.Stands catalog (a + 1) g' a (.paused (.ended (c.ends a))) := by
    rw [Stands, if_pos (Nat.lt_succ_self a)]
  have hunderWay := h.underWay.settle hx hopen hnew (fun n hn => ⟨by omega, hsame n hn⟩) hg hsent
  refine ⟨rfl, hunderWay, hholds, hg, Nat.le_refl g', .inr rfl, hprompt, .inl ?_, ?_⟩
  · simp only [Timed.goneOn]
    rw [List.append_assoc, Pool.range'_settleJob j a _ hsent]
  · simp [Timed.goneOn, h.timers, Thread.delay?]

theorem Round.wake (h : c.Round catalog a g g j t) (hag : a < g) : ∃ j' t',
    t.next? catalog = some t' ∧ c.Round catalog (a + 1) g g j' t' ∧ t'.turns.length = 1 := by
  have hsent := h.underWay.sent_le
  have hx := List.getElem?_eq_getElem (Nat.lt_of_lt_of_le hag hsent)
  have hdue := h.underWay.stands a _ hx
  rw [Stands, if_neg (Nat.lt_irrefl a), if_pos hag] at hdue
  obtain ⟨p, w, hw, hends⟩ := hdue.2 g _ hag h.holds
  refine h.ended hag (fun _ _ => Iff.rfl) (fun hz => absurd (h.prompt hz) (by omega)) ?_ hsent hx
    hdue.outcome? hw hends
  rcases h.turns with hturns | ⟨-, hag', -⟩
  · obtain ⟨n, hn⟩ : ∃ n, g - a = n + 1 := ⟨g - a - 1, by omega⟩
    rw [hturns, hn, List.range'_succ, show g - (a + 1) = n by omega]
    rfl
  · omega

theorem Round.ready (h : c.Round catalog a a g j t) (hg : g < j.threads.length) :
    (∃ p, c.flows[g]? = some p ∧ j.threads[g]? = some (.ready p)) ∧
      t.turns = [(0, g :: List.range' (g + 1) (j.threads.length - (g + 1)))] := by
  have hx := List.getElem?_eq_getElem hg
  have hag := h.woken_le
  constructor
  · have hready := h.underWay.stands g _ hx
    rw [Stands, if_neg (by omega), if_neg (Nat.lt_irrefl g)] at hready
    obtain ⟨p, hp, hready⟩ := hready
    exact ⟨p, hp, hready ▸ hx⟩
  · rcases h.turns with hturns | ⟨-, -, hg'⟩
    · obtain ⟨n, hn⟩ : ∃ n, j.threads.length - g = n + 1 := ⟨j.threads.length - g - 1, by omega⟩
      rw [hturns, Nat.sub_self, hn, List.range'_succ, show j.threads.length - (g + 1) = n by omega]
      rfl
    · omega

/-- Where nothing takes time a thread ends as soon as it goes on. -/
theorem Round.pass (hkept : c.Kept catalog) (hdelay : c.delay = 0)
    (h : c.Round catalog a a a j t) (ha : a < j.threads.length) : ∃ j' t',
    t.next? catalog = some t' ∧ c.Round catalog (a + 1) (a + 1) (a + 1) j' t' ∧
      t'.turns.length = 1 := by
  obtain ⟨⟨p, hp, hx⟩, hturns⟩ := h.ready ha
  refine h.ended (Nat.lt_succ_self a) (fun n hn => by omega) (fun _ => rfl) ?_ ha hx rfl rfl
    (hkept.prompt hdelay hp h.holds)
  rw [hturns, Nat.sub_self]
  rfl

theorem Round.send (hkept : c.Kept catalog) (hdelay : c.delay ≠ 0)
    (h : c.Round catalog a a g j t) (hg : g < j.threads.length) : ∃ j' t',
    t.next? catalog = some t' ∧ c.Round catalog a a (g + 1) j' t' ∧ t'.turns.length = 1 := by
  have hag := h.woken_le
  obtain ⟨⟨p, hp, hx⟩, hturns⟩ := h.ready hg
  obtain ⟨pause, w', hadvance, hdue, hholds⟩ := hkept.sends hdelay hp hag h.holds t.now
  rw [← h.underWay.place] at hadvance
  refine ⟨Pool.settleJob ⟨0, g⟩ pause [] 0 j, _,
    Timed.next?_alone h.jobs hturns hx rfl hadvance, ?_, rfl⟩
  have hnew : c.Stands catalog a (g + 1) g (.paused pause) := by
    rw [Stands, if_neg (by omega), if_pos (Nat.lt_succ_self g)]
    exact hdue
  have hunderWay := h.underWay.settle hx rfl hnew (fun n hn => ⟨Iff.rfl, by omega⟩) (by omega) hg
  refine ⟨rfl, hunderWay, hholds, Nat.le_refl a, by omega, .inl rfl,
    fun hz => absurd hz hdelay, .inl ?_, ?_⟩
  · simp only [Timed.goneOn]
    rw [Nat.sub_self, Pool.range'_settleJob j g pause hg]
    rfl
  · simp only [Timed.goneOn]
    rw [h.timers, hdue.1, show g + 1 - a = g - a + 1 by omega, List.range'_concat]
    simp [Nat.add_sub_cancel' hag]

/-- When nothing can go on, the clock jumps and all that wait are woken. -/
theorem Round.jump (h : c.Round catalog a a g j t) (hturns : t.turns = [])
    (hlength : g = j.threads.length) (hag : a < g) : ∃ t', t.next? catalog = some t' ∧
      c.Round catalog a g g j t' ∧ t'.turns.length = 1 := by
  have htimes : t.timers.map (·.1) = List.replicate (g - a) (t.now + c.delay) := by
    simp [h.timers, Function.comp_def, List.map_const']
  have hnext : t.next? catalog = some (t.jump (t.now + c.delay)) := by
    rw [Timed.next?, hturns]
    dsimp only
    rw [htimes, List.min?_replicate, if_neg (by omega)]
    rfl
  have hdue : t.timers.filter (·.1 = t.now + c.delay) = t.timers := by
    refine List.filter_eq_self.2 fun timer htimer => ?_
    rw [h.timers] at htimer
    obtain ⟨i, -, rfl⟩ := List.mem_map.1 htimer
    simp
  have hlater : t.timers.filter (·.1 ≠ t.now + c.delay) = [] := by
    refine List.filter_eq_nil_iff.2 fun timer htimer => ?_
    rw [h.timers] at htimer
    obtain ⟨i, -, rfl⟩ := List.mem_map.1 htimer
    simp
  have hwoken : (t.timers.foldl (fun turns timer => Timed.addTurn timer.2 turns) []) =
      [(0, List.range' a (g - a))] := by
    obtain ⟨n, hn⟩ : ∃ n, g - a = n + 1 := ⟨g - a - 1, by omega⟩
    rw [h.timers, List.foldl_map, hn, List.range'_succ, List.foldl_cons]
    exact Timed.foldl_addTurn 0 [a] _
  have hjump : t.jump (t.now + c.delay) =
      { t with now := t.now + c.delay, timers := [], turns := [(0, List.range' a (g - a))] } := by
    rw [Timed.jump, hdue, hlater, Timed.foldl_enqueue fun timer : Nat × ThreadId => timer.2]
    dsimp only
    rw [hturns, hwoken]
  rw [hjump] at hnext
  refine ⟨_, hnext, ?_, rfl⟩
  refine ⟨h.jobs, h.underWay, h.holds, Nat.le_of_lt hag, Nat.le_refl g, .inr rfl, h.prompt,
    .inl ?_, by simp⟩
  simp [hlength]

def AtRest (c : Plan σ) (t : Timed σ) : Prop :=
  ∃ j : Job σ, t.pool.jobs = [j] ∧ j.isFinished = true ∧
    (j.result = c.outcome.map fun _ => ()) ∧
    c.Holds (c.rest.length + 1) (c.rest.length + 1) t.pool.world

/-- In the course of a round something happens that uses up the potential, or all is done. -/
theorem Round.step (hkept : c.Kept catalog) (h : c.Round catalog a b g j t) :
    (t.next? catalog = none ∧ c.AtRest t) ∨ ∃ t' a' b' g' j', t.next? catalog = some t' ∧
      c.potential a' b' g' t' < c.potential a b g t ∧ c.Round catalog a' b' g' j' t' := by
  have hlength := h.underWay.length_le
  have hended := h.ended_le
  have hwoken := h.woken_le
  have hsent := h.underWay.sent_le
  by_cases hab : a < b
  · obtain rfl : b = g := h.apart.resolve_left (by omega)
    obtain ⟨j', t', hnext, hround, hturns⟩ := h.wake hab
    refine .inr ⟨t', _, _, _, j', hnext, ?_, hround⟩
    have hbusy : t.turns.length = 1 := by
      rcases h.turns with hturns' | ⟨-, hab', -⟩
      · rw [hturns']
        rfl
      · omega
    simp only [potential]
    omega
  obtain rfl : a = b := by omega
  rcases h.turns with hturns | ⟨hturns, -, hg⟩
  · by_cases hg : g < j.threads.length
    · by_cases hdelay : c.delay = 0
      · obtain rfl := h.prompt hdelay
        obtain ⟨j', t', hnext, hround, hturns'⟩ := h.pass hkept hdelay hg
        refine .inr ⟨t', _, _, _, j', hnext, ?_, hround⟩
        simp only [potential, hturns, hturns', List.length_singleton]
        omega
      · obtain ⟨j', t', hnext, hround, hturns'⟩ := h.send hkept hdelay hg
        refine .inr ⟨t', _, _, _, j', hnext, ?_, hround⟩
        simp only [potential, hturns, hturns', List.length_singleton]
        omega
    · -- The turn is over.
      obtain rfl : g = j.threads.length := by omega
      rw [Nat.sub_self, Nat.sub_self] at hturns
      have hnext : t.next? catalog = some { t with turns := [] } := by
        rw [Timed.next?, hturns]
        rfl
      refine .inr ⟨_, _, _, _, j, hnext, ?_, { h with turns := .inr ⟨rfl, rfl, rfl⟩ }⟩
      simp only [potential, hturns]
      simp
  · by_cases hag : a < g
    · obtain ⟨t', hnext, hround, hturns'⟩ := h.jump hturns hg hag
      refine .inr ⟨t', _, _, _, j, hnext, ?_, hround⟩
      simp only [potential, hturns, hturns', List.length_nil]
      omega
    · obtain rfl : a = g := by omega
      obtain ⟨hfinished, hall, hresult⟩ := h.underWay.finished (by omega)
      refine .inl ⟨?_, j, h.jobs, hfinished, hresult, ?_⟩
      · rw [Timed.next?, hturns, h.timers]
        simp
      · rw [← hall, ← hg]
        exact h.holds

def job (c : Plan σ) : Job σ := .start c.provisioner c.container c.place c.first

theorem Round.start {w : World σ} (hw : c.Holds 0 0 w) (now : Nat) :
    c.Round catalog 0 0 0 c.job (Timed.start w now [c.job]) := by
  have hstands : ∀ i x, (c.job).threads[i]? = some x → c.Stands catalog 0 0 i x := by
    intro i x hx
    cases i with
    | zero => exact ⟨c.first, rfl, (Option.some.inj hx).symm⟩
    | succ i => simp [job, Job.start] at hx
  exact ⟨rfl, ⟨rfl, rfl, rfl, Job.start_tidy _ _ _ _, hstands, Nat.zero_le _⟩, hw,
    Nat.le_refl 0, Nat.le_refl 0, .inl rfl, fun _ => rfl, .inl rfl, rfl⟩

theorem Kept.atRest (hkept : c.Kept catalog) {w : World σ} (hw : c.Holds 0 0 w) (now : Nat)
    {fuel : Nat} (hfuel : 6 * c.rest.length + 7 ≤ fuel) :
    c.AtRest ((Timed.start w now [c.job]).run catalog fuel) := by
  have hstep : ∀ n t, (∃ a b g j, c.Round catalog a b g j t ∧ n = c.potential a b g t) →
      (t.next? catalog = none ∧ c.AtRest t) ∨ ∃ t' m, t.next? catalog = some t' ∧ m < n ∧
        ∃ a b g j, c.Round catalog a b g j t' ∧ m = c.potential a b g t' := by
    rintro n t ⟨a, b, g, j, hround, rfl⟩
    rcases hround.step hkept with hrest | ⟨t', a', b', g', j', hnext, hlt, hround'⟩
    · exact .inl hrest
    · exact .inr ⟨t', _, hnext, hlt, a', b', g', j', hround', rfl⟩
  refine Timed.run_settles hstep ⟨0, 0, 0, _, Round.start hw now, rfl⟩ (Nat.le_trans ?_ hfuel)
  simp only [potential, Timed.start, List.length_map, List.length_range, List.length_singleton]
  omega

end Plan

end DocQuery.Provision
