import DocQuery.Proofs.Provision.Removal
import DocQuery.Proofs.Query.Leaves
import DocQuery.Service

/-! # The lifetime of a cache

Services that share a cache and a memory are called one after the other, while other clients add
collections and functions, and the cache is told to forget. Whatever happens, the cache knows only
functions that are registered. So a query that was prepared can run: every function that it calls is
there.
-/

namespace DocQuery

open Catalog (Memory Serving)
open Provision

/-- What other clients do to a memory. -/
inductive Enriches : Memory → Memory → Prop
  | addCollection (m : Memory) (link : String) : Enriches m (m.addCollection link)
  | seed {m m' : Memory} {k : Container} {f : Requirement} {r : Record} :
      m.register k f = .ok (r, m') → Enriches m m'

theorem Enriches.grows {m m' : Memory} (h : Enriches m m') : m.Grows m' := by
  cases h with
  | addCollection link => exact .addCollection m link
  | seed h => exact .register h

namespace Service

def Returns (s : Service) (call : Call) (w : World Memory) (answer : Except Error Answer)
    (w' : World Memory) : Prop :=
  ∃ n ds t, Pool.Run Memory.catalog (InCatalog Enriches) ⟨w, [s.job call]⟩ n ds ⟨w', [t]⟩ ∧
    t.isFinished = true ∧ answer = s.answer call t.result

theorem returns_of_runAll {s : Service} {call : Call} {w : World Memory} (fuel now : Nat)
    (hf : (runAll Memory.catalog fuel [(s, call)] w now).2.pool.jobs.all Job.isFinished = true) :
    ∃ answer, (runAll Memory.catalog fuel [(s, call)] w now).1 = [answer] ∧
      s.Returns call w answer (runAll Memory.catalog fuel [(s, call)] w now).2.pool.world := by
  have hstart : Pool.Run Memory.catalog (InCatalog Enriches) ⟨w, [s.job call]⟩ 0 []
    (Timed.start w now [s.job call]).pool := .start
  obtain ⟨n, ds, hrun⟩ := Timed.run_pool fuel hstart
  obtain ⟨t, ht⟩ := List.length_eq_one_iff.1 hrun.length_jobs
  simp only [runAll, List.map_cons, List.map_nil] at hf ⊢
  generalize (Timed.start w now [s.job call]).run Memory.catalog fuel = timed at hrun ht hf ⊢
  obtain ⟨⟨w', jobs⟩, _, _, _⟩ := timed
  obtain rfl : jobs = [t] := ht
  exact ⟨s.answer call t.result, rfl, n, ds, t, hrun, by simpa using hf, rfl⟩

def asks (s : Service) : Call → List Requirement
  | .compile _ => []
  | .prepare q _ => ((s.compiled q).toOption.map (·.requirements)).getD []
  | .resolve rs _ => rs
  | .remove _ _ => []

variable {σ α : Type} {C : Contract σ} {catalog : Catalog σ} {memory : σ → Memory}
  {used : Nat → Prop} {live : Container → Prop} {lossy : Prop} {place : Place} {stance : Stance}
  {d : Data σ}

theorem reportAll_safe (hC : C.Quiet) (es : List Event) {f : Unit → Flow α}
    {Q : Stance → α → Data σ → Prop}
    (h : ∀ d', d'.catalog = d.catalog → d'.caches = d.caches →
      (f ()).Safe C catalog place Q stance d') :
    (reportAll es >>= f).Safe C catalog place Q stance d := by
  induction es generalizing d with
  | nil => exact h d rfl rfl
  | cons e es ih => exact Flow.safe_report (hC.change _ rfl rfl) (ih fun d' hs hc => h d' hs hc)

/-- A call that removes nothing finds out what is missing of what it asks for. -/
theorem flow_safe (s : Service) (hat : Serving lossy catalog memory) {call : Call}
    (hcall : ∀ id k, call ≠ .remove id k) (hi : (growth memory used live).inv d) :
    (s.flow call).Safe (growth memory used live) catalog s.place (Ends (growth memory used live)
      (Provisioner.Surveys lossy live call.container s.place (s.asks call))) .idle d := by
  have hnothing : ∀ (k : Container) (d' : Data σ), d'.catalog = d.catalog → d'.caches = d.caches →
      (pure (.ok []) : Flow Outcome).Safe (growth memory used live) catalog s.place
        (Ends (growth memory used live) (Provisioner.Surveys lossy live k s.place [])) .idle d' :=
    fun k d' hs hc => ⟨rfl, growth_quiet.inv hs hc hi, fun _ _ => ⟨by simp, by simp⟩⟩
  cases call with
  | compile q => exact reportAll_safe growth_quiet _ (hnothing _)
  | resolve rs k => exact s.provisioner.survey_safe hat k rs hi
  | remove id k => exact absurd rfl (hcall id k)
  | prepare q k =>
      refine reportAll_safe growth_quiet _ fun d' hs hc => ?_
      dsimp only [asks, Call.container]
      cases hq : s.compiled q with
      | error e => exact hnothing k d' hs hc
      | ok c =>
          dsimp only [Except.toOption, Option.map, Option.getD]
          by_cases hplain : c.isPlain = true
          · rw [if_pos hplain, List.isEmpty_iff.1 hplain]
            exact hnothing k d' hs hc
          · rw [if_neg hplain]
            exact s.provisioner.survey_safe hat k c.requirements (growth_quiet.inv hs hc hi)

end Service

/-! ## One call after the other -/

/-- A world between calls: the shared cache is coherent, and nobody is in a lock table. -/
structure Sound (i : Nat) (w : World Memory) : Prop where
  coherent : Coherent w.catalog (w.caches i)
  locks : ∀ site, (w.locks site).InOrder fun _ => .idle

theorem safe_of_run_alone {C : Contract Memory} {D : Duty C Memory.catalog} {w : World Memory}
    {flow : Flow Outcome} {p : Pool Memory} {n : Nat} {ds : Chronicle} (hinv : C.inv w.toData)
    (hrest : ∀ key d, C.atRest key d) (hlocks : ∀ site, (w.locks site).InOrder fun _ => .idle)
    (hflow : ∀ d, C.inv d → flow.Safe C Memory.catalog D.place (Ends C D.first) .idle d)
    (hout : ∀ (d : Data Memory) (m : Memory), C.inv d → Enriches d.catalog m →
      C.change none d { d with catalog := m } ∧ C.inv { d with catalog := m })
    (hrun : Pool.Run Memory.catalog (InCatalog Enriches)
      ⟨w, [.start D.provisioner D.container D.place flow]⟩ n ds p) :
    ∃ stance, p.Safe (fun _ => D) stance := by
  have hsafe : Pool.Safe (fun _ => D) (fun _ => .idle)
      ⟨w, [.start D.provisioner D.container D.place flow]⟩ := by
    refine .start hinv (fun key => hrest key _) hlocks fun i t ht => ?_
    obtain rfl := List.mem_singleton.1 (List.mem_of_getElem? ht)
    exact ⟨flow, rfl, hflow⟩
  exact (hsafe.run hout hrun).1

theorem kept_of_finished_alone {C : Contract Memory} {D : Duty C Memory.catalog} {w : World Memory}
    {t : Job Memory} {stance : ThreadId → Stance} (hsafe : Pool.Safe (fun _ => D) stance ⟨w, [t]⟩)
    (hf : t.isFinished = true) :
    D.Kept t.result w.toData ∧ ∀ site, (w.locks site).InOrder fun _ => .idle := by
  refine ⟨(hsafe.jobs 0 t rfl).1.result hf, hsafe.unlocked fun t' ht => ?_⟩
  obtain rfl := List.mem_singleton.1 ht
  exact hf

namespace Sound

variable {i n : Nat} {ds : Chronicle} {w w' : World Memory} {s : Service} {call : Service.Call}
  {p : Pool Memory} {t : Job Memory}

theorem providing (h : Sound i w) (hs : s.place.cache = i) (hcall : ∀ id k, call ≠ .remove id k)
    (hrun : Pool.Run Memory.catalog (InCatalog Enriches) ⟨w, [s.job call]⟩ n ds p) :
    ∃ stance, p.Safe (fun _ => s.provisioner.resolveDuty (Memory.catalog_atomic.serving False)
      (· = i) (fun _ => False) call.container s.place (s.asks call)) stance := by
  subst hs
  have hat := Memory.catalog_atomic.serving False
  have hinv : (growth (fun m => m) (· = s.place.cache) fun _ => False).inv w.toData :=
    ⟨fun i hi => hi ▸ h.coherent, fun _ => False.elim⟩
  exact safe_of_run_alone
    (D := s.provisioner.resolveDuty hat (· = s.place.cache) (fun _ => False) call.container s.place
      (s.asks call))
    hinv (fun _ _ => trivial) h.locks (fun d hd => s.flow_safe hat hcall hd)
    (fun d m hd he => ⟨Grown.of_grows he.grows rfl, growth_inv hd he.grows rfl⟩) hrun

theorem removing {id : String} {k : Container} (h : Sound i w) (hs : s.place.cache = i)
    (hrun : Pool.Run Memory.catalog (InCatalog Enriches) ⟨w, [s.job (.remove id k)]⟩ n ds p) :
    ∃ stance, p.Safe (fun _ =>
      s.provisioner.removeDuty (fun m => m) Memory.catalog k s.place) stance := by
  subst hs
  exact safe_of_run_alone (D := s.provisioner.removeDuty (fun m => m) Memory.catalog k s.place)
    h.coherent (fun _ _ => trivial) h.locks
    (fun d hd => s.provisioner.remove_safe Catalog.Memory.catalog_prompt k id hd)
    (fun d m hd he => ⟨trivial, Coherent.grows hd he.grows⟩) hrun

/-- Whenever a call waits, the cache is coherent. -/
theorem coherent_of_run (h : Sound i w) (hs : s.place.cache = i)
    (hrun : Pool.Run Memory.catalog (InCatalog Enriches) ⟨w, [s.job call]⟩ n ds p) :
    Coherent p.world.catalog (p.world.caches i) := by
  by_cases hcall : ∃ id k, call = .remove id k
  · obtain ⟨id, k, rfl⟩ := hcall
    obtain ⟨stance, hsafe⟩ := h.removing hs hrun
    exact hs ▸ hsafe.inv
  · obtain ⟨stance, hsafe⟩ := h.providing hs (fun id k he => hcall ⟨id, k, he⟩) hrun
    exact hsafe.inv.1 i rfl

/-- A call that removes nothing keeps a world sound. If it succeeds, everything that it asked for is
known. -/
theorem provide (h : Sound i w) (hs : s.place.cache = i) (hcall : ∀ id k, call ≠ .remove id k)
    (hrun : Pool.Run Memory.catalog (InCatalog Enriches) ⟨w, [s.job call]⟩ n ds ⟨w', [t]⟩)
    (hf : t.isFinished = true) :
    Sound i w' ∧ (t.result = .ok () → ∀ f ∈ s.asks call,
      (w'.caches i).has call.container f.id = true) := by
  obtain ⟨stance, hsafe⟩ := h.providing hs hcall hrun
  obtain ⟨hkept, hlocks⟩ := kept_of_finished_alone hsafe hf
  refine ⟨⟨h.coherent_of_run hs hrun, hlocks⟩, fun hok f hm => ?_⟩
  rw [hok] at hkept
  obtain ⟨rest, hfirst, heach⟩ := hkept
  exact hs ▸ Provisioner.resolveDuty_known hfirst heach hm

theorem remove {id : String} {k : Container} (h : Sound i w) (hs : s.place.cache = i)
    (hrun : Pool.Run Memory.catalog (InCatalog Enriches) ⟨w, [s.job (.remove id k)]⟩ n ds
      ⟨w', [t]⟩)
    (hf : t.isFinished = true) : Sound i w' := by
  obtain ⟨stance, hsafe⟩ := h.removing hs hrun
  exact ⟨h.coherent_of_run hs hrun, (kept_of_finished_alone hsafe hf).2⟩

end Sound

/-- The worlds that arise from an empty cache: services that share it are called, other clients use
the memory, and the cache is told to forget. -/
inductive Reachable (i : Nat) : World Memory → Prop
  | start (m : Memory) : Reachable i { catalog := m }
  | call {w w' : World Memory} {s : Service} {call : Service.Call}
      {answer : Except Service.Error Service.Answer} : Reachable i w → s.place.cache = i →
      s.Returns call w answer w' → Reachable i w'
  | enrich {w : World Memory} {m : Memory} : Reachable i w → Enriches w.catalog m →
      Reachable i { w with catalog := m }
  | forget {w : World Memory} (k : Container) (id : String) : Reachable i w →
      Reachable i { w with toData := w.changeCache i (.forget k id) }
  | resetContainer {w : World Memory} (k : Container) : Reachable i w →
      Reachable i { w with toData := w.changeCache i (.resetContainer k) }
  | reset {w : World Memory} : Reachable i w →
      Reachable i { w with toData := w.changeCache i .reset }

theorem Sound.changeCache {i : Nat} {w : World Memory} (h : Sound i w) {change : Cache.Change}
    (hput : ∀ k r, change ≠ .put k r) (hmerge : ∀ k rs, change ≠ .merge k rs) :
    Sound i { w with toData := w.changeCache i change } where
  coherent := by
    simp only [Data.changeCache, if_true]
    exact h.coherent.apply hput hmerge
  locks := h.locks

theorem Reachable.sound {i : Nat} {w : World Memory} (h : Reachable i w) : Sound i w := by
  induction h with
  | start m => exact ⟨.empty m, fun _ => LockTable.inOrder_empty⟩
  | @call w w' s call answer _ hs hr ih =>
      obtain ⟨n, ds, t, hrun, hf, -⟩ := hr
      cases call with
      | remove id k => exact ih.remove hs hrun hf
      | _ => exact (ih.provide hs (by simp) hrun hf).1
  | enrich _ he ih => exact ⟨ih.coherent.grows he.grows, ih.locks⟩
  | forget k id _ ih => exact ih.changeCache (by simp) (by simp)
  | resetContainer k _ ih => exact ih.changeCache (by simp) (by simp)
  | reset _ ih => exact ih.changeCache (by simp) (by simp)

/-! ## Prepared queries -/

/-- A source that was prepared was compiled, and everything that it requires was provided. -/
theorem Service.answer_prepare {s : Service} {q : Service.Source} {k : Container}
    {result : Except Provision.Error Unit} {text : String}
    (h : s.answer (.prepare q k) result = .ok (.text text)) :
    result = .ok () ∧ ∃ c, s.compiled q = .ok c ∧ c.text = text := by
  obtain ⟨c, hc, h⟩ := Query.bind_eq_ok.1 h
  obtain ⟨u, hu, h⟩ := Query.bind_eq_ok.1 h
  refine ⟨?_, c, hc, by simpa [pure, Except.pure] using h⟩
  cases result with
  | ok _ => rfl
  | error e => cases hu

theorem Service.compile_of_compiled {s : Service} {q : Service.Source} {c : Query.Compiled}
    {f : Filter} (h : s.compiled q = .ok c) (hq : q.toFilter = .ok f) :
    s.compiler.compile f = .ok c := by
  rw [compiled, hq] at h
  have hc : (s.compiler.compile f).mapError Error.compile = .ok c := h
  cases hf : s.compiler.compile f with
  | ok c' =>
      rw [hf] at hc
      exact congrArg Except.ok (Except.ok.inj hc)
  | error e =>
      rw [hf] at hc
      cases hc

/-- The text of a document that was prepared is that of its compilation, and every function that it
calls is registered. The calls are those that the texts of the leaves spell out. -/
theorem prepared_text_is_callable {i : Nat} {w w' : World Memory} {s : Service}
    {q : Service.Source} {k : Container} {d : Document} {text : String} (hw : Reachable i w)
    (hs : s.place.cache = i) (hq : q.toFilter = .ok (.document d))
    (hr : s.Returns (.prepare q k) w (.ok (.text text)) w') :
    ∃ f, s.compiler.document d = .ok f ∧
      s.compiler.compile (.document d) = .ok ⟨text, f.requirements⟩ ∧
      text = s.compiler.dialect.selectWhere f.predicate.text ∧
      (∀ l ∈ f.predicate.leaves, s.compiler.Spells l) ∧
      ∀ name ∈ f.predicate.calls, w'.catalog.Registered k.link name := by
  obtain ⟨n, ds, t, hrun, hf, hanswer⟩ := hr
  obtain ⟨hsound, hknown⟩ := hw.sound.provide hs (by simp) hrun hf
  obtain ⟨hok, c, hc, rfl⟩ := Service.answer_prepare hanswer.symm
  have hcompile := Service.compile_of_compiled hc hq
  obtain ⟨f, hdoc, hc'⟩ := Query.bind_eq_ok.1 hcompile
  obtain rfl := Except.ok.inj hc'
  refine ⟨f, hdoc, hcompile, rfl, fun l hl => (Query.Compiler.writes_of_mem hdoc hl).spells,
    fun name hname => ?_⟩
  obtain ⟨r, hr, rfl⟩ := List.mem_map.1 ((Query.Compiler.calls_sublist hdoc).subset hname)
  refine hsound.coherent.registered (hknown hok r ?_)
  rw [Service.asks, hc]
  exact hr

def tagService : Service := ⟨default, default, ⟨0, 0⟩⟩

def tagFilter : Document := [("tags", .document [("$in", .value (.string "x"))])]

theorem prepared_tags_are_callable : ∃ w' text,
    tagService.Returns (.prepare (.filter (.document tagFilter)) (.collection "c"))
      { catalog := .ofLinks ["c"] 0 } (.ok (.text text)) w' ∧
    w'.catalog.Registered "c" "inUDF" := by
  have hend : (Service.runAll Memory.catalog 20
      [(tagService, .prepare (.filter (.document tagFilter)) (.collection "c"))]
      { catalog := .ofLinks ["c"] 0 } 0).2.pool.jobs.all Job.isFinished = true := by decide +kernel
  obtain ⟨answer, ha, hreturns⟩ := Service.returns_of_runAll 20 0 hend
  have htext : (Service.runAll Memory.catalog 20
      [(tagService, .prepare (.filter (.document tagFilter)) (.collection "c"))]
      { catalog := .ofLinks ["c"] 0 } 0).1.all
      (fun a => match a with | .ok (.text _) => true | _ => false) = true := by decide +kernel
  rw [ha] at htext
  match answer, htext, hreturns with
  | .ok (.text text), _, hreturns =>
      obtain ⟨f, hf, -, -, -, hcalls⟩ := prepared_text_is_callable (.start _) rfl rfl hreturns
      obtain ⟨f', hf', hnames⟩ := Query.exists_ok (x := tagService.compiler.document tagFilter)
        (fun f => f.predicate.calls = ["inUDF"]) (by decide +kernel)
      obtain rfl := Except.ok.inj (hf'.symm.trans hf)
      refine ⟨_, text, hreturns, hcalls _ ?_⟩
      rw [of_decide_eq_true hnames]
      exact List.mem_singleton.2 rfl

/-! ## What is in the cache -/

/-- The worlds that are ever seen: between calls, and whenever a call waits. -/
inductive Occurs (i : Nat) : World Memory → Prop
  | between {w : World Memory} : Reachable i w → Occurs i w
  | during {w : World Memory} {s : Service} {call : Service.Call} {n : Nat}
      {ds : Chronicle} {p : Pool Memory} : Reachable i w → s.place.cache = i →
      Pool.Run Memory.catalog (InCatalog Enriches) ⟨w, [s.job call]⟩ n ds p → Occurs i p.world

theorem Occurs.coherent {i : Nat} {w : World Memory} (h : Occurs i w) :
    Coherent w.catalog (w.caches i) := by
  cases h with
  | between hw => exact hw.sound.coherent
  | during hw hs hrun => exact hw.sound.coherent_of_run hs hrun

/-- Every record in the cache is, with its body and its handle, that of the catalog. So no function
is known that does not exist, and none in a database. -/
theorem cached_is_cataloged {i : Nat} {w : World Memory} (hw : Occurs i w) :
    (∀ k id r, (w.caches i).get? k id = some r →
      r.id = id ∧ ∃ link, k = .collection link ∧ r ∈ w.catalog.functions link) ∧
    (∀ k id, (w.caches i).has k id = true → w.catalog.Registered k.link id) ∧
    ∀ link, (w.caches i).size (.database link) = 0 := by
  have hc := hw.coherent
  refine ⟨fun k id r hr => ?_, fun k id hk => hc.registered hk, fun link => ?_⟩
  · obtain ⟨link, hk, hr, hid⟩ := hc.listed hr
    exact ⟨hid, link, hk, hr⟩
  · exact hc.size_database link

def afterCall (w : World Memory) (call : Service.Call) : World Memory :=
  (Service.runAll Memory.catalog 20 [(tagService, call)] w 0).2.pool.world

theorem Reachable.afterCall {w : World Memory} (h : Reachable 0 w) {call : Service.Call}
    (hf : (Service.runAll Memory.catalog 20 [(tagService, call)] w 0).2.pool.jobs.all
      Job.isFinished = true) : Reachable 0 (afterCall w call) := by
  obtain ⟨answer, -, hreturns⟩ := Service.returns_of_runAll 20 0 hf
  exact h.call rfl hreturns

def cleared : World Memory :=
  afterCall (afterCall { catalog := .ofLinks ["c"] 0 } (.resolve [⟨"f", "old"⟩] (.collection "c")))
    (.remove "f" (.collection "c"))

/-- Somebody else has registered it with another body. -/
def reseeded : World Memory :=
  let record := ⟨"f", "new", Memory.handle "c" "f"⟩
  { cleared with catalog := cleared.catalog.setFunctions (.collection "c") ([] ++ [record]) }

theorem reseeded_reachable : Reachable 0 reseeded := by
  have hcleared : Reachable 0 cleared :=
    ((Reachable.start _).afterCall (by decide +kernel)).afterCall (by decide +kernel)
  have hhosted : cleared.catalog.hosted (.collection "c") = .ok [] :=
    Memory.hosted_eq_ok.2 ⟨"c", rfl, by decide +kernel⟩
  exact hcleared.enrich (.seed (Memory.register_of_free (f := ⟨"f", "new"⟩) hhosted (by simp)))

/-- When the function is provided once more, the cache takes over the new body. -/
theorem reseeded_is_cataloged : ∃ w r, Occurs 0 w ∧
    (w.caches 0).get? (.collection "c") "f" = some r ∧ r.body = "new" ∧
    r ∈ w.catalog.functions "c" := by
  have hagain : Reachable 0 (afterCall reseeded (.resolve [⟨"f", "old"⟩] (.collection "c"))) :=
    reseeded_reachable.afterCall (by decide +kernel)
  have hget : ((afterCall reseeded (.resolve [⟨"f", "old"⟩] (.collection "c"))).caches 0).get?
      (.collection "c") "f" = some ⟨"f", "new", Memory.handle "c" "f"⟩ := by decide +kernel
  obtain ⟨-, link, hk, hr⟩ := (cached_is_cataloged (.between hagain)).1 _ _ _ hget
  obtain rfl := Container.collection.inj hk
  exact ⟨_, _, .between hagain, hget, rfl, hr⟩

end DocQuery
