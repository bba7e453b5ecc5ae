import DocQuery.Catalog.Memory
import DocQuery.Proofs.Query.Requirements
import DocQuery.Service

/-! # Functions that are required in vain

An operator that was met leaves its function among the requirements, also when the list of
alternatives around it turns out to place no constraint and is dropped from the text. So a query
calls everything that it requires exactly if no function is met in dropped lists only. A query that
calls nothing is ready at once exactly if nothing was met.
-/

namespace DocQuery

open Provision (Flow Place Provisioner ThreadId World)

theorem ServerFunction.name_injective : Function.Injective ServerFunction.name := by
  intro f g h
  cases f <;> cases g <;> first | rfl | exact absurd h (by decide)

namespace Query.Compiler

open Predicate (leaves leaves_join)

variable {c : Compiler} {kept : Bool} {f : ServerFunction}

/-- A document has an operator that calls a function, at a place that is visited. If the operator is
to be kept in the text, no list around it may be void; to be met it is enough that nothing before it
makes a list void. -/
inductive Reaches (c : Compiler) (kept : Bool) : Document → ServerFunction → Prop
  | operator {d : Document} {name field id : String} {operators : List (String × Node)}
      {argument : Node} {f : ServerFunction} :
      (name, .document operators) ∈ d → Keyword.ofKey name = .field field →
      (id, argument) ∈ operators → Operator.ofId? id = some (.call f) → Reaches c kept d f
  | not {d inner : Document} {name : String} {f : ServerFunction} :
      (name, .document inner) ∈ d → Keyword.ofKey name = .not → Reaches c kept inner f →
      Reaches c kept d f
  | element {d e : Document} {name : String} {key : ListKeyword} {before after : List Node}
      {f : ServerFunction} :
      (name, .list (before ++ .document e :: after)) ∈ d → Keyword.ofKey name = .list key →
      c.Clear key (if kept then before ++ .document e :: after else before) →
      Reaches c kept e f → Reaches c kept d f

def Meets (c : Compiler) (d : Document) (f : ServerFunction) : Prop := c.Reaches false d f

def Keeps (c : Compiler) (d : Document) (f : ServerFunction) : Prop := c.Reaches true d f

theorem reaches_nil : ¬ c.Reaches kept [] f := by
  intro h
  cases h <;> contradiction

theorem reaches_cons {entry : String × Node} {rest : Document} :
    c.Reaches kept (entry :: rest) f ↔ c.Reaches kept [entry] f ∨ c.Reaches kept rest f := by
  constructor
  · intro h
    cases h with
    | operator hm hkey ho hf =>
        rcases List.mem_cons.1 hm with rfl | hm
        · exact Or.inl (.operator (List.mem_singleton.2 rfl) hkey ho hf)
        · exact Or.inr (.operator hm hkey ho hf)
    | not hm hkey h =>
        rcases List.mem_cons.1 hm with rfl | hm
        · exact Or.inl (.not (List.mem_singleton.2 rfl) hkey h)
        · exact Or.inr (.not hm hkey h)
    | element hm hkey hclear h =>
        rcases List.mem_cons.1 hm with rfl | hm
        · exact Or.inl (.element (List.mem_singleton.2 rfl) hkey hclear h)
        · exact Or.inr (.element hm hkey hclear h)
  · have hmono : ∀ {d d' : Document}, d ⊆ d' → c.Reaches kept d f → c.Reaches kept d' f := by
      intro d d' hsub h
      cases h with
      | operator hm hkey ho hf => exact .operator (hsub hm) hkey ho hf
      | not hm hkey h => exact .not (hsub hm) hkey h
      | element hm hkey hclear h => exact .element (hsub hm) hkey hclear h
    rintro (h | h)
    · exact hmono (by simp) h
    · exact hmono (List.subset_cons_self _ _) h

theorem reaches_not {name : String} {inner : Document} (hkey : Keyword.ofKey name = .not) :
    c.Reaches kept [(name, .document inner)] f ↔ c.Reaches kept inner f := by
  refine ⟨fun h => ?_, .not (List.mem_singleton.2 rfl) hkey⟩
  cases h with
  | operator hm hkey' =>
      obtain ⟨rfl, -⟩ := Prod.mk.inj (List.mem_singleton.1 hm)
      cases hkey.symm.trans hkey'
  | not hm _ h =>
      obtain ⟨-, hinner⟩ := Prod.mk.inj (List.mem_singleton.1 hm)
      exact Node.document.inj hinner ▸ h
  | element hm =>
      cases (Prod.mk.inj (List.mem_singleton.1 hm)).2

theorem reaches_field {name field : String} {node : Node}
    (hkey : Keyword.ofKey name = .field field) :
    c.Reaches kept [(name, node)] f ↔ ∃ operators id argument, node = .document operators ∧
      (id, argument) ∈ operators ∧ Operator.ofId? id = some (.call f) := by
  constructor
  · intro h
    cases h with
    | operator hm _ ho hf =>
        obtain ⟨-, hnode⟩ := Prod.mk.inj (List.mem_singleton.1 hm)
        exact ⟨_, _, _, hnode.symm, ho, hf⟩
    | not hm hkey' =>
        obtain ⟨rfl, -⟩ := Prod.mk.inj (List.mem_singleton.1 hm)
        cases hkey.symm.trans hkey'
    | element hm hkey' =>
        obtain ⟨rfl, -⟩ := Prod.mk.inj (List.mem_singleton.1 hm)
        cases hkey.symm.trans hkey'
  · rintro ⟨operators, id, argument, rfl, ho, hf⟩
    exact .operator (List.mem_singleton.2 rfl) hkey ho hf

theorem reaches_list {name : String} {key : ListKeyword} {items : List Node}
    (hkey : Keyword.ofKey name = .list key) :
    c.Reaches kept [(name, .list items)] f ↔ ∃ before e after,
      items = before ++ .document e :: after ∧
      c.Clear key (if kept then items else before) ∧ c.Reaches kept e f := by
  constructor
  · intro h
    cases h with
    | operator hm => cases (Prod.mk.inj (List.mem_singleton.1 hm)).2
    | not hm => cases (Prod.mk.inj (List.mem_singleton.1 hm)).2
    | element hm hkey' hclear h =>
        obtain ⟨rfl, hitems⟩ := Prod.mk.inj (List.mem_singleton.1 hm)
        obtain rfl := Keyword.list.inj (hkey.symm.trans hkey')
        obtain rfl := Node.list.inj hitems
        exact ⟨_, _, _, rfl, hclear, h⟩
  · rintro ⟨before, e, after, rfl, hclear, h⟩
    exact .element (List.mem_singleton.2 rfl) hkey hclear h

/-- In a list the first element is met in any case, and the others unless it makes the list void. -/
theorem meets_cons {name : String} {key : ListKeyword} {e : Document} {rest : List Node}
    (hkey : Keyword.ofKey name = .list key) :
    c.Meets [(name, .list (.document e :: rest))] f ↔ c.Meets e f ∨
      (key.connective = .or → ¬ c.Unconstrained e) ∧ c.Meets [(name, .list rest)] f := by
  simp only [Meets, reaches_list hkey, Bool.false_eq_true, if_false]
  constructor
  · rintro ⟨before, x, after, hitems, hclear, h⟩
    cases before with
    | nil =>
        obtain ⟨hx, -⟩ := List.cons.inj hitems
        exact Or.inl (Node.document.inj hx ▸ h)
    | cons n before =>
        obtain ⟨rfl, rfl⟩ := List.cons.inj hitems
        obtain ⟨he, hbefore⟩ := clear_cons.1 hclear
        exact Or.inr ⟨he, before, x, after, rfl, hbefore, h⟩
  · rintro (h | ⟨he, before, x, after, rfl, hbefore, h⟩)
    · exact ⟨[], e, rest, rfl, c.clear_nil key, h⟩
    · exact ⟨.document e :: before, x, after, rfl, clear_cons.2 ⟨he, hbefore⟩, h⟩

theorem keeps_list {name : String} {key : ListKeyword} {items : List Node}
    (hkey : Keyword.ofKey name = .list key) :
    c.Keeps [(name, .list items)] f ↔
      c.Clear key items ∧ ∃ e, .document e ∈ items ∧ c.Keeps e f := by
  simp only [Keeps, reaches_list hkey, if_true]
  constructor
  · rintro ⟨before, e, after, rfl, hclear, h⟩
    exact ⟨hclear, e, by simp, h⟩
  · rintro ⟨hclear, e, he, h⟩
    obtain ⟨before, after, rfl⟩ := List.append_of_mem he
    exact ⟨before, e, after, rfl, hclear, h⟩

/-! ## What is met and what is kept -/

def CalledIn (ls : List Leaf) (f : ServerFunction) : Prop := f.name ∈ ls.filterMap (·.function)

theorem calledIn_append {ls ls' : List Leaf} :
    CalledIn (ls ++ ls') f ↔ CalledIn ls f ∨ CalledIn ls' f := by
  simp only [CalledIn, List.filterMap_append, List.mem_append]

/-- Requirements are what a document meets, and leaves call what it keeps. -/
structure Tells (c : Compiler) (d : Document) (ls : List Leaf) (rs : List Requirement) : Prop where
  met : ∀ f, f.requirement ∈ rs ↔ c.Meets d f
  kept : ∀ f, CalledIn ls f ↔ c.Keeps d f

theorem mem_operatorParts_requirements {name : String} {operators : List (String × Node)}
    {ps : Parts} (h : c.operatorParts name operators = .ok ps) :
    f.requirement ∈ ps.requirements ↔
      ∃ id argument, (id, argument) ∈ operators ∧ Operator.ofId? id = some (.call f) := by
  induction operators generalizing ps with
  | nil =>
      obtain rfl := Except.ok.inj h
      simp [Parts.none]
  | cons entry rest ih =>
      obtain ⟨id, argument⟩ := entry
      rw [operatorParts] at h
      cases ho : Operator.ofId? id with
      | none =>
          rw [ho] at h
          cases h
      | some o =>
          rw [ho] at h
          obtain ⟨ps', hps', h⟩ := bind_eq_ok.1 h
          obtain rfl := Except.ok.inj h
          have hfirst : f.requirement ∈ (o.function?.map ServerFunction.requirement).toList ↔
              o = .call f := by
            cases o with
            | compare _ => simp [Operator.function?]
            | call g =>
                simp only [Operator.function?, Option.map_some, Option.toList_some,
                  List.mem_singleton, Operator.call.injEq]
                refine ⟨fun he => (ServerFunction.name_injective ?_).symm, fun he => he ▸ rfl⟩
                exact congrArg Requirement.id he
          simp only [Parts.add, List.mem_append, hfirst, ih hps', List.mem_cons]
          constructor
          · rintro (rfl | ⟨id', argument', hm, hf⟩)
            · exact ⟨id, argument, Or.inl rfl, ho⟩
            · exact ⟨id', argument', Or.inr hm, hf⟩
          · rintro ⟨id', argument', hm | hm, hf⟩
            · obtain ⟨rfl, rfl⟩ := Prod.mk.inj hm
              exact Or.inl (Option.some.inj (ho.symm.trans hf))
            · exact Or.inr ⟨id', argument', hm, hf⟩

theorem mem_field_requirements {name : String} {node : Node} {g : Fragment}
    (h : c.field name node = .ok g) :
    f.requirement ∈ g.requirements ↔ ∃ operators id argument, node = .document operators ∧
      (id, argument) ∈ operators ∧ Operator.ofId? id = some (.call f) := by
  match node with
  | .value v =>
      obtain rfl := Except.ok.inj h
      simp
  | .document [] => cases h
  | .document (o :: os) =>
      obtain ⟨ps, hps, h⟩ := bind_eq_ok.1 h
      obtain rfl := Except.ok.inj h
      simp only [mem_operatorParts_requirements hps, Node.document.injEq, exists_eq_left',
        exists_and_left]
  | .list items => cases h

/-- Of functions that operators call, ids are as good as requirements. -/
theorem mem_ids_iff {rs : List Requirement} (h : OfOperators rs) :
    f.name ∈ rs.map (·.id) ↔ f.requirement ∈ rs := by
  refine ⟨fun hf => ?_, fun hf => List.mem_map.2 ⟨_, hf, rfl⟩⟩
  obtain ⟨r, hr, hid⟩ := List.mem_map.1 hf
  obtain ⟨g, rfl⟩ := h r hr
  exact ServerFunction.name_injective hid ▸ hr

theorem tells_field {name field : String} {node : Node} {g : Fragment}
    (h : c.field field node = .ok g) (hkey : Keyword.ofKey name = .field field) :
    c.Tells [(name, node)] (leaves g.predicate) g.requirements where
  met := fun f => (mem_field_requirements h).trans (reaches_field hkey).symm
  kept := fun f => by
    rw [CalledIn, balanced_field h, mem_ids_iff (ofOperators_field h), mem_field_requirements h]
    exact (reaches_field hkey).symm

theorem tells_add {key : String} {node : Node} {rest : List (String × Node)} {g : Fragment}
    {ps : Parts} (hg : c.Tells [(key, node)] (leaves g.predicate) g.requirements)
    (hps : c.Tells rest (ps.parts.flatMap leaves) ps.requirements) :
    c.Tells ((key, node) :: rest) ((ps.add g).parts.flatMap leaves) (ps.add g).requirements where
  met := fun f => by
    simp only [Parts.add, List.mem_append, hg.met, hps.met]
    exact reaches_cons.symm
  kept := fun f => by
    have hleaves : (ps.add g).parts.flatMap leaves =
        leaves g.predicate ++ ps.parts.flatMap leaves := by
      by_cases hempty : g.predicate = [] <;> simp [Parts.add, hempty]
    rw [hleaves, calledIn_append, hg.kept, hps.kept]
    exact reaches_cons.symm

theorem leaves_elements_add (ps : Parts) {es : Elements} {parts : List Predicate}
    (h : es.parts = some parts) : ((Elements.add ps es).parts.getD []).flatMap leaves =
      ps.parts.flatMap leaves ++ parts.flatMap leaves := by
  by_cases hempty : ps.parts = [] <;> simp [Elements.add, h, hempty]

/-- Requirements are what was met and leaves call what was kept. The elements of a list have parts
exactly if none of them makes the list void, which is seen from what their fragments say. -/
theorem tells_inductive (c : Compiler) : c.Inductive
    (fun grouped es ps => (ps.parts.length ≤ es.length ∧
        SayEach (.within grouped) ps.parts fun v => c.meanings v es) ∧
      c.Tells es (ps.parts.flatMap leaves) ps.requirements)
    (fun grouped keyword node g =>
      (Says (.within grouped) g.predicate fun v => c.entryMeaning v keyword node) ∧
      ∀ name, Keyword.ofKey name = keyword →
        c.Tells [(name, node)] (leaves g.predicate) g.requirements)
    (fun key items es => (SayElements key es.parts fun v => c.elementMeanings v items) ∧
      (es.parts.isSome = true ↔ c.Clear key items) ∧
      ∀ name, Keyword.ofKey name = .list key →
        c.Tells [(name, .list items)] ((es.parts.getD []).flatMap leaves) es.requirements) where
  nil := fun grouped => ⟨c.says_inductive.nil grouped,
    fun f => iff_of_false (by simp [Parts.none]) reaches_nil,
    fun f => iff_of_false (by simp [Parts.none, CalledIn]) reaches_nil⟩
  cons := by
    rintro grouped key node rest g ps ⟨hmeans, hg⟩ ⟨hmeans', hps⟩
    exact ⟨c.says_inductive.cons hmeans hmeans', tells_add (hg key rfl) hps⟩
  not := by
    rintro grouped inner ps ⟨hmeans, hps⟩
    refine ⟨c.says_inductive.not hmeans, fun name hkey => ⟨fun f => ?_, fun f => ?_⟩⟩
    · exact (hps.met f).trans (reaches_not hkey).symm
    · have hleaves : leaves (Predicate.negate ps.conjunction.predicate) =
          ps.parts.flatMap leaves := (Predicate.leaves_negate _).trans (leaves_join .and _)
      rw [hleaves]
      exact (hps.kept f).trans (reaches_not hkey).symm
  empty := by
    intro grouped key p hp
    refine ⟨c.says_inductive.empty hp, fun name hkey => ?_⟩
    rw [leaves_emptyList hp]
    exact ⟨fun f => by simp [Meets, reaches_list hkey],
      fun f => by simp [CalledIn, Keeps, reaches_list hkey]⟩
  list := by
    rintro grouped key items es hne ⟨hmeans, -, hes⟩
    refine ⟨c.says_inductive.list hne hmeans, fun name hkey => ?_⟩
    have hleaves : leaves (es.parts.elim [] (listPredicate key grouped)) =
        (es.parts.getD []).flatMap leaves := by
      cases es.parts <;> simp
    rw [hleaves]
    exact hes name hkey
  field := fun hf => ⟨c.says_inductive.field hf, fun _ hkey => tells_field hf hkey⟩
  none := fun key => ⟨c.says_inductive.none key, by simp [c.clear_nil key], fun name hkey =>
    ⟨fun f => by simp [Meets, reaches_list hkey],
      fun f => by simp [CalledIn, Keeps, reaches_list hkey]⟩⟩
  void := by
    rintro key element rest ps ⟨hmeans, hps⟩ hempty hor
    have hnone : c.Unconstrained element := fun v => (hmeans.2.conjoin_eq_none v).2 hempty
    have hvoid : ¬ c.Clear key (.document element :: rest) := fun h =>
      (clear_cons.1 h).1 hor hnone
    refine ⟨c.says_inductive.void hmeans hempty hor, by simpa using hvoid, fun name hkey =>
      ⟨fun f => ?_, fun f => ?_⟩⟩
    · rw [hps.met, meets_cons hkey]
      exact ⟨Or.inl, fun h => h.resolve_right fun hrest => hrest.1 hor hnone⟩
    · rw [keeps_list hkey]
      simp [CalledIn, hvoid]
  more := by
    rintro key element rest ps es ⟨hmeans, hps⟩ hvoid ⟨hmeans', hclear, hes⟩
    have hconstrains : key.connective = .or → ¬ c.Unconstrained element := fun hor hnone =>
      hvoid ⟨(hmeans.2.conjoin_eq_none fun _ => true).1 (hnone _), hor⟩
    refine ⟨c.says_inductive.more hmeans hvoid hmeans', ?_, fun name hkey =>
      ⟨fun f => ?_, fun f => ?_⟩⟩
    · simp only [Elements.add, Option.isSome_map, hclear, clear_cons]
      exact ⟨fun h => ⟨hconstrains, h⟩, fun h => h.2⟩
    · simp only [Elements.add, List.mem_append, hps.met, (hes name hkey).met, meets_cons hkey]
      exact or_congr_right ⟨fun h => ⟨hconstrains, h⟩, fun h => h.2⟩
    · have hrest := (hes name hkey).kept f
      rw [keeps_list hkey] at hrest ⊢
      rw [clear_cons]
      cases hparts : es.parts with
      | none =>
          have hnot : ¬ c.Clear key rest := fun h => by simpa [hparts] using hclear.2 h
          simp [Elements.add, hparts, CalledIn, hnot]
      | some parts =>
          have hrestClear : c.Clear key rest := hclear.1 (by simp [hparts])
          rw [leaves_elements_add ps hparts, calledIn_append, hps.kept]
          simp only [hparts, Option.getD_some] at hrest
          rw [hrest]
          constructor
          · intro h
            exact ⟨⟨hconstrains, hrestClear⟩, by simpa [hrestClear] using h⟩
          · rintro ⟨-, h⟩
            simpa [hrestClear] using h

theorem tells_document {d : Document} {g : Fragment} (h : c.document d = .ok g) :
    c.Tells d (leaves g.predicate) g.requirements := by
  obtain ⟨ps, rfl, -, hps⟩ := c.tells_inductive.document h
  exact (leaves_join .and ps.parts).symm ▸ hps

theorem forall_requirements_iff {d : Document} {g : Fragment} (h : c.document d = .ok g)
    {P : String → Prop} :
    (∀ r ∈ g.requirements, P r.id) ↔ ∀ f, c.Meets d f → P f.name := by
  have htells := tells_document h
  constructor
  · exact fun hall f hf => hall _ ((htells.met f).2 hf)
  · intro hall r hr
    obtain ⟨f, rfl⟩ := ofOperators_document h r hr
    exact hall f ((htells.met f).1 hr)

theorem mem_calls_iff {d : Document} {g : Fragment} (h : c.document d = .ok g) :
    f.name ∈ g.predicate.calls ↔ c.Keeps d f := by
  rw [Predicate.calls_eq]
  exact (tells_document h).kept f

theorem exists_meets_of_keeps {d : Document} {g : Fragment} (h : c.document d = .ok g) :
    (∃ f, c.Keeps d f) → ∃ f, c.Meets d f := by
  rintro ⟨f, hf⟩
  have hmem := (calls_sublist h).subset ((mem_calls_iff h).2 hf)
  rw [mem_ids_iff (ofOperators_document h)] at hmem
  exact ⟨f, ((tells_document h).met f).1 hmem⟩

theorem requirements_eq_nil_iff {d : Document} {g : Fragment} (h : c.document d = .ok g) :
    g.requirements = [] ↔ ¬ ∃ f, c.Meets d f := by
  have hall := forall_requirements_iff h (P := fun _ => False)
  rw [List.eq_nil_iff_forall_not_mem, not_exists]
  exact hall

theorem calls_eq_nil_iff {d : Document} {g : Fragment} (h : c.document d = .ok g) :
    g.predicate.calls = [] ↔ ¬ ∃ f, c.Keeps d f := by
  constructor
  · rintro hnil ⟨f, hf⟩
    have hmem := (mem_calls_iff h).2 hf
    rw [hnil] at hmem
    cases hmem
  · intro hnone
    refine List.eq_nil_iff_forall_not_mem.2 fun name hname => hnone ?_
    obtain ⟨r, hr, rfl⟩ := List.mem_map.1 ((calls_sublist h).subset hname)
    obtain ⟨f, rfl⟩ := ofOperators_document h r hr
    exact ⟨f, (mem_calls_iff h).1 hname⟩

end Query.Compiler

/-! ## Queries that are ready at once -/

namespace Service

open Query (Compiled)

variable {σ α : Type}

theorem advance_reportAll (catalog : Catalog σ) (now : Nat) (place : Place) (self : ThreadId)
    (es : List Event) (f : Unit → Flow α) (w : World σ) :
    (reportAll es >>= f).advance catalog now place self w = (f ()).advance catalog now place self
      { w with toData := { w.toData with log := es.reverse ++ w.log } } := by
  induction es generalizing w with
  | nil => rfl
  | cons e es ih =>
      have hstep : (reportAll (e :: es) >>= f).advance catalog now place self w =
        (reportAll es >>= f).advance catalog now place self { w with toData := w.report e } := rfl
      rw [hstep, ih]
      simp [Provision.Data.report]

/-- Preparing a source gives a text at once, whatever the container and the catalog: it ends well
without waiting, and nothing but the log is changed. -/
def Ready (s : Service) (src : Source) (k : Container) (text : String) : Prop :=
  s.answer (.prepare src k) (.ok ()) = .ok (.text text) ∧
    ∀ (σ : Type) (catalog : Catalog σ) (now : Nat) (self : ThreadId) (w : World σ), ∃ log,
      (s.flow (.prepare src k)).advance catalog now s.place self w =
        ⟨.ended (.ok []), { w with toData := { w.toData with log := log } }, []⟩

theorem ready_of_isPlain {s : Service} {src : Source} {k : Container} {q : Compiled}
    (hq : s.compiled src = .ok q) (hplain : q.isPlain = true) : s.Ready src k q.text := by
  refine ⟨by simp [answer, hq, Except.mapError, bind, Except.bind, pure, Except.pure], ?_⟩
  intro σ catalog now self w
  refine ⟨(s.events src).reverse ++ w.log, ?_⟩
  rw [flow, advance_reportAll, hq]
  dsimp only
  rw [if_pos hplain]
  rfl

/-- In a database nothing can be provided, and a query with requirements is refused. -/
theorem advance_prepare_database {s : Service} {src : Source} {link : String} {q : Compiled}
    (hq : s.compiled src = .ok q) {w : World σ} {r : Requirement} (hr : r ∈ q.requirements)
    (hunknown : (w.caches s.place.cache).has (.database link) r.id = false) (catalog : Catalog σ)
    (now : Nat) (self : ThreadId) :
    ((s.flow (.prepare src (.database link))).advance catalog now s.place self w).pause =
      .ended (.error (.unsupportedContainer (.database link)
        (((w.caches s.place.cache).missing (.database link)
          (Requirement.dedup q.requirements)).map (·.id)))) := by
  have hplain : ¬ q.isPlain = true := fun h => by
    rw [List.isEmpty_iff.1 h] at hr
    cases hr
  have hmissing : ¬ ((w.caches s.place.cache).missing (.database link)
      (Requirement.dedup q.requirements)).isEmpty = true := fun h => by
    rw [Cache.missing_isEmpty_iff.1 h r hr] at hunknown
    cases hunknown
  rw [flow, advance_reportAll, hq]
  dsimp only
  rw [if_neg hplain, Provisioner.survey]
  have hread : ∀ (f : Cache → Flow Provision.Outcome) (w' : World σ),
      (Flow.readCache >>= f).advance catalog now s.place self w' =
        (f (w'.caches s.place.cache)).advance catalog now s.place self w' := fun _ _ => rfl
  rw [hread]
  dsimp only
  rw [if_neg hmissing]
  rfl

theorem not_ready_of_not_isPlain {s : Service} {src : Source} {link text : String} {q : Compiled}
    (hq : s.compiled src = .ok q) (hplain : ¬ q.isPlain = true) :
    ¬ s.Ready src (.database link) text := by
  rintro ⟨-, h⟩
  obtain ⟨r, hr⟩ := List.exists_mem_of_ne_nil _ fun he => hplain (List.isEmpty_iff.2 he)
  -- A cache that knows nothing decides it.
  let w : World Catalog.Memory := { catalog := .ofLinks [] 0 }
  obtain ⟨log, hlog⟩ := h _ Catalog.Memory.catalog 0 ⟨0, 0⟩ w
  have hunknown : (w.caches s.place.cache).has (.database link) r.id = false := rfl
  have hrefused := advance_prepare_database hq hr hunknown Catalog.Memory.catalog 0 ⟨0, 0⟩
  rw [hlog] at hrefused
  cases hrefused

theorem compiled_of_compile {s : Service} {src : Source} {f : Filter} {q : Compiled}
    (hf : src.toFilter = .ok f) (h : s.compiler.compile f = .ok q) : s.compiled src = .ok q := by
  rw [compiled, hf]
  show (s.compiler.compile f).mapError _ = _
  rw [h]
  rfl

theorem forall_ready_iff {c : Query.Compiler} {f : Filter} {q : Compiled}
    (h : c.compile f = .ok q) :
    (∀ (s : Service) (src : Source) (k : Container), s.compiler = c → src.toFilter = .ok f →
      s.Ready src k q.text) ↔ q.isPlain = true := by
  constructor
  · intro hready
    by_contra hplain
    let s : Service := ⟨c, default, ⟨0, 0⟩⟩
    have hq : s.compiled (.filter f) = .ok q := compiled_of_compile rfl h
    exact not_ready_of_not_isPlain hq hplain (hready s (.filter f) (.database "") rfl rfl)
  · intro hplain s src k hs hsrc
    subst hs
    exact ready_of_isPlain (compiled_of_compile hsrc h) hplain

end Service

namespace Query

/-- When a query calls all that it requires: no function may be met in dropped lists only. When it
is plain exactly if it calls nothing, and when it is then ready in every container: something that
is met has to be kept. -/
theorem requires_only_calls_iff {c : Compiler} {d : Document} {q : Compiled}
    (h : c.compile (.document d) = .ok q) :
    ∃ p : Predicate, c.document d = .ok ⟨p, q.requirements⟩ ∧
      q.text = c.dialect.selectWhere p.text ∧ (∀ l ∈ p.leaves, c.Writes l ∧ c.Spells l) ∧
      ((∀ r ∈ q.requirements, r.id ∈ p.calls) ↔ ∀ f, c.Meets d f → c.Keeps d f) ∧
      ((q.isPlain = true ↔ p.calls = []) ↔ ((∃ f, c.Meets d f) → ∃ f, c.Keeps d f)) ∧
      ((p.calls = [] → ∀ (s : Service) (src : Service.Source) (k : Container),
          s.compiler = c → src.toFilter = .ok (.document d) → s.Ready src k q.text) ↔
        ((∃ f, c.Meets d f) → ∃ f, c.Keeps d f)) := by
  obtain ⟨g, hg, hq⟩ := bind_eq_ok.1 h
  have htext : q.text = c.dialect.selectWhere g.predicate.text := (Except.ok.inj hq) ▸ rfl
  have hrequirements : q.requirements = g.requirements := (Except.ok.inj hq) ▸ rfl
  have hplain : q.isPlain = true ↔ ¬ ∃ f, c.Meets d f := by
    rw [Compiled.isPlain, List.isEmpty_iff, hrequirements]
    exact Compiler.requirements_eq_nil_iff hg
  have hcalls := Compiler.calls_eq_nil_iff hg
  rw [hrequirements]
  refine ⟨g.predicate, hg, htext, fun l hl => ?_, ?_, ?_, ?_⟩
  · have hwrites := Compiler.writes_of_mem hg hl
    exact ⟨hwrites, hwrites.spells⟩
  · rw [Compiler.forall_requirements_iff hg (P := fun id => id ∈ g.predicate.calls)]
    exact forall_congr' fun f => imp_congr_right fun _ => Compiler.mem_calls_iff hg
  · rw [hplain, hcalls]
    exact ⟨fun hiff => not_imp_not.1 hiff.2,
      fun hkept => not_congr ⟨hkept, Compiler.exists_meets_of_keeps hg⟩⟩
  · rw [Service.forall_ready_iff h, hplain, hcalls]
    exact not_imp_not

def voidFilter : Document :=
  [("$or", .list [.document [("a", .document [("$all", .value (.int 1))])], .document []]),
   ("name", .value (.string "foo"))]

/-- The function is required though the text does not call it, and a database refuses the query. -/
theorem voidFilter_requires : ∃ q p,
    (default : Compiler).compile (.document voidFilter) = .ok q ∧
      q.text = (default : Compiler).dialect.selectWhere (Predicate.text p) ∧
      q.requirements.map (·.id) = ["allUDF"] ∧ p.calls = [] ∧ q.isPlain = false ∧
      ¬ (∀ f, (default : Compiler).Meets voidFilter f → (default : Compiler).Keeps voidFilter f) ∧
      ¬ (∀ (s : Service) (src : Service.Source) (k : Container), s.compiler = default →
        src.toFilter = .ok (.document voidFilter) → s.Ready src k q.text) := by
  obtain ⟨q, hq, hids⟩ := exists_ok (x := (default : Compiler).compile (.document voidFilter))
    (fun q => q.requirements.map (·.id) = ["allUDF"]) (by decide +kernel)
  obtain ⟨g, hg, hcalls⟩ := exists_ok (x := (default : Compiler).document voidFilter)
    (fun g => g.predicate.calls = []) (by decide +kernel)
  obtain ⟨p, hp, htext, -, -, hplain, hready⟩ := requires_only_calls_iff hq
  obtain rfl := Except.ok.inj (hg.symm.trans hp)
  replace hids := of_decide_eq_true hids
  replace hcalls := of_decide_eq_true hcalls
  have hnot : q.isPlain = false := by
    rw [Compiled.isPlain, List.isEmpty_eq_false_iff]
    intro he
    rw [he] at hids
    cases hids
  have hdropped : ¬ ((∃ f, (default : Compiler).Meets voidFilter f) →
      ∃ f, (default : Compiler).Keeps voidFilter f) := fun hkept => by
    simpa [hnot, hcalls] using hplain.2 hkept
  refine ⟨q, p, hq, htext, hids, hcalls, hnot, fun hall => hdropped ?_, fun hall =>
    hdropped (hready.1 fun _ => hall)⟩
  rintro ⟨f, hf⟩
  exact ⟨f, hall f hf⟩

end Query
end DocQuery
