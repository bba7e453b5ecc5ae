import DocQuery.Proofs.Query.Requirements
import Mathlib.Logic.Relation

/-! # Which filters are accepted

A document is well formed if everything at a logical position has the shape that its place asks for.
Well formed documents are accepted. The converse fails: behind an alternative that places no
constraint the rest of its list is passed over, and a defect there is not seen. What is accepted in
whatever order its alternatives stand is well formed.
-/

namespace DocQuery

theorem Node.induction_mem {P : Node → Prop} (value : ∀ v, P (.value v))
    (document : ∀ d : Document, (∀ e ∈ d, P e.2) → P (.document d))
    (list : ∀ items, (∀ n ∈ items, P n) → P (.list items)) (n : Node) : P n :=
  @Node.rec P (fun d => ∀ e ∈ d, P e.2) (fun items => ∀ n ∈ items, P n) (fun e => P e.2)
    value document list (by simp) (fun _ _ he hd => List.forall_mem_cons.2 ⟨he, hd⟩)
    (by simp) (fun _ _ hn hitems => List.forall_mem_cons.2 ⟨hn, hitems⟩) (fun _ _ hn => hn) n

namespace Query

/-- An entry of a document that has the shape its keyword asks for, as has everything in it at a
logical position. -/
inductive WellFormedEntry (policy : EmptyListPolicy) : Keyword → Node → Prop
  | not {inner : Document} :
      (∀ e ∈ inner, WellFormedEntry policy (Keyword.ofKey e.1) e.2) →
      WellFormedEntry policy .not (.document inner)
  | list {key : ListKeyword} {elements : List Document} :
      (elements = [] → policy ≠ .reject) →
      (∀ d ∈ elements, ∀ e ∈ d, WellFormedEntry policy (Keyword.ofKey e.1) e.2) →
      WellFormedEntry policy (.list key) (.list (elements.map .document))
  | value {name : String} {v : Value} : WellFormedEntry policy (.field name) (.value v)
  | operators {name : String} {operators : List (String × Node)} :
      operators ≠ [] → (∀ o ∈ operators, (Operator.ofId? o.1).isSome = true) →
      WellFormedEntry policy (.field name) (.document operators)

def WellFormed (policy : EmptyListPolicy) (d : Document) : Prop :=
  ∀ e ∈ d, WellFormedEntry policy (Keyword.ofKey e.1) e.2

def WellFormedElement (policy : EmptyListPolicy) (n : Node) : Prop :=
  ∃ d, n = .document d ∧ WellFormed policy d

variable {policy : EmptyListPolicy} {d d' : Document}

theorem wellFormed_append_cons {before after : Document} {name : String} {node : Node} :
    WellFormed policy (before ++ (name, node) :: after) ↔ WellFormed policy before ∧
      WellFormedEntry policy (Keyword.ofKey name) node ∧ WellFormed policy after := by
  simp [WellFormed, or_imp, forall_and]

theorem wellFormedEntry_list {key : ListKeyword} {items : List Node} :
    WellFormedEntry policy (.list key) (.list items) ↔
      (items = [] → policy ≠ .reject) ∧ ∀ n ∈ items, WellFormedElement policy n := by
  constructor
  · intro h
    cases h with
    | @list _ elements hempty hall =>
        refine ⟨fun he => hempty (List.map_eq_nil_iff.1 he), fun n hn => ?_⟩
        obtain ⟨d, hd, rfl⟩ := List.mem_map.1 hn
        exact ⟨d, rfl, hall d hd⟩
  · rintro ⟨hempty, hall⟩
    have helements : ∃ elements : List Document,
        items = elements.map .document ∧ ∀ d ∈ elements, WellFormed policy d := by
      clear hempty
      induction items with
      | nil => exact ⟨[], rfl, by simp⟩
      | cons n items ih =>
          obtain ⟨⟨d, rfl, hd⟩, hrest⟩ := List.forall_mem_cons.1 hall
          obtain ⟨elements, rfl, helements⟩ := ih hrest
          exact ⟨d :: elements, rfl, List.forall_mem_cons.2 ⟨hd, helements⟩⟩
    obtain ⟨elements, rfl, helements⟩ := helements
    exact .list (fun he => hempty (he ▸ rfl)) helements

/-! ## Orders of alternatives -/

/-- Documents that differ in the order of one list of alternatives. -/
inductive Swaps : Document → Document → Prop
  | list {before after : Document} {name : String} {key : ListKeyword} {items items' : List Node} :
      Keyword.ofKey name = .list key → key.connective = .or → items.Perm items' →
      Swaps (before ++ (name, .list items) :: after) (before ++ (name, .list items') :: after)
  | not {before after inner inner' : Document} {name : String} :
      Keyword.ofKey name = .not → Swaps inner inner' →
      Swaps (before ++ (name, .document inner) :: after)
        (before ++ (name, .document inner') :: after)
  | element {before after e e' : Document} {name : String} {key : ListKeyword}
      {front back : List Node} :
      Keyword.ofKey name = .list key → Swaps e e' →
      Swaps (before ++ (name, .list (front ++ .document e :: back)) :: after)
        (before ++ (name, .list (front ++ .document e' :: back)) :: after)

def Reordered : Document → Document → Prop := Relation.ReflTransGen Swaps

theorem Swaps.wellFormed (h : Swaps d d') : WellFormed policy d → WellFormed policy d' := by
  induction h with
  | list hkey hor hperm =>
      simp only [wellFormed_append_cons, hkey, wellFormedEntry_list]
      rintro ⟨hbefore, ⟨hempty, hall⟩, hafter⟩
      refine ⟨hbefore, ⟨fun he => hempty ?_, fun n hn => hall n (hperm.mem_iff.2 hn)⟩, hafter⟩
      exact (he ▸ hperm).eq_nil
  | not hkey _ ih =>
      simp only [wellFormed_append_cons, hkey]
      rintro ⟨hbefore, hentry, hafter⟩
      cases hentry with
      | not hinner => exact ⟨hbefore, .not (ih hinner), hafter⟩
  | element hkey _ ih =>
      simp only [wellFormed_append_cons, hkey, wellFormedEntry_list, List.forall_mem_append,
        List.forall_mem_cons]
      rintro ⟨hbefore, ⟨-, hfront, ⟨_, hd, he⟩, hback⟩, hafter⟩
      obtain rfl := Node.document.inj hd
      exact ⟨hbefore, ⟨by simp, hfront, ⟨_, rfl, ih he⟩, hback⟩, hafter⟩

theorem Reordered.wellFormed (h : Reordered d d') (hd : WellFormed policy d) :
    WellFormed policy d' := by
  induction h with
  | refl => exact hd
  | tail _ hswap ih => exact hswap.wellFormed ih

theorem Reordered.not {before after inner inner' : Document} {name : String}
    (hkey : Keyword.ofKey name = .not) (h : Reordered inner inner') :
    Reordered (before ++ (name, .document inner) :: after)
      (before ++ (name, .document inner') :: after) := by
  induction h with
  | refl => exact .refl
  | tail _ hswap ih => exact ih.tail (.not hkey hswap)

theorem Reordered.element {before after e e' : Document} {name : String} {key : ListKeyword}
    {front back : List Node} (hkey : Keyword.ofKey name = .list key) (h : Reordered e e') :
    Reordered (before ++ (name, .list (front ++ .document e :: back)) :: after)
      (before ++ (name, .list (front ++ .document e' :: back)) :: after) := by
  induction h with
  | refl => exact .refl
  | tail _ hswap ih => exact ih.tail (.element hkey hswap)

namespace Compiler

variable {c : Compiler}

/-! ## What is accepted -/

def Accepts (c : Compiler) (d : Document) : Prop := ∃ q, c.compile (.document d) = .ok q

theorem accepts_iff : c.Accepts d ↔ ∃ ps, c.entryParts false d = .ok ps := by
  constructor
  · rintro ⟨q, hq⟩
    obtain ⟨f, hf, -⟩ := bind_eq_ok.1 hq
    obtain ⟨ps, hps, -⟩ := bind_eq_ok.1 hf
    exact ⟨ps, hps⟩
  · rintro ⟨ps, hps⟩
    exact ⟨_, bind_eq_ok.2 ⟨_, bind_eq_ok.2 ⟨ps, hps, rfl⟩, rfl⟩⟩

theorem entryParts_ok_iff {grouped : Bool} {es : List (String × Node)} :
    (∃ ps, c.entryParts grouped es = .ok ps) ↔
      ∀ e ∈ es, ∃ f, c.entry grouped (Keyword.ofKey e.1) e.2 = .ok f := by
  induction es with
  | nil => simp [entryParts]
  | cons e rest ih =>
      obtain ⟨key, node⟩ := e
      rw [List.forall_mem_cons, ← ih, entryParts]
      constructor
      · rintro ⟨ps, hps⟩
        obtain ⟨f, hf, hps⟩ := bind_eq_ok.1 hps
        obtain ⟨ps', hps', -⟩ := bind_eq_ok.1 hps
        exact ⟨⟨f, hf⟩, ps', hps'⟩
      · rintro ⟨⟨f, hf⟩, ps, hps⟩
        exact ⟨_, bind_eq_ok.2 ⟨f, hf, bind_eq_ok.2 ⟨ps, hps, rfl⟩⟩⟩

theorem operatorParts_ok_iff {name : String} {operators : List (String × Node)} :
    (∃ ps, c.operatorParts name operators = .ok ps) ↔
      ∀ o ∈ operators, (Operator.ofId? o.1).isSome = true := by
  induction operators with
  | nil => simp [operatorParts]
  | cons entry rest ih =>
      obtain ⟨id, argument⟩ := entry
      rw [List.forall_mem_cons, ← ih, operatorParts]
      cases Operator.ofId? id with
      | none => simp
      | some o =>
          constructor
          · rintro ⟨ps, hps⟩
            obtain ⟨ps', hps', -⟩ := bind_eq_ok.1 hps
            exact ⟨rfl, ps', hps'⟩
          · rintro ⟨-, ps, hps⟩
            exact ⟨_, bind_eq_ok.2 ⟨ps, hps, rfl⟩⟩

theorem field_ok_iff (policy : EmptyListPolicy) {name : String} {node : Node} :
    (∃ f, c.field name node = .ok f) ↔ WellFormedEntry policy (.field name) node := by
  match node with
  | .value v => exact ⟨fun _ => .value, fun _ => ⟨_, rfl⟩⟩
  | .document [] =>
      have hrefused : ¬ ∃ f, c.field name (.document []) = .ok f := by rintro ⟨f, ⟨⟩⟩
      refine ⟨fun h => absurd h hrefused, fun h => ?_⟩
      cases h with
      | operators hne _ => exact absurd rfl hne
  | .document (o :: os) =>
      have hparts : (∃ ps, c.operatorParts name (o :: os) = .ok ps) ↔ _ := operatorParts_ok_iff
      constructor
      · rintro ⟨f, hf⟩
        obtain ⟨ps, hps, -⟩ := bind_eq_ok.1 hf
        exact .operators (by simp) (hparts.1 ⟨ps, hps⟩)
      · intro h
        cases h with
        | operators _ hall =>
            obtain ⟨ps, hps⟩ := hparts.2 hall
            exact ⟨_, bind_eq_ok.2 ⟨ps, hps, rfl⟩⟩
  | .list items =>
      have hrefused : ¬ ∃ f, c.field name (.list items) = .ok f := by rintro ⟨f, ⟨⟩⟩
      refine ⟨fun h => absurd h hrefused, fun h => ?_⟩
      cases h

theorem emptyList_ok_iff {key : ListKeyword} :
    (∃ p, c.emptyList key = .ok p) ↔ c.options.emptyList ≠ .reject := by
  rw [emptyList]
  cases c.options.emptyList <;> simp

/-- Whether something else groups an entry is a matter of its text only. -/
theorem entry_ok_of_ok {grouped grouped' : Bool} {keyword : Keyword} {node : Node}
    (h : ∃ f, c.entry grouped keyword node = .ok f) :
    ∃ f, c.entry grouped' keyword node = .ok f := by
  obtain ⟨f, hf⟩ := h
  match keyword, node with
  | .not, n => exact ⟨f, by cases n <;> simpa only [entry] using hf⟩
  | .list key, .list [] => exact ⟨f, by simpa only [entry] using hf⟩
  | .list key, .list (n :: items) =>
      simp only [entry] at hf ⊢
      obtain ⟨es, hes, -⟩ := bind_eq_ok.1 hf
      exact ⟨_, bind_eq_ok.2 ⟨es, hes, rfl⟩⟩
  | .list key, .value v => exact ⟨f, by simpa only [entry] using hf⟩
  | .list key, .document d => exact ⟨f, by simpa only [entry] using hf⟩
  | .unknown key, n => exact ⟨f, by simpa only [entry] using hf⟩
  | .field name, n => exact ⟨f, by simpa only [entry] using hf⟩

theorem accepts_of_entryParts {grouped : Bool} (h : ∃ ps, c.entryParts grouped d = .ok ps) :
    c.Accepts d :=
  accepts_iff.2 (entryParts_ok_iff.2 fun e he => entry_ok_of_ok (entryParts_ok_iff.1 h e he))

theorem entryParts_of_accepts {grouped : Bool} (h : c.Accepts d) :
    ∃ ps, c.entryParts grouped d = .ok ps :=
  entryParts_ok_iff.2 fun e he => entry_ok_of_ok (entryParts_ok_iff.1 (accepts_iff.1 h) e he)

theorem elementParts_ok (key : ListKeyword) {elements : List Document}
    (h : ∀ d ∈ elements, c.Accepts d) :
    ∃ es, c.elementParts key (elements.map .document) = .ok es := by
  induction elements with
  | nil => exact ⟨_, rfl⟩
  | cons d elements ih =>
      obtain ⟨hd, hrest⟩ := List.forall_mem_cons.1 h
      obtain ⟨ps, hps⟩ := accepts_iff.1 hd
      obtain ⟨es, hes⟩ := ih hrest
      rw [List.map_cons, elementParts]
      by_cases hvoid : ps.parts = [] ∧ key.connective = .or
      · exact ⟨_, bind_eq_ok.2 ⟨ps, hps, if_pos hvoid⟩⟩
      · exact ⟨_, bind_eq_ok.2 ⟨ps, hps, (if_neg hvoid).trans (bind_eq_ok.2 ⟨es, hes, rfl⟩)⟩⟩

theorem entry_ok_of_wellFormed {keyword : Keyword} {node : Node}
    (h : WellFormedEntry c.options.emptyList keyword node) :
    ∃ f, c.entry false keyword node = .ok f := by
  induction h with
  | @not inner _ ih =>
      obtain ⟨ps, hps⟩ := entryParts_of_accepts (accepts_iff.2 (entryParts_ok_iff.2 ih))
      rw [entry]
      exact ⟨_, bind_eq_ok.2 ⟨ps, hps, rfl⟩⟩
  | @list key elements hempty _ ih =>
      cases elements with
      | nil =>
          obtain ⟨p, hp⟩ := emptyList_ok_iff.2 (hempty rfl)
          rw [List.map_nil, entry]
          exact ⟨_, bind_eq_ok.2 ⟨p, hp, rfl⟩⟩
      | cons d elements =>
          have haccepts : ∀ x ∈ d :: elements, c.Accepts x := fun x hx =>
            accepts_iff.2 (entryParts_ok_iff.2 (ih x hx))
          obtain ⟨es, hes⟩ := elementParts_ok key haccepts
          rw [entry]
          · exact ⟨_, bind_eq_ok.2 ⟨es, hes, rfl⟩⟩
          · simp
  | value =>
      rw [entry]
      exact ⟨_, rfl⟩
  | operators hne hall =>
      rw [entry]
      exact (field_ok_iff c.options.emptyList).2 (.operators hne hall)

/-- A well formed document is accepted. -/
theorem accepts_of_wellFormed (h : WellFormed c.options.emptyList d) : c.Accepts d :=
  accepts_iff.2 (entryParts_ok_iff.2 fun e he => entry_ok_of_wellFormed (h e he))

/-! ## What is passed over -/

/-- The nodes that no compilation of a document looks at: those behind an alternative that places no
constraint. -/
inductive PassedOver (c : Compiler) : Document → Node → Prop
  | behind {d x : Document} {name : String} {key : ListKeyword} {before after : List Node}
      {n : Node} :
      (name, .list (before ++ .document x :: after)) ∈ d → Keyword.ofKey name = .list key →
      key.connective = .or → c.Unconstrained x → n ∈ after → PassedOver c d n
  | not {d inner : Document} {name : String} {n : Node} :
      (name, .document inner) ∈ d → Keyword.ofKey name = .not → PassedOver c inner n →
      PassedOver c d n
  | element {d e : Document} {name : String} {key : ListKeyword} {before after : List Node}
      {n : Node} :
      (name, .list (before ++ .document e :: after)) ∈ d → Keyword.ofKey name = .list key →
      c.Clear key before → PassedOver c e n → PassedOver c d n

def MissesNothing (c : Compiler) (d : Document) : Prop :=
  ∀ n, c.PassedOver d n → WellFormedElement c.options.emptyList n

theorem PassedOver.mono {n : Node} (h : c.PassedOver d n) (hsub : d ⊆ d') :
    c.PassedOver d' n := by
  cases h with
  | behind hm hkey hor hx hn => exact .behind (hsub hm) hkey hor hx hn
  | not hm hkey hn => exact .not (hsub hm) hkey hn
  | element hm hkey hbefore hn => exact .element (hsub hm) hkey hbefore hn

section

variable {e : Document} {name : String} {key : ListKeyword} {rest : List Node} {n : Node}

theorem PassedOver.first (h : c.PassedOver e n) (hkey : Keyword.ofKey name = .list key) :
    c.PassedOver [(name, .list (.document e :: rest))] n := by
  have hm : (name, .list ([] ++ .document e :: rest)) ∈
    [(name, Node.list (.document e :: rest))] := List.mem_singleton.2 rfl
  exact .element hm hkey (c.clear_nil key) h

theorem passedOver_rest (hkey : Keyword.ofKey name = .list key) (hor : key.connective = .or)
    (he : c.Unconstrained e) (hn : n ∈ rest) :
    c.PassedOver [(name, .list (.document e :: rest))] n := by
  have hm : (name, .list ([] ++ .document e :: rest)) ∈
    [(name, Node.list (.document e :: rest))] := List.mem_singleton.2 rfl
  exact .behind hm hkey hor he hn

theorem PassedOver.cons (h : c.PassedOver [(name, .list rest)] n)
    (hkey : Keyword.ofKey name = .list key) (he : key.connective = .or → ¬ c.Unconstrained e) :
    c.PassedOver [(name, .list (.document e :: rest))] n := by
  cases h with
  | @behind _ x name' _ before after _ hm hkey' hor hx hn =>
      obtain ⟨rfl, rfl⟩ : name' = name ∧ before ++ .document x :: after = rest := by simpa using hm
      have hm' : (name', .list ((.document e :: before) ++ .document x :: after)) ∈
          [(name', Node.list (.document e :: (before ++ .document x :: after)))] :=
        List.mem_singleton.2 rfl
      exact .behind hm' hkey' hor hx hn
  | not hm => simp at hm
  | @element _ x name' _ before after _ hm hkey' hbefore hn =>
      obtain ⟨rfl, rfl⟩ : name' = name ∧ before ++ .document x :: after = rest := by simpa using hm
      obtain rfl := Keyword.list.inj (hkey.symm.trans hkey')
      have hm' : (name', .list ((.document e :: before) ++ .document x :: after)) ∈
          [(name', Node.list (.document e :: (before ++ .document x :: after)))] :=
        List.mem_singleton.2 rfl
      exact .element hm' hkey (clear_cons.2 ⟨he, hbefore⟩) hn

end

/-- What is passed over in a well formed document is well formed. -/
theorem missesNothing_of_wellFormed (h : WellFormed c.options.emptyList d) :
    c.MissesNothing d := by
  intro n hn
  induction hn with
  | behind hm hkey _ _ hn =>
      have hentry := h _ hm
      rw [hkey] at hentry
      exact (wellFormedEntry_list.1 hentry).2 _ (by simp [hn])
  | not hm hkey _ ih =>
      have hentry := h _ hm
      rw [hkey] at hentry
      cases hentry with
      | not hinner => exact ih hinner
  | @element _ e _ _ _ _ _ hm hkey _ _ ih =>
      have hentry := h _ hm
      rw [hkey] at hentry
      obtain ⟨_, he, hwell⟩ := (wellFormedEntry_list.1 hentry).2 (.document e) (by simp)
      exact ih (Node.document.inj he ▸ hwell)

/-- What was compiled is well formed, if no defect was passed over. That an element of a list places
no constraint is seen from what its fragments say. -/
theorem wellFormed_inductive (c : Compiler) : c.Inductive
    (fun grouped es ps => (ps.parts.length ≤ es.length ∧
        SayEach (.within grouped) ps.parts fun v => c.meanings v es) ∧
      (c.MissesNothing es → WellFormed c.options.emptyList es))
    (fun grouped keyword node f =>
      (Says (.within grouped) f.predicate fun v => c.entryMeaning v keyword node) ∧
      ∀ name, Keyword.ofKey name = keyword → c.MissesNothing [(name, node)] →
        WellFormedEntry c.options.emptyList keyword node)
    (fun key items es => (SayElements key es.parts fun v => c.elementMeanings v items) ∧
      ∀ name, Keyword.ofKey name = .list key → c.MissesNothing [(name, .list items)] →
        ∀ n ∈ items, WellFormedElement c.options.emptyList n) where
  nil := fun grouped => ⟨c.says_inductive.nil grouped, fun _ => by simp [WellFormed]⟩
  cons := by
    rintro grouped key node rest f ps ⟨hmeans, hf⟩ ⟨hmeans', hps⟩
    refine ⟨c.says_inductive.cons hmeans hmeans', fun hd => ?_⟩
    have hentry := hf key rfl fun n hn => hd n (hn.mono (by simp))
    have hrest := hps fun n hn => hd n (hn.mono (List.subset_cons_self _ _))
    exact List.forall_mem_cons.2 ⟨hentry, hrest⟩
  not := by
    rintro grouped inner ps ⟨hmeans, hps⟩
    refine ⟨c.says_inductive.not hmeans, fun name hkey hd => .not (hps fun n hn => ?_)⟩
    exact hd n (.not (List.mem_singleton.2 rfl) hkey hn)
  empty := by
    intro grouped key p hp
    refine ⟨c.says_inductive.empty hp, fun _ _ _ => wellFormedEntry_list.2 ⟨fun _ => ?_, by simp⟩⟩
    exact emptyList_ok_iff.1 ⟨p, hp⟩
  list := by
    rintro grouped key items es hne ⟨hmeans, hes⟩
    refine ⟨c.says_inductive.list hne hmeans, fun name hkey hd => ?_⟩
    exact wellFormedEntry_list.2 ⟨fun he => absurd he hne, hes name hkey hd⟩
  field := fun hf => ⟨c.says_inductive.field hf, fun _ _ _ => (field_ok_iff _).1 ⟨_, hf⟩⟩
  none := fun key => ⟨c.says_inductive.none key, fun _ _ _ => by simp⟩
  void := by
    rintro key element rest ps ⟨hmeans, hps⟩ hempty hor
    refine ⟨c.says_inductive.void hmeans hempty hor, fun name hkey hd => ?_⟩
    have hnone : c.Unconstrained element := fun v => (hmeans.2.conjoin_eq_none v).2 hempty
    have helement := hps fun n hn => hd n (hn.first hkey)
    exact List.forall_mem_cons.2
      ⟨⟨element, rfl, helement⟩, fun n hn => hd n (passedOver_rest hkey hor hnone hn)⟩
  more := by
    rintro key element rest ps es ⟨hmeans, hps⟩ hvoid ⟨hmeans', hes⟩
    refine ⟨c.says_inductive.more hmeans hvoid hmeans', fun name hkey hd => ?_⟩
    have hconstrains : key.connective = .or → ¬ c.Unconstrained element := fun hor hnone =>
      hvoid ⟨(hmeans.2.conjoin_eq_none fun _ => true).1 (hnone _), hor⟩
    have helement := hps fun n hn => hd n (hn.first hkey)
    have hrest := hes name hkey fun n hn => hd n (hn.cons hkey hconstrains)
    exact List.forall_mem_cons.2 ⟨⟨element, rfl, helement⟩, hrest⟩

theorem wellFormed_of_accepts (h : c.Accepts d) (hd : c.MissesNothing d) :
    WellFormed c.options.emptyList d := by
  obtain ⟨ps, hps⟩ := accepts_iff.1 h
  exact (c.wellFormed_inductive.all.1 false d ps hps).2 hd

/-! ## What is accepted in every order -/

def AcceptsReordered (c : Compiler) (d : Document) : Prop := ∀ d', Reordered d d' → c.Accepts d'

theorem entry_ok_of_accepts {before after : Document} {name : String} {node : Node}
    (h : c.Accepts (before ++ (name, node) :: after)) :
    ∃ f, c.entry false (Keyword.ofKey name) node = .ok f :=
  entryParts_ok_iff.1 (accepts_iff.1 h) (name, node) (by simp)

theorem accepts_of_entry_not {grouped : Bool} {node : Node}
    (h : ∃ f, c.entry grouped .not node = .ok f) : ∃ inner, node = .document inner ∧
      c.Accepts inner := by
  obtain ⟨f, hf⟩ := h
  match node with
  | .document inner =>
      rw [entry] at hf
      obtain ⟨ps, hps, -⟩ := bind_eq_ok.1 hf
      exact ⟨inner, rfl, accepts_of_entryParts ⟨ps, hps⟩⟩
  | .value v =>
      rw [entry] at hf
      · cases hf
      · simp
  | .list items =>
      rw [entry] at hf
      · cases hf
      · simp

theorem elementParts_of_entry_list {grouped : Bool} {key : ListKeyword} {node : Node}
    (h : ∃ f, c.entry grouped (.list key) node = .ok f) :
    (node = .list [] ∧ c.options.emptyList ≠ .reject) ∨
      ∃ items, node = .list items ∧ items ≠ [] ∧ ∃ es, c.elementParts key items = .ok es := by
  obtain ⟨f, hf⟩ := h
  match node with
  | .list [] =>
      rw [entry] at hf
      obtain ⟨p, hp, -⟩ := bind_eq_ok.1 hf
      exact Or.inl ⟨rfl, emptyList_ok_iff.1 ⟨p, hp⟩⟩
  | .list (n :: items) =>
      rw [entry] at hf
      · obtain ⟨es, hes, -⟩ := bind_eq_ok.1 hf
        exact Or.inr ⟨_, rfl, by simp, es, hes⟩
      · simp
  | .value v =>
      rw [entry] at hf
      · cases hf
      · simp
      · simp
  | .document d =>
      rw [entry] at hf
      · cases hf
      · simp
      · simp

theorem accepts_of_elementParts_cons {key : ListKeyword} {n : Node} {rest : List Node}
    (h : ∃ es, c.elementParts key (n :: rest) = .ok es) :
    ∃ e, n = .document e ∧ c.Accepts e := by
  obtain ⟨es, hes⟩ := h
  match n with
  | .document e =>
      rw [elementParts] at hes
      obtain ⟨ps, hps, -⟩ := bind_eq_ok.1 hes
      exact ⟨e, rfl, accepts_iff.2 ⟨ps, hps⟩⟩
  | .value v =>
      rw [elementParts] at hes
      cases hes
  | .list items =>
      rw [elementParts] at hes
      cases hes

theorem accepts_of_elementParts_and {key : ListKeyword} (hand : key.connective = .and)
    {items : List Node} (h : ∃ es, c.elementParts key items = .ok es) {n : Node} (hn : n ∈ items) :
    ∃ e, n = .document e ∧ c.Accepts e := by
  induction items with
  | nil => cases hn
  | cons m items ih =>
      obtain ⟨e, rfl, he⟩ := accepts_of_elementParts_cons h
      rcases List.mem_cons.1 hn with rfl | hn
      · exact ⟨e, rfl, he⟩
      · refine ih ?_ hn
        obtain ⟨es, hes⟩ := h
        rw [elementParts] at hes
        obtain ⟨ps, -, hes⟩ := bind_eq_ok.1 hes
        rw [if_neg (by simp [hand])] at hes
        obtain ⟨es', hes', -⟩ := bind_eq_ok.1 hes
        exact ⟨es', hes'⟩

/-- An element of a list that is accepted in every order is itself accepted in every order: an
alternative is looked at when it stands first. -/
theorem AcceptsReordered.element {before after : Document} {name : String} {key : ListKeyword}
    {items : List Node} (h : c.AcceptsReordered (before ++ (name, .list items) :: after))
    (hkey : Keyword.ofKey name = .list key) {n : Node} (hn : n ∈ items) :
    ∃ e, n = .document e ∧ c.AcceptsReordered e := by
  have hvisited : ∀ items', items' ≠ [] →
      Reordered (before ++ (name, .list items) :: after)
        (before ++ (name, .list items') :: after) → ∃ es, c.elementParts key items' = .ok es := by
    intro items' hne hr
    have hentry := entry_ok_of_accepts (h _ hr)
    rw [hkey] at hentry
    rcases elementParts_of_entry_list hentry with ⟨he, -⟩ | ⟨items'', he, -, hes⟩
    · exact absurd (Node.list.inj he) hne
    · exact Node.list.inj he ▸ hes
  obtain ⟨front, back, rfl⟩ := List.append_of_mem hn
  cases hconnective : key.connective with
  | and =>
      obtain ⟨e, rfl, -⟩ := accepts_of_elementParts_and hconnective (hvisited _ (by simp) .refl) hn
      refine ⟨e, rfl, fun e' he' => ?_⟩
      have hes := hvisited _ (by simp) (.element hkey he')
      obtain ⟨_, hd, haccepts⟩ := accepts_of_elementParts_and hconnective hes
        (List.mem_append_right front List.mem_cons_self)
      exact Node.document.inj hd ▸ haccepts
  | or =>
      have hfirst : Reordered (before ++ (name, .list (front ++ n :: back)) :: after)
          (before ++ (name, .list ([] ++ n :: (front ++ back))) :: after) :=
        .single (.list hkey hconnective List.perm_middle)
      obtain ⟨e, rfl, -⟩ := accepts_of_elementParts_cons (hvisited _ (by simp) hfirst)
      refine ⟨e, rfl, fun e' he' => ?_⟩
      have hes := hvisited _ (by simp) (hfirst.trans (Reordered.element hkey he'))
      obtain ⟨_, hd, haccepts⟩ := accepts_of_elementParts_cons hes
      exact Node.document.inj hd ▸ haccepts

theorem AcceptsReordered.not {before after : Document} {name : String} {node : Node}
    (h : c.AcceptsReordered (before ++ (name, node) :: after))
    (hkey : Keyword.ofKey name = .not) :
    ∃ inner, node = .document inner ∧ c.AcceptsReordered inner := by
  have hentry : ∀ node', Reordered (before ++ (name, node) :: after)
      (before ++ (name, node') :: after) → ∃ inner, node' = .document inner ∧ c.Accepts inner :=
    fun node' hr => accepts_of_entry_not (hkey ▸ entry_ok_of_accepts (h _ hr))
  obtain ⟨inner, rfl, -⟩ := hentry node .refl
  refine ⟨inner, rfl, fun inner' hinner => ?_⟩
  obtain ⟨_, hd, haccepts⟩ := hentry _ (.not hkey hinner)
  exact Node.document.inj hd ▸ haccepts

/-- A node in which every document that is accepted in every order is well formed. -/
def Inspected (c : Compiler) : Node → Prop
  | .value _ => True
  | .document d => c.AcceptsReordered d → WellFormed c.options.emptyList d
  | .list items => ∀ d, .document d ∈ items → c.AcceptsReordered d →
      WellFormed c.options.emptyList d

theorem wellFormed_of_inspected (hd : ∀ e ∈ d, c.Inspected e.2) (h : c.AcceptsReordered d) :
    WellFormed c.options.emptyList d := by
  rintro ⟨name, node⟩ hm
  have hinspected := hd _ hm
  obtain ⟨before, after, rfl⟩ := List.append_of_mem hm
  have hentry := entry_ok_of_accepts (h _ .refl)
  dsimp only at hinspected ⊢
  cases hkey : Keyword.ofKey name with
  | not =>
      obtain ⟨inner, rfl, hinner⟩ := h.not hkey
      exact .not (hinspected hinner)
  | list key =>
      rw [hkey] at hentry
      rcases elementParts_of_entry_list hentry with ⟨rfl, hpolicy⟩ | ⟨items, rfl, hne, -⟩
      · exact wellFormedEntry_list.2 ⟨fun _ => hpolicy, by simp⟩
      · refine wellFormedEntry_list.2 ⟨fun he => absurd he hne, fun n hn => ?_⟩
        obtain ⟨e, rfl, he⟩ := h.element hkey hn
        exact ⟨e, rfl, hinspected e hn he⟩
  | unknown key =>
      rw [hkey] at hentry
      obtain ⟨f, hf⟩ := hentry
      rw [entry] at hf
      cases hf
  | field field =>
      rw [hkey] at hentry
      obtain ⟨f, hf⟩ := hentry
      rw [entry] at hf
      exact (field_ok_iff _).1 ⟨f, hf⟩

theorem inspected (c : Compiler) (n : Node) : c.Inspected n := by
  induction n using Node.induction_mem with
  | value v => trivial
  | document d ih => exact wellFormed_of_inspected ih
  | list items ih => exact fun d hd => ih (.document d) hd

theorem wellFormed_iff_acceptsReordered :
    WellFormed c.options.emptyList d ↔ c.AcceptsReordered d :=
  ⟨fun h _ hr => accepts_of_wellFormed (hr.wellFormed h),
    wellFormed_of_inspected fun e _ => c.inspected e.2⟩

end Compiler

/-- Well formed documents are accepted, and a document that is accepted is well formed exactly if no
defect stands behind an alternative without a constraint. Whether alternatives are accepted in every
order is the same question. -/
theorem wellFormed_iff_accepted (c : Compiler) (d : Document) :
    (WellFormed c.options.emptyList d ↔ c.Accepts d ∧ c.MissesNothing d) ∧
      (WellFormed c.options.emptyList d ↔ ∀ d', Reordered d d' → c.Accepts d') :=
  ⟨⟨fun h => ⟨Compiler.accepts_of_wellFormed h, Compiler.missesNothing_of_wellFormed h⟩,
      fun h => Compiler.wellFormed_of_accepts h.1 h.2⟩,
    Compiler.wellFormed_iff_acceptsReordered⟩

/-- An empty document and a number as alternatives, in this order or the other. -/
def emptyOrNumber (numberFirst : Bool) : Document :=
  let alternatives := [.document [], .value (.int 5)]
  [("$or", .list (if numberFirst then alternatives.reverse else alternatives))]

/-- A number is no alternative, but behind an empty one it is not noticed. -/
theorem accepted_unless_reordered :
    (default : Compiler).Accepts (emptyOrNumber false) ∧
      ¬ WellFormed (default : Compiler).options.emptyList (emptyOrNumber false) ∧
      Reordered (emptyOrNumber false) (emptyOrNumber true) ∧
      ¬ (default : Compiler).Accepts (emptyOrNumber true) := by
  have hkey : Keyword.ofKey "$or" = .list .or := by decide
  refine ⟨?_, fun h => ?_, ?_, ?_⟩
  · exact Compiler.accepts_iff.2 ⟨_, rfl⟩
  · have hentry := h ("$or", _) (List.mem_singleton.2 rfl)
    rw [hkey] at hentry
    obtain ⟨d, hd, -⟩ := (wellFormedEntry_list.1 hentry).2 (.value (.int 5)) (by simp)
    cases hd
  · have hswap : Swaps ([] ++ ("$or", .list [.document [], .value (.int 5)]) :: [])
        ([] ++ ("$or", .list [.value (.int 5), .document []]) :: []) :=
      .list hkey rfl (.swap _ _ _)
    exact .single hswap
  · rintro ⟨q, hq⟩
    have hrefused : ((default : Compiler).compile
        (.document (emptyOrNumber true))).toOption.isSome = false := by decide +kernel
    rw [hq] at hrefused
    cases hrefused

end Query
end DocQuery
