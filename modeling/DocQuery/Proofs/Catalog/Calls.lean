import DocQuery.Catalog.Scripted
import DocQuery.Proofs.Catalog.Memory

/-! # A memory under calls

Whatever has been called for, a memory holds the functions that were registered and not deleted
later, in the order of their registration, each with the id and body it was registered with. A call
that fails changes no collection, and what a memory holds decides which calls fail.
-/

namespace DocQuery.Catalog

namespace Memory

inductive Call where
  | addCollection (link : String)
  | seed (k : Container) (f : Requirement)
  /-- A request that is sent at a time in milliseconds. -/
  | request (now : Nat) (r : Request)
deriving DecidableEq

namespace Call

def Result : Call → Type
  | .addCollection _ => Unit
  | .seed .. => Record
  | .request _ r => r.Result

def kind? : Call → Option Kind
  | .addCollection _ => none
  | .seed .. => none
  | .request _ r => some r.kind

def creation? : Call → Option (Container × Requirement)
  | .addCollection _ => none
  | .seed k f => some (k, f)
  | .request _ (.list _) => none
  | .request _ (.create k f) => some (k, f)
  | .request _ (.delete ..) => none

def deletion? : Call → Option (Container × String)
  | .addCollection _ => none
  | .seed .. => none
  | .request _ (.list _) => none
  | .request _ (.create ..) => none
  | .request _ (.delete k id) => some (k, id)

end Call

def perform (m : Memory) : (call : Call) → Except Error call.Result × Memory
  | .addCollection link => (.ok (), m.addCollection link)
  | .seed k f => m.seed k f
  | .request now r => ((catalog.ask now r m).value.1, (catalog.ask now r m).state)

structure Entry where
  call : Call
  granted : Bool
deriving DecidableEq

def performAll (m : Memory) : List Call → List Entry × Memory
  | [] => ([], m)
  | call :: calls =>
    let later := (m.perform call).2.performAll calls
    (⟨call, (m.perform call).1.isOk⟩ :: later.1, later.2)

/-! ## What a history tells -/

namespace Entry

def created? (link : String) (e : Entry) : Option Requirement :=
  if e.granted then
    e.call.creation?.bind fun (k, f) => if k = .collection link then some f else none
  else none

def removes (link id : String) (e : Entry) : Bool :=
  e.granted && e.call.deletion? = some (.collection link, id)

end Entry

/-- The functions that came under a link and were not removed later, in the order of coming. -/
def survivors (link : String) : List Entry → List Requirement
  | [] => []
  | e :: later =>
    match e.created? link with
    | none => survivors link later
    | some f =>
      if later.any (·.removes link f.id) then survivors link later
      else f :: survivors link later

/-- One more entry takes away what it removes, and brings what it creates to the end. -/
theorem survivors_concat (link : String) (past : List Entry) (e : Entry) :
    survivors link (past ++ [e]) =
      (survivors link past).filter (fun f => !e.removes link f.id) ++
        (e.created? link).toList := by
  induction past with
  | nil => cases h : e.created? link <;> simp [survivors, h]
  | cons e' past ih =>
      cases h : e'.created? link with
      | none => simp only [List.cons_append, survivors, h, ih]
      | some f =>
          simp only [List.cons_append, survivors, h, List.any_append, ih]
          cases hlater : past.any (·.removes link f.id) <;> cases hnow : e.removes link f.id <;>
            simp [hnow]

/-- What a memory holds, as its history tells. -/
structure Follows (links : List String) (past : List Entry) (m : Memory) : Prop where
  has_iff : ∀ link, m.Has link ↔ link ∈ links ∨ .addCollection link ∈ past.map (·.call)
  functions_eq : ∀ link, m.functions link = (survivors link past).map (recordOf link)
  nodup_ids : ∀ link, ((m.functions link).map (·.id)).Nodup
  nodup_handles : ∀ link, ((m.functions link).map (·.handle)).Nodup
  lists_eq : m.calls.lists = UInt64.ofNat (past.countP (·.call.kind? = some .list))
  creates_eq : m.calls.creates = UInt64.ofNat (past.countP (·.call.kind? = some .create))
  deletes_eq : m.calls.deletes = UInt64.ofNat (past.countP (·.call.kind? = some .delete))

/-! ## What an answer tells -/

/-- A function is registered exactly if the container is a collection that exists and the id is
free; otherwise the error names the reason. -/
structure Registers (m : Memory) (k : Container) (f : Requirement) (answer : Except Error Record)
    (m' : Memory) : Prop where
  conflict_iff : answer = .error (.conflict k f.id) ↔
    ∃ link, k = .collection link ∧ m.Has link ∧ m.Registered link f.id
  notFound_iff : answer = .error (.notFound k.display) ↔ ∃ link, k = .collection link ∧ ¬m.Has link
  unsupported_iff : answer = .error (.unsupportedContainer k) ↔ ∃ link, k = .database link
  error_cases : ∀ e, answer = .error e →
    e = .conflict k f.id ∨ e = .notFound k.display ∨ e = .unsupportedContainer k
  ok : ∀ r, answer = .ok r → ∃ link, k = .collection link ∧ r = recordOf link f ∧
    m'.functions link = m.functions link ++ [r] ∧
    ∀ other, other ≠ link → m'.functions other = m.functions other

structure Lists (m : Memory) (k : Container) (answer : Except Error (List Record))
    (m' : Memory) : Prop where
  ok_iff : ∀ rs, answer = .ok rs ↔ ∃ link, k = .collection link ∧ m.Has link ∧ rs = m.functions link
  notFound_iff : answer = .error (.notFound k.display) ↔ ∃ link, k = .collection link ∧ ¬m.Has link
  unsupported_iff : answer = .error (.unsupportedContainer k) ↔ ∃ link, k = .database link
  unchanged : m'.collections = m.collections

/-- A function is deleted exactly if it is registered, and then no other is. -/
structure Deletes (m : Memory) (k : Container) (id : String) (answer : Except Error Unit)
    (m' : Memory) : Prop where
  error_iff : (∃ e, answer = .error e) ↔ (∃ link, k = .database link) ∨
    ∃ link, k = .collection link ∧ (¬m.Has link ∨ ¬m.Registered link id)
  unsupported_iff : answer = .error (.unsupportedContainer k) ↔ ∃ link, k = .database link
  notFound_iff : answer = .error (.notFound k.display) ↔ ∃ link, k = .collection link ∧ ¬m.Has link
  unknown_iff : answer = .error (.notFound (unknownId k id)) ↔
    ∃ link, k = .collection link ∧ m.Has link ∧ ¬m.Registered link id
  ok : answer = .ok () → ∃ link, k = .collection link ∧
    m'.functions link = (m.functions link).filter (·.id ≠ id) ∧
    ∀ other, other ≠ link → m'.functions other = m.functions other

structure Adds (m : Memory) (link : String) (m' : Memory) : Prop where
  has_iff : ∀ other, m'.Has other ↔ m.Has other ∨ other = link
  functions_eq : ∀ other, m'.functions other = m.functions other
  unchanged : m.Has link → m'.collections = m.collections

def Obeys (m : Memory) : (call : Call) → Except Error call.Result → Memory → Prop
  | .addCollection link, answer, m' => answer = .ok () ∧ m.Adds link m'
  | .seed k f, answer, m' => m.Registers k f answer m'
  | .request _ (.list k), answer, m' => m.Lists k answer m'
  | .request _ (.create k f), answer, m' => m.Registers k f answer m'
  | .request _ (.delete k id), answer, m' => m.Deletes k id answer m'

/-! ## One call -/

variable {m m' : Memory} {k : Container} {f : Requirement} {link id : String}

theorem Registered.has (h : m.Registered link id) : m.Has link := by
  obtain ⟨r, hr, -⟩ := h
  cases hg : m.collections.get? link with
  | none => simp [functions, hg] at hr
  | some rs => exact has_iff_exists.2 ⟨rs, hg⟩

theorem has_setFunctions {rs : List Record} (h : m.Has link) (other : String) :
    (m.setFunctions (.collection link) rs).Has other ↔ m.Has other := by
  rw [has_iff_exists, has_iff_exists, get?_setFunctions]
  by_cases ho : other = link
  · subst ho
    simpa [Container.link] using has_iff_exists.1 h
  · simp [Container.link, ho]

theorem functions_setFunctions (m : Memory) (link other : String) (rs : List Record) :
    (m.setFunctions (.collection link) rs).functions other =
      if other = link then rs else m.functions other := by
  rw [functions, get?_setFunctions]
  by_cases ho : other = link
  · simp [Container.link, ho]
  · simp [Container.link, ho, functions]

theorem hosted_eq_functions {rs : List Record} (h : m.hosted k = .ok rs) :
    ∃ link, k = .collection link ∧ m.Has link ∧ rs = m.functions link := by
  obtain ⟨link, rfl, hg⟩ := hosted_eq_ok.1 h
  exact ⟨link, rfl, has_iff_exists.2 ⟨rs, hg⟩, (functions_of_hosted h).symm⟩

theorem display_ne_unknownId (k : Container) (id : String) : k.display ≠ unknownId k id := by
  intro h
  have hlen := congrArg String.length h
  simp only [unknownId, String.length_append] at hlen
  have hpos : 0 < "function `".length := by decide
  omega

theorem registers_of_error {e : Error} (h : m.register k f = .error e) :
    m.Registers k f (.error e) m := by
  rcases register_cases m k f with ⟨_, hh, hr⟩ | ⟨rs, hh, htaken, hr⟩ | ⟨rs, -, -, hr⟩
  · obtain rfl := Except.error.inj (h.symm.trans hr)
    rcases hosted_cases m k with ⟨link, rfl, hh'⟩ | ⟨link, rfl, hnot, hh'⟩ | ⟨link, -, -, hh'⟩
    · obtain rfl := Except.error.inj (hh.symm.trans hh')
      constructor <;> simp
    · obtain rfl := Except.error.inj (hh.symm.trans hh')
      constructor <;> simp [hnot]
    · cases hh.symm.trans hh'
  · obtain rfl := Except.error.inj (h.symm.trans hr)
    obtain ⟨link, rfl, hhas, rfl⟩ := hosted_eq_functions hh
    have hreg : m.Registered link f.id := htaken
    constructor <;> simp [hreg, hhas]
  · cases h.symm.trans hr

theorem registers_of_ok {r : Record} (h : m.register k f = .ok (r, m')) :
    m.Registers k f (.ok r) m' := by
  obtain ⟨rs, hh, hfree, rfl, rfl⟩ := register_eq_ok h
  obtain ⟨link, rfl, hhas, rfl⟩ := hosted_eq_functions hh
  have hnot : ¬m.Registered link f.id := not_registered hfree
  constructor <;> simp +contextual [hhas, hnot, functions_setFunctions, Container.link]

theorem lists_serve (m : Memory) (k : Container) :
    m.Lists k (m.serve (.list k)).value (m.serve (.list k)).state := by
  obtain ⟨hvalue, hstate⟩ := m.serve_list k
  rw [hvalue, hstate]
  rcases hosted_cases m k with ⟨link, rfl, hh⟩ | ⟨link, rfl, hnot, hh⟩ | ⟨link, rfl, hhas, hh⟩
  · rw [hh]
    constructor <;> simp
  · rw [hh]
    constructor <;> simp [hnot]
  · rw [hh]
    constructor <;> simp [hhas, eq_comm]

/-- A request to create a function does what seeding does. -/
theorem serve_create_eq_seed (m : Memory) (k : Container) (f : Requirement) :
    (m.serve (.create k f)).value = (m.seed k f).1 ∧
      (m.serve (.create k f)).state = (m.seed k f).2 := by
  unfold serve seed
  dsimp only
  cases m.register k f <;> exact ⟨rfl, rfl⟩

theorem registers_seed (m : Memory) (k : Container) (f : Requirement) :
    m.Registers k f (m.seed k f).1 (m.seed k f).2 := by
  cases hreg : m.register k f with
  | ok x =>
      simp only [seed, hreg]
      exact registers_of_ok hreg
  | error e =>
      simp only [seed, hreg]
      exact registers_of_error hreg

theorem registers_serve (m : Memory) (k : Container) (f : Requirement) :
    m.Registers k f (m.serve (.create k f)).value (m.serve (.create k f)).state := by
  obtain ⟨hvalue, hstate⟩ := m.serve_create_eq_seed k f
  rw [hvalue, hstate]
  exact registers_seed m k f

theorem deletes_of_error {e : Error} (h : m.unregister k id = .error e) :
    m.Deletes k id (.error e) m := by
  rcases unregister_cases m k id with ⟨_, hh, hu⟩ | ⟨rs, hh, hfree, hu⟩ | ⟨rs, -, -, hu⟩
  · obtain rfl := Except.error.inj (h.symm.trans hu)
    rcases hosted_cases m k with ⟨link, rfl, hh'⟩ | ⟨link, rfl, hnot, hh'⟩ | ⟨link, -, -, hh'⟩
    · obtain rfl := Except.error.inj (hh.symm.trans hh')
      constructor <;> simp
    · obtain rfl := Except.error.inj (hh.symm.trans hh')
      constructor <;> simp [hnot, display_ne_unknownId]
    · cases hh.symm.trans hh'
  · obtain rfl := Except.error.inj (h.symm.trans hu)
    obtain ⟨link, rfl, hhas, rfl⟩ := hosted_eq_functions hh
    have hnot : ¬m.Registered link id := not_registered hfree
    constructor <;> simp [hhas, hnot, (display_ne_unknownId _ _).symm]
  · cases h.symm.trans hu

theorem unregister_eq_ok (h : m.unregister k id = .ok m') :
    ∃ link, k = .collection link ∧ m.Registered link id ∧
      m' = m.setFunctions (.collection link) ((m.functions link).filter (·.id ≠ id)) := by
  rcases unregister_cases m k id with ⟨_, -, hu⟩ | ⟨_, -, -, hu⟩ | ⟨rs, hh, htaken, hu⟩
  · cases h.symm.trans hu
  · cases h.symm.trans hu
  · obtain ⟨link, rfl, -, rfl⟩ := hosted_eq_functions hh
    exact ⟨link, rfl, htaken, Except.ok.inj (h.symm.trans hu)⟩

theorem deletes_of_ok (h : m.unregister k id = .ok m') : m.Deletes k id (.ok ()) m' := by
  obtain ⟨link, rfl, hreg, rfl⟩ := unregister_eq_ok h
  constructor <;> simp +contextual [hreg, hreg.has, functions_setFunctions]

theorem deletes_serve (m : Memory) (k : Container) (id : String) :
    m.Deletes k id (m.serve (.delete k id)).value (m.serve (.delete k id)).state := by
  cases hun : m.unregister k id with
  | ok m' =>
      simp only [serve, hun]
      exact deletes_of_ok hun
  | error e =>
      simp only [serve, hun]
      exact deletes_of_error hun

theorem adds_addCollection (m : Memory) (link : String) : m.Adds link (m.addCollection link) := by
  by_cases hhas : m.Has link
  · have hself : m.addCollection link = m := if_pos hhas
    rw [hself]
    refine ⟨fun other => ?_, fun _ => rfl, fun _ => rfl⟩
    rw [or_iff_left_of_imp]
    rintro rfl
    exact hhas
  · have hnone : m.collections.get? link = none := by
      simpa [Has, Entries.contains] using hhas
    have hnew : m.addCollection link = { m with collections := m.collections.insert link [] } :=
      if_neg hhas
    rw [hnew]
    refine ⟨fun other => ?_, fun other => ?_, fun h => absurd h hhas⟩
    · by_cases ho : other = link
      · simp [Has, Entries.contains, ho]
      · simp [Has, Entries.contains, Entries.get?_insert, ho]
    · by_cases ho : other = link
      · simp [functions, ho, hnone]
      · simp [functions, Entries.get?_insert, ho]

theorem perform_request (m : Memory) (now : Nat) (r : Request) :
    m.perform (.request now r) =
      (({ m with calls := m.calls.count r }.serve r).value,
        ({ m with calls := m.calls.count r }.serve r).state) := by
  by_cases hl : m.latency = 0
  · simp [perform, ask, catalog, submit, hl]
  · simp [perform, ask, catalog, submit, hl]

/-- How many requests a memory has taken does not matter for what it does. -/
theorem Obeys.of_counted {calls : Calls} {call : Call} {answer : Except Error call.Result}
    (h : { m with calls := calls }.Obeys call answer m') : m.Obeys call answer m' := by
  cases call with
  | addCollection link => exact ⟨h.1, h.2.has_iff, h.2.functions_eq, h.2.unchanged⟩
  | seed k f => exact ⟨h.conflict_iff, h.notFound_iff, h.unsupported_iff, h.error_cases, h.ok⟩
  | request now r =>
      cases r with
      | list k => exact ⟨h.ok_iff, h.notFound_iff, h.unsupported_iff, h.unchanged⟩
      | create k f =>
          exact ⟨h.conflict_iff, h.notFound_iff, h.unsupported_iff, h.error_cases, h.ok⟩
      | delete k id => exact ⟨h.error_iff, h.unsupported_iff, h.notFound_iff, h.unknown_iff, h.ok⟩

theorem obeys_serve (m : Memory) (now : Nat) (r : Request) :
    m.Obeys (.request now r) (m.serve r).value (m.serve r).state := by
  cases r with
  | list k => exact lists_serve m k
  | create k f => exact registers_serve m k f
  | delete k id => exact deletes_serve m k id

theorem obeys_perform (m : Memory) (call : Call) :
    m.Obeys call (m.perform call).1 (m.perform call).2 := by
  cases call with
  | addCollection link => exact ⟨rfl, adds_addCollection m link⟩
  | seed k f => exact registers_seed m k f
  | request now r =>
      rw [perform_request]
      exact Obeys.of_counted (obeys_serve _ now r)

theorem seed_of_error {e : Error} (h : (m.seed k f).1 = .error e) : (m.seed k f).2 = m := by
  cases hreg : m.register k f with
  | ok x => simp [seed, hreg] at h
  | error e => simp only [seed, hreg]

theorem state_serve_of_error {r : Request} {e : Error} (h : (m.serve r).value = .error e) :
    (m.serve r).state = m := by
  cases r with
  | list k => exact (m.serve_list k).2
  | create k f =>
      obtain ⟨hvalue, hstate⟩ := m.serve_create_eq_seed k f
      exact hstate.trans (seed_of_error (hvalue.symm.trans h))
  | delete k id =>
      cases hun : m.unregister k id with
      | ok m' => simp [serve, hun] at h
      | error e => simp only [serve, hun]

/-- A call that fails changes no collection. -/
theorem collections_perform_of_error {call : Call} {e : Error} (h : (m.perform call).1 = .error e) :
    (m.perform call).2.collections = m.collections := by
  cases call with
  | addCollection link => cases h
  | seed k f => exact congrArg collections (seed_of_error h)
  | request now r =>
      rw [perform_request] at h ⊢
      rw [state_serve_of_error h]

/-! ## A history and one more call -/

structure Moves (m : Memory) (e : Entry) (m' : Memory) : Prop where
  has_iff : ∀ link, m'.Has link ↔ m.Has link ∨ e.call = .addCollection link
  functions_eq : ∀ link, m'.functions link =
    (m.functions link).filter (fun r => !e.removes link r.id) ++
      (e.created? link).toList.map (recordOf link)
  free : ∀ link f, e.created? link = some f → ¬m.Registered link f.id

theorem Entry.created?_eq_some {e : Entry} :
    e.created? link = some f ↔
      e.granted = true ∧ e.call.creation? = some (.collection link, f) := by
  simp only [created?]
  split
  · rename_i hg
    cases hc : e.call.creation? with
    | none => simp
    | some x =>
        obtain ⟨k, f'⟩ := x
        simp only [Option.bind_some, hg, true_and, Option.some.injEq, Prod.mk.injEq]
        split
        · simp_all
        · simp_all
  · rename_i hg
    simp [hg]

theorem Entry.filter_removes {e : Entry} (h : ∀ id, e.removes link id = false) (rs : List Record) :
    rs.filter (fun r => !e.removes link r.id) = rs :=
  List.filter_eq_self.2 fun r _ => by simp [h r.id]

theorem Moves.of_neutral {e : Entry} (hcre : e.call.creation? = none)
    (hdel : e.call.deletion? = none)
    (hhas : ∀ link, m'.Has link ↔ m.Has link ∨ e.call = .addCollection link)
    (hfunctions : ∀ link, m'.functions link = m.functions link) : m.Moves e m' where
  has_iff := hhas
  functions_eq := by
    intro link
    rw [Entry.filter_removes (by simp [Entry.removes, hdel]), hfunctions]
    simp [Entry.created?, hcre]
  free := by
    intro link f h
    simp [Entry.created?, hcre] at h

theorem Moves.of_failed {call : Call} (hc : m'.collections = m.collections)
    (hadd : ∀ link, call ≠ .addCollection link) : m.Moves ⟨call, false⟩ m' where
  has_iff := by simp [Has, hc, hadd]
  functions_eq := by
    intro link
    rw [Entry.filter_removes (by simp [Entry.removes])]
    simp [functions, hc, Entry.created?]
  free := by simp [Entry.created?]

theorem Moves.registered {call : Call} {r : Record} (hcall : call.creation? = some (k, f))
    (hdel : call.deletion? = none) (hadd : ∀ link, call ≠ .addCollection link)
    (h : m.register k f = .ok (r, m')) : m.Moves ⟨call, true⟩ m' := by
  obtain ⟨rs, hh, hfree, rfl, rfl⟩ := register_eq_ok h
  obtain ⟨link, rfl, hhas, rfl⟩ := hosted_eq_functions hh
  constructor
  · intro other
    simp [has_setFunctions hhas, hadd]
  · intro other
    rw [functions_setFunctions, Entry.filter_removes (by simp [Entry.removes, hdel])]
    by_cases ho : other = link
    · subst ho
      simp [Entry.created?, hcall, Container.link]
    · simp [Entry.created?, hcall, ho, Ne.symm ho]
  · intro other f' hcreated
    obtain ⟨-, hcall'⟩ := Entry.created?_eq_some.1 hcreated
    obtain ⟨hk, rfl⟩ := Prod.mk.inj (Option.some.inj (hcall.symm.trans hcall'))
    obtain rfl := Container.collection.inj hk
    exact not_registered hfree

theorem Moves.seed {call : Call} (hcall : call.creation? = some (k, f))
    (hdel : call.deletion? = none) (hadd : ∀ link, call ≠ .addCollection link) :
    m.Moves ⟨call, (m.seed k f).1.isOk⟩ (m.seed k f).2 := by
  cases hreg : m.register k f with
  | ok x =>
      simp only [Memory.seed, hreg]
      exact .registered hcall hdel hadd hreg
  | error e =>
      simp only [Memory.seed, hreg]
      exact .of_failed rfl hadd

theorem Moves.unregistered {call : Call} (hcall : call.deletion? = some (k, id))
    (hcre : call.creation? = none) (hadd : ∀ link, call ≠ .addCollection link)
    (h : m.unregister k id = .ok m') : m.Moves ⟨call, true⟩ m' := by
  obtain ⟨link, rfl, hreg, rfl⟩ := unregister_eq_ok h
  constructor
  · intro other
    simp [has_setFunctions hreg.has, hadd]
  · intro other
    rw [functions_setFunctions]
    by_cases ho : other = link
    · subst ho
      simp [Entry.removes, Entry.created?, hcall, hcre, eq_comm]
    · rw [Entry.filter_removes (by simp [Entry.removes, hcall, Ne.symm ho])]
      simp [Entry.created?, hcre, ho]
  · intro other f' hcreated
    obtain ⟨-, hcall'⟩ := Entry.created?_eq_some.1 hcreated
    rw [hcre] at hcall'
    cases hcall'

theorem Moves.of_counted {calls : Calls} {e : Entry} (h : { m with calls := calls }.Moves e m') :
    m.Moves e m' :=
  ⟨h.has_iff, h.functions_eq, h.free⟩

theorem moves_serve (m : Memory) (now : Nat) (r : Request) :
    m.Moves ⟨.request now r, (m.serve r).value.isOk⟩ (m.serve r).state := by
  cases r with
  | list k =>
      rw [(m.serve_list k).2]
      exact .of_neutral rfl rfl (by simp) fun _ => rfl
  | create k f =>
      obtain ⟨hvalue, hstate⟩ := m.serve_create_eq_seed k f
      rw [hvalue, hstate]
      exact .seed rfl rfl (by simp)
  | delete k id =>
      cases hun : m.unregister k id with
      | ok m' =>
          simp only [serve, hun]
          exact .unregistered rfl rfl (by simp) hun
      | error e =>
          simp only [serve, hun]
          exact .of_failed rfl (by simp)

theorem moves_perform (m : Memory) (call : Call) :
    m.Moves ⟨call, (m.perform call).1.isOk⟩ (m.perform call).2 := by
  cases call with
  | addCollection link =>
      have hadds := adds_addCollection m link
      refine .of_neutral rfl rfl (fun other => ?_) hadds.functions_eq
      simpa [perform, eq_comm] using hadds.has_iff other
  | seed k f => exact .seed rfl rfl (by simp)
  | request now r =>
      rw [perform_request]
      exact .of_counted (moves_serve _ now r)

def Call.counted (calls : Calls) : Call → Calls
  | .addCollection _ => calls
  | .seed .. => calls
  | .request _ r => calls.count r

theorem calls_seed (m : Memory) (k : Container) (f : Requirement) :
    (m.seed k f).2.calls = m.calls := by
  rcases register_cases m k f with ⟨_, -, h⟩ | ⟨_, -, -, h⟩ | ⟨_, -, -, h⟩ <;>
    simp only [seed, h, setFunctions]

theorem calls_serve (m : Memory) (r : Request) : (m.serve r).state.calls = m.calls := by
  cases r with
  | list k => rw [(m.serve_list k).2]
  | create k f => rw [(m.serve_create_eq_seed k f).2, calls_seed]
  | delete k id =>
      rcases unregister_cases m k id with ⟨_, -, h⟩ | ⟨_, -, -, h⟩ | ⟨_, -, -, h⟩ <;>
        simp only [serve, h, setFunctions]

theorem calls_perform (m : Memory) (call : Call) :
    (m.perform call).2.calls = call.counted m.calls := by
  cases call with
  | addCollection link =>
      simp only [perform, addCollection, Call.counted]
      split <;> rfl
  | seed k f => exact calls_seed m k f
  | request now r =>
      rw [perform_request, calls_serve]
      rfl

/-- The handles of two functions in a collection tell them apart as their ids do. -/
theorem handle_injective (link : String) : Function.Injective (handle link) := by
  intro id id' h
  have hchars := congrArg String.toList h
  simp only [handle, String.toList_append, List.append_assoc] at hchars
  have hid := List.append_cancel_left (List.append_cancel_left hchars)
  exact String.toList_inj.1 (List.append_cancel_right hid)

namespace Follows

variable {links : List String} {past : List Entry} {e : Entry}

theorem nodup_handles_of_ids {fs : List Requirement} (h : (fs.map (·.id)).Nodup) :
    ((fs.map (recordOf link)).map (·.handle)).Nodup := by
  have hmap : (fs.map (recordOf link)).map (·.handle) = (fs.map (·.id)).map (handle link) := by
    simp [recordOf, Function.comp_def]
  rw [hmap]
  exact List.Pairwise.map (handle link) (fun _ _ hne he => hne (handle_injective link he)) h

theorem step (h : Follows links past m) (hm : m.Moves e m')
    (hcalls : m'.calls = e.call.counted m.calls) : Follows links (past ++ [e]) m' := by
  have hfunctions : ∀ link, m'.functions link =
      (survivors link (past ++ [e])).map (recordOf link) := by
    intro link
    rw [hm.functions_eq, h.functions_eq, survivors_concat, List.map_append, List.filter_map]
    rfl
  have hids : ∀ link, ((m'.functions link).map (·.id)).Nodup := by
    intro link
    rw [hm.functions_eq, List.map_append]
    refine List.nodup_append.2 ⟨?_, ?_, ?_⟩
    · exact (h.nodup_ids link).sublist (List.filter_sublist.map _)
    · cases e.created? link <;> simp
    · intro a ha b hb hab
      obtain ⟨r, hr, rfl⟩ := List.mem_map.1 ha
      obtain ⟨r', hr', rfl⟩ := List.mem_map.1 hb
      obtain ⟨f, hf, rfl⟩ := List.mem_map.1 hr'
      exact hm.free link f (Option.mem_toList.1 hf) ⟨r, (List.mem_filter.1 hr).1, hab⟩
  constructor
  · intro link
    rw [hm.has_iff, h.has_iff, List.map_append, List.mem_append, or_assoc]
    simp [eq_comm]
  · exact hfunctions
  · exact hids
  · intro link
    have hnodup := hids link
    rw [hfunctions, List.map_map] at hnodup
    rw [hfunctions]
    exact nodup_handles_of_ids hnodup
  all_goals
    rw [hcalls, List.countP_append, UInt64.ofNat_add]
    rcases e with ⟨⟨link⟩ | ⟨k, f⟩ | ⟨now, ⟨k⟩ | ⟨k, f⟩ | ⟨k, id⟩⟩, granted⟩ <;>
      simp [Call.counted, Call.kind?, Request.kind, Calls.count, h.lists_eq, h.creates_eq,
        h.deletes_eq]

theorem performAll (h : Follows links past m) (calls : List Call) :
    Follows links (past ++ (m.performAll calls).1) (m.performAll calls).2 := by
  induction calls generalizing past m with
  | nil => simpa [Memory.performAll] using h
  | cons call calls ih =>
      have hnext := ih (h.step (moves_perform m call) (calls_perform m call))
      rwa [List.append_assoc] at hnext

end Follows

theorem map_call_performAll (m : Memory) (calls : List Call) :
    (m.performAll calls).1.map (·.call) = calls := by
  induction calls generalizing m with
  | nil => rfl
  | cons call calls ih => simp [performAll, ih]

theorem has_ofLinks (links : List String) (latency : Nat) (link : String) :
    (ofLinks links latency).Has link ↔ link ∈ links := by
  have hfold : ∀ es : Entries String (List Record),
      ((links.map (·, [])).foldl (fun es p => es.insert p.1 p.2) es).contains link = true ↔
        es.contains link = true ∨ link ∈ links := by
    induction links with
    | nil => simp
    | cons l links ih =>
        intro es
        rw [List.map_cons, List.foldl_cons, ih, List.mem_cons, ← or_assoc]
        by_cases hl : link = l
        · simp [Entries.contains, hl]
        · simp [Entries.contains, Entries.get?_insert, hl]
  rw [Has, ofLinks, Entries.ofList, hfold]
  simp [Entries.contains]

theorem follows_ofLinks (links : List String) (latency : Nat) :
    Follows links [] (ofLinks links latency) where
  has_iff := by simp [has_ofLinks]
  functions_eq := by simp [functions_ofLinks, survivors]
  nodup_ids := distinct_ofLinks links latency
  nodup_handles := by simp [functions_ofLinks]
  lists_eq := rfl
  creates_eq := rfl
  deletes_eq := rfl

/-- After any calls, a memory holds what was registered and not deleted since, in the order of
registration and under distinct ids and handles, and has counted the requests, those that failed
too. What it holds decides the answer to the next call, and an error leaves the collections as they
are. -/
theorem memory_follows_history (links : List String) (latency : Nat) (calls : List Call) :
    ∃ past m, (ofLinks links latency).performAll calls = (past, m) ∧
      past.map (·.call) = calls ∧ Follows links past m ∧
      ∀ call, m.Obeys call (m.perform call).1 (m.perform call).2 ∧
        ∀ e, (m.perform call).1 = .error e → (m.perform call).2.collections = m.collections := by
  refine ⟨_, _, rfl, map_call_performAll _ calls, ?_, fun call => ⟨obeys_perform _ call, ?_⟩⟩
  · exact (follows_ofLinks links latency).performAll calls
  · intro e h
    exact collections_perform_of_error h

end Memory
end DocQuery.Catalog
