import DocQuery.Filter.Basic
import DocQuery.Proofs.Json.Reading
import Mathlib.Data.List.Nodup

/-! # JSON and nodes

A JSON value whose objects have no key twice becomes a node and comes back as it was: members in
their order, integers exactly, doubles bit for bit. The values that the reader finds in a text are
of this kind. As an argument in a query such a node is written as the compact text of the value. -/

namespace DocQuery

/-! ## Insertion in order -/

namespace Entries

variable {κ α : Type} [DecidableEq κ]

theorem insert_of_notMem {es : Entries κ α} {key : κ} (h : key ∉ es.keys) (v : α) :
    es.insert key v = es ++ [(key, v)] := by
  induction es with
  | nil => rfl
  | cons p es ih =>
      obtain ⟨k, w⟩ := p
      obtain ⟨hk, hes⟩ := not_or.1 (mt List.mem_cons.2 h)
      rw [insert, if_neg (Ne.symm hk), ih hes]
      rfl

theorem foldl_insert {es : Entries κ α} {ps : List (κ × α)} (h : (keys (es ++ ps)).Nodup) :
    ps.foldl (fun es p => es.insert p.1 p.2) es = es ++ ps := by
  induction ps generalizing es with
  | nil => simp
  | cons p ps ih =>
      have hsplit : es ++ p :: ps = es ++ [p] ++ ps := by simp
      have hnew : p.1 ∉ keys es := by
        intro hmem
        rw [keys, List.map_append, List.nodup_append] at h
        exact h.2.2 p.1 hmem p.1 (.head _) rfl
      rw [hsplit] at h ⊢
      rw [List.foldl_cons, insert_of_notMem hnew]
      exact ih h

theorem ofList_of_nodup {ps : List (κ × α)} (h : (keys ps).Nodup) : ofList ps = ps := foldl_insert h

theorem nodup_foldl_insert {es : Entries κ α} (h : es.keys.Nodup) (ps : List (κ × α)) :
    (keys (ps.foldl (fun es p => es.insert p.1 p.2) es)).Nodup := by
  induction ps generalizing es with
  | nil => exact h
  | cons p ps ih => exact ih (nodup_keys_insert h p.1 p.2)

theorem nodup_keys_ofList (ps : List (κ × α)) : (keys (ofList ps)).Nodup := by
  have hnil : (keys ([] : Entries κ α)).Nodup := List.nodup_nil
  exact nodup_foldl_insert hnil ps

theorem mem_insert {es : Entries κ α} {key : κ} {v : α} {p : κ × α} (h : p ∈ es.insert key v) :
    p = (key, v) ∨ p ∈ es := by
  induction es with
  | nil => exact .inl (List.mem_singleton.1 h)
  | cons q es ih =>
      obtain ⟨k, w⟩ := q
      rw [insert] at h
      split at h
      · rename_i hk
        subst hk
        exact (List.mem_cons.1 h).imp_right (.tail _)
      · rcases List.mem_cons.1 h with rfl | h
        · exact .inr (.head _)
        · exact (ih h).imp_right (.tail _)

theorem mem_foldl_insert {es : Entries κ α} {ps : List (κ × α)} {p : κ × α}
    (h : p ∈ ps.foldl (fun es p => es.insert p.1 p.2) es) : p ∈ es ∨ p ∈ ps := by
  induction ps generalizing es with
  | nil => exact .inl h
  | cons q ps ih =>
      rcases ih h with h | h
      · rcases mem_insert h with rfl | h
        · exact .inr (.head _)
        · exact .inl h
      · exact .inr (.tail _ h)

theorem mem_of_mem_ofList {ps : List (κ × α)} {p : κ × α} (h : p ∈ ofList ps) : p ∈ ps :=
  (mem_foldl_insert h).resolve_left List.not_mem_nil

end Entries

/-! ## Distinct keys -/

namespace Json

/-- No object of the value, at any depth, has a key twice. -/
inductive DistinctKeys : Json → Prop where
  | null : DistinctKeys .null
  | bool (b : Bool) : DistinctKeys (.bool b)
  | num (n : Number) : DistinctKeys (.num n)
  | str (s : String) : DistinctKeys (.str s)
  | arr {elements : List Json} (h : ∀ e ∈ elements, DistinctKeys e) :
      DistinctKeys (.arr elements)
  | obj {members : List (String × Json)} (hkeys : (Entries.keys members).Nodup)
      (h : ∀ m ∈ members, DistinctKeys m.2) : DistinctKeys (.obj members)

theorem distinctKeys_ofMembers {ms : List (String × Json)} (h : ∀ m ∈ ms, DistinctKeys m.2) :
    DistinctKeys (ofMembers ms) :=
  .obj (Entries.nodup_keys_ofList ms) fun m hm => h m (Entries.mem_of_mem_ofList hm)

variable {cs rest : List Char}

theorem distinctKeys_readScalar {j : Json} (h : readScalar cs = some (j, rest)) :
    DistinctKeys j := by
  unfold readScalar at h
  split at h <;> obtain ⟨a, -, ha⟩ := Option.map_eq_some_iff.1 h <;>
    obtain ⟨rfl, -⟩ := Prod.mk.inj ha <;> constructor

theorem distinctKeys_rules :
    ReadingRules (fun _ j _ => DistinctKeys j) (fun _ es _ => ∀ e ∈ es, DistinctKeys e)
      (fun _ ms _ => ∀ m ∈ ms, DistinctKeys m.2) where
  scalar _ _ h := distinctKeys_readScalar h
  emptyArray _ _ := .arr (by simp)
  array _ h := .arr h
  emptyObject _ _ := distinctKeys_ofMembers (by simp)
  object _ h := distinctKeys_ofMembers h
  lastElement h _ := List.forall_mem_singleton.2 h
  element h _ h' := List.forall_mem_cons.2 ⟨h, h'⟩
  lastMember _ _ _ hv _ := List.forall_mem_singleton.2 hv
  member _ _ _ hv _ h := List.forall_mem_cons.2 ⟨hv, h⟩

/-- No value that is read from a text has a key twice. -/
theorem distinctKeys_readValue {j : Json} (h : readValue cs = some (j, rest)) : DistinctKeys j :=
  distinctKeys_rules.readValue h

end Json

/-! ## Values and nodes -/

namespace Value

/-- An integer is signed if it fits, and comes back exactly either way. -/
theorem toJson_ofJson_num (n : Json.Number) : (ofJson (.num n)).toJson = .num n := by
  cases n with
  | int n =>
      obtain ⟨n, hlower, hupper⟩ := n
      unfold ofJson Json.Integer.toInt64?
      dsimp only
      split
      · rename_i i hi
        split at hi
        · rename_i hsigned
          obtain rfl := Option.some.inj hi
          have hval : (Int64.ofInt n).toInt = n := Int64.toInt_ofInt_of_le hlower hsigned
          simp only [toJson, Json.Integer.ofInt64, hval]
        · cases hi
      · rename_i hnone
        split at hnone
        · cases hnone
        · have hval : ((UInt64.ofNat n.toNat).toNat : Int) = n := by
            rw [UInt64.toNat_ofNat_of_lt' (by simp only [UInt64.size]; omega)]
            omega
          simp only [toJson, Json.Integer.ofUInt64, hval]
  | float x => simp [ofJson, toJson, Json.ofBinary64]

/-- The literal of a value is its JSON text, unless it is a regular expression. -/
theorem literal_eq_compact {v : Value} (h : ∀ p f, v ≠ .regex p f) :
    v.literal = v.toJson.compact := by
  cases v with
  | regex p f => exact absurd rfl (h p f)
  | float x =>
      by_cases hx : x.isFinite = true
      · simp [literal, toJson, Json.ofBinary64, Numeric.Finite64.ofBinary64?, hx, Json.compact,
          Json.chars, Json.Number.chars]
      · simp [literal, toJson, Json.ofBinary64, Numeric.Finite64.ofBinary64?, hx, Json.compact,
          Json.chars]
  | boolean b => cases b <;> rfl
  | _ => rfl

end Value

namespace Node

theorem literal_eq_compact {n : Node} (h : ∀ p f, n ≠ .value (.regex p f)) :
    n.literal = n.toJson.compact := by
  cases n with
  | value v => exact Value.literal_eq_compact fun p f hv => h p f (congrArg Node.value hv)
  | document entries => rfl
  | list items => rfl

theorem keys_entriesOfJson (ms : List (String × Json)) :
    Entries.keys (entriesOfJson ms) = Entries.keys ms := by
  induction ms with
  | nil => rfl
  | cons m ms ih => rw [entriesOfJson, Entries.keys_cons, Entries.keys_cons, ih]

theorem listToJson_listOfJson {es : List Json} (h : ∀ e ∈ es, (ofJson e).toJson = e) :
    listToJson (listOfJson es) = es := by
  induction es with
  | nil => rfl
  | cons e es ih =>
      obtain ⟨he, hes⟩ := List.forall_mem_cons.1 h
      rw [listOfJson, listToJson, he, ih hes]

theorem entriesToJson_entriesOfJson {ms : List (String × Json)}
    (h : ∀ m ∈ ms, (ofJson m.2).toJson = m.2) : entriesToJson (entriesOfJson ms) = ms := by
  induction ms with
  | nil => rfl
  | cons m ms ih =>
      obtain ⟨hm, hms⟩ := List.forall_mem_cons.1 h
      rw [entriesOfJson, entriesToJson, hm, ih hms]

theorem toJson_ofJson {j : Json} (h : j.DistinctKeys) : (ofJson j).toJson = j := by
  induction h with
  | null => rfl
  | bool b => rfl
  | num n => exact Value.toJson_ofJson_num n
  | str s => rfl
  | arr h ih => rw [ofJson, toJson, listToJson_listOfJson ih]
  | obj hkeys h ih =>
      have hofJson := hkeys
      rw [← keys_entriesOfJson] at hofJson
      rw [ofJson, Entries.ofList_of_nodup hofJson, toJson, entriesToJson_entriesOfJson ih,
        Json.ofMembers, Entries.ofList_of_nodup hkeys]

theorem ofJson_ne_regex (j : Json) (p f : String) : ofJson j ≠ .value (.regex p f) := by
  cases j with
  | num n =>
      cases n with
      | int n =>
          rw [ofJson, Value.ofJson]
          split <;> simp
      | float x => simp [ofJson, Value.ofJson]
  | _ => simp [ofJson]

end Node

theorem Document.toJson_ofJsonMembers {members : List (String × Json)}
    (h : (Json.obj members).DistinctKeys) :
    (Document.ofJsonMembers members).toJson = .obj members := by
  have hnode := Node.toJson_ofJson h
  rwa [Node.ofJson, Node.toJson] at hnode

/-- A text that denotes an object is a filter that says the same. -/
theorem Filter.parse_object {text : String} {members : List (String × Json)} {rest : List Char}
    (hread : Json.readValue text.toList = some (.obj members, rest))
    (hrest : Json.skipGaps rest = []) :
    ∃ d : Document, Filter.parse text = .ok (.document d) ∧ d.toJson = .obj members := by
  refine ⟨.ofJsonMembers members, ?_, ?_⟩
  · simp [parse, hread, ofJson, hrest]
  · exact Document.toJson_ofJsonMembers (Json.distinctKeys_readValue hread)

/-- Nothing of a JSON value is lost, reordered or merged when it becomes a node or a filter. -/
theorem ofJson_loses_nothing {j : Json} (h : j.DistinctKeys) :
    (Node.ofJson j).toJson = j ∧ (Node.ofJson j).literal = j.compact ∧
      ∀ members, j = .obj members → ∃ d : Document,
        Filter.ofJson j = .ok (.document d) ∧ d.toJson = j ∧
          Entries.keys d = Entries.keys members := by
  have hnode := Node.toJson_ofJson h
  refine ⟨hnode, ?_, ?_⟩
  · rw [Node.literal_eq_compact (Node.ofJson_ne_regex j), hnode]
  · rintro members rfl
    refine ⟨.ofJsonMembers members, rfl, Document.toJson_ofJsonMembers h, ?_⟩
    cases h with
    | obj hkeys _ =>
        rw [← Node.keys_entriesOfJson] at hkeys
        rw [Document.ofJsonMembers, Entries.ofList_of_nodup hkeys, Node.keys_entriesOfJson]

/-- The ends of the integer range and a negative zero, in an object within a list. -/
def extremes : Json :=
  .obj [("z", .arr [.num (.int ⟨0xFFFFFFFFFFFFFFFF, by omega, by omega⟩),
      .obj [("b", .num (.int ⟨-0x8000000000000000, by omega, by omega⟩)), ("a", .null)]]),
    ("a", .num (.float ⟨.zero true, by decide⟩))]

theorem extremes_come_back : extremes.DistinctKeys ∧ (Node.ofJson extremes).toJson = extremes ∧
    ∃ d : Document, Filter.ofJson extremes = .ok (.document d) ∧ d.toJson = extremes := by
  have h : extremes.DistinctKeys := by
    refine .obj (by decide) (List.forall_mem_cons.2 ⟨.arr ?_, ?_⟩)
    · refine List.forall_mem_cons.2 ⟨.num _, List.forall_mem_singleton.2 (.obj (by decide) ?_)⟩
      exact List.forall_mem_cons.2 ⟨.num _, List.forall_mem_singleton.2 .null⟩
    · exact List.forall_mem_singleton.2 (.num _)
  obtain ⟨hnode, -, hfilter⟩ := ofJson_loses_nothing h
  obtain ⟨d, hd, hjson, -⟩ := hfilter _ rfl
  exact ⟨h, hnode, d, hd, hjson⟩

end DocQuery
