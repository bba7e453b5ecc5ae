import DocQuery.Proofs.Filter.Conversion
import Mathlib.Data.Finset.Card

/-! # Insertion in order

Entries that arise from insertions hold each key once, in the order in which the keys came first,
and under each key the value that came last. A document is made of such entries, so its JSON form
has the same members in the same order, and inserting its entries anew gives it back.
-/

namespace DocQuery

namespace Entries

variable {κ α : Type}

theorem keys_append (es es' : Entries κ α) : keys (es ++ es') = keys es ++ keys es' :=
  List.map_append

variable [DecidableEq κ]

/-- What a sequence of insertions leaves: the keys by their first insertion, and under each key the
value of its last one. -/
structure Holds (es : Entries κ α) (ps : List (κ × α)) : Prop where
  mem_keys : ∀ key, key ∈ es.keys ↔ key ∈ keys ps
  order : es.keys.Pairwise fun key key' => (keys ps).idxOf key < (keys ps).idxOf key'
  get?_eq : ∀ key, es.get? key = (ps.reverse.find? fun p => p.1 = key).map Prod.snd

namespace Holds

variable {ps : List (κ × α)} {es : Entries κ α}

theorem nil : Holds ([] : Entries κ α) [] where
  mem_keys := fun _ => Iff.rfl
  order := .nil
  get?_eq := fun _ => rfl

/-- A key that is inserted again stays where it is, and a new one goes to the end. -/
theorem insert (h : es.Holds ps) (key : κ) (v : α) :
    (es.insert key v).Holds (ps ++ [(key, v)]) where
  mem_keys := by
    intro key'
    rw [keys_insert, keys_append, List.mem_append, ← h.mem_keys]
    split
    · rename_i hkey
      refine ⟨Or.inl, ?_⟩
      rintro (hold | hnew)
      · exact hold
      · rwa [List.mem_singleton.1 hnew]
    · exact List.mem_append
  order := by
    have hfirst : ∀ k ∈ es.keys, (keys (ps ++ [(key, v)])).idxOf k = (keys ps).idxOf k := by
      intro k hk
      rw [keys_append, List.idxOf_append_of_mem ((h.mem_keys k).1 hk)]
    have hold : es.keys.Pairwise fun k k' =>
        (keys (ps ++ [(key, v)])).idxOf k < (keys (ps ++ [(key, v)])).idxOf k' := by
      refine h.order.imp_of_mem fun {k k'} hk hk' hlt => ?_
      rwa [hfirst k hk, hfirst k' hk']
    rw [keys_insert]
    split
    · exact hold
    · rename_i hkey
      refine List.pairwise_append.2 ⟨hold, List.pairwise_singleton _ _, fun k hk k' hk' => ?_⟩
      obtain rfl := List.mem_singleton.1 hk'
      have hnew : k' ∉ keys ps := mt (h.mem_keys k').2 hkey
      have hlast : (keys (ps ++ [(k', v)])).idxOf k' = (keys ps).length := by
        simp [keys_append, List.idxOf_append, hnew]
      rw [hfirst k hk, hlast]
      exact List.idxOf_lt_length_of_mem ((h.mem_keys k).1 hk)
  get?_eq := by
    intro key'
    rw [get?_insert, List.reverse_append, h.get?_eq]
    by_cases hkey : key' = key
    · simp [hkey]
    · simp [hkey, Ne.symm hkey]

theorem foldl_insert (h : es.Holds ps) (qs : List (κ × α)) :
    Holds (qs.foldl (fun es p => es.insert p.1 p.2) es) (ps ++ qs) := by
  induction qs generalizing ps es with
  | nil => rwa [List.append_nil]
  | cons q qs ih =>
      have hnext := ih (h.insert q.1 q.2)
      rwa [List.append_assoc] at hnext

theorem nodup (h : es.Holds ps) : es.keys.Nodup :=
  h.order.imp fun hlt heq => absurd (heq ▸ hlt) (Nat.lt_irrefl _)

theorem length_eq (h : es.Holds ps) : es.length = (keys ps).toFinset.card := by
  have hkeys : es.keys.toFinset = (keys ps).toFinset := by
    ext key
    rw [List.mem_toFinset, List.mem_toFinset, h.mem_keys]
  rw [← hkeys, List.toFinset_card_of_nodup h.nodup, keys, List.length_map]

end Holds

theorem insert_of_mem {es : Entries κ α} (hnodup : es.keys.Nodup) {key : κ} (h : key ∈ es.keys)
    (v : α) : es.insert key v = es.map fun e => if e.1 = key then (key, v) else e := by
  induction es with
  | nil => cases h
  | cons p es ih =>
      obtain ⟨k, w⟩ := p
      obtain ⟨hk, hes⟩ := List.nodup_cons.1 hnodup
      by_cases hkey : k = key
      · subst hkey
        have hrest : es.map (fun e => if e.1 = k then (k, v) else e) = es := by
          refine (List.map_congr_left fun e he => if_neg ?_).trans (List.map_id es)
          rintro rfl
          exact hk (List.mem_map.2 ⟨e, he, rfl⟩)
        rw [insert, if_pos rfl, List.map_cons, if_pos rfl, hrest]
      · have hmem := (List.mem_cons.1 h).resolve_left (Ne.symm hkey)
        rw [insert, if_neg hkey, List.map_cons, if_neg hkey, ih hes hmem]

end Entries

theorem Node.entriesToJson_eq_map (es : List (String × Node)) :
    Node.entriesToJson es = es.map fun e => (e.1, e.2.toJson) := by
  induction es with
  | nil => rfl
  | cons e es ih => rw [Node.entriesToJson, ih, List.map_cons]

theorem Document.toJson_of_nodup {d : Document} (h : d.keys.Nodup) :
    d.toJson = .obj (d.map fun e => (e.1, e.2.toJson)) := by
  have hkeys : (Entries.keys (d.map fun e => (e.1, e.2.toJson))).Nodup := by
    rwa [Entries.keys, List.map_map]
  rw [toJson, Node.entriesToJson_eq_map, Json.ofMembers, Entries.ofList_of_nodup hkeys]

/-- A document that begins with some entries and has others inserted one after the other holds just
the keys inserted, each once, in the order of their first insertion and with the node of their last
one. Its JSON form is the object with these keys in this order. Inserting a key that is there
replaces its node in place and touches nothing else; a new key goes to the end. The entries of a
document make it up again. -/
theorem document_keeps_insertion_order (ps qs : List (String × Node)) :
    ∃ d : Document, d = qs.foldl (fun d p => d.insert p.1 p.2) (Entries.ofList ps) ∧
      d.keys.Nodup ∧ d.Holds (ps ++ qs) ∧
      d.length = (Entries.keys (ps ++ qs)).toFinset.card ∧
      d.toJson = .obj (d.map fun e => (e.1, e.2.toJson)) ∧
      (∀ key node, key ∈ d.keys →
        d.insert key node = d.map fun e => if e.1 = key then (key, node) else e) ∧
      (∀ key node, key ∉ d.keys → d.insert key node = d ++ [(key, node)]) ∧
      Entries.ofList d = d := by
  have h := (Entries.Holds.nil.foldl_insert ps).foldl_insert qs
  rw [List.nil_append] at h
  refine ⟨_, rfl, h.nodup, h, h.length_eq, Document.toJson_of_nodup h.nodup, ?_, ?_, ?_⟩
  · intro key node hkey
    exact Entries.insert_of_mem h.nodup hkey node
  · intro key node hkey
    exact Entries.insert_of_notMem hkey node
  · exact Entries.ofList_of_nodup h.nodup

/-- The second insertion of `a` replaces its node and leaves it in front of `b`. -/
example : Entries.keys (Entries.ofList [("a", 1), ("b", 2), ("a", 3)]) = ["a", "b"] ∧
    Entries.get? (Entries.ofList [("a", 1), ("b", 2), ("a", 3)]) "a" = some 3 := by decide

end DocQuery
