import DocQuery.Proofs.Query.Template

/-! # One pass over a template

The parts of a template are all its slots, found from left to right, and the characters between
them; no other way to take the text apart finds a slot wherever one begins. Filling replaces a slot
by its argument and copies the rest. Which slots have an argument is told by the number of arguments
alone, and what the arguments say is never looked at.
-/

namespace DocQuery.Query

open Text

namespace Template

theorem SlotDigits.append_inj {ds ds' rest rest' : List Char} (h : SlotDigits ds)
    (h' : SlotDigits ds') (heq : ds ++ '}' :: rest = ds' ++ '}' :: rest') :
    ds = ds' ∧ rest = rest' := by
  have hslot := slot?_of_digits h rest
  rw [heq, slot?_of_digits h' rest'] at hslot
  obtain ⟨hds, hrest⟩ := Prod.mk.inj (Option.some.inj hslot)
  exact ⟨hds.symm, hrest.symm⟩

namespace Decomposes

variable {ps qs : List Piece} {cs : List Char}

theorem tail {p : Piece} (h : Decomposes (p :: ps) cs) :
    Decomposes ps (ps.flatMap Piece.chars) where
  concat := rfl
  slots ds hmem := h.slots ds (List.mem_cons_of_mem p hmem)
  leftmost before c after heq := h.leftmost (p :: before) c after (by rw [heq]; rfl)

/-- A text has one decomposition only. -/
theorem unique (h : Decomposes ps cs) (h' : Decomposes qs cs) : ps = qs := by
  induction ps generalizing qs cs with
  | nil =>
      cases qs with
      | nil => rfl
      | cons q qs =>
          have hcs := h.concat.trans h'.concat.symm
          cases q <;> cases hcs
  | cons p ps ih =>
      have hcs := h.concat.trans h'.concat.symm
      cases qs with
      | nil => cases p <;> cases hcs
      | cons q qs =>
          have hrest : ps.flatMap Piece.chars = qs.flatMap Piece.chars → ps = qs := fun hsame =>
            ih h.tail (hsame ▸ h'.tail)
          rw [List.flatMap_cons, List.flatMap_cons] at hcs
          cases p with
          | plain c =>
              cases q with
              | plain c' =>
                  obtain ⟨rfl, hsame⟩ := List.cons.inj hcs
                  rw [hrest hsame]
              | slot ds =>
                  refine absurd ?_ (h.leftmost [] c ps rfl ds (qs.flatMap Piece.chars)
                    (h'.slots ds List.mem_cons_self))
                  simpa [Piece.chars] using hcs
          | slot ds =>
              cases q with
              | plain c =>
                  refine absurd ?_ (h'.leftmost [] c qs rfl ds (ps.flatMap Piece.chars)
                    (h.slots ds List.mem_cons_self))
                  simpa [Piece.chars] using hcs.symm
              | slot ds' =>
                  have hinner : ds ++ '}' :: ps.flatMap Piece.chars =
                      ds' ++ '}' :: qs.flatMap Piece.chars := by
                    simpa [Piece.chars] using hcs
                  obtain ⟨rfl, hsame⟩ := (h.slots ds List.mem_cons_self).append_inj
                    (h'.slots ds' List.mem_cons_self) hinner
                  rw [hrest hsame]

end Decomposes

end Template

/-! ## Filling the slots -/

/-- What a part becomes where there are `n` arguments: a text of its own, or one of the arguments.
Only the ten usual digits number an argument, and only below `2^64`. -/
def Piece.mold (n : Nat) : Piece → List Char ⊕ Fin n
  | .plain c => .inl [c]
  | .slot ds =>
      if h : ds.all isDecimal = true ∧ decimalValue ds < min 0x10000000000000000 n then
        .inr ⟨decimalValue ds, Nat.lt_of_lt_of_le h.2 (Nat.min_le_right _ _)⟩
      else
        .inl ('{' :: (ds ++ ['}']))

def spell {n : Nat} (arg : Fin n → String) : List Char ⊕ Fin n → List Char
  | .inl cs => cs
  | .inr i => (arg i).toList

theorem Piece.fill_eq_spell (args : List String) (p : Piece) :
    p.fill args = spell args.get (p.mold args.length) := by
  cases p with
  | plain c => rfl
  | slot ds =>
      rw [Piece.mold]
      split
      · rename_i h
        obtain ⟨hword, hlen⟩ := Nat.lt_min.1 h.2
        have hindex : index? ds = some (decimalValue ds) := if_pos ⟨h.1, hword⟩
        rw [Piece.fill, hindex, Option.bind_some, List.getElem?_eq_getElem hlen]
        rfl
      · rename_i h
        have hbind : (index? ds).bind (args[·]?) = none := by
          rw [index?]
          split
          · rename_i hindex
            have hlen : args.length ≤ decimalValue ds :=
              Nat.le_of_not_lt fun hlt => h ⟨hindex.1, Nat.lt_min.2 ⟨hindex.2, hlt⟩⟩
            rw [Option.bind_some, List.getElem?_eq_none hlen]
          · rfl
        rw [Piece.fill, hbind]
        rfl

namespace Template

/-- Filling is one pass over the only decomposition of the text. Its result is a row of texts and
places for arguments, and as many other arguments go to the same places of the same row. -/
theorem fill_in_one_pass (t : Template) :
    ∃ ps, Decomposes ps t.text.toList ∧ (∀ qs, Decomposes qs t.text.toList → qs = ps) ∧
      ∀ args, (t.fill args).toList = (ps.map (·.mold args.length)).flatMap (spell args.get) ∧
        ∀ others, ∀ h : args.length = others.length,
          (t.fill others).toList =
            (ps.map (·.mold args.length)).flatMap (spell fun i => others.get (i.cast h)) := by
  have hfill : ∀ n args, ∀ h : n = args.length, (t.fill args).toList =
      (t.pieces.map (·.mold n)).flatMap (spell fun i => args.get (i.cast h)) := by
    rintro _ args rfl
    rw [fill, String.toList_ofList, List.flatMap_map]
    exact congrArg t.pieces.flatMap (funext fun p => p.fill_eq_spell args)
  exact ⟨t.pieces, t.decomposes_pieces, fun qs hqs => hqs.unique t.decomposes_pieces,
    fun args => ⟨hfill _ args rfl, hfill args.length⟩⟩

end Template
end DocQuery.Query
