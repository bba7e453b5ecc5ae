import DocQuery.Query.Template

/-! # What templates are made of

The parts of a template make up its text and have a slot wherever one begins. When the template is
filled, text without a brace stays, and a slot of one digit is replaced by its argument. -/

namespace DocQuery.Query

open Text

namespace Template

/-- The digits of a slot, of any script. -/
structure SlotDigits (ds : List Char) : Prop where
  ne_nil : ds ≠ []
  digits : ∀ d ∈ ds, isDigit d = true

/-- Parts that make up a text, among which a slot is wherever one begins outside the slots before
it. -/
structure Decomposes (ps : List Piece) (cs : List Char) : Prop where
  concat : ps.flatMap Piece.chars = cs
  slots : ∀ ds, .slot ds ∈ ps → SlotDigits ds
  leftmost : ∀ before c after, ps = before ++ .plain c :: after → ∀ ds rest, SlotDigits ds →
    c :: after.flatMap Piece.chars ≠ '{' :: (ds ++ '}' :: rest)

/-! ## Finding the slots -/

theorem isDigit_close : isDigit '}' = false := by
  -- The kernel is slow to decode a string, so the rows are written as characters first.
  change CharSet.contains (.ofTable [String.ofList _, String.ofList _, String.ofList _,
    String.ofList _, String.ofList _, String.ofList _, String.ofList _, String.ofList _,
    String.ofList _]) '}' = false
  simp only [CharSet.ofTable, List.flatMap_cons, List.flatMap_nil, String.toList_ofList]
  decide +kernel

theorem slot?_eq_some {cs ds rest : List Char} (h : slot? cs = some (ds, rest)) :
    cs = ds ++ '}' :: rest := by
  rw [slot?] at h
  split at h
  · rename_i d ds' rest' htake hdrop
    obtain ⟨rfl, rfl⟩ := Prod.mk.inj (Option.some.inj h)
    rw [← htake, ← hdrop, List.takeWhile_append_dropWhile]
  · cases h

theorem slot?_of_digits {ds : List Char} (h : SlotDigits ds) (rest : List Char) :
    slot? (ds ++ '}' :: rest) = some (ds, rest) := by
  have hclose : ¬ isDigit '}' = true := by simp [isDigit_close]
  have htake : (ds ++ '}' :: rest).takeWhile isDigit = ds := by
    rw [List.takeWhile_append_of_pos h.digits, List.takeWhile_cons, if_neg hclose, List.append_nil]
  have hdrop : (ds ++ '}' :: rest).dropWhile isDigit = '}' :: rest := by
    rw [List.dropWhile_append_of_pos h.digits, List.dropWhile_cons, if_neg hclose]
  cases ds with
  | nil => exact absurd rfl h.ne_nil
  | cons d ds => simp only [slot?, htake, hdrop]

theorem slotDigits_of_slot? {cs ds rest : List Char} (h : slot? cs = some (ds, rest)) :
    SlotDigits ds := by
  rw [slot?] at h
  split at h
  · rename_i d ds' rest' htake hdrop
    obtain ⟨rfl, rfl⟩ := Prod.mk.inj (Option.some.inj h)
    refine ⟨List.cons_ne_nil d ds', ?_⟩
    rw [← htake]
    exact List.all_eq_true.1 List.all_takeWhile
  · cases h

namespace Decomposes

variable {ps : List Piece} {cs : List Char}

theorem nil : Decomposes [] [] where
  concat := rfl
  slots := by simp
  leftmost := by simp

theorem slot {ds : List Char} (hds : SlotDigits ds) (h : Decomposes ps cs) :
    Decomposes (.slot ds :: ps) ('{' :: (ds ++ '}' :: cs)) where
  concat := by simp [Piece.chars, h.concat]
  slots := by
    intro ds' hmem
    rcases List.mem_cons.1 hmem with heq | hmem
    · obtain rfl := Piece.slot.inj heq
      exact hds
    · exact h.slots ds' hmem
  leftmost := by
    intro before c after heq
    cases before with
    | nil => cases heq
    | cons p before => exact h.leftmost before c after (List.cons.inj heq).2

theorem plain {c : Char} (hc : ∀ ds rest, SlotDigits ds → c :: cs ≠ '{' :: (ds ++ '}' :: rest))
    (h : Decomposes ps cs) : Decomposes (.plain c :: ps) (c :: cs) where
  concat := by simp [Piece.chars, h.concat]
  slots := by
    intro ds hmem
    rcases List.mem_cons.1 hmem with heq | hmem
    · cases heq
    · exact h.slots ds hmem
  leftmost := by
    intro before c' after heq
    cases before with
    | nil =>
        obtain ⟨hc', rfl⟩ := List.cons.inj heq
        obtain rfl := Piece.plain.inj hc'
        rwa [h.concat]
    | cons p before => exact h.leftmost before c' after (List.cons.inj heq).2

end Decomposes

theorem decomposes_piecesAux {fuel : Nat} {cs : List Char} (h : cs.length ≤ fuel) :
    Decomposes (piecesAux fuel cs) cs := by
  induction fuel generalizing cs with
  | zero =>
      obtain rfl := List.length_eq_zero_iff.1 (Nat.le_zero.1 h)
      exact .nil
  | succ fuel ih =>
      cases cs with
      | nil => exact .nil
      | cons c rest =>
          have hrest : rest.length ≤ fuel := Nat.le_of_succ_le_succ h
          rw [piecesAux]
          split
          · rename_i hc
            subst hc
            split
            · rename_i ds rest' hslot
              obtain rfl := slot?_eq_some hslot
              have hlen : rest'.length ≤ fuel := by
                rw [List.length_append, List.length_cons] at hrest
                omega
              exact .slot (slotDigits_of_slot? hslot) (ih hlen)
            · rename_i hnone
              refine .plain (fun ds rest' hds heq => ?_) (ih hrest)
              obtain rfl := (List.cons.inj heq).2
              rw [slot?_of_digits hds] at hnone
              cases hnone
          · rename_i hc
            exact .plain (fun ds rest' _ heq => hc (List.cons.inj heq).1) (ih hrest)

/-- The parts that filling goes by are a decomposition. -/
theorem decomposes_pieces (t : Template) : Decomposes t.pieces t.text.toList :=
  decomposes_piecesAux (Nat.le_refl _)

/-! ## Filling the slots of a text -/

/-- What becomes of the end of a template when the arguments are put in. -/
def FillsTo (args : List String) (cs out : List Char) : Prop :=
  ∀ fuel, cs.length ≤ fuel → (piecesAux fuel cs).flatMap (Piece.fill args) = out

theorem FillsTo.fill {t : Template} {args : List String} {out : String}
    (h : FillsTo args t.text.toList out.toList) : t.fill args = out := by
  rw [Template.fill, pieces, h _ (Nat.le_refl _), String.ofList_toList]

theorem fillsTo_nil (args : List String) : FillsTo args [] [] := by
  intro fuel _
  cases fuel <;> rfl

theorem FillsTo.plain {args : List String} {cs out : List Char} (h : FillsTo args cs out)
    {pre : List Char} (hpre : '{' ∉ pre) : FillsTo args (pre ++ cs) (pre ++ out) := by
  induction pre with
  | nil => exact h
  | cons c pre ih =>
      obtain ⟨hc, hrest⟩ := not_or.1 (mt List.mem_cons.2 hpre)
      intro fuel hfuel
      cases fuel with
      | zero => cases hfuel
      | succ fuel =>
          rw [List.cons_append, piecesAux, if_neg (Ne.symm hc), List.flatMap_cons,
            ih hrest fuel (Nat.le_of_succ_le_succ hfuel)]
          rfl

theorem FillsTo.slot {args : List String} {cs out : List Char} (h : FillsTo args cs out) {d : Char}
    (hd : isDigit d = true) :
    FillsTo args ('{' :: d :: '}' :: cs) (Piece.fill args (.slot [d]) ++ out) := by
  have hslot : slot? (d :: '}' :: cs) = some ([d], cs) := by
    simp [slot?, hd, isDigit_close]
  intro fuel hfuel
  cases fuel with
  | zero => cases hfuel
  | succ fuel =>
      have hcs : cs.length ≤ fuel := by
        simp only [List.length_cons] at hfuel
        omega
      rw [piecesAux, if_pos rfl, hslot]
      dsimp only
      rw [List.flatMap_cons, h fuel hcs]

/-- A template with a slot for each of two arguments. -/
theorem fill_pair {t : Template} (start middle stop : String)
    (htext : t.text = start ++ "\x7b0\x7d" ++ middle ++ "\x7b1\x7d" ++ stop)
    (hstart : '{' ∉ start.toList) (hmiddle : '{' ∉ middle.toList) (hstop : '{' ∉ stop.toList)
    (a b : String) : t.fill [a, b] = start ++ a ++ middle ++ b ++ stop := by
  have hzero : isDigit '0' = true := by decide +kernel
  have hone : isDigit '1' = true := by decide +kernel
  have hfirst : Piece.fill [a, b] (.slot ['0']) = a.toList := rfl
  have hsecond : Piece.fill [a, b] (.slot ['1']) = b.toList := rfl
  have hstopped := (fillsTo_nil [a, b]).plain hstop
  have hfilled := (((hstopped.slot hone).plain hmiddle).slot hzero).plain hstart
  refine FillsTo.fill ?_
  rw [htext]
  simpa [String.toList_append, hfirst, hsecond] using hfilled

end Template
end DocQuery.Query
