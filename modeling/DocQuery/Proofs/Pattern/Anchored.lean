import DocQuery.Proofs.Pattern.Enclosed

/-! # Patterns that are tied to the start of a text

A text that is a pattern by itself is put into a group behind the mark for the start of the text. If
the whole is read as a pattern at all, then as that mark and the pattern in a group. Nothing follows
for a text that is no pattern by itself: its parentheses may pair with the new ones.
-/

namespace DocQuery.Pattern

namespace Parser

/-! ## Groups -/

variable {cs cs' : List Char}

theorem follows_readFlagsAux {n m : Nat} (hnm : n ≤ m) (negated : Bool) (last : Option Char)
    (f : FlagChange) (h : Enclosed cs cs') :
    Follows Rest (readFlagsAux n negated last f cs) (readFlagsAux m negated last f cs') := by
  induction n generalizing m negated last f cs cs' with
  | zero => exact .none
  | succ n ih =>
      cases m with
      | zero => omega
      | succ m =>
          have hnm := Nat.le_of_succ_le_succ hnm
          cases h with
          | closing | lost => exact .none
          | cons c h =>
              rw [readFlagsAux, readFlagsAux]
              split
              · split
                · exact .none
                · exact .some (.mk _ (.cons c h))
              · split
                · split
                  · exact .none
                  · exact ih hnm true _ f h
                · refine .bind_same fun flag => ?_
                  dsimp only
                  split
                  · exact .none
                  · exact ih hnm negated _ _ h

theorem follows_readName (h : Enclosed cs cs') :
    Follows Rest (readName cs) (readName cs') := by
  have hdrop := h.dropWhile (· ≠ '>')
  unfold readName
  dsimp only
  by_cases hstop : cs.dropWhile (· ≠ '>') = []
  · rw [hstop]
    cases cs.takeWhile (· ≠ '>') <;> exact .none
  · rw [h.takeWhile_eq hstop]
    generalize cs.dropWhile (· ≠ '>') = ds, cs'.dropWhile (· ≠ '>') = ds' at hdrop ⊢
    cases cs.takeWhile (· ≠ '>') with
    | nil => exact .none
    | cons first others =>
        cases hdrop with
        | closing | lost => exact .none
        | @cons c es es' hes =>
            by_cases hc : c = '>'
            · subst hc
              simp only
              split
              · exact .some (.mk _ hes)
              · exact .none
            · split
              · rename_i heq
                exact absurd (List.cons.inj heq).1 hc
              · exact .none

def State.under (g : OpenGroup) (s : State) : State := { s with groups := s.groups ++ [g] }

theorem State.verbose_under (g : OpenGroup) (s : State) : (s.under g).verbose = s.verbose := rfl

/-- The same state inside of a group, with a rest that is enclosed. -/
inductive Under (g : OpenGroup) : State × List Char → State × List Char → Prop where
  | mk (s : State) {cs cs' : List Char} (h : Enclosed cs cs') : Under g (s, cs) (s.under g, cs')

variable {g : OpenGroup} {s : State}

theorem follows_closeGroup? (h : Enclosed cs cs') :
    Follows (Under g) (s.closeGroup?.map (·, cs)) ((s.under g).closeGroup?.map (·, cs')) := by
  unfold State.closeGroup? State.under
  cases s.groups with
  | nil => exact .none
  | cons inner outer => exact .some (.mk _ h)

theorem follows_repeatItem (least : Nat) (most : Option Nat) (h : Enclosed cs cs') :
    Follows (Under g) (repeatItem s least most cs) (repeatItem (s.under g) least most cs') := by
  have hgreed := rest_readGreed h
  unfold repeatItem
  generalize readGreed cs = x, readGreed cs' = y at hgreed ⊢
  obtain ⟨greedy, hrest⟩ := hgreed
  exact .bind_same fun level => .some (.mk _ hrest)

theorem rel_or {α β : Type} {R : α → β → Prop} {a b : Option α} {a' b' : Option β}
    (ha : Option.Rel R a a') (hb : Option.Rel R b b') : Option.Rel R (a.or b) (a'.or b') := by
  cases ha with
  | some h => exact .some h
  | none => exact hb

theorem isSome_isPrefixOf? {word : List Char} (hword : ')' ∉ word) (h : Enclosed cs cs') :
    (word.isPrefixOf? cs').isSome = (word.isPrefixOf? cs).isSome := by
  have hafter := rel_isPrefixOf? word hword h
  generalize word.isPrefixOf? cs = x, word.isPrefixOf? cs' = y at hafter ⊢
  cases hafter <;> rfl

def readNamed (s : State) (cs : List Char) : Option (State × List Char) := do
  let (name, rest) ← readName cs
  if name ∈ s.names then none
  return ({ s with names := name :: s.names }.openCapture, rest)

def applyFlags (s : State) (f : FlagChange) : List Char → Option (State × List Char)
  | ':' :: rest => some (s.openGroup (.plain f), rest)
  | ')' :: rest =>
    if f = ⟨[], []⟩ then none
    else some ({ s.push (.flags f) with verbose := (f.value? .verbose).getD s.verbose }, rest)
  | _ => none

def readUnnamed (s : State) : List Char → Option (State × List Char)
  | '?' :: rest =>
    (readFlagsAux (rest.length + 1) false none ⟨[], []⟩ rest).bind fun (f, rest) =>
      applyFlags s f rest
  | cs => some (s.openCapture, cs)

theorem readGroup_eq (s : State) (cs : List Char) :
    readGroup s cs =
      (have cs := skip s.verbose cs
      if lookarounds.any fun mark => (mark.isPrefixOf? cs).isSome then none
      else match (List.isPrefixOf? ['?', 'P', '<'] cs).or (List.isPrefixOf? ['?', '<'] cs) with
        | some rest => readNamed s rest
        | none => readUnnamed s cs) := by
  unfold readGroup
  rfl

theorem follows_readNamed (h : Enclosed cs cs') :
    Follows (Under g) (readNamed s cs) (readNamed (s.under g) cs') := by
  refine .bind (follows_readName h) ?_
  rintro _ _ ⟨name, hrest⟩
  change Follows (Under g) (if name ∈ s.names then _ else _) (if name ∈ s.names then _ else _)
  split
  · exact .none
  · exact .some (.mk _ hrest)

theorem follows_applyFlags (f : FlagChange) (h : Enclosed cs cs') :
    Follows (Under g) (applyFlags s f cs) (applyFlags (s.under g) f cs') := by
  unfold applyFlags
  cases h with
  | closing | lost => exact .none
  | @cons c ds ds' hds =>
      by_cases hcolon : c = ':'
      · subst hcolon
        exact .some (.mk _ hds)
      by_cases hclose : c = ')'
      · subst hclose
        simp only
        split
        · exact .none
        · exact .some (.mk _ hds)
      · have hleft := cons_ne hcolon ds
        have hleft' := cons_ne hclose ds
        simp only
        exact .none

theorem follows_readUnnamed (h : Enclosed cs cs') :
    Follows (Under g) (readUnnamed s cs) (readUnnamed (s.under g) cs') := by
  unfold readUnnamed
  cases h with
  | closing => exact .some (.mk _ .closing)
  | lost => exact .some (.mk _ .lost)
  | @cons c ds ds' hds =>
      by_cases hc : c = '?'
      · subst hc
        refine .bind
          (follows_readFlagsAux (Nat.succ_le_succ hds.length_le) false none ⟨[], []⟩ hds) ?_
        rintro _ _ ⟨f, hrest⟩
        exact follows_applyFlags f hrest
      · have hleft := cons_ne hc ds
        have hright := cons_ne hc ds'
        simp only
        exact .some (.mk _ (.cons c hds))

theorem follows_readGroup (h : Enclosed cs cs') :
    Follows (Under g) (readGroup s cs) (readGroup (s.under g) cs') := by
  have hskip := h.skip s.verbose
  rw [readGroup_eq, readGroup_eq, State.verbose_under]
  generalize skip s.verbose cs = ds, skip s.verbose cs' = ds' at hskip ⊢
  have hlook : (lookarounds.any fun mark => (mark.isPrefixOf? ds').isSome) =
      lookarounds.any fun mark => (mark.isPrefixOf? ds).isSome := by
    simp only [lookarounds, List.any_cons, List.any_nil]
    rw [isSome_isPrefixOf? (by decide) hskip, isSome_isPrefixOf? (by decide) hskip,
      isSome_isPrefixOf? (by decide) hskip, isSome_isPrefixOf? (by decide) hskip]
  have hname := rel_or (rel_isPrefixOf? ['?', 'P', '<'] (by decide) hskip)
    (rel_isPrefixOf? ['?', '<'] (by decide) hskip)
  dsimp only
  rw [hlook]
  split
  · exact .none
  · generalize (List.isPrefixOf? ['?', 'P', '<'] ds).or (List.isPrefixOf? ['?', '<'] ds) = x,
      (List.isPrefixOf? ['?', 'P', '<'] ds').or (List.isPrefixOf? ['?', '<'] ds') = y at hname ⊢
    cases hname with
    | some hrest => exact follows_readNamed hrest
    | none => exact follows_readUnnamed hskip

theorem follows_step (h : Enclosed cs cs') :
    Follows (Under g) (step s cs) (step (s.under g) cs') := by
  cases h with
  | closing | lost => exact .none
  | @cons c ds ds' hds =>
      unfold step
      by_cases hopen : c = '('
      · subst hopen
        exact follows_readGroup hds
      by_cases hclose : c = ')'
      · subst hclose
        exact follows_closeGroup? hds
      by_cases hnext : c = '|'
      · subst hnext
        exact .some (.mk _ hds)
      by_cases hclass : c = '['
      · subst hclass
        refine .map (follows_readClass hds) ?_
        rintro _ _ ⟨a, hrest⟩
        exact .mk _ hrest
      by_cases hoption : c = '?'
      · subst hoption
        exact follows_repeatItem 0 (some 1) hds
      by_cases hstar : c = '*'
      · subst hstar
        exact follows_repeatItem 0 none hds
      by_cases hplus : c = '+'
      · subst hplus
        exact follows_repeatItem 1 none hds
      by_cases hbounds : c = '{'
      · subst hbounds
        refine .bind (follows_readBounds hds) ?_
        rintro _ _ ⟨⟨least, most⟩, hrest⟩
        exact follows_repeatItem least most (hrest.skip s.verbose)
      by_cases hescape : c = '\\'
      · subst hescape
        refine .bind (follows_readEscape hds) ?_
        rintro _ _ ⟨p, hrest⟩
        exact .some (.mk _ hrest)
      by_cases hdot : c = '.'
      · subst hdot
        exact .some (.mk _ hds)
      by_cases hstart : c = '^'
      · subst hstart
        exact .some (.mk _ hds)
      by_cases hend : c = '$'
      · subst hend
        exact .some (.mk _ hds)
      · simp only
        exact .some (.mk _ hds)

/-! ## Reading to the end -/

theorem readAux_nil {n : Nat} (hskip : skip s.verbose cs = []) :
    readAux (n + 1) s cs = if s.groups.isEmpty then some s.level.close else none := by
  rw [readAux, hskip]

theorem readAux_cons {n : Nat} {c : Char} {ds : List Char} (hskip : skip s.verbose cs = c :: ds) :
    readAux (n + 1) s cs = (step s (c :: ds)).bind fun (t, rest) => readAux n t rest := by
  simp only [readAux, hskip]
  cases step s (c :: ds) <;> rfl

/-- At the end of a text, the closing parenthesis closes the group around it. -/
theorem readAux_closing {n : Nat} (hgroups : s.groups = [])
    (hskip : skip s.verbose cs = [')']) :
    readAux (n + 2) (s.under g) cs =
      some (g.before.push (g.kind.wrap s.level.close)).close := by
  rw [readAux_cons (s := s.under g) hskip]
  have hclose : step (s.under g) [')'] =
      some ({ s with
        verbose := g.verbose
        level := g.before.push (g.kind.wrap s.level.close)
        groups := [] }, []) := by
    change (s.under g).closeGroup?.map _ = _
    rw [State.closeGroup?, State.under, hgroups]
    rfl
  rw [hclose]
  cases hverbose : g.verbose <;> rfl

/-- What is read from a state is also what is read inside of a group, if anything is. -/
theorem readAux_under {n m : Nat} {a b : Ast} (hread : readAux n s cs = some a)
    (h : Enclosed cs cs') (hnm : n < m) (hunder : readAux m (s.under g) cs' = some b) :
    b = (g.before.push (g.kind.wrap a)).close := by
  -- where the one text ends, the other still has its parenthesis, which takes one step more
  induction n generalizing m s cs cs' with
  | zero => cases hread
  | succ n ih =>
      obtain ⟨m, rfl⟩ : ∃ k, m = k + 2 := ⟨m - 2, by omega⟩
      have hskip := h.skip s.verbose
      generalize hes : skip s.verbose cs = es, hes' : skip s.verbose cs' = es' at hskip
      cases hskip with
      | lost =>
          rw [readAux_nil (s := s.under g) hes'] at hunder
          simp [State.under] at hunder
      | closing =>
          rw [readAux_nil hes] at hread
          split at hread
          · rename_i hgroups
            rw [readAux_closing (List.isEmpty_iff.1 hgroups) hes'] at hunder
            cases hread
            exact (Option.some.inj hunder).symm
          · cases hread
      | @cons c ds ds' hds =>
          rw [readAux_cons hes] at hread
          rw [readAux_cons (s := s.under g) hes'] at hunder
          cases hstep : step s (c :: ds) with
          | none =>
              rw [hstep] at hread
              cases hread
          | some next =>
              obtain ⟨t, rest⟩ := next
              obtain ⟨_, hstep', ⟨_, hrest⟩⟩ := follows_step (g := g) (.cons c hds) _ hstep
              rw [hstep] at hread
              rw [hstep'] at hunder
              exact ih hread hrest (by omega) hunder

/-- What has been read before the pattern of a match that is tied to the start of the text. -/
def anchored : OpenGroup := ⟨⟨[], [.assertion .textStart]⟩, .plain ⟨[], []⟩, false⟩

theorem readAux_anchored (n : Nat) (cs : List Char) :
    readAux (n + 2) .start ("\\A(?:".toList ++ cs) = readAux n (State.start.under anchored) cs := by
  rfl

end Parser

open DocQuery.Pattern.Parser

theorem readAux_of_parse? {text : List Char} {a : Ast} (h : Ast.parse? text = some a) :
    readAux (text.length + 1) .start text = some a := by
  unfold Ast.parse? at h
  cases hread : readAux (text.length + 1) .start text with
  | none =>
      rw [hread] at h
      cases h
  | some b =>
      rw [hread] at h
      change (if b.depth ≤ nestLimit then some b else none) = some a at h
      split at h
      · exact h
      · cases h

theorem parse?_anchored {text : List Char} {a b : Ast} (ha : Ast.parse? text = some a)
    (hb : Ast.parse? ("\\A(?:".toList ++ text ++ [')']) = some b) :
    b = .concat [.assertion .textStart, .group ⟨[], []⟩ a] := by
  have hanchored := readAux_of_parse? hb
  have hlength : ("\\A(?:".toList ++ (text ++ [')'])).length + 1 = (text.length + 5) + 2 := by
    simp
  rw [List.append_assoc, hlength, readAux_anchored] at hanchored
  exact readAux_under (readAux_of_parse? ha) (.append_closing text) (by omega) hanchored

theorem expr?_anchored (m : Modes) (a : Ast) :
    (Ast.concat [.assertion .textStart, .group ⟨[], []⟩ a]).expr? m =
      (a.expr? m).map fun (e, _) => (.sequence [.look .textStart, e], m) := by
  have hsame : m.apply ⟨[], []⟩ = m := rfl
  simp only [Ast.expr?, Ast.exprs?, Option.bind_eq_bind, Option.bind_some, hsame]
  cases a.expr? m <;> rfl

theorem exists_of_compile?_eq_some {m : Modes} {text : List Char} {e : Expr}
    (h : compile? m text = some e) :
    ∃ a after, Ast.parse? text = some a ∧ a.expr? m = some (e, after) := by
  unfold compile? at h
  cases ha : Ast.parse? text with
  | none =>
      rw [ha] at h
      cases h
  | some a =>
      cases he : a.expr? m with
      | none => simp [ha, he] at h
      | some x =>
          have hx : x.1 = e := by
            simp [ha, he] at h
            exact h.2
          exact ⟨a, x.2, rfl, hx ▸ he⟩

/-- Behind the start of the text and inside of a group, a pattern is compiled as by itself. -/
theorem compile?_anchored {m : Modes} {text : List Char} {e e' : Expr}
    (he : compile? m text = some e)
    (he' : compile? m ("\\A(?:".toList ++ text ++ [')']) = some e') :
    e' = .sequence [.look .textStart, e] := by
  obtain ⟨a, after, ha, hexpr⟩ := exists_of_compile?_eq_some he
  obtain ⟨a', after', ha', hexpr'⟩ := exists_of_compile?_eq_some he'
  rw [parse?_anchored ha ha', expr?_anchored, hexpr] at hexpr'
  cases hexpr'
  rfl

end DocQuery.Pattern
