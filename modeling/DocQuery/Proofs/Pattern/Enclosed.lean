import DocQuery.Pattern.Search

/-! # Reading in front of a closing parenthesis

A reader that succeeds on a text also succeeds when a closing parenthesis stands behind the text: it
gives the same value, and the parenthesis is left over with the rest. Only a comment can reach over
the parenthesis. A reader that fails may well succeed with the parenthesis, so that nothing is said
of that, except where a reader decides between two others.
-/

namespace DocQuery.Pattern.Parser

open Text

theorem length_comment_le (cs : List Char) :
    ((cs.dropWhile (· ≠ '\n')).drop 1).length ≤ cs.length := by
  have hsuffix := (List.dropWhile_suffix (l := cs) (· ≠ '\n')).length_le
  rw [List.length_drop]
  omega

/-! ## Texts with a closing parenthesis behind them -/

/-- The second text is the first one with a closing parenthesis behind it. Once a comment has
reached over the parenthesis, both are the same. -/
inductive Enclosed : List Char → List Char → Prop where
  | closing : Enclosed [] [')']
  | lost : Enclosed [] []
  | cons (c : Char) {cs cs' : List Char} (h : Enclosed cs cs') : Enclosed (c :: cs) (c :: cs')

namespace Enclosed

variable {cs cs' : List Char}

theorem append_closing (cs : List Char) : Enclosed cs (cs ++ [')']) := by
  induction cs with
  | nil => exact .closing
  | cons c cs ih => exact .cons c ih

theorem length_le (h : Enclosed cs cs') : cs.length ≤ cs'.length := by
  induction h with
  | closing => exact Nat.zero_le 1
  | lost => exact Nat.le_refl 0
  | cons c h ih => exact Nat.succ_le_succ ih

theorem drop_one (h : Enclosed cs cs') : Enclosed (cs.drop 1) (cs'.drop 1) := by
  cases h with
  | closing => exact .lost
  | lost => exact .lost
  | cons c h => exact h

theorem dropWhile (p : Char → Bool) (h : Enclosed cs cs') :
    Enclosed (cs.dropWhile p) (cs'.dropWhile p) := by
  induction h with
  | closing =>
      cases hp : p ')' with
      | false =>
          rw [List.dropWhile_cons_of_neg (by rw [hp]; exact Bool.false_ne_true)]
          exact .closing
      | true =>
          rw [List.dropWhile_cons_of_pos hp]
          exact .lost
  | lost => exact .lost
  | cons c h ih =>
      cases hp : p c with
      | false =>
          rw [List.dropWhile_cons_of_neg (by rw [hp]; exact Bool.false_ne_true),
            List.dropWhile_cons_of_neg (by rw [hp]; exact Bool.false_ne_true)]
          exact .cons c h
      | true =>
          rw [List.dropWhile_cons_of_pos hp, List.dropWhile_cons_of_pos hp]
          exact ih

theorem takeWhile_eq {p : Char → Bool} (h : Enclosed cs cs') (hstop : cs.dropWhile p ≠ []) :
    cs'.takeWhile p = cs.takeWhile p := by
  induction h with
  | closing => exact absurd rfl hstop
  | lost => rfl
  | cons c h ih =>
      cases hp : p c with
      | false => simp [hp]
      | true =>
          rw [List.dropWhile_cons_of_pos hp] at hstop
          simp [hp, ih hstop]

/-- Induction for readers that take no more steps than there are characters. -/
theorem fuel_induction {P : Nat → Nat → List Char → List Char → Prop}
    (closing : ∀ n m, P n m [] [')']) (lost : ∀ n m, P n m [] [])
    (cons : ∀ n m c {ds ds'}, Enclosed ds ds' →
      (∀ {es es'}, Enclosed es es' → es.length ≤ ds.length → es'.length ≤ ds'.length →
        P n m es es') → P (n + 1) (m + 1) (c :: ds) (c :: ds'))
    {n m : Nat} (h : Enclosed cs cs') (hn : cs.length ≤ n) (hm : cs'.length ≤ m) :
    P n m cs cs' := by
  induction n generalizing m cs cs' with
  | zero =>
      cases h with
      | closing => exact closing 0 m
      | lost => exact lost 0 m
      | cons c h => exact absurd hn (Nat.not_succ_le_zero _)
  | succ n ih =>
      cases h with
      | closing => exact closing (n + 1) m
      | lost => exact lost (n + 1) m
      | cons c h =>
          cases m with
          | zero => exact absurd hm (Nat.not_succ_le_zero _)
          | succ m =>
              rw [List.length_cons, Nat.succ_le_succ_iff] at hn hm
              refine cons n m c h fun hes hle hle' => ?_
              exact ih hes (Nat.le_trans hle hn) (Nat.le_trans hle' hm)

theorem skipAux {n m : Nat} (h : Enclosed cs cs') (hn : cs.length ≤ n) (hm : cs'.length ≤ m) :
    Enclosed (skipAux n cs) (skipAux m cs') := by
  refine fuel_induction (P := fun n m cs cs' => Enclosed (Parser.skipAux n cs)
    (Parser.skipAux m cs')) ?_ ?_ ?_ h hn hm
  · intro n m
    cases n <;> cases m <;> exact .closing
  · intro n m
    cases n <;> cases m <;> exact .lost
  · intro n m c ds ds' hds ih
    rw [Parser.skipAux, Parser.skipAux]
    by_cases hblank : isBlank c = true
    · rw [if_pos hblank, if_pos hblank]
      exact ih hds (Nat.le_refl _) (Nat.le_refl _)
    by_cases hcomment : c = '#'
    · rw [if_neg hblank, if_neg hblank, if_pos hcomment, if_pos hcomment]
      exact ih (hds.dropWhile _).drop_one (length_comment_le ds) (length_comment_le ds')
    · rw [if_neg hblank, if_neg hblank, if_neg hcomment, if_neg hcomment]
      exact .cons c hds

theorem skip (verbose : Bool) (h : Enclosed cs cs') :
    Enclosed (skip verbose cs) (skip verbose cs') := by
  cases verbose with
  | false => exact h
  | true => exact h.skipAux (Nat.le_refl _) (Nat.le_refl _)

end Enclosed

theorem length_skipAux_le (n : Nat) (cs : List Char) : (skipAux n cs).length ≤ cs.length := by
  fun_induction skipAux n cs with
  | case1 => exact Nat.le_refl _
  | case2 => exact Nat.le_refl _
  | case3 n c cs hblank ih => exact Nat.le_succ_of_le ih
  | case4 n cs hblank ih => exact Nat.le_succ_of_le (Nat.le_trans ih (length_comment_le cs))
  | case5 => exact Nat.le_refl _

theorem length_skip_le (verbose : Bool) (cs : List Char) :
    (skip verbose cs).length ≤ cs.length := by
  cases verbose with
  | false => exact Nat.le_refl _
  | true => exact length_skipAux_le _ cs

theorem cons_ne {c d : Char} (h : c ≠ d) (cs : List Char) :
    ∀ rest, c :: cs = d :: rest → False := by
  intro rest heq
  exact h (List.cons.inj heq).1

/-! ## Readings that follow one another -/

/-- What the first reading gives, the second one gives too, up to a relation. -/
def Follows {α β : Type} (R : α → β → Prop) (x : Option α) (y : Option β) : Prop :=
  ∀ a, x = some a → ∃ b, y = some b ∧ R a b

namespace Follows

variable {α β γ δ : Type} {R : α → β → Prop} {S : γ → δ → Prop}

theorem none {y : Option β} : Follows R none y := by
  intro a h
  cases h

theorem some {a : α} {b : β} (h : R a b) : Follows R (some a) (some b) := by
  intro a' ha
  cases ha
  exact ⟨b, rfl, h⟩

theorem bind {x : Option α} {y : Option β} {f : α → Option γ} {g : β → Option δ}
    (h : Follows R x y) (hfg : ∀ a b, R a b → Follows S (f a) (g b)) :
    Follows S (x >>= f) (y >>= g) := by
  intro c hc
  cases x with
  | none => cases hc
  | some a =>
      obtain ⟨b, rfl, hab⟩ := h a rfl
      exact hfg a b hab c hc

theorem map {x : Option α} {y : Option β} {f : α → γ} {g : β → δ}
    (h : Follows R x y) (hfg : ∀ a b, R a b → S (f a) (g b)) :
    Follows S (x.map f) (y.map g) := by
  cases x with
  | none => exact none
  | some a =>
      obtain ⟨b, rfl, hab⟩ := h a rfl
      exact some (hfg a b hab)

theorem bind_same {x : Option α} {f : α → Option γ} {g : α → Option δ}
    (hfg : ∀ a, Follows S (f a) (g a)) : Follows S (x >>= f) (x >>= g) := by
  cases x with
  | none => exact none
  | some a => exact hfg a

theorem of_rel {x : Option α} {y : Option β} (h : Option.Rel R x y) : Follows R x y := by
  cases h with
  | some hab => exact some hab
  | none => exact none

end Follows

inductive Rest {α : Type} : α × List Char → α × List Char → Prop where
  | mk (a : α) {cs cs' : List Char} (h : Enclosed cs cs') : Rest (a, cs) (a, cs')

variable {cs cs' : List Char} {verbose : Bool}

/-- A word without a closing parenthesis is found in both texts or in none. -/
theorem rel_isPrefixOf? (word : List Char) (hword : ')' ∉ word) (h : Enclosed cs cs') :
    Option.Rel Enclosed (word.isPrefixOf? cs) (word.isPrefixOf? cs') := by
  have hcons : ∀ (w c : Char) (word cs : List Char), (w :: word).isPrefixOf? (c :: cs) =
      if w == c then word.isPrefixOf? cs else none := fun _ _ _ _ => rfl
  induction word generalizing cs cs' with
  | nil => exact .some h
  | cons w word ih =>
      rw [List.mem_cons, not_or] at hword
      cases h with
      | closing =>
          have hclosing : ¬ (w == ')') = true := fun he => hword.1 (beq_iff_eq.1 he).symm
          rw [hcons, if_neg hclosing]
          exact .none
      | lost => exact .none
      | cons c h =>
          rw [hcons, hcons]
          by_cases hw : (w == c) = true
          · rw [if_pos hw, if_pos hw]
            exact ih hword.2 h
          · rw [if_neg hw, if_neg hw]
            exact .none

/-! ## Escapes -/

theorem follows_hexDigits? (verbose : Bool) (count : Nat) (h : Enclosed cs cs') :
    Follows Rest (hexDigits? verbose count cs) (hexDigits? verbose count cs') := by
  induction count generalizing cs cs' with
  | zero =>
      rw [hexDigits?, hexDigits?]
      exact .some (.mk _ h)
  | succ count ih =>
      cases h with
      | closing | lost => exact .none
      | cons c h =>
          rw [hexDigits?, hexDigits?]
          refine .bind_same fun _ => .bind (ih (h.skip verbose)) ?_
          rintro _ _ ⟨ds, hrest⟩
          exact .some (.mk _ hrest)

theorem follows_braced? (p : Char → Bool) {n m : Nat} (hnm : n ≤ m) (h : Enclosed cs cs') :
    Follows Rest (braced? verbose p n cs) (braced? verbose p m cs') := by
  induction n generalizing m cs cs' with
  | zero => exact .none
  | succ n ih =>
      cases m with
      | zero => omega
      | succ m =>
          have hskip := h.skip verbose
          rw [braced?, braced?]
          generalize skip verbose cs = ds, skip verbose cs' = ds' at hskip ⊢
          cases hskip with
          | closing | lost => exact .none
          | cons c hds =>
              by_cases hc : c = '}'
              · subst hc
                exact .some (.mk _ hds)
              · simp only
                split
                · refine .map (ih (Nat.le_of_succ_le_succ hnm) hds) ?_
                  rintro _ _ ⟨as, hrest⟩
                  exact .mk _ hrest
                · exact .none

theorem follows_hexChar (ds : List Char) (asByte : Bool) (h : Enclosed cs cs') :
    Follows Rest
      (do
        if ds = [] then none
        let c ← charOf? (← hexNumber? ds)
        return ((⟨c, asByte⟩ : Literal), cs))
      (do
        if ds = [] then none
        let c ← charOf? (← hexNumber? ds)
        return ((⟨c, asByte⟩ : Literal), cs')) := by
  split
  · exact .none
  · exact .bind_same fun _ => .bind_same fun _ => .some (.mk _ h)

theorem follows_readHex (count : Nat) (h : Enclosed cs cs') :
    Follows Rest (readHex verbose count cs) (readHex verbose count cs') := by
  have hskip := h.skip verbose
  rw [readHex, readHex]
  generalize skip verbose cs = ds, skip verbose cs' = ds' at hskip ⊢
  have hdigits := follows_hexDigits? verbose count hskip
  cases hskip with
  | closing | lost =>
      refine .bind hdigits ?_
      rintro _ _ ⟨ds, hrest⟩
      exact follows_hexChar ds _ hrest
  | @cons c ds ds' hds =>
      by_cases hc : c = '{'
      · subst hc
        refine .bind (follows_braced? _ (Nat.succ_le_succ hds.length_le) hds) ?_
        rintro _ _ ⟨ds, hrest⟩
        exact follows_hexChar ds _ (hrest.skip verbose)
      · have hleft := cons_ne hc ds
        have hright := cons_ne hc ds'
        simp only
        refine .bind hdigits ?_
        rintro _ _ ⟨ds, hrest⟩
        exact follows_hexChar ds _ hrest

theorem follows_readProperty (negated : Bool) (h : Enclosed cs cs') :
    Follows Rest (readProperty verbose negated cs) (readProperty verbose negated cs') := by
  have hskip := h.skip verbose
  unfold readProperty
  generalize skip verbose cs = ds, skip verbose cs' = ds' at hskip ⊢
  cases hskip with
  | closing | lost => exact .none
  | cons c hds =>
      by_cases hopen : c = '{'
      · subst hopen
        refine .bind (follows_braced? _ (Nat.succ_le_succ hds.length_le) hds) ?_
        rintro _ _ ⟨text, hrest⟩
        exact .some (.mk _ hrest)
      by_cases hescape : c = '\\'
      · subst hescape
        exact .none
      · simp only
        exact .some (.mk _ (hds.skip verbose))

theorem follows_readBoundary (h : Enclosed cs cs') :
    Follows Rest (readBoundary verbose cs) (readBoundary verbose cs') := by
  unfold readBoundary
  cases h with
  | closing => exact .some (.mk _ .closing)
  | lost => exact .some (.mk _ .lost)
  | @cons c ds ds' hds =>
      by_cases hc : c = '{'
      · subst hc
        have hskip := hds.skip verbose
        simp only
        generalize skip verbose ds = es, skip verbose ds' = es' at hskip ⊢
        cases hskip with
        | closing | lost => exact .none
        | cons d hes =>
            dsimp only
            split
            · refine .bind
                (follows_braced? _ (Nat.add_le_add_right hes.length_le 2) (.cons d hes)) ?_
              rintro _ _ ⟨name, hrest⟩
              exact .bind_same fun _ => .some (.mk _ hrest)
            · exact .some (.mk _ (.cons _ hds))
      · have hleft := cons_ne hc ds
        have hright := cons_ne hc ds'
        simp only
        exact .some (.mk _ (.cons c hds))

theorem follows_readEscape (h : Enclosed cs cs') :
    Follows Rest (readEscape verbose cs) (readEscape verbose cs') := by
  have hmap {α : Type} {f : α → Primitive} {x y : Option (α × List Char)} (hxy : Follows Rest x y) :
      Follows Rest (x.map fun (a, rest) => (f a, rest)) (y.map fun (a, rest) => (f a, rest)) := by
    refine hxy.map ?_
    rintro _ _ ⟨a, hrest⟩
    exact .mk _ hrest
  cases h with
  | closing | lost => exact .none
  | cons c hds =>
      unfold readEscape
      dsimp only
      split
      case h_1 => exact hmap (follows_readHex 2 hds)
      case h_2 => exact hmap (follows_readHex 4 hds)
      case h_3 => exact hmap (follows_readHex 8 hds)
      case h_4 => exact hmap (follows_readProperty false hds)
      case h_5 => exact hmap (follows_readProperty true hds)
      case h_20 => exact hmap (follows_readBoundary hds)
      case h_24 =>
        split
        · exact .some (.mk _ hds)
        · exact .none
      all_goals exact .some (.mk _ hds)

/-! ## Bracketed classes -/

theorem follows_readClassPrimitive (h : Enclosed cs cs') :
    Follows Rest (readClassPrimitive verbose cs) (readClassPrimitive verbose cs') := by
  unfold readClassPrimitive
  cases h with
  | closing | lost => exact .none
  | cons c hds =>
      by_cases hc : c = '\\'
      · subst hc
        exact follows_readEscape hds
      · simp only
        exact .some (.mk _ hds)

/-- What is seen of a text past blanks and past the mark of a comment. -/
def seen (cs : List Char) : List Char :=
  match cs.dropWhile isBlank with
  | '#' :: inner => inner.dropWhile isBlank
  | ds => ds

theorem peekPast_true_eq_some_iff {c : Char} (hblank : isBlank c = false) (hc : c ≠ '#') :
    peekPast true cs = some c ↔ (seen cs).head? = some c := by
  -- the first character stands for itself only if it is blank or marks a comment
  have hfirst : cs.dropWhile isBlank = [] ∨ (∃ inner, cs.dropWhile isBlank = '#' :: inner) →
      cs.head? ≠ some c := by
    intro hdrop hhead
    cases cs with
    | nil => cases hhead
    | cons d cs =>
        cases hhead
        rw [List.dropWhile_cons_of_neg (by rw [hblank]; exact Bool.false_ne_true)] at hdrop
        rcases hdrop with hdrop | ⟨inner, hdrop⟩
        · cases hdrop
        · cases hdrop
          exact hc rfl
  rw [peekPast, seen, if_pos rfl]
  generalize cs.dropWhile isBlank = ds at hfirst ⊢
  cases ds with
  | nil => simp [hfirst (.inl rfl)]
  | cons d ds =>
      by_cases hd : d = '#'
      · subst hd
        simp [Option.or_eq_some_iff, hfirst (.inr ⟨ds, rfl⟩)]
      · simp [hd]

theorem Enclosed.seen (h : Enclosed cs cs') : Enclosed (seen cs) (seen cs') := by
  have hdrop := h.dropWhile isBlank
  unfold Parser.seen
  generalize cs.dropWhile isBlank = ds, cs'.dropWhile isBlank = ds' at hdrop ⊢
  cases hdrop with
  | closing => exact .closing
  | lost => exact .lost
  | @cons c ds ds' hds =>
      by_cases hc : c = '#'
      · subst hc
        exact hds.dropWhile isBlank
      · have hleft := cons_ne hc ds
        have hright := cons_ne hc ds'
        simp only
        exact .cons c hds

theorem Enclosed.head?_eq_some_iff {c : Char} (h : Enclosed cs cs') (hc : c ≠ ')') :
    cs'.head? = some c ↔ cs.head? = some c := by
  cases h with
  | closing => simp [Ne.symm hc]
  | lost => rfl
  | cons d h => rfl

theorem peekPast_eq_some_iff {c : Char} (hc : c = ']' ∨ c = '-') (h : Enclosed cs cs') :
    peekPast verbose cs' = some c ↔ peekPast verbose cs = some c := by
  have hfacts : isBlank c = false ∧ c ≠ '#' ∧ c ≠ ')' := by
    rcases hc with rfl | rfl <;> decide
  cases verbose with
  | false => exact h.head?_eq_some_iff hfacts.2.2
  | true =>
      rw [peekPast_true_eq_some_iff hfacts.1 hfacts.2.1,
        peekPast_true_eq_some_iff hfacts.1 hfacts.2.1]
      exact h.seen.head?_eq_some_iff hfacts.2.2

theorem follows_readClassRange (h : Enclosed cs cs') :
    Follows Rest (readClassRange verbose cs) (readClassRange verbose cs') := by
  unfold readClassRange
  refine .bind (follows_readClassPrimitive h) ?_
  rintro _ _ @⟨first, rest, rest', hrest⟩
  have hskip := hrest.skip verbose
  dsimp only
  generalize skip verbose rest = ds, skip verbose rest' = ds' at hskip ⊢
  cases hskip with
  | closing | lost => exact .none
  | @cons c ds ds' hds =>
      by_cases hc : c = '-'
      · subst hc
        simp only [peekPast_eq_some_iff (.inl rfl) hds, peekPast_eq_some_iff (.inr rfl) hds]
        split
        · exact .bind_same fun _ => .some (.mk _ (.cons _ hds))
        · refine .bind (follows_readClassPrimitive (hds.skip verbose)) ?_
          rintro _ _ ⟨second, hrest⟩
          refine .bind_same fun low => .bind_same fun high => ?_
          split
          · exact .some (.mk _ hrest)
          · exact .none
      · have hleft := cons_ne hc ds
        have hright := cons_ne hc ds'
        simp only
        exact .bind_same fun _ => .some (.mk _ (.cons c hds))

def splitSign (f : List Char → List Char) : List Char → Bool × List Char
  | '^' :: rest => (true, f rest)
  | cs => (false, cs)

theorem rest_splitSign {f : List Char → List Char}
    (hf : ∀ {ds ds'}, Enclosed ds ds' → Enclosed (f ds) (f ds')) (h : Enclosed cs cs') :
    Rest (splitSign f cs) (splitSign f cs') := by
  unfold splitSign
  cases h with
  | closing => exact .mk _ .closing
  | lost => exact .mk _ .lost
  | @cons c ds ds' hds =>
      by_cases hc : c = '^'
      · subst hc
        exact .mk _ (hf hds)
      · have hleft := cons_ne hc ds
        have hright := cons_ne hc ds'
        simp only
        exact .mk _ (.cons c hds)

def asciiName? (x : Bool × List Char) : Option (ClassSet × List Char) := do
  let rest ← List.isPrefixOf? [':', ']'] (x.2.dropWhile (· ≠ ':'))
  return (.ascii (← AsciiClass.ofName? (String.ofList (x.2.takeWhile (· ≠ ':')))) x.1, rest)

theorem readAsciiClass_eq (cs : List Char) :
    readAsciiClass cs = (List.isPrefixOf? [':'] cs).bind fun rest =>
      asciiName? (splitSign id rest) := rfl

theorem rel_asciiName? {x y : Bool × List Char} (h : Rest x y) :
    Option.Rel Rest (asciiName? x) (asciiName? y) := by
  obtain @⟨negated, ds, ds', hds⟩ := h
  have hafter := rel_isPrefixOf? [':', ']'] (by decide) (hds.dropWhile (· ≠ ':'))
  unfold asciiName?
  dsimp only at hds hafter ⊢
  by_cases hstop : ds.dropWhile (· ≠ ':') = []
  · rw [hstop] at hafter ⊢
    generalize List.isPrefixOf? [':', ']'] (ds'.dropWhile (· ≠ ':')) = y at hafter ⊢
    cases hafter
    exact .none
  · rw [hds.takeWhile_eq hstop]
    generalize List.isPrefixOf? [':', ']'] (ds.dropWhile (· ≠ ':')) = x,
      List.isPrefixOf? [':', ']'] (ds'.dropWhile (· ≠ ':')) = y at hafter ⊢
    cases hafter with
    | none => exact .none
    | some hrest =>
        cases AsciiClass.ofName? (String.ofList (ds.takeWhile (· ≠ ':'))) with
        | none => exact .none
        | some c => exact .some (.mk _ hrest)

theorem rel_readAsciiClass (h : Enclosed cs cs') :
    Option.Rel Rest (readAsciiClass cs) (readAsciiClass cs') := by
  have hafter := rel_isPrefixOf? [':'] (by decide) h
  rw [readAsciiClass_eq, readAsciiClass_eq]
  generalize List.isPrefixOf? [':'] cs = x, List.isPrefixOf? [':'] cs' = y at hafter ⊢
  cases hafter with
  | none => exact .none
  | some hds => exact rel_asciiName? (rest_splitSign id hds)

theorem rest_leading (verbose : Bool) {n m : Nat} (h : Enclosed cs cs') (hn : cs.length ≤ n)
    (hm : cs'.length ≤ m) :
    Rest (readClassStart.leading verbose n cs) (readClassStart.leading verbose m cs') := by
  refine Enclosed.fuel_induction (P := fun n m cs cs' =>
    Rest (readClassStart.leading verbose n cs) (readClassStart.leading verbose m cs'))
    ?_ ?_ ?_ h hn hm
  · intro n m
    cases n <;> cases m <;> exact .mk _ .closing
  · intro n m
    cases n <;> cases m <;> exact .mk _ .lost
  · intro n m c ds ds' hds ih
    by_cases hc : c = '-'
    · subst hc
      have hrest := ih (hds.skip verbose) (length_skip_le verbose ds) (length_skip_le verbose ds')
      rw [readClassStart.leading, readClassStart.leading]
      generalize readClassStart.leading verbose n _ = x,
        readClassStart.leading verbose m _ = y at hrest ⊢
      obtain ⟨hyphens, hrest⟩ := hrest
      exact .mk _ hrest
    · have hleft := cons_ne hc ds
      have hright := cons_ne hc ds'
      unfold readClassStart.leading
      simp only
      exact .mk _ (.cons c hds)

def classFront? (verbose negated : Bool) :
    (hyphens : Nat) → List Char → Option (Bool × List ClassSet × List Char)
  | _, [] => none
  | 0, ']' :: rest =>
    match skip verbose rest with
    | [] => none
    | rest => some (negated, [.literal ⟨']', false⟩], rest)
  | n, cs => some (negated, List.replicate n (.literal ⟨'-', false⟩), cs)

theorem readClassStart_eq (verbose : Bool) (cs : List Char) :
    readClassStart verbose cs =
      match splitSign (skip verbose) (skip verbose cs) with
      | (negated, cs) =>
        match readClassStart.leading verbose cs.length cs with
        | (hyphens, cs) => classFront? verbose negated hyphens cs := rfl

inductive ClassRest :
    Bool × List ClassSet × List Char → Bool × List ClassSet × List Char → Prop where
  | mk (negated : Bool) (items : List ClassSet) {cs cs' : List Char} (h : Enclosed cs cs') :
      ClassRest (negated, items, cs) (negated, items, cs')

theorem classFront?_cons {negated : Bool} {n : Nat} {c : Char} (h : ¬(n = 0 ∧ c = ']')) :
    classFront? verbose negated n (c :: cs) =
      some (negated, List.replicate n (.literal ⟨'-', false⟩), c :: cs) := by
  rw [classFront?]
  · exact List.cons_ne_nil c cs
  · intro rest hn hcs
    exact h ⟨hn, (List.cons.inj hcs).1⟩

theorem follows_classFront? (negated : Bool) (n : Nat) (h : Enclosed cs cs') :
    Follows ClassRest (classFront? verbose negated n cs) (classFront? verbose negated n cs') := by
  cases h with
  | closing | lost => exact .none
  | @cons c ds ds' hds =>
      by_cases hbracket : n = 0 ∧ c = ']'
      · obtain ⟨rfl, rfl⟩ := hbracket
        have hskip := hds.skip verbose
        rw [classFront?, classFront?]
        generalize skip verbose ds = es, skip verbose ds' = es' at hskip ⊢
        cases hskip with
        | closing | lost => exact .none
        | cons d hes => exact .some (.mk _ _ (.cons d hes))
      · rw [classFront?_cons hbracket, classFront?_cons hbracket]
        exact .some (.mk _ _ (.cons c hds))

theorem follows_readClassStart (h : Enclosed cs cs') :
    Follows ClassRest (readClassStart verbose cs) (readClassStart verbose cs') := by
  have hsign := rest_splitSign (f := skip verbose) (fun h => h.skip verbose) (h.skip verbose)
  rw [readClassStart_eq, readClassStart_eq]
  generalize splitSign (skip verbose) (skip verbose cs) = x,
    splitSign (skip verbose) (skip verbose cs') = y at hsign ⊢
  obtain @⟨negated, ds, ds', hds⟩ := hsign
  have hleading := rest_leading verbose hds (Nat.le_refl _) (Nat.le_refl _)
  dsimp only
  generalize readClassStart.leading verbose ds.length ds = x,
    readClassStart.leading verbose ds'.length ds' = y at hleading ⊢
  obtain ⟨hyphens, hrest⟩ := hleading
  exact follows_classFront? negated hyphens hrest

def OpensOp (c : Char) (cs : List Char) : Prop :=
  (c = '&' ∨ c = '-' ∨ c = '~') ∧ cs.head? = some c

theorem opensOp_iff (c : Char) (h : Enclosed cs cs') : OpensOp c cs' ↔ OpensOp c cs := by
  refine and_congr_right fun hc => h.head?_eq_some_iff ?_
  rcases hc with rfl | rfl | rfl <;> decide

theorem readClassAux_range {n : Nat} {s : ClassState} {c : Char} {ds : List Char}
    (hskip : skip verbose cs = c :: ds) (hopen : c ≠ '[') (hclose : c ≠ ']')
    (hop : ¬OpensOp c ds) :
    readClassAux verbose (n + 1) s cs =
      (readClassRange verbose (c :: ds)).bind fun (item, rest) =>
        readClassAux verbose n (s.push item) rest := by
  rw [readClassAux, hskip]
  unfold OpensOp at hop
  split
  case h_7 => rfl
  all_goals simp_all

theorem follows_readClassAux {n m : Nat} (hnm : n ≤ m) (s : ClassState) (h : Enclosed cs cs') :
    Follows Rest (readClassAux verbose n s cs) (readClassAux verbose m s cs') := by
  induction n generalizing m s cs cs' with
  | zero => exact .none
  | succ n ih =>
      cases m with
      | zero => omega
      | succ m =>
          have hnm := Nat.le_of_succ_le_succ hnm
          have hskip := h.skip verbose
          generalize hes : skip verbose cs = es, hes' : skip verbose cs' = es' at hskip
          cases hskip with
          | closing | lost =>
              rw [readClassAux, hes]
              exact .none
          | @cons c ds ds' hds =>
              by_cases hopen : c = '['
              · subst hopen
                rw [readClassAux, readClassAux, hes, hes']
                have hascii := rel_readAsciiClass hds
                simp only
                generalize readAsciiClass ds = x, readAsciiClass ds' = y at hascii ⊢
                cases hascii with
                | some hitem =>
                    obtain ⟨item, hrest⟩ := hitem
                    exact ih hnm _ hrest
                | none =>
                    refine .bind (follows_readClassStart hds) ?_
                    rintro _ _ ⟨negated, items, hrest⟩
                    refine .bind (ih hnm _ hrest) ?_
                    rintro _ _ ⟨inner, hrest⟩
                    exact ih hnm _ hrest
              by_cases hclose : c = ']'
              · subst hclose
                rw [readClassAux, readClassAux, hes, hes']
                exact .some (.mk _ hds)
              by_cases hop : OpensOp c ds
              · obtain ⟨hc, hhead⟩ := hop
                rw [readClassAux, readClassAux, hes, hes']
                cases hds with
                | closing => cases hhead
                | lost => cases hhead
                | cons d hrest =>
                    cases hhead
                    rcases hc with rfl | rfl | rfl
                    all_goals exact ih hnm _ hrest
              · rw [readClassAux_range hes hopen hclose hop,
                  readClassAux_range hes' hopen hclose fun hop' => hop ((opensOp_iff c hds).1 hop')]
                refine .bind (follows_readClassRange (.cons c hds)) ?_
                rintro _ _ ⟨item, hrest⟩
                exact ih hnm _ hrest

theorem follows_readClass (h : Enclosed cs cs') :
    Follows Rest (readClass verbose cs) (readClass verbose cs') := by
  unfold readClass
  refine .bind (follows_readClassStart h) ?_
  rintro _ _ ⟨negated, items, hrest⟩
  refine .bind (follows_readClassAux (Nat.succ_le_succ hrest.length_le) _ hrest) ?_
  rintro _ _ ⟨s, hrest⟩
  exact .some (.mk _ hrest)

/-! ## Repetitions -/

theorem rest_digits (verbose : Bool) {n m : Nat} (h : Enclosed cs cs') (hn : cs.length ≤ n)
    (hm : cs'.length ≤ m) :
    Rest (readCount.digits verbose n cs) (readCount.digits verbose m cs') := by
  refine Enclosed.fuel_induction (P := fun n m cs cs' =>
    Rest (readCount.digits verbose n cs) (readCount.digits verbose m cs')) ?_ ?_ ?_ h hn hm
  · intro n m
    cases n <;> cases m <;> exact .mk _ .closing
  · intro n m
    cases n <;> cases m <;> exact .mk _ .lost
  · intro n m c ds ds' hds ih
    rw [readCount.digits, readCount.digits]
    split
    · have hrest := ih (hds.skip verbose) (length_skip_le verbose ds) (length_skip_le verbose ds')
      generalize readCount.digits verbose n _ = x, readCount.digits verbose m _ = y at hrest ⊢
      obtain ⟨digits, hrest⟩ := hrest
      exact .mk _ hrest
    · exact .mk _ (.cons c hds)

theorem rest_readCount (verbose : Bool) (h : Enclosed cs cs') :
    Rest (readCount verbose cs) (readCount verbose cs') := by
  have hle (cs : List Char) : (trimStart cs).length ≤ cs.length :=
    (List.dropWhile_suffix isBlank).length_le
  have hdigits := rest_digits verbose (h.dropWhile isBlank) (hle cs) (hle cs')
  unfold readCount
  unfold trimStart at hdigits ⊢
  generalize readCount.digits verbose _ (cs.dropWhile isBlank) = x,
    readCount.digits verbose _ (cs'.dropWhile isBlank) = y at hdigits ⊢
  obtain ⟨ds, hrest⟩ := hdigits
  dsimp only
  split
  · exact .mk _ (hrest.dropWhile isBlank)
  · exact .mk _ (hrest.dropWhile isBlank)

theorem follows_upperBound (verbose : Bool) (least : Nat) (h : Enclosed cs cs') :
    Follows Rest
      (do
        let (most, rest) := readCount verbose cs
        let most ← most
        let rest ← List.isPrefixOf? ['}'] rest
        if least ≤ most then return ((least, some most), rest) else none)
      (do
        let (most, rest) := readCount verbose cs'
        let most ← most
        let rest ← List.isPrefixOf? ['}'] rest
        if least ≤ most then return ((least, some most), rest) else none) := by
  have hcount := rest_readCount verbose h
  generalize readCount verbose cs = x, readCount verbose cs' = y at hcount ⊢
  obtain ⟨most, hrest⟩ := hcount
  refine .bind_same fun most => .bind (.of_rel (rel_isPrefixOf? ['}'] (by decide) hrest)) ?_
  intro rest rest' hrest
  split
  · exact .some (.mk _ hrest)
  · exact .none

theorem follows_readBounds (h : Enclosed cs cs') :
    Follows Rest (readBounds verbose cs) (readBounds verbose cs') := by
  have hskip := h.skip verbose
  unfold readBounds
  generalize skip verbose cs = ds, skip verbose cs' = ds' at hskip ⊢
  cases hskip with
  | closing | lost => exact .none
  | @cons c ds ds' hds =>
      have hcount := rest_readCount verbose (.cons c hds)
      simp only [List.cons_ne_nil, if_false]
      generalize readCount verbose (c :: ds) = x, readCount verbose (c :: ds') = y at hcount ⊢
      obtain ⟨least, hrest⟩ := hcount
      refine .bind_same fun least => ?_
      dsimp only at hrest ⊢
      cases hrest with
      | closing | lost => exact .none
      | @cons d es es' hes =>
          by_cases hcomma : d = ','
          · subst hcomma
            have hskip := hes.skip verbose
            simp only
            generalize skip verbose es = fs, skip verbose es' = fs' at hskip ⊢
            have hupper := follows_upperBound verbose least hskip
            cases hskip with
            | closing => exact hupper
            | lost => exact hupper
            | @cons k gs gs' hgs =>
                by_cases hk : k = '}'
                · subst hk
                  exact .some (.mk _ hgs)
                · have hleft := cons_ne hk gs
                  have hright := cons_ne hk gs'
                  simp only
                  exact hupper
          by_cases hclose : d = '}'
          · subst hclose
            exact .some (.mk _ hes)
          · have hleft := cons_ne hcomma es
            have hleft' := cons_ne hclose es
            simp only
            exact .none

theorem rest_readGreed (h : Enclosed cs cs') : Rest (readGreed cs) (readGreed cs') := by
  unfold readGreed
  cases h with
  | closing => exact .mk _ .closing
  | lost => exact .mk _ .lost
  | @cons c ds ds' hds =>
      by_cases hc : c = '?'
      · subst hc
        exact .mk _ hds
      · have hleft := cons_ne hc ds
        have hright := cons_ne hc ds'
        simp only
        exact .mk _ (.cons c hds)

end DocQuery.Pattern.Parser
