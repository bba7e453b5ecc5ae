import DocQuery.Proofs.Settings.Texts

/-! # Settings from variables

Reading settings succeeds exactly if every variable that is set has an acceptable text, and then
each field has the value of its variable, or the default. Otherwise the first variable with an
unacceptable text is named, and none behind it is looked up. So settings that have been written are
read back.
-/

namespace DocQuery.Settings

open Text

namespace Variable

def Value : Variable → Type
  | .createConcurrency => UInt64
  | .recoverConflicts => Bool
  | .retryAttempts => UInt64
  | .retryBaseDelay => UInt64
  | .retryMaxDelay => UInt64

def Denotes : (v : Variable) → String → v.Value → Prop
  | .createConcurrency, text, n => IsNumber text n ∧ n ≠ (0 : UInt64)
  | .recoverConflicts, text, b => IsBoolean text b
  | .retryAttempts, text, n => IsNumber text n
  | .retryBaseDelay, text, n => IsNumber text n
  | .retryMaxDelay, text, n => IsNumber text n

def Accepts (v : Variable) (text : String) : Prop := ∃ x, v.Denotes text x

/-- A variable that is not set, or has a text that it may have. -/
def Acceptable (lookup : String → Option String) (v : Variable) : Prop :=
  ∀ text, lookup v.name = some text → v.Accepts text

def write : (v : Variable) → v.Value → List Char
  | .createConcurrency, n => decimalChars (UInt64.toNat n)
  | .recoverConflicts, b => booleanChars b
  | .retryAttempts, n => decimalChars (UInt64.toNat n)
  | .retryBaseDelay, n => decimalChars (UInt64.toNat n)
  | .retryMaxDelay, n => decimalChars (UInt64.toNat n)

theorem nodup_all : all.Nodup := by decide

theorem mem_all (v : Variable) : v ∈ all := by
  cases v <;> decide

end Variable

def field (s : Settings) : (v : Variable) → v.Value
  | .createConcurrency => s.createConcurrency
  | .recoverConflicts => s.recoverConflicts
  | .retryAttempts => s.retryAttempts
  | .retryBaseDelay => s.retryBaseDelay
  | .retryMaxDelay => s.retryMaxDelay

def setField (s : Settings) : (v : Variable) → v.Value → Settings
  | .createConcurrency, n => { s with createConcurrency := n }
  | .recoverConflicts, b => { s with recoverConflicts := b }
  | .retryAttempts, n => { s with retryAttempts := n }
  | .retryBaseDelay, n => { s with retryBaseDelay := n }
  | .retryMaxDelay, n => { s with retryMaxDelay := n }

theorem ext_field {s s' : Settings} (h : ∀ v, s.field v = s'.field v) : s = s' := by
  have h₁ := h .createConcurrency
  have h₂ := h .recoverConflicts
  have h₃ := h .retryAttempts
  have h₄ := h .retryBaseDelay
  have h₅ := h .retryMaxDelay
  cases s
  cases s'
  simp only [field] at h₁ h₂ h₃ h₄ h₅
  rw [h₁, h₂, h₃, h₄, h₅]

theorem field_setField (s : Settings) (v : Variable) (x : v.Value) :
    (s.setField v x).field v = x := by
  cases v <;> rfl

theorem field_setField_of_ne (s : Settings) {v w : Variable} (x : v.Value) (h : w ≠ v) :
    (s.setField v x).field w = s.field w := by
  cases v <;> cases w <;> first | rfl | exact absurd rfl h

/-! ## One variable -/

theorem bind_eq_ok {α : Type} {x : Except Reason α} {f : α → Except Reason Settings}
    {s : Settings} : (x >>= f) = .ok s ↔ ∃ a, x = .ok a ∧ f a = .ok s := by
  cases x with
  | error reason => simp [bind, Except.bind]
  | ok a => simp [bind, Except.bind]

theorem assign_number {f : UInt64 → Settings} {s : Settings} {text : String} :
    (number text >>= fun n => pure (f n)) = .ok s ↔ ∃ n, IsNumber text n ∧ s = f n := by
  simp only [bind_eq_ok, number_eq_ok, pure, Except.pure, Except.ok.injEq, @eq_comm _ s]

theorem assign_boolean {f : Bool → Settings} {s : Settings} {text : String} :
    (boolean text >>= fun b => pure (f b)) = .ok s ↔ ∃ b, IsBoolean text b ∧ s = f b := by
  simp only [bind_eq_ok, boolean_eq_ok, pure, Except.pure, Except.ok.injEq, @eq_comm _ s]

theorem assign_positive {f : UInt64 → Settings} {s : Settings} {text : String} :
    (number text >>= fun n => if n = 0 then .error .belowOne else pure (f n)) = .ok s ↔
      ∃ n, (IsNumber text n ∧ n ≠ 0) ∧ s = f n := by
  have hpositive : ∀ n : UInt64,
      (if n = 0 then .error .belowOne else pure (f n) : Except Reason Settings) = .ok s ↔
        n ≠ 0 ∧ s = f n := by
    intro n
    by_cases hn : n = 0
    · simp [hn]
    · simp [hn, pure, Except.pure, eq_comm]
  simp only [bind_eq_ok, number_eq_ok, hpositive, and_assoc]

/-- A text is assigned exactly if it stands for a value, and then that value is set. -/
theorem assign_eq_ok {s s' : Settings} {v : Variable} {text : String} :
    s.assign v text = .ok s' ↔ ∃ x, v.Denotes text x ∧ s' = s.setField v x := by
  cases v with
  | createConcurrency => exact assign_positive (f := fun n => { s with createConcurrency := n })
  | recoverConflicts => exact assign_boolean (f := fun b => { s with recoverConflicts := b })
  | retryAttempts => exact assign_number (f := fun n => { s with retryAttempts := n })
  | retryBaseDelay => exact assign_number (f := fun n => { s with retryBaseDelay := n })
  | retryMaxDelay => exact assign_number (f := fun n => { s with retryMaxDelay := n })

theorem accepts_iff {s : Settings} {v : Variable} {text : String} :
    v.Accepts text ↔ ∃ s', s.assign v text = .ok s' := by
  constructor
  · rintro ⟨x, hx⟩
    exact ⟨_, assign_eq_ok.2 ⟨x, hx, rfl⟩⟩
  · rintro ⟨s', hs⟩
    obtain ⟨x, hx, -⟩ := assign_eq_ok.1 hs
    exact ⟨x, hx⟩

theorem denotes_unique {v : Variable} {text : String} {x y : v.Value} (hx : v.Denotes text x)
    (hy : v.Denotes text y) : x = y := by
  let s : Settings := default
  have hxs : s.assign v text = .ok (s.setField v x) := assign_eq_ok.2 ⟨x, hx, rfl⟩
  have hys : s.assign v text = .ok (s.setField v y) := assign_eq_ok.2 ⟨y, hy, rfl⟩
  have hsame := Except.ok.inj (hxs.symm.trans hys)
  rw [← field_setField s v x, hsame, field_setField]

theorem denotes_write {s : Settings} (hs : 1 ≤ s.createConcurrency) {v : Variable} {text : String}
    (h : Padded (v.write (s.field v)) text.toList) : v.Denotes text (s.field v) := by
  cases v with
  | createConcurrency =>
      refine ⟨isNumber_decimal h, fun hzero => ?_⟩
      simp only [field] at hzero
      rw [hzero] at hs
      exact absurd hs (by decide)
  | recoverConflicts => exact isBoolean_word h
  | retryAttempts => exact isNumber_decimal h
  | retryBaseDelay => exact isNumber_decimal h
  | retryMaxDelay => exact isNumber_decimal h

/-! ## All variables -/

/-- A field has the value of its variable, or stays as it was. -/
def Takes (lookup : String → Option String) (v : Variable) (before after : v.Value) : Prop :=
  (lookup v.name = none ∧ after = before) ∨ ∃ text, lookup v.name = some text ∧ v.Denotes text after

variable {lookup : String → Option String}

section

variable {v : Variable} {s s₁ : Settings} {text : String}

theorem run_of_unset (hl : lookup v.name = none) (vs : List Variable) (asked : List String) :
    (readVariables (watched lookup) (v :: vs) s).run asked =
      (readVariables (watched lookup) vs s).run (v.name :: asked) := by
  simp [readVariables, watched, hl]

theorem run_of_assigned (hl : lookup v.name = some text) (ha : s.assign v text = .ok s₁)
    (vs : List Variable) (asked : List String) :
    (readVariables (watched lookup) (v :: vs) s).run asked =
      (readVariables (watched lookup) vs s₁).run (v.name :: asked) := by
  simp [readVariables, watched, hl, ha]

theorem run_of_refused {reason : Reason} (hl : lookup v.name = some text)
    (ha : s.assign v text = .error reason) (vs : List Variable) (asked : List String) :
    (readVariables (watched lookup) (v :: vs) s).run asked =
      pure (.error ⟨v, text, reason⟩, v.name :: asked) := by
  simp [readVariables, watched, hl, ha]

end

/-- Watching a lookup does not change what is read. -/
theorem run_readVariables_fst (lookup : String → Option String) (vs : List Variable) (s : Settings)
    (asked : List String) :
    ((readVariables (watched lookup) vs s).run asked).1 =
      Id.run (readVariables (fun name => pure (lookup name)) vs s) := by
  induction vs generalizing s asked with
  | nil => rfl
  | cons v vs ih =>
      conv => rhs; rw [readVariables]
      cases hl : lookup v.name with
      | none =>
          rw [run_of_unset hl, ih]
          rfl
      | some text =>
          cases ha : s.assign v text with
          | ok s₁ =>
              rw [run_of_assigned hl ha, ih]
              simp [ha]
          | error reason =>
              rw [run_of_refused hl ha]
              simp only [pure_bind, ha]
              rfl

/-- The variables are read one and all: their fields have their values, and no other field is
touched. -/
structure ReadsAll (lookup : String → Option String) (vs : List Variable) (s s' : Settings) :
    Prop where
  acceptable : ∀ v ∈ vs, v.Acceptable lookup
  takes : ∀ v ∈ vs, Takes lookup v (s.field v) (s'.field v)
  keeps : ∀ v, v ∉ vs → s'.field v = s.field v

/-- Reading ends at the first variable with an unacceptable text, behind those of `before`. -/
structure StopsAt (lookup : String → Option String) (vs before : List Variable) (e : Error) :
    Prop where
  split : ∃ after, vs = before ++ e.key :: after
  text_eq : lookup e.key.name = some e.text
  refused : ¬e.key.Accepts e.text
  passed : ∀ v ∈ before, v.Acceptable lookup

theorem ReadsAll.cons {v : Variable} {vs : List Variable} {s s₁ s' : Settings}
    (h : ReadsAll lookup vs s₁ s') (hv : v ∉ vs) (haccept : v.Acceptable lookup)
    (htakes : Takes lookup v (s.field v) (s₁.field v))
    (hkeeps : ∀ w, w ≠ v → s₁.field w = s.field w) : ReadsAll lookup (v :: vs) s s' where
  acceptable := by
    intro w hw
    rcases List.mem_cons.1 hw with rfl | hw
    · exact haccept
    · exact h.acceptable w hw
  takes := by
    intro w hw
    rcases List.mem_cons.1 hw with rfl | hw
    · rwa [h.keeps w hv]
    · have hne : w ≠ v := fun he => hv (he ▸ hw)
      rw [← hkeeps w hne]
      exact h.takes w hw
  keeps := by
    intro w hw
    obtain ⟨hne, hw⟩ := not_or.1 (mt List.mem_cons.2 hw)
    rw [h.keeps w hw, hkeeps w hne]

theorem StopsAt.cons {v : Variable} {vs before : List Variable} {e : Error}
    (h : StopsAt lookup vs before e) (haccept : v.Acceptable lookup) :
    StopsAt lookup (v :: vs) (v :: before) e where
  split := by
    obtain ⟨after, hafter⟩ := h.split
    exact ⟨after, by rw [hafter]; rfl⟩
  text_eq := h.text_eq
  refused := h.refused
  passed := by
    intro w hw
    rcases List.mem_cons.1 hw with rfl | hw
    · exact haccept
    · exact h.passed w hw

/-- How reading ends, and with which names asked for, the newest in front. -/
inductive Ends (lookup : String → Option String) (vs : List Variable) (s : Settings)
    (asked : List String) : Except Error Settings × List String → Prop where
  | readsAll {s' : Settings} (h : ReadsAll lookup vs s s') :
      Ends lookup vs s asked (.ok s', (vs.map (·.name)).reverse ++ asked)
  | stopsAt {before : List Variable} {e : Error} (h : StopsAt lookup vs before e) :
      Ends lookup vs s asked (.error e, ((before ++ [e.key]).map (·.name)).reverse ++ asked)

theorem Ends.cons {v : Variable} {vs : List Variable} {s s₁ : Settings} {asked : List String}
    {result : Except Error Settings × List String}
    (h : Ends lookup vs s₁ (v.name :: asked) result) (hv : v ∉ vs)
    (haccept : v.Acceptable lookup) (htakes : Takes lookup v (s.field v) (s₁.field v))
    (hkeeps : ∀ w, w ≠ v → s₁.field w = s.field w) : Ends lookup (v :: vs) s asked result := by
  cases h with
  | readsAll h => simpa using Ends.readsAll (h.cons hv haccept htakes hkeeps)
  | stopsAt h => simpa using Ends.stopsAt (h.cons haccept)

theorem ends_readVariables (lookup : String → Option String) {vs : List Variable} (hvs : vs.Nodup)
    (s : Settings) (asked : List String) :
    Ends lookup vs s asked ((readVariables (watched lookup) vs s).run asked) := by
  induction vs generalizing s asked with
  | nil => exact .readsAll ⟨by simp, by simp, fun _ _ => rfl⟩
  | cons v vs ih =>
      obtain ⟨hv, hvs⟩ := List.nodup_cons.1 hvs
      cases hl : lookup v.name with
      | none =>
          rw [run_of_unset hl]
          refine (ih hvs s _).cons hv (fun text ht => ?_) (Or.inl ⟨hl, rfl⟩) fun _ _ => rfl
          rw [hl] at ht
          cases ht
      | some text =>
          cases ha : s.assign v text with
          | ok s₁ =>
              rw [run_of_assigned hl ha]
              obtain ⟨x, hx, rfl⟩ := assign_eq_ok.1 ha
              refine (ih hvs _ _).cons hv (fun text' ht => ?_) (Or.inr ⟨text, hl, ?_⟩)
                fun w hw => ?_
              · obtain rfl := Option.some.inj (hl.symm.trans ht)
                exact ⟨x, hx⟩
              · rwa [field_setField]
              · exact field_setField_of_ne s x hw
          | error reason =>
              rw [run_of_refused hl ha]
              have hrefused : ¬v.Accepts text := fun haccept => by
                obtain ⟨s', hs⟩ := (accepts_iff (s := s)).1 haccept
                rw [ha] at hs
                cases hs
              have hstops : StopsAt lookup (v :: vs) [] ⟨v, text, reason⟩ :=
                ⟨⟨vs, rfl⟩, hl, hrefused, by simp⟩
              exact .stopsAt hstops

structure Reads (lookup : String → Option String) (result : Except Error Settings)
    (asked : List String) : Prop where
  ok_iff : (∃ s, result = .ok s) ↔ ∀ v : Variable, v.Acceptable lookup
  ok : ∀ s, result = .ok s →
    (∀ v, Takes lookup v ((default : Settings).field v) (s.field v)) ∧
      asked = Variable.all.map (·.name)
  error : ∀ e, result = .error e →
    ∃ before, StopsAt lookup Variable.all before e ∧ asked = (before ++ [e.key]).map (·.name)

theorem Ends.reads {result : Except Error Settings} {asked : List String}
    (h : Ends lookup Variable.all default [] (result, asked)) :
    Reads lookup result asked.reverse := by
  generalize hpair : (result, asked) = pair at h
  cases h with
  | readsAll h =>
      obtain ⟨rfl, rfl⟩ := Prod.mk.inj hpair
      constructor
      · exact ⟨fun _ v => h.acceptable v v.mem_all, fun _ => ⟨_, rfl⟩⟩
      · rintro s ⟨rfl⟩
        exact ⟨fun v => h.takes v v.mem_all, by simp⟩
      · intro e he
        cases he
  | stopsAt h =>
      obtain ⟨rfl, rfl⟩ := Prod.mk.inj hpair
      constructor
      · constructor
        · rintro ⟨s, hs⟩
          cases hs
        · exact fun hall => absurd (hall _ _ h.text_eq) h.refused
      · intro s hs
        cases hs
      · rintro e ⟨rfl⟩
        exact ⟨_, h, by simp⟩

theorem eq_of_takes {s s' d : Settings} (h : ∀ v, Takes lookup v (d.field v) (s.field v))
    (hset : ∀ v : Variable, ∃ text, lookup v.name = some text ∧ v.Denotes text (s'.field v)) :
    s = s' := by
  refine ext_field fun v => ?_
  obtain ⟨text, hl, hdenotes⟩ := hset v
  rcases h v with ⟨hnone, -⟩ | ⟨text', hl', hdenotes'⟩
  · rw [hl] at hnone
    cases hnone
  · obtain rfl := Option.some.inj (hl.symm.trans hl')
    exact denotes_unique hdenotes' hdenotes

/-- Settings are read exactly if every variable that is set has an acceptable text, and then each
field has the value of its variable or the default; otherwise the first variable with an
unacceptable text is named with that text, and none behind it is looked up. So settings that are
written with any blanks around them are read back. -/
theorem settings_read_exactly (lookup : String → Option String) :
    ∃ result asked, ofWatched lookup = (result, asked) ∧
      Id.run (ofLookup fun name => pure (lookup name)) = result ∧ Reads lookup result asked ∧
      ∀ s : Settings, 1 ≤ s.createConcurrency →
        (∀ v : Variable, ∃ text, lookup v.name = some text ∧
          Padded (v.write (s.field v)) text.toList) →
        result = .ok s := by
  have hends := ends_readVariables lookup Variable.nodup_all default []
  have hreads := hends.reads
  refine ⟨_, _, rfl, (run_readVariables_fst lookup Variable.all default []).symm, hreads, ?_⟩
  intro s hs hwritten
  have hset : ∀ v : Variable, ∃ text, lookup v.name = some text ∧ v.Denotes text (s.field v) := by
    intro v
    obtain ⟨text, hl, hpadded⟩ := hwritten v
    exact ⟨text, hl, denotes_write hs hpadded⟩
  obtain ⟨s', hs'⟩ := hreads.ok_iff.2 fun v text hl => by
    obtain ⟨text', hl', hdenotes⟩ := hset v
    obtain rfl := Option.some.inj (hl.symm.trans hl')
    exact ⟨_, hdenotes⟩
  rw [← eq_of_takes (hreads.ok s' hs').1 hset]
  exact hs'

end DocQuery.Settings
