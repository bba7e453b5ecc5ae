import DocQuery.Catalog.Basic

/-! # When a request is served

A request is sent, then served at one moment, and then its answer may be held back until it leaves.
How a catalog changes in each of these phases is all that has to be known of it.
-/

namespace DocQuery.Catalog

variable {σ : Type}

/-- A catalog under which a request is sent, served and rests in the ways given: it is served on
arrival, or on departure. -/
def Phased (catalog : Catalog σ) (r : Request) (sends : σ → σ → Prop)
    (serves : Reply r → σ → σ → Prop) (rests : σ → σ → Prop) : Prop :=
  ∀ now s, let e := catalog.submit now r s
    match e.value with
    | .now reply => ∃ s', sends s s' ∧ serves reply s' e.state
    | .later _ finish =>
      (sends s e.state ∧ ∀ s', serves (finish s').value s' (finish s').state) ∨
      (∃ reply s', sends s s' ∧ serves reply s' e.state ∧
        ∀ s', (finish s').value = reply ∧ rests s' (finish s').state)

theorem Phased.mono {catalog : Catalog σ} {r : Request} {sends rests rests' : σ → σ → Prop}
    {serves serves' : Reply r → σ → σ → Prop} (h : Phased catalog r sends serves rests)
    (hserves : ∀ reply s s', serves reply s s' → serves' reply s s')
    (hrests : ∀ s s', rests s s' → rests' s s') : Phased catalog r sends serves' rests' := by
  intro now s
  have hp := h now s
  dsimp only at hp ⊢
  cases hv : (catalog.submit now r s).value with
  | now reply =>
      rw [hv] at hp
      obtain ⟨s', hs, hr⟩ := hp
      exact ⟨s', hs, hserves _ _ _ hr⟩
  | later ms finish =>
      rw [hv] at hp
      rcases hp with ⟨hs, hr⟩ | ⟨reply, s', hs, hr, hl⟩
      · exact Or.inl ⟨hs, fun s' => hserves _ _ _ (hr s')⟩
      · exact Or.inr ⟨reply, s', hs, hserves _ _ _ hr,
          fun s' => ⟨(hl s').1, hrests _ _ (hl s').2⟩⟩

/-- An answer that can be taken at its word: a record that was created has the id that was asked
for. -/
def Request.Sincere : (r : Request) → Reply r → Prop
  | .create _ f, .ok record => Record.id record = f.id
  | .create _ _, .error _ => True
  | .list _, _ => True
  | .delete _ _, _ => True

def Sincere (catalog : Catalog σ) : Prop :=
  ∀ now r s, match (catalog.submit now r s).value with
    | .now reply => r.Sincere reply
    | .later _ finish => ∀ s', r.Sincere (finish s').value

theorem Phased.sincere {catalog : Catalog σ} {sends rests : σ → σ → Prop}
    {serves : (r : Request) → Reply r → σ → σ → Prop}
    (h : ∀ r, Phased catalog r sends (serves r) rests)
    (hserves : ∀ r reply s s', serves r reply s s' → r.Sincere reply) : catalog.Sincere := by
  intro now r s
  have hp := h r now s
  dsimp only at hp ⊢
  cases hv : (catalog.submit now r s).value with
  | now reply =>
      rw [hv] at hp
      obtain ⟨s', -, hr⟩ := hp
      exact hserves r reply _ _ hr
  | later ms finish =>
      rw [hv] at hp
      intro s'
      rcases hp with ⟨-, hr⟩ | ⟨reply, s₁, -, hr, hl⟩
      · exact hserves r _ _ _ (hr s')
      · rw [(hl s').1]
        exact hserves r reply _ _ hr

/-- A catalog that keeps the requests sent to it, the newest in front. -/
def recorded (catalog : Catalog σ) : Catalog (σ × List Request) where
  name := catalog.name
  submit := fun now r s =>
    let e := catalog.submit now r s.1
    let receipt := match e.value with
      | .now reply => .now reply
      | .later delay finish =>
        .later delay fun s =>
          let e := finish s.1
          ⟨e.value, (e.state, s.2), e.events⟩
    ⟨receipt, (e.state, r :: s.2), e.events⟩

/-- Recording adds a request when it is sent, and changes nothing else. -/
theorem Phased.recorded {catalog : Catalog σ} {r : Request} {sends rests : σ → σ → Prop}
    {serves : Reply r → σ → σ → Prop} (h : Phased catalog r sends serves rests) :
    Phased catalog.recorded r (fun s s' => sends s.1 s'.1 ∧ s'.2 = r :: s.2)
      (fun reply s s' => serves reply s.1 s'.1 ∧ s'.2 = s.2)
      (fun s s' => rests s.1 s'.1 ∧ s'.2 = s.2) := by
  rintro now ⟨s, sent⟩
  have hp := h now s
  dsimp only [Catalog.recorded] at hp ⊢
  cases hv : (catalog.submit now r s).value with
  | now reply =>
      rw [hv] at hp
      obtain ⟨s', hs, hr⟩ := hp
      exact ⟨(s', r :: sent), ⟨hs, rfl⟩, hr, rfl⟩
  | later ms finish =>
      rw [hv] at hp
      rcases hp with ⟨hs, hr⟩ | ⟨reply, s', hs, hr, hl⟩
      · exact Or.inl ⟨⟨hs, rfl⟩, fun s' => ⟨hr s'.1, rfl⟩⟩
      · exact Or.inr ⟨reply, (s', r :: sent), ⟨hs, rfl⟩, ⟨hr, rfl⟩,
          fun s' => ⟨(hl s'.1).1, (hl s'.1).2, rfl⟩⟩

end DocQuery.Catalog
