import DocQuery.Proofs.Filter.Conversion
import DocQuery.Proofs.Json.Compact
import DocQuery.Proofs.Numeric.Doubles
import Mathlib.Data.List.Perm.Subperm

/-! # Equality of JSON values

On values without repeated keys equality is an equivalence, although the order of members does not
matter to it. Two values that are equal have the same compact text only if they are one value: their
members stand in the same order and their zeros have the same signs.
-/

namespace DocQuery

theorem Entries.get?_of_mem {κ α : Type} [DecidableEq κ] {es : Entries κ α} {p : κ × α}
    (h : es.keys.Nodup) (hp : p ∈ es) : es.get? p.1 = some p.2 := by
  induction es with
  | nil => cases hp
  | cons q es ih =>
      rw [keys_cons, List.nodup_cons] at h
      rcases List.mem_cons.1 hp with rfl | hp
      · exact if_pos rfl
      · have hne : q.1 ≠ p.1 := fun heq => h.1 (heq ▸ List.mem_map_of_mem hp)
        exact (if_neg hne).trans (ih h.2 hp)

theorem Entries.mem_keys_of_get? {κ α : Type} [DecidableEq κ] {es : Entries κ α} {key : κ} {v : α}
    (h : es.get? key = some v) : key ∈ es.keys :=
  List.mem_map_of_mem (mem_of_get? h)

namespace Json

open Numeric

theorem sameMembers_iff {as bs : List (String × Json)} :
    sameMembers as bs = true ↔
      ∀ m ∈ as, ∃ b, Entries.get? bs m.1 = some b ∧ m.2.same b = true := by
  induction as with
  | nil => simp [sameMembers]
  | cons m as ih =>
      obtain ⟨k, a⟩ := m
      rw [sameMembers, Bool.and_eq_true, ih, List.forall_mem_cons]
      refine and_congr_left fun _ => ?_
      cases Entries.get? bs k <;> simp

theorem sameAll_cons_iff {a b : Json} {as bs : List Json} :
    sameAll (a :: as) (b :: bs) = true ↔ a.same b = true ∧ sameAll as bs = true := by
  rw [sameAll, Bool.and_eq_true]

/-! ## What a value is equal to -/

theorem eq_null_of_same {b : Json} (h : null.same b = true) : b = .null := by
  cases b with
  | null => rfl
  | _ => cases h

theorem eq_bool_of_same {x : Bool} {b : Json} (h : (bool x).same b = true) : b = .bool x := by
  cases b with
  | bool y => rw [of_decide_eq_true h]
  | _ => cases h

theorem eq_str_of_same {s : String} {b : Json} (h : (str s).same b = true) : b = .str s := by
  cases b with
  | str t => rw [of_decide_eq_true h]
  | _ => cases h

theorem exists_of_same_num {n : Number} {b : Json} (h : (num n).same b = true) :
    ∃ m, b = .num m ∧ n.same m = true := by
  cases b with
  | num m => exact ⟨m, rfl, h⟩
  | _ => cases h

theorem exists_of_same_arr {as : List Json} {b : Json} (h : (arr as).same b = true) :
    ∃ bs, b = .arr bs ∧ sameAll as bs = true := by
  cases b with
  | arr bs => exact ⟨bs, rfl, h⟩
  | _ => cases h

theorem same_obj_iff {as bs : List (String × Json)} :
    (obj as).same (obj bs) = true ↔ as.length = bs.length ∧ sameMembers as bs = true := by
  rw [same, Bool.and_eq_true, decide_eq_true_eq]

theorem exists_of_same_obj {as : List (String × Json)} {b : Json} (h : (obj as).same b = true) :
    ∃ bs, b = .obj bs ∧ as.length = bs.length ∧ sameMembers as bs = true := by
  cases b with
  | obj bs => exact ⟨bs, rfl, same_obj_iff.1 h⟩
  | _ => cases h

/-! ## An equivalence -/

theorem Number.same_self (n : Number) : n.same n = true := by
  cases n with
  | int n => exact decide_eq_true rfl
  | float x => exact Binary64.numEq_self_of_isFinite x.finite

theorem Number.same_comm (m n : Number) : m.same n = n.same m := by
  cases m <;> cases n <;> simp only [Number.same, Binary64.numEq_comm, eq_comm]

theorem Number.same_trans {m n k : Number} (hmn : m.same n = true) (hnk : n.same k = true) :
    m.same k = true := by
  cases m <;> cases n <;> cases k <;> simp only [Number.same, Bool.false_eq_true] at hmn hnk ⊢
  · exact decide_eq_true ((of_decide_eq_true hmn).trans (of_decide_eq_true hnk))
  · exact Binary64.numEq_trans hmn hnk

theorem sameAll_self {as : List Json} (h : ∀ a ∈ as, a.same a = true) : sameAll as as = true := by
  induction as with
  | nil => rfl
  | cons a as ih =>
      obtain ⟨ha, has⟩ := List.forall_mem_cons.1 h
      exact sameAll_cons_iff.2 ⟨ha, ih has⟩

theorem same_self {a : Json} (h : a.DistinctKeys) : a.same a = true := by
  induction h with
  | null => rfl
  | bool b => exact decide_eq_true rfl
  | num n => exact n.same_self
  | str s => exact decide_eq_true rfl
  | arr h ih => exact sameAll_self ih
  | obj hkeys h ih =>
      rw [same_obj_iff, sameMembers_iff]
      exact ⟨rfl, fun m hm => ⟨m.2, Entries.get?_of_mem hkeys hm, ih m hm⟩⟩

theorem sameAll_symm {as bs : List Json}
    (hsymm : ∀ a ∈ as, ∀ b ∈ bs, a.same b = true → b.same a = true)
    (h : sameAll as bs = true) : sameAll bs as = true := by
  induction as generalizing bs with
  | nil =>
      cases bs with
      | nil => exact h
      | cons b bs => cases h
  | cons a as ih =>
      cases bs with
      | nil => cases h
      | cons b bs =>
          rw [sameAll_cons_iff] at h ⊢
          have hrest := fun a' ha' b' hb' => hsymm a' (.tail a ha') b' (.tail b hb')
          exact ⟨hsymm a (.head as) b (.head bs) h.1, ih hrest h.2⟩

/-- Members that each have an equal one in a list of the same length are all there is in it. -/
theorem sameMembers_symm {as bs : List (String × Json)} (has : (Entries.keys as).Nodup)
    (hbs : (Entries.keys bs).Nodup) (hlen : as.length = bs.length)
    (hsymm : ∀ m ∈ as, ∀ b, (m.1, b) ∈ bs → m.2.same b = true → b.same m.2 = true)
    (h : sameMembers as bs = true) : sameMembers bs as = true := by
  rw [sameMembers_iff] at h ⊢
  have hsubset : Entries.keys as ⊆ Entries.keys bs := by
    intro k hk
    obtain ⟨m, hm, rfl⟩ := List.mem_map.1 hk
    obtain ⟨b, hb, -⟩ := h m hm
    exact Entries.mem_keys_of_get? hb
  have hperm : (Entries.keys as).Perm (Entries.keys bs) := by
    refine (has.subperm hsubset).perm_of_length_le ?_
    simp [Entries.keys, hlen]
  intro n hn
  obtain ⟨m, hm, hkey⟩ := List.mem_map.1 (hperm.mem_iff.2 (List.mem_map_of_mem hn))
  obtain ⟨b, hb, hsame⟩ := h m hm
  have hn' := Entries.get?_of_mem hbs hn
  rw [← hkey, hb] at hn'
  obtain rfl := Option.some.inj hn'
  refine ⟨m.2, ?_, hsymm m hm n.2 (hkey ▸ hn) hsame⟩
  rw [← hkey]
  exact Entries.get?_of_mem has hm

theorem same_symm {a b : Json} (ha : a.DistinctKeys) (hb : b.DistinctKeys)
    (h : a.same b = true) : b.same a = true := by
  induction ha generalizing b with
  | null =>
      obtain rfl := eq_null_of_same h
      exact h
  | bool x =>
      obtain rfl := eq_bool_of_same h
      exact h
  | num n =>
      obtain ⟨m, rfl, hnm⟩ := exists_of_same_num h
      rw [Number.same_comm] at hnm
      exact hnm
  | str s =>
      obtain rfl := eq_str_of_same h
      exact h
  | arr _ ih =>
      obtain ⟨bs, rfl, hsame⟩ := exists_of_same_arr h
      cases hb with
      | arr hbs => exact sameAll_symm (fun a ha b hb => ih a ha (hbs b hb)) hsame
  | obj hkeys _ ih =>
      obtain ⟨bs, rfl, hlen, hsame⟩ := exists_of_same_obj h
      cases hb with
      | obj hkeys' hbs =>
          refine same_obj_iff.2 ⟨hlen.symm, sameMembers_symm hkeys hkeys' hlen ?_ hsame⟩
          exact fun m hm b hb hsame => ih m hm (hbs _ hb) hsame

theorem sameAll_trans {as bs cs : List Json}
    (htrans : ∀ a ∈ as, ∀ b c, a.same b = true → b.same c = true → a.same c = true)
    (hab : sameAll as bs = true) (hbc : sameAll bs cs = true) : sameAll as cs = true := by
  induction as generalizing bs cs with
  | nil =>
      cases bs with
      | nil => exact hbc
      | cons b bs => cases hab
  | cons a as ih =>
      cases bs with
      | nil => cases hab
      | cons b bs =>
          cases cs with
          | nil => cases hbc
          | cons c cs =>
              rw [sameAll_cons_iff] at hab hbc ⊢
              have hrest := fun a' ha' => htrans a' (.tail a ha')
              exact ⟨htrans a (.head as) b c hab.1 hbc.1, ih hrest hab.2 hbc.2⟩

theorem same_trans {a b c : Json} (hab : a.same b = true) (hbc : b.same c = true) :
    a.same c = true := by
  induction a using induction_mem generalizing b c with
  | null =>
      obtain rfl := eq_null_of_same hab
      exact hbc
  | bool x =>
      obtain rfl := eq_bool_of_same hab
      exact hbc
  | num n =>
      obtain ⟨m, rfl, hnm⟩ := exists_of_same_num hab
      obtain ⟨k, rfl, hmk⟩ := exists_of_same_num hbc
      exact Number.same_trans hnm hmk
  | str s =>
      obtain rfl := eq_str_of_same hab
      exact hbc
  | arr as ih =>
      obtain ⟨bs, rfl, hab⟩ := exists_of_same_arr hab
      obtain ⟨cs, rfl, hbc⟩ := exists_of_same_arr hbc
      exact sameAll_trans (fun a ha b c => ih a ha) hab hbc
  | obj as ih =>
      obtain ⟨bs, rfl, hlen, hab⟩ := exists_of_same_obj hab
      obtain ⟨cs, rfl, hlen', hbc⟩ := exists_of_same_obj hbc
      rw [sameMembers_iff] at hab hbc
      refine same_obj_iff.2 ⟨hlen.trans hlen', sameMembers_iff.2 fun m hm => ?_⟩
      obtain ⟨b, hb, hmb⟩ := hab m hm
      obtain ⟨c, hc, hbc⟩ := hbc _ (Entries.mem_of_get? hb)
      exact ⟨c, hc, ih m hm hmb hbc⟩

/-! ## Equal values with the same text -/

theorem chars_append_inj {a b : Json} {r r' : List Char} (hr : Stops r) (hr' : Stops r')
    (h : a.chars ++ r = b.chars ++ r') : a.chars = b.chars ∧ r = r' := by
  have ha := (selfDelimiting a r hr).scan
  have hb := (selfDelimiting b r' hr').scan
  rw [h, hb] at ha
  obtain rfl := Option.some.inj ha
  exact ⟨List.append_cancel_right h, rfl⟩

theorem quotedChars_append_inj {s t : String} {r r' : List Char}
    (h : quotedChars s ++ r = quotedChars t ++ r') : s = t ∧ r = r' := by
  rw [quotedChars_append, quotedChars_append] at h
  have hs := readString_quoted s r
  rw [(List.cons.inj h).2, readString_quoted] at hs
  obtain ⟨rfl, rfl⟩ := Prod.mk.inj (Option.some.inj hs)
  exact ⟨rfl, rfl⟩

theorem Number.eq_of_chars_eq {m n : Number} (h : m.same n = true) (hchars : m.chars = n.chars) :
    m = n := by
  cases m with
  | int m =>
      cases n with
      | int n => exact congrArg Number.int (of_decide_eq_true h)
      | float y => cases h
  | float x =>
      cases n with
      | int n => cases h
      | float y =>
          obtain ⟨x, hx⟩ := x
          obtain ⟨y, hy⟩ := y
          have hsign : x.negative = y.negative := by
            obtain ⟨-, -, rfl | ⟨hxzero, hyzero⟩⟩ := Binary64.numEq_iff.1 h
            · rfl
            · -- The texts of the two zeros differ by the hyphen only.
              simp only [Number.chars, Style.writeBinary64, Style.write, Binary64.shortest, hxzero,
                hyzero, if_true] at hchars
              have hlen := congrArg List.length hchars
              cases hxs : x.negative <;> cases hys : y.negative <;> simp_all
          obtain rfl := Binary64.eq_of_numEq h hsign
          rfl

theorem elementChars_cons (e : Json) {es : List Json} (h : es ≠ []) :
    elementChars (e :: es) = e.chars ++ ',' :: elementChars es := by
  cases es with
  | nil => exact absurd rfl h
  | cons f fs =>
      rw [elementChars]
      simp

theorem memberChars_cons (k : String) (v : Json) {ms : List (String × Json)} (h : ms ≠ []) :
    memberChars ((k, v) :: ms) = quotedChars k ++ ':' :: (v.chars ++ ',' :: memberChars ms) := by
  cases ms with
  | nil => exact absurd rfl h
  | cons m ms =>
      rw [memberChars]
      simp

theorem elements_eq_of_chars_eq {es es' : List Json}
    (ih : ∀ e ∈ es, ∀ e', e.same e' = true → e.chars = e'.chars → e = e')
    (h : sameAll es es' = true) (hchars : elementChars es = elementChars es') : es = es' := by
  induction es generalizing es' with
  | nil =>
      cases es' with
      | nil => rfl
      | cons e' es' => cases h
  | cons e es step =>
      cases es' with
      | nil => cases h
      | cons e' es' =>
          rw [sameAll_cons_iff] at h
          have hparts : e.chars = e'.chars ∧ elementChars es = elementChars es' := by
            cases es with
            | nil =>
                cases es' with
                | nil => exact ⟨hchars, rfl⟩
                | cons _ _ => cases h.2
            | cons f fs =>
                cases es' with
                | nil => cases h.2
                | cons f' fs' =>
                    rw [elementChars_cons e (List.cons_ne_nil f fs),
                      elementChars_cons e' (List.cons_ne_nil f' fs')] at hchars
                    have hinj := chars_append_inj (stops_cons (by simp) _)
                      (stops_cons (by simp) _) hchars
                    exact ⟨hinj.1, (List.cons.inj hinj.2).2⟩
          obtain rfl := ih e (.head es) e' h.1 hparts.1
          rw [step (fun e he => ih e (.tail _ he)) h.2 hparts.2]

theorem memberChars_cons_inj {k k' : String} {v v' : Json} {ms ms' : List (String × Json)}
    (hlen : ms.length = ms'.length)
    (h : memberChars ((k, v) :: ms) = memberChars ((k', v') :: ms')) :
    k = k' ∧ v.chars = v'.chars ∧ memberChars ms = memberChars ms' := by
  by_cases hms : ms = []
  · obtain rfl : ms' = [] := List.eq_nil_of_length_eq_zero (by simp [← hlen, hms])
    subst hms
    obtain ⟨rfl, hvalue⟩ := quotedChars_append_inj h
    exact ⟨rfl, (List.cons.inj hvalue).2, rfl⟩
  · have hms' : ms' ≠ [] := by
      rintro rfl
      exact hms (List.eq_nil_of_length_eq_zero hlen)
    rw [memberChars_cons k v hms, memberChars_cons k' v' hms'] at h
    obtain ⟨rfl, hvalue⟩ := quotedChars_append_inj h
    have hinj := chars_append_inj (stops_cons (by simp) _) (stops_cons (by simp) _)
      (List.cons.inj hvalue).2
    exact ⟨rfl, hinj.1, (List.cons.inj hinj.2).2⟩

/-- The other members have other keys, so that they are looked up behind the first. -/
theorem sameMembers_of_cons {k : String} {v v' : Json} {ms ms' : List (String × Json)}
    (hk : k ∉ Entries.keys ms) (h : sameMembers ((k, v) :: ms) ((k, v') :: ms') = true) :
    v.same v' = true ∧ sameMembers ms ms' = true := by
  rw [sameMembers_iff, List.forall_mem_cons] at h
  obtain ⟨⟨w, hw, hsame⟩, hmembers⟩ := h
  obtain rfl : v' = w := by simpa [Entries.get?] using hw
  refine ⟨hsame, sameMembers_iff.2 fun m hm => ?_⟩
  obtain ⟨w, hw, hsame⟩ := hmembers m hm
  have hne : k ≠ m.1 := by
    rintro rfl
    have hmem : m.1 ∈ Entries.keys ms := List.mem_map_of_mem hm
    exact hk hmem
  rw [Entries.get?, if_neg hne] at hw
  exact ⟨w, hw, hsame⟩

theorem members_eq_of_chars_eq {ms ms' : List (String × Json)} (hkeys : (Entries.keys ms).Nodup)
    (ih : ∀ m ∈ ms, ∀ v, m.2.same v = true → m.2.chars = v.chars → m.2 = v)
    (hlen : ms.length = ms'.length) (h : sameMembers ms ms' = true)
    (hchars : memberChars ms = memberChars ms') : ms = ms' := by
  induction ms generalizing ms' with
  | nil => exact (List.eq_nil_of_length_eq_zero hlen.symm).symm
  | cons m ms step =>
      obtain ⟨k, v⟩ := m
      cases ms' with
      | nil => cases hlen
      | cons m' ms' =>
          obtain ⟨k', v'⟩ := m'
          have hlen' : ms.length = ms'.length := Nat.succ.inj hlen
          rw [Entries.keys_cons, List.nodup_cons] at hkeys
          obtain ⟨rfl, hvalue, hrest⟩ := memberChars_cons_inj hlen' hchars
          obtain ⟨hsame, htail⟩ := sameMembers_of_cons hkeys.1 h
          obtain rfl : v = v' := ih (k, v) (.head ms) v' hsame hvalue
          rw [step hkeys.2 (fun m hm => ih m (.tail _ hm)) hlen' htail hrest]

theorem eq_of_chars_eq {a b : Json} (ha : a.DistinctKeys) (h : a.same b = true)
    (hchars : a.chars = b.chars) : a = b := by
  induction ha generalizing b with
  | null => exact (eq_null_of_same h).symm
  | bool x => exact (eq_bool_of_same h).symm
  | num n =>
      obtain ⟨m, rfl, hnm⟩ := exists_of_same_num h
      rw [chars, chars] at hchars
      exact congrArg Json.num (Number.eq_of_chars_eq hnm hchars)
  | str s => exact (eq_str_of_same h).symm
  | arr _ ih =>
      obtain ⟨bs, rfl, hsame⟩ := exists_of_same_arr h
      rw [chars, chars] at hchars
      have helements := List.append_cancel_right (List.cons.inj hchars).2
      exact congrArg Json.arr (elements_eq_of_chars_eq (fun e he b => ih e he) hsame helements)
  | obj hkeys _ ih =>
      obtain ⟨bs, rfl, hlen, hsame⟩ := exists_of_same_obj h
      rw [chars, chars] at hchars
      have hmembers := List.append_cancel_right (List.cons.inj hchars).2
      exact congrArg Json.obj
        (members_eq_of_chars_eq hkeys (fun m hm b => ih m hm) hlen hsame hmembers)

end Json
end DocQuery
