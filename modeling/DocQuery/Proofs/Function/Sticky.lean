import DocQuery.Function.Evaluate
import DocQuery.Proofs.Pattern.Anchored
import DocQuery.Proofs.Pattern.Matching
import DocQuery.Value.Basic

/-! # Matches that are tied to the start of a text

The letter `y` puts the source of a pattern into a group behind the mark for the start of the text.
For a source that is a pattern by itself, this keeps the matches at the start of a text and no
others. A source that is none can become one in this way, because its parentheses pair with those
of the group, and then it has matches that it had not before.
-/

namespace DocQuery.ServerFunction

open Text Pattern

namespace PatternText

def sticky (p : PatternText) : PatternText := { p with options := p.options ++ ['y'] }

theorem expr?_of_plain {p : PatternText} (hy : 'y' ∉ p.options) :
    p.expr? = compile?
      { ignoreCase := p.options.contains 'i'
        multiLine := p.options.contains 'm'
        dotAll := p.options.contains 's' } p.source := by
  unfold expr?
  rw [if_neg (by simpa using hy)]

theorem expr?_sticky (p : PatternText) :
    p.sticky.expr? = compile?
      { ignoreCase := p.options.contains 'i'
        multiLine := p.options.contains 'm'
        dotAll := p.options.contains 's' } ("\\A(?:".toList ++ p.source ++ [')']) := by
  unfold expr? sticky
  simp

theorem isMatch_sticky {p : PatternText} (hy : 'y' ∉ p.options) {e e' : Expr}
    (he : p.expr? = some e) (he' : p.sticky.expr? = some e') (text : List Char) :
    e'.isMatch text = e.isMatchAtStart text := by
  rw [expr?_of_plain hy] at he
  rw [expr?_sticky] at he'
  rw [compile?_anchored he he', Expr.isMatch_sequence_textStart]

def matchesText (p : PatternText) (text : List Char) : Bool := p.expr?.any (·.isMatch text)

theorem matchesText_sticky {p : PatternText} (hy : 'y' ∉ p.options) {e : Expr}
    (he : p.expr? = some e) (text : List Char) :
    p.sticky.matchesText text = (p.sticky.expr?.isSome && e.isMatchAtStart text) := by
  unfold matchesText
  cases he' : p.sticky.expr? with
  | none => rfl
  | some e' => exact isMatch_sticky hy he he' text

end PatternText

theorem matchesPattern_regex (value : Json) (source options : String) :
    matchesPattern value (Value.regex source options).toJson =
      PatternText.matchesText ⟨source.toList, options.toList⟩ (Script.text value) := by
  have hoperand : PatternText.ofOperand? (Value.regex source options).toJson =
      some ⟨source.toList, options.toList⟩ := rfl
  rw [matchesPattern, hoperand, Option.bind_some, PatternText.matchesText]
  cases PatternText.expr? ⟨source.toList, options.toList⟩ <;> rfl

theorem matchesPattern_sticky (value : Json) (source options : String) :
    matchesPattern value (Value.regex source (options ++ "y")).toJson =
      (PatternText.sticky ⟨source.toList, options.toList⟩).matchesText (Script.text value) := by
  rw [matchesPattern_regex, String.toList_append]
  rfl

/-- For a source that is a pattern by itself, `y` leaves exactly the matches at the start of a text,
unless the longer source is refused. That `y` takes matches away and adds none holds for these
sources, and otherwise for those only that never match with it. -/
theorem sticky_restricts_iff_pattern (source options : String) (hy : 'y' ∉ options.toList) :
    let p : PatternText := ⟨source.toList, options.toList⟩
    let plain := (Value.regex source options).toJson
    let sticky := (Value.regex source (options ++ "y")).toJson
    (∀ e, p.expr? = some e → ∀ value, matchesPattern value sticky =
        (p.sticky.expr?.isSome && e.isMatchAtStart (Script.text value))) ∧
    ((∀ value, matchesPattern value sticky = true → matchesPattern value plain = true) ↔
      p.expr?.isSome = true ∨ ∀ value, matchesPattern value sticky = false) := by
  intro p plain sticky
  have hstart : ∀ e, p.expr? = some e → ∀ value, matchesPattern value sticky =
      (p.sticky.expr?.isSome && e.isMatchAtStart (Script.text value)) := by
    intro e he value
    rw [matchesPattern_sticky]
    exact PatternText.matchesText_sticky hy he (Script.text value)
  refine ⟨hstart, ?_, ?_⟩
  · intro hrestricts
    cases he : p.expr? with
    | some e => exact .inl rfl
    | none =>
        refine .inr fun value => Bool.eq_false_iff.2 fun hsticky => ?_
        have hplain := hrestricts value hsticky
        rw [matchesPattern_regex, PatternText.matchesText, he] at hplain
        cases hplain
  · rintro (hsome | hsilent) value hsticky
    · obtain ⟨e, he⟩ := Option.isSome_iff_exists.1 hsome
      rw [hstart e he, Bool.and_eq_true] at hsticky
      rw [matchesPattern_regex, PatternText.matchesText, he]
      exact Expr.isMatch_of_isMatchAtStart hsticky.2
    · rw [hsilent] at hsticky
      cases hsticky

theorem alternation_restricted :
    'y' ∉ "m".toList ∧ ∀ value, matchesPattern value (Value.regex "a|b" "my").toJson = true →
      matchesPattern value (Value.regex "a|b" "m").toJson = true :=
  ⟨by decide, (sticky_restricts_iff_pattern "a|b" "m" (by decide)).2.2 (.inl (by decide +kernel))⟩

/-- A source that is no pattern, and with `y` a pattern that matches behind the start of a text. -/
theorem closed_group_escapes :
    (∀ value, matchesPattern value (Value.regex "a)|(?:b" "").toJson = false) ∧
      matchesPattern (.str "xb") (Value.regex "a)|(?:b" "y").toJson = true := by
  constructor
  · intro value
    have hnone : (PatternText.expr? ⟨"a)|(?:b".toList, "".toList⟩).isNone = true := by
      decide +kernel
    rw [matchesPattern_regex, PatternText.matchesText, Option.isNone_iff_eq_none.1 hnone]
    rfl
  · decide +kernel

end DocQuery.ServerFunction
