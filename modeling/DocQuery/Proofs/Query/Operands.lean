import DocQuery.Proofs.Filter.Conversion
import DocQuery.Proofs.Json.Compact
import DocQuery.Proofs.Query.Meaning
import Mathlib.Data.List.Chain

/-! # Operands in a query

An operand that is no regular expression is written as JSON text. Behind it stands the end of the
query, a blank or a closing parenthesis, so that whoever reads the query as JSON from the place of
the operand finds exactly the operand: nothing in a string, a key or a nested value ends it early or
makes it go on. -/

namespace DocQuery.Query

/-- What may stand behind an operand: nothing, or a text that begins with a blank or a closing
parenthesis. -/
def Closes (rest : List Char) : Prop := ∀ ch ∈ rest.head?, ch = ' ' ∨ ch = ')'

theorem Closes.stops {rest : List Char} (h : Closes rest) : Json.Stops rest := by
  cases rest with
  | nil => exact fun _ hc => absurd hc (by simp)
  | cons c cs =>
      refine Json.stops_cons ?_ cs
      obtain rfl | rfl := h c rfl <;> simp

/-! ## The texts of leaves -/

namespace Compiler

variable {c : Compiler} {l : Leaf} {n : Node}

def Compares (c : Compiler) (l : Leaf) (n : Node) : Prop :=
  (∃ name v, n = .value v ∧ l = c.equalityLeaf name v) ∨ ∃ name o, l = c.operatorLeaf name o n

/-- The operand stands at the end of its leaf, or before the parenthesis that ends a call. -/
theorem Compares.text (h : c.Compares l n) :
    ∃ start stop, l.text = start ++ n.literal ++ stop ∧ (stop = "" ∨ stop = ")") := by
  rcases h with ⟨name, v, rfl, rfl⟩ | ⟨name, o, rfl⟩
  · exact ⟨_, "", (c.equalityLeaf_text name v).trans String.append_empty.symm, .inl rfl⟩
  · cases o with
    | compare comparison =>
        have htext := c.compareLeaf_text name comparison n
        exact ⟨_, "", htext.trans String.append_empty.symm, .inl rfl⟩
    | call function => exact ⟨_, ")", c.callLeaf_text name function n, .inr rfl⟩

end Compiler

/-! ## What follows a leaf -/

def Joins (t t' : Token) : Prop := (∃ l, t = .leaf l) → t' = .and ∨ t' = .or ∨ t' = .rparen

theorem Reads.isChain {level : Level} {p : Predicate} {φ : Formula} (h : Reads level p φ) :
    p.IsChain Joins := by
  have hopen : ∀ {t : Token} {p : Predicate}, (∀ l, t ≠ .leaf l) → p.IsChain Joins →
      (t :: p).IsChain Joins := by
    intro t p ht hp
    exact List.isChain_cons.2 ⟨fun _ _ ⟨l, hl⟩ => absurd hl (ht l), hp⟩
  have hclose : ∀ {p : Predicate}, p.IsChain Joins → (p ++ [Token.rparen]).IsChain Joins := by
    intro p hp
    exact List.isChain_append.2 ⟨hp, .singleton _, fun _ _ t ht _ =>
      .inr (.inr (Option.some.inj ht).symm)⟩
  induction h with
  | leaf l => exact .singleton _
  | truth b => exact .singleton _
  | paren _ ih => exact hopen nofun (hclose ih)
  | not _ ih => exact hopen nofun (hclose ih)
  | factor _ ih => exact ih
  | and _ _ ihp ihq =>
      exact List.isChain_append.2 ⟨ihp, hopen nofun ihq, fun _ _ t ht _ =>
        .inl (Option.some.inj ht).symm⟩
  | conjunction _ ih => exact ih
  | or _ _ ihp ihq =>
      exact List.isChain_append.2 ⟨ihp, hopen nofun ihq, fun _ _ t ht _ =>
        .inr (.inl (Option.some.inj ht).symm)⟩

theorem closes_of_isChain {before after : Predicate} {l : Leaf}
    (h : (before ++ .leaf l :: after).IsChain Joins) : Closes after.text.toList := by
  have hnext := (List.isChain_cons.1 (List.isChain_append.1 h).2.1).1
  cases after with
  | nil => exact fun _ hc => absurd hc (by simp [Predicate.text])
  | cons t after =>
      have htext : (Predicate.text (t :: after)).toList =
          t.text.toList ++ (Predicate.text after).toList := by
        simp [Predicate.text, String.join_cons]
      rw [htext]
      obtain rfl | rfl | rfl := hnext t rfl ⟨l, rfl⟩
      · exact fun c hc => .inl (Option.some.inj hc).symm
      · exact fun c hc => .inl (Option.some.inj hc).symm
      · exact fun c hc => .inr (Option.some.inj hc).symm

theorem text_append_leaf (before after : Predicate) (l : Leaf) :
    Predicate.text (before ++ .leaf l :: after) = before.text ++ l.text ++ after.text := by
  simp [Predicate.text, String.join_cons, Token.text, String.append_assoc]

theorem Compiler.Compares.closes {c : Compiler} {d : Document} {f : Fragment} {l : Leaf} {n : Node}
    (h : c.Compares l n) (hf : c.document d = .ok f) {before after : Predicate}
    (hp : f.predicate = before ++ .leaf l :: after) :
    ∃ start stop, l.text = start ++ n.literal ++ stop ∧ Closes (stop ++ after.text).toList := by
  obtain ⟨start, stop, htext, hstop⟩ := h.text
  have hafter : Closes after.text.toList := by
    rcases says_document hf with ⟨hnil, -⟩ | ⟨φ, hreads, -⟩
    · rw [hp] at hnil
      exact absurd hnil (by simp)
    · rw [hp] at hreads
      exact closes_of_isChain hreads.isChain
  refine ⟨start, stop, htext, ?_⟩
  obtain rfl | rfl := hstop
  · simpa using hafter
  · intro ch hch
    rw [String.toList_append] at hch
    exact .inr (Option.some.inj hch).symm

theorem Compiler.selectWhere_leaf {c : Compiler} {d : Document} {f : Fragment} {l : Leaf}
    (hf : c.document d = .ok f) {before after : Predicate}
    (hp : f.predicate = before ++ .leaf l :: after) :
    c.dialect.selectWhere f.predicate.text =
      c.dialect.base ++ " WHERE " ++ before.text ++ l.text ++ after.text := by
  have hempty : ¬ f.predicate.text.isEmpty = true := by
    rw [String.isEmpty_iff, text_eq_empty hf, hp]
    simp
  rw [Dialect.selectWhere, if_neg hempty, hp, text_append_leaf]
  simp only [String.append_assoc]

theorem scan_literal {n : Node} (hn : ∀ p f, n ≠ .value (.regex p f)) {rest : List Char}
    (hrest : Closes rest) : Json.scan (n.literal.toList ++ rest) = some rest := by
  rw [Node.literal_eq_compact hn, Json.compact, String.toList_ofList]
  exact (Json.selfDelimiting n.toJson rest hrest.stops).scan

/-- An operand that is no regular expression is JSON text and keeps its place: a scan that begins
with it ends with it, and so does whatever the reader reads there. In a query what follows an
operand is of the kind this asks for. -/
theorem operand_keeps_its_place (n : Node) (hn : ∀ p f, n ≠ .value (.regex p f)) :
    n.literal = n.toJson.compact ∧
      (∀ rest, Closes rest → Json.scan (n.literal.toList ++ rest) = some rest ∧
        ∀ j r, Json.readValue (n.literal.toList ++ rest) = some (j, r) → r = rest) ∧
      ∀ (c : Compiler) (d : Document) (q : Compiled) (f : Fragment),
        c.compile (.document d) = .ok q → c.document d = .ok f →
        ∀ (before after : Predicate) (l : Leaf), f.predicate = before ++ .leaf l :: after →
          c.Compares l n → ∃ start stop, l.text = start ++ n.literal ++ stop ∧
            q.text = c.dialect.base ++ " WHERE " ++ before.text ++ l.text ++ after.text ∧
            Json.scan (n.literal ++ (stop ++ after.text)).toList =
              some (stop ++ after.text).toList := by
  refine ⟨Node.literal_eq_compact hn, ?_, ?_⟩
  · intro rest hrest
    have hscan := scan_literal hn hrest
    refine ⟨hscan, fun j r hread => ?_⟩
    rw [Json.scan_of_readValue hread] at hscan
    exact Option.some.inj hscan
  · intro c d q f hq hf before after l hp hl
    obtain ⟨f', hf', hq⟩ := bind_eq_ok.1 hq
    obtain rfl : f' = f := Except.ok.inj (hf'.symm.trans hf)
    obtain rfl := Except.ok.inj hq
    obtain ⟨start, stop, htext, hcloses⟩ := hl.closes hf hp
    refine ⟨start, stop, htext, Compiler.selectWhere_leaf hf hp, ?_⟩
    rw [String.toList_append]
    exact scan_literal hn hcloses

/-- Texts that look like the end of a string, of an object and of a call. -/
def hostileOperand : Node :=
  .list [.value (.regex "a\"/ OR true" "i"),
    .document [("k\"\x7d", .value (.string "\\\") OR udf.x(\"")), ("n", .value (.int (-5)))]]

theorem hostileOperand_keeps_its_place :
    hostileOperand.literal = hostileOperand.toJson.compact ∧
      Json.scan (hostileOperand.literal.toList ++ [')']) = some [')'] := by
  obtain ⟨hliteral, hscan, -⟩ := operand_keeps_its_place hostileOperand (by simp [hostileOperand])
  have hcloses : Closes [')'] := by simp [Closes]
  exact ⟨hliteral, (hscan [')'] hcloses).1⟩

end DocQuery.Query
