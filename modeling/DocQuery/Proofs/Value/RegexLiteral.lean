import DocQuery.Value.Basic
import Mathlib.Data.Option.Basic
import Mathlib.Tactic.SplitIfs

/-! # Where a regular expression literal ends

A literal is read character by character: a backslash takes the next character, brackets open and
close a class, and the first slash outside a class ends the literal. The source of a pattern is read
through to the slash behind it, and that slash ends the literal exactly if the pattern leaves no
class open. Otherwise it is read as a member of the class, and the literal runs on into what
follows.
-/

namespace DocQuery.RegexLiteral

def isLineTerminator (c : Char) : Bool :=
  c = '\n' || c = '\r' || c = '\u2028' || c = '\u2029'

/-- Whether a class is open behind a character that no backslash takes. -/
def bracket (inClass : Bool) (c : Char) : Bool :=
  if c = '[' then true else if c = ']' then false else inClass

def onto (cs : List Char) (scanned : List Char × List Char) : List Char × List Char :=
  (cs ++ scanned.1, scanned.2)

@[simp] theorem onto_nil : onto [] = id := rfl

@[simp] theorem onto_comp_onto (cs cs' : List Char) : onto cs ∘ onto cs' = onto (cs ++ cs') := by
  funext scanned
  simp [onto]

/-- The body of a literal and what follows the slash that ends it. Line terminators must not stand
in a body. -/
def scanBody? : (inClass : Bool) → List Char → Option (List Char × List Char)
  | _, [] => none
  | inClass, c :: rest =>
    if isLineTerminator c then none
    else if c = '\\' then
      match rest with
      | [] => none
      | d :: rest =>
        if isLineTerminator d then none
        else (scanBody? inClass rest).map (onto [c, d])
    else if c = '/' ∧ inClass = false then some ([], rest)
    else (scanBody? (bracket inClass c) rest).map (onto [c])

def scan? : List Char → Option (List Char × List Char)
  | [] => none
  | c :: rest => if c = '/' then scanBody? false rest else none

def classOpen : (inClass : Bool) → List Char → Bool
  | inClass, [] => inClass
  | inClass, c :: rest =>
    if c = '\\' then
      match rest with
      | [] => inClass
      | _ :: rest => classOpen inClass rest
    else classOpen (bracket inClass c) rest

/-- A stretch that is read through, whatever stands behind it. -/
def Crosses (inClass : Bool) (cs : List Char) (after : Bool) : Prop :=
  ∀ rest, scanBody? inClass (cs ++ rest) = (scanBody? after rest).map (onto cs)

namespace Crosses

variable {inClass after : Bool} {cs cs' : List Char} {c d : Char}

theorem nil (inClass : Bool) : Crosses inClass [] inClass := by
  intro rest
  simp

theorem append {middle : Bool} (h : Crosses inClass cs middle) (h' : Crosses middle cs' after) :
    Crosses inClass (cs ++ cs') after := by
  intro rest
  rw [List.append_assoc, h, h', Option.map_map, onto_comp_onto]

theorem pair (hd : isLineTerminator d = false) : Crosses inClass ['\\', d] inClass := by
  intro rest
  have hbackslash : isLineTerminator '\\' = false := by decide
  simp [scanBody?, hbackslash, hd]

theorem single (hc : isLineTerminator c = false) (hbackslash : c ≠ '\\')
    (hslash : ¬ (c = '/' ∧ inClass = false)) : Crosses inClass [c] (bracket inClass c) := by
  intro rest
  rw [List.singleton_append, scanBody?.eq_def]
  simp [hc, hbackslash, hslash]

end Crosses

/-! ## Sources -/

/-- A stretch in which every backslash has a partner and nothing is left to be escaped, between the
classes that are open before and behind it. -/
inductive Settled : (inClass : Bool) → List Char → (after : Bool) → Prop where
  | nil (inClass : Bool) : Settled inClass [] inClass
  | pair {inClass after : Bool} {d : Char} {cs : List Char} (hd : isLineTerminator d = false)
      (h : Settled inClass cs after) : Settled inClass ('\\' :: d :: cs) after
  | single {inClass after : Bool} {c : Char} {cs : List Char} (hc : isLineTerminator c = false)
      (hbackslash : c ≠ '\\') (hslash : ¬ (c = '/' ∧ inClass = false))
      (h : Settled (bracket inClass c) cs after) : Settled inClass (c :: cs) after

namespace Settled

variable {inClass after : Bool} {cs : List Char} {c : Char}

theorem plain (hc : c ∉ ['\\', '/', '[', ']', '\n', '\r', '\u2028', '\u2029'])
    (h : Settled inClass cs after) : Settled inClass (c :: cs) after := by
  simp only [List.mem_cons, List.not_mem_nil, or_false, not_or] at hc
  obtain ⟨hbackslash, hslash, hopen, hclose, hterminator⟩ := hc
  have hbracket : bracket inClass c = inClass := by simp [bracket, hopen, hclose]
  refine .single (by simp [isLineTerminator, hterminator]) hbackslash (fun hc => hslash hc.1) ?_
  rwa [hbracket]

theorem crosses (h : Settled inClass cs after) : Crosses inClass cs after := by
  induction h with
  | nil inClass => exact .nil inClass
  | pair hd _ ih => exact (Crosses.pair hd).append ih
  | single hc hbackslash hslash _ ih => exact (Crosses.single hc hbackslash hslash).append ih

end Settled

theorem terminatorName?_eq_none_iff {c : Char} :
    RegexSource.terminatorName? c = none ↔ isLineTerminator c = false := by
  unfold RegexSource.terminatorName? isLineTerminator
  split_ifs <;> simp_all

theorem bracket_of_terminatorName? {c : Char} {name : List Char}
    (h : RegexSource.terminatorName? c = some name) (inClass : Bool) :
    bracket inClass c = inClass := by
  unfold RegexSource.terminatorName? at h
  split_ifs at h with hlf hcr hls hps
  · rw [hlf]
    rfl
  · rw [hcr]
    rfl
  · rw [hls]
    rfl
  · rw [hps]
    rfl

variable {inClass after : Bool} {cs : List Char}

theorem Settled.terminatorName {c : Char} {name : List Char}
    (hname : RegexSource.terminatorName? c = some name) (h : Settled inClass cs after) :
    Settled inClass ('\\' :: (name ++ cs)) after := by
  have hunicode : ∀ d, d ∉ ['\\', '/', '[', ']', '\n', '\r', '\u2028', '\u2029'] →
      Settled inClass ('\\' :: 'u' :: '2' :: '0' :: '2' :: d :: cs) after := by
    intro d hd
    have htwo : Settled inClass ('2' :: d :: cs) after := .plain (by decide) (.plain hd h)
    exact .pair (by decide) (.plain (by decide) (.plain (by decide) htwo))
  unfold RegexSource.terminatorName? at hname
  split_ifs at hname
  all_goals obtain rfl := Option.some.inj hname
  · exact .pair (by decide) h
  · exact .pair (by decide) h
  · exact hunicode '8' (by decide)
  · exact hunicode '9' (by decide)

theorem Settled.escapedChars (d : Char) (h : Settled inClass cs after) :
    Settled inClass ('\\' :: (RegexSource.escapedChars d ++ cs)) after := by
  unfold RegexSource.escapedChars
  cases hname : RegexSource.terminatorName? d with
  | none => exact .pair (terminatorName?_eq_none_iff.1 hname) h
  | some name => exact terminatorName hname h

theorem Settled.plainChars {c : Char} (hc : c ≠ '\\') (h : Settled (bracket inClass c) cs after) :
    Settled inClass (RegexSource.plainChars inClass c ++ cs) after := by
  unfold RegexSource.plainChars
  by_cases hslash : c = '/' ∧ inClass = false
  · obtain ⟨rfl, rfl⟩ := hslash
    exact .pair (by decide) h
  · rw [if_neg hslash]
    cases hname : RegexSource.terminatorName? c with
    | none => exact .single (terminatorName?_eq_none_iff.1 hname) hc hslash h
    | some name =>
        rw [bracket_of_terminatorName? hname] at h
        exact terminatorName hname h

/-- The source of a pattern is settled, and leaves the classes as the pattern does. -/
theorem settled_write (inClass : Bool) (pattern : List Char) :
    Settled inClass (RegexSource.write inClass pattern) (classOpen inClass pattern) := by
  fun_induction RegexSource.write inClass pattern with
  | case1 inClass => exact .nil inClass
  | case2 inClass => exact .pair (by decide) (.nil inClass)
  | case3 inClass d rest ih =>
      rw [classOpen, if_pos rfl]
      exact ih.escapedChars d
  | case4 inClass c rest hc ih =>
      rw [classOpen.eq_def]
      simp only [hc, if_false]
      exact .plainChars hc ih

theorem settled_regexSource (pattern : String) :
    Settled false (regexSource pattern).toList (classOpen false pattern.toList) := by
  unfold regexSource
  by_cases hempty : pattern.isEmpty = true
  · obtain rfl := String.isEmpty_iff.1 hempty
    exact settled_write false "(?:)".toList
  · rw [if_neg hempty, String.toList_ofList]
    exact settled_write false pattern.toList

/-- The slash behind the source of a pattern ends the literal exactly if the pattern leaves no class
open. Otherwise the slash belongs to the class, and the literal runs on as a class does. -/
theorem literal_ends_iff_class_closed (pattern flags rest : String) :
    (scan? ((Value.regex pattern flags).literal ++ rest).toList =
        some ((regexSource pattern).toList, (flags ++ rest).toList) ↔
      classOpen false pattern.toList = false) ∧
    (classOpen false pattern.toList = true →
      scan? ((Value.regex pattern flags).literal ++ rest).toList =
        (scanBody? true (flags ++ rest).toList).map
          (onto ((regexSource pattern).toList ++ ['/']))) := by
  have hscan : scan? ((Value.regex pattern flags).literal ++ rest).toList =
      (scanBody? (classOpen false pattern.toList) ('/' :: (flags ++ rest).toList)).map
        (onto (regexSource pattern).toList) := by
    rw [← (settled_regexSource pattern).crosses]
    simp [Value.literal, scan?]
  cases hclass : classOpen false pattern.toList with
  | false =>
      rw [hclass] at hscan
      have hends : scanBody? false ('/' :: (flags ++ rest).toList) =
          some ([], (flags ++ rest).toList) := by
        rw [scanBody?.eq_def]
        simp [isLineTerminator]
      rw [hends] at hscan
      simpa [onto] using hscan
  | true =>
      have hslash : Crosses true ['/'] true := .single (by decide) (by decide) (by decide)
      have hruns := hslash (flags ++ rest).toList
      rw [List.singleton_append] at hruns
      rw [hclass, hruns, Option.map_map, onto_comp_onto] at hscan
      refine ⟨iff_of_false ?_ (by decide), fun _ => hscan⟩
      -- A body that has taken in the slash is longer than the source.
      rw [hscan]
      intro h
      obtain ⟨scanned, -, hbody⟩ := Option.map_eq_some_iff.1 h
      have hlength := congrArg (fun r => r.1.length) hbody
      simp [onto] at hlength

/-- An open class takes in the slash, and the literal ends within the next comparison. -/
theorem open_class_takes_slash :
    (Value.regex "[" "").literal = "/[/" ∧
    scan? ((Value.regex "[" "").literal ++ " AND r.b=\"]/\"").toList =
      some ("[/ AND r.b=\"]".toList, "\"".toList) := by
  decide +kernel

end DocQuery.RegexLiteral
