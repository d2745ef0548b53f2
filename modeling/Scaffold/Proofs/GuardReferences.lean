import Mathlib.Data.List.Infix
import Scaffold.Proofs.GuardSpelling
import Scaffold.Proofs.TableUpdates

/-!
# What a guard refers to

The outcome of a guard is decided by the variables that its text refers to.  Two runs in which
these have the same values, or are undefined alike, come to the same outcome, and whatever is set
apart from all of them has no say in it.

The references of a tree are those of its tokens, each in its place, because the grammar drops
nothing but parentheses.
-/

namespace Scaffold

/-! ## References in a text -/

namespace Token

/-- The variable that a token stands for, if it is a reference. -/
def ref? : Token → Option VariableRef
  | .reference scope name => some ⟨scope, name⟩
  | _ => none

variable {c : Char} {cs rest : List Char} {scope : Scope} {name : String} {used : Nat}

theorem eq_sigil_of_ofSigil? (hsigil : Scope.ofSigil? c = some scope) : c = scope.sigil := by
  unfold Scope.ofSigil? at hsigil
  split at hsigil <;> simp at hsigil <;> subst hsigil <;> rfl

/-- Only a sigil is the start of a reference. -/
theorem scan_ne_reference (hsigil : Scope.ofSigil? c = none) :
    scan c rest ≠ .ok (some (.reference scope name), used) := by
  have hite : ∀ {p : Prop} [Decidable p] {r s t : Except GuardFault (Option Token × Nat)},
      r ≠ t → s ≠ t → (if p then r else s) ≠ t := by
    intro p _ r s t hr hs
    split <;> assumption
  unfold scan
  rw [hsigil]
  repeat' apply hite
  all_goals try (intro hsame; cases hsame)
  -- A second character, the text in quotes and the number are still to be read.
  · split <;> nofun
  · split <;> nofun
  · cases readText c rest <;> nofun
  · dsimp only
    split <;> nofun

theorem of_scan_reference (hscan : scan c rest = .ok (some (.reference scope name), used)) :
    c = scope.sigil ∧ name.toList = rest.takeWhile VariableRef.isNameChar := by
  cases hsigil : Scope.ofSigil? c with
  | none => exact absurd hscan (scan_ne_reference hsigil)
  | some found =>
      have hc := eq_sigil_of_ofSigil? hsigil
      have hread : scan found.sigil rest =
          if (rest.takeWhile VariableRef.isNameChar).isEmpty then
            .error (.nameExpected found.sigil)
          else .ok (some (.reference found
              (String.ofList (rest.takeWhile VariableRef.isNameChar))),
            (rest.takeWhile VariableRef.isNameChar).length) := by
        cases found <;> rfl
      rw [hc, hread] at hscan
      split at hscan
      next => cases hscan
      next =>
        simp only [Except.ok.injEq, Prod.mk.injEq, Option.some.injEq,
          Token.reference.injEq] at hscan
        rcases hscan with ⟨⟨rfl, rfl⟩, -⟩
        exact ⟨hc, String.toList_ofList⟩

/-- Every reference among the tokens stands in the text, its sigil in front of its name. -/
theorem infix_of_mem_tokenize {ts : List Token} (hread : tokenize cs = .ok ts)
    (hmem : .reference scope name ∈ ts) : scope.sigil :: name.toList <:+: cs := by
  induction hlength : cs.length using Nat.strongRecOn generalizing cs ts with
  | ind length ih =>
      cases cs with
      | nil =>
          rw [tokenize_nil] at hread
          cases hread
          cases hmem
      | cons c rest =>
          rw [tokenize_cons] at hread
          cases hscan : scan c rest with
          | error fault => simp [hscan] at hread
          | ok scanned =>
              rcases scanned with ⟨token, used⟩
              simp only [hscan] at hread
              cases hmore : tokenize (rest.drop used) with
              | error fault => simp [hmore, Except.map] at hread
              | ok more =>
                  have hts : token.toList ++ more = ts := by
                    simpa [hmore, Except.map] using hread
                  rw [← hts, List.mem_append] at hmem
                  rcases hmem with hfirst | hlater
                  · have htoken : token = some (.reference scope name) := by
                      simpa using hfirst
                    subst htoken
                    have hboth := of_scan_reference hscan
                    rw [hboth.1, hboth.2]
                    exact (List.cons_prefix_cons.mpr ⟨rfl, List.takeWhile_prefix _⟩).isInfix
                  · have hshorter : (rest.drop used).length < length := by
                      rw [← hlength, List.length_drop, List.length_cons]
                      omega
                    have hinner := ih _ hshorter hmore hlater rfl
                    apply hinner.trans
                    exact ((List.drop_suffix used rest).trans (List.suffix_cons c rest)).isInfix

end Token

namespace Guard

/-- The variables that a text refers to, from the front; a text that is not made of tokens refers
to none. -/
def references (expression : String) : List VariableRef :=
  match Token.tokenize expression.toList with
  | .ok ts => ts.filterMap Token.ref?
  | .error _ => []

theorem infix_of_mem_references {expression : String} {r : VariableRef}
    (hr : r ∈ references expression) : r.guard.toList <:+: expression.toList := by
  unfold references at hr
  split at hr
  next ts htokens =>
    rcases List.mem_filterMap.mp hr with ⟨token, htoken, href⟩
    cases token <;> simp [Token.ref?] at href
    subst href
    rw [VariableRef.guard, String.toList_ofList]
    exact Token.infix_of_mem_tokenize htokens htoken
  next => cases hr

end Guard

/-! ## References in a tree -/

namespace Condition

/-- The variables of a condition, from the front. -/
def refs : Condition → List VariableRef
  | .reference scope name => [⟨scope, name⟩]
  | .literal _ => []
  | .not inner => inner.refs
  | .and lhs rhs => lhs.refs ++ rhs.refs
  | .or lhs rhs => lhs.refs ++ rhs.refs
  | .equal lhs rhs => lhs.refs ++ rhs.refs
  | .differ lhs rhs => lhs.refs ++ rhs.refs

end Condition

namespace Guard

theorem Phrase.refs_eq {level : Level} {ts : List Token} {c : Condition}
    (hphrase : Phrase level ts c) : c.refs = ts.filterMap Token.ref? := by
  induction hphrase with
  | ofAnd _ ih | ofUnary _ ih | ofCompare _ ih | ofOperand _ ih => exact ih
  | or _ _ ihleft ihright | and _ _ ihleft ihright | equal _ _ ihleft ihright
  | differ _ _ ihleft ihright =>
      simp only [Condition.refs, ihleft, ihright, List.filterMap_append, List.filterMap_cons,
        Token.ref?]
  | not _ ih => simpa only [Condition.refs, List.filterMap_cons, Token.ref?] using ih
  | parentheses _ ih => simp [ih, Token.ref?, List.filterMap_cons]
  | reference | text | number | word => rfl

theorem refs_of_conditionOf {expression : String} {c : Condition}
    (hread : conditionOf expression = .ok c) : c.refs = references expression := by
  obtain ⟨ts, htokens, hphrase⟩ := conditionOf_eq_ok_iff.mp hread
  rw [references, htokens]
  exact hphrase.refs_eq

end Guard

/-! ## Two runs -/

namespace Variables

variable {vars others : Variables} {rs more : List VariableRef}

/-- Each of the variables has the same value in both, or is undefined in both. -/
def AgreeOn (rs : List VariableRef) (vars others : Variables) : Prop :=
  ∀ r ∈ rs, vars.get r.scope r.name = others.get r.scope r.name

theorem agreeOn_append :
    AgreeOn (rs ++ more) vars others ↔ AgreeOn rs vars others ∧ AgreeOn more vars others := by
  simp only [AgreeOn, List.forall_mem_append]

end Variables

namespace Condition

open Variables

variable {vars others : Variables}

/-- A condition is read as a test and as an operand, and each reading calls the other, so that the
induction is on both together. -/
theorem holds_value_congr {c : Condition} (hagree : AgreeOn c.refs vars others) :
    c.holds vars = c.holds others ∧ c.value vars = c.value others := by
  induction c with
  | reference scope name =>
      have hget : vars.get scope name = others.get scope name :=
        hagree ⟨scope, name⟩ List.mem_cons_self
      have hdefined : vars.isDefined scope name = others.isDefined scope name :=
        congrArg Option.isSome hget
      constructor
      · rw [holds, holds, hdefined]
      · rw [value, value, hget]
  | literal value => exact ⟨rfl, rfl⟩
  | not inner ih =>
      have hinner := ih hagree
      simp only [holds, value, hinner.1, and_self]
  | and lhs rhs ihleft ihright | or lhs rhs ihleft ihright | equal lhs rhs ihleft ihright
  | differ lhs rhs ihleft ihright =>
      have hboth := agreeOn_append.mp hagree
      have hleft := ihleft hboth.1
      have hright := ihright hboth.2
      simp only [holds, value, hleft.1, hleft.2, hright.1, hright.2, and_self]

end Condition

namespace Guard

open Variables

theorem evaluate_congr {expression : String} {vars others : Variables}
    (hagree : AgreeOn (references expression) vars others) :
    evaluate expression vars = evaluate expression others := by
  unfold evaluate
  cases hread : conditionOf expression with
  | error fault => rfl
  | ok c =>
      rw [← refs_of_conditionOf hread] at hagree
      exact congrArg Except.ok (Condition.holds_value_congr hagree).1

end Guard

/-! ## What is set apart from a guard -/

namespace VariableTable

variable {path other value : String} {table : VariableTable}

/-- The paths part at some segment: they are not the same and neither leads to the other. -/
def Apart (path other : String) : Prop :=
  path ≠ other ∧ ¬IsAbove path other ∧ ¬IsAbove other path

theorem get_set_of_apart (hapart : Apart path other) :
    (table.set path value).get other = table.get other := by
  have hsegments : segments path ≠ segments other := segments_injective.ne hapart.1
  rw [get, get, set, lookup_assign_apart (fun hbegins => hapart.2.1 ⟨hbegins, hsegments⟩)
    fun hbegins => hapart.2.2 ⟨hbegins, hsegments.symm⟩]

end VariableTable

namespace Variables

variable {vars : Variables} {scope : Scope} {path value : String} {rs : List VariableRef}

theorem get_set_of_scope_ne {other : Scope} (hscope : other ≠ scope) (name : String) :
    (vars.set scope path value).get other name = vars.get other name := by
  cases scope <;> cases other <;> first | rfl | exact absurd rfl hscope

theorem agreeOn_set (hapart : ∀ r ∈ rs, r.scope = scope → VariableTable.Apart path r.name) :
    AgreeOn rs (vars.set scope path value) vars := by
  intro r hr
  by_cases hscope : r.scope = scope
  · have hget : ∀ table : VariableTable,
        (table.set path value).get r.name = table.get r.name :=
      fun _ => VariableTable.get_set_of_apart (hapart r hr hscope)
    rw [hscope]
    cases scope <;> exact hget _
  · exact get_set_of_scope_ne hscope r.name

end Variables

namespace Guard

open Variables

/-- A guard is decided by the variables that its text refers to.  These stand in the text; two runs
that agree on them come to the same outcome, a truth value or a fault; and so nothing changes when a
variable is set that is none of them and neither leads to one nor lies below one. -/
theorem evaluate_local (expression : String) :
    (∀ r ∈ references expression, r.guard.toList <:+: expression.toList) ∧
    (∀ vars others, AgreeOn (references expression) vars others →
      evaluate expression vars = evaluate expression others) ∧
    ∀ vars scope path value,
      (∀ r ∈ references expression, r.scope = scope → VariableTable.Apart path r.name) →
        evaluate expression (vars.set scope path value) = evaluate expression vars := by
  refine ⟨?_, ?_, ?_⟩
  · intro r hr
    exact infix_of_mem_references hr
  · intro vars others hagree
    exact evaluate_congr hagree
  · intro vars scope path value hapart
    apply evaluate_congr
    exact agreeOn_set hapart

def quotedText : String := "(!('it\\'s' ===#a.b-c))&&( @x!=-1.5)\n"

theorem conditionOf_quotedText : conditionOf quotedText = .ok Condition.quoted :=
  conditionOf_of_written (Condition.phrase_or_tokens Condition.quoted) Condition.quoted_written

theorem references_quotedText : references quotedText = [⟨.memory, "a.b-c"⟩, ⟨.store, "x"⟩] := by
  rw [← refs_of_conditionOf conditionOf_quotedText]
  rfl

/-- Two runs that differ in much, but not in the variables of the guard. -/
def firstRun : Variables :=
  ⟨⟨[("a", .object [("b-c", .string "it")])]⟩, ⟨[("x", .string "1")]⟩⟩

def secondRun : Variables :=
  ⟨⟨[("z", .null), ("a", .object [("d", .bool true), ("b-c", .string "it")])]⟩,
    ⟨[("x", .string "1"), ("y", .array [])]⟩⟩

theorem evaluate_local_quoted :
    AgreeOn (references quotedText) firstRun secondRun ∧
      evaluate quotedText firstRun = .ok true ∧
      evaluate quotedText firstRun = evaluate quotedText secondRun ∧
      evaluate quotedText (firstRun.set .memory "a.b" "new") = evaluate quotedText firstRun := by
  have hagree : AgreeOn (references quotedText) firstRun secondRun := by
    intro r hr
    rw [references_quotedText] at hr
    simp only [List.mem_cons, List.not_mem_nil, or_false] at hr
    rcases hr with rfl | rfl <;> rfl
  have htrue : evaluate quotedText firstRun = .ok true := by
    rw [evaluate, conditionOf_quotedText]
    rfl
  have hpath : VariableTable.segments "a.b" = ["a", "b"] := by rfl
  have hname : VariableTable.segments "a.b-c" = ["a", "b-c"] := by rfl
  have hapart : VariableTable.Apart "a.b" "a.b-c" := by
    simp [VariableTable.Apart, VariableTable.IsAbove, hpath, hname]
  refine ⟨hagree, htrue, (evaluate_local _).2.1 _ _ hagree, ?_⟩
  apply (evaluate_local _).2.2
  rw [references_quotedText]
  simpa using hapart

end Guard
end Scaffold
