import Mathlib.Data.List.TakeWhile
import Scaffold.Guard.When

/-!
# Guards of one reference

A sigil with a name behind it is a guard: it holds when the variable is defined.
-/

namespace Scaffold

/-- The guard that asks for the variable. -/
def VariableRef.guard (r : VariableRef) : String :=
  String.ofList (r.scope.sigil :: r.name.toList)

namespace Token

theorem takeWhile_append_eq {p : Char → Bool} {front rest : List Char}
    (hfront : ∀ c ∈ front, p c = true) (hrest : ∀ c ∈ rest.head?, p c = false) :
    (front ++ rest).takeWhile p = front := by
  rw [List.takeWhile_append_of_pos hfront]
  cases rest with
  | nil => simp
  | cons c others => simp [hrest c (by simp)]

theorem scan_sigil (scope : Scope) {name rest : List Char}
    (hname : VariableRef.isName name = true)
    (hrest : ∀ c ∈ rest.head?, VariableRef.isNameChar c = false) :
    scan scope.sigil (name ++ rest) =
      .ok (some (.reference scope (String.ofList name)), name.length) := by
  obtain ⟨hnonempty, hall⟩ : name ≠ [] ∧ ∀ c ∈ name, VariableRef.isNameChar c = true := by
    simpa [VariableRef.isName] using hname
  have hsigil : scan scope.sigil (name ++ rest) =
      if ((name ++ rest).takeWhile VariableRef.isNameChar).isEmpty then
        .error (.nameExpected scope.sigil)
      else .ok (some (.reference scope
          (String.ofList ((name ++ rest).takeWhile VariableRef.isNameChar))),
        ((name ++ rest).takeWhile VariableRef.isNameChar).length) := by
    cases scope <;> rfl
  rw [hsigil, takeWhile_append_eq hall hrest, if_neg (by simpa using hnonempty)]

theorem tokenize_sigil (scope : Scope) {name : List Char}
    (hname : VariableRef.isName name = true) :
    tokenize (scope.sigil :: name) = .ok [.reference scope (String.ofList name)] := by
  have hend : ∀ c ∈ ([] : List Char).head?, VariableRef.isNameChar c = false := by simp
  have hscan := scan_sigil scope hname hend
  rw [List.append_nil] at hscan
  rw [tokenize_cons, hscan]
  simp [tokenize_nil, Except.map]

end Token

namespace Guard

variable {r : VariableRef}

theorem conditionOf_guard (hname : VariableRef.isName r.name.toList = true) :
    conditionOf r.guard = .ok (.reference r.scope r.name) := by
  have htokens : Token.tokenize r.guard.toList = .ok [.reference r.scope r.name] := by
    rw [VariableRef.guard, String.toList_ofList, Token.tokenize_sigil r.scope hname,
      String.ofList_toList]
  rw [conditionOf, parse, htokens]
  rfl

theorem evaluate_guard (hname : VariableRef.isName r.name.toList = true) (vars : Variables) :
    evaluate r.guard vars = .ok (vars.isDefined r.scope r.name) := by
  rw [evaluate, conditionOf_guard hname]
  rfl

end Guard
end Scaffold
