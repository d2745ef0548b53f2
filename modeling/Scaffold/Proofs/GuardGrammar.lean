import Mathlib.Tactic.Common
import Scaffold.Guard.When

/-!
# The grammar of guards

The grammar of guards as a relation between the tokens of a phrase and its tree.  What a level
of the reader takes off the front of a token sequence is a phrase of that level, and a phrase is
taken off as a whole whatever stands behind it, as long as that cannot be drawn into the phrase.
Together: exactly the phrases of the loosest level are read to their end, each as its tree.
-/

namespace Scaffold
namespace Guard

/-- The words that stand for values. -/
def wordValues : List (String × Literal) :=
  [("true", .bool true), ("false", .bool false), ("null", .null), ("undefined", .undefined)]

/-- The levels of the grammar, from the loosest to the tightest. -/
inductive Level where
  | or
  | and
  | unary
  | compare
  | operand
deriving DecidableEq, Repr

/-- The tokens are a phrase of the level and have that tree.  Chains of `||` and of `&&` lean to
the left, `!` takes a whole comparison, a comparison has operands on its sides and so makes no
chain, and parentheses leave nothing behind in the tree. -/
inductive Phrase : Level → List Token → Condition → Prop
  | ofAnd {ts : List Token} {c : Condition} : Phrase .and ts c → Phrase .or ts c
  | or {ts us : List Token} {lhs rhs : Condition} :
      Phrase .or ts lhs → Phrase .and us rhs → Phrase .or (ts ++ .or :: us) (.or lhs rhs)
  | ofUnary {ts : List Token} {c : Condition} : Phrase .unary ts c → Phrase .and ts c
  | and {ts us : List Token} {lhs rhs : Condition} :
      Phrase .and ts lhs → Phrase .unary us rhs → Phrase .and (ts ++ .and :: us) (.and lhs rhs)
  | not {ts : List Token} {c : Condition} :
      Phrase .unary ts c → Phrase .unary (.not :: ts) (.not c)
  | ofCompare {ts : List Token} {c : Condition} : Phrase .compare ts c → Phrase .unary ts c
  | ofOperand {ts : List Token} {c : Condition} : Phrase .operand ts c → Phrase .compare ts c
  | equal {ts us : List Token} {lhs rhs : Condition} :
      Phrase .operand ts lhs → Phrase .operand us rhs →
        Phrase .compare (ts ++ .equal :: us) (.equal lhs rhs)
  | differ {ts us : List Token} {lhs rhs : Condition} :
      Phrase .operand ts lhs → Phrase .operand us rhs →
        Phrase .compare (ts ++ .differ :: us) (.differ lhs rhs)
  | parentheses {ts : List Token} {c : Condition} :
      Phrase .or ts c → Phrase .operand (.opening :: ts ++ [.closing]) c
  | reference (scope : Scope) (name : String) :
      Phrase .operand [.reference scope name] (.reference scope name)
  | text (s : String) : Phrase .operand [.text s] (.literal (.text s))
  | number (x : Binary64) : Phrase .operand [.number x] (.literal (.number x))
  | word {w : String} {value : Literal} :
      (w, value) ∈ wordValues → Phrase .operand [.word w] (.literal value)

theorem ofWord_eq_ok_iff {w : String} {value : Literal} :
    ofWord w = .ok value ↔ (w, value) ∈ wordValues := by
  constructor
  · intro hword
    unfold ofWord at hword
    split_ifs at hword <;> simp_all [wordValues]
  · intro hmem
    simp only [wordValues, List.mem_cons, Prod.mk.injEq, List.not_mem_nil, or_false] at hmem
    rcases hmem with ⟨rfl, rfl⟩ | ⟨rfl, rfl⟩ | ⟨rfl, rfl⟩ | ⟨rfl, rfl⟩ <;> rfl

/-! ## What is read is a phrase -/

/-- The tokens start with a phrase of the level, and `rest` stands behind it. -/
def StartsWith (level : Level) (ts : List Token) (c : Condition) (rest : List Token) : Prop :=
  ∃ front, ts = front ++ rest ∧ Phrase level front c

-- The recursion is that of the reader: a loop extends the phrase that stands in front of it.
mutual
theorem startsWith_of_parseOr {bound : Nat} {ts rest : List Token} {c : Condition}
    (hread : parseOr bound ts = .ok (c, rest)) : StartsWith .or ts c rest := by
  unfold parseOr at hread
  split at hread
  · simp at hread
  · split at hread
    · simp at hread
    · next hfirst =>
        obtain ⟨front, rfl, hfront⟩ := startsWith_of_parseAnd hfirst
        obtain ⟨more, rfl, hwhole⟩ := phrase_of_parseOrTail hfront.ofAnd hread
        exact ⟨front ++ more, by simp, hwhole⟩

theorem phrase_of_parseOrTail {bound : Nat} {front ts rest : List Token} {lhs c : Condition}
    (hfront : Phrase .or front lhs) (hread : parseOrTail bound lhs ts = .ok (c, rest)) :
    ∃ more, ts = more ++ rest ∧ Phrase .or (front ++ more) c := by
  unfold parseOrTail at hread
  split at hread
  · split at hread
    · simp at hread
    · next hnext =>
        obtain ⟨back, rfl, hback⟩ := startsWith_of_parseAnd hnext
        obtain ⟨more, rfl, hwhole⟩ := phrase_of_parseOrTail (hfront.or hback) hread
        exact ⟨.or :: back ++ more, by simp, by simpa using hwhole⟩
  · obtain ⟨rfl, rfl⟩ := Prod.mk.inj (Except.ok.inj hread)
    exact ⟨[], by simp, by simpa using hfront⟩

theorem startsWith_of_parseAnd {bound : Nat} {ts rest : List Token} {c : Condition}
    (hread : parseAnd bound ts = .ok (c, rest)) : StartsWith .and ts c rest := by
  unfold parseAnd at hread
  split at hread
  · simp at hread
  · split at hread
    · simp at hread
    · next hfirst =>
        obtain ⟨front, rfl, hfront⟩ := startsWith_of_parseUnary hfirst
        obtain ⟨more, rfl, hwhole⟩ := phrase_of_parseAndTail hfront.ofUnary hread
        exact ⟨front ++ more, by simp, hwhole⟩

theorem phrase_of_parseAndTail {bound : Nat} {front ts rest : List Token} {lhs c : Condition}
    (hfront : Phrase .and front lhs) (hread : parseAndTail bound lhs ts = .ok (c, rest)) :
    ∃ more, ts = more ++ rest ∧ Phrase .and (front ++ more) c := by
  unfold parseAndTail at hread
  split at hread
  · split at hread
    · simp at hread
    · next hnext =>
        obtain ⟨back, rfl, hback⟩ := startsWith_of_parseUnary hnext
        obtain ⟨more, rfl, hwhole⟩ := phrase_of_parseAndTail (hfront.and hback) hread
        exact ⟨.and :: back ++ more, by simp, by simpa using hwhole⟩
  · obtain ⟨rfl, rfl⟩ := Prod.mk.inj (Except.ok.inj hread)
    exact ⟨[], by simp, by simpa using hfront⟩

theorem startsWith_of_parseUnary {bound : Nat} {ts rest : List Token} {c : Condition}
    (hread : parseUnary bound ts = .ok (c, rest)) : StartsWith .unary ts c rest := by
  unfold parseUnary at hread
  split at hread
  · simp at hread
  · split at hread
    · simp at hread
    · next hinner =>
        obtain ⟨rfl, rfl⟩ := Prod.mk.inj (Except.ok.inj hread)
        obtain ⟨front, rfl, hfront⟩ := startsWith_of_parseUnary hinner
        exact ⟨.not :: front, by simp, hfront.not⟩
  · obtain ⟨front, rfl, hfront⟩ := startsWith_of_parseCompare hread
    exact ⟨front, rfl, hfront.ofCompare⟩

theorem startsWith_of_parseCompare {bound : Nat} {ts rest : List Token} {c : Condition}
    (hread : parseCompare bound ts = .ok (c, rest)) : StartsWith .compare ts c rest := by
  unfold parseCompare at hread
  split at hread
  · simp at hread
  · split at hread
    · simp at hread
    · next hleft =>
        split at hread
        · simp at hread
        · next hright =>
            obtain ⟨rfl, rfl⟩ := Prod.mk.inj (Except.ok.inj hread)
            obtain ⟨front, rfl, hfront⟩ := startsWith_of_parseOperand hleft
            obtain ⟨back, rfl, hback⟩ := startsWith_of_parseOperand hright
            exact ⟨front ++ .equal :: back, by simp, hfront.equal hback⟩
    · next hleft =>
        split at hread
        · simp at hread
        · next hright =>
            obtain ⟨rfl, rfl⟩ := Prod.mk.inj (Except.ok.inj hread)
            obtain ⟨front, rfl, hfront⟩ := startsWith_of_parseOperand hleft
            obtain ⟨back, rfl, hback⟩ := startsWith_of_parseOperand hright
            exact ⟨front ++ .differ :: back, by simp, hfront.differ hback⟩
    · next hleft =>
        obtain ⟨rfl, rfl⟩ := Prod.mk.inj (Except.ok.inj hread)
        obtain ⟨front, rfl, hfront⟩ := startsWith_of_parseOperand hleft
        exact ⟨front, rfl, hfront.ofOperand⟩

theorem startsWith_of_parseOperand {bound : Nat} {ts rest : List Token} {c : Condition}
    (hread : parseOperand bound ts = .ok (c, rest)) : StartsWith .operand ts c rest := by
  unfold parseOperand at hread
  split at hread
  · simp at hread
  · simp at hread
  · split at hread
    · simp at hread
    · next hinner =>
        obtain ⟨rfl, rfl⟩ := Prod.mk.inj (Except.ok.inj hread)
        obtain ⟨front, rfl, hfront⟩ := startsWith_of_parseOr hinner
        exact ⟨.opening :: front ++ [.closing], by simp, hfront.parentheses⟩
    · simp at hread
  · obtain ⟨rfl, rfl⟩ := Prod.mk.inj (Except.ok.inj hread)
    exact ⟨_, by simp, .reference _ _⟩
  · obtain ⟨rfl, rfl⟩ := Prod.mk.inj (Except.ok.inj hread)
    exact ⟨_, by simp, .text _⟩
  · obtain ⟨rfl, rfl⟩ := Prod.mk.inj (Except.ok.inj hread)
    exact ⟨_, by simp, .number _⟩
  · split at hread
    · simp at hread
    · next hword =>
        obtain ⟨rfl, rfl⟩ := Prod.mk.inj (Except.ok.inj hread)
        exact ⟨_, by simp, .word (ofWord_eq_ok_iff.mp hword)⟩
  · simp at hread
end

/-! ## A phrase is read as a whole -/

theorem Phrase.length_pos {level : Level} {ts : List Token} {c : Condition}
    (hphrase : Phrase level ts c) : 0 < ts.length := by
  induction hphrase with
  | ofAnd _ ih | ofUnary _ ih | ofCompare _ ih | ofOperand _ ih => exact ih
  | or | and | equal | differ => rw [List.length_append, List.length_cons]; omega
  | not | parentheses | reference | text | number | word => simp

/-- No comparison sign stands at the front. -/
def Uncompared (rest : List Token) : Prop :=
  rest.head? ≠ some .equal ∧ rest.head? ≠ some .differ

/-- The phrase is taken off the front of whatever does not extend it, when the bound is large
enough for its tokens.  A chain is left to the loop of its level, with a bound that has been
lowered by eight for each token at most. -/
def TakenOff : Level → List Token → Condition → Prop
  | .or, ts, c => ∀ bound rest, 8 * ts.length ≤ bound + 3 → Uncompared rest →
      rest.head? ≠ some .and →
      ∃ left, bound ≤ left + 8 * ts.length ∧
        parseOr bound (ts ++ rest) = parseOrTail left c rest
  | .and, ts, c => ∀ bound rest, 8 * ts.length ≤ bound + 4 → Uncompared rest →
      ∃ left, bound ≤ left + 8 * ts.length ∧
        parseAnd bound (ts ++ rest) = parseAndTail left c rest
  | .unary, ts, c => ∀ bound rest, 8 * ts.length ≤ bound + 5 → Uncompared rest →
      parseUnary bound (ts ++ rest) = .ok (c, rest)
  | .compare, ts, c => ∀ bound rest, 8 * ts.length ≤ bound + 6 → Uncompared rest →
      parseCompare bound (ts ++ rest) = .ok (c, rest)
  | .operand, ts, c => ∀ bound rest, 8 * ts.length ≤ bound + 7 →
      parseOperand bound (ts ++ rest) = .ok (c, rest)

theorem parseOrTail_of_head_ne (bound : Nat) (lhs : Condition) {rest : List Token}
    (hhead : rest.head? ≠ some .or) : parseOrTail bound lhs rest = .ok (lhs, rest) := by
  unfold parseOrTail
  split
  · simp at hhead
  · rfl

theorem parseAndTail_of_head_ne (bound : Nat) (lhs : Condition) {rest : List Token}
    (hhead : rest.head? ≠ some .and) : parseAndTail bound lhs rest = .ok (lhs, rest) := by
  unfold parseAndTail
  split
  · simp at hhead
  · rfl

namespace TakenOff

variable {ts us : List Token} {c lhs rhs : Condition}

theorem ofAnd (hpos : 0 < ts.length) (htaken : TakenOff .and ts c) : TakenOff .or ts c := by
  intro bound rest hbound hrest hand
  obtain ⟨inner, rfl⟩ : ∃ inner, bound = inner + 1 := ⟨bound - 1, by omega⟩
  obtain ⟨left, -, hread⟩ := htaken inner rest (by omega) hrest
  rw [parseAndTail_of_head_ne _ _ hand] at hread
  exact ⟨inner, by omega, by rw [parseOr, hread]⟩

theorem or (hleft : TakenOff .or ts lhs) (hright : TakenOff .and us rhs) :
    TakenOff .or (ts ++ .or :: us) (.or lhs rhs) := by
  intro bound rest hbound hrest hand
  rw [List.length_append, List.length_cons] at hbound ⊢
  obtain ⟨left, hspent, hread⟩ :=
    hleft bound (.or :: (us ++ rest)) (by omega) ⟨by simp, by simp⟩ (by simp)
  obtain ⟨inner, rfl⟩ : ∃ inner, left = inner + 1 := ⟨left - 1, by omega⟩
  obtain ⟨_, -, hnext⟩ := hright inner rest (by omega) hrest
  rw [parseAndTail_of_head_ne _ _ hand] at hnext
  refine ⟨inner, by omega, ?_⟩
  rw [List.append_assoc, List.cons_append, hread, parseOrTail, hnext]

theorem ofUnary (hpos : 0 < ts.length) (htaken : TakenOff .unary ts c) :
    TakenOff .and ts c := by
  intro bound rest hbound hrest
  obtain ⟨inner, rfl⟩ : ∃ inner, bound = inner + 1 := ⟨bound - 1, by omega⟩
  have hread := htaken inner rest (by omega) hrest
  exact ⟨inner, by omega, by rw [parseAnd, hread]⟩

theorem and (hleft : TakenOff .and ts lhs) (hright : TakenOff .unary us rhs) :
    TakenOff .and (ts ++ .and :: us) (.and lhs rhs) := by
  intro bound rest hbound hrest
  rw [List.length_append, List.length_cons] at hbound ⊢
  obtain ⟨left, hspent, hread⟩ :=
    hleft bound (.and :: (us ++ rest)) (by omega) ⟨by simp, by simp⟩
  obtain ⟨inner, rfl⟩ : ∃ inner, left = inner + 1 := ⟨left - 1, by omega⟩
  have hnext := hright inner rest (by omega) hrest
  refine ⟨inner, by omega, ?_⟩
  rw [List.append_assoc, List.cons_append, hread, parseAndTail, hnext]

theorem not (htaken : TakenOff .unary ts c) : TakenOff .unary (.not :: ts) (.not c) := by
  intro bound rest hbound hrest
  rw [List.length_cons] at hbound
  obtain ⟨inner, rfl⟩ : ∃ inner, bound = inner + 1 := ⟨bound - 1, by omega⟩
  have hread := htaken inner rest (by omega) hrest
  rw [List.cons_append, parseUnary, hread]

/-- A comparison does not start with `!`. -/
theorem ofCompare (hpos : 0 < ts.length) (hhead : ts.head? ≠ some .not)
    (htaken : TakenOff .compare ts c) : TakenOff .unary ts c := by
  intro bound rest hbound hrest
  obtain ⟨inner, rfl⟩ : ∃ inner, bound = inner + 1 := ⟨bound - 1, by omega⟩
  have hread := htaken inner rest (by omega) hrest
  obtain ⟨t, others, rfl⟩ := List.exists_cons_of_length_pos hpos
  rw [parseUnary, hread]
  rintro more hmore
  simp_all

theorem ofOperand (hpos : 0 < ts.length) (htaken : TakenOff .operand ts c) :
    TakenOff .compare ts c := by
  intro bound rest hbound ⟨hequal, hdiffer⟩
  obtain ⟨inner, rfl⟩ : ∃ inner, bound = inner + 1 := ⟨bound - 1, by omega⟩
  have hread := htaken inner rest (by omega)
  rw [parseCompare, hread]
  cases rest with
  | nil => rfl
  | cons t others => cases t <;> simp_all

theorem equal (hleft : TakenOff .operand ts lhs) (hright : TakenOff .operand us rhs) :
    TakenOff .compare (ts ++ .equal :: us) (.equal lhs rhs) := by
  intro bound rest hbound _
  rw [List.length_append, List.length_cons] at hbound
  obtain ⟨inner, rfl⟩ : ∃ inner, bound = inner + 1 := ⟨bound - 1, by omega⟩
  have hfirst := hleft inner (.equal :: (us ++ rest)) (by omega)
  have hsecond := hright inner rest (by omega)
  rw [List.append_assoc, List.cons_append, parseCompare, hfirst]
  simp only [hsecond]

theorem differ (hleft : TakenOff .operand ts lhs) (hright : TakenOff .operand us rhs) :
    TakenOff .compare (ts ++ .differ :: us) (.differ lhs rhs) := by
  intro bound rest hbound _
  rw [List.length_append, List.length_cons] at hbound
  obtain ⟨inner, rfl⟩ : ∃ inner, bound = inner + 1 := ⟨bound - 1, by omega⟩
  have hfirst := hleft inner (.differ :: (us ++ rest)) (by omega)
  have hsecond := hright inner rest (by omega)
  rw [List.append_assoc, List.cons_append, parseCompare, hfirst]
  simp only [hsecond]

theorem parentheses (htaken : TakenOff .or ts c) :
    TakenOff .operand (.opening :: ts ++ [.closing]) c := by
  intro bound rest hbound
  rw [List.length_append, List.length_cons, List.length_singleton] at hbound
  obtain ⟨inner, rfl⟩ : ∃ inner, bound = inner + 1 := ⟨bound - 1, by omega⟩
  obtain ⟨left, -, hread⟩ :=
    htaken inner (.closing :: rest) (by omega) ⟨by simp, by simp⟩ (by simp)
  rw [parseOrTail_of_head_ne _ _ (by simp)] at hread
  rw [List.append_assoc, List.singleton_append, List.cons_append, parseOperand, hread]

theorem single {t : Token}
    (hread : ∀ bound rest, parseOperand (bound + 1) (t :: rest) = .ok (c, rest)) :
    TakenOff .operand [t] c := by
  intro bound rest hbound
  obtain ⟨inner, rfl⟩ : ∃ inner, bound = inner + 1 :=
    ⟨bound - 1, by rw [List.length_singleton] at hbound; omega⟩
  exact hread inner rest

end TakenOff

namespace Phrase

variable {level : Level} {ts : List Token} {c : Condition}

theorem head?_operand_ne_not (hphrase : Phrase .operand ts c) : ts.head? ≠ some .not := by
  cases hphrase <;> simp

theorem head?_compare_ne_not (hphrase : Phrase .compare ts c) : ts.head? ≠ some .not := by
  cases hphrase with
  | ofOperand hoperand => exact hoperand.head?_operand_ne_not
  | equal hleft _ | differ hleft _ =>
      have hhead := hleft.head?_operand_ne_not
      obtain ⟨t, others, rfl⟩ := List.exists_cons_of_length_pos hleft.length_pos
      simpa using hhead

theorem takenOff (hphrase : Phrase level ts c) : TakenOff level ts c := by
  induction hphrase with
  | ofAnd hphrase ih => exact ih.ofAnd hphrase.length_pos
  | or _ _ ihleft ihright => exact ihleft.or ihright
  | ofUnary hphrase ih => exact ih.ofUnary hphrase.length_pos
  | and _ _ ihleft ihright => exact ihleft.and ihright
  | not _ ih => exact ih.not
  | ofCompare hphrase ih => exact ih.ofCompare hphrase.length_pos hphrase.head?_compare_ne_not
  | ofOperand hphrase ih => exact ih.ofOperand hphrase.length_pos
  | equal _ _ ihleft ihright => exact ihleft.equal ihright
  | differ _ _ ihleft ihright => exact ihleft.differ ihright
  | parentheses _ ih => exact ih.parentheses
  | reference | text | number => exact .single fun bound rest => by rw [parseOperand]
  | word hword =>
      exact .single fun bound rest => by rw [parseOperand, ofWord_eq_ok_iff.mpr hword]

end Phrase

/-! ## Exactly the phrases are read -/

section

variable {ts : List Token} {c : Condition} {text : String}

/-- The bound decides nothing as long as it is no smaller than the one that is taken. -/
theorem parseOr_eq_ok_nil_iff (extra : Nat) :
    parseOr (levelBound ts + extra) ts = .ok (c, []) ↔ Phrase .or ts c := by
  constructor
  · intro hread
    obtain ⟨front, rfl, hphrase⟩ := startsWith_of_parseOr hread
    simpa using hphrase
  · intro hphrase
    have hbound : 8 * ts.length ≤ levelBound ts + extra + 3 := by
      rw [levelBound]
      omega
    obtain ⟨left, -, hread⟩ :=
      hphrase.takenOff (levelBound ts + extra) [] hbound ⟨by simp, by simp⟩ (by simp)
    rw [parseOrTail_of_head_ne _ _ (by simp)] at hread
    simpa using hread

theorem ofTokens_eq_ok_iff : ofTokens ts = .ok c ↔ Phrase .or ts c := by
  rw [← parseOr_eq_ok_nil_iff 0, Nat.add_zero, ofTokens]
  cases ts with
  | nil => simp [levelBound, parseOr, parseAnd, parseUnary, parseCompare, parseOperand]
  | cons t rest =>
      simp only [List.isEmpty_cons, Bool.false_eq_true, if_false]
      split <;> simp_all

theorem conditionOf_eq_ok_iff :
    conditionOf text = .ok c ↔
      ∃ ts, Token.tokenize text.toList = .ok ts ∧ Phrase .or ts c := by
  rw [conditionOf, parse]
  cases htokens : Token.tokenize text.toList with
  | error fault => simp [Except.mapError]
  | ok ts =>
      simp only [Except.ok.injEq, exists_eq_left', ← ofTokens_eq_ok_iff]
      cases ofTokens ts <;> simp [Except.mapError]

/-- A text that is no guard is refused, and the refusal names it. -/
theorem conditionOf_eq_error_iff :
    (∃ reason, conditionOf text = .error (.invalidExpression text reason)) ↔
      ∀ c, conditionOf text ≠ .ok c := by
  rw [conditionOf]
  cases parse text <;> simp [Except.mapError]

/-- The reader accepts exactly the grammar: a token sequence is read to its end, as that tree, when
it is a phrase with that tree, and a text whose tokens are no phrase is an invalid expression. -/
theorem reads_grammar :
    (∀ ts c extra, parseOr (levelBound ts + extra) ts = .ok (c, []) ↔ Phrase .or ts c) ∧
      ∀ text,
        (∀ c, conditionOf text = .ok c ↔
          ∃ ts, Token.tokenize text.toList = .ok ts ∧ Phrase .or ts c) ∧
        ((∃ reason, conditionOf text = .error (.invalidExpression text reason)) ↔
          ¬∃ ts c, Token.tokenize text.toList = .ok ts ∧ Phrase .or ts c) := by
  refine ⟨fun ts c extra => parseOr_eq_ok_nil_iff extra, fun text => ⟨?_, ?_⟩⟩
  · intro c
    exact conditionOf_eq_ok_iff
  · rw [conditionOf_eq_error_iff]
    constructor
    · rintro hrefused ⟨ts, c, htokens, hphrase⟩
      exact hrefused c (conditionOf_eq_ok_iff.mpr ⟨ts, htokens, hphrase⟩)
    · intro hnone c hread
      obtain ⟨ts, htokens, hphrase⟩ := conditionOf_eq_ok_iff.mp hread
      exact hnone ⟨ts, c, htokens, hphrase⟩

/-- `!` takes the whole comparison behind it. -/
example : ofTokens [.not, .reference .memory "a", .equal, .text "b"] =
    .ok (.not (.equal (.reference .memory "a") (.literal (.text "b")))) := rfl

/-- The second sign of a chain of comparisons is left over. -/
example : ofTokens [.text "a", .equal, .text "b", .equal, .text "c"] =
    .error (.strangeToken .equal) := rfl

end

end Guard
end Scaffold
