import Mathlib.Data.List.Chain
import Scaffold.Proofs.GuardGrammar
import Scaffold.Proofs.Guards
import Scaffold.Proofs.ReferenceSpelling

/-!
# Spellings of guards

A condition is written with parentheses around each operand that is no atom, in either quotes,
with either spelling of the comparison signs and with any blanks between the tokens.  Every such
text is read as the condition.

Between the tokens of a phrase the blanks may be left out: a token that ends an operand stands
before one that starts none, and the other way round, and so no token is drawn into the one before
it.
-/

namespace Scaffold

/-! ## Spellings of tokens -/

namespace Token

/-- The text with a backslash before each backslash and before each quote of that kind. -/
def escaped (quote : Char) : List Char → List Char
  | [] => []
  | c :: rest =>
      if c = quote ∨ c = '\\' then '\\' :: c :: escaped quote rest else c :: escaped quote rest

/-- The texts of a token.  A number is any plain decimal that is read as it. -/
inductive Spelled : Token → List Char → Prop
  | reference (scope : Scope) {name : String} (hname : VariableRef.isName name.toList = true) :
      Spelled (.reference scope name) (scope.sigil :: name.toList)
  | text (s : String) {quote : Char} (hquote : quote = '\'' ∨ quote = '"') :
      Spelled (.text s) (quote :: escaped quote s.toList ++ [quote])
  | number {x : Binary64} {cs : List Char} (hread : Binary64.ofPlain? cs = some x)
      (hhead : cs.head? ≠ some '.') : Spelled (.number x) cs
  | word {w : String} {value : Literal} (hword : (w, value) ∈ Guard.wordValues) :
      Spelled (.word w) w.toList
  | not : Spelled .not ['!']
  | and : Spelled .and ['&', '&']
  | or : Spelled .or ['|', '|']
  | equal : Spelled .equal ['=', '=']
  | strictlyEqual : Spelled .equal ['=', '=', '=']
  | differ : Spelled .differ ['!', '=']
  | strictlyDiffer : Spelled .differ ['!', '=', '=']
  | opening : Spelled .opening ['(']
  | closing : Spelled .closing [')']

/-- The tokens are written one behind the other, with any blanks before, between and behind. -/
inductive Written : List Token → List Char → Prop
  | nil {blanks : List Char} (hblank : ∀ b ∈ blanks, Text.isBlank b = true) : Written [] blanks
  | cons {t : Token} {ts : List Token} {blanks cs more : List Char}
      (hblank : ∀ b ∈ blanks, Text.isBlank b = true) (hspelled : t.Spelled cs)
      (hmore : Written ts more) : Written (t :: ts) (blanks ++ (cs ++ more))

/-- Whether the character would be drawn into the token if it stood right behind it. -/
def draws : Token → Char → Bool
  | .reference .., c => VariableRef.isNameChar c
  | .number _, c => isNumberChar c
  | .word _, c => isWordChar c
  | .not, c => c == '='
  | .equal, c => c == '='
  | .differ, c => c == '='
  | _, _ => false

/-! ## A spelled token is scanned as a whole -/

theorem readText_of_quote (quote : Char) (rest : List Char) :
    readText quote (quote :: rest) = .ok ([], 1) := by
  rw [readText.eq_def]
  simp

theorem readText_of_backslash {quote : Char} (hquote : quote ≠ '\\') (c : Char)
    (rest : List Char) :
    readText quote ('\\' :: c :: rest) =
      (readText quote rest).map fun (s, used) => (unescape c :: s, used + 2) := by
  rw [readText.eq_def]
  simp [hquote.symm]

theorem readText_of_plain {quote c : Char} (hquote : c ≠ quote) (hbackslash : c ≠ '\\')
    (rest : List Char) :
    readText quote (c :: rest) =
      (readText quote rest).map fun (s, used) => (c :: s, used + 1) := by
  rw [readText.eq_def]
  simp [hquote, hbackslash]

theorem readText_escaped {quote : Char} (hquote : quote = '\'' ∨ quote = '"')
    (s rest : List Char) :
    readText quote (escaped quote s ++ quote :: rest) = .ok (s, (escaped quote s).length + 1) := by
  have hbackslash : quote ≠ '\\' := by rcases hquote with rfl | rfl <;> decide
  induction s with
  | nil => exact readText_of_quote quote rest
  | cons c s ih =>
      by_cases hescaped : c = quote ∨ c = '\\'
      · have hback : unescape c = c := by
          rcases hescaped with rfl | rfl
          · rcases hquote with rfl | rfl <;> rfl
          · rfl
        rw [escaped, if_pos hescaped, List.cons_append, List.cons_append,
          readText_of_backslash hbackslash, ih, hback]
        rfl
      · have hplain : c ≠ quote ∧ c ≠ '\\' := not_or.mp hescaped
        rw [escaped, if_neg hescaped, List.cons_append, readText_of_plain hplain.1 hplain.2, ih]
        rfl

/-- A character that may stand in names is no blank, no sign, no quote and no sigil. -/
structure Bare (c : Char) : Prop where
  blank : Text.isBlank c = false
  signs : ∀ d ∈ ['(', ')', '!', '=', '&', '|'], c ≠ d
  quotes : ¬(c = '\'' ∨ c = '"')
  sigil : Scope.ofSigil? c = none

theorem bare_of_isNameChar {c : Char} (hname : VariableRef.isNameChar c = true) : Bare c := by
  have hne : ∀ d, VariableRef.isNameChar d = false → c ≠ d := by
    rintro d hd rfl
    simp [hd] at hname
  refine ⟨VariableRef.isBlank_eq_false_of_isNameChar hname, ?_, ?_, ?_⟩
  · simp only [List.forall_mem_cons]
    exact ⟨hne _ rfl, hne _ rfl, hne _ rfl, hne _ rfl, hne _ rfl, hne _ rfl, by simp⟩
  · exact not_or.mpr ⟨hne _ rfl, hne _ rfl⟩
  · unfold Scope.ofSigil?
    split
    · exact absurd rfl (hne _ rfl)
    · exact absurd rfl (hne _ rfl)
    · rfl

theorem scan_of_isNumberStart {c : Char} (hbare : Bare c) (hstart : isNumberStart c = true)
    {rest : List Char} {x : Binary64}
    (hread : Binary64.ofPlain? (c :: rest.takeWhile isNumberChar) = some x) :
    scan c rest = .ok (some (.number x), (rest.takeWhile isNumberChar).length) := by
  obtain ⟨hblank, hsigns, hquotes, hsigil⟩ := hbare
  unfold scan
  rw [if_neg (by simp [hblank]), if_neg (hsigns _ (by simp)), if_neg (hsigns _ (by simp)),
    if_neg (hsigns _ (by simp)), if_neg (hsigns _ (by simp)), if_neg (hsigns _ (by simp)),
    if_neg (hsigns _ (by simp)), if_neg hquotes, hsigil]
  simp only [hstart, if_true, hread]

theorem scan_of_isWordStart {c : Char} (hbare : Bare c) (hnumber : isNumberStart c = false)
    (hstart : isWordStart c = true) (rest : List Char) :
    scan c rest =
      .ok (some (.word (String.ofList (c :: rest.takeWhile isWordChar))),
        (rest.takeWhile isWordChar).length) := by
  obtain ⟨hblank, hsigns, hquotes, hsigil⟩ := hbare
  unfold scan
  rw [if_neg (by simp [hblank]), if_neg (hsigns _ (by simp)), if_neg (hsigns _ (by simp)),
    if_neg (hsigns _ (by simp)), if_neg (hsigns _ (by simp)), if_neg (hsigns _ (by simp)),
    if_neg (hsigns _ (by simp)), if_neg hquotes, hsigil]
  simp only [hnumber, hstart, Bool.false_eq_true, if_false, if_true]

theorem isNumberChar_eq_false {c : Char} (hname : VariableRef.isNameChar c = false) :
    isNumberChar c = false := by
  simp only [isNumberChar, VariableRef.isNameChar, Char.isAlphanum] at hname ⊢
  grind

theorem isWordChar_eq_false {c : Char} (hname : VariableRef.isNameChar c = false) :
    isWordChar c = false := by
  simp only [isWordChar, VariableRef.isNameChar] at hname ⊢
  grind

theorem isNameChar_of_isNumberChar {c : Char} (hnumber : isNumberChar c = true) :
    VariableRef.isNameChar c = true := by
  by_contra hname
  simp [isNumberChar_eq_false (by simpa using hname)] at hnumber

theorem isNameChar_of_isWordStart {c : Char} (hword : isWordStart c = true) :
    VariableRef.isNameChar c = true := by
  simp only [isWordStart, VariableRef.isNameChar, Char.isAlphanum] at hword ⊢
  grind

/-- No token takes in a blank behind it. -/
theorem draws_eq_false_of_isBlank {c : Char} (hblank : Text.isBlank c = true) (t : Token) :
    t.draws c = false := by
  have hname : VariableRef.isNameChar c = false := by
    by_contra h
    simp [VariableRef.isBlank_eq_false_of_isNameChar (by simpa using h)] at hblank
  have hequal : c ≠ '=' := by
    rintro rfl
    simp [Text.isBlank] at hblank
  cases t <;> simp only [draws, hname, beq_eq_false_iff_ne, ne_eq, hequal, not_false_eq_true]
  · exact isNumberChar_eq_false hname
  · exact isWordChar_eq_false hname

theorem isNumberChar_of_ofPlain? {cs : List Char} {x : Binary64}
    (hread : Binary64.ofPlain? cs = some x) : ∀ c ∈ cs, isNumberChar c = true := by
  have hdigits : ∀ ds : List Char, ds.all Char.isDigit = true →
      ∀ c ∈ ds, isNumberChar c = true := by
    intro ds hds c hc
    simp [isNumberChar, List.all_eq_true.mp hds c hc]
  unfold Binary64.ofPlain? at hread
  split at hread
  next negative body hsign =>
    have hbody : ∀ c ∈ cs, c = '-' ∨ c ∈ body := by
      split at hsign
      · obtain ⟨-, rfl⟩ := Prod.mk.inj hsign
        simp
      · obtain ⟨-, rfl⟩ := Prod.mk.inj hsign
        exact fun c hc => Or.inr hc
    have hpoint : ∀ c ∈ body.dropWhile Char.isDigit, isNumberChar c = true := by
      dsimp only at hread
      split at hread
      · next hnil => simp [hnil]
      · next places hplaces =>
          have hall : places.all Char.isDigit = true := by
            by_contra hnot
            simp [hnot] at hread
          intro c hc
          rw [hplaces] at hc
          rcases List.mem_cons.mp hc with rfl | hc
          · rfl
          · exact hdigits places hall c hc
      · simp at hread
    intro c hc
    rcases hbody c hc with rfl | hc
    · rfl
    · rw [← List.takeWhile_append_dropWhile (p := Char.isDigit) (l := body)] at hc
      rcases List.mem_append.mp hc with hwhole | hrest
      · exact hdigits _ List.all_takeWhile c hwhole
      · exact hpoint c hrest

theorem leadingEquals_eq_zero {rest : List Char} (hrest : ∀ d ∈ rest.head?, (d == '=') = false) :
    leadingEquals rest = 0 := by
  unfold leadingEquals
  split
  · simp at hrest
  · rfl

theorem scan_spelled {t : Token} {cs rest : List Char} (hspelled : t.Spelled cs)
    (hrest : ∀ d ∈ rest.head?, t.draws d = false) :
    ∃ c tail, cs = c :: tail ∧ scan c (tail ++ rest) = .ok (some t, tail.length) := by
  cases hspelled with
  | @reference scope name hname =>
      refine ⟨scope.sigil, name.toList, rfl, ?_⟩
      rw [scan_sigil scope hname hrest, String.ofList_toList]
  | @text s quote hquote =>
      refine ⟨quote, escaped quote s.toList ++ [quote], rfl, ?_⟩
      have hread := readText_escaped hquote s.toList rest
      have hscan : scan quote (escaped quote s.toList ++ quote :: rest) =
          (readText quote (escaped quote s.toList ++ quote :: rest)).map fun (s, used) =>
            (some (.text (String.ofList s)), used) := by
        rcases hquote with rfl | rfl <;> rfl
      rw [List.append_assoc, List.singleton_append, hscan, hread]
      simp [Except.map]
  | @number x cs hread hhead =>
      obtain ⟨c, tail, rfl⟩ : ∃ c tail, cs = c :: tail := by
        cases cs with
        | nil => simp [Binary64.ofPlain?] at hread
        | cons c tail => exact ⟨c, tail, rfl⟩
      have hchars := isNumberChar_of_ofPlain? hread
      have hfirst := hchars c (by simp)
      have hstart : isNumberStart c = true := by
        have hpoint : c ≠ '.' := by simpa using hhead
        simpa [isNumberStart, isNumberChar, hpoint] using hfirst
      have htail : (tail ++ rest).takeWhile isNumberChar = tail :=
        takeWhile_append_eq (fun d hd => hchars d (by simp [hd])) hrest
      have hbare := bare_of_isNameChar (isNameChar_of_isNumberChar hfirst)
      refine ⟨c, tail, rfl, ?_⟩
      rw [scan_of_isNumberStart hbare hstart (htail.symm ▸ hread), htail]
  | @word w value hword =>
      obtain ⟨c, tail, hw, hstart, hnumber, htail⟩ : ∃ c tail, w.toList = c :: tail ∧
          isWordStart c = true ∧ isNumberStart c = false ∧ ∀ d ∈ tail, isWordChar d = true := by
        simp only [Guard.wordValues, List.mem_cons, Prod.mk.injEq, List.not_mem_nil,
          or_false] at hword
        rcases hword with ⟨rfl, -⟩ | ⟨rfl, -⟩ | ⟨rfl, -⟩ | ⟨rfl, -⟩ <;>
          exact ⟨_, _, rfl, by decide, by decide, List.all_eq_true.mp (by decide)⟩
      have hbare := bare_of_isNameChar (isNameChar_of_isWordStart hstart)
      refine ⟨c, tail, hw, ?_⟩
      rw [scan_of_isWordStart hbare hnumber hstart, takeWhile_append_eq htail hrest, ← hw,
        String.ofList_toList]
  | not =>
      refine ⟨'!', [], rfl, ?_⟩
      cases rest with
      | nil => rfl
      | cons d others =>
          have hd : d ≠ '=' := by simpa [draws] using hrest
          have hscan : scan '!' (d :: others) = .ok (some .not, 0) := by
            unfold scan
            rw [if_neg (by decide), if_neg (by decide), if_neg (by decide), if_pos rfl]
            split
            · simp_all
            · rfl
          exact hscan
  | and | or | opening | closing => exact ⟨_, _, rfl, rfl⟩
  | equal =>
      have hscan : scan '=' ('=' :: rest) = .ok (some .equal, 1 + leadingEquals rest) := rfl
      refine ⟨'=', ['='], rfl, ?_⟩
      rw [List.singleton_append, hscan, leadingEquals_eq_zero hrest]
      rfl
  | differ =>
      have hscan : scan '!' ('=' :: rest) = .ok (some .differ, 1 + leadingEquals rest) := rfl
      refine ⟨'!', ['='], rfl, ?_⟩
      rw [List.singleton_append, hscan, leadingEquals_eq_zero hrest]
      rfl
  | strictlyEqual | strictlyDiffer => exact ⟨_, _, rfl, rfl⟩

/-! ## Tokens side by side -/

/-- An operand, or what may stand in front of one. -/
def startsOperand : Token → Bool
  | .reference .. => true
  | .text _ => true
  | .number _ => true
  | .word _ => true
  | .opening => true
  | .not => true
  | _ => false

def endsOperand : Token → Bool
  | .reference .. => true
  | .text _ => true
  | .number _ => true
  | .word _ => true
  | .closing => true
  | _ => false

/-- The second may stand right behind the first: an operand has just ended, or else one starts. -/
def Adjoins (t u : Token) : Prop := t.endsOperand = !u.startsOperand

theorem Spelled.head {t : Token} {cs : List Char} (hspelled : t.Spelled cs) :
    (t.startsOperand = false ∧ ∀ d ∈ cs.head?, VariableRef.isNameChar d = false) ∨
      (t.startsOperand = true ∧ ∀ d ∈ cs.head?, d ≠ '=') := by
  cases hspelled with
  | reference scope hname =>
      refine Or.inr ⟨rfl, ?_⟩
      cases scope <;> simp [Scope.sigil]
  | text s hquote =>
      refine Or.inr ⟨rfl, ?_⟩
      rcases hquote with rfl | rfl <;> simp
  | number hread hhead =>
      refine Or.inr ⟨rfl, ?_⟩
      rintro d hd rfl
      have hchar := isNumberChar_of_ofPlain? hread '=' (List.mem_of_mem_head? hd)
      simp [isNumberChar] at hchar
  | word hword =>
      refine Or.inr ⟨rfl, ?_⟩
      simp only [Guard.wordValues, List.mem_cons, Prod.mk.injEq, List.not_mem_nil,
        or_false] at hword
      rcases hword with ⟨rfl, -⟩ | ⟨rfl, -⟩ | ⟨rfl, -⟩ | ⟨rfl, -⟩ <;> simp
  | not | opening => exact Or.inr ⟨rfl, by simp⟩
  | and | or | equal | strictlyEqual | differ | strictlyDiffer | closing =>
      exact Or.inl ⟨rfl, by simp [VariableRef.isNameChar]⟩

theorem draws_eq_false_of_adjoins {t u : Token} (hadjoins : Adjoins t u) {cs : List Char}
    (hspelled : u.Spelled cs) : ∀ d ∈ cs.head?, t.draws d = false := by
  intro d hd
  rw [Adjoins] at hadjoins
  rcases hspelled.head with ⟨hstarts, hhead⟩ | ⟨hstarts, hhead⟩
  · have hname := hhead d hd
    cases t <;> simp_all [endsOperand, draws]
    · exact isNumberChar_eq_false hname
    · exact isWordChar_eq_false hname
  · have hequal := hhead d hd
    cases t <;> simp_all [endsOperand, draws]

theorem scan_of_isBlank {c : Char} (hblank : Text.isBlank c = true) (rest : List Char) :
    scan c rest = .ok (none, 0) := by
  unfold scan
  rw [if_pos hblank]

theorem tokenize_blanks {blanks : List Char} (hblank : ∀ b ∈ blanks, Text.isBlank b = true)
    (rest : List Char) : tokenize (blanks ++ rest) = tokenize rest := by
  induction blanks with
  | nil => rfl
  | cons b blanks ih =>
      have hscan := scan_of_isBlank (hblank b List.mem_cons_self) (blanks ++ rest)
      have hrest := ih fun c hc => hblank c (List.mem_cons_of_mem b hc)
      rw [List.cons_append, tokenize_cons, hscan]
      simp only [List.drop_zero, hrest, Option.toList_none, List.nil_append]
      cases tokenize rest <;> rfl

theorem tokenize_spelled {t : Token} {cs rest : List Char} (hspelled : t.Spelled cs)
    (hrest : ∀ d ∈ rest.head?, t.draws d = false) :
    tokenize (cs ++ rest) = (tokenize rest).map (t :: ·) := by
  obtain ⟨c, tail, rfl, hscan⟩ := scan_spelled hspelled hrest
  rw [List.cons_append, tokenize_cons, hscan]
  simp

/-- What stands at the front of written tokens is a blank or the front of the first token. -/
theorem Written.head {ts : List Token} {cs : List Char} (hwritten : Written ts cs) :
    ∀ d ∈ cs.head?, Text.isBlank d = true ∨
      ∃ u ∈ ts.head?, ∃ spelled, u.Spelled spelled ∧ d ∈ spelled.head? := by
  intro d hd
  cases hwritten with
  | nil hblank => exact Or.inl (hblank d (List.mem_of_mem_head? hd))
  | @cons u ts blanks spelled more hblank hspelled hmore =>
      cases blanks with
      | nil =>
          obtain ⟨c, tail, rfl, -⟩ := @scan_spelled u spelled [] hspelled (by simp)
          exact Or.inr ⟨u, rfl, _, hspelled, hd⟩
      | cons b blanks =>
          obtain rfl : b = d := by simpa using hd
          exact Or.inl (hblank b (by simp))

/-- Between tokens that may adjoin, the blanks do not matter. -/
theorem tokenize_written {ts : List Token} {cs : List Char} (hchain : ts.IsChain Adjoins)
    (hwritten : Written ts cs) : tokenize cs = .ok ts := by
  induction hwritten with
  | nil hblank =>
      have hrest := tokenize_blanks hblank []
      rwa [List.append_nil, tokenize_nil] at hrest
  | @cons t ts blanks cs more hblank hspelled hmore ih =>
      -- Behind the token stands a blank or the front of the next one, and it takes in neither.
      have hbehind : ∀ d ∈ more.head?, t.draws d = false := by
        intro d hd
        rcases hmore.head d hd with hd | ⟨u, hu, spelled, hspelled, hd⟩
        · exact draws_eq_false_of_isBlank hd t
        · cases ts with
          | nil => simp at hu
          | cons v ts =>
              obtain rfl : v = u := by simpa using hu
              exact draws_eq_false_of_adjoins (List.isChain_cons_cons.mp hchain).1 hspelled d hd
      rw [tokenize_blanks hblank, tokenize_spelled hspelled hbehind, ih hchain.tail]
      rfl

end Token

/-! ## Phrases may be written without blanks -/

namespace Guard

open Token

/-- The tokens may stand side by side, between signs that take operands. -/
structure Row (ts : List Token) : Prop where
  nonempty : ts ≠ []
  chain : ts.IsChain Adjoins
  starts : ∀ t ∈ ts.head?, t.startsOperand = true
  ends : ∀ t ∈ ts.getLast?, t.endsOperand = true

namespace Row

variable {ts us : List Token}

theorem single {t : Token} (hstarts : t.startsOperand = true) (hends : t.endsOperand = true) :
    Row [t] where
  nonempty := by simp
  chain := List.isChain_singleton t
  starts := by simpa using hstarts
  ends := by simpa using hends

theorem join {sign : Token} (hleft : Row ts) (hright : Row us)
    (hends : sign.endsOperand = false) (hstarts : sign.startsOperand = false) :
    Row (ts ++ sign :: us) where
  nonempty := by simp
  chain := by
    have hback : (sign :: us).IsChain Adjoins := by
      refine List.isChain_cons.mpr ⟨fun u hu => ?_, hright.chain⟩
      rw [Adjoins, hends, hright.starts u hu]
      rfl
    refine hleft.chain.append hback fun t ht u hu => ?_
    obtain rfl : sign = u := by simpa using hu
    rw [Adjoins, hleft.ends t ht, hstarts]
    rfl
  starts := by
    rw [List.head?_append_of_ne_nil ts hleft.nonempty]
    exact hleft.starts
  ends := by
    obtain ⟨u, more, rfl⟩ := List.exists_cons_of_ne_nil hright.nonempty
    rw [List.getLast?_append_cons, List.getLast?_cons_cons]
    exact hright.ends

theorem not (hrow : Row ts) : Row (.not :: ts) where
  nonempty := by simp
  chain := by
    refine List.isChain_cons.mpr ⟨fun u hu => ?_, hrow.chain⟩
    rw [Adjoins, hrow.starts u hu]
    rfl
  starts := by simp [startsOperand]
  ends := by
    obtain ⟨u, more, rfl⟩ := List.exists_cons_of_ne_nil hrow.nonempty
    rw [List.getLast?_cons_cons]
    exact hrow.ends

theorem parentheses (hrow : Row ts) : Row (.opening :: ts ++ [.closing]) where
  nonempty := by simp
  chain := by
    have hback : (ts ++ [Token.closing]).IsChain Adjoins := by
      refine hrow.chain.append (List.isChain_singleton _) fun t ht u hu => ?_
      obtain rfl : Token.closing = u := by simpa using hu
      rw [Adjoins, hrow.ends t ht]
      rfl
    rw [List.cons_append]
    refine List.isChain_cons.mpr ⟨fun u hu => ?_, hback⟩
    rw [List.head?_append_of_ne_nil ts hrow.nonempty] at hu
    rw [Adjoins, hrow.starts u hu]
    rfl
  starts := by simp [startsOperand]
  ends := by
    rw [List.getLast?_concat]
    simp [endsOperand]

end Row

theorem Phrase.row {level : Level} {ts : List Token} {c : Condition}
    (hphrase : Phrase level ts c) : Row ts := by
  induction hphrase with
  | ofAnd _ ih | ofUnary _ ih | ofCompare _ ih | ofOperand _ ih => exact ih
  | or _ _ ihleft ihright | and _ _ ihleft ihright | equal _ _ ihleft ihright
  | differ _ _ ihleft ihright => exact ihleft.join ihright rfl rfl
  | not _ ih => exact ih.not
  | parentheses _ ih => exact ih.parentheses
  | reference | text | number | word => exact .single rfl rfl

theorem Phrase.or_of_operand {ts : List Token} {c : Condition} (hphrase : Phrase .operand ts c) :
    Phrase .or ts c :=
  hphrase.ofOperand.ofCompare.ofUnary.ofAnd

/-- However a phrase is written, it is read as its tree. -/
theorem conditionOf_of_written {ts : List Token} {c : Condition} {text : String}
    (hphrase : Phrase .or ts c) (hwritten : Written ts text.toList) :
    conditionOf text = .ok c :=
  conditionOf_eq_ok_iff.mpr ⟨ts, tokenize_written hphrase.row.chain hwritten, hphrase⟩

end Guard

/-! ## Conditions in writing -/

def Literal.token : Literal → Token
  | .text s => .text s
  | .number x => .number x
  | .bool true => .word "true"
  | .bool false => .word "false"
  | .null => .word "null"
  | .undefined => .word "undefined"

namespace Condition

/-- References and literals need no parentheses. -/
def isAtom : Condition → Bool
  | .reference .. => true
  | .literal _ => true
  | _ => false

/-- The tokens of an operand: those of the condition, in parentheses unless it is an atom. -/
def enclosed (c : Condition) (ts : List Token) : List Token :=
  if c.isAtom then ts else .opening :: ts ++ [.closing]

/-- The tokens of a condition, each operand that is no atom in parentheses. -/
def tokens : Condition → List Token
  | .reference scope name => [.reference scope name]
  | .literal value => [value.token]
  | .not inner => .not :: inner.enclosed inner.tokens
  | .and lhs rhs => lhs.enclosed lhs.tokens ++ .and :: rhs.enclosed rhs.tokens
  | .or lhs rhs => lhs.enclosed lhs.tokens ++ .or :: rhs.enclosed rhs.tokens
  | .equal lhs rhs => lhs.enclosed lhs.tokens ++ .equal :: rhs.enclosed rhs.tokens
  | .differ lhs rhs => lhs.enclosed lhs.tokens ++ .differ :: rhs.enclosed rhs.tokens

/-- Names are names of variables, and each number has a plain decimal that is read as it. -/
def Printable : Condition → Prop
  | .reference _ name => VariableRef.isName name.toList = true
  | .literal (.number x) => ∃ cs, Binary64.ofPlain? cs = some x ∧ cs.head? ≠ some '.'
  | .literal _ => True
  | .not inner => inner.Printable
  | .and lhs rhs => lhs.Printable ∧ rhs.Printable
  | .or lhs rhs => lhs.Printable ∧ rhs.Printable
  | .equal lhs rhs => lhs.Printable ∧ rhs.Printable
  | .differ lhs rhs => lhs.Printable ∧ rhs.Printable

open Guard

theorem phrase_literal (value : Literal) : Phrase .operand [value.token] (.literal value) := by
  match value with
  | .text s => exact .text s
  | .number x => exact .number x
  | .bool true => exact .word (by simp [wordValues])
  | .bool false => exact .word (by simp [wordValues])
  | .null => exact .word (by simp [wordValues])
  | .undefined => exact .word (by simp [wordValues])

/-- In parentheses where these are needed, a phrase is an operand. -/
theorem phrase_enclosed {c : Condition} {ts : List Token}
    (hphrase : if c.isAtom then Phrase .operand ts c else Phrase .or ts c) :
    Phrase .operand (c.enclosed ts) c := by
  unfold enclosed
  split_ifs at hphrase ⊢
  · exact hphrase
  · exact hphrase.parentheses

theorem phrase_tokens (c : Condition) :
    if c.isAtom then Phrase .operand c.tokens c else Phrase .or c.tokens c := by
  induction c with
  | reference scope name => exact .reference scope name
  | literal value => exact phrase_literal value
  | not inner ih =>
      have hinner := phrase_enclosed ih
      exact (hinner.ofOperand.ofCompare.not).ofUnary.ofAnd
  | and lhs rhs ihleft ihright =>
      have hleft := phrase_enclosed ihleft
      have hright := phrase_enclosed ihright
      exact (hleft.ofOperand.ofCompare.ofUnary.and hright.ofOperand.ofCompare).ofAnd
  | or lhs rhs ihleft ihright =>
      have hleft := phrase_enclosed ihleft
      have hright := phrase_enclosed ihright
      exact hleft.or_of_operand.or hright.ofOperand.ofCompare.ofUnary
  | equal lhs rhs ihleft ihright =>
      have hleft := phrase_enclosed ihleft
      have hright := phrase_enclosed ihright
      exact (hleft.equal hright).ofCompare.ofUnary.ofAnd
  | differ lhs rhs ihleft ihright =>
      have hleft := phrase_enclosed ihleft
      have hright := phrase_enclosed ihright
      exact (hleft.differ hright).ofCompare.ofUnary.ofAnd

theorem phrase_or_tokens (c : Condition) : Phrase .or c.tokens c := by
  have hphrase := phrase_tokens c
  split_ifs at hphrase
  · exact hphrase.or_of_operand
  · exact hphrase

theorem exists_spelled_enclosed {c : Condition} {ts : List Token}
    (hspelled : ∀ t ∈ ts, ∃ cs, t.Spelled cs) : ∀ t ∈ c.enclosed ts, ∃ cs, t.Spelled cs := by
  intro t ht
  unfold enclosed at ht
  split_ifs at ht
  · exact hspelled t ht
  · rcases List.mem_append.mp ht with hfront | hclosing
    · rcases List.mem_cons.mp hfront with rfl | hinner
      · exact ⟨_, .opening⟩
      · exact hspelled t hinner
    · obtain rfl := List.mem_singleton.mp hclosing
      exact ⟨_, .closing⟩

theorem exists_spelled_join {ts us : List Token} {sign : Token}
    (hleft : ∀ t ∈ ts, ∃ cs, t.Spelled cs) (hsign : ∃ cs, sign.Spelled cs)
    (hright : ∀ t ∈ us, ∃ cs, t.Spelled cs) : ∀ t ∈ ts ++ sign :: us, ∃ cs, t.Spelled cs := by
  intro t ht
  rcases List.mem_append.mp ht with hfront | hback
  · exact hleft t hfront
  · rcases List.mem_cons.mp hback with rfl | hback
    · exact hsign
    · exact hright t hback

theorem exists_spelled_literal {value : Literal}
    (hprintable : (Condition.literal value).Printable) :
    ∃ cs, value.token.Spelled cs := by
  match value, hprintable with
  | .text s, _ => exact ⟨_, .text s (Or.inl rfl)⟩
  | .number x, ⟨cs, hread, hhead⟩ => exact ⟨cs, .number hread hhead⟩
  | .bool true, _ => exact ⟨_, @Token.Spelled.word "true" (.bool true) (by simp [wordValues])⟩
  | .bool false, _ => exact ⟨_, @Token.Spelled.word "false" (.bool false) (by simp [wordValues])⟩
  | .null, _ => exact ⟨_, @Token.Spelled.word "null" .null (by simp [wordValues])⟩
  | .undefined, _ => exact ⟨_, @Token.Spelled.word "undefined" .undefined (by simp [wordValues])⟩

theorem exists_spelled {c : Condition} (hprintable : c.Printable) :
    ∀ t ∈ c.tokens, ∃ cs, t.Spelled cs := by
  induction c with
  | reference scope name =>
      intro t ht
      obtain rfl := List.mem_singleton.mp ht
      exact ⟨_, .reference scope hprintable⟩
  | literal value =>
      intro t ht
      obtain rfl := List.mem_singleton.mp ht
      exact exists_spelled_literal hprintable
  | not inner ih =>
      have hinner := exists_spelled_enclosed (c := inner) (ih hprintable)
      intro t ht
      rcases List.mem_cons.mp ht with rfl | ht
      · exact ⟨_, .not⟩
      · exact hinner t ht
  | and lhs rhs ihleft ihright =>
      exact exists_spelled_join (exists_spelled_enclosed (ihleft hprintable.1)) ⟨_, .and⟩
        (exists_spelled_enclosed (ihright hprintable.2))
  | or lhs rhs ihleft ihright =>
      exact exists_spelled_join (exists_spelled_enclosed (ihleft hprintable.1)) ⟨_, .or⟩
        (exists_spelled_enclosed (ihright hprintable.2))
  | equal lhs rhs ihleft ihright =>
      exact exists_spelled_join (exists_spelled_enclosed (ihleft hprintable.1)) ⟨_, .equal⟩
        (exists_spelled_enclosed (ihright hprintable.2))
  | differ lhs rhs ihleft ihright =>
      exact exists_spelled_join (exists_spelled_enclosed (ihleft hprintable.1)) ⟨_, .differ⟩
        (exists_spelled_enclosed (ihright hprintable.2))

theorem exists_written {ts : List Token} (hspelled : ∀ t ∈ ts, ∃ cs, t.Spelled cs) :
    ∃ cs, Token.Written ts cs := by
  induction ts with
  | nil => exact ⟨[], .nil (by simp)⟩
  | cons t ts ih =>
      obtain ⟨cs, hcs⟩ := hspelled t List.mem_cons_self
      obtain ⟨more, hmore⟩ := ih fun u hu => hspelled u (List.mem_cons_of_mem t hu)
      have hnone : ∀ b ∈ ([] : List Char), Text.isBlank b = true := by simp
      exact ⟨_, .cons hnone hcs hmore⟩

/-- A condition that can be printed is read back: it has a text, and every text of it, whatever its
quotes, its spellings of the comparison signs and its blanks, is read as the condition itself. -/
theorem conditionOf_written {c : Condition} (hprintable : c.Printable) :
    (∃ text : String, Token.Written c.tokens text.toList) ∧
      ∀ text : String, Token.Written c.tokens text.toList → Guard.conditionOf text = .ok c := by
  constructor
  · obtain ⟨cs, hwritten⟩ := exists_written (exists_spelled hprintable)
    exact ⟨String.ofList cs, by rwa [String.toList_ofList]⟩
  · intro text hwritten
    exact conditionOf_of_written (phrase_or_tokens c) hwritten

def quoted : Condition :=
  .and (.not (.equal (.literal (.text "it's")) (.reference .memory "a.b-c")))
    (.differ (.reference .store "x") (.literal (.number (Binary64.ofRatio true 3 2))))

theorem quoted_printable : quoted.Printable := by
  have hmemory : VariableRef.isName "a.b-c".toList = true := by decide
  have hstore : VariableRef.isName "x".toList = true := by decide
  exact ⟨⟨trivial, hmemory⟩, hstore, ['-', '1', '.', '5'], by decide, by decide⟩

theorem quoted_written :
    Token.Written quoted.tokens "(!('it\\'s' ===#a.b-c))&&( @x!=-1.5)\n".toList := by
  have hmemory : VariableRef.isName "a.b-c".toList = true := by decide
  have hstore : VariableRef.isName "x".toList = true := by decide
  have hnumber : Binary64.ofPlain? ['-', '1', '.', '5'] = some (Binary64.ofRatio true 3 2) := by
    decide
  have hnone : ∀ b ∈ ([] : List Char), Text.isBlank b = true := by simp
  have hspace : ∀ b ∈ [' '], Text.isBlank b = true := by simp [Text.isBlank]
  have hline : ∀ b ∈ ['\n'], Text.isBlank b = true := by simp [Text.isBlank]
  have hwritten : Token.Written quoted.tokens _ :=
    .cons hnone .opening <| .cons hnone .not <| .cons hnone .opening <|
    .cons hnone (.text "it's" (Or.inl rfl)) <| .cons hspace .strictlyEqual <|
    .cons hnone (.reference .memory hmemory) <| .cons hnone .closing <|
    .cons hnone .closing <| .cons hnone .and <| .cons hnone .opening <|
    .cons hspace (.reference .store hstore) <| .cons hnone .differ <|
    .cons hnone (.number hnumber (by decide)) <| .cons hnone .closing <| .nil hline
  exact hwritten

/-- Quotes, escapes, both lengths of a sign, blanks where they may be and a negative number. -/
theorem conditionOf_written_quoted :
    quoted.Printable ∧
      Guard.conditionOf "(!('it\\'s' ===#a.b-c))&&( @x!=-1.5)\n" = .ok quoted :=
  ⟨quoted_printable, (conditionOf_written quoted_printable).2 _ quoted_written⟩

end Condition

end Scaffold
