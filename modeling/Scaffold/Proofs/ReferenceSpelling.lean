import Mathlib.Data.List.Basic
import Scaffold.Proofs.Trimming
import Scaffold.Variables.Reference

/-!
# Spellings of references

A reference is written between angle brackets, with any blanks around the whole, around its sigil
and around its name.  These texts are read as the reference, and no others are.
-/

namespace Scaffold

theorem Text.trimChars_brackets (inner : List Char) :
    trimChars ('<' :: inner ++ ['>']) = '<' :: inner ++ ['>'] := by
  refine trimChars_eq_self (by simp [isBlank]) ?_
  rw [List.getLast?_concat]
  simp [isBlank]

theorem Scope.ofSigil?_eq_some_iff {sigil : Char} {scope : Scope} :
    ofSigil? sigil = some scope ↔ sigil = scope.sigil := by
  constructor
  · intro hscope
    unfold ofSigil? at hscope
    split at hscope
    · obtain rfl := Option.some.inj hscope
      rfl
    · obtain rfl := Option.some.inj hscope
      rfl
    · cases hscope
  · rintro rfl
    exact ofSigil?_sigil scope

theorem Scope.isBlank_sigil (scope : Scope) : Text.isBlank scope.sigil = false := by
  cases scope <;> decide

namespace VariableRef

variable {c : Char} {cs name : List Char} {ref : VariableRef}

theorem isBlank_eq_false_of_isNameChar (hname : isNameChar c = true) :
    Text.isBlank c = false := by
  have hupper : c.isUpper = true → 65 ≤ c.toNat ∧ c.toNat ≤ 90 := of_decide_eq_true
  have hlower : c.isLower = true → 97 ≤ c.toNat ∧ c.toNat ≤ 122 := fun h =>
    (Bool.and_eq_true_iff.mp h).imp of_decide_eq_true of_decide_eq_true
  have hdigit : c.isDigit = true → 48 ≤ c.toNat ∧ c.toNat ≤ 57 := fun h =>
    (Bool.and_eq_true_iff.mp h).imp of_decide_eq_true of_decide_eq_true
  have hrange : 45 ≤ c.toNat ∧ c.toNat ≤ 122 := by
    simp only [isNameChar, Char.isAlphanum, Bool.or_eq_true, beq_iff_eq] at hname
    rcases hname with (((halpha | hdigits) | rfl) | rfl) | rfl
    · rcases Bool.or_eq_true_iff.mp halpha with hletter | hletter
      · have hbounds := hupper hletter
        omega
      · have hbounds := hlower hletter
        omega
    · have hbounds := hdigit hdigits
      omega
    · decide
    · decide
    · decide
  simp only [Text.isBlank, Bool.or_eq_false_iff, Bool.and_eq_false_iff, decide_eq_false_iff_not,
    beq_eq_false_iff_ne]
  omega

theorem isName_iff : isName name = true ↔ name ≠ [] ∧ ∀ c ∈ name, isNameChar c = true := by
  simp [isName]

theorem isBlank_of_mem_name (hname : isName name = true) (hc : c ∈ name) :
    Text.isBlank c = false :=
  isBlank_eq_false_of_isNameChar ((isName_iff.mp hname).2 c hc)

theorem trimChars_name (hname : isName name = true) : Text.trimChars name = name := by
  apply Text.trimChars_eq_self
  · exact fun c hc => isBlank_of_mem_name hname (List.mem_of_mem_head? hc)
  · exact fun c hc => isBlank_of_mem_name hname (List.mem_of_mem_getLast? hc)

/-- A reference is read in three layers: its brackets, its sigil and its name. -/
theorem parseChars_eq_some_iff :
    parseChars cs = some ref ↔ ∃ inner rest, Text.trimChars cs = '<' :: inner ++ ['>'] ∧
      Text.trimChars inner = ref.scope.sigil :: rest ∧
      Text.trimChars rest = ref.name.toList ∧ isName ref.name.toList = true := by
  constructor
  · intro hparse
    unfold parseChars at hparse
    split at hparse
    · cases hparse
    next inner hbetween =>
      split at hparse
      · cases hparse
      next sigil rest hinner =>
        split at hparse
        · cases hparse
        next scope hscope =>
          dsimp only at hparse
          split at hparse
          next hname =>
            obtain rfl := Option.some.inj hparse
            obtain rfl := Scope.ofSigil?_eq_some_iff.mp hscope
            have hrest : Text.trimChars rest = (String.ofList (Text.trimChars rest)).toList :=
              String.toList_ofList.symm
            exact ⟨inner, rest, Text.eq_of_between hbetween, hinner, hrest, hrest ▸ hname⟩
          next => cases hparse
  · rintro ⟨inner, rest, hwhole, hinner, hrest, hname⟩
    have hbetween : Text.between ['<'] ['>'] (Text.trimChars cs) = some inner := by
      rw [hwhole]
      exact Text.between_append ['<'] inner ['>']
    simp [parseChars, hbetween, hinner, hrest, hname]

theorem parseChars_trimChars (cs : List Char) :
    parseChars (Text.trimChars cs) = parseChars cs := by
  unfold parseChars
  rw [Text.trimChars_trimChars]

theorem isName_of_parseChars (hparse : parseChars cs = some ref) :
    isName ref.name.toList = true := by
  obtain ⟨-, -, -, -, -, hname⟩ := parseChars_eq_some_iff.mp hparse
  exact hname

/-! ### The texts of a reference -/

/-- Blanks may stand around the whole, around the sigil and around the name. -/
def Spelled (ref : VariableRef) (cs : List Char) : Prop :=
  ∃ sigil name, Text.Padded [ref.scope.sigil] sigil ∧ Text.Padded ref.name.toList name ∧
    Text.Padded ('<' :: (sigil ++ name) ++ ['>']) cs

theorem spelled_chars (ref : VariableRef) : ref.Spelled ref.chars :=
  ⟨[ref.scope.sigil], ref.name.toList, .refl _, .refl _, .refl _⟩

theorem spelled_text (ref : VariableRef) : ref.Spelled ref.text.toList := by
  rw [text, String.toList_ofList]
  exact ref.spelled_chars

theorem Spelled.padded {ds : List Char} (hspelled : ref.Spelled cs) (hpadded : Text.Padded cs ds) :
    ref.Spelled ds := by
  obtain ⟨sigil, name, hsigil, hname, hwhole⟩ := hspelled
  exact ⟨sigil, name, hsigil, hname, hwhole.trans hpadded⟩

theorem parseChars_of_spelled (hname : isName ref.name.toList = true)
    (hspelled : ref.Spelled cs) : parseChars cs = some ref := by
  obtain ⟨sigil, name, hsigil, hpadded, hwhole⟩ := hspelled
  obtain ⟨front, behind, hfront, hbehind, rfl⟩ := hsigil
  obtain ⟨before, back, hbefore, hback, rfl⟩ := hpadded
  have hfull := (isName_iff.mp hname).1
  -- What is left between the brackets starts with the sigil and ends with the name.
  have hinner : Text.trimChars
      (front ++ ref.scope.sigil :: (behind ++ before ++ ref.name.toList) ++ back) =
        ref.scope.sigil :: (behind ++ before ++ ref.name.toList) := by
    rw [Text.trimChars_append_blanks hfront hback]
    refine Text.trimChars_eq_self (by simp [Scope.isBlank_sigil]) fun c hc => ?_
    rw [← List.cons_append, List.getLast?_append_of_ne_nil _ hfull] at hc
    exact isBlank_of_mem_name hname (List.mem_of_mem_getLast? hc)
  have hrest : Text.trimChars (behind ++ before ++ ref.name.toList) = ref.name.toList := by
    have hblanks : ∀ c ∈ behind ++ before, Text.isBlank c = true := fun c hc =>
      (List.mem_append.mp hc).elim (hbehind c) (hbefore c)
    rw [← List.append_nil (behind ++ before ++ _),
      Text.trimChars_append_blanks hblanks (by simp), trimChars_name hname]
  refine parseChars_eq_some_iff.mpr ⟨_, _, ?_, hinner, hrest, hname⟩
  rw [hwhole.trimChars_eq, Text.trimChars_brackets]
  simp

theorem spelled_of_parseChars (hparse : parseChars cs = some ref) : ref.Spelled cs := by
  obtain ⟨inner, rest, hwhole, hinner, hrest, -⟩ := parseChars_eq_some_iff.mp hparse
  obtain ⟨front, back, hfront, hback, hsigil⟩ := Text.exists_eq_trimChars inner
  obtain ⟨before, behind, hbefore, hbehind, hname⟩ := Text.exists_eq_trimChars rest
  have hblanks : ∀ c ∈ behind ++ back, Text.isBlank c = true := fun c hc =>
    (List.mem_append.mp hc).elim (hbehind c) (hback c)
  have hsplit : inner =
      front ++ [ref.scope.sigil] ++ [] ++ (before ++ ref.name.toList ++ (behind ++ back)) := by
    rw [hsigil, hinner, hname, hrest]
    simp
  have hpadded := Text.Padded.trimmed cs
  rw [hwhole, hsplit] at hpadded
  exact ⟨_, _, ⟨front, [], hfront, by simp, rfl⟩, ⟨before, _, hbefore, hblanks, rfl⟩, hpadded⟩

theorem parseChars_iff_spelled :
    parseChars cs = some ref ↔ isName ref.name.toList = true ∧ ref.Spelled cs := by
  constructor
  · exact fun hparse => ⟨isName_of_parseChars hparse, spelled_of_parseChars hparse⟩
  · exact fun ⟨hname, hspelled⟩ => parseChars_of_spelled hname hspelled

/-- The blanks apart, a reference is made of its signs and of characters of names. -/
theorem Spelled.not_mem (hspelled : ref.Spelled cs) (hname : isName ref.name.toList = true)
    (hfull : Text.isBlank c = false) (hother : isNameChar c = false)
    (hsigns : c ∉ ['<', '>', '@', '#']) : c ∉ cs := by
  obtain ⟨sigil, name, hsigil, hpadded, hwhole⟩ := hspelled
  have hsign : c ≠ ref.scope.sigil := by
    rintro rfl
    cases hscope : ref.scope <;> simp [hscope, Scope.sigil] at hsigns
  have hletter : c ∉ ref.name.toList := by
    intro hmem
    have hchar := (isName_iff.mp hname).2 c hmem
    rw [hother] at hchar
    cases hchar
  rw [hwhole.mem_iff hfull]
  simp only [List.mem_append, List.mem_cons, List.not_mem_nil, or_false, not_or,
    hsigil.mem_iff hfull, hpadded.mem_iff hfull] at hsigns ⊢
  exact ⟨⟨hsigns.1, hsign, hletter⟩, hsigns.2.1⟩

theorem opening_mem_of_parseChars (hparse : parseChars cs = some ref) : '<' ∈ cs := by
  obtain ⟨inner, rest, hwhole, -⟩ := parseChars_eq_some_iff.mp hparse
  rw [← Text.mem_trimChars_iff (by decide), hwhole]
  simp

end VariableRef
end Scaffold
