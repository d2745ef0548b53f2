import Mathlib.Data.List.TakeWhile
import Scaffold.Text.Blank

/-!
# Trimmed texts

Trimming takes blank characters alone away, and only at the two ends of a text.
-/

namespace Scaffold
namespace Text

variable {c : Char} {cs : List Char}

theorem exists_eq_trimChars (cs : List Char) :
    ∃ front back, (∀ c ∈ front, isBlank c = true) ∧ (∀ c ∈ back, isBlank c = true) ∧
      cs = front ++ trimChars cs ++ back := by
  let rest := trimLeft cs
  refine ⟨cs.takeWhile isBlank, (rest.reverse.takeWhile isBlank).reverse, ?_, ?_, ?_⟩
  · intro c hc
    exact List.mem_takeWhile_imp hc
  · intro c hc
    exact List.mem_takeWhile_imp (List.mem_reverse.mp hc)
  · have hrest : trimChars cs ++ (rest.reverse.takeWhile isBlank).reverse = rest := by
      rw [trimChars, trimRight, ← List.reverse_append, List.takeWhile_append_dropWhile,
        List.reverse_reverse]
    rw [List.append_assoc, hrest]
    exact (List.takeWhile_append_dropWhile).symm

theorem mem_trimChars_iff (hfull : isBlank c = false) : c ∈ trimChars cs ↔ c ∈ cs := by
  obtain ⟨front, back, hfront, hback, hcs⟩ := exists_eq_trimChars cs
  have hnot : ∀ ds : List Char, (∀ d ∈ ds, isBlank d = true) → c ∉ ds := by
    intro ds hblank hmem
    rw [hblank c hmem] at hfull
    cases hfull
  have hiff : c ∈ front ++ trimChars cs ++ back ↔ c ∈ trimChars cs := by
    simp [hnot front hfront, hnot back hback]
  rw [← hcs] at hiff
  exact hiff.symm

theorem head?_trimChars {rest : List Char} (hfull : isBlank c = false) :
    (trimChars (c :: rest)).head? = some c := by
  obtain ⟨front, back, hfront, hback, hcs⟩ := exists_eq_trimChars (c :: rest)
  have hmem : c ∈ trimChars (c :: rest) := (mem_trimChars_iff hfull).mpr List.mem_cons_self
  cases front with
  | cons first others =>
      obtain ⟨rfl, -⟩ := List.cons.inj hcs
      rw [hfront c List.mem_cons_self] at hfull
      cases hfull
  | nil =>
      obtain ⟨first, others, htrim⟩ := List.exists_cons_of_ne_nil (List.ne_nil_of_mem hmem)
      rw [htrim] at hcs
      obtain ⟨rfl, -⟩ := List.cons.inj hcs
      rw [htrim]
      rfl

section Blanks

variable {front word back : List Char}

/-- Blanks around a text leave no mark on what is left of it. -/
theorem trimChars_append_blanks (hfront : ∀ c ∈ front, isBlank c = true)
    (hback : ∀ c ∈ back, isBlank c = true) :
    trimChars (front ++ word ++ back) = trimChars word := by
  have hleft : trimLeft (front ++ word ++ back) = trimLeft (word ++ back) := by
    rw [trimLeft, List.append_assoc, List.dropWhile_append_of_pos hfront]
    rfl
  have hright : ∀ ds, trimRight (ds ++ back) = trimRight ds := by
    intro ds
    rw [trimRight, trimRight, List.reverse_append,
      List.dropWhile_append_of_pos fun c hc => hback c (List.mem_reverse.mp hc)]
  have hword : trimLeft (word ++ back) = trimLeft word ++ back ∨
      trimLeft word = [] ∧ trimLeft (word ++ back) = [] := by
    simp only [trimLeft, List.dropWhile_append]
    split
    next hempty =>
      exact Or.inr ⟨List.isEmpty_iff.mp hempty, List.dropWhile_eq_nil_iff.mpr hback⟩
    next => exact Or.inl rfl
  rw [trimChars, trimChars, hleft]
  rcases hword with hword | ⟨hempty, hword⟩
  · rw [hword, hright]
  · rw [hword, hempty]

theorem trimChars_trimChars (cs : List Char) : trimChars (trimChars cs) = trimChars cs := by
  obtain ⟨front, back, hfront, hback, hcs⟩ := exists_eq_trimChars cs
  calc trimChars (trimChars cs) = trimChars (front ++ trimChars cs ++ back) :=
        (trimChars_append_blanks hfront hback).symm
    _ = trimChars cs := by rw [← hcs]

theorem trimChars_eq_self (hhead : ∀ c ∈ word.head?, isBlank c = false)
    (hlast : ∀ c ∈ word.getLast?, isBlank c = false) : trimChars word = word := by
  have hkept : ∀ ds : List Char, (∀ c ∈ ds.head?, isBlank c = false) →
      ds.dropWhile isBlank = ds := by
    intro ds hds
    cases ds with
    | nil => rfl
    | cons d ds => exact List.dropWhile_cons_of_neg (by simp [hds d rfl])
  rw [trimChars, trimLeft, hkept word hhead, trimRight, hkept, List.reverse_reverse]
  rwa [List.head?_reverse]

end Blanks

/-- The text is the word with any blanks around it. -/
def Padded (word cs : List Char) : Prop :=
  ∃ front back, (∀ c ∈ front, isBlank c = true) ∧ (∀ c ∈ back, isBlank c = true) ∧
    cs = front ++ word ++ back

namespace Padded

variable {word : List Char}

theorem of_eq (hsame : cs = word) : Padded word cs :=
  ⟨[], [], by simp, by simp, by simpa using hsame⟩

theorem refl (word : List Char) : Padded word word := of_eq rfl

theorem trans {ds : List Char} (hinner : Padded word cs) (houter : Padded cs ds) :
    Padded word ds := by
  obtain ⟨before, behind, hbefore, hbehind, rfl⟩ := hinner
  obtain ⟨front, back, hfront, hback, rfl⟩ := houter
  refine ⟨front ++ before, behind ++ back, ?_, ?_, by simp⟩
  · exact fun c hc => (List.mem_append.mp hc).elim (hfront c) (hbefore c)
  · exact fun c hc => (List.mem_append.mp hc).elim (hbehind c) (hback c)

theorem trimmed (cs : List Char) : Padded (trimChars cs) cs := exists_eq_trimChars cs

theorem trimChars_eq (hpadded : Padded word cs) : trimChars cs = trimChars word := by
  obtain ⟨front, back, hfront, hback, rfl⟩ := hpadded
  exact trimChars_append_blanks hfront hback

theorem mem_iff (hpadded : Padded word cs) (hfull : isBlank c = false) : c ∈ cs ↔ c ∈ word := by
  rw [← mem_trimChars_iff hfull, hpadded.trimChars_eq, mem_trimChars_iff hfull]

end Padded

theorem trim_ne_empty {s : String} (hc : c ∈ s.toList) (hfull : isBlank c = false) :
    trim s ≠ "" := by
  intro hempty
  have hnil : trimChars s.toList = [] := by simpa [trim] using congrArg String.toList hempty
  have hmem := (mem_trimChars_iff hfull).mpr hc
  rw [hnil] at hmem
  cases hmem

theorem between_append (opening inner closing : List Char) :
    between opening closing (opening ++ inner ++ closing) = some inner := by
  simp [between, List.append_assoc]

/-- What is between two texts stands with them around it. -/
theorem eq_of_between {opening closing inner : List Char}
    (hbetween : between opening closing cs = some inner) : cs = opening ++ inner ++ closing := by
  unfold between at hbetween
  split at hbetween
  next hopening =>
    obtain ⟨body, rfl⟩ := List.isPrefixOf_iff_prefix.mp hopening
    dsimp only at hbetween
    rw [List.drop_left] at hbetween
    split at hbetween
    next hclosing =>
      obtain ⟨front, rfl⟩ := List.isSuffixOf_iff_suffix.mp hclosing
      obtain rfl : front = inner := by simpa using hbetween
      rw [List.append_assoc]
    next => cases hbetween
  next => cases hbetween

end Text
end Scaffold
