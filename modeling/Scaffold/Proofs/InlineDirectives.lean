import Scaffold.Files.Memory
import Scaffold.Proofs.Outcome
import Scaffold.Proofs.Placeholders
import Scaffold.Proofs.SegmentSpelling

/-!
# Directives in names

A name is cut at its slashes and backslashes before its segments are read.  Of all the parts of a
directive, the default alone can have such characters: a directive is one segment of a name when its
default has none, and otherwise it is cut apart.
-/

namespace Scaffold

open Run
open PathTemplate (isSeparator namingPieces)

variable {c : Char} {cs : List Char} {s : String} {ask : AskDirective}

/-! ### Where separators stand in references and directives -/

theorem PathTemplate.isSeparator_iff : isSeparator c = true ↔ c = '/' ∨ c = '\\' := by
  simp [isSeparator]

theorem isBlank_of_isSeparator (hc : isSeparator c = true) : Text.isBlank c = false := by
  rcases PathTemplate.isSeparator_iff.mp hc with rfl | rfl <;> decide

namespace AskDirective

theorem not_isSeparator_of_refParts {ref? : Option VariableRef} {refs : List (List Char)}
    (hrefs : RefParts ref? refs) (hnamed : ∀ ref ∈ ref?, VariableRef.isName ref.name.toList = true)
    (hc : isSeparator c = true) : ∀ part ∈ refs, c ∉ part := by
  have hfull := isBlank_of_isSeparator hc
  rcases PathTemplate.isSeparator_iff.mp hc with rfl | rfl
  · exact hrefs.not_mem hnamed hfull (by decide) (by decide)
  · exact hrefs.not_mem hnamed hfull (by decide) (by decide)

/-- The separators of a directive are those of its default. -/
theorem exists_inner_of_parseChars (hparse : parseChars cs = some ask) :
    ∃ inner, Text.trimChars cs = '<' :: '-' :: inner ++ ['-', '>'] ∧
      ∀ c, isSeparator c = true → (c ∈ inner ↔ c ∈ (ask.default.getD "").toList) := by
  obtain ⟨hprintable, inner, word, defaults, refs, htrim, hpieces, hword, hdefaults, hrefs⟩ :=
    exists_parts_of_parseChars hparse
  refine ⟨inner, htrim, fun c hc => ?_⟩
  have hfull := isBlank_of_isSeparator hc
  have hbar : (c == '|') = false := by
    rcases PathTemplate.isSeparator_iff.mp hc with rfl | rfl <;> decide
  have hnoword : c ∉ word := by
    rw [hword.mem_iff hfull]
    rcases PathTemplate.isSeparator_iff.mp hc with rfl | rfl <;> decide
  have hnoref := not_isSeparator_of_refParts hrefs hprintable.ref hc
  calc c ∈ inner ↔ ∃ piece ∈ Text.pieces (· == '|') inner, c ∈ piece :=
        (Text.exists_mem_pieces_iff (· == '|') hbar).symm
    _ ↔ ∃ part ∈ defaults, c ∈ part := by
        rw [hpieces]
        simp only [List.mem_cons, List.mem_append]
        constructor
        · rintro ⟨part, rfl | hpart | hpart, hmem⟩
          · exact absurd hmem hnoword
          · exact ⟨part, hpart, hmem⟩
          · exact absurd hmem (hnoref part hpart)
        · rintro ⟨part, hpart, hmem⟩
          exact ⟨part, Or.inr (Or.inl hpart), hmem⟩
    _ ↔ c ∈ (ask.default.getD "").toList := hdefaults.mem_iff hfull

end AskDirective

namespace PathTemplate

/-- A piece with a character that is no point names something. -/
theorem namingPieces_ne_nil (hmem : c ∈ cs) (hc : isSeparator c = false) (hpoint : c ≠ '.') :
    namingPieces cs ≠ [] := by
  obtain ⟨piece, hpiece, hmem'⟩ := (Text.exists_mem_pieces_iff isSeparator hc).mpr hmem
  have hfull : piece ≠ [] := List.ne_nil_of_mem hmem'
  have hother : piece ≠ ['.'] := by
    rintro rfl
    exact hpoint (List.mem_singleton.mp hmem')
  exact List.ne_nil_of_mem (mem_namingPieces_iff.mpr ⟨piece, hpiece, hfull, hother, rfl⟩)

theorem isFree_of_parseChars (hparse : AskDirective.parseChars s.toList = some ask)
    (hnowhere : ∀ placeholder : Placeholder, ¬ placeholder.OccursIn s.toList) : IsFree s := by
  refine ⟨hnowhere, fun hhead => ?_⟩
  obtain ⟨inner, htrim, -⟩ := AskDirective.exists_inner_of_parseChars hparse
  obtain ⟨rest, hrest⟩ := List.head?_eq_some_iff.mp hhead
  have hfirst : (Text.trimChars s.toList).head? = some '/' := by
    rw [hrest]
    exact Text.head?_trimChars (by decide)
  rw [htrim] at hfirst
  cases hfirst

theorem segments_of_directive (hparse : AskDirective.parseChars s.toList = some ask)
    (hwhole : ∀ c ∈ s.toList, isSeparator c = false) :
    (namingPieces s.toList).map Segment.parse = [.ask ask] := by
  have hangle := AskDirective.angle_mem_of_parseChars hparse
  have hreference : VariableRef.parse s = none := AskDirective.not_reference_of_parseChars hparse
  have hdirective : AskDirective.parse s = some ask := hparse
  have hother : s.toList ≠ ['.'] := by
    intro heq
    simp [heq] at hangle
  rw [namingPieces_of_forall (List.ne_nil_of_mem hangle) hother hwhole, String.ofList_toList,
    List.map_singleton, Segment.parse, hreference]
  simp [hdirective]

/-- A directive is the one segment of its text just when its default has no separator. -/
theorem segments_eq_directive_iff (hparse : AskDirective.parseChars s.toList = some ask) :
    (namingPieces s.toList).map Segment.parse = [.ask ask] ↔
      ∀ c ∈ (ask.default.getD "").toList, isSeparator c = false := by
  obtain ⟨inner, htrim, hseparator⟩ := AskDirective.exists_inner_of_parseChars hparse
  constructor
  · intro hsegments c hdefault
    refine Bool.eq_false_iff.mpr fun hc => ?_
    have hinner := (hseparator c hc).mpr hdefault
    obtain ⟨left, right, rfl⟩ := List.append_of_mem hinner
    obtain ⟨front, back, -, -, hcs⟩ := Text.exists_eq_trimChars s.toList
    have hcut : s.toList = (front ++ '<' :: '-' :: left) ++ c :: (right ++ ['-', '>'] ++ back) := by
      rw [htrim] at hcs
      simpa using hcs
    have hfirst : namingPieces (front ++ '<' :: '-' :: left) ≠ [] :=
      namingPieces_ne_nil (c := '<') (by simp) (by decide) (by decide)
    have hsecond : namingPieces (right ++ ['-', '>'] ++ back) ≠ [] :=
      namingPieces_ne_nil (c := '>') (by simp) (by decide) (by decide)
    have hlength := congrArg List.length hsegments
    rw [hcut, namingPieces_append_cons hc, List.length_map, List.length_append] at hlength
    have hfirst' := List.length_pos_iff.mpr hfirst
    have hsecond' := List.length_pos_iff.mpr hsecond
    simp only [List.length_singleton] at hlength
    omega
  · intro hdefault
    refine segments_of_directive hparse fun c hmem => Bool.eq_false_iff.mpr fun hc => ?_
    have hinner : c ∈ inner := by
      rw [← Text.mem_trimChars_iff (isBlank_of_isSeparator hc), htrim] at hmem
      rcases isSeparator_iff.mp hc with rfl | rfl <;> simpa using hmem
    have hnot := hdefault c ((hseparator c hc).mp hinner)
    rw [hc] at hnot
    cases hnot

end PathTemplate

variable {ω : Type} [FileTree ω]

namespace Destination

/-- A variable whose value is a directive is asked for as the directive is. -/
theorem outcome_build_reference (hask : AskDirective.parse s = some ask) {ref : VariableRef}
    (ignoreExisting : Bool) {t : RunState ω} (hvalue : t.vars.resolve ref none = some s) :
    outcome (build ⟨none, false, [.reference ref]⟩ ignoreExisting) t =
      outcome (build ⟨none, false, [.ask ask]⟩ ignoreExisting) t := by
  have hreference : ∀ path : Path, outcome (addSegment path (!ignoreExisting) (.reference ref)) t =
      outcome (addSegment path (!ignoreExisting) (.ask ask)) t := by
    intro path
    simp only [addSegment, outcome_get_bind, hvalue, hask]
  rw [build, build, outcome_get_bind, outcome_get_bind]
  exact hreference _

/-- A directive in a name is one segment of it just when its default has no slash and no backslash,
and then it is asked for as it is when a variable has it as its value. -/
theorem inline_directive (hask : AskDirective.parse s = some ask)
    (hnowhere : ∀ placeholder : Placeholder, ¬ placeholder.OccursIn s.toList) :
    (PathTemplate.parse none s).anchor = none ∧ (PathTemplate.parse none s).absolute = false ∧
      ((PathTemplate.parse none s).segments = [.ask ask] ↔
        ∀ c ∈ (ask.default.getD "").toList, isSeparator c = false) ∧
      ((∀ c ∈ (ask.default.getD "").toList, isSeparator c = false) →
        ∀ (ref : VariableRef) (ignoreExisting : Bool) (t : RunState ω),
          t.vars.resolve ref none = some s →
          outcome (build (PathTemplate.parse none s) ignoreExisting) t =
            outcome (build ⟨none, false, [.reference ref]⟩ ignoreExisting) t) := by
  have hname : PathTemplate.effectiveName s = s :=
    if_neg (Text.trim_ne_empty (AskDirective.angle_mem_of_parseChars hask) (by decide))
  have hparse : PathTemplate.parse none s =
      ⟨none, false, (namingPieces s.toList).map Segment.parse⟩ := by
    rw [PathTemplate.parse_none_of_isFree (PathTemplate.isFree_of_parseChars hask hnowhere), hname]
  have hsegments := PathTemplate.segments_eq_directive_iff hask
  rw [hparse]
  refine ⟨rfl, rfl, hsegments, ?_⟩
  intro hdefault ref ignoreExisting t hvalue
  rw [hsegments.mpr hdefault]
  exact (outcome_build_reference hask ignoreExisting hvalue).symm

end Destination

/-- A variable has a directive as its value. -/
def RunState.withDirective : RunState MemoryFiles :=
  .start ⟨⟨[("name", .string " <-ask | index.ts | <@file>-> ")]⟩, .empty⟩ .empty
    (.script [.text ""])

namespace Destination

theorem inline_directive_index :
    AskDirective.parse " <-ask | index.ts | <@file>-> " =
        some ⟨some "index.ts", some ⟨.store, "file"⟩⟩ ∧
      (PathTemplate.parse none " <-ask | index.ts | <@file>-> ").segments =
        [.ask ⟨some "index.ts", some ⟨.store, "file"⟩⟩] ∧
      outcome (build (PathTemplate.parse none " <-ask | index.ts | <@file>-> ") false)
          RunState.withDirective =
        outcome (build ⟨none, false, [.reference ⟨.memory, "name"⟩]⟩ false)
          RunState.withDirective := by
  have hask : AskDirective.parse " <-ask | index.ts | <@file>-> " =
      some ⟨some "index.ts", some ⟨.store, "file"⟩⟩ := by decide
  have hdefault : ∀ c ∈ "index.ts".toList, isSeparator c = false := by simp [isSeparator]
  have hnowhere : ∀ placeholder : Placeholder,
      ¬ placeholder.OccursIn " <-ask | index.ts | <@file>-> ".toList :=
    Placeholder.rightmost?_eq_none_iff.mp (by decide)
  have hvalue : RunState.withDirective.vars.resolve ⟨.memory, "name"⟩ none =
      some " <-ask | index.ts | <@file>-> " := by decide
  obtain ⟨-, -, hsegments, hsame⟩ := @inline_directive _ _ MemoryFiles _ hask hnowhere
  exact ⟨hask, hsegments.mpr hdefault, hsame hdefault _ false RunState.withDirective hvalue⟩

/-- A default with a slash does not come through. -/
theorem inline_directive_cut :
    AskDirective.parse "<-ask | a/b->" = some ⟨some "a/b", none⟩ ∧
      (∀ placeholder : Placeholder, ¬ placeholder.OccursIn "<-ask | a/b->".toList) ∧
      PathTemplate.parse none "<-ask | a/b->" =
        ⟨none, false, [.literal "<-ask | a", .literal "b->"]⟩ := by
  exact ⟨by decide, Placeholder.rightmost?_eq_none_iff.mp (by decide), by decide⟩

end Destination
end Scaffold
