import Scaffold.Proofs.Trimming
import Scaffold.Template.PathTemplate

/-!
# Where placeholders stand

A placeholder stands in a text where its token is spelled, in capitals or not.  Two tokens may share
a percent sign, but none lies within another one.  So tokens that end at one place are the same, and
nothing that is put before a text with a token changes which token ends furthest to the right.
-/

namespace Scaffold

namespace Placeholder

variable {placeholder other : Placeholder} {c : Char}
  {token cs front back rest behind further : List Char}

/-- The token is spelled in the text, in any letter case, with that text behind it. -/
def Stands (token cs behind : List Char) : Prop :=
  ∃ front spelled, cs = front ++ (spelled ++ behind) ∧ spelled.map Char.toUpper = token

def OccursIn (placeholder : Placeholder) (cs : List Char) : Prop :=
  ∃ behind, Stands placeholder.token.toList cs behind

/-- No token ends further to the right than the placeholder does. -/
structure IsRightmost (placeholder : Placeholder) (cs behind : List Char) : Prop where
  stands : Stands placeholder.token.toList cs behind
  least : ∀ (other : Placeholder) further,
    Stands other.token.toList cs further → behind.length ≤ further.length

/-! ### The last occurrence of one token -/

theorem length_le_of_stands (hstands : Stands token cs behind) :
    token.length + behind.length ≤ cs.length := by
  obtain ⟨front, spelled, rfl, rfl⟩ := hstands
  simp

theorem stands_nil_iff : Stands token [] behind ↔ token = [] ∧ behind = [] := by
  constructor
  · intro hstands
    have hlength := length_le_of_stands hstands
    simpa using hlength
  · rintro ⟨rfl, rfl⟩
    exact ⟨[], [], rfl, rfl⟩

/-- A token stands at the front of the text or further on. -/
theorem stands_cons_iff :
    Stands token (c :: rest) behind ↔
      (token.isPrefixOf ((c :: rest).map Char.toUpper) = true ∧
        behind = (c :: rest).drop token.length) ∨ Stands token rest behind := by
  constructor
  · rintro ⟨front, spelled, hcs, rfl⟩
    cases front with
    | nil =>
        have hspelled : c :: rest = spelled ++ behind := hcs
        rw [hspelled]
        exact Or.inl ⟨by simp, by simp⟩
    | cons first front =>
        obtain ⟨-, hrest⟩ := List.cons.inj hcs
        exact Or.inr ⟨front, spelled, hrest, rfl⟩
  · rintro (⟨hstarts, rfl⟩ | ⟨front, spelled, rfl, hspelled⟩)
    · obtain ⟨tail, htail⟩ := List.isPrefixOf_iff_prefix.mp hstarts
      refine ⟨[], (c :: rest).take token.length, by simp, ?_⟩
      rw [List.map_take, ← htail, List.take_left]
    · exact ⟨c :: front, spelled, rfl, hspelled⟩

theorem stands_of_afterLast? (hlast : afterLast? token cs = some behind) :
    Stands token cs behind := by
  induction cs with
  | nil => simp [afterLast?] at hlast
  | cons c rest ih =>
      unfold afterLast? at hlast
      cases hrest : afterLast? token rest with
      | some found =>
          obtain rfl : found = behind := by simpa [hrest] using hlast
          exact stands_cons_iff.mpr (Or.inr (ih hrest))
      | none =>
          rw [hrest] at hlast
          dsimp only at hlast
          split at hlast
          next hstarts =>
            exact stands_cons_iff.mpr (Or.inl ⟨hstarts, (Option.some.inj hlast).symm⟩)
          next => cases hlast

theorem exists_afterLast?_le (htoken : token ≠ []) (hstands : Stands token cs further) :
    ∃ behind, afterLast? token cs = some behind ∧ behind.length ≤ further.length := by
  induction cs with
  | nil => exact absurd (stands_nil_iff.mp hstands).1 htoken
  | cons c rest ih =>
      unfold afterLast?
      cases hrest : afterLast? token rest with
      | some found =>
          refine ⟨found, rfl, ?_⟩
          rcases stands_cons_iff.mp hstands with ⟨-, rfl⟩ | hbehind
          · have hlength := length_le_of_stands (stands_of_afterLast? hrest)
            simp only [List.length_drop, List.length_cons]
            omega
          · obtain ⟨behind, hfound, hle⟩ := ih hbehind
            obtain rfl : found = behind := by simpa [hrest] using hfound
            exact hle
      | none =>
          rcases stands_cons_iff.mp hstands with ⟨hstarts, rfl⟩ | hbehind
          · exact ⟨_, if_pos hstarts, Nat.le_refl _⟩
          · obtain ⟨behind, hfound, -⟩ := ih hbehind
            simp [hrest] at hfound

/-! ### The rightmost of all tokens -/

section Later

variable {first second : Option (Placeholder × List Char)} {found : Placeholder × List Char}

theorem eq_some_of_later (hlater : later first second = some found) :
    first = some found ∨ second = some found := by
  unfold later at hlater
  grind

theorem exists_later_le (hfound : first = some found ∨ second = some found) :
    ∃ best, later first second = some best ∧ best.2.length ≤ found.2.length := by
  unfold later
  grind

variable {find : Placeholder → Option (Placeholder × List Char)} {placeholders : List Placeholder}

theorem eq_some_of_foldl_later
    (hfold : placeholders.foldl (fun found p => later found (find p)) first = some found) :
    first = some found ∨ ∃ p ∈ placeholders, find p = some found := by
  induction placeholders generalizing first with
  | nil => exact Or.inl hfold
  | cons p rest ih =>
      rcases ih hfold with hlater | ⟨other, hother, hfind⟩
      · rcases eq_some_of_later hlater with hfirst | hfind
        · exact Or.inl hfirst
        · exact Or.inr ⟨p, List.mem_cons_self, hfind⟩
      · exact Or.inr ⟨other, List.mem_cons_of_mem p hother, hfind⟩

theorem exists_foldl_later_le
    (hfound : first = some found ∨ ∃ p ∈ placeholders, find p = some found) :
    ∃ best, placeholders.foldl (fun found p => later found (find p)) first = some best ∧
      best.2.length ≤ found.2.length := by
  induction placeholders generalizing first found with
  | nil =>
      rcases hfound with hfirst | ⟨p, hp, -⟩
      · exact ⟨found, hfirst, Nat.le_refl _⟩
      · cases hp
  | cons p rest ih =>
      have hstep : ∀ {found}, first = some found ∨ find p = some found →
          ∃ best, (p :: rest).foldl (fun found p => later found (find p)) first = some best ∧
            best.2.length ≤ found.2.length := by
        intro found hfound
        obtain ⟨better, hbetter, hle⟩ := exists_later_le hfound
        obtain ⟨best, hbest, hle'⟩ := ih (Or.inl hbetter)
        exact ⟨best, hbest, Nat.le_trans hle' hle⟩
      rcases hfound with hfirst | ⟨other, hother, hfind⟩
      · exact hstep (Or.inl hfirst)
      · rcases List.mem_cons.mp hother with rfl | hrest
        · exact hstep (Or.inr hfind)
        · exact ih (Or.inr ⟨other, hrest, hfind⟩)

end Later

theorem token_ne_nil (placeholder : Placeholder) : placeholder.token.toList ≠ [] := by
  cases placeholder <;> decide

theorem exists_rightmost?_le (hstands : Stands placeholder.token.toList cs further) :
    ∃ best, rightmost? cs = some best ∧ best.2.length ≤ further.length := by
  obtain ⟨behind, hlast, hle⟩ := exists_afterLast?_le (token_ne_nil placeholder) hstands
  have hall : placeholder ∈ all := by cases placeholder <;> decide
  have hfound : none = some (placeholder, behind) ∨
      ∃ p ∈ all, (afterLast? p.token.toList cs).map (p, ·) = some (placeholder, behind) :=
    Or.inr ⟨placeholder, hall, by simp [hlast]⟩
  obtain ⟨best, hbest, hle'⟩ := exists_foldl_later_le hfound
  exact ⟨best, hbest, Nat.le_trans hle' hle⟩

theorem isRightmost_of_rightmost? (hrightmost : rightmost? cs = some (placeholder, behind)) :
    placeholder.IsRightmost cs behind := by
  constructor
  · rcases eq_some_of_foldl_later hrightmost with hnone | ⟨p, -, hfind⟩
    · cases hnone
    · obtain ⟨found, hlast, hpair⟩ := Option.map_eq_some_iff.mp hfind
      obtain ⟨rfl, rfl⟩ := Prod.mk.inj hpair
      exact stands_of_afterLast? hlast
  · intro other further hstands
    obtain ⟨best, hbest, hle⟩ := exists_rightmost?_le hstands
    obtain rfl := Option.some.inj (hrightmost.symm.trans hbest)
    exact hle

theorem rightmost?_eq_none_iff :
    rightmost? cs = none ↔ ∀ placeholder : Placeholder, ¬ placeholder.OccursIn cs := by
  constructor
  · rintro hnone placeholder ⟨behind, hstands⟩
    obtain ⟨best, hbest, -⟩ := exists_rightmost?_le hstands
    simp [hnone] at hbest
  · intro hnowhere
    rcases hrightmost : rightmost? cs with _ | ⟨placeholder, behind⟩
    · rfl
    · exact absurd ⟨behind, (isRightmost_of_rightmost? hrightmost).stands⟩ (hnowhere placeholder)

/-! ### Tokens that overlap -/

/-- A percent sign stands at the ends of a token only. -/
theorem percent_at_end (placeholder : Placeholder) :
    ∀ i < placeholder.token.toList.length, placeholder.token.toList[i]? = some '%' →
      i = 0 ∨ i + 1 = placeholder.token.toList.length := by
  cases placeholder <;> decide

theorem exists_percent_cons (placeholder : Placeholder) :
    ∃ name, placeholder.token.toList = '%' :: name := by
  cases placeholder <;> exact ⟨_, rfl⟩

/-- No token lies within another one, away from both ends of it. -/
theorem not_inside (placeholder other : Placeholder) (hfront : front ≠ []) (hback : back ≠ []) :
    other.token.toList ≠ front ++ placeholder.token.toList ++ back := by
  intro htoken
  obtain ⟨name, hname⟩ := exists_percent_cons placeholder
  have hlength := congrArg List.length htoken
  have hfront' := List.length_pos_iff.mpr hfront
  have hback' := List.length_pos_iff.mpr hback
  simp only [List.length_append, hname, List.length_cons] at hlength
  have hpercent : other.token.toList[front.length]? = some '%' := by
    rw [htoken, hname]
    simp
  have hends := percent_at_end other front.length (by omega) hpercent
  omega

/-- Tokens that end at one place are the same. -/
theorem eq_of_stands (hstands : Stands placeholder.token.toList cs behind)
    (hother : Stands other.token.toList cs behind) : other = placeholder := by
  obtain ⟨front, spelled, rfl, hspelled⟩ := hstands
  obtain ⟨front', spelled', hcs, hspelled'⟩ := hother
  have hends : front ++ spelled = front' ++ spelled' := by
    simpa only [← List.append_assoc, List.append_cancel_right_eq] using hcs
  have hsuffix : other.token.toList <:+ placeholder.token.toList ∨
      placeholder.token.toList <:+ other.token.toList := by
    rw [← hspelled, ← hspelled']
    have hother : spelled' <:+ front ++ spelled := hends ▸ List.suffix_append front' spelled'
    rcases List.suffix_or_suffix_of_suffix hother (List.suffix_append front spelled) with h | h
    · exact Or.inl (h.map _)
    · exact Or.inr (h.map _)
  revert hsuffix
  cases placeholder <;> cases other <;> decide

theorem rightmost?_eq_some_iff :
    rightmost? cs = some (placeholder, behind) ↔ placeholder.IsRightmost cs behind := by
  refine ⟨isRightmost_of_rightmost?, fun hright => ?_⟩
  obtain ⟨⟨other, further⟩, hfound, -⟩ := exists_rightmost?_le hright.stands
  have hother := isRightmost_of_rightmost? hfound
  have hbehind : further = behind := by
    have hle := hright.least other further hother.stands
    have hge := hother.least placeholder behind hright.stands
    obtain ⟨front, spelled, rfl, -⟩ := hright.stands
    obtain ⟨front', spelled', hcs, -⟩ := hother.stands
    have hcs' : (front ++ spelled) ++ behind = (front' ++ spelled') ++ further := by simpa using hcs
    exact (List.append_inj_right' hcs' (Nat.le_antisymm hle hge)).symm
  subst hbehind
  rw [hfound, eq_of_stands hright.stands hother.stands]

theorem Stands.append_left (hstands : Stands token cs behind) (before : List Char) :
    Stands token (before ++ cs) behind := by
  obtain ⟨front, spelled, rfl, hspelled⟩ := hstands
  exact ⟨before ++ front, spelled, by simp, hspelled⟩

/-- A token that starts before the text ends before the token that is in it. -/
theorem IsRightmost.append_left (hright : placeholder.IsRightmost cs behind)
    (before : List Char) : placeholder.IsRightmost (before ++ cs) behind := by
  refine ⟨hright.stands.append_left before, fun other further hstands => ?_⟩
  obtain ⟨front', spelled', hcs, hspelled'⟩ := hstands
  rcases List.append_eq_append_iff.mp hcs with ⟨between, rfl, hcs'⟩ | ⟨between, rfl, hover⟩
  · exact hright.least other further ⟨between, spelled', hcs', hspelled'⟩
  · refine Nat.le_of_not_lt fun hlt => ?_
    obtain ⟨front, spelled, rfl, hspelled⟩ := hright.stands
    by_cases hbetween : between = []
    · have hwithin : Stands other.token.toList (front ++ (spelled ++ behind)) further :=
        ⟨[], spelled', by simpa [hbetween] using hover.symm, hspelled'⟩
      exact absurd (hright.least other further hwithin) (Nat.not_le_of_lt hlt)
    · have hcover : spelled' ++ further = (between ++ front ++ spelled) ++ behind := by
        simpa using hover
      rcases List.append_eq_append_iff.mp hcover with ⟨beyond, -, rfl⟩ | ⟨beyond, rfl, rfl⟩
      · simp only [List.length_append] at hlt
        omega
      · have hbeyond : beyond ≠ [] := by
          rintro rfl
          simp at hlt
        have htoken : other.token.toList = (between ++ front).map Char.toUpper ++
            placeholder.token.toList ++ beyond.map Char.toUpper := by
          rw [← hspelled', ← hspelled]
          simp
        refine absurd htoken (not_inside placeholder other ?_ ?_)
        · simp [hbetween]
        · simpa using hbeyond

theorem OccursIn.append_left (hoccurs : placeholder.OccursIn cs) (before : List Char) :
    placeholder.OccursIn (before ++ cs) :=
  hoccurs.imp fun _ hstands => hstands.append_left before

theorem OccursIn.append_right (hoccurs : placeholder.OccursIn cs) (after : List Char) :
    placeholder.OccursIn (cs ++ after) := by
  obtain ⟨behind, front, spelled, rfl, hspelled⟩ := hoccurs
  exact ⟨behind ++ after, front, spelled, by simp, hspelled⟩

theorem exists_rightmost? (hoccurs : placeholder.OccursIn cs) :
    ∃ best behind, rightmost? cs = some (best, behind) := by
  obtain ⟨further, hstands⟩ := hoccurs
  obtain ⟨⟨best, behind⟩, hbest, -⟩ := exists_rightmost?_le hstands
  exact ⟨best, behind, hbest⟩

/-- What stands before a token has no say in which one is the rightmost. -/
theorem rightmost?_append_left (hoccurs : placeholder.OccursIn cs) (before : List Char) :
    rightmost? (before ++ cs) = rightmost? cs := by
  obtain ⟨best, behind, hbest⟩ := exists_rightmost? hoccurs
  have hright := (isRightmost_of_rightmost? hbest).append_left before
  rw [hbest, rightmost?_eq_some_iff.mpr hright]

theorem IsRightmost.not_occursIn_behind (hright : placeholder.IsRightmost cs behind)
    (other : Placeholder) : ¬ other.OccursIn behind := by
  rintro ⟨further, hfurther⟩
  have hlength := length_le_of_stands hfurther
  have hpos := List.length_pos_iff.mpr (token_ne_nil other)
  obtain ⟨front, spelled, rfl, -⟩ := hright.stands
  have hstands := (hfurther.append_left spelled).append_left front
  have hle := hright.least other further hstands
  omega

theorem slash_notMem_of_map {spelled : List Char}
    (hspelled : spelled.map Char.toUpper = placeholder.token.toList) : '/' ∉ spelled := by
  intro hslash
  have htoken : '/' ∈ placeholder.token.toList :=
    hspelled ▸ List.mem_map.mpr ⟨'/', hslash, rfl⟩
  revert htoken
  cases placeholder <;> decide

/-- No token reaches over a slash. -/
theorem not_occursIn_append_cons (hfront : ¬ placeholder.OccursIn front)
    (hback : ¬ placeholder.OccursIn back) : ¬ placeholder.OccursIn (front ++ '/' :: back) := by
  rintro ⟨behind, before, spelled, hcs, hspelled⟩
  have hslash := slash_notMem_of_map hspelled
  rcases List.append_eq_append_iff.mp hcs with ⟨between, rfl, hbetween⟩ | ⟨between, rfl, hover⟩
  · cases between with
    | nil =>
        cases spelled with
        | nil => exact token_ne_nil placeholder hspelled.symm
        | cons c rest =>
            obtain ⟨rfl, -⟩ := List.cons.inj hbetween
            exact hslash List.mem_cons_self
    | cons c between =>
        obtain ⟨-, rfl⟩ := List.cons.inj hbetween
        exact hback ⟨behind, between, spelled, rfl, hspelled⟩
  · rcases List.append_eq_append_iff.mp hover with ⟨rest, rfl, -⟩ | ⟨rest, rfl, hrest⟩
    · exact hfront ⟨rest, before, spelled, rfl, hspelled⟩
    · cases rest with
      | nil => exact hfront ⟨[], before, between, by simp, by simpa using hspelled⟩
      | cons c rest =>
          obtain ⟨rfl, -⟩ := List.cons.inj hrest
          simp at hslash

/-- Capitals are letters. -/
theorem eq_percent_of_toUpper (hc : c.toUpper = '%') : c = '%' := by
  unfold Char.toUpper at hc
  split at hc
  next hlower =>
    have hval := congrArg (fun d : Char => d.val.toNat) hc
    simp [UInt32.le_iff_toNat_le] at hval hlower
    omega
  next => exact hc

theorem percent_mem_of_occursIn (hoccurs : placeholder.OccursIn cs) : '%' ∈ cs := by
  obtain ⟨behind, front, spelled, rfl, hspelled⟩ := hoccurs
  obtain ⟨name, hname⟩ := exists_percent_cons placeholder
  obtain ⟨first, rest, rfl, hfirst, -⟩ := List.map_eq_cons_iff.mp (hspelled.trans hname)
  simp [eq_percent_of_toUpper hfirst]

end Placeholder

namespace PathTemplate

variable {name : String} {placeholder : Placeholder}

/-- A name under a base has the name at its end. -/
theorem exists_under_eq (base : Option Path) (name : String) :
    ∃ before, (under base name).toList = before ++ name.toList := by
  unfold under
  split
  · split
    · exact ⟨[], rfl⟩
    · next path _ => exact ⟨path.text.toList ++ ['/'], by simp⟩
  · exact ⟨[], rfl⟩

theorem effectiveName_of_occursIn (hoccurs : placeholder.OccursIn name.toList) :
    effectiveName name = name := by
  have hfull : Text.trim name ≠ "" :=
    Text.trim_ne_empty (Placeholder.percent_mem_of_occursIn hoccurs) rfl
  exact if_neg hfull

theorem parse_of_rightmost? {base : Option Path} {behind : List Char}
    (hrightmost : Placeholder.rightmost? (under base (effectiveName name)).toList =
      some (placeholder, behind)) :
    parse base name = ⟨some placeholder, false, (namingPieces behind).map Segment.parse⟩ := by
  simp only [parse, hrightmost]

theorem parse_of_no_placeholder {base : Option Path}
    (hnowhere : ∀ placeholder : Placeholder,
      ¬ placeholder.OccursIn (under base (effectiveName name)).toList) :
    parse base name = ⟨none, (under base (effectiveName name)).toList.head? == some '/',
      (namingPieces (under base (effectiveName name)).toList).map Segment.parse⟩ := by
  simp only [parse, Placeholder.rightmost?_eq_none_iff.mpr hnowhere]

/-- A name that no placeholder anchors and that is not absolute. -/
structure IsFree (name : String) : Prop where
  noPlaceholder : ∀ placeholder : Placeholder, ¬ placeholder.OccursIn name.toList
  relative : name.toList.head? ≠ some '/'

theorem IsFree.effectiveName (hname : IsFree name) : IsFree (effectiveName name) := by
  unfold PathTemplate.effectiveName
  split
  · exact ⟨Placeholder.rightmost?_eq_none_iff.mp (by decide), by decide⟩
  · exact hname

theorem under_none (name : String) : under none name = name := rfl

theorem parse_none_of_isFree (hname : IsFree name) :
    parse none name =
      ⟨none, false, (namingPieces (effectiveName name).toList).map Segment.parse⟩ := by
  have hfree := hname.effectiveName
  have hhead : ((effectiveName name).toList.head? == some '/') = false := by
    simpa using hfree.relative
  have hnowhere : ∀ placeholder : Placeholder,
      ¬ placeholder.OccursIn (under none (effectiveName name)).toList := hfree.noPlaceholder
  rw [parse_of_no_placeholder hnowhere, under_none, hhead]

/-- All that stands before a placeholder is void: a template is what comes behind the rightmost one,
whatever the text before it and the base are. -/
theorem parse_behind_placeholder {s : String} (hoccurs : placeholder.OccursIn s.toList)
    (x : String) (base : Path) :
    parse (some base) (x ++ s) = parse none s ∧
      ∃ anchor behind, anchor.IsRightmost s.toList behind ∧
        (∀ other further, other.IsRightmost s.toList further → other = anchor ∧ further = behind) ∧
        (∀ other : Placeholder, ¬ other.OccursIn behind) ∧
        parse none s = ⟨some anchor, false, (namingPieces behind).map Segment.parse⟩ := by
  obtain ⟨anchor, behind, hrightmost⟩ := Placeholder.exists_rightmost? hoccurs
  have halone : parse none s = ⟨some anchor, false, (namingPieces behind).map Segment.parse⟩ := by
    apply parse_of_rightmost?
    rw [effectiveName_of_occursIn hoccurs]
    exact hrightmost
  have hunder : parse (some base) (x ++ s) =
      ⟨some anchor, false, (namingPieces behind).map Segment.parse⟩ := by
    have hoccurs' : placeholder.OccursIn (x ++ s).toList := by
      rw [String.toList_append]
      exact hoccurs.append_left x.toList
    obtain ⟨before, hbefore⟩ := exists_under_eq (some base) (x ++ s)
    apply parse_of_rightmost?
    rw [effectiveName_of_occursIn hoccurs', hbefore, String.toList_append, ← List.append_assoc,
      Placeholder.rightmost?_append_left hoccurs]
    exact hrightmost
  have hright := Placeholder.isRightmost_of_rightmost? hrightmost
  refine ⟨hunder.trans halone.symm, anchor, behind, hright, ?_, ?_, halone⟩
  · intro other further hother
    have hsame := (Placeholder.rightmost?_eq_some_iff.mpr hother).symm.trans hrightmost
    simpa using hsame
  · intro other hfurther
    exact hright.not_occursIn_behind other hfurther

/-- The token before the name starts in the text before it. -/
theorem parse_behind_placeholder_hooks :
    Placeholder.OccursIn .hooks "%hooks%/useThing.ts".toList ∧
      parse (some ⟨"feature"⟩) ("lib/%SRC" ++ "%hooks%/useThing.ts") =
        parse none "%hooks%/useThing.ts" ∧
      parse none "%hooks%/useThing.ts" = ⟨some .hooks, false, [.literal "useThing.ts"]⟩ := by
  have hoccurs : Placeholder.OccursIn .hooks "%hooks%/useThing.ts".toList :=
    ⟨"/useThing.ts".toList, [], "%hooks%".toList, by decide, by decide⟩
  exact ⟨hoccurs, (parse_behind_placeholder hoccurs "lib/%SRC" ⟨"feature"⟩).1, by decide⟩

end PathTemplate
end Scaffold
