import Scaffold.Proofs.Pieces
import Scaffold.Proofs.ReferenceSpelling

/-!
# Spellings of segments

A directive is written with any blanks around the whole, around its first word and around each of
the parts behind bars.  References and directives are read from these texts and from no others, no
text is both, and what has been read can be written down and read again.
-/

namespace Scaffold

variable {c : Char} {cs : List Char} {s : String} {ask : AskDirective} {default : Option String}
  {ref? : Option VariableRef} {defaults refs : List (List Char)} {part : List Char}

namespace AskDirective

/-- A default has something to it, no blanks at its ends, and none of the signs of directives. -/
structure IsDefault (text : String) : Prop where
  full : text ≠ ""
  trimmed : Text.trim text = text
  plain : ∀ c ∈ text.toList, c ≠ '<' ∧ c ≠ '>' ∧ c ≠ '|'

/-- The directive can be written: its default is one, and its variable has a name. -/
structure IsPrintable (ask : AskDirective) : Prop where
  default : ∀ text ∈ ask.default, IsDefault text
  ref : ∀ ref ∈ ask.ref, VariableRef.isName ref.name.toList = true

/-- The parts of a default.  Without one, there may still be a blank part in its place. -/
inductive DefaultParts : Option String → List (List Char) → Prop
  | absent : DefaultParts none []
  | blank {part : List Char} (hpart : Text.Padded [] part) : DefaultParts none [part]
  | given {text : String} {part : List Char} (hpart : Text.Padded text.toList part) :
      DefaultParts (some text) [part]

inductive RefParts : Option VariableRef → List (List Char) → Prop
  | absent : RefParts none []
  | given {ref : VariableRef} {part : List Char} (hpart : ref.Spelled part) :
      RefParts (some ref) [part]

/-- Blanks may stand around the whole, around the first word and around the parts. -/
def Spelled (ask : AskDirective) (cs : List Char) : Prop :=
  ∃ word defaults refs, Text.Padded ['a', 's', 'k'] word ∧ DefaultParts ask.default defaults ∧
    RefParts ask.ref refs ∧
    Text.Padded ('<' :: '-' :: ['|'].intercalate (word :: (defaults ++ refs)) ++ ['-', '>']) cs

/-! ### Defaults -/

theorem IsDefault.trimChars_eq {text : String} (hdefault : IsDefault text) :
    Text.trimChars text.toList = text.toList := by
  have htrim := congrArg String.toList hdefault.trimmed
  rwa [Text.trim, String.toList_ofList] at htrim

theorem readDefault_of_parts (hdefault : ∀ text ∈ default, IsDefault text)
    (hparts : DefaultParts default [part]) :
    readDefault (Text.trimChars part) = some default := by
  cases hparts with
  | blank hpart =>
      rw [hpart.trimChars_eq]
      rfl
  | @given text _ hpart =>
      have htext := hdefault text rfl
      have hangles : text.toList.any (fun c => c == '<' || c == '>') = false := by
        simp only [List.any_eq_false, Bool.or_eq_true, beq_iff_eq, not_or]
        exact fun c hc => ⟨(htext.plain c hc).1, (htext.plain c hc).2.1⟩
      have hfull : text.toList.isEmpty = false := by simpa using htext.full
      rw [hpart.trimChars_eq, htext.trimChars_eq, readDefault, hangles, hfull]
      simp

theorem angle_not_mem_of_readDefault (hread : readDefault cs = some default) :
    ∀ c ∈ cs, c ≠ '<' ∧ c ≠ '>' := by
  unfold readDefault at hread
  split at hread
  · cases hread
  next hangles =>
    intro c hc
    simp only [List.any_eq_true, Bool.or_eq_true, beq_iff_eq, not_exists, not_and,
      not_or] at hangles
    exact hangles c hc

theorem isDefault_trimChars (hfull : Text.trimChars part ≠ [])
    (hangles : ∀ c ∈ Text.trimChars part, c ≠ '<' ∧ c ≠ '>') (hbar : '|' ∉ part) :
    IsDefault (String.ofList (Text.trimChars part)) where
  full := by simpa using hfull
  trimmed := by rw [Text.trim, String.toList_ofList, Text.trimChars_trimChars]
  plain := by
    intro c hc
    rw [String.toList_ofList] at hc
    refine ⟨(hangles c hc).1, (hangles c hc).2, ?_⟩
    rintro rfl
    exact hbar ((Text.mem_trimChars_iff (by decide)).mp hc)

theorem parts_of_readDefault (hbar : '|' ∉ part)
    (hread : readDefault (Text.trimChars part) = some default) :
    (∀ text ∈ default, IsDefault text) ∧ DefaultParts default [part] := by
  have hangles := angle_not_mem_of_readDefault hread
  have hpart := Text.Padded.trimmed part
  unfold readDefault at hread
  split at hread
  · cases hread
  · split at hread
    next hempty =>
      obtain rfl := Option.some.inj hread
      rw [List.isEmpty_iff.mp hempty] at hpart
      exact ⟨by simp, .blank hpart⟩
    next hfull =>
      obtain rfl := Option.some.inj hread
      have hdefault := isDefault_trimChars (by simpa using hfull) hangles hbar
      rw [← String.toList_ofList (l := Text.trimChars part)] at hpart
      exact ⟨by simpa using hdefault, .given hpart⟩

/-- What is read as a default is no reference. -/
theorem not_reference_of_readDefault (hread : readDefault cs = some default) :
    VariableRef.parseChars cs = none := by
  refine Option.eq_none_iff_forall_ne_some.mpr fun ref href => ?_
  exact (angle_not_mem_of_readDefault hread _ (VariableRef.opening_mem_of_parseChars href)).1 rfl

/-! ### Parts -/

theorem DefaultParts.eq_nil_or_singleton (hparts : DefaultParts default defaults) :
    default = none ∧ defaults = [] ∨ ∃ part, defaults = [part] := by
  cases hparts with
  | absent => exact Or.inl ⟨rfl, rfl⟩
  | blank | given => exact Or.inr ⟨_, rfl⟩

theorem ofParts_of_parts (hprintable : ask.IsPrintable)
    (hdefaults : DefaultParts ask.default defaults) (hrefs : RefParts ask.ref refs) :
    ofParts ((defaults ++ refs).map Text.trimChars) = some ask := by
  obtain ⟨default, ref?⟩ := ask
  have hread : ∀ part, DefaultParts default [part] →
      readDefault (Text.trimChars part) = some default := fun part =>
    readDefault_of_parts hprintable.default
  dsimp only at hdefaults hrefs
  cases hrefs with
  | absent =>
      rcases hdefaults.eq_nil_or_singleton with ⟨rfl, rfl⟩ | ⟨part, rfl⟩
      · rfl
      · have hpart := hread part hdefaults
        simp [ofParts, not_reference_of_readDefault hpart, hpart]
  | @given ref part' hpart' =>
      have href : VariableRef.parseChars (Text.trimChars part') = some ref := by
        rw [VariableRef.parseChars_trimChars]
        exact VariableRef.parseChars_of_spelled (hprintable.ref ref rfl) hpart'
      rcases hdefaults.eq_nil_or_singleton with ⟨rfl, rfl⟩ | ⟨part, rfl⟩
      · simp [ofParts, href]
      · simp [ofParts, href, hread part hdefaults]

theorem parts_of_ofParts {parts : List (List Char)} (hbars : ∀ part ∈ parts, '|' ∉ part)
    (hparts : ofParts (parts.map Text.trimChars) = some ask) :
    ask.IsPrintable ∧ ∃ defaults refs, DefaultParts ask.default defaults ∧
      RefParts ask.ref refs ∧ parts = defaults ++ refs := by
  have hrefs : ∀ {part ref}, VariableRef.parseChars (Text.trimChars part) = some ref →
      (∀ other ∈ some ref, VariableRef.isName other.name.toList = true) ∧
        RefParts (some ref) [part] := by
    intro part ref href
    rw [VariableRef.parseChars_trimChars] at href
    have hname := VariableRef.isName_of_parseChars href
    exact ⟨by simpa using hname, .given (VariableRef.spelled_of_parseChars href)⟩
  -- A lone part is a reference if it can be, and of two parts the second has to be one.
  match parts with
  | [] =>
      obtain rfl := Option.some.inj hparts
      exact ⟨⟨by simp, by simp⟩, [], [], .absent, .absent, rfl⟩
  | [part] =>
      simp only [List.map_cons, List.map_nil, ofParts] at hparts
      split at hparts
      next ref href =>
        obtain rfl := Option.some.inj hparts
        obtain ⟨hname, hpart⟩ := hrefs href
        exact ⟨⟨by simp, hname⟩, [], [part], .absent, hpart, rfl⟩
      next =>
        obtain ⟨default, hread, rfl⟩ := Option.map_eq_some_iff.mp hparts
        obtain ⟨hdefault, hpart⟩ := parts_of_readDefault (hbars part (by simp)) hread
        exact ⟨⟨hdefault, by simp⟩, [part], [], hpart, .absent, rfl⟩
  | [part, part'] =>
      simp only [List.map_cons, List.map_nil, ofParts] at hparts
      split at hparts
      next default ref hread href =>
        obtain rfl := Option.some.inj hparts
        obtain ⟨hdefault, hpart⟩ := parts_of_readDefault (hbars part (by simp)) hread
        obtain ⟨hname, hpart'⟩ := hrefs href
        exact ⟨⟨hdefault, hname⟩, [part], [part'], hpart, hpart', rfl⟩
      next => cases hparts
  | _ :: _ :: _ :: _ => cases hparts

theorem DefaultParts.mem_iff (hparts : DefaultParts default defaults)
    (hfull : Text.isBlank c = false) :
    (∃ part ∈ defaults, c ∈ part) ↔ c ∈ (default.getD "").toList := by
  cases hparts with
  | absent => simp
  | blank hpart => simp [hpart.mem_iff hfull]
  | given hpart => simp [hpart.mem_iff hfull]

theorem RefParts.not_mem (hrefs : RefParts ref? refs)
    (hnamed : ∀ ref ∈ ref?, VariableRef.isName ref.name.toList = true)
    (hfull : Text.isBlank c = false) (hother : VariableRef.isNameChar c = false)
    (hsigns : c ∉ ['<', '>', '@', '#']) : ∀ part ∈ refs, c ∉ part := by
  cases hrefs with
  | absent => simp
  | @given ref part hpart =>
      rw [List.forall_mem_singleton]
      exact hpart.not_mem (hnamed ref rfl) hfull hother hsigns

theorem bar_not_mem_of_parts (hprintable : ask.IsPrintable)
    (hdefaults : DefaultParts ask.default defaults) (hrefs : RefParts ask.ref refs) :
    ∀ part ∈ defaults ++ refs, '|' ∉ part := by
  have hfull : Text.isBlank '|' = false := by decide
  refine List.forall_mem_append.mpr ⟨fun part hpart hbar => ?_, ?_⟩
  · have hmem := (hdefaults.mem_iff hfull).mp ⟨part, hpart, hbar⟩
    cases hdefault : ask.default with
    | none => simp [hdefault] at hmem
    | some text =>
        rw [hdefault] at hmem
        exact ((hprintable.default text hdefault).plain _ hmem).2.2 rfl
  · exact hrefs.not_mem hprintable.ref hfull (by decide) (by decide)

/-! ### Directives -/

theorem parseChars_of_spelled (hprintable : ask.IsPrintable) (hspelled : ask.Spelled cs) :
    parseChars cs = some ask := by
  obtain ⟨word, defaults, refs, hword, hdefaults, hrefs, hwhole⟩ := hspelled
  have hbars : ∀ part ∈ word :: (defaults ++ refs), '|' ∉ part := by
    refine List.forall_mem_cons.mpr ⟨?_, bar_not_mem_of_parts hprintable hdefaults hrefs⟩
    rw [hword.mem_iff (by decide)]
    decide
  have hbetween : Text.between ['<', '-'] ['-', '>'] (Text.trimChars cs) =
      some (['|'].intercalate (word :: (defaults ++ refs))) := by
    have hbrackets := Text.trimChars_brackets
      ('-' :: ['|'].intercalate (word :: (defaults ++ refs)) ++ ['-'])
    rw [List.cons_append, List.append_assoc] at hbrackets
    rw [hwhole.trimChars_eq, ← Text.between_append ['<', '-'] _ ['-', '>']]
    exact congrArg _ hbrackets
  have hfirst : Text.trimChars word = ['a', 's', 'k'] := hword.trimChars_eq
  have hparts := ofParts_of_parts hprintable hdefaults hrefs
  rw [parseChars, hbetween]
  simp only [Text.pieces_intercalate (List.cons_ne_nil _ _) hbars, List.map_cons, hfirst, hparts,
    if_true]

theorem exists_eq_of_parseChars (hparse : parseChars cs = some ask) :
    ∃ inner parts, Text.trimChars cs = '<' :: '-' :: inner ++ ['-', '>'] ∧
      (Text.pieces (· == '|') inner).map Text.trimChars = ['a', 's', 'k'] :: parts ∧
      ofParts parts = some ask := by
  unfold parseChars at hparse
  split at hparse
  · cases hparse
  next inner hbetween =>
    split at hparse
    next word parts hpieces =>
      split at hparse
      next hword =>
        subst hword
        exact ⟨inner, parts, Text.eq_of_between hbetween, hpieces, hparse⟩
      next => cases hparse
    next => cases hparse

/-- The parts of a directive, as they stand between its bars. -/
theorem exists_parts_of_parseChars (hparse : parseChars cs = some ask) :
    ask.IsPrintable ∧ ∃ inner word defaults refs,
      Text.trimChars cs = '<' :: '-' :: inner ++ ['-', '>'] ∧
      Text.pieces (· == '|') inner = word :: (defaults ++ refs) ∧
      Text.Padded ['a', 's', 'k'] word ∧ DefaultParts ask.default defaults ∧
      RefParts ask.ref refs := by
  obtain ⟨inner, trimmed, hwhole, hpieces, hparts⟩ := exists_eq_of_parseChars hparse
  obtain ⟨word, parts, hcut, hword, rfl⟩ := List.map_eq_cons_iff.mp hpieces
  have hbars : ∀ part ∈ parts, '|' ∉ part := by
    intro part hpart hbar
    have hpiece : part ∈ Text.pieces (· == '|') inner := by
      rw [hcut]
      exact List.mem_cons_of_mem _ hpart
    have hfree := Text.of_mem_pieces hpiece hbar
    simp at hfree
  obtain ⟨hprintable, defaults, refs, hdefaults, hrefs, rfl⟩ := parts_of_ofParts hbars hparts
  have hpadded := Text.Padded.trimmed word
  rw [hword] at hpadded
  exact ⟨hprintable, inner, word, defaults, refs, hwhole, hcut, hpadded, hdefaults, hrefs⟩

theorem spelled_of_parseChars (hparse : parseChars cs = some ask) : ask.Spelled cs := by
  obtain ⟨-, inner, word, defaults, refs, hwhole, hcut, hword, hdefaults, hrefs⟩ :=
    exists_parts_of_parseChars hparse
  refine ⟨word, defaults, refs, hword, hdefaults, hrefs, ?_⟩
  rw [← hcut, Text.intercalate_pieces, ← hwhole]
  exact .trimmed cs

theorem parseChars_iff_spelled :
    parseChars cs = some ask ↔ ask.IsPrintable ∧ ask.Spelled cs := by
  constructor
  · exact fun hparse => ⟨(exists_parts_of_parseChars hparse).1, spelled_of_parseChars hparse⟩
  · exact fun ⟨hprintable, hspelled⟩ => parseChars_of_spelled hprintable hspelled

/-- A directive is written down with one blank on each side of its bars. -/
theorem spelled_text (ask : AskDirective) : ask.Spelled ask.text.toList := by
  have hblank : ∀ b ∈ [' '], Text.isBlank b = true := by simp [Text.isBlank]
  have hnone : ∀ b ∈ ([] : List Char), Text.isBlank b = true := by simp
  have hword : Text.Padded ['a', 's', 'k'] ['a', 's', 'k', ' '] := ⟨[], [' '], hnone, hblank, rfl⟩
  have href : ∀ ref : VariableRef, ref.Spelled (' ' :: ref.text.toList) := fun ref =>
    ref.spelled_text.padded ⟨[' '], [], hblank, hnone, by simp⟩
  have hdefault : ∀ (written : String) (back : List Char), (∀ b ∈ back, Text.isBlank b = true) →
      DefaultParts (some written) [' ' :: written.toList ++ back] := fun written back hback =>
    .given ⟨[' '], back, hblank, hback, rfl⟩
  obtain ⟨_ | written, _ | ref⟩ := ask
  · exact ⟨_, _, _, .refl _, .absent, .absent, .refl _⟩
  · refine ⟨_, _, _, hword, .absent, .given (href ref), .of_eq ?_⟩
    simp [text]
  · refine ⟨_, _, _, hword, hdefault written [] hnone, .absent, .of_eq ?_⟩
    simp [text]
  · refine ⟨_, _, _, hword, hdefault written [' '] hblank, .given (href ref), .of_eq ?_⟩
    simp [text]

theorem angle_mem_of_parseChars (hparse : parseChars cs = some ask) : '<' ∈ cs := by
  obtain ⟨inner, parts, htrim, -⟩ := exists_eq_of_parseChars hparse
  rw [← Text.mem_trimChars_iff (by decide), htrim]
  simp

/-- No directive is a reference: it starts with a hyphen where a reference has its sigil. -/
theorem not_reference_of_parseChars (hparse : parseChars cs = some ask) :
    VariableRef.parseChars cs = none := by
  refine Option.eq_none_iff_forall_ne_some.mpr fun ref href => ?_
  obtain ⟨inner, parts, htrim, -⟩ := exists_eq_of_parseChars hparse
  obtain ⟨body, rest, hbody, hsigil, -⟩ := VariableRef.parseChars_eq_some_iff.mp href
  rw [htrim, List.cons_append, List.cons_append, List.cons_append, List.cons.injEq] at hbody
  have hhead : (Text.trimChars body).head? = some '-' := by
    cases body with
    | nil => simp at hbody
    | cons first others =>
        obtain ⟨rfl, -⟩ := List.cons.inj hbody.2
        exact Text.head?_trimChars (by decide)
  rw [hsigil, List.head?_cons] at hhead
  cases hscope : ref.scope <;> simp [hscope, Scope.sigil] at hhead

end AskDirective

namespace Segment

theorem parse_eq_reference_iff {ref : VariableRef} :
    parse s = .reference ref ↔ VariableRef.parseChars s.toList = some ref := by
  unfold parse VariableRef.parse
  constructor
  · intro hparse
    split at hparse
    next found href =>
      obtain rfl := Segment.reference.inj hparse
      exact href
    next => split at hparse <;> cases hparse
  · intro href
    rw [href]

/-- Directives are tried behind references, and lose none of their texts by that. -/
theorem parse_eq_ask_iff :
    parse s = .ask ask ↔ AskDirective.parseChars s.toList = some ask := by
  unfold parse VariableRef.parse AskDirective.parse
  constructor
  · intro hparse
    split at hparse
    · cases hparse
    · split at hparse
      next found hask =>
        obtain rfl := Segment.ask.inj hparse
        exact hask
      next => cases hparse
  · intro hask
    rw [AskDirective.not_reference_of_parseChars hask, hask]

/-- References and directives are read from their texts, blanks and all, and from no others.  No
text is both.  What has been read is written down in one of its texts, and is read from that again. -/
theorem parse_spellings :
    (∀ ref : VariableRef, ref.Spelled ref.text.toList ∧ ∀ s : String,
      parse s = .reference ref ↔
        VariableRef.isName ref.name.toList = true ∧ ref.Spelled s.toList) ∧
    (∀ ask : AskDirective, ask.Spelled ask.text.toList ∧ ∀ s : String,
      parse s = .ask ask ↔ ask.IsPrintable ∧ ask.Spelled s.toList) ∧
    (∀ s : String, VariableRef.parse s = none ∨ AskDirective.parse s = none) ∧
    ∀ s : String,
      (∀ ref : VariableRef, parse s = .reference ref → parse ref.text = .reference ref) ∧
      ∀ ask : AskDirective, parse s = .ask ask → parse ask.text = .ask ask := by
  have hreference : ∀ (ref : VariableRef) (s : String), parse s = .reference ref ↔
      VariableRef.isName ref.name.toList = true ∧ ref.Spelled s.toList := fun ref s =>
    parse_eq_reference_iff.trans VariableRef.parseChars_iff_spelled
  have hdirective : ∀ (ask : AskDirective) (s : String), parse s = .ask ask ↔
      ask.IsPrintable ∧ ask.Spelled s.toList := fun ask s =>
    parse_eq_ask_iff.trans AskDirective.parseChars_iff_spelled
  refine ⟨fun ref => ⟨ref.spelled_text, hreference ref⟩,
    fun ask => ⟨ask.spelled_text, hdirective ask⟩, fun s => ?_, fun s => ⟨?_, ?_⟩⟩
  · rcases hask : AskDirective.parse s with _ | ask
    · exact Or.inr rfl
    · exact Or.inl (AskDirective.not_reference_of_parseChars hask)
  · intro ref hparse
    exact (hreference ref _).mpr ⟨((hreference ref s).mp hparse).1, ref.spelled_text⟩
  · intro ask hparse
    exact (hdirective ask _).mpr ⟨((hdirective ask s).mp hparse).1, ask.spelled_text⟩

/-- Blanks in all places where they may stand, not all of them of ASCII. -/
theorem parse_spellings_index :
    AskDirective.IsPrintable ⟨some "index.ts", some ⟨.memory, "file"⟩⟩ ∧
      parse "\u3000<-\task | index.ts|\n< # file > -> " =
        .ask ⟨some "index.ts", some ⟨.memory, "file"⟩⟩ ∧
      parse "<-ask | index.ts | <#file>->" = .ask ⟨some "index.ts", some ⟨.memory, "file"⟩⟩ := by
  have hprintable : AskDirective.IsPrintable ⟨some "index.ts", some ⟨.memory, "file"⟩⟩ := by
    refine ⟨?_, ?_⟩
    · rintro _ ⟨rfl⟩
      exact ⟨by decide, by decide, by simp⟩
    · rintro _ ⟨rfl⟩
      decide
  have hnone : ∀ b ∈ ([] : List Char), Text.isBlank b = true := by simp
  have hspace : ∀ b ∈ [' '], Text.isBlank b = true := by simp [Text.isBlank]
  have htab : ∀ b ∈ ['\t'], Text.isBlank b = true := by simp [Text.isBlank]
  have hline : ∀ b ∈ ['\n'], Text.isBlank b = true := by simp [Text.isBlank]
  have hwide : ∀ b ∈ ['\u3000'], Text.isBlank b = true := by simp [Text.isBlank]
  have hword : Text.Padded ['a', 's', 'k'] "\task ".toList :=
    ⟨['\t'], [' '], htab, hspace, rfl⟩
  have hdefault : Text.Padded "index.ts".toList " index.ts".toList :=
    ⟨[' '], [], hspace, hnone, rfl⟩
  have href : VariableRef.Spelled ⟨.memory, "file"⟩ "\n< # file > ".toList :=
    ⟨" # ".toList, "file ".toList, ⟨[' '], [' '], hspace, hspace, rfl⟩,
      ⟨[], [' '], hnone, hspace, rfl⟩, ['\n'], [' '], hline, hspace, rfl⟩
  have hspelled : AskDirective.Spelled ⟨some "index.ts", some ⟨.memory, "file"⟩⟩
      "\u3000<-\task | index.ts|\n< # file > -> ".toList :=
    ⟨_, _, _, hword, .given hdefault, .given href, ['\u3000'], [' '], hwide, hspace, rfl⟩
  obtain ⟨-, hread, -, hagain⟩ := parse_spellings
  have hparse := ((hread _).2 _).mpr ⟨hprintable, hspelled⟩
  exact ⟨hprintable, hparse, (hagain _).2 _ hparse⟩

end Segment
end Scaffold
