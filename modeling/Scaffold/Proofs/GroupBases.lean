import Scaffold.Proofs.BuiltPaths
import Scaffold.Proofs.Placeholders

/-!
# Bases of groups

What the segments of a template say does not depend on the path that they are put behind.  So a base
whose pieces are all literal is laid in front of whatever a name comes to, and the bases of groups
within each other add up.
-/

namespace Scaffold

open Run

namespace Path

variable {p q r : Path} {piece : String} {pieces : List String}

/-! ### Paths behind a base -/

/-- The path behind the base; an empty path adds nothing. -/
def onto (base path : Path) : Path := if path.isEmpty then base else base.join path

@[simp] theorem onto_empty (base : Path) : base.onto empty = base := rfl

theorem isEmpty_eq_false (hq : q ≠ empty) : q.isEmpty = false := by
  rw [isEmpty, beq_eq_false_iff_ne]
  intro htext
  exact hq (congrArg Path.mk htext)

theorem onto_of_ne_empty (hq : q ≠ empty) : p.onto q = p.join q := by
  rw [onto, isEmpty_eq_false hq]
  rfl

/-- What comes between two paths: a slash, unless the first one is empty or ends in one. -/
def glue (p : Path) : String :=
  match p.chars.getLast? with
  | none => ""
  | some c => if c = '/' then "" else "/"

theorem join_eq (hq : q.isAbsolute = false) : p.join q = ⟨p.text ++ p.glue ++ q.text⟩ := by
  unfold join glue
  rw [hq, if_neg Bool.false_ne_true]
  rcases hlast : p.chars.getLast? with _ | last
  · have hempty : p.text = "" := by
      simpa [chars, String.toList_eq_nil_iff] using List.getLast?_eq_none_iff.mp hlast
    simp [hempty]
  · by_cases hslash : last = '/'
    · subst hslash
      simp
    · simp [hslash]

theorem chars_ne_nil (hq : q ≠ empty) : q.chars ≠ [] := by
  intro hnil
  exact hq (congrArg Path.mk (String.toList_eq_nil_iff.mp hnil))

theorem glue_join (hq : q.isAbsolute = false) (hfull : q ≠ empty) : (p.join q).glue = q.glue := by
  have hlast : (p.join q).chars.getLast? = q.chars.getLast? := by
    rw [join_eq hq]
    have hchars : (Path.mk (p.text ++ p.glue ++ q.text)).chars =
        (p.text ++ p.glue).toList ++ q.chars := by simp [chars]
    obtain ⟨last, hlast⟩ := Option.ne_none_iff_exists'.mp
      (mt List.getLast?_eq_none_iff.mp (chars_ne_nil hfull))
    rw [hchars, List.getLast?_append, hlast, Option.some_or]
  rw [glue, glue, hlast]

theorem join_assoc (hq : q.isAbsolute = false) (hfull : q ≠ empty) (hr : r.isAbsolute = false) :
    (p.join q).join r = p.join (q.join r) := by
  have hrelative : (q.join r).isAbsolute = false :=
    (isAbsolute_join (chars_ne_nil hfull) hr).trans hq
  rw [join_eq hr, glue_join hq hfull, join_eq hrelative, join_eq hr, join_eq hq]
  simp [String.append_assoc]

theorem onto_push (hq : q.isAbsolute = false) (hpiece : IsPiece piece) :
    (p.onto q).push piece = p.onto (q.push piece) := by
  have hsingle : Path.mk piece ≠ empty := fun heq => hpiece.full (congrArg Path.text heq)
  by_cases hfull : q = empty
  · subst hfull
    rw [onto_empty, push_of_chars_eq_nil (p := empty) rfl, onto_of_ne_empty hsingle, push]
  · have hpush : q.push piece ≠ empty := by
      intro hempty
      obtain ⟨front, hchars, -⟩ := chars_join (chars_ne_nil hfull) (isAbsolute_piece hpiece)
      rw [push] at hempty
      simp [hempty, empty, chars] at hchars
    rw [onto_of_ne_empty hfull, onto_of_ne_empty hpush]
    exact join_assoc hq hfull (isAbsolute_piece hpiece)

theorem onto_foldl_push (hq : q.isAbsolute = false) (hpieces : ∀ piece ∈ pieces, IsPiece piece) :
    pieces.foldl push (p.onto q) = p.onto (pieces.foldl push q) := by
  induction pieces generalizing q with
  | nil => rfl
  | cons piece rest ih =>
      obtain ⟨hpiece, hrest⟩ := List.forall_mem_cons.mp hpieces
      have hnext : (q.push piece).isAbsolute = false := (isAbsolute_push hpiece).trans hq
      rw [List.foldl_cons, List.foldl_cons, onto_push hq hpiece, ih hnext hrest]

theorem onto_foldl_addPieces (hq : q.isAbsolute = false) (texts : List String) :
    texts.foldl Destination.addPieces (p.onto q) =
      p.onto (texts.foldl Destination.addPieces q) := by
  induction texts generalizing q with
  | nil => rfl
  | cons text rest ih =>
      have hpieces : ∀ piece ∈ PathTemplate.namingPieces text.toList, IsPiece piece :=
        fun _ => isPiece_of_mem_namingPieces
      have hnext : (Destination.addPieces q text).isAbsolute = false :=
        (isAbsolute_foldl_push hpieces q).trans hq
      have hstep : Destination.addPieces (p.onto q) text =
          p.onto (Destination.addPieces q text) := onto_foldl_push hq hpieces
      rw [List.foldl_cons, List.foldl_cons, hstep, ih hnext]

/-- One path behind another has the same components, whether a slash is left at the end or not. -/
theorem components_onto (p q : Path) : (p.onto q).components = (p.join q).components := by
  by_cases hfull : q = empty
  · subst hfull
    by_cases hpath : p.chars = []
    · rw [onto_empty, join_of_chars_eq_nil hpath, components_eq, body_of_chars_eq_nil hpath, lead,
        isAbsolute, hpath, pieces_of_chars_eq_nil hpath]
      rfl
    · rw [onto_empty, components_eq, components_eq, lead_join hpath rfl, body_join rfl]
      simp [body_of_chars_eq_nil (p := empty) rfl]
  · rw [onto_of_ne_empty hfull]

end Path

namespace PathTemplate

variable {cs : List Char} {piece : String} {p : Path}

/-- A naming piece is not cut again. -/
theorem namingPieces_piece (hpiece : piece ∈ namingPieces cs) :
    namingPieces piece.toList = [piece] := by
  obtain ⟨letters, hletters, hfull, hpoint, rfl⟩ := mem_namingPieces_iff.mp hpiece
  rw [String.toList_ofList]
  exact namingPieces_of_forall hfull hpoint fun c hc => Text.of_mem_pieces hletters hc

theorem foldl_addPieces_eq {pieces : List String}
    (hpieces : ∀ piece ∈ pieces, namingPieces piece.toList = [piece]) (front : Path) :
    pieces.foldl Destination.addPieces front = pieces.foldl Path.push front := by
  induction pieces generalizing front with
  | nil => rfl
  | cons piece rest ih =>
      obtain ⟨hpiece, hrest⟩ := List.forall_mem_cons.mp hpieces
      have hstep : Destination.addPieces front piece = front.push piece := by
        rw [Destination.addPieces, hpiece]
        rfl
      rw [List.foldl_cons, List.foldl_cons, hstep, ih hrest]

theorem namingPieces_chars (hwhole : '\\' ∉ p.chars) : namingPieces p.chars = p.names := by
  have hpieces : Text.pieces isSeparator p.chars = Text.pieces Path.isSlash p.chars := by
    refine Text.pieces_congr fun c hc => ?_
    have hc' : c ≠ '\\' := fun heq => hwhole (heq ▸ hc)
    simp [isSeparator, Path.isSlash, hc']
  rw [namingPieces, hpieces, Path.names, Path.pieces, List.filter_map]
  refine congrArg (List.map String.ofList) (List.filter_congr fun letters _ => ?_)
  have hempty : String.ofList letters = "" ↔ letters = [] := by
    rw [← String.toList_inj, String.toList_ofList]
    rfl
  have hpoint : String.ofList letters = "." ↔ letters = ['.'] := by
    rw [← String.toList_inj, String.toList_ofList]
    rfl
  rw [Bool.eq_iff_iff]
  simp [hempty, hpoint]

end PathTemplate

namespace Path

/-- The path says itself when it is read as a template: it has no empty and no `.` components, no
backslash and no placeholder, and each of its components is a literal segment. -/
structure IsLiteral (p : Path) : Prop where
  normal : p.IsNormal
  noBackslash : '\\' ∉ p.chars
  noPlaceholder : ∀ placeholder : Placeholder, ¬ placeholder.OccursIn p.chars
  literal : ∀ c ∈ p.components, Segment.parse c.text = .literal c.text

/-- What is written as the base of a group: a literal path that is not blank. -/
structure IsGroupBase (b : Path) : Prop extends IsLiteral b where
  full : Text.trim b.text ≠ ""

variable {p q : Path}

theorem IsGroupBase.ne_empty (hp : p.IsGroupBase) : p ≠ empty := by
  rintro rfl
  exact hp.full rfl

theorem IsLiteral.parse_name (hp : p.IsLiteral) {name : String} (hname : name ∈ p.names) :
    Segment.parse name = .literal name := by
  have hcomponent : Component.named name ∈ p.components := by
    rw [components_eq, body_eq]
    exact List.mem_append_right _ (List.mem_map_of_mem hname)
  have hparse := hp.literal _ hcomponent
  rwa [Component.text_named] at hparse

theorem IsLiteral.foldl_names (hp : p.IsLiteral) :
    p.names.foldl Destination.addPieces p.start = p := by
  have hnames : ∀ name ∈ p.names, PathTemplate.namingPieces name.toList = [name] := by
    rw [← PathTemplate.namingPieces_chars hp.noBackslash]
    exact fun _ => PathTemplate.namingPieces_piece
  rw [PathTemplate.foldl_addPieces_eq hnames]
  exact hp.normal.eq_foldl_names.symm

end Path

namespace PathTemplate

variable {p : Path} {name : String}

theorem under_some (hp : p ≠ .empty) (name : String) :
    (under (some p) name).toList = p.chars ++ '/' :: name.toList := by
  rw [under, Path.isEmpty_eq_false hp]
  simp [Path.chars]

/-- The segments of a literal base come before those of the name. -/
theorem parse_some_of_isFree (hp : p.IsLiteral) (hname : IsFree name) :
    parse (some p) name =
      ⟨none, p.isAbsolute, p.names.map .literal ++ (parse none name).segments⟩ := by
  have hfree := hname.effectiveName
  have hliteral : (namingPieces p.chars).map Segment.parse = p.names.map .literal := by
    rw [namingPieces_chars hp.noBackslash]
    exact List.map_congr_left fun _ => hp.parse_name
  by_cases hempty : p = .empty
  · subst hempty
    have hunder : under (some .empty) (effectiveName name) = effectiveName name := rfl
    have hnames : Path.empty.names = [] := by decide
    have habsolute : Path.empty.isAbsolute = false := rfl
    have hsame : parse (some .empty) name = parse none name := by
      rw [parse, parse, hunder, under_none]
    rw [hsame, parse_none_of_isFree hname, hnames, habsolute, List.map_nil, List.nil_append]
  · rw [parse_none_of_isFree hname]
    have hnowhere : ∀ placeholder : Placeholder,
        ¬ placeholder.OccursIn (under (some p) (effectiveName name)).toList := by
      intro placeholder
      rw [under_some hempty]
      exact Placeholder.not_occursIn_append_cons (hp.noPlaceholder placeholder)
        (hfree.noPlaceholder placeholder)
    have hhead : ((under (some p) (effectiveName name)).toList.head? == some '/') =
        p.isAbsolute := by
      obtain ⟨first, rest, hchars⟩ := List.exists_cons_of_ne_nil (Path.chars_ne_nil hempty)
      rw [under_some hempty, Path.isAbsolute_eq_head?, hchars]
      rfl
    rw [parse_of_no_placeholder hnowhere, hhead, under_some hempty,
      namingPieces_append_cons rfl, List.map_append, hliteral]

end PathTemplate

variable {ω : Type}

namespace Destination

/-! ### What segments say -/

/-- The name that a directive comes to. -/
def askedName (ask : AskDirective) (wantsFile : Bool) : Run ω String := do
  let vars := (← get).vars
  match (ask.ref.bind fun ref => vars.resolve ref none).filter (· != "") with
  | some value => return value
  | none =>
      let message := if wantsFile then "Enter file name." else "Enter folder name."
      promptName message ask.default fun _ _ => none

/-- The text that a segment comes to. -/
def spoken (wantsFile : Bool) : Segment → Run ω String
  | .literal text => return text
  | .ask directive => askedName directive wantsFile
  | .reference ref => do
      match (← get).vars.resolve ref none with
      | some value =>
          match AskDirective.parse value with
          | some directive => askedName directive wantsFile
          | none => return value
      | none =>
          Service.report .warn s!"value not found for variable: '{ref.name}'"
          return ref.text

/-- The texts of the segments; the last one names a file if one is wanted. -/
def spokenAll (wantsFile : Bool) : List Segment → Run ω (List String)
  | [] => return []
  | [last] => return [← spoken wantsFile last]
  | segment :: rest => do
      let text ← spoken false segment
      return text :: (← spokenAll wantsFile rest)

variable {path : Path} {wantsFile : Bool}

theorem addAsked_eq (ask : AskDirective) :
    (addAsked path ask wantsFile : Run ω Path) = addPieces path <$> askedName ask wantsFile := by
  simp only [addAsked, askedName, map_bind]
  refine congrArg _ (funext fun s => ?_)
  cases (ask.ref.bind fun ref => s.vars.resolve ref none).filter (· != "") <;> simp

theorem addSegment_eq (segment : Segment) :
    (addSegment path wantsFile segment : Run ω Path) =
      addPieces path <$> spoken wantsFile segment := by
  cases segment with
  | literal text => simp [addSegment, spoken]
  | ask directive => exact addAsked_eq directive
  | reference ref =>
      simp only [addSegment, spoken, map_bind]
      refine congrArg _ (funext fun s => ?_)
      cases s.vars.resolve ref none with
      | none => simp
      | some value =>
          dsimp only
          cases AskDirective.parse value with
          | none => simp
          | some directive => exact addAsked_eq directive

theorem addSegments_eq (segments : List Segment) :
    (addSegments wantsFile path segments : Run ω Path) =
      (fun texts => texts.foldl addPieces path) <$> spokenAll wantsFile segments := by
  induction segments generalizing path with
  | nil => simp [addSegments, spokenAll]
  | cons segment rest ih =>
      cases rest with
      | nil => simp [addSegments, spokenAll, addSegment_eq]
      | cons next others => simp [addSegments, spokenAll, addSegment_eq, ih]

theorem spokenAll_cons_cons (segment next : Segment) (others : List Segment) :
    (spokenAll wantsFile (segment :: next :: others) : Run ω (List String)) = (do
      let text ← spoken false segment
      return text :: (← spokenAll wantsFile (next :: others))) := rfl

/-- Literal segments say themselves, also where the last one names a file. -/
theorem spokenAll_literal (names : List String) (segments : List Segment) :
    (spokenAll wantsFile (names.map .literal ++ segments) : Run ω (List String)) =
      (names ++ ·) <$> spokenAll wantsFile segments := by
  induction names with
  | nil => simp
  | cons name rest ih =>
      rcases hrest : rest.map Segment.literal ++ segments with _ | ⟨next, others⟩
      · obtain ⟨hnames, rfl⟩ := List.append_eq_nil_iff.mp hrest
        obtain rfl := List.map_eq_nil_iff.mp hnames
        simp [spokenAll, spoken]
      · rw [hrest] at ih
        rw [List.map_cons, List.cons_append, hrest, spokenAll_cons_cons, ih]
        simp [spoken]

end Destination

namespace Path

/-! ### Literal bases within each other -/

theorem isNormal_join {p q : Path} (hp : p.IsNormal) (hq : q.IsNormal)
    (hrelative : q.isAbsolute = false) (hfull : q ≠ empty) : (p.join q).IsNormal := by
  have hnames : ∀ name ∈ q.names, IsPiece name := fun _ => isPiece_of_mem_names
  have hstart : q.start = empty := by rw [start, hrelative, if_neg Bool.false_ne_true]
  have hjoin : p.join q = q.names.foldl push p := by
    calc p.join q = p.onto q := (onto_of_ne_empty hfull).symm
      _ = p.onto (q.names.foldl push empty) := by rw [← hstart, ← hq.eq_foldl_names]
      _ = q.names.foldl push p := (onto_foldl_push rfl hnames).symm
  rw [hjoin]
  exact hp.foldl_push hnames

variable {p q : Path}

theorem IsLiteral.join (hp : p.IsLiteral) (hq : q.IsLiteral) (hrelative : q.isAbsolute = false)
    (hfull : q ≠ empty) : (p.join q).IsLiteral := by
  by_cases hpath : p.chars = []
  · rw [join_of_chars_eq_nil hpath]
    exact hq
  · obtain ⟨front, hjoin, hchars⟩ := chars_join hpath hrelative
    obtain ⟨rest, hrest⟩ : ∃ rest, p.chars = front ++ rest := by
      rcases hchars with ⟨hchars, -⟩ | hchars
      · exact ⟨[], by rw [hchars, List.append_nil]⟩
      · exact ⟨['/'], hchars⟩
    constructor
    · exact isNormal_join hp.normal hq.normal hrelative hfull
    · have hfront : '\\' ∉ front := by
        intro hmem
        exact hp.noBackslash (hrest ▸ List.mem_append_left rest hmem)
      rw [hjoin]
      simp [hfront, hq.noBackslash]
    · intro placeholder
      have hfront : ¬ placeholder.OccursIn front := by
        intro hoccurs
        exact hp.noPlaceholder placeholder (hrest ▸ hoccurs.append_right rest)
      rw [hjoin]
      exact Placeholder.not_occursIn_append_cons hfront (hq.noPlaceholder placeholder)
    · intro c hc
      rw [components_eq, lead_join hpath hrelative, body_join hrelative] at hc
      rcases List.mem_append.mp hc with hlead | hbody
      · exact hp.literal c (by rw [components_eq]; exact List.mem_append_left _ hlead)
      · rcases List.mem_append.mp hbody with hmem | hmem
        · exact hp.literal c (by rw [components_eq]; exact List.mem_append_right _ hmem)
        · exact hq.literal c (by rw [components_eq]; exact List.mem_append_right _ hmem)

end Path

variable [FileTree ω]

namespace Destination

variable {p b : Path} {name : String} {s : RunState ω}

theorem outcome_build (template : PathTemplate) (ignoreExisting : Bool) (s : RunState ω) :
    outcome (build template ignoreExisting) s =
      ((outcome (spokenAll (!ignoreExisting) template.segments) s).1.map
          fun texts => texts.foldl addPieces (origin s.files template),
        (outcome (spokenAll (!ignoreExisting) template.segments) s).2) := by
  rw [build, outcome_get_bind, addSegments_eq, outcome_map]

/-- A name comes to the same under the base as without one, with the base in front of it, and after
the same calls. -/
def LaysOnto (ω : Type) [FileTree ω] (base : Path) (name : String) : Prop :=
  ∀ (ignoreExisting : Bool) (s : RunState ω),
    outcome (build (PathTemplate.parse (some base) name) ignoreExisting) s =
      ((outcome (build (PathTemplate.parse none name) ignoreExisting) s).1.map base.onto,
        (outcome (build (PathTemplate.parse none name) ignoreExisting) s).2)

theorem laysOnto_of_isLiteral (hp : p.IsLiteral) (hname : PathTemplate.IsFree name) :
    LaysOnto ω p name := by
  intro ignoreExisting s
  let segments := (PathTemplate.parse none name).segments
  have hnone : PathTemplate.parse none name = ⟨none, false, segments⟩ := by
    have hparse := PathTemplate.parse_none_of_isFree hname
    simp only [segments, hparse]
  have hsome : PathTemplate.parse (some p) name =
      ⟨none, p.isAbsolute, p.names.map .literal ++ segments⟩ :=
    PathTemplate.parse_some_of_isFree hp hname
  have hpath : ∀ texts : List String, (p.names ++ texts).foldl addPieces p.start =
      p.onto (texts.foldl addPieces .empty) := by
    intro texts
    rw [List.foldl_append, hp.foldl_names, ← Path.onto_foldl_addPieces rfl, Path.onto_empty]
  rw [hnone, hsome, outcome_build, outcome_build, spokenAll_literal, outcome_map]
  rcases outcome (spokenAll (!ignoreExisting) segments) s with ⟨e | texts, t⟩
  · rfl
  · exact congrArg (fun path => (Except.ok path, t)) (hpath texts)

theorem parse_none_of_isGroupBase (hb : b.IsGroupBase) :
    PathTemplate.parse none b.text = ⟨none, b.isAbsolute, b.names.map .literal⟩ := by
  have hname : PathTemplate.effectiveName b.text = b.text := if_neg hb.full
  have hnowhere : ∀ placeholder : Placeholder, ¬ placeholder.OccursIn
      (PathTemplate.under none (PathTemplate.effectiveName b.text)).toList := by
    rw [hname]
    exact hb.noPlaceholder
  have hsegments : (PathTemplate.namingPieces b.text.toList).map Segment.parse =
      b.names.map .literal := by
    have hpieces : PathTemplate.namingPieces b.text.toList = b.names :=
      PathTemplate.namingPieces_chars hb.noBackslash
    rw [hpieces]
    exact List.map_congr_left fun _ => hb.parse_name
  have hhead : (b.text.toList.head? == some '/') = b.isAbsolute := (Path.isAbsolute_eq_head? b).symm
  rw [PathTemplate.parse_of_no_placeholder hnowhere, PathTemplate.under_none, hname, hsegments,
    hhead]

/-- A literal name comes to itself. -/
theorem outcome_build_literal (hb : b.IsGroupBase) (ignoreExisting : Bool) (s : RunState ω) :
    outcome (build (PathTemplate.parse none b.text) ignoreExisting) s = (.ok b, s) := by
  have htexts : outcome (spokenAll (!ignoreExisting) (b.names.map .literal)) s =
      (.ok b.names, s) := by
    rw [← List.append_nil (b.names.map Segment.literal), spokenAll_literal, outcome_map]
    simp [spokenAll, Except.map]
  rw [parse_none_of_isGroupBase hb, outcome_build, htexts]
  exact congrArg (fun path => (Except.ok path, s)) hb.foldl_names

theorem isFree_of_isLiteral (hb : b.IsLiteral) (hrelative : b.isAbsolute = false) :
    PathTemplate.IsFree b.text := by
  refine ⟨hb.noPlaceholder, fun hhead => ?_⟩
  have habsolute : b.isAbsolute = true := by
    rw [Path.isAbsolute_eq_head?, Path.chars, hhead]
    rfl
  rw [hrelative] at habsolute
  cases habsolute

theorem outcome_resolve_ignoring (base : Option Path) (name : String) (s : RunState ω) :
    outcome (resolve base name true) s =
      ((outcome (build (PathTemplate.parse base name) true) s).1.map Destination.path,
        (outcome (build (PathTemplate.parse base name) true) s).2) := by
  rw [resolve, outcome_bind]
  rcases outcome (build (PathTemplate.parse base name) true) s with ⟨e | path, t⟩ <;> rfl

end Destination

namespace Job

variable {frame : Frame} {p a b : Path} {name : String} {s : RunState ω}

/-- Groups with literal bases write one below the other, without a question. -/
theorem groupBase_literal (hp : (frame.base.getD .empty).IsLiteral) (hb : b.IsGroupBase)
    (hroot : b.isAbsolute = true → frame.base = none) :
    (groupBase frame (some b.text) : Run ω (Option Path)) =
      pure (some ((frame.base.getD .empty).join b)) := by
  apply eq_of_outcome
  intro s
  have hbuild : outcome (Destination.build (PathTemplate.parse frame.base b.text) true) s =
      (.ok ((frame.base.getD .empty).join b), s) := by
    cases hbase : frame.base with
    | none =>
        rw [Option.getD_none, Path.join_of_chars_eq_nil rfl]
        exact Destination.outcome_build_literal hb true s
    | some q =>
        have hrelative : b.isAbsolute = false := by
          rw [← Bool.not_eq_true]
          intro habsolute
          simp [hroot habsolute] at hbase
        have hq : q.IsLiteral := by
          rw [hbase] at hp
          exact hp
        have hlays : Destination.LaysOnto ω q b.text :=
          Destination.laysOnto_of_isLiteral hq
            (Destination.isFree_of_isLiteral hb.toIsLiteral hrelative)
        rw [hlays true s, Destination.outcome_build_literal hb, Option.getD_some, Except.map,
          Path.onto_of_ne_empty hb.ne_empty]
  rw [groupBase, outcome_bind, Destination.outcome_resolve_ignoring, hbuild]
  rfl

/-- Bases compose: a name under a literal base comes to what it comes to without one, laid behind the
base, and literal groups within each other lay their files behind both of their bases. -/
theorem bases_compose (hp : p.IsLiteral) (hname : PathTemplate.IsFree name) :
    Destination.LaysOnto ω p name ∧
      (∀ q, (p.onto q).components = (p.join q).components ∧ (q ≠ .empty → p.onto q = p.join q)) ∧
      ∀ (around : Surroundings) (invoke : Frame → String → Run ω Unit) (frame : Frame)
        (outer inner : Gate) (a b : Path) (jobs : List Job),
        frame.base.getD .empty = p → a.IsGroupBase → b.IsGroupBase →
        (a.isAbsolute = true → frame.base = none) → b.isAbsolute = false →
        exec around invoke frame (.group outer (some a.text) [.group inner (some b.text) jobs]) =
            gated outer (gated inner
              (execAll around invoke (frame.withBase (some ((p.join a).join b))) jobs)) ∧
          Destination.LaysOnto ω ((p.join a).join b) name := by
  refine ⟨Destination.laysOnto_of_isLiteral hp hname, ?_, ?_⟩
  · intro q
    exact ⟨p.components_onto q, Path.onto_of_ne_empty⟩
  · intro around invoke frame outer inner a b jobs hbase ha hb hroot hrelative
    have hinside : (p.join a).IsLiteral := by
      cases habsolute : a.isAbsolute with
      | false => exact hp.join ha.toIsLiteral habsolute ha.ne_empty
      | true =>
          rw [Path.join, if_pos habsolute]
          exact ha.toIsLiteral
    have houter : (groupBase frame (some a.text) : Run ω (Option Path)) =
        pure (some (p.join a)) := by
      rw [← hbase]
      exact groupBase_literal (hbase ▸ hp) ha hroot
    have hinner : (groupBase (frame.withBase (some (p.join a))) (some b.text) :
        Run ω (Option Path)) = pure (some ((p.join a).join b)) :=
      groupBase_literal hinside hb (by simp [hrelative])
    constructor
    · have hgroup : execAll around invoke (frame.withBase (some (p.join a)))
          [.group inner (some b.text) jobs] = gated inner
            (execAll around invoke (frame.withBase (some ((p.join a).join b))) jobs) := by
        simp only [exec, execAll, hinner, pure_bind, bind_pure_unit]
        rfl
      rw [exec, houter, pure_bind, hgroup]
    · exact Destination.laysOnto_of_isLiteral
        (hinside.join hb.toIsLiteral hrelative hb.ne_empty) hname

theorem bases_compose_nested :
    (Path.mk "/srv").IsLiteral ∧ PathTemplate.IsFree "<-ask | Button.tsx->" ∧
      (Path.mk "app").IsGroupBase ∧ (Path.mk "ui").IsGroupBase ∧
      Destination.LaysOnto MemoryFiles ⟨"/srv/app/ui"⟩ "<-ask | Button.tsx->" := by
  have hbase : (Path.mk "/srv").IsLiteral :=
    ⟨by decide, by decide, Placeholder.rightmost?_eq_none_iff.mp (by decide), by decide⟩
  have hname : PathTemplate.IsFree "<-ask | Button.tsx->" :=
    ⟨Placeholder.rightmost?_eq_none_iff.mp (by decide), by decide⟩
  have houter : (Path.mk "app").IsGroupBase :=
    ⟨⟨by decide, by decide, Placeholder.rightmost?_eq_none_iff.mp (by decide), by decide⟩,
      by decide⟩
  have hinner : (Path.mk "ui").IsGroupBase :=
    ⟨⟨by decide, by decide, Placeholder.rightmost?_eq_none_iff.mp (by decide), by decide⟩,
      by decide⟩
  obtain ⟨-, -, hgroups⟩ := @bases_compose MemoryFiles _ _ _ hbase hname
  obtain ⟨-, hlays⟩ := hgroups ⟨⟨[]⟩, false⟩ (fun _ _ => return) (.root (some ⟨"/srv"⟩) [])
    ⟨none, none, none⟩ ⟨none, none, none⟩ ⟨"app"⟩ ⟨"ui"⟩ [] rfl houter hinner (by decide) (by decide)
  exact ⟨hbase, hname, houter, hinner, hlays⟩

end Job
end Scaffold
