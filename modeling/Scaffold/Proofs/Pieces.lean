import Scaffold.Template.PathTemplate

/-!
# Pieces of texts and paths

A text that is cut at separators is cut on both sides of each one.  A path to which a piece is added
has one component more, and all that it had stands before it.
-/

namespace Scaffold

namespace Text

variable {isSeparator : Char → Bool} {c : Char} {cs front back piece : List Char}

theorem pieces_eq_splitOnP (isSeparator : Char → Bool) (cs : List Char) :
    pieces isSeparator cs = cs.splitOnP isSeparator := by
  induction cs with
  | nil => rfl
  | cons c rest ih =>
      rw [pieces, List.splitOnP_cons_eq_if_modifyHead, ih]
      split
      · rfl
      · rcases hrest : rest.splitOnP isSeparator with _ | ⟨first, others⟩
        · exact absurd hrest (List.splitOnP_ne_nil _ _)
        · rfl

theorem pieces_append_cons (hc : isSeparator c = true) :
    pieces isSeparator (front ++ c :: back) =
      pieces isSeparator front ++ pieces isSeparator back := by
  simp only [pieces_eq_splitOnP, List.splitOnP_append_cons _ _ hc]

theorem pieces_of_forall (hcs : ∀ c ∈ cs, isSeparator c = false) :
    pieces isSeparator cs = [cs] := by
  rw [pieces_eq_splitOnP, List.splitOnP_eq_singleton hcs]

theorem pieces_congr {isOther : Char → Bool} (hsame : ∀ c ∈ cs, isSeparator c = isOther c) :
    pieces isSeparator cs = pieces isOther cs := by
  induction cs with
  | nil => rfl
  | cons c rest ih =>
      obtain ⟨hfirst, hrest⟩ := List.forall_mem_cons.mp hsame
      rw [pieces, pieces, hfirst, ih hrest]

/-- What is cut at one separator can be put together again. -/
theorem intercalate_pieces (separator : Char) (cs : List Char) :
    [separator].intercalate (pieces (· == separator) cs) = cs := by
  rw [pieces_eq_splitOnP]
  exact List.intercalate_splitOn separator

theorem pieces_injective (separator : Char) : (pieces (· == separator)).Injective :=
  Function.LeftInverse.injective (intercalate_pieces separator)

theorem pieces_intercalate {separator : Char} {parts : List (List Char)} (hparts : parts ≠ [])
    (hwhole : ∀ part ∈ parts, separator ∉ part) :
    pieces (· == separator) ([separator].intercalate parts) = parts := by
  rw [pieces_eq_splitOnP]
  exact List.splitOn_intercalate separator hwhole hparts

theorem of_mem_pieces (hpiece : piece ∈ pieces isSeparator cs) (hc : c ∈ piece) :
    isSeparator c = false := by
  induction cs generalizing piece with
  | nil => simp_all [pieces]
  | cons d rest ih =>
      unfold pieces at hpiece
      split at hpiece
      · rcases List.mem_cons.mp hpiece with rfl | hrest
        · cases hc
        · exact ih hrest hc
      next hd =>
        split at hpiece
        · simp_all
        next first others hrest =>
          rcases List.mem_cons.mp hpiece with rfl | hothers
          · rcases List.mem_cons.mp hc with rfl | hfirst
            · simpa using hd
            · exact ih (by simp [hrest]) hfirst
          · exact ih (by simp [hrest, hothers]) hc

/-- Cutting takes the separators away and nothing else. -/
theorem exists_mem_pieces_iff (isSeparator : Char → Bool) (hc : isSeparator c = false) :
    (∃ piece ∈ pieces isSeparator cs, c ∈ piece) ↔ c ∈ cs := by
  induction cs with
  | nil => simp [pieces]
  | cons d rest ih =>
      unfold pieces
      by_cases hd : isSeparator d = true
      · have hne : c ≠ d := by
          rintro rfl
          rw [hc] at hd
          cases hd
        rw [if_pos hd]
        simp [ih, hne]
      · rw [if_neg hd, List.mem_cons, ← ih]
        cases hrest : pieces isSeparator rest with
        | nil => exact absurd hrest (pieces_ne_nil isSeparator rest)
        | cons first others => simp [or_assoc]

end Text

namespace PathTemplate

variable {c : Char} {cs : List Char} {piece : String}

theorem namingPieces_append_cons (hc : isSeparator c = true) (front back : List Char) :
    namingPieces (front ++ c :: back) = namingPieces front ++ namingPieces back := by
  rw [namingPieces, Text.pieces_append_cons hc, List.filter_append, List.map_append]
  rfl

theorem namingPieces_of_forall (hfull : cs ≠ []) (hpoint : cs ≠ ['.'])
    (hcs : ∀ c ∈ cs, isSeparator c = false) : namingPieces cs = [String.ofList cs] := by
  have hnaming : (!cs.isEmpty && cs != ['.']) = true := by simp [hfull, hpoint]
  rw [namingPieces, Text.pieces_of_forall hcs, List.filter_cons, if_pos hnaming]
  rfl

theorem mem_namingPieces_iff :
    piece ∈ namingPieces cs ↔ ∃ letters ∈ Text.pieces isSeparator cs,
      letters ≠ [] ∧ letters ≠ ['.'] ∧ String.ofList letters = piece := by
  simp [namingPieces, and_assoc]

end PathTemplate

namespace Path

/-- The text names something by itself: it is not empty, no single point, and of one piece. -/
structure IsPiece (piece : String) : Prop where
  full : piece ≠ ""
  noPoint : piece ≠ "."
  whole : '/' ∉ piece.toList

/-- The component that a piece stands for. -/
def Component.named (piece : String) : Component := if piece = ".." then .up else .name piece

namespace Component

variable {piece : String}

theorem ofPiece_eq_named (hpiece : IsPiece piece) : ofPiece piece = some (named piece) := by
  unfold ofPiece named
  rw [if_neg (by simp [hpiece.full, hpiece.noPoint])]
  split <;> rfl

@[simp] theorem text_named (piece : String) : (named piece).text = piece := by
  unfold named
  split
  next h => exact h.symm
  next => rfl

theorem named_ne_root (piece : String) : named piece ≠ .root := by
  unfold named
  split <;> simp

theorem named_ne_current (piece : String) : named piece ≠ .current := by
  unfold named
  split <;> simp

end Component

variable {p q : Path} {piece : String}

/-- The components that come of the pieces. -/
def body (p : Path) : List Component := p.pieces.filterMap Component.ofPiece

/-- The component for the slash or the point at the start. -/
def lead (p : Path) : List Component :=
  if p.isAbsolute then [.root] else if p.pieces.head? = some "." then [.current] else []

theorem components_eq (p : Path) : p.components = p.lead ++ p.body := by
  unfold components lead body
  split
  · rfl
  · dsimp only
    split
    next rest hpieces => simp [hpieces]
    next hpieces =>
      rcases h : p.pieces with _ | ⟨first, rest⟩
      · rfl
      · have hfirst : first ≠ "." := fun heq => hpieces rest (heq ▸ h)
        simp [hfirst]

theorem isAbsolute_piece (hpiece : IsPiece piece) : (Path.mk piece).isAbsolute = false := by
  have hwhole : '/' ∉ (Path.mk piece).chars := hpiece.whole
  unfold isAbsolute
  split
  next rest hchars => simp [hchars] at hwhole
  next => rfl

theorem pieces_piece (hpiece : IsPiece piece) : (Path.mk piece).pieces = [piece] := by
  have hone : Text.pieces isSlash piece.toList = [piece.toList] := by
    refine Text.pieces_of_forall fun c hc => ?_
    have hne : c ≠ '/' := fun heq => hpiece.whole (heq ▸ hc)
    simpa [isSlash] using hne
  rw [Path.pieces, chars, hone]
  simp

theorem isAbsolute_eq_head? (p : Path) : p.isAbsolute = (p.chars.head? == some '/') := by
  unfold isAbsolute
  split
  next rest hchars => simp [hchars]
  next hchars =>
    rcases h : p.chars with _ | ⟨first, rest⟩
    · rfl
    · have hfirst : first ≠ '/' := fun heq => hchars rest (heq ▸ h)
      simp [hfirst]

/-- The pieces that name something. -/
def names (p : Path) : List String := p.pieces.filter fun piece => piece ≠ "" ∧ piece ≠ "."

theorem body_eq (p : Path) : p.body = p.names.map Component.named := by
  have hpiece : Component.ofPiece = fun piece =>
      if piece ≠ "" ∧ piece ≠ "." then some (Component.named piece) else none := by
    funext piece
    unfold Component.ofPiece Component.named
    grind
  rw [body, names, ← List.filterMap_eq_map, List.filterMap_filter, hpiece]
  simp

theorem isPiece_of_mem_names (hmem : piece ∈ p.names) : IsPiece piece := by
  obtain ⟨hpieces, hnaming⟩ := List.mem_filter.mp hmem
  obtain ⟨hfull, hpoint⟩ : piece ≠ "" ∧ piece ≠ "." := by simpa using hnaming
  obtain ⟨letters, hletters, rfl⟩ := List.mem_map.mp hpieces
  refine ⟨hfull, hpoint, fun hslash => ?_⟩
  rw [String.toList_ofList] at hslash
  exact absurd (Text.of_mem_pieces hletters hslash) (by decide)

/-! ### One path behind another -/

theorem pieces_of_chars_eq_nil (hpath : p.chars = []) : p.pieces = [""] := by
  simp [Path.pieces, hpath, Text.pieces]

theorem body_of_chars_eq_nil (hpath : p.chars = []) : p.body = [] := by
  rw [body, pieces_of_chars_eq_nil hpath]
  rfl

theorem join_of_chars_eq_nil (hpath : p.chars = []) (q : Path) : p.join q = q := by
  unfold join
  split
  · rfl
  · rw [hpath]
    rfl

/-- A relative path comes behind a slash, with which the first one may end already. -/
theorem chars_join (hpath : p.chars ≠ []) (hq : q.isAbsolute = false) :
    ∃ front, (p.join q).chars = front ++ '/' :: q.chars ∧
      (p.chars = front ∧ front.getLast? ≠ some '/' ∨ p.chars = front ++ ['/']) := by
  obtain ⟨front, last, hlast⟩ : ∃ front last, p.chars = front ++ [last] :=
    ⟨_, _, (List.dropLast_concat_getLast hpath).symm⟩
  have htext : p.text.toList = front ++ [last] := hlast
  rw [join, hq, if_neg (by simp), hlast]
  by_cases hslash : last = '/'
  · subst hslash
    exact ⟨front, by simp [chars, htext], Or.inr rfl⟩
  · exact ⟨front ++ [last], by simp [chars, htext], Or.inl ⟨rfl, by simpa using hslash⟩⟩

theorem isAbsolute_join (hpath : p.chars ≠ []) (hq : q.isAbsolute = false) :
    (p.join q).isAbsolute = p.isAbsolute := by
  obtain ⟨front, hjoin, hchars⟩ := chars_join hpath hq
  rw [isAbsolute_eq_head?, isAbsolute_eq_head?, hjoin]
  cases front with
  | nil =>
      have hroot : p.chars = ['/'] := hchars.resolve_left fun hnil => hpath hnil.1
      rw [hroot]
      rfl
  | cons first rest => rcases hchars with ⟨hchars, -⟩ | hchars <;> rw [hchars] <;> rfl

/-- What stands before the second path means what the first path means. -/
theorem pieces_join (hpath : p.chars ≠ []) (hq : q.isAbsolute = false) :
    ∃ before ≠ [], (p.join q).pieces = before ++ q.pieces ∧
      (p.pieces = before ∨ p.pieces = before ++ [""]) := by
  obtain ⟨front, hjoin, hchars⟩ := chars_join hpath hq
  refine ⟨(Text.pieces isSlash front).map String.ofList, ?_, ?_, ?_⟩
  · simpa using Text.pieces_ne_nil isSlash front
  · rw [Path.pieces, hjoin, Text.pieces_append_cons rfl, List.map_append]
    rfl
  · rcases hchars with ⟨hchars, -⟩ | hchars
    · exact Or.inl (by rw [Path.pieces, hchars])
    · refine Or.inr ?_
      rw [Path.pieces, hchars, Text.pieces_append_cons rfl, List.map_append]
      rfl

theorem lead_join (hpath : p.chars ≠ []) (hq : q.isAbsolute = false) :
    (p.join q).lead = p.lead := by
  unfold lead
  rw [isAbsolute_join hpath hq]
  obtain ⟨before, hbefore, hjoin, hpieces⟩ := pieces_join hpath hq
  obtain ⟨first, rest, rfl⟩ := List.exists_cons_of_ne_nil hbefore
  rcases hpieces with hpieces | hpieces <;> rw [hjoin, hpieces] <;> rfl

theorem body_join (hq : q.isAbsolute = false) : (p.join q).body = p.body ++ q.body := by
  by_cases hpath : p.chars = []
  · rw [join_of_chars_eq_nil hpath, body_of_chars_eq_nil hpath, List.nil_append]
  · have hempty : [""].filterMap Component.ofPiece = [] := rfl
    obtain ⟨before, -, hjoin, hpieces⟩ := pieces_join hpath hq
    unfold body
    rw [hjoin, List.filterMap_append]
    rcases hpieces with hpieces | hpieces
    · rw [hpieces]
    · rw [hpieces, List.filterMap_append, hempty, List.append_nil]

theorem ne_current_of_mem_body {c : Component} (hc : c ∈ p.body) : c ≠ .current := by
  rw [body_eq] at hc
  obtain ⟨piece, -, rfl⟩ := List.mem_map.mp hc
  exact Component.named_ne_current piece

theorem key_eq (p : Path) : p.key = (if p.isAbsolute then [.root] else []) ++ p.body := by
  have hbody : p.body.filter (· != .current) = p.body :=
    List.filter_eq_self.mpr fun c hc => by simpa using ne_current_of_mem_body hc
  rw [key, components_eq, List.filter_append, hbody, lead]
  split
  · rfl
  · split <;> rfl

theorem key_join (hq : q.isAbsolute = false) : (p.join q).key = p.key ++ q.key := by
  by_cases hpath : p.chars = []
  · have hrelative : p.isAbsolute = false := by rw [isAbsolute, hpath]
    rw [join_of_chars_eq_nil hpath, key_eq p, hrelative, body_of_chars_eq_nil hpath]
    rfl
  · rw [key_eq, key_eq p, key_eq q, isAbsolute_join hpath hq, body_join hq, hq]
    simp

/-! ### One more piece -/

theorem push_of_chars_eq_nil (hpath : p.chars = []) (piece : String) : p.push piece = ⟨piece⟩ :=
  join_of_chars_eq_nil hpath ⟨piece⟩

theorem isAbsolute_push (hpiece : IsPiece piece) :
    (p.push piece).isAbsolute = p.isAbsolute := by
  by_cases hpath : p.chars = []
  · rw [push_of_chars_eq_nil hpath, isAbsolute_piece hpiece, isAbsolute, hpath]
  · exact isAbsolute_join hpath (isAbsolute_piece hpiece)

theorem body_piece (hpiece : IsPiece piece) : (Path.mk piece).body = [Component.named piece] := by
  rw [body, pieces_piece hpiece]
  simp [Component.ofPiece_eq_named hpiece]

theorem lead_push (hpiece : IsPiece piece) : (p.push piece).lead = p.lead := by
  by_cases hpath : p.chars = []
  · rw [push_of_chars_eq_nil hpath, lead, lead, isAbsolute_piece hpiece, pieces_piece hpiece,
      isAbsolute, hpath, pieces_of_chars_eq_nil hpath]
    simp [hpiece.noPoint]
  · exact lead_join hpath (isAbsolute_piece hpiece)

theorem components_push (hpiece : IsPiece piece) :
    (p.push piece).components = p.components ++ [Component.named piece] := by
  rw [components_eq, components_eq, lead_push hpiece, push, body_join (isAbsolute_piece hpiece),
    body_piece hpiece, List.append_assoc]

theorem key_push (hpiece : IsPiece piece) :
    (p.push piece).key = p.key ++ [Component.named piece] := by
  have hrelative := isAbsolute_piece hpiece
  rw [push, key_join hrelative, key_eq ⟨piece⟩, hrelative, body_piece hpiece]
  rfl

/-- The path is what its components are put together to. -/
def IsNormal (p : Path) : Prop := ofComponents p.key = p

instance (p : Path) : Decidable p.IsNormal := inferInstanceAs (Decidable (_ = _))

theorem IsNormal.push (hp : p.IsNormal) (hpiece : IsPiece piece) : (p.push piece).IsNormal := by
  unfold IsNormal ofComponents
  rw [key_push hpiece, List.foldl_append, List.foldl_cons, List.foldl_nil, Component.text_named]
  exact congrArg (Path.push · piece) hp

/-! ### Paths with the pieces of a text behind them -/

/-- The components that the pieces of a text stand for. -/
def componentsOf (text : String) : List Component :=
  (PathTemplate.namingPieces text.toList).map Component.named

theorem isPiece_of_mem_namingPieces {cs : List Char}
    (hmem : piece ∈ PathTemplate.namingPieces cs) : IsPiece piece := by
  obtain ⟨letters, hpieces, hfull, hpoint, rfl⟩ := PathTemplate.mem_namingPieces_iff.mp hmem
  refine ⟨?_, ?_, ?_⟩
  · simpa [String.ext_iff] using hfull
  · simpa [String.ext_iff] using hpoint
  · intro hslash
    rw [String.toList_ofList] at hslash
    exact absurd (Text.of_mem_pieces hpieces hslash) (by decide)

section Added

variable {pieces : List String} (hpieces : ∀ piece ∈ pieces, IsPiece piece)
include hpieces

theorem components_foldl_push (p : Path) :
    (pieces.foldl Path.push p).components = p.components ++ pieces.map Component.named := by
  induction pieces generalizing p with
  | nil => simp
  | cons piece rest ih =>
      obtain ⟨hpiece, hrest⟩ := List.forall_mem_cons.mp hpieces
      rw [List.foldl_cons, ih hrest, components_push hpiece]
      simp

theorem isAbsolute_foldl_push (p : Path) :
    (pieces.foldl Path.push p).isAbsolute = p.isAbsolute := by
  induction pieces generalizing p with
  | nil => rfl
  | cons piece rest ih =>
      obtain ⟨hpiece, hrest⟩ := List.forall_mem_cons.mp hpieces
      rw [List.foldl_cons, ih hrest, isAbsolute_push hpiece]

theorem IsNormal.foldl_push (hp : p.IsNormal) : (pieces.foldl Path.push p).IsNormal := by
  induction pieces generalizing p with
  | nil => exact hp
  | cons piece rest ih =>
      obtain ⟨hpiece, hrest⟩ := List.forall_mem_cons.mp hpieces
      exact ih hrest (hp.push hpiece)

end Added

/-! ### Normal paths -/

/-- Where the names of a path start. -/
def start (p : Path) : Path := if p.isAbsolute then ⟨"/"⟩ else empty

theorem isNormal_start (p : Path) : p.start.IsNormal := by
  unfold start
  split <;> rfl

theorem IsNormal.eq_foldl_names (hp : p.IsNormal) : p = p.names.foldl Path.push p.start := by
  have hcomponents : ofComponents p.key = p.names.foldl Path.push p.start := by
    have hpush : (fun (q : Path) piece => q.push (Component.named piece).text) = Path.push := by
      simp
    rw [ofComponents, key_eq, body_eq, List.foldl_append, List.foldl_map, hpush, start]
    cases p.isAbsolute <;> rfl
  exact hp.symm.trans hcomponents

/-- A normal path is empty, or the root, or a normal path with one more piece. -/
theorem IsNormal.eq_or_exists_push (hp : p.IsNormal) :
    p = empty ∨ p = ⟨"/"⟩ ∨ ∃ (q : Path) (piece : String),
      q.IsNormal ∧ IsPiece piece ∧ p = q.push piece := by
  have hfold := hp.eq_foldl_names
  rcases List.eq_nil_or_concat p.names with hnames | ⟨front, last, hnames⟩
  · rw [hnames, List.foldl_nil, start] at hfold
    split at hfold
    · exact Or.inr (Or.inl hfold)
    · exact Or.inl hfold
  · have hpieces : ∀ piece ∈ front ++ [last], IsPiece piece := fun piece hmem =>
      isPiece_of_mem_names (hnames ▸ List.concat_eq_append ▸ hmem)
    refine Or.inr (Or.inr ⟨front.foldl Path.push p.start, last, ?_, hpieces last (by simp), ?_⟩)
    · exact (isNormal_start p).foldl_push fun piece hmem => hpieces piece (by simp [hmem])
    · rw [hnames, List.concat_eq_append, List.foldl_append] at hfold
      exact hfold

end Path
end Scaffold
