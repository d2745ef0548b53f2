import Scaffold.Proofs.BuiltPaths

/-!
# Other names for files in the way

A file that is in the way can be given another name.  What is entered is put behind the parent of
the path as it stands: a name of one piece comes to lie beside the file, but an entry with slashes
goes as far down or up as it says, and one that starts with a slash leaves the parent altogether.
-/

namespace Scaffold

namespace Path

variable {p q : Path} {piece name : String} {tail : List Char}

/-! ### Parents of normal paths -/

theorem IsPiece.reverse_eq_cons (hpiece : IsPiece piece) :
    ∃ last others, piece.toList.reverse = last :: others ∧ last ≠ '/' := by
  have hfull : piece.toList.reverse ≠ [] := by
    simpa [String.toList_eq_nil_iff] using hpiece.full
  obtain ⟨last, others, hreverse⟩ := List.exists_cons_of_ne_nil hfull
  refine ⟨last, others, hreverse, ?_⟩
  rintro rfl
  have hslash : '/' ∈ piece.toList.reverse := hreverse ▸ List.mem_cons_self
  exact hpiece.whole (List.mem_reverse.mp hslash)

/-- A piece is no slash, and a point in it is not all that it is. -/
theorem trimPieces_piece (hpiece : IsPiece piece) (start : Nat) (tail : List Char) :
    trimPieces start (piece.toList.reverse ++ tail) = piece.toList.reverse ++ tail := by
  obtain ⟨last, others, hreverse, hlast⟩ := hpiece.reverse_eq_cons
  rw [hreverse, List.cons_append]
  unfold trimPieces
  split
  next hslash => exact absurd (List.cons.inj hslash).1 hlast
  next rest hpoint =>
    obtain ⟨rfl, hothers⟩ := List.cons.inj hpoint
    cases others with
    | nil =>
        have hpoint : piece.toList = ['.'] := by simpa using congrArg List.reverse hreverse
        exact absurd (String.ext hpoint) hpiece.noPoint
    | cons next more =>
        obtain ⟨rfl, -⟩ := List.cons.inj hothers
        have hslash : '/' ∈ piece.toList.reverse := by simp [hreverse]
        exact absurd (List.mem_reverse.mp hslash) hpiece.whole
  next => rfl

theorem trimPieces_nil (start : Nat) : trimPieces start [] = [] := by
  simp [trimPieces]

theorem trimPieces_root : trimPieces 1 ['/'] = ['/'] := by
  simp [trimPieces]

theorem IsNormal.components_eq (hp : p.IsNormal) :
    p.components = (if p.isAbsolute then [.root] else []) ++ p.names.map Component.named := by
  have hpieces : ∀ piece ∈ p.names, IsPiece piece := fun _ => isPiece_of_mem_names
  have hstart : p.start.components = if p.isAbsolute then [.root] else [] := by
    unfold start
    split <;> rfl
  calc p.components = (p.names.foldl Path.push p.start).components :=
        congrArg components hp.eq_foldl_names
    _ = p.start.components ++ p.names.map Component.named := components_foldl_push hpieces p.start
    _ = _ := by rw [hstart]

theorem IsNormal.bodyStart_eq (hp : p.IsNormal) :
    p.bodyStart = if p.isAbsolute then 1 else 0 := by
  rw [bodyStart, hp.components_eq]
  cases p.isAbsolute with
  | true => rfl
  | false =>
      cases p.names with
      | nil => rfl
      | cons first rest =>
          rw [if_neg Bool.false_ne_true, if_neg Bool.false_ne_true, List.nil_append, List.map_cons]
          split
          next hroot => exact absurd (List.cons.inj hroot).1 (Component.named_ne_root first)
          next hcurrent => exact absurd (List.cons.inj hcurrent).1 (Component.named_ne_current first)
          next => rfl

/-- A path without the last of its pieces. -/
theorem parent_of_chars (hpiece : IsPiece piece)
    (hlast : p.components.getLast? = some (Component.named piece))
    (hchars : p.chars.reverse = piece.toList.reverse ++ tail) (hstart : p.bodyStart ≤ tail.length)
    (hslash : ∀ c ∈ (tail.take (tail.length - p.bodyStart)).head?, c = '/') :
    p.parent = some ⟨String.ofList (trimPieces p.bodyStart tail).reverse⟩ := by
  have hname : ∀ c ∈ piece.toList.reverse, (!isSlash c) = true := by
    intro c hc
    have hne : c ≠ '/' := fun heq => hpiece.whole (heq ▸ List.mem_reverse.mp hc)
    simpa [isSlash] using hne
  have hrest : (tail.take (tail.length - p.bodyStart)).dropWhile (!isSlash ·) =
      tail.take (tail.length - p.bodyStart) := by
    rcases h : tail.take (tail.length - p.bodyStart) with _ | ⟨first, rest⟩
    · rfl
    · have hfirst : first = '/' := hslash first (by simp [h])
      simp [hfirst, isSlash]
  have hlength : (piece.toList.reverse ++ tail).length - p.bodyStart =
      piece.toList.reverse.length + (tail.length - p.bodyStart) := by
    rw [List.length_append]
    omega
  have hbefore : ((piece.toList.reverse ++ tail).take
        ((piece.toList.reverse ++ tail).length - p.bodyStart)).dropWhile (!isSlash ·) ++
      (piece.toList.reverse ++ tail).drop
        ((piece.toList.reverse ++ tail).length - p.bodyStart) = tail := by
    rw [hlength, List.take_length_add_append, List.drop_length_add_append,
      List.dropWhile_append_of_pos hname, hrest, List.take_append_drop]
  unfold parent
  rw [hlast]
  split
  next hnone => cases hnone
  next hroot => exact absurd (Option.some.inj hroot) (Component.named_ne_root piece)
  next hcurrent => exact absurd (Option.some.inj hcurrent) (Component.named_ne_current piece)
  next =>
    dsimp only
    rw [hchars, trimPieces_piece hpiece, hbefore]

theorem exists_chars_push (q : Path) (hname : IsPiece name) :
    ∃ front, (q.push name).chars = front ++ name.toList := by
  by_cases hpath : q.chars = []
  · exact ⟨[], by rw [push_of_chars_eq_nil hpath]; rfl⟩
  · obtain ⟨front, hjoin, -⟩ := chars_join hpath (isAbsolute_piece hname)
    exact ⟨front ++ ['/'], by rw [push, hjoin]; simp [chars]⟩

/-- A path that ends in a piece does not end in a slash. -/
theorem chars_push_push (q : Path) (hname : IsPiece name) (hpiece : IsPiece piece) :
    ((q.push name).push piece).chars = (q.push name).chars ++ '/' :: piece.toList := by
  obtain ⟨last, others, hreverse, hlast⟩ := hname.reverse_eq_cons
  obtain ⟨before, hbefore⟩ := exists_chars_push q hname
  have hends : (q.push name).chars = (before ++ others.reverse) ++ [last] := by
    have hname' : name.toList = others.reverse ++ [last] := by
      simpa using congrArg List.reverse hreverse
    rw [hbefore, hname', List.append_assoc]
  obtain ⟨front, hjoin, hchars⟩ := chars_join (p := q.push name) (by simp [hends])
    (isAbsolute_piece hpiece)
  rcases hchars with ⟨hchars, -⟩ | hchars
  · rw [push, hjoin, hchars]
    rfl
  · rw [hends] at hchars
    exact absurd (by simpa using List.append_inj_right' hchars rfl) hlast

/-- The parent of a normal path with one more piece is that path. -/
theorem parent_push (hp : p.IsNormal) (hpiece : IsPiece piece) :
    (p.push piece).parent = some p := by
  have hlast : (p.push piece).components.getLast? = some (Component.named piece) := by
    simp [components_push hpiece]
  have hstart := (hp.push hpiece).bodyStart_eq
  rw [isAbsolute_push hpiece] at hstart
  rcases hp.eq_or_exists_push with rfl | rfl | ⟨q, name, -, hname, rfl⟩
  · have hnone : (empty.push piece).bodyStart = 0 := hstart
    have hchars : (empty.push piece).chars.reverse = piece.toList.reverse ++ [] := by
      rw [push_of_chars_eq_nil rfl, List.append_nil]
      rfl
    rw [parent_of_chars hpiece hlast hchars (by simp [hnone]) (by simp), trimPieces_nil]
    rfl
  · have hone : ((Path.mk "/").push piece).bodyStart = 1 := hstart
    have hchars : ((Path.mk "/").push piece).chars.reverse = piece.toList.reverse ++ ['/'] := by
      obtain ⟨front, hjoin, hroot⟩ := chars_join (p := ⟨"/"⟩) (by decide) (isAbsolute_piece hpiece)
      have hfront : front = [] := by
        rcases hroot with ⟨rfl, hslash⟩ | hroot
        · exact absurd rfl hslash
        · have hroot' : [] ++ ['/'] = front ++ ['/'] := hroot
          exact (List.append_cancel_right hroot').symm
      rw [push, hjoin, hfront]
      simp [chars]
    rw [parent_of_chars hpiece hlast hchars (by simp [hone]) (by simp [hone]), hone,
      trimPieces_root]
    rfl
  · obtain ⟨before, hbefore⟩ := exists_chars_push q hname
    have hchars : ((q.push name).push piece).chars.reverse =
        piece.toList.reverse ++ '/' :: (q.push name).chars.reverse := by
      rw [chars_push_push q hname hpiece]
      simp
    have hle : ((q.push name).push piece).bodyStart ≤ 1 := by
      rw [hstart]
      split <;> omega
    have hlength : 0 < (q.push name).chars.length := by
      have hfull := List.length_pos_iff.mpr (mt String.toList_eq_nil_iff.mp hname.full)
      rw [hbefore, List.length_append]
      omega
    have htrim : trimPieces ((q.push name).push piece).bodyStart
        ('/' :: (q.push name).chars.reverse) = (q.push name).chars.reverse := by
      rw [trimPieces, if_pos (by simp; omega), hbefore, List.reverse_append, trimPieces_piece hname]
    have hslash : ∀ c ∈ (('/' :: (q.push name).chars.reverse).take
        (('/' :: (q.push name).chars.reverse).length -
          ((q.push name).push piece).bodyStart)).head?, c = '/' := by
      intro c hc
      rw [List.head?_take, if_neg (by simp; omega)] at hc
      exact (Option.some.inj hc).symm
    rw [parent_of_chars hpiece hlast hchars (by simp; omega) hslash, htrim]
    simp [chars]

theorem IsNormal.parent {above : Path} (hp : p.IsNormal) (habove : p.parent = some above) :
    above.IsNormal := by
  rcases hp.eq_or_exists_push with rfl | rfl | ⟨q, name, hq, hname, rfl⟩
  · cases habove
  · cases habove
  · rw [parent_push hq hname] at habove
    exact Option.some.inj habove ▸ hq

end Path

open Run

variable {ω : Type} [FileTree ω]

namespace Destination

/-- The user wants another name for the file. -/
def rename (path : Path) : ServiceEvent := ⟨collision path, .ok (.text "rename")⟩

variable {s t u : RunState ω} {base : Option Path} {path target : Path} {name : String}
  {later : List ServiceEvent}

theorem isNormal_of_build {template : PathTemplate} {ignoreExisting : Bool}
    (hbuild : outcome (build template ignoreExisting) s = (.ok path, t)) : path.IsNormal := by
  rw [build, outcome_get_bind] at hbuild
  obtain ⟨calls, texts, -, -, rfl⟩ := allSay_of_addSegments hbuild
  exact isNormal_foldl_addPieces (isNormal_origin s.files template) texts

theorem exists_later_of_arbitrate {r : Except RunError Destination}
    (hanswer : s.prompter.next.1 = .ok (.select "rename"))
    (hout : outcome (arbitrate path) s = (r, t)) :
    ∃ later, t.transcript = s.transcript ++ rename path :: later := by
  have hchoice : s.prompter.next.1.bind (Answer.choiceOr choices none) = .ok "rename" := by
    rw [hanswer]
    rfl
  rw [arbitrate, Service.select, outcome_bind, Service.outcome_prompt, hchoice] at hout
  have hquiet := ((asks_promptName (Ports.any ⟨[]⟩ ω) _ _ _).bind
    fun _ _ _ => asks_pure _).quiet.quietTo hout
  obtain ⟨events, prompter, rfl, -⟩ := hquiet
  exact ⟨events, by simp [RunState.noted, rename, collision, Except.map, Replies.reply]⟩

/-- After the wish for another name comes a prompt for it, whose answer is put behind the parent. -/
theorem entered_of_arbitrate (hout : outcome (arbitrate path) s = (.ok (.path target), t))
    (hrename : t.transcript = s.transcript ++ rename path :: later) :
    ∃ front raw, later = front ++ [⟨.text "Enter new file name" none, .ok (.text raw)⟩] ∧
      Text.trim raw ≠ "" ∧ target = path.parentD.push (Text.trim raw) ∧
      FileTree.occupied t.files target = false := by
  obtain ⟨choice, u, hselect, hchosen⟩ := outcome_bind_eq_ok_iff.mp hout
  have hprompt : u.transcript = s.transcript ++ [⟨collision path, .ok (.text choice)⟩] :=
    Service.transcript_of_prompt hselect
  split at hchosen
  next =>
    -- The answer is in the transcript, and it is another one.
    obtain ⟨-, rfl⟩ := outcome_pure_eq_ok_iff.mp hchosen
    simp [hprompt, rename] at hrename
  next =>
    obtain ⟨entered, v, hname, hrenamed⟩ := outcome_bind_eq_ok_iff.mp hchosen
    obtain ⟨htarget, rfl⟩ := outcome_pure_eq_ok_iff.mp hrenamed
    obtain rfl := Destination.path.inj htarget
    rw [promptName, outcome_get_bind] at hname
    obtain ⟨front, raw, hcalls, rfl, hfull⟩ := entered_of_askName hname
    have hfree := askName_accepted hname
    have htrim : enteredName none raw = Text.trim raw := by
      unfold enteredName at hfull ⊢
      grind
    rw [htrim] at hfull hfree ⊢
    refine ⟨front, raw, ?_, hfull, rfl, by simpa using hfree⟩
    rw [hcalls, hprompt, List.append_assoc, List.append_cancel_left_eq] at hrename
    exact (List.cons.inj hrename).2.symm
  next => simp at hchosen

/-- A file that is in the way and is to get another name comes to lie where the entry, read as a
path, leads from its parent.  Nothing is there yet, and an entry of one piece stays beside the file. -/
theorem renamed_behind_parent
    (hbuild : outcome (build (PathTemplate.parse base name) false) s = (.ok path, u))
    (hrename : t.transcript = u.transcript ++ rename path :: later)
    (hout : outcome (resolve base name false) s = (.ok (.path target), t)) :
    ∃ front raw, later = front ++ [⟨.text "Enter new file name" none, .ok (.text raw)⟩] ∧
      Text.trim raw ≠ "" ∧ target = path.parentD.push (Text.trim raw) ∧
      FileTree.occupied s.files target = false ∧
      ((Path.mk (Text.trim raw)).isAbsolute = true → target = ⟨Text.trim raw⟩) ∧
      ((Path.mk (Text.trim raw)).isAbsolute = false →
        target.key = path.parentD.key ++ (Path.mk (Text.trim raw)).key) ∧
      (∀ parent, path.parent = some parent → Path.IsPiece (Text.trim raw) → Text.trim raw ≠ ".." →
        target.parent = some parent ∧
          target.components = parent.components ++ [.name (Text.trim raw)]) := by
  have hfiles : t.files = s.files := ((quiet_resolve base name false).quietTo hout).files
  rw [resolve, outcome_bind_ok hbuild, outcome_get_bind] at hout
  have harbitrate : outcome (arbitrate path) u = (.ok (.path target), t) := by
    split at hout
    next =>
      obtain ⟨-, rfl⟩ := outcome_pure_eq_ok_iff.mp hout
      simp at hrename
    next => exact hout
  obtain ⟨front, raw, hlater, hfull, rfl, hfree⟩ := entered_of_arbitrate harbitrate hrename
  refine ⟨front, raw, hlater, hfull, rfl, hfiles ▸ hfree, ?_, ?_, ?_⟩
  · intro habsolute
    rw [Path.push, Path.join, if_pos habsolute]
  · intro hrelative
    exact Path.key_join hrelative
  · intro parent hparent hpiece hup
    have hbase : path.parentD = parent := by rw [Path.parentD, hparent, Option.getD_some]
    have hnormal := (isNormal_of_build hbuild).parent hparent
    rw [hbase]
    refine ⟨Path.parent_push hnormal hpiece, ?_⟩
    rw [Path.components_push hpiece, Path.Component.named, if_neg hup]

end Destination

/-- Two files are in the way, and other names are entered. -/
def RunState.inTheWay (entries : List String) : RunState MemoryFiles :=
  .start ⟨.empty, .empty⟩
    ⟨[([.name "lib", .name "a.ts"], "a"), ([.name "lib", .name "b.ts"], "b")], [[.name "lib"]]⟩
    (.script (.select "rename" :: entries.map .text))

namespace Destination

/-- The first entry is taken. -/
theorem renamed_behind_parent_free :
    ∃ u t later,
      outcome (build (PathTemplate.parse none "lib/a.ts") false)
          (RunState.inTheWay ["b.ts", " c.ts "]) = (.ok ⟨"lib/a.ts"⟩, u) ∧
        t.transcript = u.transcript ++ rename ⟨"lib/a.ts"⟩ :: later ∧
        outcome (resolve none "lib/a.ts" false) (RunState.inTheWay ["b.ts", " c.ts "]) =
          (.ok (.path ⟨"lib/c.ts"⟩), t) ∧
        ∃ raw, Path.mk "lib/c.ts" = (Path.mk "lib/a.ts").parentD.push (Text.trim raw) := by
  have hbuild : outcome (build (PathTemplate.parse none "lib/a.ts") false)
      (RunState.inTheWay ["b.ts", " c.ts "]) =
        (.ok ⟨"lib/a.ts"⟩, RunState.inTheWay ["b.ts", " c.ts "]) := by rfl
  have hpath : (outcome (resolve none "lib/a.ts" false)
      (RunState.inTheWay ["b.ts", " c.ts "])).1.toOption = some (.path ⟨"lib/c.ts"⟩) := by
    decide +kernel
  rcases hout : outcome (resolve none "lib/a.ts" false)
    (RunState.inTheWay ["b.ts", " c.ts "]) with ⟨e | destination, t⟩
  · simp [hout, Except.toOption] at hpath
  · rw [hout] at hpath
    obtain rfl := Option.some.inj hpath
    have harbitrate := hout
    rw [resolve, outcome_bind_ok hbuild, outcome_get_bind, if_neg (by decide +kernel)] at harbitrate
    obtain ⟨later, hrename⟩ := exists_later_of_arbitrate rfl harbitrate
    obtain ⟨front, raw, -, -, htarget, -⟩ := renamed_behind_parent hbuild hrename hout
    exact ⟨_, _, _, hbuild, hrename, rfl, raw, htarget⟩

/-- An entry with a slash at the front leaves the parent. -/
theorem renamed_elsewhere :
    (outcome (resolve none "lib/a.ts" false) (RunState.inTheWay ["/b.ts"])).1.toOption =
        some (.path ⟨"/b.ts"⟩) ∧
      (Path.mk "lib/a.ts").parent = some ⟨"lib"⟩ ∧ (Path.mk "/b.ts").parent = some ⟨"/"⟩ := by
  decide +kernel

end Destination
end Scaffold
