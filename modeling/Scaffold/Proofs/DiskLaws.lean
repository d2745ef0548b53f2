import Scaffold.Files.Disk

/-!
# Laws of a disk

Only what is no directory yet is replaced when a file is written, so that every way that led
somewhere still leads there, and the path of the file leads to what has been written.
-/

namespace Scaffold

theorem Text.getLast?_pieces {isSeparator : Char → Bool} {cs : List Char}
    (hlast : (pieces isSeparator cs).getLast? = some []) :
    cs = [] ∨ ∃ c, cs.getLast? = some c ∧ isSeparator c = true := by
  induction cs with
  | nil => exact Or.inl rfl
  | cons c rest ih =>
      right
      have hrest : (pieces isSeparator rest).getLast? = some [] →
          isSeparator c = true ∨ rest ≠ [] →
          ∃ last, (c :: rest).getLast? = some last ∧ isSeparator last = true := by
        intro hpieces hc
        rcases ih hpieces with rfl | ⟨last, hends, hseparator⟩
        · exact ⟨c, rfl, hc.resolve_right fun hnil => hnil rfl⟩
        · obtain ⟨front, rfl⟩ := List.getLast?_eq_some_iff.mp hends
          exact ⟨last, by rw [← List.cons_append, List.getLast?_concat], hseparator⟩
      unfold pieces at hlast
      split at hlast
      next hc =>
        obtain ⟨first, others, hpieces⟩ :=
          List.exists_cons_of_ne_nil (pieces_ne_nil isSeparator rest)
        rw [hpieces, List.getLast?_cons_cons, ← hpieces] at hlast
        exact hrest hlast (Or.inl hc)
      next hc =>
        split at hlast
        next => simp at hlast
        next first others hpieces =>
          cases others with
          | nil => simp at hlast
          | cons next more =>
              rw [List.getLast?_cons_cons] at hlast
              refine hrest (by rw [hpieces, List.getLast?_cons_cons, hlast]) (Or.inr ?_)
              rintro rfl
              simp [pieces] at hpieces

namespace Disk

variable {disk after : Disk} {location other start next : Location} {entry : DiskEntry}
  {path : Path} {content piece : String}

theorem lookup_putEntry (location other : Location) (entry : DiskEntry)
    (entries : List (Location × DiskEntry)) :
    (putEntry location entry entries).lookup other =
      if other = location then some entry else entries.lookup other := by
  induction entries with
  | nil =>
      by_cases heq : other = location
      · simp [putEntry, heq]
      · simp [putEntry, heq, List.lookup_cons, beq_false_of_ne heq]
  | cons first rest ih =>
      obtain ⟨place, old⟩ := first
      unfold putEntry
      by_cases hplace : place = location
      · subst hplace
        by_cases heq : other = place
        · simp [heq]
        · simp [heq, List.lookup_cons, beq_false_of_ne heq]
      · rw [if_neg hplace, List.lookup_cons, List.lookup_cons, ih]
        by_cases heq : other = place
        · subst heq
          simp [hplace]
        · simp [beq_false_of_ne heq]

theorem entry?_put (hroot : location ≠ []) (other : Location) :
    Disk.entry? (disk.put location entry) other =
      if other = location then some entry else disk.entry? other := by
  unfold entry?
  by_cases hother : other = []
  · subst hother
    simp [Ne.symm hroot]
  · simp [hother, put, lookup_putEntry]

/-- What is stood upon is a directory and so is not what is replaced. -/
theorem step_put (hroot : location ≠ []) (hfree : disk.entry? location ≠ some .directory)
    (hstep : disk.step start piece = .ok next) :
    (disk.put location entry).step start piece = .ok next := by
  unfold step at hstep ⊢
  split at hstep
  next => cases hstep
  next => cases hstep
  next hstart =>
    have hne : start ≠ location := by
      rintro rfl
      exact hfree hstart
    have hthere : Disk.entry? (disk.put location entry) start = some .directory := by
      rw [entry?_put hroot, if_neg hne, hstart]
    rw [hthere]
    dsimp only at hstep ⊢
    split at hstep
    next hstay => rw [if_pos hstay, hstep]
    next hstay =>
      split at hstep
      next hup => rw [if_neg hstay, if_pos hup, hstep]
      next hup =>
        split at hstep
        next => cases hstep
        next hlimit =>
          rw [if_neg hstay, if_neg hup, if_neg hlimit]
          split at hstep
          next hsome =>
            have hkept : ( Disk.entry? (disk.put location entry) (start ++ [piece])).isSome := by
              rw [entry?_put hroot]
              split
              next => rfl
              next => exact hsome
            rw [if_pos hkept, hstep]
          next => cases hstep

theorem walk_put {pieces : List String} (hroot : location ≠ [])
    (hfree : disk.entry? location ≠ some .directory)
    (hwalk : disk.walk start pieces = .ok next) :
    (disk.put location entry).walk start pieces = .ok next := by
  unfold walk at hwalk ⊢
  induction pieces generalizing start with
  | nil => exact hwalk
  | cons piece rest ih =>
      rw [List.foldlM_cons] at hwalk ⊢
      rcases hstep : disk.step start piece with e | reached
      · rw [hstep] at hwalk
        cases hwalk
      · rw [hstep] at hwalk
        rw [step_put hroot hfree hstep]
        exact ih hwalk

/-- The last name of the path is looked up in that directory, where it names a file or nothing. -/
structure Opens (disk : Disk) (path : Path) (parent : Location) (name : String) : Prop where
  text : checkText path = .ok ()
  front : disk.walk (disk.start path) (splitLast path).1 = .ok parent
  directory : disk.entry? parent = some .directory
  last : (splitLast path).2 = name
  named : ¬(name = "" ∨ name = "." ∨ name = "..")
  short : ¬nameLimit < name.utf8ByteSize
  closed : endsInSlash path = false
  free : disk.entry? (parent ++ [name]) ≠ some .directory

theorem exists_of_bind_eq_ok {α β : Type} {x : Except SystemError α}
    {f : α → Except SystemError β} {b : β} (hbind : x >>= f = .ok b) :
    ∃ a, x = .ok a ∧ f a = .ok b := by
  cases x with
  | error e => cases hbind
  | ok a => exact ⟨a, rfl, hbind⟩

theorem of_parentAndName {parent : Location} {name : String}
    (hparent : disk.parentAndName path = .ok (parent, some name)) :
    checkText path = .ok () ∧ disk.walk (disk.start path) (splitLast path).1 = .ok parent ∧
      disk.entry? parent = some .directory ∧ (splitLast path).2 = name ∧
      ¬(name = "" ∨ name = "." ∨ name = "..") ∧ ¬nameLimit < name.utf8ByteSize := by
  obtain ⟨⟨⟩, htext, hparent⟩ := exists_of_bind_eq_ok hparent
  obtain ⟨reached, hfront, hparent⟩ := exists_of_bind_eq_ok hparent
  split at hparent
  next hdirectory =>
    split at hparent
    next => cases hparent
    next hnamed =>
      split at hparent
      next => cases hparent
      next hshort =>
        obtain ⟨rfl, hname⟩ := Prod.mk.inj (Except.ok.inj hparent)
        obtain rfl := Option.some.inj hname
        exact ⟨htext, hfront, hdirectory, rfl, hnamed, hshort⟩
  next => cases hparent
  next => cases hparent

theorem opens_of_parentAndName {parent : Location} {name : String}
    (hparent : disk.parentAndName path = .ok (parent, some name))
    (hclosed : endsInSlash path = false)
    (hfree : disk.entry? (parent ++ [name]) ≠ some .directory) : Opens disk path parent name := by
  obtain ⟨htext, hfront, hdirectory, hlast, hnamed, hshort⟩ := of_parentAndName hparent
  exact ⟨htext, hfront, hdirectory, hlast, hnamed, hshort, hclosed, hfree⟩

theorem opens_of_openForWriting {before : String}
    (hopen : disk.openForWriting path = .ok (location, before)) :
    ∃ parent name, Opens disk path parent name ∧ location = parent ++ [name] := by
  obtain ⟨⟨parent, last⟩, hparent, hopen⟩ := exists_of_bind_eq_ok hopen
  cases last with
  | none => cases hopen
  | some name =>
      cases hclosed : endsInSlash path with
      | true =>
          rw [hclosed] at hopen
          cases hopen
      | false =>
          rw [hclosed] at hopen
          dsimp only at hopen
          rcases hentry : disk.entry? (parent ++ [name]) with _ | _ | _
          · rw [hentry] at hopen
            obtain ⟨rfl, -⟩ := Prod.mk.inj (Except.ok.inj hopen)
            exact ⟨parent, name, opens_of_parentAndName hparent hclosed (by simp [hentry]), rfl⟩
          · rw [hentry] at hopen
            obtain ⟨rfl, -⟩ := Prod.mk.inj (Except.ok.inj hopen)
            exact ⟨parent, name, opens_of_parentAndName hparent hclosed (by simp [hentry]), rfl⟩
          · rw [hentry] at hopen
            cases hopen

theorem opens_of_write (hwrite : write path content disk = .ok after) :
    ∃ parent name, Opens disk path parent name ∧
      after = disk.put (parent ++ [name]) (.file content) := by
  obtain ⟨⟨location, before⟩, hopen, hput⟩ := exists_of_bind_eq_ok hwrite
  obtain ⟨parent, name, hopens, rfl⟩ := opens_of_openForWriting hopen
  exact ⟨parent, name, hopens, (Except.ok.inj hput).symm⟩

/-- A path that does not end in a slash has its last name behind its other pieces. -/
theorem pieces_eq_of_closed (hempty : path.chars ≠ []) (hclosed : endsInSlash path = false) :
    path.pieces = (splitLast path).1 ++ [(splitLast path).2] := by
  have hpieces : path.pieces ≠ [] := by
    simpa [Path.pieces] using Text.pieces_ne_nil Path.isSlash path.chars
  obtain ⟨last, hlast⟩ := Option.ne_none_iff_exists'.mp (mt List.getLast?_eq_none_iff.mp hpieces)
  have hfilled : last ≠ "" := by
    rintro rfl
    have hnil : (Text.pieces Path.isSlash path.chars).getLast? = some [] := by
      simpa [Path.pieces] using hlast
    rcases Text.getLast?_pieces hnil with hchars | ⟨c, hends, hslash⟩
    · exact hempty hchars
    · have hc : c = '/' := by simpa [Path.isSlash] using hslash
      simp [endsInSlash, hends, hc] at hclosed
  obtain ⟨front, heq⟩ := List.getLast?_eq_some_iff.mp hlast
  have hsplit : splitLast path = (front, last) := by
    simp [splitLast, heq, hfilled]
  rw [hsplit, heq]

theorem find_of_opens {parent : Location} {name : String} (hopens : Opens disk path parent name) :
    (disk.put (parent ++ [name]) (.file content)).find path =
      .ok (parent ++ [name], .file content) := by
  have hroot : parent ++ [name] ≠ [] := by simp
  have hchars : path.chars ≠ [] := by
    intro hnil
    have hempty : path.isEmpty = true := by simpa [Path.isEmpty, Path.chars] using hnil
    have htext := hopens.text
    simp [checkText, hnil, hempty] at htext
  have hfile : Disk.entry? (disk.put (parent ++ [name]) (.file content)) (parent ++ [name]) =
      some (.file content) := by
    rw [entry?_put hroot, if_pos rfl]
  have hdirectory : Disk.entry? (disk.put (parent ++ [name]) (.file content)) parent =
      some .directory := by
    rw [entry?_put hroot, if_neg (by simp), hopens.directory]
  have hstep : (disk.put (parent ++ [name]) (.file content)).step parent name =
      .ok (parent ++ [name]) := by
    have hnamed := not_or.mp hopens.named
    have hnamed' := not_or.mp hnamed.2
    simp [step, hdirectory, hfile, hnamed.1, hnamed'.1, hnamed'.2, hopens.short]
  have hwalk : (disk.put (parent ++ [name]) (.file content)).walk (disk.start path) path.pieces =
      .ok (parent ++ [name]) := by
    have hfront : (disk.put (parent ++ [name]) (.file content)).walk (disk.start path)
        (splitLast path).1 = .ok parent := walk_put hroot hopens.free hopens.front
    rw [pieces_eq_of_closed hchars hopens.closed, hopens.last]
    unfold walk at hfront ⊢
    rw [List.foldlM_append, hfront]
    simp [bind, Except.bind, hstep, pure, Except.pure]
  have hstart : (disk.put (parent ++ [name]) (.file content)).start path = disk.start path := rfl
  rw [find, hopens.text, hstart, hwalk]
  simp only [bind, Except.bind, hfile]
  rfl

theorem find_of_write (hwrite : write path content disk = .ok after) :
    ∃ location, after.find path = .ok (location, .file content) := by
  obtain ⟨parent, name, hopens, rfl⟩ := opens_of_write hwrite
  exact ⟨_, find_of_opens hopens⟩

/-- What has been written is there. -/
theorem occupied_of_write (hwrite : write path content disk = .ok after) :
    after.occupied path = true := by
  obtain ⟨location, hfind⟩ := find_of_write hwrite
  rw [occupied, hfind]
  rfl

theorem read_of_write (hwrite : write path content disk = .ok after) :
    after.read path = .ok content := by
  obtain ⟨location, hfind⟩ := find_of_write hwrite
  rw [read, hfind]
  rfl

end Disk
end Scaffold
