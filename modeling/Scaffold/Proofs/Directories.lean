import Mathlib.Data.List.TakeWhile
import Scaffold.Proofs.DiskLaws

/-!
# Directories that are there

A directory that has been made is found, and making it once more changes nothing.  A file that is
written leaves every directory where it is, so that writing it once more, with the directories above
it asked for again, leaves the disk as it was.
-/

namespace Scaffold
namespace Disk

variable {disk after between : Disk} {location start next : Location} {entry : DiskEntry}
  {path : Path} {content piece : String} {pieces front blanks : List String}

/-! ## Walking on -/

theorem walk_append : disk.walk start (front ++ pieces) =
    disk.walk start front >>= fun reached => disk.walk reached pieces := by
  exact List.foldlM_append ..

theorem walk_cons : disk.walk start (piece :: pieces) =
    disk.step start piece >>= fun reached => disk.walk reached pieces := by
  exact List.foldlM_cons ..

/-- Only from a directory does a step lead on. -/
theorem directory_of_step (hstep : disk.step start piece = .ok next) :
    disk.entry? start = some .directory := by
  unfold step at hstep
  split at hstep
  · cases hstep
  · cases hstep
  · assumption

/-- What a step that names something leads to is there, and its name is not too long. -/
theorem isSome_of_step (hstep : disk.step start piece = .ok next)
    (hnamed : ¬(piece = "" ∨ piece = "." ∨ piece = "..")) :
    ¬nameLimit < piece.utf8ByteSize ∧ (disk.entry? (start ++ [piece])).isSome := by
  have hstay : ¬(piece = "" ∨ piece = ".") := fun h => hnamed (h.imp id Or.inl)
  have hup : piece ≠ ".." := fun h => hnamed (Or.inr (Or.inr h))
  unfold step at hstep
  rw [directory_of_step hstep] at hstep
  simp only [if_neg hstay, if_neg hup] at hstep
  split at hstep
  next => cases hstep
  next hshort =>
    split at hstep
    next hsome => exact ⟨hshort, hsome⟩
    next => cases hstep

theorem walk_blanks (hblanks : ∀ piece ∈ blanks, piece = "")
    (hdirectory : disk.entry? location = some .directory) :
    disk.walk location blanks = .ok location := by
  induction blanks with
  | nil => rfl
  | cons piece rest ih =>
      have hpiece : piece = "" := hblanks piece List.mem_cons_self
      have hstep : disk.step location piece = .ok location := by
        simp [step, hdirectory, hpiece]
      rw [walk_cons, hstep]
      exact ih fun other hother => hblanks other (List.mem_cons_of_mem piece hother)

/-- The pieces are those in front of the last name, the last name, and nothing but blanks behind
it; where there is no name, all of them are blanks. -/
theorem pieces_eq_splitLast (path : Path) :
    ∃ blanks, (∀ piece ∈ blanks, piece = "") ∧
      (path.pieces = (splitLast path).1 ++ (splitLast path).2 :: blanks ∨
        path.pieces = blanks ∧ splitLast path = ([], "")) := by
  let kept := (path.pieces.reverse.dropWhile (· == "")).reverse
  let blanks := (path.pieces.reverse.takeWhile (· == "")).reverse
  have hblanks : ∀ piece ∈ blanks, piece = "" := by
    intro piece hpiece
    have hpassed := List.mem_takeWhile_imp (List.mem_reverse.mp hpiece)
    exact beq_iff_eq.mp hpassed
  have hpieces : path.pieces = kept ++ blanks := by
    rw [← List.reverse_append, List.takeWhile_append_dropWhile, List.reverse_reverse]
  have hsplit : splitLast path = (kept.dropLast, (kept.getLast?).getD "") := rfl
  refine ⟨blanks, hblanks, ?_⟩
  cases hlast : kept.getLast? with
  | none =>
      have hnil : kept = [] := List.getLast?_eq_none_iff.mp hlast
      right
      constructor
      · rw [hpieces, hnil, List.nil_append]
      · rw [hsplit, hnil]
        rfl
  | some last =>
      left
      obtain ⟨front, hfront⟩ := List.getLast?_eq_some_iff.mp hlast
      rw [hsplit, hpieces, hfront]
      simp

/-! ## Directories -/

/-- The path leads to that directory. -/
structure Reaches (disk : Disk) (path : Path) (location : Location) : Prop where
  text : checkText path = .ok ()
  walk : disk.walk (disk.start path) path.pieces = .ok location
  directory : disk.entry? location = some .directory

theorem isDirectory_iff :
    disk.isDirectory path = true ↔ ∃ location, Reaches disk path location := by
  unfold isDirectory
  constructor
  · intro hdirectory
    split at hdirectory
    next location hfind =>
      obtain ⟨⟨⟩, htext, hfind⟩ := exists_of_bind_eq_ok hfind
      obtain ⟨reached, hwalk, hfind⟩ := exists_of_bind_eq_ok hfind
      split at hfind
      next found hentry =>
        obtain ⟨rfl, rfl⟩ := Prod.mk.inj (Except.ok.inj hfind)
        exact ⟨reached, htext, hwalk, hentry⟩
      next => cases hfind
    next => cases hdirectory
  · rintro ⟨location, htext, hwalk, hdirectory⟩
    simp [find, htext, hwalk, hdirectory, bind, Except.bind, pure, Except.pure]

/-- What is there already is in the way of a new directory. -/
theorem makeDirectory_of_reaches (hreaches : Reaches disk path location) :
    makeDirectory path disk = .error .occupied := by
  have hwalk := hreaches.walk
  obtain ⟨blanks, hblanks, hpieces | ⟨hpieces, hsplit⟩⟩ := pieces_eq_splitLast path
  · rw [hpieces, walk_append] at hwalk
    obtain ⟨parent, hfront, hwalk⟩ := exists_of_bind_eq_ok hwalk
    rw [walk_cons] at hwalk
    obtain ⟨next, hstep, -⟩ := exists_of_bind_eq_ok hwalk
    have hparent := directory_of_step hstep
    by_cases hnamed : (splitLast path).2 = "" ∨ (splitLast path).2 = "." ∨
        (splitLast path).2 = ".."
    · simp [makeDirectory, parentAndName, hreaches.text, hfront, hparent, hnamed, bind, Except.bind,
        pure, Except.pure, throw, throwThe, MonadExceptOf.throw]
    · obtain ⟨hshort, hsome⟩ := isSome_of_step hstep hnamed
      simp [makeDirectory, parentAndName, hreaches.text, hfront, hparent, hnamed, hshort, hsome,
        bind, Except.bind, pure, Except.pure, throw, throwThe, MonadExceptOf.throw]
  · -- A path of blanks stays where it starts, and has no last name.
    have hfull : path.pieces ≠ [] := by
      simpa [Path.pieces] using Text.pieces_ne_nil Path.isSlash path.chars
    obtain ⟨first, rest, hcons⟩ := List.exists_cons_of_ne_nil hfull
    rw [hcons, walk_cons] at hwalk
    obtain ⟨next, hstep, -⟩ := exists_of_bind_eq_ok hwalk
    have hstart := directory_of_step hstep
    have hfront : disk.walk (disk.start path) [] = .ok (disk.start path) := rfl
    simp [makeDirectory, parentAndName, hreaches.text, hsplit, hfront, hstart, bind, Except.bind,
      pure, Except.pure, throw, throwThe, MonadExceptOf.throw]

/-- Where something else is put, the path still leads to its directory. -/
theorem Reaches.put (hreaches : Reaches disk path next) (hroot : location ≠ [])
    (hfree : disk.entry? location ≠ some .directory) :
    Reaches (disk.put location entry) path next := by
  have hne : next ≠ location := by
    rintro rfl
    exact hfree hreaches.directory
  refine ⟨hreaches.text, walk_put hroot hfree hreaches.walk, ?_⟩
  rw [entry?_put hroot, if_neg hne]
  exact hreaches.directory

theorem reaches_of_makeDirectory (hmake : makeDirectory path disk = .ok after) :
    ∃ location, Reaches after path location := by
  obtain ⟨⟨parent, last⟩, hparent, hmake⟩ := exists_of_bind_eq_ok hmake
  cases last with
  | none => cases hmake
  | some name =>
      obtain ⟨htext, hfront, hdirectory, hlast, hnamed, hshort⟩ := of_parentAndName hparent
      dsimp only at hmake
      split at hmake
      next => cases hmake
      next hnone =>
        have hfree : disk.entry? (parent ++ [name]) = none := by simpa using hnone
        obtain rfl := Except.ok.inj hmake
        have hroot : parent ++ [name] ≠ [] := by simp
        have hkept : Disk.entry? (disk.put (parent ++ [name]) .directory) parent =
            some .directory := by
          rw [entry?_put hroot, if_neg (by simp), hdirectory]
        have hthere : Disk.entry? (disk.put (parent ++ [name]) .directory) (parent ++ [name]) =
            some .directory := by
          rw [entry?_put hroot, if_pos rfl]
        have hstep : (disk.put (parent ++ [name]) .directory).step parent name =
            .ok (parent ++ [name]) := by
          have hstay := not_or.mp hnamed
          have hup := not_or.mp hstay.2
          simp [step, hkept, hthere, hstay.1, hup.1, hup.2, hshort]
        refine ⟨parent ++ [name], htext, ?_, hthere⟩
        obtain ⟨blanks, hblanks, hpieces | ⟨-, hsplit⟩⟩ := pieces_eq_splitLast path
        · have hfree' : disk.entry? (parent ++ [name]) ≠ some .directory := by simp [hfree]
          have hstart : (disk.put (parent ++ [name]) .directory).start path = disk.start path := rfl
          rw [hstart, hpieces, hlast, walk_append, walk_put hroot hfree' hfront]
          simp only [bind, Except.bind]
          rw [walk_cons, hstep]
          exact walk_blanks hblanks hthere
        · rw [hsplit] at hlast
          exact absurd (Or.inl hlast.symm) hnamed

theorem reaches_of_settle
    (hsettle : settle path disk (makeDirectory path disk) = (.ok (), after)) :
    ∃ location, Reaches after path location := by
  cases hmake : makeDirectory path disk with
  | ok made =>
      rw [hmake] at hsettle
      obtain ⟨-, rfl⟩ := Prod.mk.inj hsettle
      exact reaches_of_makeDirectory hmake
  | error e =>
      rw [hmake] at hsettle
      obtain ⟨hout, rfl⟩ := Prod.mk.inj hsettle
      apply isDirectory_iff.mp
      by_contra hnot
      simp [hnot] at hout

theorem reaches_of_ensureDirectories {bound : Nat}
    (hensure : ensureDirectories bound path disk = (.ok (), after)) :
    path.isEmpty = true ∨ ∃ location, Reaches after path location := by
  cases bound with
  | zero => cases hensure
  | succ bound =>
      unfold ensureDirectories at hensure
      split at hensure
      next hempty => exact Or.inl hempty
      next =>
        right
        split at hensure
        · cases hensure
        · split at hensure
          · cases hensure
          · exact reaches_of_settle hensure
        · exact reaches_of_settle hensure

/-- Directories that are there are not made again. -/
theorem makeDirectories_of_reaches
    (hthere : path.isEmpty = true ∨ ∃ location, Reaches disk path location) :
    makeDirectories path disk = (.ok (), disk) := by
  rw [makeDirectories, ensureDirectories]
  split
  next => rfl
  next hfull =>
    obtain ⟨location, hreaches⟩ := hthere.resolve_left hfull
    rw [makeDirectory_of_reaches hreaches]
    simp [settle, isDirectory_iff.mpr ⟨location, hreaches⟩]

/-! ## Writing once more -/

theorem putEntry_putEntry (location : Location) (entry : DiskEntry)
    (entries : List (Location × DiskEntry)) :
    putEntry location entry (putEntry location entry entries) =
      putEntry location entry entries := by
  induction entries with
  | nil => simp [putEntry]
  | cons first rest ih =>
      obtain ⟨place, old⟩ := first
      by_cases hplace : place = location
      · simp [putEntry, hplace]
      · simp [putEntry, hplace, ih]

theorem put_put : (disk.put location entry).put location entry = disk.put location entry := by
  simp [put, putEntry_putEntry]

theorem Opens.put {parent : Location} {name : String} (hopens : Opens disk path parent name) :
    Opens (disk.put (parent ++ [name]) (.file content)) path parent name := by
  have hroot : parent ++ [name] ≠ [] := by simp
  refine { hopens with
    front := walk_put hroot hopens.free hopens.front
    directory := ?_
    free := ?_ }
  · rw [entry?_put hroot, if_neg (by simp)]
    exact hopens.directory
  · simp [entry?_put hroot]

theorem write_of_opens {parent : Location} {name : String} (hopens : Opens disk path parent name) :
    write path content disk = .ok (disk.put (parent ++ [name]) (.file content)) := by
  have hnamed := hopens.named
  have hparent : disk.parentAndName path = .ok (parent, some name) := by
    simp [parentAndName, hopens.text, hopens.front, hopens.directory, hopens.last, hnamed,
      hopens.short, bind, Except.bind, pure, Except.pure]
  have hfree := hopens.free
  rw [write, openForWriting, hparent]
  simp only [bind, Except.bind, hopens.closed]
  rcases hentry : disk.entry? (parent ++ [name]) with _ | _ | _
  · rfl
  · rfl
  · exact absurd hentry hfree

/-- What has been written is written once more in the same place. -/
theorem write_again (hwrite : write path content disk = .ok after) :
    write path content after = .ok after := by
  obtain ⟨parent, name, hopens, rfl⟩ := opens_of_write hwrite
  rw [write_of_opens hopens.put, put_put]

/-- The directories above a file that has been written are there. -/
theorem makeParents_of_write (hparents : makeParents path disk = (.ok (), between))
    (hwrite : write path content between = .ok after) :
    makeParents path after = (.ok (), after) := by
  unfold makeParents at hparents ⊢
  split
  next parent hparent =>
    rw [hparent] at hparents
    apply makeDirectories_of_reaches
    obtain ⟨front, name, hopens, rfl⟩ := opens_of_write hwrite
    refine (reaches_of_ensureDirectories hparents).imp id ?_
    rintro ⟨location, hreaches⟩
    exact ⟨location, hreaches.put (by simp) hopens.free⟩
  next => rfl

end Disk
end Scaffold
