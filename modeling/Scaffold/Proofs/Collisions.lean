import Scaffold.Proofs.JobCalls

/-!
# Collisions

Where no file is expected, a name is resolved to a path where nothing is, or to the path of a prompt
to which the user has answered that the file may be overwritten.
-/

namespace Scaffold

open Run

variable {ω α : Type}

theorem Service.transcript_of_prompt [Replies α] {call : ServiceCall}
    {reading : Answer → Except RunError α} {s t : RunState ω} {a : α}
    (hout : outcome (prompt call reading) s = (.ok a, t)) :
    t.transcript = s.transcript ++ [⟨call, .ok (Replies.reply a)⟩] := by
  rw [outcome_prompt, Prod.mk.injEq] at hout
  obtain ⟨hanswer, rfl⟩ := hout
  rw [hanswer]
  rfl

namespace Destination

def collision (path : Path) : ServiceCall :=
  .select ("File '" ++ path.text ++ "' already exists. Do you want to overwrite it?") choices none

/-- The user lets the file at the path be overwritten. -/
def leave (path : Path) : ServiceEvent := ⟨collision path, .ok (.text "overwrite")⟩

theorem askName_accepted {message : String} {default : Option String}
    {problem? : RunState ω → String → Option String} {bound : Nat} {s t : RunState ω}
    {name : String} (hout : outcome (askName message default problem? bound) s = (.ok name, t)) :
    problem? t name = none := by
  induction bound generalizing s with
  | zero => simp [askName] at hout
  | succ n ih =>
      rw [askName, outcome_bind_eq_ok_iff] at hout
      obtain ⟨raw, u, -, hraw⟩ := hout
      dsimp only at hraw
      split at hraw
      · obtain ⟨_, v, -, hagain⟩ := outcome_bind_eq_ok_iff.mp hraw
        exact ih hagain
      · rw [outcome_get_bind] at hraw
        split at hraw
        next hnone =>
          obtain ⟨rfl, rfl⟩ := outcome_pure_eq_ok_iff.mp hraw
          exact hnone
        next =>
          obtain ⟨_, v, -, hagain⟩ := outcome_bind_eq_ok_iff.mp hraw
          exact ih hagain

variable [FileTree ω] {s t : RunState ω} {path target : Path}

/-- Nothing is at the path, or the calls have got leave to overwrite it. -/
def MayWrite (path : Path) (s t : RunState ω) : Prop :=
  FileTree.occupied s.files path = false ∨
    ∃ events, t.transcript = s.transcript ++ events ∧ leave path ∈ events

theorem mayWrite_of_arbitrate (hout : outcome (arbitrate path) s = (.ok (.path target), t)) :
    MayWrite target s t := by
  have hquiet := (asks_arbitrate (Ports.any ⟨[]⟩ ω) path).quiet.quietTo hout
  have hfiles : t.files = s.files := hquiet.files
  rw [arbitrate, outcome_bind_eq_ok_iff] at hout
  obtain ⟨choice, u, hselect, hchosen⟩ := hout
  split at hchosen
  next =>
    obtain ⟨htarget, rfl⟩ := outcome_pure_eq_ok_iff.mp hchosen
    obtain rfl := Destination.path.inj htarget
    exact Or.inr ⟨_, Service.transcript_of_prompt hselect, List.mem_singleton_self _⟩
  next =>
    rw [outcome_bind_eq_ok_iff] at hchosen
    obtain ⟨name, v, hname, hrenamed⟩ := hchosen
    obtain ⟨htarget, rfl⟩ := outcome_pure_eq_ok_iff.mp hrenamed
    obtain rfl := Destination.path.inj htarget
    rw [promptName, outcome_get_bind] at hname
    have hfree := askName_accepted hname
    rw [hfiles] at hfree
    exact Or.inl (by simpa using hfree)
  next => simp at hchosen

theorem mayWrite_of_resolve {base : Option Path} {name : String}
    (hout : outcome (resolve base name false) s = (.ok (.path path), t)) : MayWrite path s t := by
  rw [resolve, outcome_bind_eq_ok_iff] at hout
  obtain ⟨built, u, hbuild, hthen⟩ := hout
  obtain ⟨events, prompter, hstate, -⟩ :=
    (asks_build (Ports.any ⟨[]⟩ ω) (s := s) (PathTemplate.parse base name) false).quiet
  rw [hbuild] at hstate
  obtain rfl : u = _ := hstate
  rw [outcome_get_bind] at hthen
  split at hthen
  next hfree =>
    obtain ⟨htarget, -⟩ := outcome_pure_eq_ok_iff.mp hthen
    obtain rfl := Destination.path.inj htarget
    exact Or.inl (by simpa using hfree)
  next =>
    rcases mayWrite_of_arbitrate hthen with hfree | ⟨more, htranscript, hleave⟩
    · exact Or.inl hfree
    · refine Or.inr ⟨events ++ more, ?_, List.mem_append_right _ hleave⟩
      rw [htranscript, List.append_assoc]

end Destination
end Scaffold
