import Scaffold.Proofs.BuiltPaths

/-!
# Entered names

The user is asked for a name again as long as the one that is entered is empty.  The path is extended
by the components of the name, so that it grows just when the name has a piece that is neither empty
nor a point: a name can be full and add nothing.
-/

namespace Scaffold

open Run

variable {ω : Type}

namespace RunState

def typed (message : String) (default : Option String) (raw : String) (s : RunState ω) :
    RunState ω :=
  { s with prompter := s.prompter.next.2 }.noted (.text message default) (.ok (.text raw))

def refused (s : RunState ω) : RunState ω :=
  s.noted (.report .warn "File name cannot be empty") (.ok .done)

end RunState

namespace Destination

variable {s t : RunState ω} {message raw name : String} {default : Option String}
  {path final : Path}

/-- The calls by which a name is entered: an empty one is refused, and the next prompt is shown. -/
inductive Enters (message : String) (default : Option String) :
    List ServiceEvent → String → Prop where
  | named {raw : String} (hfull : enteredName default raw ≠ "") :
      Enters message default [⟨.text message default, .ok (.text raw)⟩] (enteredName default raw)
  | again {raw name : String} {calls : List ServiceEvent} (hempty : enteredName default raw = "")
      (hrest : Enters message default calls name) :
      Enters message default
        (⟨.text message default, .ok (.text raw)⟩ ::
          ⟨.report .warn "File name cannot be empty", .ok .done⟩ :: calls) name

/-- A segment for which a prompt is shown: a directive whose variable has no value, and the calls by
which the name is entered instead. -/
structure Prompts (vars : Variables) (segment : Segment) (wantsFile : Bool)
    (calls : List ServiceEvent) (ask : AskDirective) (name : String) : Prop where
  directs : segment.Directs vars ask
  unknown : ∀ ref ∈ ask.ref, ∀ value ∈ vars.resolve ref none, value = ""
  enters : Enters (nameMessage wantsFile) ask.default calls name

/-- The walk along the segments: the ones in front lead to a path, and the next one to a longer one by
these calls. -/
def Passes (wantsFile : Bool) (start : Path) (front : List Segment) (segment : Segment)
    (before after : Path) (calls : List ServiceEvent) (s : RunState ω) : Prop :=
  ∃ u v, outcome (addSegments false start front) s = (.ok before, u) ∧
    outcome (addSegment before wantsFile segment) u = (.ok after, v) ∧
    v.transcript = u.transcript ++ calls

theorem outcome_text_of_answer {answer : Answer} (hnext : s.prompter.next.1 = .ok answer)
    (hanswer : answer.textOr default = .ok raw) :
    outcome (Service.text message default) s = (.ok raw, s.typed message default raw) := by
  have hbind : s.prompter.next.1.bind (Answer.textOr default) = .ok raw := by
    rw [hnext]
    exact hanswer
  rw [Service.text, Service.outcome_prompt, hbind]
  rfl

theorem eq_typed_of_text (htext : outcome (Service.text message default) s = (.ok raw, t)) :
    t = s.typed message default raw := by
  rw [Service.text, Service.outcome_prompt] at htext
  obtain ⟨hraw, rfl⟩ := Prod.mk.inj htext
  rw [hraw]
  rfl

theorem outcome_askOnce_of_text
    (htext : outcome (Service.text message default) s = (.ok raw, t)) :
    outcome (askOnce message default fun _ _ => none) s =
      if enteredName default raw = "" then (.ok none, t.refused)
      else (.ok (some (enteredName default raw)), t) := by
  rw [askOnce, outcome_bind_ok htext]
  by_cases hempty : enteredName default raw = ""
  · simp [hempty, outcome_map, Except.map, RunState.refused]
  · simp only [if_neg hempty]
    rfl

theorem outcome_promptName_of_none {problem? : RunState ω → String → Option String}
    (hround : outcome (askOnce message default problem?) s = (.ok none, t)) :
    outcome (promptName message default problem?) s =
      outcome (promptName message default problem?) t := by
  -- The round has taken the answer that the bound allowed for.
  have hleft := (outcome_askOnce_eq hround).2 rfl
  rw [promptName, outcome_get_bind, outcome_get_bind, askName_succ, outcome_bind_ok hround, hleft]

theorem outcome_promptName_of_some {problem? : RunState ω → String → Option String}
    (hround : outcome (askOnce message default problem?) s = (.ok (some name), t)) :
    outcome (promptName message default problem?) s = (.ok name, t) := by
  rw [promptName, outcome_get_bind, askName_succ, outcome_bind_ok hround, outcome_pure]

theorem outcome_promptName_of_text
    (htext : outcome (Service.text message default) s = (.ok raw, t)) :
    outcome (promptName message default fun _ _ => none) s =
      if enteredName default raw = "" then
        outcome (promptName message default fun _ _ => none) t.refused
      else (.ok (enteredName default raw), t) := by
  have hround := outcome_askOnce_of_text htext
  split
  next hempty =>
    rw [if_pos hempty] at hround
    exact outcome_promptName_of_none hround
  next hfull =>
    rw [if_neg hfull] at hround
    exact outcome_promptName_of_some hround

theorem enters_of_rounds {rounds : Nat} {r : Except RunError String × RunState ω}
    (hrounds : Rounds message default (fun _ _ => none) rounds s r) (hname : r = (.ok name, t)) :
    ∃ calls, t.transcript = s.transcript ++ calls ∧ Enters message default calls name := by
  induction hrounds with
  | failed hout => cases hname
  | @named s u entered hout =>
      obtain ⟨rfl, rfl⟩ : entered = name ∧ u = t := by simpa using hname
      obtain ⟨raw, v, htext, -⟩ := outcome_bind_eq_ok_iff.mp hout
      rw [outcome_askOnce_of_text htext] at hout
      split at hout
      · cases hout
      next hfull =>
        obtain ⟨rfl, rfl⟩ : enteredName default raw = entered ∧ v = u := by simpa using hout
        exact ⟨_, by rw [eq_typed_of_text htext]; rfl, .named hfull⟩
  | @again rounds s u r hout hrest ih =>
      obtain ⟨calls, hcalls, henters⟩ := ih hname
      obtain ⟨raw, v, htext, -⟩ := outcome_bind_eq_ok_iff.mp hout
      rw [outcome_askOnce_of_text htext] at hout
      split at hout
      next hempty =>
        obtain rfl : v.refused = u := by simpa using hout
        refine ⟨_, ?_, .again hempty henters⟩
        rw [hcalls, eq_typed_of_text htext]
        simp [RunState.refused, RunState.typed, RunState.noted]
      · cases hout

theorem enters_of_promptName
    (hout : outcome (promptName message default fun _ _ => none) s = (.ok name, t)) :
    ∃ calls, t.transcript = s.transcript ++ calls ∧ Enters message default calls name := by
  obtain ⟨rounds, -, hrounds⟩ := rounds_promptName message default (fun _ _ => none) s
  exact enters_of_rounds hrounds hout

theorem prompts_of_addSegment {segment : Segment} {wantsFile : Bool} {longer : Path}
    {calls : List ServiceEvent}
    (hout : outcome (addSegment path wantsFile segment) s = (.ok longer, t))
    (hcalls : t.transcript = s.transcript ++ calls)
    (hprompt : ∃ event ∈ calls, event.call.prompt?.isSome = true) :
    ∃ ask name, Prompts s.vars segment wantsFile calls ask name ∧
      longer = addPieces path name := by
  obtain ⟨event, hevent, hshown⟩ := hprompt
  rcases addSegment_cases hout with ⟨quiet, text, -, hquiet, hnone, -⟩ | ⟨ask, hdirects, hasked⟩
  · obtain rfl : calls = quiet := List.append_cancel_left (hcalls.symm.trans hquiet)
    simp [hnone event hevent] at hshown
  · rcases addAsked_cases hasked with
      ⟨ref, value, -, -, -, -, rfl⟩ | ⟨hunknown, name, hname, rfl⟩
    · obtain rfl : calls = [] := by simpa using hcalls
      cases hevent
    · obtain ⟨entered, hentered, henters⟩ := enters_of_promptName hname
      obtain rfl : calls = entered := List.append_cancel_left (hcalls.symm.trans hentered)
      exact ⟨ask, name, ⟨hdirects, hunknown, henters⟩, rfl⟩

theorem componentsOf_ne_nil_iff {text : String} :
    Path.componentsOf text ≠ [] ↔
      ∃ piece ∈ Text.pieces PathTemplate.isSeparator text.toList, piece ≠ [] ∧ piece ≠ ['.'] := by
  simp [Path.componentsOf, PathTemplate.namingPieces, List.filter_eq_nil_iff]

theorem exists_of_addSegments_append {wantsFile : Bool} {front back : List Segment}
    {segment : Segment}
    (hout : outcome (addSegments wantsFile path (front ++ segment :: back)) s = (.ok final, t)) :
    ∃ before after u v, outcome (addSegments false path front) s = (.ok before, u) ∧
      outcome (addSegment before (wantsFile && back.isEmpty) segment) u = (.ok after, v) ∧
      outcome (addSegments wantsFile after back) v = (.ok final, t) := by
  induction front generalizing path s with
  | nil =>
      rw [List.nil_append, addSegments_cons] at hout
      obtain ⟨after, v, hstep, hback⟩ := outcome_bind_eq_ok_iff.mp hout
      exact ⟨path, after, s, v, rfl, hstep, hback⟩
  | cons first rest ih =>
      -- Something comes behind the segments in front, so that none of them names the file.
      have hinner : (wantsFile && (rest ++ segment :: back).isEmpty) = false := by simp
      rw [List.cons_append, addSegments_cons, hinner] at hout
      obtain ⟨longer, w, hfirst, hrest⟩ := outcome_bind_eq_ok_iff.mp hout
      obtain ⟨before, after, u, v, hfront, hstep⟩ := ih hrest
      refine ⟨before, after, u, v, ?_, hstep⟩
      rw [addSegments_cons, Bool.false_and, outcome_bind_ok hfirst]
      exact hfront

variable [FileTree ω]

theorem prefix_of_addSegments {wantsFile : Bool} {segments : List Segment}
    (hout : outcome (addSegments wantsFile path segments) s = (.ok final, t)) :
    path.components <+: final.components := by
  obtain ⟨-, texts, -, -, rfl⟩ := allSay_of_addSegments hout
  rw [components_foldl_addPieces]
  exact List.prefix_append _ _

/-- An empty name is refused and asked for again, and any other is taken.  Where a segment is settled
by prompts, all others were refused, and the path is extended by the components of the last name,
behind which all that follows comes: the path grows just when the name has a piece that names
something. -/
theorem entered_names_extend :
    (∀ message default (s : RunState ω) answer raw, s.prompter.next.1 = .ok answer →
      answer.textOr default = .ok raw →
      outcome (promptName message default fun _ _ => none) s =
        if enteredName default raw = "" then
          outcome (promptName message default fun _ _ => none)
            (s.typed message default raw).refused
        else (.ok (enteredName default raw), s.typed message default raw)) ∧
    ∀ template ignoreExisting (s t : RunState ω) path,
      outcome (build template ignoreExisting) s = (.ok path, t) →
      ∀ front segment back, template.segments = front ++ segment :: back →
        ∃ before after calls,
          Passes (!ignoreExisting && back.isEmpty) (origin s.files template) front segment
            before after calls s ∧
          before.components <+: after.components ∧ after.components <+: path.components ∧
          ((∃ event ∈ calls, event.call.prompt?.isSome = true) →
            ∃ ask name,
              Prompts s.vars segment (!ignoreExisting && back.isEmpty) calls ask name ∧
              after.components = before.components ++ Path.componentsOf name ∧
              (before.components.length < after.components.length ↔
                ∃ piece ∈ Text.pieces PathTemplate.isSeparator name.toList,
                  piece ≠ [] ∧ piece ≠ ['.'])) := by
  refine ⟨?_, ?_⟩
  · intro message default s answer raw hnext hanswer
    exact outcome_promptName_of_text (outcome_text_of_answer hnext hanswer)
  · intro template ignoreExisting s t path hbuild front segment back hsegments
    rw [build, outcome_get_bind, hsegments] at hbuild
    obtain ⟨before, after, u, v, hfront, hstep, hback⟩ := exists_of_addSegments_append hbuild
    obtain ⟨calls, text, -, hcalls, hlonger⟩ := says_of_addSegment hstep
    have hbetween : before.components <+: after.components := by
      rw [hlonger, components_addPieces]
      exact List.prefix_append _ _
    have hvars : u.vars = s.vars :=
      ((asks_addSegments (Ports.any ⟨[]⟩ ω) false _ front).quiet.quietTo hfront).vars
    refine ⟨before, after, calls, ⟨u, v, hfront, hstep, hcalls⟩, hbetween,
      prefix_of_addSegments hback, fun hprompt => ?_⟩
    obtain ⟨ask, name, hprompts, hname⟩ := prompts_of_addSegment hstep hcalls hprompt
    rw [hvars] at hprompts
    have hafter : after.components = before.components ++ Path.componentsOf name := by
      rw [hname, components_addPieces]
    refine ⟨ask, name, hprompts, hafter, ?_⟩
    rw [← componentsOf_ne_nil_iff, hafter, List.length_append, ← List.length_pos_iff]
    omega

end Destination

def PathTemplate.inLib : PathTemplate := ⟨none, false, [.literal "lib", .ask ⟨none, none⟩]⟩

/-- Where the user will enter these texts. -/
def RunState.entering (texts : List String) : RunState MemoryFiles :=
  .start (.withStore .empty) .empty (.script (texts.map .text))

namespace Destination

theorem entered_names_extend_second :
    let s := RunState.entering ["  ", "a.ts"]
    PathTemplate.parse none "lib/<-ask->" = .inLib ∧
      ∃ t before after calls ask name,
        outcome (build .inLib false) s = (.ok ⟨"lib/a.ts"⟩, t) ∧
        Passes true .empty [.literal "lib"] (.ask ⟨none, none⟩) before after calls s ∧
        (∃ event ∈ calls, event.call.prompt?.isSome = true) ∧
        Prompts s.vars (.ask ⟨none, none⟩) true calls ask name ∧
        after.components = before.components ++ Path.componentsOf name ∧
        after.components <+: (Path.mk "lib/a.ts").components := by
  intro s
  have hpath : (outcome (build .inLib false) s).1.toOption = some ⟨"lib/a.ts"⟩ := by decide +kernel
  rcases hbuild : outcome (build .inLib false) s with ⟨e | path, t⟩
  · simp [hbuild, Except.toOption] at hpath
  · rw [hbuild] at hpath
    obtain rfl := Option.some.inj hpath
    obtain ⟨before, after, calls, hpasses, -, hafter, hprompts⟩ :=
      entered_names_extend.2 .inLib false s t _ hbuild [.literal "lib"] (.ask ⟨none, none⟩) [] rfl
    have hshown : ∃ event ∈ calls, event.call.prompt?.isSome = true := by
      obtain ⟨u, v, hfront, hstep, hcalls⟩ := hpasses
      have hlib : outcome (addSegments false .empty [.literal "lib"]) s = (.ok ⟨"lib"⟩, s) := rfl
      obtain ⟨rfl, rfl⟩ : before = ⟨"lib"⟩ ∧ u = s := by simpa using hfront.symm.trans hlib
      change outcome (addSegment ⟨"lib"⟩ true (.ask ⟨none, none⟩)) s = (.ok after, v) at hstep
      have hthree : (outcome (addSegment ⟨"lib"⟩ true (.ask ⟨none, none⟩)) s).2.transcript =
          [⟨.text "Enter file name." none, .ok (.text "  ")⟩,
            ⟨.report .warn "File name cannot be empty", .ok .done⟩,
            ⟨.text "Enter file name." none, .ok (.text "a.ts")⟩] := rfl
      rw [hstep, hcalls] at hthree
      have hevents : calls = _ := hthree
      exact ⟨_, hevents ▸ List.mem_cons_self, rfl⟩
    obtain ⟨ask, name, hask, hname, -⟩ := hprompts hshown
    exact ⟨by decide, t, before, after, calls, ask, name, rfl, hpasses, hshown, hask, hname, hafter⟩

/-- A point is entered for the name of a file in a directory: the path is the directory. -/
theorem entered_point_adds_nothing :
    let s := RunState.entering ["."]
    PathTemplate.parse none "lib/<-ask->" = .inLib ∧
      Passes true .empty [.literal "lib"] (.ask ⟨none, none⟩) ⟨"lib"⟩ ⟨"lib"⟩
        [⟨.text "Enter file name." none, .ok (.text ".")⟩] s ∧
      (outcome (build .inLib false) s).1.toOption = some ⟨"lib"⟩ := by
  intro s
  exact ⟨by decide, ⟨_, _, rfl, rfl, rfl⟩, by decide +kernel⟩

end Destination
end Scaffold
