import Scaffold.Files.Memory
import Scaffold.Proofs.Collisions
import Scaffold.Proofs.Pieces
import Scaffold.Proofs.PromptRounds

/-!
# What a path is made of

Each segment of a template says a text: its own, the value of a variable, or what was entered for
it.  The path is the start of the template with the pieces of these texts behind it, one after the
other.  No text replaces what stands before it, since no piece starts with a slash.
-/

namespace Scaffold

open Run

variable {ω : Type}

/-- A directive comes to a name: the value of its variable or, where that has none or an empty one,
what was entered at the last prompt of the calls. -/
inductive AskDirective.Names (vars : Variables) (ask : AskDirective) :
    List ServiceEvent → String → Prop where
  | known {ref : VariableRef} {value : String} (href : ask.ref = some ref)
      (hvalue : vars.resolve ref none = some value) (hfull : value ≠ "") : Names vars ask [] value
  | answered {front : List ServiceEvent} {message raw : String}
      (hunknown : ∀ ref ∈ ask.ref, ∀ value ∈ vars.resolve ref none, value = "")
      (hanswer : Text.trim raw ≠ "") :
      Names vars ask (front ++ [⟨.text message ask.default, .ok (.text raw)⟩]) (Text.trim raw)
  | defaulted {front : List ServiceEvent} {message raw name : String}
      (hunknown : ∀ ref ∈ ask.ref, ∀ value ∈ vars.resolve ref none, value = "")
      (hanswer : Text.trim raw = "") (hdefault : ask.default = some name) (hfull : name ≠ "") :
      Names vars ask (front ++ [⟨.text message ask.default, .ok (.text raw)⟩]) name

namespace Segment

/-- What a segment says, with the calls that are made for it. -/
inductive Says (vars : Variables) : Segment → List ServiceEvent → String → Prop where
  | literal (text : String) : Says vars (.literal text) [] text
  | value {ref : VariableRef} {value : String} (hvalue : vars.resolve ref none = some value)
      (hplain : AskDirective.parse value = none) : Says vars (.reference ref) [] value
  /-- The value is a directive in its turn. -/
  | directive {ref : VariableRef} {value name : String} {ask : AskDirective}
      {calls : List ServiceEvent} (hvalue : vars.resolve ref none = some value)
      (hask : AskDirective.parse value = some ask) (hname : ask.Names vars calls name) :
      Says vars (.reference ref) calls name
  | kept {ref : VariableRef} {warning : ServiceEvent} (hnone : vars.resolve ref none = none) :
      Says vars (.reference ref) [warning] ref.text
  | ask {ask : AskDirective} {calls : List ServiceEvent} {name : String}
      (hname : ask.Names vars calls name) : Says vars (.ask ask) calls name

/-- The segment is a directive, or a reference whose value is one. -/
inductive Directs (vars : Variables) : Segment → AskDirective → Prop where
  | ask (ask : AskDirective) : Directs vars (.ask ask) ask
  | value {ref : VariableRef} {value : String} {ask : AskDirective}
      (hvalue : vars.resolve ref none = some value) (hask : AskDirective.parse value = some ask) :
      Directs vars (.reference ref) ask

theorem Directs.says {vars : Variables} {segment : Segment} {ask : AskDirective}
    {calls : List ServiceEvent} {name : String} (hdirects : segment.Directs vars ask)
    (hname : ask.Names vars calls name) : segment.Says vars calls name := by
  cases hdirects with
  | ask => exact .ask hname
  | value hvalue hask => exact .directive hvalue hask hname

/-- What segments say one after the other. -/
inductive AllSay (vars : Variables) : List Segment → List ServiceEvent → List String → Prop where
  | nil : AllSay vars [] [] []
  | cons {segment : Segment} {segments : List Segment} {calls more : List ServiceEvent}
      {text : String} {texts : List String} (hfirst : segment.Says vars calls text)
      (hrest : AllSay vars segments more texts) :
      AllSay vars (segment :: segments) (calls ++ more) (text :: texts)

end Segment

namespace Destination

variable {s t : RunState ω} {name : String}

theorem entered_of_askOnce {message : String} {default name? : Option String}
    {problem? : RunState ω → String → Option String}
    (hout : outcome (askOnce message default problem?) s = (.ok name?, t)) :
    ∃ raw later,
      t.transcript = s.transcript ++ ⟨.text message default, .ok (.text raw)⟩ :: later ∧
      ∀ name ∈ name?, later = [] ∧ name = enteredName default raw ∧ name ≠ "" := by
  obtain ⟨raw, u, htext, hround⟩ := outcome_bind_eq_ok_iff.mp hout
  have hprompt : u.transcript = s.transcript ++ [⟨.text message default, .ok (.text raw)⟩] :=
    Service.transcript_of_prompt htext
  have hreported : ∀ problem, outcome (do
      Service.report .warn problem
      return none) u = (.ok name?, t) →
      name? = none ∧ t.transcript = s.transcript ++ ⟨.text message default, .ok (.text raw)⟩ ::
        [⟨.report .warn problem, .ok .done⟩] := by
    intro problem hreport
    obtain ⟨hnone, rfl⟩ := Prod.mk.inj hreport
    exact ⟨(Except.ok.inj hnone).symm, by simp [hprompt, Except.map, Replies.reply]⟩
  dsimp only at hround
  split at hround
  · obtain ⟨rfl, hcalls⟩ := hreported _ hround
    exact ⟨raw, _, hcalls, by simp⟩
  next hfull =>
    rw [outcome_get_bind] at hround
    split at hround
    · obtain ⟨rfl, rfl⟩ := outcome_pure_eq_ok_iff.mp hround
      exact ⟨raw, [], hprompt, by simpa using hfull⟩
    · obtain ⟨rfl, hcalls⟩ := hreported _ hround
      exact ⟨raw, _, hcalls, by simp⟩

/-- The name is what was entered at the last prompt. -/
theorem entered_of_askName {message : String} {default : Option String}
    {problem? : RunState ω → String → Option String} {bound : Nat}
    (hout : outcome (askName message default problem? bound) s = (.ok name, t)) :
    ∃ front raw,
      t.transcript = s.transcript ++ (front ++ [⟨.text message default, .ok (.text raw)⟩]) ∧
      name = enteredName default raw ∧ name ≠ "" := by
  induction bound generalizing s with
  | zero => simp [askName] at hout
  | succ bound ih =>
      rw [askName_succ] at hout
      obtain ⟨name?, u, hround, hrest⟩ := outcome_bind_eq_ok_iff.mp hout
      obtain ⟨raw, later, hcalls, hentered⟩ := entered_of_askOnce hround
      cases name? with
      | some name =>
          obtain ⟨rfl, rfl⟩ := outcome_pure_eq_ok_iff.mp hrest
          obtain ⟨rfl, hname⟩ := hentered name rfl
          exact ⟨[], raw, hcalls, hname⟩
      | none =>
          obtain ⟨front, last, hmore, hname⟩ := ih hrest
          refine ⟨⟨.text message default, .ok (.text raw)⟩ :: later ++ front, last, ?_, hname⟩
          rw [hmore, hcalls]
          simp

theorem names_of_entered {vars : Variables} {ask : AskDirective} {message raw : String}
    {front : List ServiceEvent}
    (hunknown : ∀ ref ∈ ask.ref, ∀ value ∈ vars.resolve ref none, value = "")
    (hfull : enteredName ask.default raw ≠ "") :
    ask.Names vars (front ++ [⟨.text message ask.default, .ok (.text raw)⟩])
      (enteredName ask.default raw) := by
  by_cases hanswer : Text.trim raw = ""
  · rcases hdefault : ask.default with _ | other
    · simp [enteredName, hanswer, hdefault] at hfull
    · have hname : enteredName (some other) raw = other := by simp [enteredName, hanswer]
      rw [hdefault, hname] at hfull
      rw [hname, ← hdefault]
      exact .defaulted hunknown hanswer hdefault hfull
  · have hname : enteredName ask.default raw = Text.trim raw := by simp [enteredName, hanswer]
    rw [hname]
    exact .answered hunknown hanswer

variable {path longer : Path}

/-- What the user is asked for. -/
def nameMessage (wantsFile : Bool) : String :=
  if wantsFile then "Enter file name." else "Enter folder name."

/-- A directive adds the value of its variable, or it asks because there is none. -/
theorem addAsked_cases {ask : AskDirective} {wantsFile : Bool}
    (hout : outcome (addAsked path ask wantsFile) s = (.ok longer, t)) :
    (∃ ref value, ask.ref = some ref ∧ s.vars.resolve ref none = some value ∧ value ≠ "" ∧
      longer = addPieces path value ∧ t = s) ∨
    ((∀ ref ∈ ask.ref, ∀ value ∈ s.vars.resolve ref none, value = "") ∧
      ∃ name, outcome (promptName (nameMessage wantsFile) ask.default fun _ _ => none) s =
        (.ok name, t) ∧ longer = addPieces path name) := by
  simp only [addAsked, outcome_get_bind] at hout
  split at hout
  next value hvalue =>
    obtain ⟨rfl, rfl⟩ := outcome_pure_eq_ok_iff.mp hout
    obtain ⟨hknown, hfull⟩ := Option.filter_eq_some_iff.mp hvalue
    obtain ⟨ref, href, hresolve⟩ := Option.bind_eq_some_iff.mp hknown
    exact Or.inl ⟨ref, value, href, hresolve, by simpa using hfull, rfl, rfl⟩
  next hnone =>
    obtain ⟨name, u, hname, hpath⟩ := outcome_bind_eq_ok_iff.mp hout
    obtain ⟨rfl, rfl⟩ := outcome_pure_eq_ok_iff.mp hpath
    refine Or.inr ⟨?_, name, hname, rfl⟩
    intro ref href value hvalue
    have hempty := Option.filter_eq_none_iff.mp hnone value
      (Option.bind_eq_some_iff.mpr ⟨ref, href, hvalue⟩)
    simpa using hempty

theorem names_of_addAsked {ask : AskDirective} {wantsFile : Bool}
    (hout : outcome (addAsked path ask wantsFile) s = (.ok longer, t)) :
    ∃ calls name, ask.Names s.vars calls name ∧ t.transcript = s.transcript ++ calls ∧
      longer = addPieces path name := by
  rcases addAsked_cases hout with
    ⟨ref, value, href, hvalue, hfull, rfl, rfl⟩ | ⟨hunknown, name, hname, rfl⟩
  · exact ⟨[], value, .known href hvalue hfull, by simp, rfl⟩
  · rw [promptName, outcome_get_bind] at hname
    obtain ⟨front, raw, htranscript, rfl, hfull⟩ := entered_of_askName hname
    exact ⟨_, _, names_of_entered hunknown hfull, htranscript, rfl⟩

/-- A segment says its text without a prompt, or it is a directive. -/
theorem addSegment_cases {segment : Segment} {wantsFile : Bool}
    (hout : outcome (addSegment path wantsFile segment) s = (.ok longer, t)) :
    (∃ calls text, segment.Says s.vars calls text ∧ t.transcript = s.transcript ++ calls ∧
      (∀ event ∈ calls, event.call.prompt? = none) ∧ longer = addPieces path text) ∨
    ∃ ask, segment.Directs s.vars ask ∧
      outcome (addAsked path ask wantsFile) s = (.ok longer, t) := by
  cases segment with
  | literal text =>
      obtain ⟨rfl, rfl⟩ := outcome_pure_eq_ok_iff.mp hout
      exact Or.inl ⟨[], text, .literal text, by simp, by simp, rfl⟩
  | ask directive => exact Or.inr ⟨directive, .ask directive, hout⟩
  | reference ref =>
      simp only [addSegment, outcome_get_bind] at hout
      split at hout
      next value hvalue =>
        split at hout
        next directive hask => exact Or.inr ⟨directive, .value hvalue hask, hout⟩
        next hplain =>
          obtain ⟨rfl, rfl⟩ := outcome_pure_eq_ok_iff.mp hout
          exact Or.inl ⟨[], value, .value hvalue hplain, by simp, by simp, rfl⟩
      next hnone =>
        obtain ⟨_, u, hreport, hpath⟩ := outcome_bind_eq_ok_iff.mp hout
        obtain ⟨rfl, rfl⟩ := outcome_pure_eq_ok_iff.mp hpath
        rw [Service.outcome_report] at hreport
        obtain ⟨-, rfl⟩ := Prod.mk.inj hreport
        refine Or.inl ⟨[_], ref.text, .kept hnone, rfl, ?_, rfl⟩
        simp [ServiceCall.prompt?]

/-- A segment puts the pieces of what it says behind the path. -/
theorem says_of_addSegment {segment : Segment} {wantsFile : Bool}
    (hout : outcome (addSegment path wantsFile segment) s = (.ok longer, t)) :
    ∃ calls text, segment.Says s.vars calls text ∧ t.transcript = s.transcript ++ calls ∧
      longer = addPieces path text := by
  rcases addSegment_cases hout with ⟨calls, text, hsays, hcalls, -, rfl⟩ | ⟨ask, hdirects, hasked⟩
  · exact ⟨calls, text, hsays, hcalls, rfl⟩
  · obtain ⟨calls, name, hname, hcalls, rfl⟩ := names_of_addAsked hasked
    exact ⟨calls, name, hdirects.says hname, hcalls, rfl⟩

variable [FileTree ω]

theorem vars_of_addSegment {segment : Segment} {wantsFile : Bool}
    (hout : outcome (addSegment path wantsFile segment) s = (.ok longer, t)) :
    t.vars = s.vars :=
  ((asks_addSegment (Ports.any ⟨[]⟩ ω) path wantsFile segment).quiet.quietTo hout).vars

theorem allSay_of_addSegments {segments : List Segment} {wantsFile : Bool}
    (hout : outcome (addSegments wantsFile path segments) s = (.ok longer, t)) :
    ∃ calls texts, Segment.AllSay s.vars segments calls texts ∧
      t.transcript = s.transcript ++ calls ∧ longer = texts.foldl addPieces path := by
  induction segments generalizing path s with
  | nil =>
      obtain ⟨rfl, rfl⟩ := outcome_pure_eq_ok_iff.mp hout
      exact ⟨[], [], .nil, by simp, rfl⟩
  | cons segment rest ih =>
      rw [addSegments_cons] at hout
      obtain ⟨middle, u, hfirst, hrest⟩ := outcome_bind_eq_ok_iff.mp hout
      obtain ⟨calls, text, hsays, hcalls, rfl⟩ := says_of_addSegment hfirst
      obtain ⟨more, texts, hothers, hmore, rfl⟩ := ih hrest
      rw [vars_of_addSegment hfirst] at hothers
      refine ⟨calls ++ more, text :: texts, .cons hsays hothers, ?_, rfl⟩
      rw [hmore, hcalls, List.append_assoc]

end Destination

/-- The components that the segments of a template come behind. -/
def PathTemplate.start (hasSrc : Bool) (template : PathTemplate) : List Path.Component :=
  if template.absolute then [.root]
  else (template.anchor.map fun anchor => (anchor.directory hasSrc).components).getD []

namespace Destination

variable {s t : RunState ω} {path : Path} {template : PathTemplate}

theorem components_addPieces (p : Path) (text : String) :
    (addPieces p text).components = p.components ++ Path.componentsOf text :=
  Path.components_foldl_push (fun _ => Path.isPiece_of_mem_namingPieces) p

theorem components_foldl_addPieces (texts : List String) (p : Path) :
    (texts.foldl addPieces p).components = p.components ++ texts.flatMap Path.componentsOf := by
  induction texts generalizing p with
  | nil => simp
  | cons text rest ih =>
      rw [List.foldl_cons, ih, components_addPieces]
      simp

theorem isAbsolute_foldl_addPieces (texts : List String) (p : Path) :
    (texts.foldl addPieces p).isAbsolute = p.isAbsolute := by
  induction texts generalizing p with
  | nil => rfl
  | cons text rest ih =>
      rw [List.foldl_cons, ih, addPieces,
        Path.isAbsolute_foldl_push fun _ => Path.isPiece_of_mem_namingPieces]

theorem isNormal_foldl_addPieces {p : Path} (hp : p.IsNormal) (texts : List String) :
    (texts.foldl addPieces p).IsNormal := by
  induction texts generalizing p with
  | nil => exact hp
  | cons text rest ih =>
      exact ih (hp.foldl_push fun _ => Path.isPiece_of_mem_namingPieces)

theorem isNormal_directory (hasSrc : Bool) (anchor : Placeholder) :
    (anchor.directory hasSrc).IsNormal ∧ (anchor.directory hasSrc).isAbsolute = false := by
  cases hasSrc <;> cases anchor <;> decide

variable [FileTree ω]

theorem components_origin (files : ω) (template : PathTemplate) :
    (origin files template).components =
      template.start (FileTree.isDirectory files ⟨"src"⟩) := by
  unfold origin PathTemplate.start
  split
  · rfl
  · cases template.anchor <;> rfl

theorem isAbsolute_origin (files : ω) (template : PathTemplate) :
    (origin files template).isAbsolute = template.absolute := by
  unfold origin
  split
  next habsolute => exact habsolute.symm
  next hrelative =>
    rw [Bool.not_eq_true] at hrelative
    rw [hrelative]
    cases template.anchor with
    | none => rfl
    | some anchor => exact (isNormal_directory _ anchor).2

theorem isNormal_origin (files : ω) (template : PathTemplate) :
    (origin files template).IsNormal := by
  unfold origin
  split
  · rfl
  · cases template.anchor with
    | none => rfl
    | some anchor => exact (isNormal_directory _ anchor).1

/-- A path is made of the start of its template and the pieces of all that its segments say: a text
takes nothing away from what was there before it, and the path is as the files in memory keep it. -/
theorem build_made_of_texts {ignoreExisting : Bool}
    (hbuild : outcome (build template ignoreExisting) s = (.ok path, t)) :
    ∃ calls texts, t.transcript = s.transcript ++ calls ∧
      Segment.AllSay s.vars template.segments calls texts ∧
      path.components = template.start (FileTree.isDirectory s.files ⟨"src"⟩) ++
        texts.flatMap Path.componentsOf ∧
      (∀ front back, texts = front ++ back →
        template.start (FileTree.isDirectory s.files ⟨"src"⟩) ++ front.flatMap Path.componentsOf <+:
          path.components) ∧
      path.isAbsolute = template.absolute ∧ Path.ofComponents path.key = path := by
  rw [build, outcome_get_bind] at hbuild
  obtain ⟨calls, texts, hsay, hcalls, rfl⟩ := allSay_of_addSegments hbuild
  have hcomponents := components_foldl_addPieces texts (origin s.files template)
  rw [components_origin] at hcomponents
  refine ⟨calls, texts, hcalls, hsay, hcomponents, ?_, ?_, ?_⟩
  · rintro front back rfl
    rw [hcomponents, List.flatMap_append, ← List.append_assoc]
    exact List.prefix_append _ _
  · rw [isAbsolute_foldl_addPieces, isAbsolute_origin]
  · exact isNormal_foldl_addPieces (isNormal_origin s.files template) texts

end Destination

/-- The value of a variable, and then a name to be entered. -/
def PathTemplate.inComponents : PathTemplate :=
  ⟨some .components, false, [.reference ⟨.memory, "dir"⟩, .ask ⟨some "x.ts", none⟩]⟩

/-- In a project with a directory `src`, the value has a slash at the front. -/
def RunState.beforeName : RunState MemoryFiles :=
  .start ⟨⟨[("dir", .string "/etc/./x")]⟩, .empty⟩ ⟨[], [[.name "src"]]⟩ (.script [.text "  "])

namespace Destination

theorem build_made_of_texts_default :
    PathTemplate.parse (some ⟨"/base"⟩) "%components%/<#dir>/<-ask | x.ts->" = .inComponents ∧
      ∃ t calls texts, outcome (build .inComponents false) RunState.beforeName =
          (.ok ⟨"src/components/etc/x/x.ts"⟩, t) ∧
        Segment.AllSay RunState.beforeName.vars PathTemplate.inComponents.segments calls texts ∧
        (Path.mk "src/components/etc/x/x.ts").components =
          PathTemplate.inComponents.start true ++ texts.flatMap Path.componentsOf := by
  have hpath : (outcome (build .inComponents false) RunState.beforeName).1.toOption =
      some ⟨"src/components/etc/x/x.ts"⟩ := by decide +kernel
  rcases hbuild : outcome (build .inComponents false) RunState.beforeName with ⟨e | path, t⟩
  · simp [hbuild, Except.toOption] at hpath
  · rw [hbuild] at hpath
    obtain rfl := Option.some.inj hpath
    obtain ⟨calls, texts, -, hsay, hcomponents, -⟩ := build_made_of_texts hbuild
    exact ⟨by decide, t, calls, texts, rfl, hsay, hcomponents⟩

end Destination
end Scaffold
