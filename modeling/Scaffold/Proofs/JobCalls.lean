import Scaffold.Proofs.Calls

/-!
# The calls of names and jobs

All that happens in a job before its own effect does no more than to make calls.  The prompts for a
name end: each takes an answer, and they start with a bound that is greater than the answers ahead.
-/

namespace Scaffold

open Run

variable {ω : Type} {allowed : RunError → Prop} {s : RunState ω}

namespace Job

theorem quiet_isOpen (guard? : Option String) : Quiet (isOpen guard? : Run ω Bool) s := by
  cases guard? with
  | none => exact quiet_pure _
  | some expression => exact Quiet.get_bind (quiet_orFault _)

theorem outcome_isOpen_of_ok {expression : String} {condition : Condition}
    (hcondition : Guard.conditionOf expression = .ok condition) :
    outcome (isOpen (some expression)) s = (.ok (condition.holds s.vars), s) := by
  simp only [isOpen, outcome_get_bind, outcome_orFault, Guard.evaluate, hcondition]
  rfl

theorem asks_isOpen {guard? : Option String}
    (hguard : ∀ expression ∈ guard?, ∃ condition, Guard.conditionOf expression = .ok condition) :
    Asks allowed (isOpen guard? : Run ω Bool) s := by
  refine ⟨?_, quiet_isOpen guard?⟩
  cases guard? with
  | none => exact failsByCall_pure _
  | some expression =>
      obtain ⟨condition, hcondition⟩ := hguard expression rfl
      refine ⟨[], ?_, ?_⟩ <;> rw [outcome_isOpen_of_ok hcondition]
      · simp
      · simp [Explained]

end Job

variable [FileTree ω] {web : Web}

namespace Destination

theorem asks_askName (hports : Ports web ω allowed) (message : String)
    (default : Option String) (problem? : RunState ω → String → Option String) (bound : Nat)
    (hbound : s.prompter.remaining < bound) :
    Asks allowed (askName message default problem? bound) s := by
  induction bound generalizing s with
  | zero => omega
  | succ n ih =>
      refine (Service.asks_text hports message default).bind fun raw t hout => ?_
      have hleft := Service.remaining_of_text hout
      have hagain : ∀ problem, Asks allowed (do
          Service.report .warn problem
          askName message default problem? n) t := by
        intro problem
        refine (Service.asks_report _ _).bind fun _ u hreport => ih ?_
        rw [Service.outcome_report] at hreport
        obtain ⟨-, rfl⟩ := Prod.mk.inj hreport
        simp only [RunState.noted]
        omega
      dsimp only
      split
      · exact hagain _
      · refine Asks.get_bind ?_
        split
        · exact asks_pure _
        · exact hagain _

theorem asks_promptName (hports : Ports web ω allowed) (message : String)
    (default : Option String) (problem? : RunState ω → String → Option String) :
    Asks allowed (promptName message default problem?) s :=
  Asks.get_bind (asks_askName hports message default problem? _ (Nat.lt_succ_self _))

theorem asks_addAsked (hports : Ports web ω allowed) (path : Path) (ask : AskDirective)
    (wantsFile : Bool) : Asks allowed (addAsked path ask wantsFile : Run ω Path) s := by
  refine Asks.get_bind ?_
  dsimp only
  split
  · exact asks_pure _
  · exact (asks_promptName hports _ _ _).bind fun _ _ _ => asks_pure _

theorem asks_addSegment (hports : Ports web ω allowed) (path : Path) (wantsFile : Bool)
    (segment : Segment) :
    Asks allowed (addSegment path wantsFile segment : Run ω Path) s := by
  cases segment with
  | literal text => exact asks_pure _
  | ask directive => exact asks_addAsked hports path directive wantsFile
  | reference ref =>
      refine Asks.get_bind ?_
      split
      · split
        · exact asks_addAsked hports path _ wantsFile
        · exact asks_pure _
      · exact (Service.asks_report _ _).bind fun _ _ _ => asks_pure _

omit [FileTree ω] in
/-- Only the last segment names a file. -/
theorem addSegments_cons (wantsFile : Bool) (path : Path) (segment : Segment)
    (rest : List Segment) :
    (addSegments wantsFile path (segment :: rest) : Run ω Path) = (do
      let longer ← addSegment path (wantsFile && rest.isEmpty) segment
      addSegments wantsFile longer rest) := by
  cases rest with
  | nil => simp [addSegments]
  | cons next others => simp [addSegments]

theorem asks_addSegments (hports : Ports web ω allowed) (wantsFile : Bool) (path : Path)
    (segments : List Segment) :
    Asks allowed (addSegments wantsFile path segments : Run ω Path) s := by
  induction segments generalizing path s with
  | nil => exact asks_pure _
  | cons segment rest ih =>
      rw [addSegments_cons]
      exact (asks_addSegment hports path _ segment).bind fun longer _ _ => ih longer

theorem asks_build (hports : Ports web ω allowed) (template : PathTemplate)
    (ignoreExisting : Bool) :
    Asks allowed (build template ignoreExisting : Run ω Path) s :=
  Asks.get_bind (asks_addSegments hports _ _ _)

theorem asks_arbitrate (hports : Ports web ω allowed) (path : Path) :
    Asks allowed (arbitrate path : Run ω Destination) s := by
  refine (Service.asks_select hports _ _ _).bind fun choice _ _ => ?_
  split
  · exact asks_pure _
  · exact (asks_promptName hports _ _ _).bind fun _ _ _ => asks_pure _
  · exact asks_pure _

theorem asks_resolve (hports : Ports web ω allowed) (base : Option Path) (name : String)
    (ignoreExisting : Bool) :
    Asks allowed (resolve base name ignoreExisting : Run ω Destination) s := by
  refine (asks_build hports _ _).bind fun path _ _ => Asks.get_bind ?_
  split
  · exact asks_pure _
  · exact asks_arbitrate hports path

theorem quiet_resolve (base : Option Path) (name : String) (ignoreExisting : Bool) :
    Quiet (resolve base name ignoreExisting : Run ω Destination) s :=
  (asks_resolve (Ports.any ⟨[]⟩ ω) base name ignoreExisting).quiet

end Destination

namespace Job

theorem asks_isConfirmed (hports : Ports web ω allowed) (confirm : Option String) :
    Asks allowed (isConfirmed confirm : Run ω Bool) s := by
  cases confirm with
  | none => exact asks_pure _
  | some text => exact (Service.asks_confirm hports _ _).bind fun _ _ _ => asks_pure _

theorem quiet_shouldRun (gate : Gate) : Quiet (shouldRun gate : Run ω Bool) s := by
  refine Quiet.get_bind ?_
  split
  · exact quiet_pure _
  · refine (quiet_isOpen gate.when).bind fun holds t _ => ?_
    split
    · exact quiet_pure _
    · exact (asks_isConfirmed (Ports.any ⟨[]⟩ ω) gate.confirm).quiet

theorem asks_shouldRun (hports : Ports web ω allowed) {gate : Gate}
    (hguard : ∀ expression ∈ gate.when,
      ∃ condition, Guard.conditionOf expression = .ok condition) :
    Asks allowed (shouldRun gate : Run ω Bool) s := by
  refine Asks.get_bind ?_
  split
  · exact asks_pure _
  · refine (asks_isOpen hguard).bind fun holds t _ => ?_
    split
    · exact asks_pure _
    · exact asks_isConfirmed hports gate.confirm

theorem asks_loadContent (hports : Ports web ω allowed) (content : String) :
    Asks allowed (loadContent web content : Run ω String) s := by
  unfold loadContent
  split
  · exact asks_pure _
  · split
    · exact Service.asks_fetch hports content
    · refine Asks.get_bind ?_
      split
      · exact Service.asks_read hports _
      · exact asks_pure _

theorem quiet_loadContent (web : Web) (content : String) :
    Quiet (loadContent web content : Run ω String) s :=
  (asks_loadContent (Ports.any web ω) content).quiet

theorem asks_askQuestion (hports : Ports web ω allowed) (q : Question) :
    Asks allowed (askQuestion q : Run ω String) s := by
  unfold askQuestion
  split
  · exact (Service.asks_text hports _ _).bind fun _ _ _ => asks_pure _
  · exact (Service.asks_confirm hports _ _).bind fun _ _ _ => asks_pure _
  · exact Service.asks_select hports _ _ _

theorem quiet_askQuestion (q : Question) : Quiet (askQuestion q : Run ω String) s :=
  (asks_askQuestion (Ports.any ⟨[]⟩ ω) q).quiet

theorem asks_groupBase (hports : Ports web ω allowed) (frame : Frame) (base : Option String) :
    Asks allowed (groupBase frame base : Run ω (Option Path)) s := by
  cases base with
  | none => exact asks_pure _
  | some name =>
      refine (Destination.asks_resolve hports _ _ _).bind fun destination _ _ => ?_
      cases destination <;> exact asks_pure _

theorem quiet_groupBase (frame : Frame) (base : Option String) :
    Quiet (groupBase frame base : Run ω (Option Path)) s :=
  (asks_groupBase (Ports.any ⟨[]⟩ ω) frame base).quiet

end Job
end Scaffold
