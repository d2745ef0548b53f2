import Scaffold.Files.Memory
import Scaffold.Proofs.Effects
import Scaffold.Proofs.PromptRounds
import Scaffold.Run.Session

/-!
# Web addresses

An address is a scheme and the first character of a host, behind which any one character stands that
ends no line, and then no blanks.  All that a run fetches is an address: the document that it starts
with, those that others depend on, and the contents of files.
-/

namespace Scaffold

open Run

/-! ### The form of an address -/

def schemes : List String := ["http://", "https://", "ftp://"]

/-- The text is a scheme, the first character of a host, any other character, and no blanks. -/
def IsAddress (text : String) : Prop :=
  ∃ scheme ∈ schemes, ∃ first second rest,
    text.toList = scheme.toList ++ first :: second :: rest ∧
    Text.isBlank first = false ∧ first ∉ ['/', '$', '.', '?', '#'] ∧ second ≠ '\n' ∧
    ∀ c ∈ rest, Text.isBlank c = false

theorem afterScheme?_eq_some_iff {cs body : List Char} :
    afterScheme? cs = some body ↔ ∃ scheme ∈ schemes, cs = scheme.toList ++ body := by
  constructor
  · intro hafter
    obtain ⟨scheme, hscheme, hbody⟩ := List.exists_of_findSome?_eq_some hafter
    split at hbody
    next hfront =>
      obtain ⟨back, rfl⟩ := List.isPrefixOf_iff_prefix.mp hfront
      obtain rfl := Option.some.inj hbody
      exact ⟨scheme, hscheme, by simp [← String.length_toList]⟩
    next => cases hbody
  · rintro ⟨scheme, hscheme, rfl⟩
    simp only [schemes, List.mem_cons, List.not_mem_nil, or_false] at hscheme
    rcases hscheme with rfl | rfl | rfl
    · rfl
    · rfl
    · rfl

theorem isUrlBody_iff {body : List Char} :
    isUrlBody body = true ↔ ∃ first second rest, body = first :: second :: rest ∧
      isHostStart first = true ∧ second ≠ '\n' ∧ ∀ c ∈ rest, Text.isBlank c = false := by
  unfold isUrlBody
  split
  next first second rest => simp [and_assoc]
  next hshort =>
    simp only [Bool.false_eq_true, false_iff]
    rintro ⟨first, second, rest, rfl, -⟩
    exact hshort first second rest rfl

theorem isHostStart_iff {c : Char} :
    isHostStart c = true ↔ Text.isBlank c = false ∧ c ∉ ['/', '$', '.', '?', '#'] := by
  simp [isHostStart, and_assoc]

theorem isUrl_iff {text : String} : isUrl text = true ↔ IsAddress text := by
  unfold isUrl
  rcases hafter : afterScheme? text.toList with _ | body
  · simp only [Bool.false_eq_true, false_iff]
    rintro ⟨scheme, hscheme, first, second, rest, htext, -⟩
    rw [afterScheme?_eq_some_iff.mpr ⟨scheme, hscheme, htext⟩] at hafter
    cases hafter
  · dsimp only
    rw [isUrlBody_iff]
    constructor
    · rintro ⟨first, second, rest, rfl, hfirst, hsecond, hrest⟩
      obtain ⟨scheme, hscheme, htext⟩ := afterScheme?_eq_some_iff.mp hafter
      obtain ⟨hblank, hmark⟩ := isHostStart_iff.mp hfirst
      exact ⟨scheme, hscheme, first, second, rest, htext, hblank, hmark, hsecond, hrest⟩
    · rintro ⟨scheme, hscheme, first, second, rest, htext, hblank, hmark, hsecond, hrest⟩
      rw [afterScheme?_eq_some_iff.mpr ⟨scheme, hscheme, htext⟩] at hafter
      obtain rfl := Option.some.inj hafter
      exact ⟨first, second, rest, rfl, isHostStart_iff.mpr ⟨hblank, hmark⟩, hsecond, hrest⟩

theorem not_isBlank_of_mem_scheme {scheme : String} (hscheme : scheme ∈ schemes) {c : Char}
    (hc : c ∈ scheme.toList) : Text.isBlank c = false := by
  have hnone : schemes.all (fun scheme => scheme.toList.all fun c => !Text.isBlank c) = true := by
    decide
  rw [List.all_eq_true] at hnone
  simpa using List.all_eq_true.mp (hnone scheme hscheme) c hc

/-- A blank in an address stands behind the first character of the host, and nowhere else. -/
theorem IsAddress.before_blank {text : String} (haddress : IsAddress text)
    {front back : List Char} {c : Char} (hsplit : text.toList = front ++ c :: back)
    (hblank : Text.isBlank c = true) :
    ∃ scheme ∈ schemes, ∃ first, front = scheme.toList ++ [first] := by
  obtain ⟨scheme, hscheme, first, second, rest, htext, hfirst, -, -, hrest⟩ := haddress
  refine ⟨scheme, hscheme, first, ?_⟩
  have hne {d : Char} (hd : Text.isBlank d = false) : c ≠ d := by
    rintro rfl
    rw [hblank] at hd
    cases hd
  have hsame : (scheme.toList ++ [first]) ++ second :: rest = front ++ c :: back := by
    rw [← hsplit, htext]
    simp
  -- Further back are no blanks, and further in front only the scheme and the host's first character.
  rcases List.append_eq_append_iff.mp hsame with ⟨more, hfront, hback⟩ | ⟨more, hstart, hback⟩
  · rcases more with _ | ⟨d, more⟩
    · simpa using hfront
    · have hmem : c ∈ rest := by
        rw [List.cons_append, List.cons.injEq] at hback
        simp [hback.2]
      exact absurd rfl (hne (hrest c hmem))
  · rcases more with _ | ⟨d, more⟩
    · simpa using hstart.symm
    · rw [List.cons_append, List.cons.injEq] at hback
      obtain ⟨rfl, -⟩ := hback
      have hmem : c ∈ scheme.toList ++ [first] := by simp [hstart]
      rcases List.mem_append.mp hmem with hmem | hmem
      · exact absurd rfl (hne (not_isBlank_of_mem_scheme hscheme hmem))
      · exact absurd (List.mem_singleton.mp hmem) (hne hfirst)

namespace DocumentSource

variable {text entry url : String}

theorem parse_eq_remote_iff : parse text = .remote url ↔ url = text ∧ IsAddress text := by
  unfold parse
  rw [← isUrl_iff]
  by_cases hurl : isUrl text = true
  · simp [hurl, eq_comm]
  · simp [hurl]

theorem ofDependency?_eq_remote_iff :
    ofDependency? entry = some (.remote url) ↔ url = entry ∧ IsAddress entry := by
  rw [← parse_eq_remote_iff]
  unfold ofDependency?
  by_cases hlinks : (isUrl entry || (Path.mk entry).isAbsolute) = true
  · rw [if_pos hlinks, Option.some_inj]
  · rw [if_neg hlinks]
    have hurl : isUrl entry = false := by
      rw [Bool.or_eq_true, not_or, Bool.not_eq_true] at hlinks
      exact hlinks.1
    simp [parse, hurl]

end DocumentSource

/-! ### What runs fetch -/

variable {ω α β : Type} {ofUrl : String → Prop}

namespace Run

variable {act : Run ω α} {next : α → Run ω β} {s : RunState ω}

/-- All that the action fetches has the property. -/
def Fetches (ofUrl : String → Prop) (act : Run ω α) (s : RunState ω) : Prop :=
  ∃ events, (outcome act s).2.transcript = s.transcript ++ events ∧
    ∀ event ∈ events, ∀ url, event.call = .fetch url → ofUrl url

theorem fetches_of_transcript_eq (hsame : (outcome act s).2.transcript = s.transcript) :
    Fetches ofUrl act s := ⟨[], by simpa using hsame, by simp⟩

theorem fetches_pure (a : α) : Fetches ofUrl (pure a : Run ω α) s := fetches_of_transcript_eq rfl

theorem fetches_throw (e : RunError) : Fetches ofUrl (throw e : Run ω α) s :=
  fetches_of_transcript_eq rfl

theorem fetches_orFault (r : Except DocumentError α) : Fetches ofUrl (orFault r : Run ω α) s := by
  apply fetches_of_transcript_eq
  rw [outcome_orFault]

theorem fetches_modify {f : RunState ω → RunState ω} (hf : (f s).transcript = s.transcript) :
    Fetches ofUrl (modify f) s := fetches_of_transcript_eq hf

theorem Fetches.get_bind {next : RunState ω → Run ω β} (hnext : Fetches ofUrl (next s) s) :
    Fetches ofUrl (get >>= next) s := hnext

theorem Fetches.bind (hact : Fetches ofUrl act s) (hnext : ∀ a t, Fetches ofUrl (next a) t) :
    Fetches ofUrl (act >>= next) s := by
  obtain ⟨first, hfront, hurls⟩ := hact
  rcases hout : outcome act s with ⟨e | a, t⟩
  · rw [hout] at hfront
    refine ⟨first, ?_, hurls⟩
    rw [outcome_bind_error hout, hfront]
  · obtain ⟨second, hback, hmore⟩ := hnext a t
    rw [hout] at hfront
    refine ⟨first ++ second, ?_, fun event hevent => ?_⟩
    · rw [outcome_bind_ok hout, hback, hfront, List.append_assoc]
    · rcases List.mem_append.mp hevent with hmem | hmem
      · exact hurls event hmem
      · exact hmore event hmem

theorem Fetches.then_pure (hact : Fetches ofUrl act s) (f : α → β) :
    Fetches ofUrl (do return f (← act)) s := hact.bind fun a _ => fetches_pure (f a)

end Run

namespace Service

variable {s : RunState ω}

theorem fetches_perform [Replies α] {call : ServiceCall} (r : Except RunError α)
    (hcall : ∀ url, call = .fetch url → ofUrl url) : Fetches ofUrl (perform call r) s := by
  refine ⟨[⟨call, r.map Replies.reply⟩], by simp [RunState.noted], ?_⟩
  simpa using hcall

theorem fetches_fetch (web : Web) {url : String} (hurl : ofUrl url) :
    Fetches ofUrl (fetch web url : Run ω String) s := by
  apply fetches_perform
  rintro _ ⟨⟩
  exact hurl

theorem fetches_read [FileTree ω] (path : Path) : Fetches ofUrl (read path : Run ω String) s :=
  Fetches.get_bind (fetches_perform _ (by simp))

theorem fetches_write [FileTree ω] (path : Path) (content : String) :
    Fetches ofUrl (write path content : Run ω Unit) s :=
  Fetches.get_bind ((fetches_modify rfl).bind fun _ _ => fetches_perform _ (by simp))

theorem fetches_append [FileTree ω] (path : Path) (content : String) :
    Fetches ofUrl (append path content : Run ω Unit) s :=
  Fetches.get_bind ((fetches_modify rfl).bind fun _ _ => fetches_perform _ (by simp))

theorem fetches_report (level : LogLevel) (message : String) :
    Fetches ofUrl (report level message : Run ω Unit) s := fetches_perform _ (by simp)

theorem fetches_prompt [Replies α] {call : ServiceCall} (reading : Answer → Except RunError α)
    (hcall : ∀ url, call = .fetch url → ofUrl url) :
    Fetches ofUrl (prompt call reading : Run ω α) s :=
  Fetches.get_bind ((fetches_modify rfl).bind fun _ _ => fetches_perform _ hcall)

theorem fetches_text (message : String) (default : Option String) :
    Fetches ofUrl (text message default : Run ω String) s := fetches_prompt _ (by simp)

theorem fetches_confirm (message : String) (default : Bool) :
    Fetches ofUrl (confirm message default : Run ω Bool) s := fetches_prompt _ (by simp)

theorem fetches_select (message : String) (choices : List (String × String))
    (default : Option String) :
    Fetches ofUrl (select message choices default : Run ω String) s := fetches_prompt _ (by simp)

end Service

namespace Destination

variable {s : RunState ω}

theorem fetches_askOnce (message : String) (default : Option String)
    (problem? : RunState ω → String → Option String) :
    Fetches ofUrl (askOnce message default problem?) s := by
  apply (Service.fetches_text message default).bind
  intro raw t
  dsimp only
  split
  · exact (Service.fetches_report _ _).then_pure _
  · apply Fetches.get_bind
    split
    · exact fetches_pure _
    · exact (Service.fetches_report _ _).then_pure _

theorem fetches_askName (message : String) (default : Option String)
    (problem? : RunState ω → String → Option String) (bound : Nat) :
    Fetches ofUrl (askName message default problem? bound) s := by
  induction bound generalizing s with
  | zero => exact fetches_throw _
  | succ bound ih =>
      rw [askName_succ]
      apply (fetches_askOnce message default problem?).bind
      intro name? t
      cases name? with
      | some name => exact fetches_pure name
      | none => exact ih

theorem fetches_promptName (message : String) (default : Option String)
    (problem? : RunState ω → String → Option String) :
    Fetches ofUrl (promptName message default problem?) s :=
  Fetches.get_bind (fetches_askName message default problem? _)

theorem fetches_addAsked (path : Path) (ask : AskDirective) (wantsFile : Bool) :
    Fetches ofUrl (addAsked path ask wantsFile : Run ω Path) s := by
  apply Fetches.get_bind
  dsimp only
  split
  · exact fetches_pure _
  · exact (fetches_promptName _ _ _).then_pure _

theorem fetches_addSegment (path : Path) (wantsFile : Bool) (segment : Segment) :
    Fetches ofUrl (addSegment path wantsFile segment : Run ω Path) s := by
  cases segment with
  | literal text => exact fetches_pure _
  | ask directive => exact fetches_addAsked path directive wantsFile
  | reference ref =>
      apply Fetches.get_bind
      split
      · split
        · exact fetches_addAsked path _ wantsFile
        · exact fetches_pure _
      · exact (Service.fetches_report _ _).then_pure _

theorem fetches_addSegments (wantsFile : Bool) (path : Path) (segments : List Segment) :
    Fetches ofUrl (addSegments wantsFile path segments : Run ω Path) s := by
  induction segments generalizing path s with
  | nil => exact fetches_pure _
  | cons segment rest ih =>
      rw [addSegments_cons]
      exact (fetches_addSegment path _ segment).bind fun longer _ => ih longer

theorem fetches_resolve [FileTree ω] (base : Option Path) (name : String)
    (ignoreExisting : Bool) :
    Fetches ofUrl (resolve base name ignoreExisting : Run ω Destination) s := by
  have hbuild : Fetches ofUrl (build (PathTemplate.parse base name) ignoreExisting) s :=
    Fetches.get_bind (fetches_addSegments _ _ _)
  apply hbuild.bind
  intro path t
  apply Fetches.get_bind
  split
  · exact fetches_pure _
  · apply (Service.fetches_select _ _ _).bind
    intro choice u
    split
    · exact fetches_pure _
    · exact (fetches_promptName _ _ _).then_pure _
    · exact fetches_pure _

end Destination

namespace Job

variable {s : RunState ω}

theorem fetches_shouldRun (gate : Gate) : Fetches ofUrl (shouldRun gate : Run ω Bool) s := by
  have hopen (t : RunState ω) : Fetches ofUrl (isOpen gate.when) t := by
    cases gate.when with
    | none => exact fetches_pure _
    | some expression => exact Fetches.get_bind (fetches_orFault _)
  have hconfirmed (t : RunState ω) : Fetches ofUrl (isConfirmed gate.confirm) t := by
    cases gate.confirm with
    | none => exact fetches_pure _
    | some text => exact (Service.fetches_confirm _ _).then_pure _
  apply Fetches.get_bind
  split
  · exact fetches_pure _
  · apply (hopen s).bind
    intro holds t
    split
    · exact fetches_pure _
    · exact hconfirmed t

theorem fetches_gated {gate : Gate} {act : Run ω Unit} (hact : ∀ t, Fetches ofUrl act t) :
    Fetches ofUrl (gated gate act) s := by
  apply (fetches_shouldRun gate).bind
  intro runs t
  split
  · apply (hact t).bind
    intro _ u
    split
    · exact fetches_modify (transcript_finish _ u)
    · exact fetches_pure _
  · exact fetches_pure _

theorem fetches_answerQuestion (id : Option String) (q : Question) :
    Fetches ofUrl (answerQuestion id q : Run ω Unit) s := by
  have hasked (t : RunState ω) : Fetches ofUrl (askQuestion q) t := by
    unfold askQuestion
    split
    · exact (Service.fetches_text _ _).then_pure _
    · exact (Service.fetches_confirm _ _).then_pure _
    · exact Service.fetches_select _ _ _
  cases id with
  | none => exact fetches_throw _
  | some id =>
      apply Fetches.get_bind
      split
      · exact fetches_pure _
      · exact (hasked s).bind fun _ _ => fetches_modify rfl

variable [FileTree ω]

theorem fetches_loadContent (web : Web) (content : String) :
    Fetches IsAddress (loadContent web content : Run ω String) s := by
  unfold loadContent
  split
  · exact fetches_pure _
  · split
    next hurl => exact Service.fetches_fetch web (isUrl_iff.mp hurl)
    next =>
      apply Fetches.get_bind
      split
      · exact Service.fetches_read _
      · exact fetches_pure _

theorem fetches_writeFile (around : Surroundings) (base : Option Path) (job : FileJob) :
    Fetches IsAddress (writeFile around base job : Run ω Unit) s := by
  have hwritten (path : Path) (t : RunState ω) :
      Fetches IsAddress (applyWrite around.web path job.write) t := by
    cases job.write with
    | overwrite content =>
        exact (fetches_loadContent around.web content).bind fun _ _ => Service.fetches_write path _
    | append content =>
        exact (fetches_loadContent around.web content).bind fun _ _ => Service.fetches_append path _
    | replace pairs =>
        apply (Service.fetches_read path).bind
        intro text u
        apply Fetches.get_bind
        exact (fetches_orFault _).bind fun _ _ => Service.fetches_write path _
  apply (Destination.fetches_resolve _ _ _).bind
  intro destination t
  cases destination with
  | skip => exact Service.fetches_report _ _
  | path path => exact (hwritten path t).bind fun _ _ => Service.fetches_report _ _

theorem fetches_groupBase (frame : Frame) (base : Option String) :
    Fetches ofUrl (groupBase frame base : Run ω (Option Path)) s := by
  cases base with
  | none => exact fetches_pure _
  | some name =>
      apply (Destination.fetches_resolve _ _ _).bind
      intro destination t
      cases destination <;> exact fetches_pure _

variable {around : Surroundings} {enter : Frame → String → Run ω Unit}

theorem fetches_runTask (henter : ∀ frame target t, Fetches IsAddress (enter frame target) t)
    (frame : Frame) (id : Option String) (task : Task) :
    Fetches IsAddress (runTask around enter frame id task) s := by
  cases task with
  | file job => exact fetches_writeFile around frame.base job
  | question q => exact fetches_answerQuestion id q
  | registryDependencies names => exact fetches_modify rfl
  | dependencies names => exact fetches_modify rfl
  | run target => exact henter frame target s
  | log level message => exact Service.fetches_report level message

mutual
theorem fetches_exec (henter : ∀ frame target t, Fetches IsAddress (enter frame target) t)
    (frame : Frame) (job : Job) (s : RunState ω) :
    Fetches IsAddress (exec around enter frame job) s := by
  match job with
  | .task gate action =>
      rw [exec]
      exact fetches_gated fun t => fetches_runTask henter frame gate.id action
  | .group gate base jobs =>
      rw [exec]
      exact fetches_gated fun t => (fetches_groupBase frame base).bind fun inside u =>
        fetches_execAll henter (frame.withBase inside) jobs u

theorem fetches_execAll (henter : ∀ frame target t, Fetches IsAddress (enter frame target) t)
    (frame : Frame) (jobs : List Job) (s : RunState ω) :
    Fetches IsAddress (execAll around enter frame jobs) s := by
  match jobs with
  | [] =>
      rw [execAll]
      exact fetches_pure ()
  | job :: rest =>
      rw [execAll]
      exact (fetches_exec henter frame job s).bind fun _ t => fetches_execAll henter frame rest t
end

theorem fetches_invoke (around : Surroundings) (bound : Nat) (frame : Frame) (target : String)
    (s : RunState ω) : Fetches IsAddress (invoke around bound frame target) s := by
  induction bound generalizing frame target s with
  | zero =>
      rw [invoke]
      split
      · exact fetches_throw _
      · exact (fetches_orFault _).bind fun _ _ => fetches_throw _
  | succ bound ih =>
      rw [invoke]
      split
      · exact fetches_throw _
      · exact (fetches_orFault _).bind fun inner t => fetches_exec ih inner _ t

theorem fetches_runAll (around : Surroundings) (frame : Frame) (jobs : List Job)
    (s : RunState ω) : Fetches IsAddress (runAll around frame jobs) s :=
  fetches_execAll (fetches_invoke around _) frame jobs s

end Job

namespace Document

/-- What the source names on the web is an address. -/
def SourceAddressed (source : DocumentSource) : Prop :=
  ∀ url, source = .remote url → IsAddress url

theorem sourceAddressed_parse (text : String) : SourceAddressed (DocumentSource.parse text) := by
  intro url hremote
  obtain ⟨rfl, haddress⟩ := DocumentSource.parse_eq_remote_iff.mp hremote
  exact haddress

theorem sourceAddressed_of_linked? {entry : Dependency} {source : DocumentSource}
    (hlinked : linked? entry = some source) : SourceAddressed source := by
  rintro url rfl
  cases entry with
  | package name =>
      obtain ⟨rfl, haddress⟩ := DocumentSource.ofDependency?_eq_remote_iff.mp hlinked
      exact haddress
  | versioned entries => cases hlinked

variable {s : RunState ω} {load : DocumentSource → Run ω Unit}

theorem fetches_follow
    (hload : ∀ source, SourceAddressed source → ∀ t, Fetches IsAddress (load source) t)
    (entry : Dependency) : Fetches IsAddress (follow load entry) s := by
  unfold follow
  split
  next source hlinked =>
    apply Fetches.get_bind
    split
    · apply (fetches_modify rfl).bind
      exact fun _ t => hload source (sourceAddressed_of_linked? hlinked) t
    · exact fetches_pure _
  next => exact fetches_modify rfl

theorem fetches_followAll
    (hload : ∀ source, SourceAddressed source → ∀ t, Fetches IsAddress (load source) t)
    (entries : List Dependency) : Fetches IsAddress (followAll load entries) s := by
  induction entries generalizing s with
  | nil => exact fetches_pure ()
  | cons entry rest ih => exact (fetches_follow hload entry).bind fun _ _ => ih

variable [FileTree ω]

theorem fetches_obtain (web : Web) {source : DocumentSource} (hsource : SourceAddressed source) :
    Fetches IsAddress (obtain web source : Run ω Document) s := by
  cases source with
  | remote url =>
      apply (Service.fetches_fetch web (hsource url rfl)).bind
      intro body t
      split
      · exact fetches_throw _
      · exact fetches_orFault _
  | «local» path => exact (Service.fetches_read path).bind fun text t => fetches_orFault _

theorem fetches_load (around : Surroundings) (base : Option Path) (bound : Nat)
    (source : DocumentSource) (hsource : SourceAddressed source) (s : RunState ω) :
    Fetches IsAddress (Document.load around base bound source) s := by
  induction bound generalizing source s with
  | zero => exact fetches_throw _
  | succ bound ih =>
      apply (fetches_obtain around.web hsource).bind
      intro document t
      apply (Job.fetches_runAll around _ document.jobs t).bind
      intro _ u
      apply (fetches_followAll ih document.dependencies).bind
      exact fun _ v => fetches_modify rfl

theorem fetches_loadRoot (around : Surroundings) (extend : Option String) (text : String)
    (s : RunState ω) : Fetches IsAddress (loadRoot around extend text) s := by
  have hbase (t : RunState ω) : Fetches IsAddress (extendedBase extend) t := by
    cases extend with
    | none => exact fetches_pure _
    | some name =>
        apply (Destination.fetches_resolve _ _ _).bind
        intro destination u
        cases destination <;> exact fetches_pure _
  apply (fetches_modify rfl).bind
  intro _ t
  apply (hbase t).bind
  exact fun base u => fetches_load around base _ _ (sourceAddressed_parse text) u

end Document

namespace Session

theorem fetches_run [FileTree ω] [Repository ω] (web : Web) (options : RunOptions)
    (source : String) (s : RunState ω) : Fetches IsAddress (run web options source) s := by
  have hclose (t : RunState ω) : Fetches IsAddress close t := by
    apply Fetches.get_bind
    dsimp only
    split
    · have hsaved : Fetches IsAddress (saveStore t.vars.store) t :=
        Fetches.get_bind ((fetches_modify rfl).bind fun _ _ => Service.fetches_perform _ (by simp))
      exact hsaved.bind fun _ u => Fetches.get_bind (fetches_pure _)
    · exact Fetches.get_bind (fetches_pure _)
  have hloaded : Fetches IsAddress loadStore s :=
    Fetches.get_bind (Service.fetches_perform _ (by simp))
  apply hloaded.bind
  intro store t
  apply (fetches_modify rfl).bind
  intro _ u
  exact (Document.fetches_loadRoot _ _ source u).bind fun _ v => hclose v

/-- A text is taken for an address just when it has the form of one, whether it names a document,
stands among dependencies, or is the content of a file; its only blank can be the character behind
the first one of the host; and nothing but addresses is fetched in a session, or by jobs. -/
theorem only_addresses_are_fetched [FileTree ω] [Repository ω] :
    (∀ text, isUrl text = true ↔ IsAddress text) ∧
    (∀ text, IsAddress text → ∀ front c back, text.toList = front ++ c :: back →
      Text.isBlank c = true → ∃ scheme ∈ schemes, ∃ first, front = scheme.toList ++ [first]) ∧
    (∀ text url, DocumentSource.parse text = .remote url ↔ url = text ∧ IsAddress text) ∧
    (∀ entry url, DocumentSource.ofDependency? entry = some (.remote url) ↔
      url = entry ∧ IsAddress entry) ∧
    (∀ (web : Web) (options : RunOptions) (prompter : Prompter) (source : String) (files : ω),
      ∀ event ∈ (runFrom web options prompter source files).2.transcript,
        ∀ url, event.call = .fetch url → IsAddress url) ∧
    ∀ (around : Surroundings) (frame : Frame) (jobs : List Job) (s : RunState ω),
      Fetches IsAddress (Job.runAll around frame jobs) s := by
  refine ⟨fun text => isUrl_iff, fun text haddress front c back => haddress.before_blank,
    fun text url => DocumentSource.parse_eq_remote_iff,
    fun entry url => DocumentSource.ofDependency?_eq_remote_iff, ?_, Job.fetches_runAll⟩
  intro web options prompter source files event hevent
  obtain ⟨events, htranscript, hurls⟩ :=
    fetches_run web options source (RunState.start (.withStore .empty) files prompter)
  have hevents : (runFrom web options prompter source files).2.transcript = events := htranscript
  rw [hevents] at hevent
  exact hurls event hevent

end Session

theorem blank_in_address :
    isUrl "https://a b.org" = true ∧ Text.isBlank ' ' = true ∧ ' ' ∈ "https://a b.org".toList ∧
      DocumentSource.parse "https://a b.org" = .remote "https://a b.org" ∧
      DocumentSource.ofDependency? "https://a b.org" = some (.remote "https://a b.org") ∧
      (outcome (Job.loadContent ⟨[("https://a b.org", .ok "page")]⟩ "https://a b.org")
        (.start (.withStore .empty) MemoryFiles.empty (.script []))).1 = .ok "page" := by
  decide

end Scaffold
