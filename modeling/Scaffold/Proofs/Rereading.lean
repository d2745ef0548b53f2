import Scaffold.Proofs.Termination

/-!
# Documents read again

A reference is followed when its text has not been met before, whatever document it names.  A text
that is met again leads nowhere, and no text leads to a document twice; but a file that is referred
to in two spellings is read twice, and its jobs are run twice.
-/

namespace Scaffold

open Run

variable {ω : Type}

namespace Errand

/-- The document that an errand refers to. -/
def named? : Errand → Option DocumentSource
  | .root _ text => some (.parse text)
  | .dependency _ _ entry => Document.linked? entry
  | _ => none

/-- The document that an errand reads. -/
def loaded? : Errand → Option DocumentSource
  | .document _ _ source => some source
  | _ => none

theorem reference?_eq_map_key (errand : Errand) :
    errand.reference? = errand.named?.map DocumentSource.key := by
  cases errand <;> rfl

/-- What can be left to be done once the root is known. -/
inductive BehindRoot : Errand → Prop where
  | document (base : Option Path) (bound : Nat) (source : DocumentSource) :
      BehindRoot (.document base bound source)
  | dependency (base : Option Path) (bound : Nat) (entry : Dependency) :
      BehindRoot (.dependency base bound entry)
  | registry (names : List String) : BehindRoot (.registry names)
  | job {errand : Errand} {definitions : Definitions} (hjob : errand.OfJobs definitions) :
      BehindRoot errand

variable {errand fresh : Errand}

theorem BehindRoot.sound (hbehind : errand.BehindRoot) {frame : Frame}
    (hframe : errand.frame? = some frame) : frame.Sound := by
  cases hbehind with
  | job hjob => exact (hjob.sound hframe).1
  | _ => cases hframe

theorem OfJobs.loaded?_eq_none {definitions : Definitions} (hjob : errand.OfJobs definitions) :
    errand.loaded? = none := by
  cases hjob <;> rfl

theorem behindRoot_of_mem_ofDocument {base : Option Path} {bound : Nat} {document : Document}
    (hfresh : fresh ∈ ofDocument base bound document) :
    fresh.BehindRoot ∧ fresh.loaded? = none := by
  rcases mem_ofDocument hfresh with hjob | ⟨entry, -, rfl⟩ | ⟨names, rfl⟩
  · exact ⟨.job hjob, hjob.loaded?_eq_none⟩
  · exact ⟨.dependency base bound entry, rfl⟩
  · exact ⟨.registry names, rfl⟩

variable [FileTree ω]

omit [FileTree ω] in
theorem visited_runEntry (base : Option Path) (bound : Nat) (entry : Dependency)
    (s : RunState ω) :
    (outcome (runEntry base bound entry) s).2.visited =
      ((Document.linked? entry).map fun source =>
        RunState.inserted source.key s.visited).getD s.visited := by
  unfold runEntry
  rcases hlinked : Document.linked? entry with _ | source
  · rfl
  · by_cases hseen : source.key ∈ s.visited
    · simp [RunState.isVisited, hseen, RunState.inserted_of_mem hseen]
    · have hnew : s.isVisited source.key = false := by simpa [RunState.isVisited] using hseen
      simp only [outcome_get_bind, hnew]
      rfl

/-- An errand notes what it refers to, and nothing else. -/
theorem visited_perform (around : Surroundings) (errand : Errand) (s : RunState ω) :
    (outcome (errand.perform around) s).2.visited =
      (errand.named?.map fun source => RunState.inserted source.key s.visited).getD s.visited := by
  have hother : errand.named? = none →
      (outcome (errand.perform around) s).2.visited = s.visited := by
    intro hnone
    rcases (effect_perform around errand s).visited with hsame | ⟨key, hkey, -⟩
    · exact hsame
    · rw [reference?_eq_map_key, hnone] at hkey
      cases hkey
  cases errand with
  | root extend text =>
      have hquiet : Quiet (do
          let base ← Document.extendedBase extend
          return [Errand.document base (Document.depthBound around.web) (.parse text)])
          (s.visit (DocumentSource.parse text).key) :=
        (Document.quiet_extendedBase extend).bind fun base _ _ => quiet_pure _
      exact hquiet.visited
  | dependency base bound entry => exact visited_runEntry base bound entry s
  | _ => exact hother rfl

end Errand

namespace Moment

variable [FileTree ω] {around : Surroundings} {m : Moment ω} {source : DocumentSource}

/-- The next errand refers to the document. -/
def Meets (m : Moment ω) (source : DocumentSource) : Prop :=
  ∃ errand rest, m.agenda = errand :: rest ∧ errand.named? = some source

/-- The next errand reads the document, whose jobs are run if that goes well. -/
def Loads (m : Moment ω) (source : DocumentSource) : Prop :=
  ∃ errand rest, m.agenda = errand :: rest ∧ errand.loaded? = some source

theorem mem_visited_next {key : String} :
    key ∈ (m.next around).state.visited ↔
      key ∈ m.state.visited ∨ ∃ source, m.Meets source ∧ source.key = key := by
  rcases hagenda : m.agenda with _ | ⟨errand, rest⟩
  · rw [next_of_nil hagenda]
    simp [Meets, hagenda]
  · rw [state_next_of_cons hagenda, Errand.visited_perform]
    rcases hnamed : errand.named? with _ | source
    · simp [Meets, hagenda, hnamed]
    · simp [Meets, hagenda, hnamed, RunState.mem_inserted, eq_comm]

/-- What has been seen are the texts that were met before. -/
theorem mem_visited_after {key : String} (steps : Nat) :
    key ∈ (m.after around steps).state.visited ↔ key ∈ m.state.visited ∨
      ∃ earlier < steps, ∃ source, (m.after around earlier).Meets source ∧ source.key = key := by
  induction steps with
  | zero => simp
  | succ n ih =>
      rw [after_succ, mem_visited_next, ih, or_assoc]
      refine or_congr_right ⟨?_, ?_⟩
      · rintro (⟨earlier, hearlier, hmeets⟩ | hmeets)
        · exact ⟨earlier, by omega, hmeets⟩
        · exact ⟨n, by omega, hmeets⟩
      · rintro ⟨earlier, hearlier, hmeets⟩
        rcases Nat.lt_succ_iff_lt_or_eq.mp hearlier with hless | rfl
        · exact Or.inl ⟨earlier, hless, hmeets⟩
        · exact Or.inr hmeets

/-- A document is read before all else that is to be done. -/
structure Orderly (m : Moment ω) : Prop where
  behind : ∀ errand ∈ m.agenda, errand.BehindRoot
  later : ∀ errand ∈ m.agenda.tail, errand.loaded? = none

/-- What a step of a run with a known root can lead to. -/
inductive Turns (around : Surroundings) (m : Moment ω) : Prop where
  | ended (hagenda : (m.next around).agenda = [])
  | goesOn {errand : Errand} {rest : List Errand} (more : List Errand)
      (hagenda : m.agenda = errand :: rest) (hnext : (m.next around).agenda = more ++ rest)
      (hmore : ∀ fresh ∈ more, fresh.BehindRoot ∧ fresh.loaded? = none)
  | follows {base : Option Path} {bound : Nat} {entry : Dependency} {source : DocumentSource}
      {rest : List Errand} (hagenda : m.agenda = .dependency base bound entry :: rest)
      (hlinked : Document.linked? entry = some source) (hnew : source.key ∉ m.state.visited)
      (hnext : (m.next around).agenda = .document base bound source :: rest)

theorem Orderly.turns (horderly : m.Orderly) (around : Surroundings) : m.Turns around := by
  rcases hagenda : m.agenda with _ | ⟨errand, rest⟩
  · exact .ended (by rw [next_of_nil hagenda, hagenda])
  · have hbehind := horderly.behind errand (by simp [hagenda])
    have hnext : m.next around = _ := next_of_cons hagenda
    rcases hout : outcome (errand.perform around) m.state with ⟨e | more, t⟩
    · exact .ended (by rw [hnext, hout]; rfl)
    · have hafter : m.next around = ⟨more ++ rest, t, none⟩ := by rw [hnext, hout]; rfl
      have hleads := Errand.leads_perform (fun frame => hbehind.sound) hout
      cases hleads with
      | root =>
          cases hbehind with
          | job hjob => cases hjob
      | document hobtain =>
          exact .goesOn _ hagenda (by rw [hafter]) fun fresh => Errand.behindRoot_of_mem_ofDocument
      | followed hlinked hnew =>
          exact .follows hagenda hlinked hnew (by rw [hafter]; rfl)
      | nowhere => exact .goesOn [] hagenda (by rw [hafter]) (by simp)
      | jobs hmore =>
          exact .goesOn more hagenda (by rw [hafter]) fun fresh hfresh =>
            ⟨.job (hmore fresh hfresh), (hmore fresh hfresh).loaded?_eq_none⟩

theorem Orderly.next (horderly : m.Orderly) (around : Surroundings) :
    (m.next around).Orderly := by
  have hold : ∀ {errand rest}, m.agenda = errand :: rest → ∀ other ∈ rest,
      other.BehindRoot ∧ other.loaded? = none := by
    intro errand rest hagenda other hother
    refine ⟨horderly.behind other ?_, horderly.later other ?_⟩
    · simp [hagenda, hother]
    · simpa [hagenda] using hother
  cases horderly.turns around with
  | ended hagenda => constructor <;> simp [hagenda]
  | goesOn more hagenda hnext hmore =>
      have hall : ∀ other ∈ (m.next around).agenda, other.BehindRoot ∧ other.loaded? = none := by
        intro other hother
        rw [hnext] at hother
        rcases List.mem_append.mp hother with hfresh | hrest
        · exact hmore other hfresh
        · exact hold hagenda other hrest
      exact ⟨fun other hother => (hall other hother).1,
        fun other hother => (hall other (List.mem_of_mem_tail hother)).2⟩
  | follows hagenda hlinked hnew hnext =>
      constructor <;> intro other hother <;> rw [hnext] at hother
      · rcases List.mem_cons.mp hother with rfl | hrest
        · exact .document _ _ _
        · exact (hold hagenda other hrest).1
      · exact (hold hagenda other hother).2

/-- A document is read only when a dependency with a new text has been met just before. -/
theorem Orderly.loads_next (horderly : m.Orderly) (hloads : (m.next around).Loads source) :
    m.Meets source ∧ source.key ∉ m.state.visited := by
  obtain ⟨first, others, hfirst, hsource⟩ := hloads
  have hnone : first.loaded? ≠ none := by simp [hsource]
  cases horderly.turns around with
  | ended hagenda => simp [hagenda] at hfirst
  | goesOn more hagenda hnext hmore =>
      rw [hnext] at hfirst
      rcases more with _ | ⟨fresh, more⟩
      · have hrest : first ∈ m.agenda.tail := by simp_all
        exact absurd (horderly.later first hrest) hnone
      · obtain ⟨rfl, -⟩ := List.cons.inj hfirst
        exact absurd (hmore fresh (by simp)).2 hnone
  | follows hagenda hlinked hnew hnext =>
      rw [hnext] at hfirst
      obtain ⟨rfl, -⟩ := List.cons.inj hfirst
      obtain rfl := Option.some.inj hsource
      exact ⟨⟨_, _, hagenda, hlinked⟩, hnew⟩

/-- A dependency whose text is new is read in the next step. -/
theorem loads_next_of_new {base : Option Path} {bound : Nat} {entry : Dependency}
    {rest : List Errand} (hagenda : m.agenda = .dependency base bound entry :: rest)
    (hlinked : Document.linked? entry = some source) (hnew : source.key ∉ m.state.visited) :
    (m.next around).Loads source := by
  have hunseen : m.state.isVisited source.key = false := by simpa [RunState.isVisited] using hnew
  refine ⟨.document base bound source, rest, ?_, rfl⟩
  rw [next_of_cons hagenda]
  simp only [Errand.perform, Errand.runEntry, hlinked, outcome_get_bind, hunseen]
  rfl

end Moment

namespace Document

variable [FileTree ω] {around : Surroundings} {extend : Option String} {text : String}
  {s : RunState ω} {source : DocumentSource}

/-- The moments of the run of a root document. -/
def moment (around : Surroundings) (extend : Option String) (text : String) (s : RunState ω)
    (step : Nat) : Moment ω :=
  (Moment.start [.root extend text] s).after around step

theorem moment_succ (step : Nat) :
    moment around extend text s (step + 1) = (moment around extend text s step).next around :=
  Moment.after_succ step

theorem agenda_moment_one (around : Surroundings) (extend : Option String) (text : String)
    (s : RunState ω) :
    (moment around extend text s 1).agenda = [] ∨
      ∃ base, (moment around extend text s 1).agenda =
        [.document base (depthBound around.web) (.parse text)] := by
  have hnext : moment around extend text s 1 = Moment.resume []
      (outcome ((Errand.root extend text).perform around) s) := rfl
  rw [hnext]
  rcases hout : outcome ((Errand.root extend text).perform around) s with ⟨e | more, t⟩
  · exact Or.inl rfl
  · obtain ⟨_, u, -, hout⟩ := outcome_bind_eq_ok_iff.mp hout
    obtain ⟨base, v, -, hmore⟩ := outcome_bind_eq_ok_iff.mp hout
    obtain ⟨rfl, -⟩ := outcome_pure_eq_ok_iff.mp hmore
    exact Or.inr ⟨base, rfl⟩

theorem meets_moment_zero : (moment around extend text s 0).Meets (.parse text) :=
  ⟨.root extend text, [], rfl, rfl⟩

theorem orderly_moment (around : Surroundings) (extend : Option String) (text : String)
    (s : RunState ω) (step : Nat) : (moment around extend text s (step + 1)).Orderly := by
  induction step with
  | zero =>
      rcases agenda_moment_one around extend text s with hagenda | ⟨base, hagenda⟩
      · constructor <;> simp [hagenda]
      · refine ⟨fun errand herrand => ?_, by simp [hagenda]⟩
        rw [hagenda] at herrand
        obtain rfl := List.mem_singleton.mp herrand
        exact .document _ _ _
  | succ n ih =>
      rw [moment_succ]
      exact ih.next around

theorem not_loads_moment_zero : ¬(moment around extend text s 0).Loads source := by
  rintro ⟨errand, rest, hagenda, hsource⟩
  obtain ⟨rfl, -⟩ := List.cons.inj hagenda
  cases hsource

/-- What is read has been met before. -/
theorem exists_meets_of_loads {step : Nat}
    (hloads : (moment around extend text s step).Loads source) :
    ∃ earlier < step, (moment around extend text s earlier).Meets source := by
  match step with
  | 0 => exact absurd hloads not_loads_moment_zero
  | 1 =>
      obtain ⟨errand, rest, hfirst, hsource⟩ := hloads
      rcases agenda_moment_one around extend text s with hagenda | ⟨base, hagenda⟩
      · rw [hagenda] at hfirst
        cases hfirst
      · rw [hagenda] at hfirst
        obtain ⟨rfl, -⟩ := List.cons.inj hfirst
        obtain rfl := Option.some.inj hsource
        exact ⟨0, by omega, meets_moment_zero⟩
  | n + 2 =>
      rw [moment_succ] at hloads
      exact ⟨n + 1, by omega, ((orderly_moment around extend text s n).loads_next hloads).1⟩

theorem visited_moment_mono {first later : Nat} (hle : first ≤ later) :
    (moment around extend text s first).state.visited ⊆
      (moment around extend text s later).state.visited := by
  intro key hkey
  refine (Moment.mem_visited_after later).mpr
    (((Moment.mem_visited_after first).mp hkey).imp_right ?_)
  rintro ⟨earlier, hearlier, hmeets⟩
  exact ⟨earlier, by omega, hmeets⟩

theorem mem_visited_of_loads {step : Nat}
    (hloads : (moment around extend text s step).Loads source) :
    source.key ∈ (moment around extend text s step).state.visited := by
  obtain ⟨earlier, hearlier, hmeets⟩ := exists_meets_of_loads hloads
  exact (Moment.mem_visited_after step).mpr (Or.inr ⟨earlier, hearlier, source, hmeets, rfl⟩)

/-- No text leads to a document twice. -/
theorem key_ne_of_loads {first later : Nat} {p q : DocumentSource} (hlater : first < later)
    (hfirst : (moment around extend text s first).Loads p)
    (hloads : (moment around extend text s later).Loads q) : p.key ≠ q.key := by
  match later with
  | 0 => omega
  | 1 =>
      obtain rfl : first = 0 := by omega
      exact absurd hfirst not_loads_moment_zero
  | n + 2 =>
      rw [moment_succ] at hloads
      have hnew := ((orderly_moment around extend text s n).loads_next hloads).2
      have hle : first ≤ n + 1 := by omega
      intro hkey
      exact hnew (hkey ▸ visited_moment_mono hle (mem_visited_of_loads hfirst))

/-- A dependency is followed exactly when its text is new. -/
theorem loads_succ_iff {step bound : Nat} {base : Option Path} {entry : Dependency}
    {rest : List Errand}
    (hagenda : (moment around extend text s step).agenda = .dependency base bound entry :: rest)
    (hlinked : linked? entry = some source) :
    (moment around extend text s (step + 1)).Loads source ↔ source.key ∉ s.visited ∧
      ∀ earlier < step, ∀ other, (moment around extend text s earlier).Meets other →
        other.key ≠ source.key := by
  have hvisited : source.key ∈ (moment around extend text s step).state.visited ↔ _ :=
    Moment.mem_visited_after step
  have hnew : (moment around extend text s (step + 1)).Loads source ↔
      source.key ∉ (moment around extend text s step).state.visited := by
    rw [moment_succ]
    refine ⟨fun hloads => ?_, Moment.loads_next_of_new hagenda hlinked⟩
    cases step with
    | zero => cases hagenda
    | succ n => exact ((orderly_moment around extend text s n).loads_next hloads).2
  rw [hnew, hvisited]
  simp only [not_or, not_exists, not_and]
  rfl

/-- In a run, one text leads to a document once at most, and a dependency leads to its document when
its text is new and only then.  So a file is read once at most if all that is met of it is spelled
alike; spelled in two ways it would be read twice. -/
theorem loads_by_text (around : Surroundings) (extend : Option String) (text : String)
    (s : RunState ω) :
    (Moment.start [.root extend text] s).EndsAs around (loadRoot around extend text) ∧
    (∀ first later p q, first < later → (moment around extend text s first).Loads p →
      (moment around extend text s later).Loads q → p.key ≠ q.key) ∧
    (∀ step base bound entry rest source,
      (moment around extend text s step).agenda = .dependency base bound entry :: rest →
      linked? entry = some source →
        ((moment around extend text s (step + 1)).Loads source ↔ source.key ∉ s.visited ∧
          ∀ earlier < step, ∀ other, (moment around extend text s earlier).Meets other →
            other.key ≠ source.key)) ∧
    ∀ place : Place,
      (∀ first later p q, (moment around extend text s first).Meets (.local p) →
        (moment around extend text s later).Meets (.local q) →
        p.key = place → q.key = place → p.text = q.text) →
      ∀ first later p q, (moment around extend text s first).Loads (.local p) →
        (moment around extend text s later).Loads (.local q) →
        p.key = place → q.key = place → first = later := by
  refine ⟨endsAs_loadRoot around extend text s, fun _ _ _ _ => key_ne_of_loads,
    fun _ _ _ _ _ _ => loads_succ_iff, fun place halike first later p q hp hq hplace hplace' => ?_⟩
  obtain ⟨earlier, -, hmeets⟩ := exists_meets_of_loads hp
  obtain ⟨other, -, hmeets'⟩ := exists_meets_of_loads hq
  have htext : p.text = q.text := halike earlier other p q hmeets hmeets' hplace hplace'
  rcases Nat.lt_trichotomy first later with hless | heq | hmore
  · exact absurd htext (key_ne_of_loads hless hp hq)
  · exact heq
  · exact absurd htext.symm (key_ne_of_loads hmore hq hp)

/-! ### One file in two spellings -/

/-- Appends to a file, and depends on itself in another spelling. -/
def selfText : String :=
  "\x7b\"jobs\":[\x7b\"name\":\"log.txt\",\"method\":\"a\",\"content\":\"x\"\x7d]," ++
    "\"dependencies\":[\"/docs/./a.json\"]\x7d"

def selfDocument : Document where
  name := none
  title := none
  version := none
  description := none
  jobs := [.task ⟨none, none, none⟩ (.file ⟨"log.txt", .append "x"⟩)]
  dependencies := [.package "/docs/./a.json"]
  registryDependencies := []
  definitions := []

theorem parse_selfText : Document.parse selfText = .ok selfDocument := by
  cbv

def offline : Surroundings := ⟨⟨[]⟩, false⟩

def selfStart : RunState MemoryFiles :=
  .start (.withStore .empty) ⟨[([.root, .name "docs", .name "a.json"], selfText)], []⟩ (.script [])

def selfMoment (step : Nat) : Moment MemoryFiles :=
  moment offline none "/docs/a.json" selfStart step

theorem obtain_self {path : Path} {t : RunState MemoryFiles}
    (hread : t.files.get? path = some selfText) :
    outcome (obtain ⟨[]⟩ (.local path)) t =
      (.ok selfDocument, t.noted (.read path) (.ok (.text selfText))) := by
  have hfile : FileTree.read t.files path = .ok selfText := by
    change MemoryFiles.read t.files path = _
    rw [MemoryFiles.read, hread]
  rw [obtain, outcome_bind, Service.outcome_read, hfile]
  simp only [parse_selfText, outcome_orFault]
  rfl

theorem next_of_self {path : Path} {m : Moment MemoryFiles} {bound : Nat} {rest : List Errand}
    (hagenda : m.agenda = .document none (bound + 1) (.local path) :: rest)
    (hread : m.state.files.get? path = some selfText) :
    m.next offline = ⟨Errand.ofDocument none bound selfDocument ++ rest,
      m.state.noted (.read path) (.ok (.text selfText)), none⟩ := by
  rw [Moment.next_of_cons hagenda, Errand.perform, offline, outcome_bind_ok (obtain_self hread)]
  rfl

/-- Where the document has been read for the first time. -/
def selfRead : Moment MemoryFiles :=
  ⟨Errand.ofDocument none 9999 selfDocument,
    (selfStart.visit "/docs/a.json").noted (.read ⟨"/docs/a.json"⟩) (.ok (.text selfText)), none⟩

theorem agenda_selfMoment_one :
    (selfMoment 1).agenda = [.document none (9999 + 1) (.local ⟨"/docs/a.json"⟩)] := rfl

theorem selfMoment_five : selfMoment 5 = selfRead.after offline 3 := by
  have htwo : selfMoment 2 = selfRead := by
    have hnext : selfMoment 2 = (selfMoment 1).next offline := moment_succ 1
    rw [hnext, next_of_self agenda_selfMoment_one rfl]
    rfl
  rw [← htwo]
  exact Moment.after_add 2 3

theorem agenda_selfMoment_five : (selfMoment 5).agenda =
    [.document none (9998 + 1) (.local ⟨"/docs/./a.json"⟩), .registry []] := by
  rw [selfMoment_five]
  rfl

/-- Where the document has been read for the second time. -/
theorem selfMoment_six :
    selfMoment 6 = ⟨Errand.ofDocument none 9998 selfDocument ++ [.registry []],
      (selfRead.after offline 3).state.noted (.read ⟨"/docs/./a.json"⟩) (.ok (.text selfText)),
      none⟩ := by
  have hread : (selfMoment 5).state.files.get? ⟨"/docs/./a.json"⟩ = some selfText := by
    rw [selfMoment_five]
    decide +kernel
  have hnext : selfMoment 6 = (selfMoment 5).next offline := moment_succ 5
  rw [hnext, next_of_self agenda_selfMoment_five hread, selfMoment_five]

theorem loads_twice_spelled_apart :
    (Path.mk "/docs/a.json").key = (Path.mk "/docs/./a.json").key ∧
      (selfMoment 1).Loads (.local ⟨"/docs/a.json"⟩) ∧
      (selfMoment 5).Loads (.local ⟨"/docs/./a.json"⟩) ∧
      (outcome (loadRoot offline none "/docs/a.json") selfStart).2.files.get? ⟨"log.txt"⟩ =
        some "xx" := by
  have heleven : selfMoment 11 = (selfMoment 6).after offline 5 := Moment.after_add 6 5
  have hover : (selfMoment 11).agenda = [] := by
    rw [heleven, selfMoment_six]
    rfl
  have hfiles : (selfMoment 11).state.files.get? ⟨"log.txt"⟩ = some "xx" := by
    rw [heleven, selfMoment_six]
    decide +kernel
  refine ⟨by decide, ⟨_, _, agenda_selfMoment_one, rfl⟩, ⟨_, _, agenda_selfMoment_five, rfl⟩, ?_⟩
  obtain ⟨steps, hends⟩ :=
    (endsAs_loadRoot offline none "/docs/a.json" selfStart).after_add 11
  rw [Moment.after_add] at hends
  have hlast : selfMoment 11 = Moment.ended
      (outcome (loadRoot offline none "/docs/a.json") selfStart) := by
    rw [← Moment.after_of_nil hover steps]
    exact hends
  rw [hlast, Moment.state_ended] at hfiles
  exact hfiles

end Document
end Scaffold
