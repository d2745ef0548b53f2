import Scaffold.Proofs.PromptRounds
import Scaffold.Proofs.Trails
import Scaffold.Proofs.Unbounded

/-!
# Runs end

Jobs end since no definition is entered within itself.  Prompts end since the answers run out.
Documents end where only the web leads on from one to the next: each page is followed once, so that
the depth of what is still to come is covered by the pages that have not been seen.
-/

namespace Scaffold

open Run

variable {ω : Type}

namespace Web

/-- How many pages have not been seen. -/
def unseen (visited : List String) (web : Web) : Nat :=
  web.pages.countP fun page => !visited.contains page.1

variable {web : Web} {visited : List String} {url : String} {page : Except RunError String}

theorem unseen_le_length (visited : List String) (web : Web) :
    web.unseen visited ≤ web.pages.length := List.countP_le_length

theorem unseen_inserted_le (url : String) (visited : List String) (web : Web) :
    web.unseen (RunState.inserted url visited) ≤ web.unseen visited := by
  unfold unseen
  refine List.countP_mono_left fun page _ hunseen => ?_
  have hold : page.1 ∉ RunState.inserted url visited := by simpa using hunseen
  have hnew : page.1 ∉ visited := fun hmem => hold (RunState.mem_inserted.mpr (Or.inl hmem))
  simpa using hnew

theorem unseen_inserted_lt (hpage : web.pages.lookup url = some page) (hnew : url ∉ visited) :
    web.unseen (RunState.inserted url visited) < web.unseen visited := by
  obtain ⟨pages⟩ := web
  induction pages with
  | nil => cases hpage
  | cons first rest ih =>
      obtain ⟨name, body⟩ := first
      have hrest := unseen_inserted_le url visited ⟨rest⟩
      simp only [unseen, List.countP_cons] at hrest ih ⊢
      by_cases hname : url = name
      · subst hname
        have hseen : (RunState.inserted url visited).contains url = true := by
          simp [RunState.mem_inserted]
        have hunseen : visited.contains url = false := by simpa using hnew
        rw [hseen, hunseen]
        simp only [Bool.not_true, Bool.not_false, Bool.false_eq_true, if_false, if_true]
        omega
      · have hlater : rest.lookup url = some page := by
          have hne : (url == name) = false := by simpa using hname
          simpa only [List.lookup_cons, hne] using hpage
        have hsame : (RunState.inserted url visited).contains name = visited.contains name := by
          simp [RunState.mem_inserted, Ne.symm hname]
        have hless := ih hlater
        rw [hsame]
        omega

end Web

/-- The entry is a path from the root of the file system. -/
def Dependency.namesPath : Dependency → Bool
  | .package name => (Path.mk name).isAbsolute
  | .versioned _ => false

namespace Document

theorem linked?_remote {entry : Dependency} {source : DocumentSource}
    (hlinked : linked? entry = some source) (hpath : entry.namesPath = false) :
    ∃ url, source = .remote url := by
  cases entry with
  | versioned pins => cases hlinked
  | package name =>
      have hrelative : (Path.mk name).isAbsolute = false := hpath
      simp only [linked?, DocumentSource.ofDependency?, hrelative, Bool.or_false,
        Option.ite_none_right_eq_some, Option.some.injEq] at hlinked
      obtain ⟨hurl, rfl⟩ := hlinked
      exact ⟨name, by rw [DocumentSource.parse, if_pos hurl]⟩

variable [FileTree ω] {web : Web} {document : Document} {s t : RunState ω}

theorem lookup_of_obtain {url : String}
    (hobtain : outcome (obtain web (.remote url)) s = (.ok document, t)) :
    ∃ page, web.pages.lookup url = some page := by
  obtain ⟨body, hfetch, -⟩ := parse_of_obtain_remote hobtain
  rcases hpage : web.pages.lookup url with _ | page
  · rw [Web.fetch, hpage] at hfetch
    cases hfetch
  · exact ⟨page, rfl⟩

end Document

/-- No page lists a path. -/
def Web.PathFree (web : Web) : Prop :=
  ∀ url body document, web.fetch url = .ok body → Document.parse body = .ok document →
    ∀ entry ∈ document.dependencies, entry.namesPath = false

theorem Web.PathFree.obtained [FileTree ω] {web : Web} {url : String} {document : Document}
    {s t : RunState ω} (hpages : web.PathFree)
    (hobtain : outcome (Document.obtain web (.remote url)) s = (.ok document, t)) :
    ∀ entry ∈ document.dependencies, entry.namesPath = false := by
  obtain ⟨body, hfetch, hparse⟩ := Document.parse_of_obtain_remote hobtain
  exact hpages url body document hfetch hparse

namespace Errand

variable [FileTree ω] {around : Surroundings} {errand fresh : Errand} {more : List Errand}
  {s t : RunState ω}

omit [FileTree ω] in
theorem mem_ofDocument {base : Option Path} {bound : Nat} {document : Document}
    (hfresh : fresh ∈ ofDocument base bound document) :
    fresh.OfJobs document.definitions ∨
      (∃ entry ∈ document.dependencies, fresh = .dependency base bound entry) ∨
      ∃ names, fresh = .registry names := by
  rw [ofDocument, List.mem_append, List.mem_append, List.mem_singleton] at hfresh
  rcases hfresh with (hjob | hentry) | hregistry
  · exact Or.inl (Job.ofJobs_offers hjob)
  · obtain ⟨entry, hmem, rfl⟩ := List.mem_map.mp hentry
    exact Or.inr (Or.inl ⟨entry, hmem, rfl⟩)
  · exact Or.inr (Or.inr ⟨_, hregistry⟩)

/-- What takes the place of an errand that goes well. -/
inductive Leads (around : Surroundings) (s t : RunState ω) : Errand → List Errand → Prop where
  | root {extend : Option String} {text : String} {base : Option Path} :
      Leads around s t (.root extend text)
        [.document base (Document.depthBound around.web) (DocumentSource.parse text)]
  | document {base : Option Path} {bound : Nat} {source : DocumentSource} {document : Document}
      (hobtain : outcome (Document.obtain around.web source) s = (.ok document, t)) :
      Leads around s t (.document base (bound + 1) source) (ofDocument base bound document)
  | followed {base : Option Path} {bound : Nat} {entry : Dependency} {source : DocumentSource}
      (hlinked : Document.linked? entry = some source) (hnew : source.key ∉ s.visited)
      (hvisited : t.visited = RunState.inserted source.key s.visited) :
      Leads around s t (.dependency base bound entry) [.document base bound source]
  | nowhere {errand : Errand} : Leads around s t errand []
  | jobs {errand : Errand} {more : List Errand} {definitions : Definitions}
      (hmore : ∀ fresh ∈ more, fresh.OfJobs definitions) : Leads around s t errand more

theorem leads_dependency {base : Option Path} {bound : Nat} {entry : Dependency}
    (hout : outcome ((Errand.dependency base bound entry).perform around) s = (.ok more, t)) :
    Leads around s t (.dependency base bound entry) more := by
  simp only [perform, runEntry] at hout
  rcases hlinked : Document.linked? entry with _ | source
  · rw [hlinked] at hout
    obtain rfl := eq_nil_of_then_nil hout
    exact .nowhere
  · by_cases hseen : source.key ∈ s.visited
    · obtain ⟨rfl, -⟩ : [] = more ∧ s = t := by
        simpa [hlinked, RunState.isVisited, hseen] using hout
      exact .nowhere
    · have hnew : s.isVisited source.key = false := by simpa [RunState.isVisited] using hseen
      simp only [hlinked, outcome_get_bind, hnew] at hout
      obtain ⟨rfl, rfl⟩ := outcome_pure_eq_ok_iff.mp hout
      exact .followed hlinked hseen rfl

theorem leads_perform (hsound : ∀ frame, errand.frame? = some frame → frame.Sound)
    (hout : outcome (errand.perform around) s = (.ok more, t)) :
    Leads around s t errand more := by
  cases errand with
  | root extend text =>
      obtain ⟨_, u, -, hout⟩ := outcome_bind_eq_ok_iff.mp hout
      obtain ⟨base, v, -, hmore⟩ := outcome_bind_eq_ok_iff.mp hout
      obtain ⟨rfl, -⟩ := outcome_pure_eq_ok_iff.mp hmore
      exact .root
  | document base bound source =>
      cases bound with
      | zero => cases hout
      | succ bound =>
          obtain ⟨document, u, hobtain, hpure⟩ := outcome_bind_eq_ok_iff.mp hout
          obtain ⟨rfl, rfl⟩ := outcome_pure_eq_ok_iff.mp hpure
          exact .document hobtain
  | dependency base bound entry => exact leads_dependency hout
  | registry names =>
      obtain rfl := eq_nil_of_then_nil hout
      exact .nowhere
  | offer frame job =>
      have hjobs : OfJobs frame.definitions (.offer frame job) := .offer (hsound frame rfl) rfl
      exact .jobs fun fresh hfresh => hjobs.perform hout hfresh
  | body frame job =>
      have hjobs : OfJobs frame.definitions (.body frame job) := .body (hsound frame rfl) rfl
      exact .jobs fun fresh hfresh => hjobs.perform hout hfresh
  | record id =>
      obtain rfl := eq_nil_of_then_nil hout
      exact .nowhere

/-- There is a level below the errand for each page that has not been seen. -/
inductive Affordable (web : Web) (unseen : Nat) : Errand → Prop where
  | root {extend : Option String} {text : String} : Affordable web unseen (.root extend text)
  | document {base : Option Path} {bound : Nat} {source : DocumentSource}
      (hbound : unseen + 2 ≤ bound) : Affordable web unseen (.document base bound source)
  /-- What is not there leads nowhere. -/
  | missing {base : Option Path} {bound : Nat} {url : String} (hbound : 1 ≤ bound)
      (hpage : web.pages.lookup url = none) :
      Affordable web unseen (.document base bound (.remote url))
  | dependency {base : Option Path} {bound : Nat} {entry : Dependency}
      (hbound : unseen + 1 ≤ bound) (hpath : entry.namesPath = false) :
      Affordable web unseen (.dependency base bound entry)
  | registry {names : List String} : Affordable web unseen (.registry names)
  | job {errand : Errand} {definitions : Definitions} (hjobs : errand.OfJobs definitions) :
      Affordable web unseen errand

namespace Affordable

variable {web : Web} {unseen fewer : Nat}

omit [FileTree ω]

theorem mono (haffordable : errand.Affordable web unseen) (hfewer : fewer ≤ unseen) :
    errand.Affordable web fewer := by
  cases haffordable with
  | root => exact .root
  | document hbound => exact .document (by omega)
  | missing hbound hpage => exact .missing hbound hpage
  | dependency hbound hpath => exact .dependency (by omega) hpath
  | registry => exact .registry
  | job hjobs => exact .job hjobs

theorem isSpent_eq_false (haffordable : errand.Affordable web unseen) :
    errand.isSpent = false := by
  cases haffordable with
  | @document _ bound _ hbound =>
      obtain ⟨below, rfl⟩ : ∃ below, bound = below + 1 := ⟨bound - 1, by omega⟩
      rfl
  | @missing _ bound _ hbound _ =>
      obtain ⟨below, rfl⟩ : ∃ below, bound = below + 1 := ⟨bound - 1, by omega⟩
      rfl
  | job hjobs => cases hjobs <;> rfl
  | _ => rfl

theorem sound (haffordable : errand.Affordable web unseen) {frame : Frame}
    (hframe : errand.frame? = some frame) : frame.Sound := by
  cases haffordable with
  | job hjobs => exact (hjobs.sound hframe).1
  | _ => cases hframe

end Affordable

/-- What leads from one document on the web to another, and never to a file. -/
inductive Remote : Errand → Prop where
  | root {extend : Option String} {text : String} (hurl : isUrl text = true) :
      Remote (.root extend text)
  | document {base : Option Path} {bound : Nat} {url : String} :
      Remote (.document base bound (.remote url))
  | dependency {base : Option Path} {bound : Nat} {entry : Dependency}
      (hpath : entry.namesPath = false) : Remote (.dependency base bound entry)
  | registry {names : List String} : Remote (.registry names)
  | job {errand : Errand} {definitions : Definitions} (hjobs : errand.OfJobs definitions) :
      Remote errand

namespace Remote

omit [FileTree ω]

theorem renewed (hremote : errand.Remote) : errand.renewed.Remote := by
  cases hremote with
  | root hurl => exact .root hurl
  | document => exact .document
  | dependency hpath => exact .dependency hpath
  | registry => exact .registry
  | job hjobs =>
      have hsame : errand.renewed = errand := by cases hjobs <;> rfl
      rw [hsame]
      exact .job hjobs

theorem sound (hremote : errand.Remote) {frame : Frame} (hframe : errand.frame? = some frame) :
    frame.Sound := by
  cases hremote with
  | job hjobs => exact (hjobs.sound hframe).1
  | _ => cases hframe

end Remote

theorem Remote.leads (hremote : errand.Remote) (hpages : around.web.PathFree)
    (hleads : Leads around s t errand more) (hfresh : fresh ∈ more) : fresh.Remote := by
  cases hleads with
  | root =>
      obtain rfl := List.mem_singleton.mp hfresh
      cases hremote with
      | root hurl =>
          rw [DocumentSource.parse, if_pos hurl]
          exact .document
      | job hjobs => cases hjobs
  | document hobtain =>
      rcases mem_ofDocument hfresh with hjobs | ⟨entry, hentry, rfl⟩ | ⟨names, rfl⟩
      · exact .job hjobs
      · cases hremote with
        | document => exact .dependency (hpages.obtained hobtain entry hentry)
        | job hjobs => cases hjobs
      · exact .registry
  | followed hlinked _ _ =>
      obtain rfl := List.mem_singleton.mp hfresh
      cases hremote with
      | dependency hpath =>
          obtain ⟨url, rfl⟩ := Document.linked?_remote hlinked hpath
          exact .document
      | job hjobs => cases hjobs
  | nowhere => cases hfresh
  | jobs hmore => exact .job (hmore fresh hfresh)

/-- A page that is followed takes a level, but it is no longer unseen. -/
theorem Affordable.leads
    (haffordable : errand.Affordable around.web (around.web.unseen s.visited))
    (hleads : Leads around s t errand more)
    (hunseen : around.web.unseen t.visited ≤ around.web.unseen s.visited)
    (hpath : ∀ base bound source document, errand = .document base bound source →
      outcome (Document.obtain around.web source) s = (.ok document, t) →
      ∀ entry ∈ document.dependencies, entry.namesPath = false)
    (hfresh : fresh ∈ more) : fresh.Affordable around.web (around.web.unseen t.visited) := by
  cases hleads with
  | root =>
      obtain rfl := List.mem_singleton.mp hfresh
      have hpages := around.web.unseen_le_length t.visited
      refine .document ?_
      unfold Document.depthBound Document.depthAllowance
      omega
  | @document base bound source document hobtain =>
      rcases mem_ofDocument hfresh with hjobs | ⟨entry, hentry, rfl⟩ | ⟨names, rfl⟩
      · exact .job hjobs
      · have hentryPath := hpath base (bound + 1) source document rfl hobtain entry hentry
        cases haffordable with
        | document hbound => exact .dependency (by omega) hentryPath
        | missing _ hpage =>
            -- What is not there has not been obtained.
            obtain ⟨page, hsome⟩ := Document.lookup_of_obtain hobtain
            rw [hpage] at hsome
            cases hsome
        | job hjobs => cases hjobs
      · exact .registry
  | @followed base bound entry source hlinked hnew hvisited =>
      obtain rfl := List.mem_singleton.mp hfresh
      cases haffordable with
      | job hjobs => cases hjobs
      | dependency hbound hentryPath =>
          obtain ⟨url, rfl⟩ := Document.linked?_remote hlinked hentryPath
          rcases hpage : around.web.pages.lookup url with _ | page
          · exact .missing (by omega) hpage
          · -- The page gives back the level that it takes.
            have hless := Web.unseen_inserted_lt hpage hnew
            rw [hvisited]
            refine .document ?_
            change around.web.unseen (RunState.inserted url s.visited) + 2 ≤ bound
            omega
  | nowhere => cases hfresh
  | jobs hmore => exact .job (hmore fresh hfresh)

theorem Effect.unseen_le (heffect : Effect s t errand) (web : Web) :
    web.unseen t.visited ≤ web.unseen s.visited := by
  rcases heffect.visited with hvisited | ⟨key, -, hvisited⟩
  · rw [hvisited]
  · rw [hvisited]
    exact Web.unseen_inserted_le key s.visited web

end Errand

namespace Moment

variable [FileTree ω] {around : Surroundings} {m n : Moment ω}

/-- The document that is read next, if there is one, lists no path. -/
def PathFree (around : Surroundings) (m : Moment ω) : Prop :=
  ∀ base bound source rest document t, m.agenda = .document base bound source :: rest →
    outcome (Document.obtain around.web source) m.state = (.ok document, t) →
    ∀ entry ∈ document.dependencies, entry.namesPath = false

theorem PathFree.of_renewed_eq (heq : m.renewed = n.renewed) (hpath : n.PathFree around) :
    m.PathFree around := by
  intro base bound source rest document t hagenda hobtain
  obtain ⟨hlists, hstate, -⟩ := Moment.mk.inj heq
  rw [hagenda, List.map_cons] at hlists
  obtain ⟨errand, others, hother, hfirst, -⟩ := List.map_eq_cons_iff.mp hlists.symm
  obtain ⟨level, rfl⟩ := Errand.eq_document_of_renewed hfirst
  exact hpath base level source others document t hother (hstate ▸ hobtain)

theorem affordable_next (hpath : m.PathFree around)
    (haffordable : ∀ errand ∈ m.agenda,
      errand.Affordable around.web (around.web.unseen m.state.visited)) :
    ∀ errand ∈ (m.next around).agenda,
      errand.Affordable around.web (around.web.unseen (m.next around).state.visited) := by
  refine (invariant_next (P := fun _ => True)
    (Q := fun s errand => errand.Affordable around.web (around.web.unseen s.visited))
    trivial haffordable ?_).2
  intro errand rest hagenda r t hout
  have hfirst := haffordable errand (by simp [hagenda])
  have heffect : Errand.Effect m.state t errand := by
    simpa [hout] using Errand.effect_perform around errand m.state
  have hunseen := heffect.unseen_le around.web
  refine ⟨trivial, fun other hother => hother.mono hunseen, ?_⟩
  rintro more rfl fresh hfresh
  have hleads := Errand.leads_perform (fun _ hframe => hfirst.sound hframe) hout
  refine hfirst.leads hleads hunseen ?_ hfresh
  rintro base bound source document rfl hobtain
  exact hpath base bound source rest document t hagenda hobtain

theorem remote_afterUnbounded (hpages : around.web.PathFree)
    (hstart : ∀ errand ∈ m.agenda, errand.Remote) (steps : Nat) :
    ∀ errand ∈ (m.afterUnbounded around steps).agenda, errand.Remote := by
  induction steps with
  | zero => exact hstart
  | succ steps ih =>
      rw [afterUnbounded_succ]
      have hrenewed : ∀ errand ∈ (m.afterUnbounded around steps).renewed.agenda,
          errand.Remote := by
        intro errand herrand
        obtain ⟨old, hold, rfl⟩ := List.mem_map.mp herrand
        exact (ih old hold).renewed
      refine (invariant_next (P := fun _ => True) (Q := fun _ errand => errand.Remote) trivial
        hrenewed ?_).2
      intro errand rest hagenda r t hout
      have hfirst := hrenewed errand (by simp [hagenda])
      refine ⟨trivial, fun _ hother => hother, ?_⟩
      rintro more rfl fresh hfresh
      have hleads := Errand.leads_perform (fun _ hframe => hfirst.sound hframe) hout
      exact hfirst.leads hpages hleads hfresh

/-- On a web whose pages list no paths, a run that starts on the web meets none. -/
theorem pathFree_of_pages (hpages : around.web.PathFree)
    (hstart : ∀ errand ∈ m.agenda, errand.Remote) (steps : Nat) :
    (m.afterUnbounded around steps).PathFree around := by
  intro base bound source rest document t hagenda hobtain
  have hfirst := remote_afterUnbounded hpages hstart steps (.document base bound source)
    (by simp [hagenda])
  cases hfirst with
  | document => exact hpages.obtained hobtain
  | job hjobs => cases hjobs

omit [FileTree ω] in
theorem eq_ended_of_renewed {r : Except RunError Unit × RunState ω}
    (heq : (ended r).renewed = n.renewed) : n = ended r := by
  obtain ⟨agenda, state, failure⟩ := n
  obtain ⟨e | ⟨⟩, t⟩ := r <;>
  · obtain ⟨hlists, hstate, hfailure⟩ := Moment.mk.inj heq
    have hnil : agenda = [] := by simpa [ended] using hlists.symm
    rw [hnil]
    exact (Moment.mk.injEq _ _ _ _ _ _).mpr ⟨rfl, hstate.symm, hfailure.symm⟩

/-- Where no document lists a path, the bound is never met, and the run goes in step with the one
that has none. -/
theorem renewed_after_eq (hpath : ∀ steps, (m.afterUnbounded around steps).PathFree around)
    (hstart : ∀ errand ∈ m.agenda,
      errand.Affordable around.web (around.web.unseen m.state.visited)) (steps : Nat) :
    (∀ errand ∈ (m.after around steps).agenda, errand.Affordable around.web
      (around.web.unseen (m.after around steps).state.visited)) ∧
      (m.after around steps).renewed = (m.afterUnbounded around steps).renewed := by
  induction steps with
  | zero => exact ⟨hstart, rfl⟩
  | succ steps ih =>
      obtain ⟨haffordable, heq⟩ := ih
      rw [after_succ, afterUnbounded_succ]
      have hspent : ∀ errand ∈ (m.after around steps).agenda, errand.isSpent = false :=
        fun errand herrand => (haffordable errand herrand).isSpent_eq_false
      exact ⟨affordable_next ((hpath steps).of_renewed_eq heq) haffordable,
        renewed_next_eq heq hspent⟩

end Moment

namespace Document

variable [FileTree ω] {around : Surroundings} {extend : Option String} {text : String}
  {s : RunState ω}

theorem ends_unbounded
    (hpath : ∀ steps,
      ((Moment.start [.root extend text] s).afterUnbounded around steps).PathFree around) :
    ∃ steps, (Moment.start [.root extend text] s).afterUnbounded around steps =
      Moment.ended (outcome (loadRoot around extend text) s) := by
  obtain ⟨steps, hlast⟩ := endsAs_loadRoot around extend text s
  have hstart : ∀ errand ∈ (Moment.start [.root extend text] s).agenda,
      errand.Affordable around.web (around.web.unseen s.visited) := by
    intro errand herrand
    obtain rfl := List.mem_singleton.mp herrand
    exact .root
  have heq := (Moment.renewed_after_eq hpath hstart steps).2
  rw [hlast] at heq
  exact ⟨steps, Moment.eq_ended_of_renewed heq⟩

/-- Runs end without any bound.  Jobs come to an end, cyclic definitions or not, and no more
definitions are open in one another than there are.  A name is asked for in at most one round more
than there are answers left, each with one prompt.  Documents come to an end, however they depend on
one another, unless one that is read lists a path. -/
theorem run_ends (around : Surroundings) (s : RunState ω) :
    (∀ base definitions jobs,
      let m := Moment.start (jobs.map (.offer (Frame.root base definitions))) s
      m.EndsAs around (Job.runAll around (Frame.root base definitions) jobs) ∧
      ∀ steps, ∀ errand ∈ (m.after around steps).agenda, ∀ frame,
        errand.frame? = some frame → frame.chain.length ≤ definitions.length) ∧
    (∀ message default problem?, ∃ rounds ≤ s.prompter.remaining + 1,
      let r := outcome (Destination.promptName message default problem?) s
      Destination.Rounds message default problem? rounds s r ∧
        r.2.prompts = s.prompts + rounds) ∧
    ∀ extend text,
      (∀ steps,
        ((Moment.start [.root extend text] s).afterUnbounded around steps).PathFree around) →
      ∃ steps, (Moment.start [.root extend text] s).afterUnbounded around steps =
        Moment.ended (outcome (loadRoot around extend text) s) := by
  refine ⟨?_, ?_, fun extend text => ends_unbounded⟩
  · intro base definitions jobs m
    refine ⟨Job.endsAs_runAll around base definitions jobs s, ?_⟩
    intro steps errand herrand frame hframe
    have hstart : ∀ errand ∈ m.agenda, errand.OfJobs definitions := fun _ => Job.ofJobs_offers
    have hjobs := (Moment.ofJobs_after around hstart steps).2 errand herrand
    exact hjobs.chain_le hframe
  · intro message default problem?
    obtain ⟨rounds, hle, hrounds⟩ :=
      Destination.rounds_promptName message default problem? s
    exact ⟨rounds, hle, hrounds, hrounds.prompts⟩

theorem ring_pathFree : ring.PathFree := by
  intro url body document hfetch hparse entry hentry
  have hpages : body = firstText ∨ body = secondText := by
    simp only [Web.fetch, ring, List.lookup_cons, List.lookup_nil] at hfetch
    grind
  rcases hpages with rfl | rfl
  · obtain rfl := Except.ok.inj (parse_firstText.symm.trans hparse)
    revert entry
    decide
  · obtain rfl := Except.ok.inj (parse_secondText.symm.trans hparse)
    revert entry
    decide

theorem run_ends_ring :
    (∀ steps, ((Moment.start [.root none "https://a.b/1"] ringStart).afterUnbounded
      ⟨ring, false⟩ steps).PathFree ⟨ring, false⟩) ∧
    ∃ steps, (Moment.start [.root none "https://a.b/1"] ringStart).afterUnbounded
      ⟨ring, false⟩ steps = Moment.ended (.ok (), ringEnd) := by
  have hstart : ∀ errand ∈ (Moment.start [.root none "https://a.b/1"] ringStart).agenda,
      errand.Remote := by
    intro errand herrand
    obtain rfl := List.mem_singleton.mp herrand
    exact .root rfl
  have hpath : ∀ steps, ((Moment.start [.root none "https://a.b/1"] ringStart).afterUnbounded
      ⟨ring, false⟩ steps).PathFree ⟨ring, false⟩ :=
    Moment.pathFree_of_pages ring_pathFree hstart
  have hends := (run_ends ⟨ring, false⟩ ringStart).2.2 none "https://a.b/1" hpath
  rw [loadRoot_ring] at hends
  exact ⟨hpath, hends⟩

end Document
end Scaffold
