import Mathlib.Data.List.Permutation
import Scaffold.Files.Memory
import Scaffold.Proofs.JobErrands

/-!
# Trails through documents

A trail tells what came of the entries of a dependency list: packages that were collected, documents
that had been seen, and documents that were followed, each with the trail of its own entries.  A run
that ends well leaves a trail on which each document is read once and before those it depends on,
and all that is pending after the run can be read off the trail in order.
-/

namespace Scaffold

open Run

variable {ω : Type}

namespace RunState

/-- The members after all the news, each of which is there once. -/
def insertedAll (news members : List String) : List String :=
  news.foldl (fun known member => inserted member known) members

variable {news later members : List String}

theorem insertedAll_append :
    insertedAll (news ++ later) members = insertedAll later (insertedAll news members) :=
  List.foldl_append

theorem insertedAll_of_nodup (hnodup : news.Nodup) (hnew : ∀ member ∈ news, member ∉ members) :
    insertedAll news members = members ++ news := by
  induction news generalizing members with
  | nil => simp [insertedAll]
  | cons member rest ih =>
      obtain ⟨hhead, hrest⟩ := List.nodup_cons.mp hnodup
      have hfirst : inserted member members = members ++ [member] :=
        inserted_of_notMem (hnew member (by simp))
      have hothers : ∀ other ∈ rest, other ∉ members ++ [member] := by
        intro other hother
        have hne : other ≠ member := fun heq => hhead (heq ▸ hother)
        simp [hnew other (List.mem_cons_of_mem _ hother), hne]
      calc insertedAll (member :: rest) members
          = insertedAll rest (members ++ [member]) := congrArg (insertedAll rest) hfirst
        _ = members ++ member :: rest := by rw [ih hrest hothers]; simp

end RunState

inductive Trail where
  | done
  /-- The entry names no document. -/
  | collected (entry : Dependency) (rest : Trail)
  | seen (source : DocumentSource) (rest : Trail)
  /-- The document was read, its jobs collected something of their own, and its entries left a trail
  before the rest. -/
  | followed (source : DocumentSource) (document : Document) (own : Pending)
      (inner rest : Trail)

namespace Trail

/-- The documents that were read, in order, with what their jobs collected. -/
def readings : Trail → List (String × Document × Pending)
  | done => []
  | collected _ rest => rest.readings
  | seen _ rest => rest.readings
  | followed source document own inner rest =>
      (source.key, document, own) :: (inner.readings ++ rest.readings)

def references (trail : Trail) : List String := trail.readings.map Prod.fst

/-- All references that were met, also those that had been seen. -/
def mentions : Trail → List String
  | done => []
  | collected _ rest => rest.mentions
  | seen source rest => source.key :: rest.mentions
  | followed source _ _ inner rest => source.key :: (inner.mentions ++ rest.mentions)

/-- What is collected on the trail. -/
def pending : Trail → Pending
  | done => .empty
  | collected entry rest => ⟨[entry], []⟩ ++ rest.pending
  | seen _ rest => rest.pending
  | followed _ document own inner rest =>
      own ++ inner.pending ++ ⟨[], document.registryDependencies⟩ ++ rest.pending

@[simp] theorem references_done : done.references = [] := rfl

@[simp] theorem references_followed (source : DocumentSource) (document : Document)
    (own : Pending) (inner rest : Trail) :
    (followed source document own inner rest).references =
      source.key :: (inner.references ++ rest.references) := by
  simp [references, readings]

/-- The trail goes through the entries in order where the documents before it have been seen. -/
inductive Follows : List String → List Dependency → Trail → Prop where
  | done {before : List String} : Follows before [] done
  | collected {before : List String} {entry : Dependency} {entries : List Dependency}
      {rest : Trail} (hentry : Document.linked? entry = none)
      (hrest : Follows before entries rest) :
      Follows before (entry :: entries) (collected entry rest)
  | seen {before : List String} {entry : Dependency} {entries : List Dependency}
      {source : DocumentSource} {rest : Trail} (hentry : Document.linked? entry = some source)
      (hseen : source.key ∈ before) (hrest : Follows before entries rest) :
      Follows before (entry :: entries) (seen source rest)
  | followed {before : List String} {entry : Dependency} {entries : List Dependency}
      {source : DocumentSource} {document : Document} {own : Pending} {inner rest : Trail}
      (hentry : Document.linked? entry = some source) (hnew : source.key ∉ before)
      (hinner : Follows (before ++ [source.key]) document.dependencies inner)
      (hrest : Follows (before ++ [source.key] ++ inner.references) entries rest) :
      Follows before (entry :: entries) (followed source document own inner rest)

namespace Follows

variable {before : List String} {entries : List Dependency} {trail other : Trail}

theorem references_new (hfollows : trail.Follows before entries) :
    trail.references.Nodup ∧ ∀ key ∈ trail.references, key ∉ before := by
  induction hfollows with
  | done => simp
  | collected _ _ ih => exact ih
  | seen _ _ _ ih => exact ih
  | @followed before _ _ source _ _ inner rest _ hnew _ _ ihInner ihRest =>
      obtain ⟨hinner, hinnerNew⟩ := ihInner
      obtain ⟨hrest, hrestNew⟩ := ihRest
      simp only [List.mem_append, List.mem_singleton, not_or] at hinnerNew hrestNew
      rw [references_followed]
      constructor
      · refine List.nodup_cons.mpr ⟨?_, hinner.append hrest ?_⟩
        · intro hmem
          rcases List.mem_append.mp hmem with hin | hafter
          · exact (hinnerNew _ hin).2 rfl
          · exact (hrestNew _ hafter).1.2 rfl
        · exact fun key hin hafter => (hrestNew key hafter).2 hin
      · intro key hkey
        rcases List.mem_cons.mp hkey with rfl | hkey
        · exact hnew
        · rcases List.mem_append.mp hkey with hin | hafter
          · exact (hinnerNew key hin).1
          · exact (hrestNew key hafter).1.1

/-- The references that are read are the first occurrences of those that are met. -/
theorem insertedAll_mentions (hfollows : trail.Follows before entries) :
    RunState.insertedAll trail.mentions before = before ++ trail.references := by
  induction hfollows with
  | done => simp [mentions, RunState.insertedAll]
  | collected _ _ ih => exact ih
  | @seen before _ _ source rest _ hseen _ ih =>
      have hhead : RunState.inserted source.key before = before := RunState.inserted_of_mem hseen
      calc RunState.insertedAll (source.key :: rest.mentions) before
          = RunState.insertedAll rest.mentions before :=
            congrArg (RunState.insertedAll rest.mentions) hhead
        _ = before ++ rest.references := ih
  | @followed before _ _ source document own inner rest _ hnew _ _ ihInner ihRest =>
      have hhead := RunState.inserted_of_notMem hnew
      calc RunState.insertedAll (source.key :: (inner.mentions ++ rest.mentions)) before
          = RunState.insertedAll (inner.mentions ++ rest.mentions) (before ++ [source.key]) :=
            congrArg (RunState.insertedAll _) hhead
        _ = before ++ [source.key] ++ inner.references ++ rest.references := by
            rw [RunState.insertedAll_append, ihInner, ihRest]
        _ = before ++ source.key :: (inner.references ++ rest.references) := by simp
        _ = before ++ (Trail.followed source document own inner rest).references := by
            rw [references_followed]

/-- There is no other trail through the entries, as long as the documents are the same. -/
theorem eq_of_readings {known : List (String × Document × Pending)}
    (hknown : (known.map Prod.fst).Nodup) (hfollows : trail.Follows before entries)
    (hother : other.Follows before entries) (hsubset : trail.readings ⊆ known)
    (hotherSubset : other.readings ⊆ known) : other = trail := by
  induction hfollows generalizing other with
  | done =>
      cases hother
      rfl
  | collected hentry _ ih =>
      cases hother with
      | collected _ hrest => rw [ih hrest hsubset hotherSubset]
      | seen hsource => simp [hentry] at hsource
      | followed hsource => simp [hentry] at hsource
  | seen hentry hseen _ ih =>
      cases hother with
      | collected hnone => simp [hentry] at hnone
      | seen hsource _ hrest =>
          obtain rfl := Option.some.inj (hentry.symm.trans hsource)
          rw [ih hrest hsubset hotherSubset]
      | followed hsource hnew =>
          obtain rfl := Option.some.inj (hentry.symm.trans hsource)
          exact absurd hseen hnew
  | @followed _ _ _ source document own inner rest hentry hnew _ _ ihInner ihRest =>
      cases hother with
      | collected hnone => simp [hentry] at hnone
      | seen hsource hseen =>
          obtain rfl := Option.some.inj (hentry.symm.trans hsource)
          exact absurd hseen hnew
      | @followed _ _ _ _ document' own' inner' rest' hsource _ hinner hrest =>
          obtain rfl := Option.some.inj (hentry.symm.trans hsource)
          simp only [readings, List.cons_subset, List.append_subset] at hsubset hotherSubset
          obtain ⟨hread, hinnerSubset, hrestSubset⟩ := hsubset
          obtain ⟨hread', hinnerSubset', hrestSubset'⟩ := hotherSubset
          have hsame := List.inj_on_of_nodup_map hknown hread hread' rfl
          obtain ⟨rfl, rfl⟩ : document = document' ∧ own = own' := by simpa using hsame
          obtain rfl := ihInner hinner hinnerSubset hinnerSubset'
          rw [ihRest hrest hrestSubset hrestSubset']

end Follows

variable [FileTree ω] {around : Surroundings} {base : Option Path}

/-- The run leaves the trail on its way from one state to the other. -/
inductive Runs (around : Surroundings) (base : Option Path) :
    Trail → RunState ω → RunState ω → Prop where
  | done {s : RunState ω} : Runs around base done s s
  | collected {s t : RunState ω} {entry : Dependency} {rest : Trail}
      (hrest : Runs around base rest { s with pending := s.pending ++ ⟨[entry], []⟩ } t) :
      Runs around base (collected entry rest) s t
  | seen {s t : RunState ω} {source : DocumentSource} {rest : Trail}
      (hrest : Runs around base rest s t) : Runs around base (seen source rest) s t
  | followed {s r u v t : RunState ω} {source : DocumentSource} {document : Document}
      {own : Pending} {inner rest : Trail}
      (hobtain : outcome (Document.obtain around.web source) (s.visit source.key) =
        (.ok document, r))
      (hjobs : outcome (Job.runAll around (Frame.root base document.definitions) document.jobs) r =
        (.ok (), u))
      (hown : u.pending = r.pending ++ own)
      (hinner : Runs around base inner u v)
      (hrest : Runs around base rest
        { v with pending := v.pending ++ ⟨[], document.registryDependencies⟩ } t) :
      Runs around base (followed source document own inner rest) s t

namespace Runs

variable {trail inner rest : Trail} {source : DocumentSource} {document : Document}
  {own : Pending} {s t u : RunState ω}

theorem visited (hruns : trail.Runs around base s t) :
    t.visited = RunState.insertedAll trail.references s.visited := by
  induction hruns with
  | done => rfl
  | collected _ ih => exact ih
  | seen _ ih => exact ih
  | @followed s r u v t source document own inner rest hobtain hjobs _ _ _ ihInner ihRest =>
      have hread : r.visited = RunState.inserted source.key s.visited :=
        ((Document.quiet_obtain around.web source).quietTo hobtain).visited
      have hcollects := Job.collectsTo_runAll around base document.definitions document.jobs r
      rw [hjobs] at hcollects
      calc t.visited
          = RunState.insertedAll rest.references
              (RunState.insertedAll inner.references u.visited) := by rw [ihRest, ihInner]
        _ = RunState.insertedAll (inner.references ++ rest.references)
              (RunState.inserted source.key s.visited) := by
            rw [hcollects.1, hread, RunState.insertedAll_append]
        _ = RunState.insertedAll (Trail.followed source document own inner rest).references
              s.visited := by rw [references_followed]; rfl

theorem pending (hruns : trail.Runs around base s t) :
    t.pending = s.pending ++ trail.pending := by
  induction hruns with
  | done => simp [Trail.pending]
  | collected _ ih => rw [ih, Trail.pending, Pending.append_assoc]
  | seen _ ih => exact ih
  | @followed s r u v t source document own inner rest hobtain _ hown _ _ ihInner ihRest =>
      have hread : r.pending = s.pending :=
        ((Document.quiet_obtain around.web source).quietTo hobtain).pending
      rw [ihRest, ihInner, hown, hread]
      simp only [Trail.pending, Pending.append_assoc]

theorem visited_of_follows
    (hruns : (Trail.followed source document own inner .done).Runs around base s t)
    (hinner : inner.Follows (RunState.inserted source.key s.visited) document.dependencies) :
    t.visited = RunState.inserted source.key s.visited ++ inner.references := by
  obtain ⟨hnodup, hnew⟩ := hinner.references_new
  have hvisited := hruns.visited
  rw [references_followed, references_done, List.append_nil] at hvisited
  calc t.visited
      = RunState.insertedAll inner.references (RunState.inserted source.key s.visited) := hvisited
    _ = RunState.inserted source.key s.visited ++ inner.references :=
        RunState.insertedAll_of_nodup hnodup hnew

/-- What comes after a document can be put behind its trail. -/
theorem followed_append
    (hfirst : (Trail.followed source document own inner .done).Runs around base s t)
    (hrest : rest.Runs around base t u) :
    (Trail.followed source document own inner rest).Runs around base s u := by
  cases hfirst with
  | followed hobtain hjobs hown hinner hdone =>
      cases hdone
      exact followed hobtain hjobs hown hinner hrest

end Runs
end Trail

namespace Document

variable [FileTree ω] {around : Surroundings} {base : Option Path} {s t : RunState ω}

/-- The trails of documents that are loaded make up the trail of the entries. -/
theorem followAll_trail {load : DocumentSource → Run ω Unit}
    (hload : ∀ source (s t : RunState ω), outcome (load source) (s.visit source.key) = (.ok (), t) →
      ∃ document own inner,
        inner.Follows (RunState.inserted source.key s.visited) document.dependencies ∧
        (Trail.followed source document own inner .done).Runs around base s t)
    {entries : List Dependency} (hfollow : outcome (followAll load entries) s = (.ok (), t)) :
    ∃ trail : Trail, trail.Follows s.visited entries ∧ trail.Runs around base s t := by
  induction entries generalizing s with
  | nil =>
      obtain ⟨-, rfl⟩ := Prod.mk.inj hfollow
      exact ⟨.done, .done, .done⟩
  | cons entry entries ih =>
      obtain ⟨⟨⟩, u, hentry, hentries⟩ := outcome_bind_eq_ok_iff.mp hfollow
      obtain ⟨rest, hrest, hrestRuns⟩ := ih hentries
      rcases hlinked : linked? entry with _ | source
      · simp only [follow, hlinked, outcome_modify] at hentry
        obtain ⟨-, rfl⟩ := Prod.mk.inj hentry
        refine ⟨.collected entry rest, .collected hlinked hrest, .collected ?_⟩
        simpa [Pending.append_def] using hrestRuns
      · simp only [follow, hlinked, outcome_get_bind] at hentry
        by_cases hseen : source.key ∈ s.visited
        · obtain rfl : s = u := by simpa [RunState.isVisited, hseen] using hentry
          exact ⟨.seen source rest, .seen hlinked hseen hrest, .seen hrestRuns⟩
        · have hloaded : outcome (load source) (s.visit source.key) = (.ok (), u) := by
            simpa [RunState.isVisited, hseen] using hentry
          obtain ⟨document, own, inner, hinner, hruns⟩ := hload source s u hloaded
          -- The rest goes on from all that the new document has led to.
          have hvisited := hruns.visited_of_follows hinner
          rw [RunState.inserted_of_notMem hseen] at hinner hvisited
          rw [hvisited] at hrest
          exact ⟨.followed source document own inner rest, .followed hlinked hseen hinner hrest,
            hruns.followed_append hrestRuns⟩

/-- A document that is loaded leaves a trail through its entries. -/
theorem load_trail {bound : Nat} {source : DocumentSource}
    (hload : outcome (load around base bound source) (s.visit source.key) = (.ok (), t)) :
    ∃ document own inner,
      inner.Follows (RunState.inserted source.key s.visited) document.dependencies ∧
      (Trail.followed source document own inner .done).Runs around base s t := by
  induction bound generalizing source s t with
  | zero => simp [load] at hload
  | succ bound ih =>
      rw [load] at hload
      obtain ⟨document, r, hobtain, hload⟩ := outcome_bind_eq_ok_iff.mp hload
      obtain ⟨⟨⟩, u, hjobs, hload⟩ := outcome_bind_eq_ok_iff.mp hload
      obtain ⟨⟨⟩, v, hfollow, hregistry⟩ := outcome_bind_eq_ok_iff.mp hload
      obtain ⟨-, rfl⟩ := Prod.mk.inj hregistry
      obtain ⟨inner, hfollows, hinner⟩ := followAll_trail (fun _ _ _ => ih) hfollow
      have hread : r.visited = RunState.inserted source.key s.visited :=
        ((quiet_obtain around.web source).quietTo hobtain).visited
      have hcollects := Job.collectsTo_runAll around base document.definitions document.jobs r
      rw [hjobs] at hcollects
      obtain ⟨hseen, own, hown⟩ := hcollects
      rw [hseen, hread] at hfollows
      refine ⟨document, own, inner, hfollows, .followed hobtain hjobs hown hinner ?_⟩
      rw [← Pending.addRegistry_eq]
      exact .done

/-- From a state in which the root has been noted as seen, the run has gone along the trail of the
root's document. -/
structure Traversed (around : Surroundings) (base : Option Path) (root : DocumentSource)
    (document : Document) (own : Pending) (inner : Trail) (s t : RunState ω) : Prop where
  runs : (Trail.followed root document own inner .done).Runs around base s t
  follows : inner.Follows s.visited document.dependencies
  /-- There is but one such trail through the documents that were read. -/
  only : ∀ other : Trail, other.Follows s.visited document.dependencies →
    other.readings ⊆ inner.readings → other = inner
  distinct : (root.key :: inner.references).Nodup
  visited : t.visited = s.visited ++ inner.references
  firstMet : t.visited = RunState.insertedAll inner.mentions s.visited
  pending : t.pending =
    s.pending ++ (own ++ inner.pending ++ ⟨[], document.registryDependencies⟩)

theorem traversed_of_load {bound : Nat} {root : DocumentSource} (hroot : root.key ∈ s.visited)
    (hload : outcome (load around base bound root) s = (.ok (), t)) :
    ∃ document own inner, Traversed around base root document own inner s t := by
  have hvisit : s.visit root.key = s := by
    rw [RunState.visit, RunState.inserted_of_mem hroot]
  rw [← hvisit] at hload
  obtain ⟨document, own, inner, hfollows, hruns⟩ := load_trail hload
  have hvisited := hruns.visited_of_follows hfollows
  rw [RunState.inserted_of_mem hroot] at hfollows hvisited
  obtain ⟨hnodup, hnew⟩ := hfollows.references_new
  refine ⟨document, own, inner, hruns, hfollows, ?_, ?_, hvisited, ?_, ?_⟩
  · intro other hother hsubset
    exact hfollows.eq_of_readings hnodup hother (List.Subset.refl _) hsubset
  · exact List.nodup_cons.mpr ⟨fun hmem => hnew _ hmem hroot, hnodup⟩
  · rw [hvisited, hfollows.insertedAll_mentions]
  · rw [hruns.pending, Trail.pending, Trail.pending, Pending.append_empty]

/-- A run that ends well has read its documents along a trail. -/
theorem loadRoot_traverses {extend : Option String} {text : String}
    (hload : outcome (loadRoot around extend text) s = (.ok (), t)) :
    ∃ base u document own inner,
      outcome (extendedBase extend) (s.visit (DocumentSource.parse text).key) = (.ok base, u) ∧
      u.visited = RunState.inserted (DocumentSource.parse text).key s.visited ∧
      u.pending = s.pending ∧
      Traversed around base (DocumentSource.parse text) document own inner u t := by
  rw [loadRoot, outcome_modify_bind] at hload
  obtain ⟨base, u, hbase, hload⟩ := outcome_bind_eq_ok_iff.mp hload
  have hquiet := (quiet_extendedBase extend).quietTo hbase
  have hroot : (DocumentSource.parse text).key ∈ u.visited := by
    rw [hquiet.visited]
    exact RunState.mem_inserted.mpr (Or.inr rfl)
  obtain ⟨document, own, inner, htraversed⟩ := traversed_of_load hroot hload
  exact ⟨base, u, document, own, inner, hbase, hquiet.visited, hquiet.pending, htraversed⟩

theorem parse_eq_ok_iff {text : String} {document : Document} :
    Document.parse text = .ok document ↔
      ∃ v, Json.parse text = .ok v ∧ ofJson v = .ok document := by
  rw [Document.parse]
  cases Json.parse text <;> simp

theorem outcome_obtain_remote {web : Web} {url body : String} {document : Document}
    (hfetch : web.fetch url = .ok body) (hparse : Document.parse body = .ok document)
    (s : RunState ω) :
    outcome (obtain web (.remote url)) s =
      (.ok document, s.noted (.fetch url) (.ok (.text body))) := by
  obtain ⟨v, hjson, hdocument⟩ := parse_eq_ok_iff.mp hparse
  have hpage : outcome (Service.fetch web url) s =
      (.ok body, s.noted (.fetch url) (.ok (.text body))) := by
    rw [Service.outcome_fetch, hfetch]
    rfl
  rw [obtain, outcome_bind_ok hpage]
  simp only [hjson, outcome_orFault, hdocument]
  rfl

theorem parse_of_obtain_remote {web : Web} {url : String} {document : Document}
    (hobtain : outcome (obtain web (.remote url)) s = (.ok document, t)) :
    ∃ body, web.fetch url = .ok body ∧ Document.parse body = .ok document := by
  rw [obtain] at hobtain
  obtain ⟨body, u, hfetch, hread⟩ := outcome_bind_eq_ok_iff.mp hobtain
  rw [Service.outcome_fetch] at hfetch
  refine ⟨body, (Prod.mk.inj hfetch).1, ?_⟩
  rcases hjson : Json.parse body with e | v
  · simp [hjson] at hread
  · simp only [hjson, outcome_orFault] at hread
    rcases hdocument : ofJson v with e | read
    · simp [hdocument, Except.mapError] at hread
    · rw [hdocument] at hread
      obtain rfl : read = document := Except.ok.inj (Prod.mk.inj hread).1
      exact parse_eq_ok_iff.mpr ⟨v, hjson, hdocument⟩

def firstText : String := "\x7b\"jobs\":[],\"dependencies\":[\"https://a.b/2\",\"x\"]\x7d"

def secondText : String :=
  "\x7b\"jobs\":[],\"dependencies\":[\"https://a.b/1\"],\"registryDependencies\":[\"r\"]\x7d"

/-- Two pages that depend on each other. -/
def ring : Web := ⟨[("https://a.b/1", .ok firstText), ("https://a.b/2", .ok secondText)]⟩

def ringPage (dependencies : List Dependency) (registryDependencies : List String) : Document where
  name := none
  title := none
  version := none
  description := none
  jobs := []
  dependencies := dependencies
  registryDependencies := registryDependencies
  definitions := []

def firstPage : Document := ringPage [.package "https://a.b/2", .package "x"] []

def secondPage : Document := ringPage [.package "https://a.b/1"] ["r"]

theorem parse_firstText : Document.parse firstText = .ok firstPage := by
  cbv

theorem parse_secondText : Document.parse secondText = .ok secondPage := by
  cbv

theorem obtain_first (s : RunState ω) :
    outcome (obtain ring (.remote "https://a.b/1")) s =
      (.ok firstPage, s.noted (.fetch "https://a.b/1") (.ok (.text firstText))) :=
  outcome_obtain_remote rfl parse_firstText s

theorem obtain_second (s : RunState ω) :
    outcome (obtain ring (.remote "https://a.b/2")) s =
      (.ok secondPage, s.noted (.fetch "https://a.b/2") (.ok (.text secondText))) :=
  outcome_obtain_remote rfl parse_secondText s

def ringStart : RunState MemoryFiles :=
  RunState.start (.withStore .empty) MemoryFiles.empty (.script [])

/-- Where the first page has been read, and the second one is known to be needed. -/
def ringRead : RunState MemoryFiles :=
  ((ringStart.visit "https://a.b/1").noted (.fetch "https://a.b/1")
    (.ok (.text firstText))).visit "https://a.b/2"

def ringEnd : RunState MemoryFiles :=
  { ringRead.noted (.fetch "https://a.b/2") (.ok (.text secondText)) with
    pending := ⟨[.package "x"], ["r"]⟩ }

theorem load_second :
    outcome (load ⟨ring, false⟩ none 10001 (.remote "https://a.b/2")) ringRead =
      (.ok (), { ringRead.noted (.fetch "https://a.b/2") (.ok (.text secondText)) with
        pending := ⟨[], ["r"]⟩ }) := by
  change outcome (load ⟨ring, false⟩ none (10000 + 1) (.remote "https://a.b/2")) ringRead = _
  rw [load, outcome_bind_ok (obtain_second ringRead)]
  rfl

theorem loadRoot_ring :
    outcome (loadRoot ⟨ring, false⟩ none "https://a.b/1") ringStart = (.ok (), ringEnd) := by
  let s : RunState MemoryFiles := ringStart.visit "https://a.b/1"
  have hroot : outcome (loadRoot ⟨ring, false⟩ none "https://a.b/1") ringStart =
      outcome (load ⟨ring, false⟩ none (10001 + 1) (.remote "https://a.b/1")) s := rfl
  let t := s.noted (.fetch "https://a.b/1") (.ok (.text firstText))
  have hjobs : outcome (Job.runAll ⟨ring, false⟩ (Frame.root none firstPage.definitions)
      firstPage.jobs) t = (.ok (), t) := rfl
  have hsecond : outcome (follow (load ⟨ring, false⟩ none 10001) (.package "https://a.b/2")) t =
      (.ok (), { ringRead.noted (.fetch "https://a.b/2") (.ok (.text secondText)) with
        pending := ⟨[], ["r"]⟩ }) := load_second
  have hfollow : outcome (followAll (load ⟨ring, false⟩ none 10001) firstPage.dependencies) t =
      (.ok (), ringEnd) := by
    simp only [firstPage, ringPage]
    rw [followAll, outcome_bind_ok hsecond]
    rfl
  rw [hroot, load, outcome_bind_ok (obtain_first _), outcome_bind_ok hjobs,
    outcome_bind_ok hfollow]
  rfl

theorem loadRoot_traverses_ring :
    outcome (loadRoot ⟨ring, false⟩ none "https://a.b/1") ringStart = (.ok (), ringEnd) ∧
      ∃ base u document own inner,
        outcome (extendedBase none) (ringStart.visit "https://a.b/1") = (.ok base, u) ∧
        u.visited = ["https://a.b/1"] ∧ u.pending = .empty ∧
        Traversed ⟨ring, false⟩ base (.remote "https://a.b/1") document own inner u ringEnd :=
  ⟨loadRoot_ring, loadRoot_traverses loadRoot_ring⟩

end Document
end Scaffold
