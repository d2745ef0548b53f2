import Scaffold.Proofs.DocumentRoundTrip
import Scaffold.Proofs.ErrandTasks
import Scaffold.Proofs.Questions

/-!
# Chosen options

A question with options offers the choices that stand in its document.  What it stores is the key of
one of them or its default, which need not be among them.
-/

namespace Scaffold

open Run

namespace Answer

/-- What an answer may choose: a key that is among the choices, the default, or else the first
key. -/
inductive Chooses (choices : List (String × String)) (default : Option String) :
    Answer → String → Prop where
  | key {value : String} (hkey : value ∈ choices.map Prod.fst) :
      Chooses choices default (.select value) value
  | default {value : String} (hdefault : default = some value) :
      Chooses choices default .default value
  | first {value : String} (hnone : default = none)
      (hfirst : choices.head?.map Prod.fst = some value) : Chooses choices default .default value

variable {choices : List (String × String)} {default : Option String} {answer : Answer}
  {value : String}

theorem choiceOr_eq_ok_iff :
    answer.choiceOr choices default = .ok value ↔ answer.Chooses choices default value := by
  constructor
  · intro hchoice
    cases answer with
    | select key =>
        simp only [choiceOr] at hchoice
        split at hchoice
        next hany =>
          obtain rfl := Except.ok.inj hchoice
          exact .key (by simpa using hany)
        next => cases hchoice
    | default =>
        cases default with
        | some offered =>
            obtain rfl : offered = value := by simpa [choiceOr] using hchoice
            exact .default rfl
        | none =>
            cases choices with
            | nil => simp [choiceOr] at hchoice
            | cons choice rest =>
                obtain rfl : choice.1 = value := by simpa [choiceOr] using hchoice
                exact .first rfl rfl
    | text s | confirm yes => cases hchoice
  · rintro (hkey | rfl | ⟨rfl, hfirst⟩)
    · have hany : choices.any (fun choice => choice.1 == value) = true := by simpa using hkey
      simp [choiceOr, hany]
    · simp [choiceOr]
    · simp [choiceOr, hfirst]

theorem Chooses.mem_keys_or (hchooses : answer.Chooses choices default value) :
    value ∈ choices.map Prod.fst ∨ answer = .default ∧ default = some value := by
  cases hchooses with
  | key hkey => exact .inl hkey
  | default hdefault => exact .inr ⟨rfl, hdefault⟩
  | first _ hfirst =>
      obtain ⟨choice, hhead, rfl⟩ := Option.map_eq_some_iff.mp hfirst
      exact .inl (List.mem_map_of_mem (List.mem_of_head? hhead))

theorem forall_chooses_mem_keys_iff :
    (∀ answer value, Chooses choices default answer value → value ∈ choices.map Prod.fst) ↔
      ∀ value ∈ default, value ∈ choices.map Prod.fst := by
  constructor
  · intro hkeys value hdefault
    exact hkeys .default value (.default hdefault)
  · intro hdefault answer value hchooses
    rcases hchooses.mem_keys_or with hkey | ⟨-, hvalue⟩
    · exact hkey
    · exact hdefault value hvalue

theorem bind_choiceOr_eq_ok_iff {next : Except RunError Answer} :
    next.bind (choiceOr choices default) = .ok value ↔
      ∃ answer, next = .ok answer ∧ answer.Chooses choices default value := by
  cases next with
  | error e => simp [Except.bind]
  | ok answer => simp [Except.bind, choiceOr_eq_ok_iff]

end Answer

theorem Job.readInvariant_asks :
    ReadInvariant fun _ job =>
      job.Every (fun _ => True) fun gate task => task.Named gate ∧ task.Offers where
  task htask _ := ⟨trivial, named_of_readTask htask, offers_of_readTask htask⟩
  group hjobs _ := ⟨trivial, allEvery_iff.mpr hjobs⟩

theorem Document.asks_of_ofJson {v : Json} {d : Document} (hread : Document.ofJson v = .ok d) :
    d.Every (fun _ => True) fun gate task => task.Named gate ∧ task.Offers := by
  obtain ⟨hjobs, hdefinitions⟩ := Job.readInvariant_asks.of_document hread
  exact ⟨hjobs, hdefinitions⟩

variable {ω : Type}

theorem Job.vars_answerQuestion_of_options {id message : String} {default : Option String}
    {choices : List (String × String)} {s : RunState ω} (hundefined : ¬s.vars.HasId id) :
    (outcome (answerQuestion (some id) ⟨message, default, .options choices⟩) s).2.vars =
      match s.prompter.next.1.bind (Answer.choiceOr choices default) with
      | .ok value => s.vars.setId id value
      | .error _ => s.vars := by
  have hasked : outcome (askQuestion ⟨message, default, .options choices⟩) s = _ :=
    Service.outcome_prompt (.select message choices default) (Answer.choiceOr choices default) s
  rw [outcome_answerQuestion_of_not_hasId hundefined]
  rcases hchosen : s.prompter.next.1.bind (Answer.choiceOr choices default) with e | value
  · rw [hchosen] at hasked
    rw [outcome_bind_error hasked]
    rfl
  · rw [hchosen] at hasked
    rw [outcome_bind_ok hasked]
    rfl

variable [FileTree ω] {around : Surroundings}

namespace Moment

variable {m : Moment ω} {gate : Gate} {q : Question} {id : String}
  {message : String} {default : Option String} {choices : List (String × String)}

/-- The next step is that of the question, which has passed its gate. -/
def ComesTo (m : Moment ω) (gate : Gate) (q : Question) : Prop :=
  ∃ frame rest, m.agenda = .body frame (.task gate (.question q)) :: rest

theorem vars_next_of_comesTo (hcomes : m.ComesTo gate q) (hid : gate.id = some id) :
    (m.next around).state.vars = (outcome (Job.answerQuestion (some id) q) m.state).2.vars := by
  obtain ⟨frame, rest, hagenda⟩ := hcomes
  rw [next_of_question hagenda hid, state_resume]
  exact congrArg RunState.vars (outcome_return_snd _ _ _)

/-- The step of a question with options stores what the answer chooses, if the variable has no value
and there is an answer that chooses one; else the variables stay as they are. -/
theorem vars_next_of_options (around : Surroundings)
    (hcomes : m.ComesTo gate ⟨message, default, .options choices⟩)
    (hid : gate.id = some id) :
    ((m.next around).state.vars = m.state.vars ∨
      ¬m.state.vars.HasId id ∧ ∃ answer value, m.state.prompter.next.1 = .ok answer ∧
        answer.Chooses choices default value ∧
        (m.next around).state.vars = m.state.vars.setId id value) ∧
    (¬m.state.vars.HasId id → ∀ answer value, m.state.prompter.next.1 = .ok answer →
      answer.Chooses choices default value →
      (m.next around).state.vars = m.state.vars.setId id value) := by
  rw [vars_next_of_comesTo hcomes hid]
  by_cases hvalue : m.state.vars.HasId id
  · rw [Job.outcome_answerQuestion_of_hasId hvalue]
    exact ⟨.inl rfl, fun hundefined => absurd hvalue hundefined⟩
  · rw [Job.vars_answerQuestion_of_options hvalue]
    rcases hchosen : m.state.prompter.next.1.bind (Answer.choiceOr choices default) with e | value
    · refine ⟨.inl rfl, fun _ answer value hanswer hchooses => ?_⟩
      have hnone := hchosen.symm.trans
        (Answer.bind_choiceOr_eq_ok_iff.mpr ⟨answer, hanswer, hchooses⟩)
      cases hnone
    · obtain ⟨answer, hanswer, hchooses⟩ := Answer.bind_choiceOr_eq_ok_iff.mp hchosen
      refine ⟨.inr ⟨hvalue, answer, value, hanswer, hchooses, rfl⟩, ?_⟩
      intro _ other stored hother hstored
      have hsame := hchosen.symm.trans
        (Answer.bind_choiceOr_eq_ok_iff.mpr ⟨other, hother, hstored⟩)
      rw [Except.ok.inj hsame]

end Moment

/-- Wherever a run comes to a question with options, the question has an id and something to choose.
It stores what the answer chooses: a key, or a default that is taken as it is.  So what it can store
are the keys alone just when its default, if it has one, is one of them. -/
theorem Document.options_store_choices {m : Moment ω} {act : Run ω Unit}
    (hruns : m.RunsDocument around act) :
    m.EndsAs around act ∧
    ∀ steps gate message default choices,
      (m.after around steps).ComesTo gate ⟨message, default, .options choices⟩ →
      ∃ id, gate.id = some id ∧ choices ≠ [] ∧
        let s := (m.after around steps).state
        let t := (m.after around (steps + 1)).state
        (t.vars = s.vars ∨
          ¬s.vars.HasId id ∧ ∃ answer value, s.prompter.next.1 = .ok answer ∧
            answer.Chooses choices default value ∧ t.vars = s.vars.setId id value ∧
            (value ∈ choices.map Prod.fst ∨ answer = .default ∧ default = some value)) ∧
        (¬s.vars.HasId id → ∀ answer value, s.prompter.next.1 = .ok answer →
          answer.Chooses choices default value → t.vars = s.vars.setId id value) ∧
        ((∀ answer value, Answer.Chooses choices default answer value →
          value ∈ choices.map Prod.fst) ↔ ∀ value ∈ default, value ∈ choices.map Prod.fst) := by
  refine ⟨hruns.endsAs, fun steps gate message default choices hcomes => ?_⟩
  obtain ⟨frame, rest, hagenda⟩ := hcomes
  obtain ⟨⟨-, ⟨id, hid⟩, hsome⟩, -⟩ :=
    hruns.every_after (fun _ _ => asks_of_ofJson) steps _ (hagenda ▸ List.mem_cons_self)
  have hstep := Moment.vars_next_of_options around ⟨frame, rest, hagenda⟩ hid
  rw [← Moment.after_succ] at hstep
  have hchoices : choices ≠ [] := fun hnone => hsome (congrArg QuestionKind.options hnone)
  refine ⟨id, hid, hchoices, ?_, hstep.2, Answer.forall_chooses_mem_keys_iff⟩
  refine hstep.1.imp_right ?_
  rintro ⟨hundefined, answer, value, hanswer, hchooses, hvars⟩
  exact ⟨hundefined, answer, value, hanswer, hchooses, hvars, hchooses.mem_keys_or⟩

namespace Document

/-- A document whose only job lets one of the choices be picked, with the default `b`. -/
def pickJson (choices : List (String × String)) : Json :=
  .object
    [ ("jobs", .array
        [ .object
            [ ("type", .string "question"), ("id", .string "@pick"),
              ("question", .string "Which?"), ("questionType", .string "options"),
              ("options", .object (choices.map fun choice => (choice.1, .string choice.2))),
              ("defaultValue", .string "b") ] ]) ]

def pickGate : Gate := ⟨some "@pick", none, none⟩

def pick (choices : List (String × String)) : Document where
  name := none
  title := none
  version := none
  description := none
  jobs := [.task pickGate (.question ⟨"Which?", some "b", .options choices⟩)]
  dependencies := []
  registryDependencies := []
  definitions := []

def pickStart : RunState MemoryFiles :=
  RunState.start (.withStore .empty) MemoryFiles.empty (.script [.default])

theorem ofJson_pickJson_two :
    ofJson (pickJson [("a", "A"), ("b", "B")]) = .ok (pick [("a", "A"), ("b", "B")]) := by
  cbv

theorem ofJson_pickJson_one : ofJson (pickJson [("a", "A")]) = .ok (pick [("a", "A")]) := by
  cbv

theorem options_store_choices_default :
    let d := pick [("a", "A"), ("b", "B")]
    let m := Moment.start (d.jobs.map (.offer (Frame.root none d.definitions))) pickStart
    m.RunsDocument ⟨⟨[]⟩, false⟩ (Job.runAll ⟨⟨[]⟩, false⟩ (Frame.root none d.definitions) d.jobs) ∧
      (m.after ⟨⟨[]⟩, false⟩ 1).ComesTo pickGate
        ⟨"Which?", some "b", .options [("a", "A"), ("b", "B")]⟩ ∧
      (m.after ⟨⟨[]⟩, false⟩ 2).state.vars =
        (m.after ⟨⟨[]⟩, false⟩ 1).state.vars.setId "@pick" "b" := by
  intro d m
  have hruns : m.RunsDocument ⟨⟨[]⟩, false⟩
      (Job.runAll ⟨⟨[]⟩, false⟩ (Frame.root none d.definitions) d.jobs) :=
    .jobs ofJson_pickJson_two none pickStart
  have hcomes : (m.after ⟨⟨[]⟩, false⟩ 1).ComesTo pickGate
      ⟨"Which?", some "b", .options [("a", "A"), ("b", "B")]⟩ := ⟨_, _, rfl⟩
  obtain ⟨id, hid, -, -, hstores, -⟩ :=
    (options_store_choices hruns).2 1 pickGate "Which?" (some "b") _ hcomes
  obtain rfl : "@pick" = id := Option.some.inj hid
  refine ⟨hruns, hcomes, hstores ?_ .default "b" rfl (.default rfl)⟩
  unfold Variables.HasId
  decide +kernel

/-- A default that is not: it is stored all the same. -/
theorem options_store_stray_default :
    let d := pick [("a", "A")]
    ofJson (pickJson [("a", "A")]) = .ok d ∧
      let act := Job.runAll ⟨⟨[]⟩, false⟩ (Frame.root none d.definitions) d.jobs
      let after := outcome act pickStart
      after.1 = .ok () ∧ after.2.vars.get .store "pick" = some "b" ∧
        "b" ∉ [("a", "A")].map Prod.fst :=
  ⟨ofJson_pickJson_one, by decide +kernel⟩

end Document
end Scaffold
