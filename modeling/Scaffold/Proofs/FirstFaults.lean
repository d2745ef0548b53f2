import Scaffold.Proofs.DocumentSchema

/-!
# The first fault of a document

A document that is refused is refused for its first fault.  The faults of a job are ordered: those
of its own fields come first, then those of its children from the first to the last, and the rule
of its place last of all.  A site says where in this order a fault stands, and what comes after the
site has no say in the error.
-/

namespace Scaffold

open Json

/-! ## The error of a result -/

def fault? {ε α : Type} : Except ε α → Option ε
  | .ok _ => none
  | .error e => some e

section

variable {ε α β : Type} {r : Except ε α}

theorem fault?_eq_some_iff {e : ε} : fault? r = some e ↔ r = .error e := by
  cases r <;> simp [fault?]

theorem fault?_eq_none_iff : fault? r = none ↔ ∃ a, r = .ok a := by
  cases r <;> simp [fault?]

/-- When what follows has the same fault after every success, the faults come one after the
other. -/
theorem fault?_bind {next : α → Except ε β} {after : Option ε}
    (hafter : ∀ a, r = .ok a → fault? (next a) = after) :
    fault? (r >>= next) = (fault? r).or after := by
  cases r with
  | ok a => exact hafter a rfl
  | error e => rfl

/-- Two results of which neither depends on the other, put together. -/
theorem fault?_both {γ : Type} {t : Except ε β} {f : α → β → γ} :
    fault? (do let a ← r; let b ← t; return f a b) = (fault? r).or (fault? t) := by
  cases r <;> cases t <;> rfl

end

/-! ## The first item of a list -/

section

variable {α : Type} {good bad : α → Prop} {i j : Nat} {xs ys : List α}

/-- The item at that index is a bad one, and those before it are good. -/
def FirstAt (good bad : α → Prop) (i : Nat) (xs : List α) : Prop :=
  (∀ x ∈ xs.take i, good x) ∧ ∃ x, xs[i]? = some x ∧ bad x

/-- The lists are equal before that index and related at it; nothing is said of the items after
it, not even that there are as many. -/
def AlikeAt (rel : α → α → Prop) (i : Nat) (xs ys : List α) : Prop :=
  xs.take i = ys.take i ∧ ∃ x y, xs[i]? = some x ∧ ys[i]? = some y ∧ rel x y

theorem FirstAt.transport {bad' : α → Prop} {rel : α → α → Prop}
    (hfirst : FirstAt good bad i xs) (halike : AlikeAt rel i xs ys)
    (hrel : ∀ x y, rel x y → bad x → bad' y) : FirstAt good bad' i ys := by
  rcases hfirst with ⟨hgood, x, hx, hbad⟩
  rcases halike with ⟨htake, x', y, hx', hy, hxy⟩
  obtain rfl : x = x' := Option.some.inj (hx.symm.trans hx')
  exact ⟨htake ▸ hgood, y, hy, hrel x y hxy hbad⟩

theorem FirstAt.not_lt {bad' : α → Prop} (hfirst : FirstAt good bad i xs)
    (hother : FirstAt good bad' j xs) (hbad : ∀ x, bad x → ¬good x) : ¬i < j := by
  rcases hfirst with ⟨-, x, hx, hx'⟩
  intro hlt
  have hmem : x ∈ xs.take j := by
    have hget : (xs.take j)[i]? = some x := by rw [List.getElem?_take_of_lt hlt, hx]
    exact List.mem_of_getElem? hget
  exact hbad x hx' (hother.1 x hmem)

/-- Only one index is the first. -/
theorem FirstAt.unique {bad' : α → Prop} (hfirst : FirstAt good bad i xs)
    (hother : FirstAt good bad' j xs) (hbad : ∀ x, bad x → ¬good x)
    (hbad' : ∀ x, bad' x → ¬good x) : i = j ∧ ∃ x, bad x ∧ bad' x := by
  have hij := hfirst.not_lt hother hbad
  have hji := hother.not_lt hfirst hbad'
  obtain rfl : i = j := by omega
  rcases hfirst with ⟨-, x, hx, hx'⟩
  rcases hother with ⟨-, y, hy, hy'⟩
  obtain rfl : x = y := Option.some.inj (hx.symm.trans hy)
  exact ⟨rfl, x, hx', hy'⟩

theorem findSome?_eq_some_iff_firstAt {β : Type} {f : α → Option β} {b : β} :
    xs.findSome? f = some b ↔ ∃ i, FirstAt (f · = none) (f · = some b) i xs := by
  rw [List.findSome?_eq_some_iff]
  constructor
  · rintro ⟨before, x, after, rfl, hx, hbefore⟩
    refine ⟨before.length, ?_, x, by simp, hx⟩
    simpa using hbefore
  · rintro ⟨i, hbefore, x, hx, hfound⟩
    rcases List.getElem?_eq_some_iff.mp hx with ⟨hi, hget⟩
    refine ⟨xs.take i, x, xs.drop (i + 1), ?_, hfound, hbefore⟩
    rw [← hget, ← List.drop_eq_getElem_cons hi, List.take_append_drop]

end

/-! ## Records without one of their fields -/

theorem Json.Shape.firstMismatch_filter {α : Type} {check : α → Except Mismatch Unit}
    {keep : α → Bool} {xs : List α} (hdropped : ∀ x ∈ xs, keep x = false → check x = .ok ()) :
    firstMismatch check (xs.filter keep) = firstMismatch check xs := by
  induction xs with
  | nil => rfl
  | cons x rest ih =>
      have hrest := ih fun y hy => hdropped y (List.mem_cons_of_mem x hy)
      cases hkeep : keep x with
      | true => rw [List.filter_cons_of_pos hkeep, firstMismatch, firstMismatch, hrest]
      | false =>
          rw [List.filter_cons_of_neg (by simp [hkeep]), hrest, firstMismatch,
            hdropped x List.mem_cons_self hkeep]

theorem Json.Shape.firstMismatch_congr {α : Type} {check check' : α → Except Mismatch Unit}
    {xs : List α} (hsame : ∀ x ∈ xs, check x = check' x) :
    firstMismatch check xs = firstMismatch check' xs := by
  induction xs with
  | nil => rfl
  | cons x rest ih =>
      rw [firstMismatch, firstMismatch, hsame x List.mem_cons_self,
        ih fun y hy => hsame y (List.mem_cons_of_mem x hy)]

/-- A field that fits and is not required can be left out. -/
theorem Json.RecordRules.check_without {rules : RecordRules} {name : String} {fields : Fields}
    (hfits : ∀ shape, rules.shapeOf? name = some shape → fields.Each name shape.Fits)
    (hoptional : ∀ rule ∈ rules, rule.required = true → rule.name ≠ name) :
    rules.check (Fields.without [name] fields) = rules.check fields := by
  unfold check
  apply congrArg₂ Bind.bind
  · apply Shape.firstMismatch_filter
    rintro ⟨key, v⟩ hmem hkey
    obtain rfl : key = name := by simpa using hkey
    cases hshape : rules.shapeOf? key with
    | none => simp
    | some shape => simpa [hshape] using Shape.check_eq_ok_iff.mpr (hfits shape hshape v hmem)
  · funext _
    apply Shape.firstMismatch_congr
    intro rule hrule
    cases hrequired : rule.required with
    | false => rfl
    | true => rw [Fields.get?_without (by simpa using hoptional rule hrule hrequired)]

namespace Job

/-! ## The faults of a job -/

variable {position : Position} {fields others : Fields} {v w : Json} {e : DocumentError}

/-- What is wrong with the fields of the job itself, its children apart. -/
def ownFault? : Json → Option DocumentError
  | .object fields =>
      let id := Fields.text? "id" fields
      let body := Fields.without gateNames fields
      (fault? (conform none gateRules fields)).or
        (if typeOf fields = "group" then fault? (conform id groupRules body)
        else fault? (readTask (typeOf fields) id body))
  | v => some (faultOf none (.notObject v.kindName))

/-- Only groups have children. -/
def childrenOf : Json → List Json
  | .object fields => if typeOf fields = "group" then Fields.items "jobs" fields else []
  | _ => []

/-- The rule of the place, for a job of that id, guard and type. -/
def placeFault? (position : Position) (id when : Option String) (type : String) :
    Option DocumentError :=
  match position, when with
  | .definition, some _ => some (faultOf id .guardedDefinition)
  | .inList, none =>
      if type = "dependencies" ∨ type = "registryDependencies" then some (.missingGuard type)
      else none
  | _, _ => none

def ruleFault? (position : Position) : Json → Option DocumentError
  | .object fields =>
      placeFault? position (Fields.text? "id" fields) (Fields.text? "when" fields) (typeOf fields)
  | _ => none

theorem fault?_checkPosition {job : Job} :
    fault? (checkPosition position job) =
      placeFault? position job.gate.id job.gate.when job.typeName := by
  cases position with
  | definition => cases hwhen : job.gate.when <;> simp [checkPosition, hwhen, placeFault?, fault?]
  | inList =>
      cases hwhen : job.gate.when with
      | some guard => simp [checkPosition, hwhen, placeFault?, fault?]
      | none =>
          cases job with
          | group gate base jobs => simp_all [checkPosition, placeFault?, fault?, typeName]
          | task gate task =>
              cases task <;> simp_all [checkPosition, placeFault?, fault?, typeName]

theorem fault?_listOfJson {values : List Json} :
    fault? (listOfJson values) = values.findSome? fun v => fault? (ofJson .inList v) := by
  induction values with
  | nil => simp [listOfJson, fault?]
  | cons v rest ih =>
      rw [listOfJson, fault?_both, ih, List.findSome?_cons]
      cases fault? (ofJson .inList v) <;> rfl

theorem fault?_definitionsOfJson {fields : Fields} :
    fault? (definitionsOfJson fields) =
      fields.findSome? fun entry => fault? (ofJson .definition entry.2) := by
  induction fields with
  | nil => rfl
  | cons entry rest ih =>
      rw [definitionsOfJson, fault?_both, ih, List.findSome?_cons]
      cases fault? (ofJson .definition entry.2) <;> rfl

/-- The faults of a job in their order. -/
theorem fault?_ofJson :
    fault? (ofJson position v) = (ownFault? v).or
      (((childrenOf v).findSome? fun c => fault? (ofJson .inList c)).or
        (ruleFault? position v)) := by
  cases v with
  | object fields =>
      have hplaced : ∀ job : Job, job.gate.id = Fields.text? "id" fields →
          job.gate.when = Fields.text? "when" fields → job.typeName = typeOf fields →
          fault? (checkPosition position job) = ruleFault? position (.object fields) := by
        intro job hid hwhen htype
        rw [fault?_checkPosition, hid, hwhen, htype, ruleFault?]
      -- The gate comes first, and the place is asked about last for groups and tasks alike.
      rw [← fault?_listOfJson, ofJson, ownFault?, childrenOf, Option.or_assoc]
      refine fault?_bind fun _ _ => ?_
      dsimp only
      rw [← typeOf]
      split
      · next htype =>
          exact fault?_bind fun _ _ => fault?_bind fun jobs _ => hplaced _ rfl rfl htype.symm
      · next htype =>
          rw [listOfJson]
          exact fault?_bind fun task htask => hplaced _ rfl rfl (typeName_of_readTask htask)
  | null | bool _ | number _ | string _ | array _ => simp [ofJson, ownFault?, fault?]

theorem conforms_iff_fault? : Conforms position v ↔ fault? (ofJson position v) = none :=
  exists_ofJson_iff.symm.trans fault?_eq_none_iff.symm

theorem findSome?_fault?_eq_none_iff {α : Type} {jobOf : α → Json} {xs : List α} :
    (xs.findSome? fun x => fault? (ofJson position (jobOf x))) = none ↔
      ∀ x ∈ xs, Conforms position (jobOf x) := by
  rw [List.findSome?_eq_none_iff]
  exact forall₂_congr fun _ _ => conforms_iff_fault?.symm

theorem sizeOf_lt_of_child {c : Json} (hc : c ∈ childrenOf v) : sizeOf c < sizeOf v := by
  cases v with
  | object fields =>
      rw [childrenOf] at hc
      split at hc
      · exact Nat.lt_trans (List.sizeOf_lt_of_mem hc) (sizeOf_items_lt "jobs" fields)
      · cases hc
  | null | bool _ | number _ | string _ | array _ => cases hc

/-! ## Where the first fault stands -/

/-- In the job itself, in the rule of its place, or in the child of that index. -/
inductive Site where
  | own
  | rule
  | child (i : Nat) (site : Site)

/-- The first fault of the job stands at that site: nothing is wrong before it. -/
def FirstFault : Site → Position → Json → DocumentError → Prop
  | .own, _, v, e => ownFault? v = some e
  | .child i site, _, v, e =>
      ownFault? v = none ∧
        FirstAt (Conforms .inList) (fun c => FirstFault site .inList c e) i (childrenOf v)
  | .rule, position, v, e =>
      ownFault? v = none ∧ (∀ c ∈ childrenOf v, Conforms .inList c) ∧
        ruleFault? position v = some e

/-- The reader reports the fault of the site. -/
theorem FirstFault.fault?_eq {site : Site} (hfirst : FirstFault site position v e) :
    fault? (ofJson position v) = some e := by
  induction site generalizing position v with
  | own =>
      rw [fault?_ofJson, hfirst]
      rfl
  | rule =>
      rcases hfirst with ⟨hown, hchildren, hrule⟩
      rw [fault?_ofJson, hown, findSome?_fault?_eq_none_iff.mpr hchildren, hrule]
      rfl
  | child i site ih =>
      rcases hfirst with ⟨hown, hbefore, c, hc, hinner⟩
      have hsome : ((childrenOf v).findSome? fun c => fault? (ofJson .inList c)) = some e :=
        findSome?_eq_some_iff_firstAt.mpr
          ⟨i, fun c hc => conforms_iff_fault?.mp (hbefore c hc), c, hc, ih hinner⟩
      rw [fault?_ofJson, hown, hsome]
      rfl

theorem FirstFault.not_conforms {site : Site} (hfirst : FirstFault site position v e) :
    ¬Conforms position v := by
  rw [conforms_iff_fault?, hfirst.fault?_eq]
  exact Option.some_ne_none e

/-- Every fault that the reader reports stands at a site. -/
theorem exists_firstFault {position : Position} {v : Json}
    (hfault : fault? (ofJson position v) = some e) : ∃ site, FirstFault site position v e := by
  rw [fault?_ofJson, Option.or_eq_some_iff, Option.or_eq_some_iff,
    findSome?_fault?_eq_none_iff] at hfault
  rcases hfault with hown | ⟨hown, hchild | ⟨hchildren, hrule⟩⟩
  · exact ⟨.own, hown⟩
  · rcases findSome?_eq_some_iff_firstAt.mp hchild with ⟨i, hbefore, c, hc, hfault⟩
    rcases exists_firstFault hfault with ⟨site, hsite⟩
    exact ⟨.child i site, hown, fun c hc => conforms_iff_fault?.mpr (hbefore c hc), c, hc, hsite⟩
  · exact ⟨.rule, hown, hchildren, hrule⟩
termination_by sizeOf v
decreasing_by exact sizeOf_lt_of_child (List.mem_of_getElem? hc)

/-- The first fault among jobs that are read one after the other is that of the first job that does
not conform. -/
theorem findSome?_fault?_eq_some_iff {α : Type} {jobOf : α → Json} {xs : List α} :
    (xs.findSome? fun x => fault? (ofJson position (jobOf x))) = some e ↔
      ∃ i site, FirstAt (fun x => Conforms position (jobOf x))
        (fun x => FirstFault site position (jobOf x) e) i xs := by
  rw [findSome?_eq_some_iff_firstAt]
  constructor
  · rintro ⟨i, hbefore, x, hx, hfault⟩
    rcases exists_firstFault hfault with ⟨site, hsite⟩
    exact ⟨i, site, fun y hy => conforms_iff_fault?.mpr (hbefore y hy), x, hx, hsite⟩
  · rintro ⟨i, site, hbefore, x, hx, hsite⟩
    exact ⟨i, fun y hy => conforms_iff_fault?.mp (hbefore y hy), x, hx, hsite.fault?_eq⟩

/-- A job has one first fault. -/
theorem FirstFault.unique {site site' : Site} {e' : DocumentError}
    (hfirst : FirstFault site position v e) (hother : FirstFault site' position v e') :
    site = site' ∧ e = e' := by
  have herror : e = e' := Option.some.inj (hfirst.fault?_eq.symm.trans hother.fault?_eq)
  refine ⟨?_, herror⟩
  -- Induction on the one site: the other cannot stand before it nor after it.
  induction site generalizing site' position v with
  | own =>
      cases site' with
      | own => rfl
      | rule | child _ _ => exact absurd (hfirst.symm.trans hother.1) (Option.some_ne_none e)
  | rule =>
      rcases hfirst with ⟨hown, hconform, -⟩
      cases site' with
      | own => exact absurd (hother.symm.trans hown) (Option.some_ne_none e')
      | rule => rfl
      | child j inner =>
          rcases hother with ⟨-, -, c, hc, hinner⟩
          exact absurd (hconform c (List.mem_of_getElem? hc)) hinner.not_conforms
  | child i site ih =>
      rcases hfirst with ⟨hown, hchild⟩
      cases site' with
      | own => exact absurd (hother.symm.trans hown) (Option.some_ne_none e')
      | rule =>
          rcases hchild with ⟨-, c, hc, hinner⟩
          exact absurd (hother.2.1 c (List.mem_of_getElem? hc)) hinner.not_conforms
      | child j inner =>
          rcases hchild.unique hother.2 (fun _ h => h.not_conforms) (fun _ h => h.not_conforms)
            with ⟨rfl, c, hc, hc'⟩
          rw [ih hc hc']

/-! ## What comes after the first fault -/

/-- Two groups that differ at most in their children. -/
inductive SameGroup : Json → Json → Prop where
  | mk {fields others : Fields} (htype : typeOf fields = "group")
      (hlist : fields.Each "jobs" (ListOf fun _ => True))
      (hother : others.Each "jobs" (ListOf fun _ => True))
      (hsame : Fields.without ["jobs"] fields = Fields.without ["jobs"] others) :
      SameGroup (.object fields) (.object others)

/-- The jobs differ at most in what comes after that site. -/
def AlikeUpTo : Site → Json → Json → Prop
  | .own, v, w => v = w ∨ SameGroup v w
  | .child i site, v, w =>
      SameGroup v w ∧ AlikeAt (AlikeUpTo site) i (childrenOf v) (childrenOf w)
  | .rule, v, w => v = w

theorem typeOf_without : typeOf (Fields.without ["jobs"] fields) = typeOf fields := by
  rw [typeOf, typeOf, Fields.text?, Fields.text?, Fields.get?_without (by decide)]

/-- The children of a group are no field of its own. -/
theorem ownFault?_without (htype : typeOf fields = "group")
    (hlist : fields.Each "jobs" (ListOf fun _ => True)) :
    ownFault? (.object (Fields.without ["jobs"] fields)) = ownFault? (.object fields) := by
  have hgate : conform none gateRules (Fields.without ["jobs"] fields) =
      conform none gateRules fields := by
    rw [conform, conform, RecordRules.check_without]
    · intro shape hshape
      cases hshape
    · decide
  have hbody : ∀ id,
      conform id groupRules (Fields.without gateNames (Fields.without ["jobs"] fields)) =
        conform id groupRules (Fields.without gateNames fields) := by
    intro id
    have hcomm : Fields.without gateNames (Fields.without ["jobs"] fields) =
        Fields.without ["jobs"] (Fields.without gateNames fields) := List.filter_comm ..
    rw [hcomm, conform, conform, RecordRules.check_without]
    · intro shape hshape
      obtain rfl : Shape.list .anything = shape := Option.some.inj hshape
      exact (Fields.each_without (by decide)).mpr hlist
    · decide
  have hid : Fields.text? "id" (Fields.without ["jobs"] fields) = Fields.text? "id" fields := by
    rw [Fields.text?, Fields.text?, Fields.get?_without (by decide)]
  simp only [ownFault?, typeOf_without, htype, if_true, hgate, hbody, hid]

theorem SameGroup.ownFault?_eq (hsame : SameGroup v w) : ownFault? v = ownFault? w := by
  cases hsame with
  | @mk fields others htype hlist hother hsame =>
      have htype' : typeOf others = "group" := by
        rw [← typeOf_without, ← hsame, typeOf_without, htype]
      rw [← ownFault?_without htype hlist, hsame, ownFault?_without htype' hother]

/-- What comes after the first fault can be changed at will. -/
theorem FirstFault.transport {site : Site} (hfirst : FirstFault site position v e)
    (halike : AlikeUpTo site v w) : FirstFault site position w e := by
  induction site generalizing position v w with
  | own =>
      rcases halike with rfl | hsame
      · exact hfirst
      · exact hsame.ownFault?_eq.symm.trans hfirst
  | rule =>
      obtain rfl : v = w := halike
      exact hfirst
  | child i site ih =>
      rcases halike with ⟨hsame, hchildren⟩
      rcases hfirst with ⟨hown, hchild⟩
      exact ⟨hsame.ownFault?_eq.symm.trans hown,
        hchild.transport hchildren fun c d halike hc => ih hc halike⟩

end Job

namespace Document

/-! ## Documents -/

variable {fields others : Fields} {e : DocumentError}

/-- In the job of that index or in the definition of that index. -/
inductive Site where
  | job (i : Nat) (site : Job.Site)
  | definition (i : Nat) (site : Job.Site)

/-- The jobs come before the definitions. -/
def FirstFault : Site → Fields → DocumentError → Prop
  | .job i site, fields, e =>
      FirstAt (Job.Conforms .inList) (fun v => Job.FirstFault site .inList v e) i
        (Fields.items "jobs" fields)
  | .definition i site, fields, e =>
      (∀ v ∈ Fields.items "jobs" fields, Job.Conforms .inList v) ∧
        FirstAt (fun entry => Job.Conforms .definition entry.2)
          (fun entry => Job.FirstFault site .definition entry.2 e) i
          (Fields.entries "definitions" fields)

/-- The documents differ at most in what comes after that site. -/
def AlikeUpTo : Site → Fields → Fields → Prop
  | .job i site, fields, others =>
      AlikeAt (Job.AlikeUpTo site) i (Fields.items "jobs" fields) (Fields.items "jobs" others)
  | .definition i site, fields, others =>
      Fields.items "jobs" fields = Fields.items "jobs" others ∧
        AlikeAt (fun entry other => Job.AlikeUpTo site entry.2 other.2) i
          (Fields.entries "definitions" fields) (Fields.entries "definitions" others)

theorem fault?_ofJson (hrecord : RecordConforms fields) :
    fault? (ofJson (.object fields)) =
      ((Fields.items "jobs" fields).findSome? fun v => fault? (Job.ofJson .inList v)).or
        ((Fields.entries "definitions" fields).findSome? fun entry =>
          fault? (Job.ofJson .definition entry.2)) := by
  have hcheck := check_rules_iff.mpr hrecord
  rw [ofJson, hcheck, ← Job.fault?_listOfJson, ← Job.fault?_definitionsOfJson]
  exact fault?_both

/-- The reader reports the first fault. -/
theorem fault?_eq_some_iff_firstFault (hrecord : RecordConforms fields) :
    fault? (ofJson (.object fields)) = some e ↔ ∃ site, FirstFault site fields e := by
  rw [fault?_ofJson hrecord, Option.or_eq_some_iff, Job.findSome?_fault?_eq_some_iff,
    Job.findSome?_fault?_eq_none_iff, Job.findSome?_fault?_eq_some_iff]
  constructor
  · rintro (⟨i, site, hjob⟩ | ⟨hjobs, i, site, hdefinition⟩)
    · exact ⟨.job i site, hjob⟩
    · exact ⟨.definition i site, hjobs, hdefinition⟩
  · rintro ⟨⟨i, site⟩ | ⟨i, site⟩, hfirst⟩
    · exact .inl ⟨i, site, hfirst⟩
    · exact .inr ⟨hfirst.1, i, site, hfirst.2⟩

theorem FirstFault.unique {site site' : Site} {e' : DocumentError}
    (hfirst : FirstFault site fields e) (hother : FirstFault site' fields e') :
    site = site' ∧ e = e' := by
  cases site with
  | job i inner =>
      cases site' with
      | job j inner' =>
          rcases FirstAt.unique hfirst hother (fun _ h => h.not_conforms)
            (fun _ h => h.not_conforms) with ⟨rfl, v, hv, hv'⟩
          rcases hv.unique hv' with ⟨rfl, rfl⟩
          exact ⟨rfl, rfl⟩
      | definition j inner' =>
          rcases hfirst with ⟨-, v, hv, hfault⟩
          exact absurd (hother.1 v (List.mem_of_getElem? hv)) hfault.not_conforms
  | definition i inner =>
      cases site' with
      | job j inner' =>
          rcases hother with ⟨-, v, hv, hfault⟩
          exact absurd (hfirst.1 v (List.mem_of_getElem? hv)) hfault.not_conforms
      | definition j inner' =>
          rcases hfirst.2.unique hother.2 (fun _ h => h.not_conforms)
            (fun _ h => h.not_conforms) with ⟨rfl, v, hv, hv'⟩
          rcases hv.unique hv' with ⟨rfl, rfl⟩
          exact ⟨rfl, rfl⟩

theorem FirstFault.transport {site : Site} (hfirst : FirstFault site fields e)
    (halike : AlikeUpTo site fields others) : FirstFault site others e := by
  cases site with
  | job i site => exact FirstAt.transport hfirst halike fun v w hvw hv => hv.transport hvw
  | definition i site =>
      rcases hfirst with ⟨hjobs, hdefinition⟩
      rcases halike with ⟨hsame, hdefinitions⟩
      exact ⟨hsame ▸ hjobs,
        hdefinition.transport hdefinitions fun entry other hsame hentry => hentry.transport hsame⟩

/-- The reader refuses an object of the right shapes exactly when some fault is the first, and the
error is that of this fault.  There is only one first fault, and no change of the jobs, children
and definitions that come after it changes the error. -/
theorem first_fault_decides (hrecord : RecordConforms fields) :
    (∀ e, ofJson (.object fields) = .error e ↔ ∃ site, FirstFault site fields e) ∧
      (∀ site site' e e', FirstFault site fields e → FirstFault site' fields e' →
        site = site' ∧ e = e') ∧
      ∀ site e others, FirstFault site fields e → RecordConforms others →
        AlikeUpTo site fields others → ofJson (.object others) = .error e := by
  have hreports : ∀ {fields : Fields}, RecordConforms fields →
      ∀ e, ofJson (.object fields) = .error e ↔ ∃ site, FirstFault site fields e := by
    intro fields hrecord e
    rw [← fault?_eq_some_iff, fault?_eq_some_iff_firstFault hrecord]
  refine ⟨hreports hrecord, fun _ _ _ _ hfirst hother => hfirst.unique hother, ?_⟩
  intro site e others hfirst hothers halike
  exact (hreports hothers e).mpr ⟨site, hfirst.transport halike⟩

def unknownJob : Json := .object [("type", .string "unknown")]

/-- A job that is read, and a definition that may not have a guard. -/
def guardedDefinition (children : List Json) (later : Fields) : Fields :=
  [("jobs", .array [.object [("name", .string "a"), ("content", .string "")]]),
    ("definitions", .object (("build", .object [("type", .string "group"),
      ("when", .string "#x"), ("jobs", .array children)]) :: later))]

/-- The child of an unknown type comes before the guard of its group, and hides what comes after
it. -/
theorem first_fault_decides_child :
    RecordConforms (guardedDefinition [unknownJob, .null] []) ∧
      ofJson (.object (guardedDefinition [unknownJob, .null] [])) =
        .error (.unknownJobType "unknown") ∧
      ofJson (.object (guardedDefinition [unknownJob] [("later", .null)])) =
        .error (.unknownJobType "unknown") := by
  have hjobs : ∀ v ∈ [Json.object [("name", .string "a"), ("content", .string "")]],
      Job.Conforms .inList v := by
    intro v hv
    obtain rfl := List.mem_singleton.mp hv
    refine .task (Job.conform_gateRules_iff.mp rfl)
      (Job.exists_readTask_iff.mp ⟨.file ⟨"a", .overwrite ""⟩, rfl⟩) ?_
    exact fun htype => absurd htype (by decide)
  have hfirst : FirstFault (.definition 0 (.child 0 .own))
      (guardedDefinition [unknownJob, .null] []) (.unknownJobType "unknown") :=
    ⟨hjobs, by simp, _, rfl, rfl, by simp, _, rfl, rfl⟩
  have hlist : ∀ children, Fields.Each "jobs" (ListOf fun _ => True)
      [("type", .string "group"), ("when", .string "#x"), ("jobs", .array children)] := by
    simp [Fields.Each, ListOf]
  have halike : AlikeUpTo (.definition 0 (.child 0 .own))
      (guardedDefinition [unknownJob, .null] [])
      (guardedDefinition [unknownJob] [("later", .null)]) :=
    ⟨rfl, rfl, _, _, rfl, rfl, .mk rfl (hlist _) (hlist _) rfl, rfl, unknownJob, unknownJob, rfl,
      rfl, .inl rfl⟩
  have hrecord : RecordConforms (guardedDefinition [unknownJob, .null] []) :=
    check_rules_iff.mp rfl
  rcases first_fault_decides hrecord with ⟨hreports, -, hlater⟩
  exact ⟨hrecord, (hreports _).mpr ⟨_, hfirst⟩,
    hlater _ _ _ hfirst (check_rules_iff.mp rfl) halike⟩

end Document
end Scaffold
