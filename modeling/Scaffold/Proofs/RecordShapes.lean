import Mathlib.Data.List.Nodup
import Scaffold.Json.Shape
import Scaffold.Proofs.ReadJobs

/-!
# What the checks of shapes accept

A value passes the check of a shape exactly when it fits the shape, and the fields of an object pass
the check of a record exactly when every field that the record describes fits and none that is
required is absent.
-/

namespace Scaffold

namespace Json

def IsText (v : Json) : Prop := ∃ s, v = .string s

def OrNull (ok : Json → Prop) (v : Json) : Prop := v = .null ∨ ok v

def ListOf (ok : Json → Prop) (v : Json) : Prop := ∃ items, v = .array items ∧ ∀ w ∈ items, ok w

def MapOf (ok : Json → Prop) (v : Json) : Prop :=
  ∃ entries, v = .object entries ∧ ∀ entry ∈ entries, ok entry.2

/-- One of the names, alone or as the only key of an object that maps it to null. -/
def ChoiceOf (names : List String) (v : Json) : Prop :=
  ∃ name ∈ names, v = .string name ∨ v = .object [(name, .null)]

def IsDependency (v : Json) : Prop := IsText v ∨ MapOf IsText v

namespace Shape

def Fits : Shape → Json → Prop
  | .anything => fun _ => True
  | .text => IsText
  | .list item => ListOf item.Fits
  | .map value => MapOf value.Fits
  | .choice names => ChoiceOf names
  | .dependency => IsDependency
  | .optional shape => OrNull shape.Fits

theorem firstMismatch_eq_ok_iff {α : Type} {check : α → Except Mismatch Unit} {xs : List α} :
    firstMismatch check xs = .ok () ↔ ∀ x ∈ xs, check x = .ok () := by
  induction xs with
  | nil => simp [firstMismatch]
  | cons x rest ih =>
      rw [firstMismatch, List.forall_mem_cons]
      cases hx : check x with
      | error e => simp
      | ok _ => simpa using ih

theorem isText_eq_true_iff {v : Json} : isText v = true ↔ IsText v := by
  cases v <;> simp [isText, IsText]

theorem checkText_eq_ok_iff {v : Json} : checkText v = .ok () ↔ IsText v := by
  cases v <;> simp [checkText, IsText]

theorem checkDependency_eq_ok_iff {v : Json} : checkDependency v = .ok () ↔ IsDependency v := by
  cases v with
  | object fields => simp [checkDependency, IsDependency, IsText, MapOf, isText_eq_true_iff]
  | null | bool _ | number _ | string _ | array _ =>
      simp [checkDependency, IsDependency, IsText, MapOf]

theorem checkChoice_eq_ok_iff {names : List String} {v : Json} :
    checkChoice names v = .ok () ↔ ChoiceOf names v := by
  unfold checkChoice
  split
  · next s => by_cases hs : s ∈ names <;> simp [ChoiceOf, hs]
  · next name content =>
      by_cases hname : name ∈ names <;> cases content <;> simp [ChoiceOf, hname]
  · next fields hfields =>
      have hsingle : ¬ChoiceOf names (.object fields) := by
        rintro ⟨name, -, h | h⟩
        · simp at h
        · exact hfields name .null (Json.object.inj h)
      simpa using hsingle
  · next hstring hsingle hobject =>
      have hnone : ¬ChoiceOf names v := by
        rintro ⟨name, -, rfl | rfl⟩
        · exact hstring name rfl
        · exact hsingle name .null rfl
      simpa using hnone

theorem check_eq_ok_iff {shape : Shape} {v : Json} : shape.check v = .ok () ↔ shape.Fits v := by
  induction shape generalizing v with
  | anything => simp [check, Fits]
  | text => rw [check, checkText_eq_ok_iff, Fits]
  | list item ih =>
      cases v with
      | array items => simp [check, firstMismatch_eq_ok_iff, ih, Fits, ListOf]
      | null | bool _ | number _ | string _ | object _ => simp [check, Fits, ListOf]
  | map value ih =>
      cases v with
      | object fields => simp [check, firstMismatch_eq_ok_iff, ih, Fits, MapOf]
      | null | bool _ | number _ | string _ | array _ => simp [check, Fits, MapOf]
  | choice names => rw [check, checkChoice_eq_ok_iff, Fits]
  | dependency => rw [check, checkDependency_eq_ok_iff, Fits]
  | optional shape ih =>
      cases v with
      | null => simp [check, Fits, OrNull]
      | bool _ | number _ | string _ | array _ | object _ => simp [check, ih, Fits, OrNull]

end Shape
end Json

namespace Fields

variable {name : String} {keys : List String} {fields : Fields} {ok : Json → Prop}

/-- Every field of that name is as it should be; in an object of distinct keys there is at most
one. -/
def Each (name : String) (ok : Json → Prop) (fields : Fields) : Prop :=
  ∀ v, (name, v) ∈ fields → ok v

structure Required (name : String) (ok : Json → Prop) (fields : Fields) : Prop where
  present : ∃ v, (name, v) ∈ fields
  each : fields.Each name ok

@[simp] theorem each_anything : fields.Each name (fun _ => True) ↔ True := by
  simp [Each]

theorem mem_of_get? {v : Json} (hget : get? name fields = some v) : (name, v) ∈ fields := by
  induction fields with
  | nil => simp [get?] at hget
  | cons field rest ih =>
      obtain ⟨key, w⟩ := field
      unfold get? at hget
      split at hget
      · next hkey =>
          obtain rfl := Option.some.inj hget
          simp [hkey]
      · exact List.mem_cons_of_mem _ (ih hget)

theorem get?_eq_none_iff : get? name fields = none ↔ ∀ v, (name, v) ∉ fields := by
  induction fields with
  | nil => simp [get?]
  | cons field rest ih =>
      obtain ⟨key, w⟩ := field
      by_cases hkey : key = name
      · simp only [get?, hkey, if_true, reduceCtorEq, false_iff, not_forall, not_not]
        exact ⟨w, List.mem_cons_self⟩
      · simp [get?, hkey, ih, Ne.symm hkey]

/-- Distinct keys leave one value to each name. -/
theorem mem_iff_get?_eq (hdistinct : (fields.map Prod.fst).Nodup) {v : Json} :
    (name, v) ∈ fields ↔ get? name fields = some v := by
  refine ⟨fun hmem => ?_, mem_of_get?⟩
  induction fields with
  | nil => cases hmem
  | cons field rest ih =>
      obtain ⟨key, w⟩ := field
      rw [List.map_cons, List.nodup_cons] at hdistinct
      rcases List.mem_cons.mp hmem with hfirst | hrest
      · obtain ⟨rfl, rfl⟩ := Prod.mk.inj hfirst
        exact if_pos rfl
      · have hother : key ≠ name := by
          rintro rfl
          exact hdistinct.1 (List.mem_map.mpr ⟨_, hrest, rfl⟩)
        rw [get?, if_neg hother]
        exact ih hdistinct.2 hrest

theorem mem_without {field : String × Json} :
    field ∈ without keys fields ↔ field ∈ fields ∧ field.1 ∉ keys := by
  simp [without]

theorem each_without (hname : name ∉ keys) :
    (without keys fields).Each name ok ↔ fields.Each name ok := by
  simp [Each, mem_without, hname]

theorem required_without (hname : name ∉ keys) :
    (without keys fields).Required name ok ↔ fields.Required name ok := by
  constructor
  · rintro ⟨⟨v, hv⟩, heach⟩
    exact ⟨⟨v, (mem_without.mp hv).1⟩, (each_without hname).mp heach⟩
  · rintro ⟨⟨v, hv⟩, heach⟩
    exact ⟨⟨v, mem_without.mpr ⟨hv, hname⟩⟩, (each_without hname).mpr heach⟩

theorem get?_without (hname : name ∉ keys) :
    get? name (without keys fields) = get? name fields := by
  induction fields with
  | nil => rfl
  | cons field rest ih =>
      obtain ⟨key, v⟩ := field
      by_cases hkey : key = name
      · subst hkey
        simp [without, get?, hname]
      · by_cases hin : key ∈ keys
        · have hdrop : without keys ((key, v) :: rest) = without keys rest := by
            simp [without, hin]
          rw [hdrop, ih, get?, if_neg hkey]
        · have hkeep : without keys ((key, v) :: rest) = (key, v) :: without keys rest := by
            simp [without, hin]
          rw [hkeep, get?, get?, if_neg hkey, if_neg hkey, ih]

end Fields

namespace Json

def FieldRule.Admits (rule : FieldRule) (fields : Fields) : Prop :=
  if rule.required then fields.Required rule.name rule.shape.Fits
  else fields.Each rule.name rule.shape.Fits

theorem FieldRule.admits_iff {rule : FieldRule} {fields : Fields} :
    rule.Admits fields ↔ fields.Each rule.name rule.shape.Fits ∧
      (rule.required = true → ∃ v, (rule.name, v) ∈ fields) := by
  unfold Admits
  split
  · next hrequired => exact ⟨fun h => ⟨h.each, fun _ => h.present⟩, fun h => ⟨h.2 hrequired, h.1⟩⟩
  · next hoptional => simp [hoptional]

namespace RecordRules

variable {rules : RecordRules} {fields : Fields}

/-- When each name is described once, the description found for a name is the only one. -/
theorem shapeOf?_eq_some_iff (hdistinct : (rules.map FieldRule.name).Nodup) {name : String}
    {shape : Shape} :
    rules.shapeOf? name = some shape ↔ ∃ rule ∈ rules, rule.name = name ∧ rule.shape = shape := by
  induction rules with
  | nil => simp [shapeOf?]
  | cons rule rest ih =>
      rw [List.map_cons, List.nodup_cons] at hdistinct
      by_cases hname : rule.name = name
      · have hothers : ∀ other ∈ rest, other.name ≠ name := by
          rintro other hother rfl
          exact hdistinct.1 (hname ▸ List.mem_map_of_mem hother)
        have hfound : shapeOf? (rule :: rest) name = some rule.shape := by
          simp [shapeOf?, hname]
        rw [hfound, Option.some.injEq]
        constructor
        · rintro rfl
          exact ⟨rule, List.mem_cons_self, hname, rfl⟩
        · rintro ⟨other, hother, hsame, rfl⟩
          rcases List.mem_cons.mp hother with rfl | hother
          · rfl
          · exact absurd hsame (hothers other hother)
      · have hfound : shapeOf? (rule :: rest) name = shapeOf? rest name := by
          simp [shapeOf?, hname]
        rw [hfound, ih hdistinct.2]
        simp [hname]

/-- The check of a record accepts what each of its rules admits. -/
theorem check_eq_ok_iff (hdistinct : (rules.map FieldRule.name).Nodup) :
    rules.check fields = .ok () ↔ ∀ rule ∈ rules, rule.Admits fields := by
  rw [check, Except.bind_eq_ok_iff]
  constructor
  -- A field is checked under the first rule of its name, and here that is the only one.
  · rintro ⟨⟨⟩, hfields, hrules⟩ rule hrule
    rw [Shape.firstMismatch_eq_ok_iff] at hfields hrules
    refine FieldRule.admits_iff.mpr ⟨fun v hv => ?_, fun hrequired => ?_⟩
    · have hshape := (shapeOf?_eq_some_iff hdistinct).mpr ⟨rule, hrule, rfl, rfl⟩
      have hchecked := hfields _ hv
      rw [hshape] at hchecked
      exact Shape.check_eq_ok_iff.mp hchecked
    · by_contra hnone
      have hget := Fields.get?_eq_none_iff.mpr (not_exists.mp hnone)
      simpa [hrequired, hget] using hrules rule hrule
  · intro hrules
    refine ⟨(), Shape.firstMismatch_eq_ok_iff.mpr fun field hfield => ?_,
      Shape.firstMismatch_eq_ok_iff.mpr fun rule hrule => ?_⟩
    · cases hshape : rules.shapeOf? field.1 with
      | none => rfl
      | some shape =>
          obtain ⟨rule, hrule, hname, rfl⟩ := (shapeOf?_eq_some_iff hdistinct).mp hshape
          have heach := (FieldRule.admits_iff.mp (hrules rule hrule)).1
          exact Shape.check_eq_ok_iff.mpr (heach field.2 (hname ▸ hfield))
    · cases hrequired : rule.required with
      | false => rfl
      | true =>
          obtain ⟨v, hv⟩ := (FieldRule.admits_iff.mp (hrules rule hrule)).2 hrequired
          have hget : Fields.get? rule.name fields ≠ none := fun hnone =>
            Fields.get?_eq_none_iff.mp hnone v hv
          simp [hget]

end RecordRules
end Json
end Scaffold
