import Scaffold.Json.Printer
import Scaffold.Proofs.Pieces
import Scaffold.Proofs.TableLaws

/-!
# What an update of a table changes

A text that is set changes one field at each level of its path.  A field that is there keeps its
place and a new one comes last; the fields beside it, with all that lies in them, are as they were.
-/

namespace Scaffold

namespace Fields

variable {key : String} {value : Json} {fields : Fields}

/-- The fields with one of them set: it stands in the place of an earlier one, or last. -/
inductive Sets (key : String) (value : Json) : Fields → Fields → Prop where
  | replaced (front : Fields) (old : Json) (back : Fields) (hnew : key ∉ front.map Prod.fst) :
      Sets key value (front ++ (key, old) :: back) (front ++ (key, value) :: back)
  | added (fields : Fields) (hnew : key ∉ fields.map Prod.fst) :
      Sets key value fields (fields ++ [(key, value)])

theorem Sets.cons {first : String × Json} {after : Fields} (hsets : Sets key value fields after)
    (hfirst : first.1 ≠ key) : Sets key value (first :: fields) (first :: after) := by
  cases hsets with
  | replaced front old back hnew =>
      exact .replaced (first :: front) old back (by simpa [hfirst.symm] using hnew)
  | added _ hnew => exact .added (first :: fields) (by simpa [hfirst.symm] using hnew)

theorem sets_insert (key : String) (value : Json) (fields : Fields) :
    Sets key value fields (insert key value fields) := by
  induction fields with
  | nil => exact .added [] (by simp)
  | cons field rest ih =>
      obtain ⟨name, old⟩ := field
      by_cases hname : name = key
      · subst hname
        rw [insert, if_pos rfl]
        exact .replaced [] old rest (by simp)
      · rw [insert, if_neg hname]
        exact ih.cons hname

end Fields

namespace VariableTable

variable {fields : Fields} {front more path : List String} {value : String}

/-- The fields of the object at the path; anything else has none. -/
def fieldsAt : List String → Fields → Fields
  | [], fields => fields
  | segment :: rest, fields => fieldsAt rest (innerFields (Fields.get? segment fields))

theorem fieldsAt_concat (front : List String) (segment : String) (fields : Fields) :
    fieldsAt (front ++ [segment]) fields =
      innerFields (Fields.get? segment (fieldsAt front fields)) := by
  induction front generalizing fields with
  | nil => rfl
  | cons first rest ih => exact ih _

theorem fieldsAt_eq_innerFields (hpath : path ≠ []) :
    fieldsAt path fields = innerFields (lookup path fields) := by
  induction path generalizing fields with
  | nil => exact absurd rfl hpath
  | cons segment rest ih =>
      by_cases hrest : rest = []
      · subst hrest
        rfl
      · rw [fieldsAt, ih hrest, lookup_cons hrest]

/-- Where the path goes on, its rest is assigned to what is there. -/
theorem fieldsAt_assign (hmore : more ≠ []) :
    fieldsAt front (assign value (front ++ more) fields) =
      assign value more (fieldsAt front fields) := by
  induction front generalizing fields with
  | nil => rfl
  | cons segment rest ih =>
      rw [List.cons_append, assign_cons (by simp [hmore]), fieldsAt, Fields.get?_insert_self]
      exact ih

theorem lookup_assign_above_eq (hpath : path ≠ []) (hmore : more ≠ []) :
    lookup path (assign value (path ++ more) fields) =
      some (.object (fieldsAt path (assign value (path ++ more) fields))) := by
  rw [fieldsAt_assign hmore, lookup_assign_above hpath hmore, fieldsAt_eq_innerFields hpath]

theorem lookup_assign_below (hpath : path ≠ []) (hmore : more ≠ []) :
    lookup (path ++ more) (assign value path fields) = none := by
  rw [lookup_append hpath hmore, lookup_assign_self hpath]
  exact lookup_no_fields more

/-- At each level of the path one field is set, and to what the next level has become. -/
theorem sets_assign (front : List String) (segment : String) (back : List String) :
    Fields.Sets segment
      (if back = [] then .string value
        else .object (fieldsAt (front ++ [segment])
          (assign value (front ++ segment :: back) fields)))
      (fieldsAt front fields)
      (fieldsAt front (assign value (front ++ segment :: back) fields)) := by
  rw [fieldsAt_assign (by simp)]
  split
  next hback =>
    subst hback
    exact Fields.sets_insert _ _ _
  next hback =>
    have hnext : fieldsAt (front ++ [segment]) (assign value (front ++ segment :: back) fields) =
        assign value back (fieldsAt (front ++ [segment]) fields) := by
      rw [← fieldsAt_assign hback, List.append_assoc, List.singleton_append]
    rw [hnext, assign_cons hback, fieldsAt_concat]
    exact Fields.sets_insert _ _ _

theorem segments_injective : segments.Injective := by
  intro first second heq
  have hletters := List.map_injective_iff.mpr (fun _ _ => String.ofList_injective) heq
  exact String.toList_injective (Text.pieces_injective '.' hletters)

theorem IsAbove.exists_append {path key : String} (habove : IsAbove path key) :
    ∃ more ≠ [], segments key = segments path ++ more := by
  obtain ⟨⟨more, hmore⟩, hne⟩ := habove
  refine ⟨more, ?_, hmore.symm⟩
  rintro rfl
  exact hne (by simpa using hmore)

/-- What an update of a table does: the text is read back at the path, nothing lies below the path,
objects lie above it, and every other path has the value it had.  At each level the one field on the
path is set, in its place or as the last, and all other fields stay. -/
theorem set_updates (table : VariableTable) (path value : String) :
    (table.set path value).get path = some value ∧
    (∀ other, IsAbove path other → (table.set path value).get other = none) ∧
    (∀ other, IsAbove other path → (table.set path value).get other =
      some (Json.object (fieldsAt (segments other) (table.set path value).fields)).compact) ∧
    (∀ other, other ≠ path → ¬IsAbove path other → ¬IsAbove other path →
      (table.set path value).get other = table.get other) ∧
    ∀ front segment back, segments path = front ++ segment :: back →
      Fields.Sets segment
        (if back = [] then .string value
          else .object (fieldsAt (front ++ [segment]) (table.set path value).fields))
        (fieldsAt front table.fields) (fieldsAt front (table.set path value).fields) := by
  refine ⟨get_set_self, fun other hbelow => ?_, fun other habove => ?_,
    fun other hne hbelow habove => ?_, fun front segment back hpath => ?_⟩
  · obtain ⟨more, hmore, hother⟩ := hbelow.exists_append
    rw [get, set, hother, lookup_assign_below (segments_ne_nil path) hmore]
    rfl
  · obtain ⟨more, hmore, hpath⟩ := habove.exists_append
    rw [get, set, hpath, lookup_assign_above_eq (segments_ne_nil other) hmore]
    rfl
  · have hsegments : segments path ≠ segments other := fun heq =>
      hne (segments_injective heq.symm)
    rw [get, get, set, lookup_assign_apart (fun hbegins => hbelow ⟨hbegins, hsegments⟩)
      fun hbegins => habove ⟨hbegins, hsegments.symm⟩]
  · rw [set, hpath]
    exact sets_assign front segment back

-- A scalar on the way gives way to an object in its place, and an empty segment is a key.
example : set ⟨[("theme", .string "dark"), ("sizes", .array [])]⟩ "theme..color" "red" =
    ⟨[("theme", .object [("", .object [("color", .string "red")])]), ("sizes", .array [])]⟩ := by
  cbv

end VariableTable
end Scaffold
