import Mathlib.Data.List.Infix
import Scaffold.Variables.Table

/-!
# Laws of nested tables

A text that is set at a path is read back there.  Above the path stand objects, below it stands
nothing any more, and what lies apart from it is as it was.
-/

namespace Scaffold
namespace VariableTable

variable {fields : Fields} {path more other : List String} {segment value : String}

@[simp] theorem innerFields_none : innerFields none = [] := rfl

@[simp] theorem lookup_no_fields (path : List String) : lookup path [] = none := by
  cases path with
  | nil => rfl
  | cons segment rest => cases rest <;> rfl

/-- What is no object is entered like an empty one. -/
theorem lookup_cons (hmore : more ≠ []) :
    lookup (segment :: more) fields = lookup more (innerFields (Fields.get? segment fields)) := by
  cases more with
  | nil => exact absurd rfl hmore
  | cons next rest =>
      rw [lookup]
      · rcases Fields.get? segment fields with _ | v
        · simp
        · cases v <;> simp [innerFields]
      · simp

theorem assign_cons (hmore : more ≠ []) :
    assign value (segment :: more) fields =
      Fields.insert segment
        (.object (assign value more (innerFields (Fields.get? segment fields)))) fields := by
  cases more with
  | nil => exact absurd rfl hmore
  | cons next rest =>
      rw [assign]
      simp

theorem lookup_append (hpath : path ≠ []) (hmore : more ≠ []) :
    lookup (path ++ more) fields = lookup more (innerFields (lookup path fields)) := by
  induction path generalizing fields with
  | nil => exact absurd rfl hpath
  | cons segment rest ih =>
      rw [List.cons_append, lookup_cons (by simp [hmore])]
      by_cases hrest : rest = []
      · subst hrest
        rfl
      · rw [ih hrest, lookup_cons hrest]

theorem lookup_assign_self (hpath : path ≠ []) :
    lookup path (assign value path fields) = some (.string value) := by
  induction path generalizing fields with
  | nil => exact absurd rfl hpath
  | cons segment rest ih =>
      by_cases hrest : rest = []
      · subst hrest
        exact Fields.get?_insert_self _ _ _
      · rw [assign_cons hrest, lookup_cons hrest, Fields.get?_insert_self]
        exact ih hrest

theorem lookup_assign_above (hpath : path ≠ []) (hmore : more ≠ []) :
    lookup path (assign value (path ++ more) fields) =
      some (.object (assign value more (innerFields (lookup path fields)))) := by
  induction path generalizing fields with
  | nil => exact absurd rfl hpath
  | cons segment rest ih =>
      rw [List.cons_append, assign_cons (by simp [hmore])]
      by_cases hrest : rest = []
      · subst hrest
        exact Fields.get?_insert_self _ _ _
      · rw [lookup_cons hrest, lookup_cons hrest, Fields.get?_insert_self]
        exact ih hrest

/-- Paths of which neither is a prefix of the other do not touch. -/
theorem lookup_assign_apart (hbelow : ¬path <+: other) (habove : ¬other <+: path) :
    lookup other (assign value path fields) = lookup other fields := by
  induction path generalizing other fields with
  | nil => exact absurd List.nil_prefix hbelow
  | cons segment rest ih =>
      cases other with
      | nil => exact absurd List.nil_prefix habove
      | cons first others =>
          have hfirst : ∀ v, first ≠ segment →
              lookup (first :: others) (Fields.insert segment v fields) =
                lookup (first :: others) fields := by
            intro v hne
            by_cases hothers : others = []
            · subst hothers
              exact Fields.get?_insert_of_ne hne _ _
            · rw [lookup_cons hothers, lookup_cons hothers, Fields.get?_insert_of_ne hne]
          by_cases hrest : rest = []
          · -- The path ends here, so that the other one parts from it at once.
            subst hrest
            refine hfirst _ fun heq => hbelow ?_
            simp [heq]
          · rw [assign_cons hrest]
            by_cases heq : first = segment
            · subst heq
              have hothers : others ≠ [] := by
                rintro rfl
                exact habove (by simp)
              rw [lookup_cons hothers, lookup_cons hothers, Fields.get?_insert_self]
              refine ih (fun hprefix => hbelow ?_) fun hprefix => habove ?_
              · exact List.cons_prefix_cons.mpr ⟨rfl, hprefix⟩
              · exact List.cons_prefix_cons.mpr ⟨rfl, hprefix⟩
            · exact hfirst _ heq

theorem segments_ne_nil (path : String) : segments path ≠ [] := by
  simpa [segments] using Text.pieces_ne_nil _ _

/-- The place of the path is above the key: its segments are the first of the key's, but not all. -/
def IsAbove (path key : String) : Prop :=
  segments path <+: segments key ∧ segments path ≠ segments key

variable {table : VariableTable} {key name : String}

@[simp] theorem get_set_self : (table.set key value).get key = some value := by
  simp [get, set, lookup_assign_self (segments_ne_nil key), valueText]

theorem contains_of_object {inner : Fields}
    (hobject : lookup (segments name) table.fields = some (.object inner)) :
    table.contains name = true := by
  simp [contains, get, hobject, valueText]

theorem contains_of_below {more : List String} (hmore : more ≠ [])
    (hsegments : segments name = segments key ++ more) (hname : table.contains name = true) :
    table.contains key = true := by
  have hbelow : lookup (segments name) table.fields =
      lookup more (innerFields (lookup (segments key) table.fields)) := by
    rw [hsegments, lookup_append (segments_ne_nil key) hmore]
  unfold innerFields at hbelow
  split at hbelow
  next inner hobject => exact contains_of_object hobject
  next =>
    rw [lookup_no_fields] at hbelow
    simp [contains, get, hbelow] at hname

/-- When a path without a value is set, nothing that had a value loses it, and only the texts of the
places above the path change. -/
theorem get_set_of_undefined (hkey : table.contains key = false)
    (hname : table.contains name = true) :
    (table.set key value).contains name = true ∧
      ((table.set key value).get name = table.get name ∨ IsAbove name key) := by
  by_cases habove : segments name <+: segments key
  · obtain ⟨more, hsegments⟩ := habove
    have hne : segments name ≠ segments key := by
      intro heq
      have hsame : table.get name = table.get key := by rw [get, get, heq]
      rw [contains, hsame] at hname
      exact absurd hname (by simpa [contains] using hkey)
    have hmore : more ≠ [] := by
      rintro rfl
      exact hne (by simpa using hsegments)
    have hobject : lookup (segments name) (table.set key value).fields =
        some (.object (assign value more (innerFields
          (lookup (segments name) table.fields)))) := by
      rw [set, ← hsegments, lookup_assign_above (segments_ne_nil name) hmore]
    exact ⟨contains_of_object hobject, Or.inr ⟨⟨more, hsegments⟩, hne⟩⟩
  · by_cases hbelow : segments key <+: segments name
    · -- A value below the key would be a value of the key.
      obtain ⟨more, hsegments⟩ := hbelow
      have hmore : more ≠ [] := by
        rintro rfl
        exact habove ⟨[], by simpa using hsegments.symm⟩
      rw [contains_of_below hmore hsegments.symm hname] at hkey
      cases hkey
    · have hsame : (table.set key value).get name = table.get name := by
        rw [get, get, set, lookup_assign_apart hbelow habove]
      refine ⟨?_, Or.inl hsame⟩
      rw [contains, hsame]
      exact hname

end VariableTable
end Scaffold
