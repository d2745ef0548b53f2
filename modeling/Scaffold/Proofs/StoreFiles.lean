import Scaffold.Proofs.DiskLaws
import Scaffold.Proofs.JsonRoundTrip
import Scaffold.Proofs.RecordShapes
import Scaffold.Proofs.TableLaws
import Scaffold.Proofs.Trimming
import Scaffold.Store.File

/-!
# Store files that are saved and loaded again

A store file that has been saved is loaded as what its table is read back as.  Every segment of a
variable opens one more object, so that a table with a variable of more segments than the reader has
levels is refused.
-/

namespace Scaffold

open Json (Everywhere Tidy ReadsBack Nests Reloads nestingLimit)

namespace Json

variable {n : Nat} {v w : Json} {fields others : Fields}

/-- Only null is read back as null. -/
theorem Reloads.eq_null (hreloads : Reloads n v .null) : v = .null := by
  cases v <;> cases n <;> simp [Reloads] at hreloads ⊢

/-- What an object is read back as has the same fields, each with what its value is read back as. -/
theorem get?_of_reloads {key : String}
    (hfields : List.Forall₂ (fun field other => other.1 = field.1 ∧ Reloads n field.2 other.2)
      fields others) (hget : Fields.get? key fields = some v) :
    ∃ w, Fields.get? key others = some w ∧ Reloads n v w := by
  induction hfields with
  | nil => simp [Fields.get?] at hget
  | @cons field other _ _ hfirst _ ih =>
      obtain ⟨name, x⟩ := field
      obtain ⟨name', y⟩ := other
      obtain ⟨rfl, hxy⟩ := hfirst
      unfold Fields.get? at hget ⊢
      split at hget
      next hname =>
        obtain rfl := Option.some.inj hget
        rw [if_pos hname]
        exact ⟨y, rfl, hxy⟩
      next hname =>
        rw [if_neg hname]
        exact ih hget

end Json

namespace VariableTable

open Json

variable {n : Nat} {fields : Fields} {path : List String} {segment value : String} {v : Json}
  {table loaded : VariableTable}

theorem innerFields_all {P : Json → Prop} (hempty : P (.object []))
    (hfields : ∀ field ∈ fields, P field.2) (segment : String) :
    P (.object (innerFields (Fields.get? segment fields))) := by
  rcases hget : Fields.get? segment fields with _ | v
  · exact hempty
  · have hv : P v := hfields _ (Fields.mem_of_get? hget)
    cases v with
    | object inner => exact hv
    | _ => exact hempty

theorem tidy_insert (htidy : (Json.object fields).Everywhere Tidy) (hv : v.Everywhere Tidy) :
    (Json.object (Fields.insert segment v fields)).Everywhere Tidy := by
  obtain _ | _ | _ | _ | _ | ⟨hkeys, hfields⟩ := htidy
  exact .object (Fields.nodup_keys_insert hkeys) (Fields.all_insert hfields hv)

theorem tidy_assign (path : List String) (htidy : (Json.object fields).Everywhere Tidy) :
    (Json.object (assign value path fields)).Everywhere Tidy := by
  induction path generalizing fields with
  | nil => exact htidy
  | cons segment rest ih =>
      by_cases hrest : rest = []
      · subst hrest
        exact tidy_insert htidy (.string trivial)
      · rw [assign_cons hrest]
        refine tidy_insert htidy (ih ?_)
        obtain _ | _ | _ | _ | _ | ⟨-, hfields⟩ := htidy
        exact innerFields_all (.object (by simp [Tidy]) (by simp)) hfields segment

theorem nests_insert (hnests : Nests (n + 1) (.object fields)) (hv : Nests n v) :
    Nests (n + 1) (.object (Fields.insert segment v fields)) :=
  Fields.all_insert hnests hv

/-- Setting a path adds no more levels than the path has segments. -/
theorem nests_assign (hnests : Nests n (.object fields)) (hpath : path.length ≤ n) :
    Nests n (.object (assign value path fields)) := by
  induction path generalizing n fields with
  | nil => exact hnests
  | cons segment rest ih =>
      obtain ⟨n, rfl⟩ : ∃ m, n = m + 1 := Nat.exists_eq_add_one_of_ne_zero (by
        rintro rfl
        simp at hpath)
      have hlength : rest.length ≤ n := by simpa using hpath
      by_cases hrest : rest = []
      · subst hrest
        exact nests_insert hnests (by simp [Nests])
      · rw [assign_cons hrest]
        have hempty : Nests n (.object []) := by
          have hpositive := List.length_pos_iff.mpr hrest
          obtain ⟨m, rfl⟩ := Nat.exists_eq_add_one_of_ne_zero (n := n) (by omega)
          simp [Nests]
        exact nests_insert hnests (ih (innerFields_all hempty hnests segment) hlength)

/-- Every segment leads into one more object. -/
theorem length_le_of_lookup (hnests : Nests n (.object fields))
    (hlookup : lookup path fields = some v) : path.length ≤ n := by
  induction path generalizing n fields with
  | nil => exact Nat.zero_le n
  | cons segment rest ih =>
      cases n with
      | zero => exact absurd hnests (by simp [Nests])
      | succ n =>
          by_cases hrest : rest = []
          · simp [hrest]
          · rw [lookup_cons hrest] at hlookup
            rcases hget : Fields.get? segment fields with _ | w
            · simp [hget] at hlookup
            · have hw : Nests n w := hnests _ (Fields.mem_of_get? hget)
              cases w with
              | object inner =>
                  rw [hget] at hlookup
                  exact Nat.succ_le_succ (ih hw hlookup)
              | _ => simp [hget, innerFields] at hlookup

/-- A value of a table that is read back is there again. -/
theorem lookup_of_reloads {others : Fields} (hreloads : Reloads n (.object fields) (.object others))
    (hlookup : lookup path fields = some v) :
    ∃ m w, lookup path others = some w ∧ Reloads m v w := by
  induction path generalizing n fields others with
  | nil => simp [lookup] at hlookup
  | cons segment rest ih =>
      cases n with
      | zero => exact absurd hreloads (by simp [Reloads])
      | succ n =>
          obtain ⟨_, hothers, hfields⟩ := hreloads
          obtain rfl := Json.object.inj hothers
          by_cases hrest : rest = []
          · subst hrest
            obtain ⟨w, hw, hvw⟩ := get?_of_reloads hfields hlookup
            exact ⟨n, w, hw, hvw⟩
          · rw [lookup_cons hrest] at hlookup ⊢
            rcases hget : Fields.get? segment fields with _ | x
            · simp [hget] at hlookup
            · obtain ⟨y, hy, hxy⟩ := get?_of_reloads hfields hget
              rw [hget] at hlookup
              rw [hy]
              cases x with
              | object inner =>
                  cases n with
                  | zero => exact absurd hxy (by simp [Reloads])
                  | succ n =>
                      obtain ⟨more, rfl, -⟩ := id hxy
                      exact ih hxy hlookup
              | _ => simp [innerFields] at hlookup

/-- All variables that have a value are within reach of the reader. -/
def Shallow (table : VariableTable) : Prop :=
  ∀ name, table.contains name = true → (segments name).length ≤ nestingLimit

theorem exists_lookup_of_contains {name : String} (hname : table.contains name = true) :
    ∃ v, lookup (segments name) table.fields = some v ∧ v ≠ .null := by
  rcases hlookup : lookup (segments name) table.fields with _ | v
  · simp [contains, get, hlookup] at hname
  · refine ⟨v, rfl, ?_⟩
    rintro rfl
    simp [contains, get, hlookup, valueText] at hname

theorem contains_of_lookup {name : String} (hlookup : lookup (segments name) table.fields = some v)
    (hv : v ≠ .null) : table.contains name = true := by
  cases v with
  | null => exact absurd rfl hv
  | _ => simp [contains, get, hlookup, valueText]

theorem shallow_of_nests (hnests : Nests nestingLimit table.toJson) : table.Shallow := by
  intro name hname
  obtain ⟨v, hlookup, -⟩ := exists_lookup_of_contains hname
  exact length_le_of_lookup hnests hlookup

/-- The table is within the reader's levels, or it has a variable beyond its reach. -/
def Graded (table : VariableTable) : Prop :=
  Nests nestingLimit table.toJson ∨
    ∃ name, table.contains name = true ∧ nestingLimit < (segments name).length

theorem Graded.set {name value : String} (hgraded : table.Graded)
    (hundefined : table.contains name = false) : Graded (table.set name value) := by
  rcases hgraded with hnests | ⟨deep, hdeep, hlong⟩
  · by_cases hshort : (segments name).length ≤ nestingLimit
    · exact Or.inl (nests_assign hnests hshort)
    · refine Or.inr ⟨name, ?_, not_le.mp hshort⟩
      simp [contains]
  · exact Or.inr ⟨deep, (get_set_of_undefined hundefined hdeep).1, hlong⟩

theorem Graded.nests_iff (hgraded : table.Graded) :
    Nests nestingLimit table.toJson ↔ table.Shallow := by
  refine ⟨shallow_of_nests, fun hshallow => ?_⟩
  rcases hgraded with hnests | ⟨deep, hdeep, hlong⟩
  · exact hnests
  · exact absurd (hshallow deep hdeep) (not_le.mpr hlong)

theorem contains_of_reloads {name : String} (hreloads : Reloads n table.toJson loaded.toJson)
    (hname : table.contains name = true) : loaded.contains name = true := by
  obtain ⟨v, hlookup, hv⟩ := exists_lookup_of_contains hname
  obtain ⟨m, w, hw, hvw⟩ := lookup_of_reloads hreloads hlookup
  refine contains_of_lookup hw ?_
  rintro rfl
  exact hv hvw.eq_null

end VariableTable

namespace StoreFile

open Json VariableTable

variable {file : StoreFile} {table loaded : VariableTable} {disk after : Disk} {text : String}

theorem parse_eq_ok_iff :
    file.parse text = .ok table ↔
      (Text.trim text = "" ∧ table = .empty) ∨
        (Text.trim text ≠ "" ∧ Json.parse text = .ok table.toJson) := by
  unfold parse
  by_cases hblank : Text.trim text = ""
  · simp [hblank, eq_comm]
  · rw [if_neg hblank]
    rcases hparse : Json.parse text with e | v
    · simp [hblank]
    · obtain ⟨fields⟩ := table
      cases v <;> simp [hblank, ofJson?, toJson]

/-- The error of a store that cannot be loaded names its file. -/
theorem load_eq_ok_or_failure (file : StoreFile) (disk : Disk) :
    (∃ table, file.load disk = .ok table) ∨
      ∃ reason, file.load disk = .error (file.failure reason) := by
  have hparse (text : String) : (∃ table, file.parse text = .ok table) ∨
      ∃ reason, file.parse text = .error (file.failure reason) := by
    unfold parse
    split
    next => exact Or.inl ⟨_, rfl⟩
    next =>
      split
      next => exact Or.inr ⟨_, rfl⟩
      next =>
        split
        next => exact Or.inl ⟨_, rfl⟩
        next => exact Or.inr ⟨_, rfl⟩
  unfold load
  split
  next =>
    split
    next => exact Or.inr ⟨_, rfl⟩
    next text _ => exact hparse text
  next => exact Or.inl ⟨_, rfl⟩

/-- Whatever is loaded has been read, or there was nothing to read. -/
theorem wellFormed_of_load (hload : file.load disk = .ok table) :
    table.toJson.Everywhere Tidy ∧ Nests nestingLimit table.toJson := by
  have hempty : VariableTable.empty.toJson.Everywhere Tidy ∧
      Nests nestingLimit VariableTable.empty.toJson :=
    ⟨.object (by simp [Tidy, VariableTable.empty]) (by simp [VariableTable.empty]),
      by simp [toJson, VariableTable.empty, nestingLimit, Nests]⟩
  unfold load at hload
  split at hload
  next =>
    split at hload
    next => cases hload
    next text _ =>
      rcases parse_eq_ok_iff.mp hload with ⟨-, rfl⟩ | ⟨-, hparse⟩
      · exact hempty
      · exact tidy_of_parse hparse
  next =>
    obtain rfl := Except.ok.inj hload
    exact hempty

theorem trim_text_ne_empty (table : VariableTable) : Text.trim (StoreFile.text table) ≠ "" := by
  have hhead : ∃ rest, (StoreFile.text table).toList = '\x7b' :: rest := by
    obtain ⟨_ | ⟨field, more⟩⟩ := table
    · exact ⟨['\x7d'], rfl⟩
    · exact ⟨_, by rw [StoreFile.text, toJson, pretty, String.toList_ofList, prettyChars]; rfl⟩
  obtain ⟨rest, hrest⟩ := hhead
  exact Text.trim_ne_empty (by rw [hrest]; exact List.mem_cons_self) rfl

theorem parse_text_iff (htidy : table.toJson.Everywhere Tidy) :
    file.parse (StoreFile.text table) = .ok loaded ↔
      Reloads nestingLimit table.toJson loaded.toJson := by
  rw [← parse_pretty_iff htidy, parse_eq_ok_iff]
  simp only [trim_text_ne_empty, false_and, false_or, ne_eq, not_false_eq_true, true_and]
  rfl

theorem load_of_write (hwrite : Disk.write file.path text disk = .ok after) :
    file.load after = file.parse text := by
  rw [load, if_pos (Disk.occupied_of_write hwrite), Disk.read_of_write hwrite]

theorem write_of_save (hsave : file.save table disk = (.ok (), after)) :
    ∃ between, Disk.makeParents file.path disk = (.ok (), between) ∧
      Disk.write file.path (StoreFile.text table) between = .ok after := by
  unfold save at hsave
  split at hsave
  next => cases hsave
  next between hparents =>
    split at hsave
    next => cases hsave
    next hwrite =>
      obtain ⟨-, rfl⟩ := Prod.mk.inj hsave
      exact ⟨between, hparents, hwrite⟩

theorem load_of_save (hsave : file.save table disk = (.ok (), after)) :
    file.load after = file.parse (StoreFile.text table) := by
  obtain ⟨between, -, hwrite⟩ := write_of_save hsave
  exact load_of_write hwrite

/-- What is found at the path decides what is loaded. -/
theorem load_congr (hfind : after.find file.path = disk.find file.path) :
    file.load after = file.load disk := by
  unfold load Disk.occupied Disk.read
  rw [hfind]

end StoreFile
end Scaffold
