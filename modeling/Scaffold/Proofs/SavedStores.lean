import Scaffold.Proofs.Directories
import Scaffold.Proofs.StoreFiles

/-!
# Stores that are saved and saved again

A table that is nested no deeper than the reader follows is loaded from its file as it was saved,
and saving what has been loaded changes nothing on the disk.  One level more, and the file is
refused.
-/

namespace Scaffold

open Json (Everywhere Tidy ReadsBack Nests Reloads nestingLimit)

namespace StoreFile

variable {file : StoreFile} {table loaded : VariableTable} {disk after : Disk}

theorem load_eq_ok_iff (htidy : table.toJson.Everywhere Tidy)
    (hsave : file.save table disk = (.ok (), after)) :
    file.load after = .ok loaded ↔ Reloads nestingLimit table.toJson loaded.toJson := by
  rw [load_of_save hsave, parse_text_iff htidy]

theorem load_self_iff (htidy : table.toJson.Everywhere Tidy)
    (hsave : file.save table disk = (.ok (), after)) :
    file.load after = .ok table ↔
      Nests nestingLimit table.toJson ∧ table.toJson.Everywhere ReadsBack := by
  rw [load_eq_ok_iff htidy hsave, Json.reloads_self_iff htidy]

theorem read_of_save (hsave : file.save table disk = (.ok (), after)) :
    after.read file.path = .ok (text table) := by
  obtain ⟨between, -, hwrite⟩ := write_of_save hsave
  exact Disk.read_of_write hwrite

/-- The directories are there and the file has its text already. -/
theorem save_again (hsave : file.save table disk = (.ok (), after)) :
    file.save table after = (.ok (), after) := by
  obtain ⟨between, hparents, hwrite⟩ := write_of_save hsave
  rw [save, Disk.makeParents_of_write hparents hwrite]
  simp only [Disk.write_again hwrite]

/-- A table that has been saved is loaded as it was exactly when it is nested no deeper than the
reader follows and its real numbers are read back from their decimals; nested deeper, it is refused.
What has been loaded is saved without any change to the disk, and with the same text wherever it is
saved later. -/
theorem load_saved (htidy : table.toJson.Everywhere Tidy)
    (hsave : file.save table disk = (.ok (), after)) :
    (file.load after = .ok table ↔
      Nests nestingLimit table.toJson ∧ table.toJson.Everywhere ReadsBack) ∧
    (¬Nests nestingLimit table.toJson →
      ∃ reason, file.load after = .error (file.failure reason)) ∧
    (table.toJson.Everywhere ReadsBack → ∀ loaded, file.load after = .ok loaded →
      after.read file.path = .ok (text table) ∧ file.save loaded after = (.ok (), after) ∧
      ∀ later last, file.save loaded later = (.ok (), last) →
        last.read file.path = .ok (text table)) := by
  refine ⟨load_self_iff htidy hsave, ?_, ?_⟩
  · intro hdeep
    rcases file.load_eq_ok_or_failure after with ⟨loaded, hload⟩ | hfailure
    · have hreloads := (load_eq_ok_iff htidy hsave).mp hload
      exact absurd (Json.nests_of_reloads hreloads) hdeep
    · exact hfailure
  · intro hback loaded hload
    have hnests := Json.nests_of_reloads ((load_eq_ok_iff htidy hsave).mp hload)
    have hself := (load_self_iff htidy hsave).mpr ⟨hnests, hback⟩
    have hsame : loaded = table := by
      rw [hload] at hself
      exact Except.ok.inj hself
    subst hsame
    refine ⟨read_of_save hsave, save_again hsave, ?_⟩
    intro later last hlater
    exact read_of_save hlater

/-- Objects in one another, so many of them, around a value. -/
def chain : Nat → Json → Json
  | 0, v => v
  | n + 1, v => .object [("a", chain n v)]

theorem everywhere_chain {P : Json → Prop} {v : Json} (hv : v.Everywhere P)
    (hobject : ∀ w, P (.object [("a", w)])) (n : Nat) : (chain n v).Everywhere P := by
  induction n with
  | zero => exact hv
  | succ n ih =>
      refine .object (hobject _) ?_
      simpa using ih

theorem nests_chain {m : Nat} {v : Json} (hv : Nests m v) (n : Nat) :
    Nests (m + n) (chain n v) := by
  induction n with
  | zero => exact hv
  | succ n ih =>
      rw [← Nat.add_assoc, chain, Nests]
      simpa using ih

/-- Of each kind of value one, with both limits of whole numbers, as deep as a table may be. -/
def deepTable : VariableTable :=
  ⟨[("ключ \"\\\n", .string "\t\x01 é 😀"), ("least", .number (.whole (-9223372036854775808))),
    ("most", .number (.whole 18446744073709551615)), ("", .null),
    ("list", .array [.bool true, .array [], .object []]),
    ("tenth", .number (.real (Binary64.ofRatio true 1 10))), ("deep", chain 126 (.bool false))]⟩

theorem everywhere_deepTable {P : Json → Prop} (hnull : P .null) (hbool : ∀ b, P (.bool b))
    (hstring : ∀ s, P (.string s)) (harray : ∀ items, P (.array items))
    (hobject : ∀ fields, (fields.map Prod.fst).Nodup → P (.object fields))
    (hleast : P (.number (.whole (-9223372036854775808))))
    (hmost : P (.number (.whole 18446744073709551615)))
    (htenth : P (.number (.real (Binary64.ofRatio true 1 10)))) :
    deepTable.toJson.Everywhere P := by
  refine .object (hobject _ (by decide)) fun field hfield => ?_
  simp only [deepTable, List.mem_cons, List.not_mem_nil, or_false] at hfield
  rcases hfield with rfl | rfl | rfl | rfl | rfl | rfl | rfl
  · exact .string (hstring _)
  · exact .number hleast
  · exact .number hmost
  · exact .null hnull
  · refine .array (harray _) fun v hv => ?_
    simp only [List.mem_cons, List.not_mem_nil, or_false] at hv
    rcases hv with rfl | rfl | rfl
    · exact .bool (hbool _)
    · exact .array (harray _) (by simp)
    · exact .object (hobject _ (by simp)) (by simp)
  · exact .number htenth
  · exact everywhere_chain (.bool (hbool _)) (fun w => hobject _ (by simp)) 126

theorem nests_deepTable : Nests nestingLimit deepTable.toJson := by
  have hdeep := nests_chain (m := 0) (v := .bool false) (by simp [Nests]) 126
  intro field hfield
  simp only [deepTable, List.mem_cons, List.not_mem_nil, or_false] at hfield
  rcases hfield with rfl | rfl | rfl | rfl | rfl | rfl | rfl
  all_goals first | exact hdeep | simp [Nests]

def newStore : StoreFile := ⟨⟨"/home/new/store.json"⟩⟩

theorem makeParents_newStore : Disk.makeParents newStore.path (Disk.rootedAt ["home"]) =
    (.ok (), Disk.put ["home", "new"] .directory (Disk.rootedAt ["home"])) := by
  have hparent : newStore.path.parent = some ⟨"/home/new"⟩ := by cbv
  rw [Disk.makeParents, hparent]
  rfl

theorem write_newStore (content : String) :
    Disk.write newStore.path content
        (Disk.put ["home", "new"] .directory (Disk.rootedAt ["home"])) =
      .ok (Disk.put ["home", "new", "store.json"] (.file content)
        (Disk.put ["home", "new"] .directory (Disk.rootedAt ["home"]))) := by
  rfl

/-- The table is saved in a directory that is not there yet. -/
theorem load_saved_deep :
    ∃ after, newStore.save deepTable (Disk.rootedAt ["home"]) = (.ok (), after) ∧
      newStore.load after = .ok deepTable ∧ newStore.save deepTable after = (.ok (), after) := by
  have htidy : deepTable.toJson.Everywhere Tidy := by
    apply everywhere_deepTable trivial (fun _ => trivial) (fun _ => trivial) (fun _ => trivial)
      (fun _ hkeys => hkeys)
    · constructor <;> decide
    · constructor <;> decide
    · trivial
  have hback : deepTable.toJson.Everywhere ReadsBack := by
    apply everywhere_deepTable trivial (fun _ => trivial) (fun _ => trivial) (fun _ => trivial)
      (fun _ _ => trivial) trivial trivial
    rw [ReadsBack]
    decide +kernel
  have hsave : newStore.save deepTable (Disk.rootedAt ["home"]) =
      (.ok (), Disk.put ["home", "new", "store.json"] (.file (text deepTable))
        (Disk.put ["home", "new"] .directory (Disk.rootedAt ["home"]))) := by
    simp only [save, makeParents_newStore, write_newStore]
  have hload := (load_saved htidy hsave).1.mpr ⟨nests_deepTable, hback⟩
  exact ⟨_, hsave, hload, ((load_saved htidy hsave).2.2 hback _ hload).2.1⟩

end StoreFile
end Scaffold
