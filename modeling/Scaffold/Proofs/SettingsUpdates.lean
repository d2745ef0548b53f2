import Mathlib.Tactic.Common
import Scaffold.Config.Settings
import Scaffold.Proofs.Trimming

/-!
# Updates of the settings

An update sets the field of its key or, when the key is unknown or the value is none for the key,
fails before it has changed anything.  What is kept as the package manager is the name of one, so
that it decides which manager is taken, whatever else the project would suggest.
-/

namespace Scaffold

namespace Text

theorem toLower_of_isBlank {c : Char} (hblank : isBlank c = true) : c.toLower = c := by
  have hupper : ¬(65 ≤ c.toNat ∧ c.toNat ≤ 90) := by
    intro hletter
    simp [isBlank] at hblank
    omega
  unfold Char.toLower
  split
  next hletter => exact absurd hletter hupper
  next => rfl

end Text

namespace PackageManager

variable {manager other : PackageManager} {text : String}

/-- The text is the name of the manager, with letters of either case and with blanks around it. -/
def IsNamed (manager : PackageManager) (text : String) : Prop :=
  ∃ front word back, text.toList = front ++ word ++ back ∧
    (∀ c ∈ front, Text.isBlank c = true) ∧ (∀ c ∈ back, Text.isBlank c = true) ∧
    word.map Char.toLower = manager.name.toList

theorem isBlank_of_mem_name {c : Char} (hc : c ∈ manager.name.toList) : Text.isBlank c = false := by
  have hall : manager.name.toList.all (fun d => !Text.isBlank d) = true := by
    cases manager <;> decide
  simpa using List.all_eq_true.mp hall c hc

theorem normalName_eq_iff : normalName text = manager.name ↔ manager.IsNamed text := by
  constructor
  · intro hname
    obtain ⟨front, back, hfront, hback, htext⟩ := Text.exists_eq_trimChars text.toList
    refine ⟨front, Text.trimChars text.toList, back, htext, hfront, hback, ?_⟩
    rw [← hname, normalName, String.toList_ofList]
  · rintro ⟨front, word, back, htext, hfront, hback, hword⟩
    have hfull : ∀ c ∈ word, Text.isBlank c = false := by
      intro c hc
      by_contra hblank
      have hlower := Text.toLower_of_isBlank ((Bool.not_eq_false _).mp hblank)
      have hmem : c ∈ manager.name.toList := by
        rw [← hword, ← hlower]
        exact List.mem_map_of_mem hc
      exact hblank (isBlank_of_mem_name hmem)
    have htrim : Text.trimChars text.toList = word := by
      rw [htext, Text.trimChars_append_blanks hfront hback]
      apply Text.trimChars_eq_self
      · exact fun c hc => hfull c (List.mem_of_mem_head? hc)
      · exact fun c hc => hfull c (List.mem_of_mem_getLast? hc)
    rw [normalName, htrim, hword, String.ofList_toList]

theorem find?_all (manager : PackageManager) :
    (all.find? fun other => other.name == manager.name) = some manager := by
  cases manager <;> rfl

theorem ofName?_eq_some_iff : ofName? text = some manager ↔ manager.IsNamed text := by
  rw [← normalName_eq_iff, ofName?]
  constructor
  · intro hfound
    have hname := List.find?_some hfound
    exact (beq_iff_eq.mp hname).symm
  · intro hname
    rw [hname]
    exact find?_all manager

theorem parse_eq_ok_iff : parse text = .ok manager ↔ manager.IsNamed text := by
  rw [← ofName?_eq_some_iff, parse]
  cases ofName? text <;> simp

theorem IsNamed.eq (hnamed : manager.IsNamed text) (hother : other.IsNamed text) :
    other = manager := by
  have hsame := (ofName?_eq_some_iff.mpr hother).symm.trans (ofName?_eq_some_iff.mpr hnamed)
  exact Option.some.inj hsame

theorem IsNamed.ne_empty (hnamed : manager.IsNamed text) : text ≠ "" := by
  rintro rfl
  have hname := ofName?_eq_some_iff.mpr hnamed
  cases hname

/-- A manager that is named leaves nothing to the user agent and the lock files. -/
theorem detect_of_isNamed (hnamed : manager.IsNamed text) (userAgent : Option String) (disk : Disk)
    (root : Path) : detect (some text) userAgent disk root = manager := by
  simp [detect, ofName?_eq_some_iff.mpr hnamed]

end PackageManager

namespace Settings

variable {s t : Settings} {key other value : String}

/-- What is kept under a key, in full; what is not set has no text. -/
def stored (s : Settings) (key : String) : Option String :=
  match key with
  | "github_token" => s.githubToken
  | "store_path" => some s.storePath.text
  | "no_color" => some (boolText s.noColor)
  | "package_manager" => s.packageManager
  | _ => none

/-- What an update does, by its key. -/
inductive Sets (s : Settings) : String → String → Settings → Prop where
  | token (value : String) :
      Sets s "github_token" value { s with githubToken := nonEmpty value }
  | storePath (value : String) : Sets s "store_path" value { s with storePath := ⟨value⟩ }
  | noColor (b : Bool) : Sets s "no_color" (boolText b) { s with noColor := b }
  | noManager : Sets s "package_manager" "" { s with packageManager := none }
  | manager {manager : PackageManager} {text : String} (hnamed : manager.IsNamed text) :
      Sets s "package_manager" text { s with packageManager := some text }

theorem readSwitch_eq_ok_iff {b : Bool} : readSwitch value = .ok b ↔ value = boolText b := by
  constructor
  · intro hread
    unfold readSwitch at hread
    split at hread
    · obtain rfl := Except.ok.inj hread
      rfl
    · obtain rfl := Except.ok.inj hread
      rfl
    · cases hread
  · rintro rfl
    cases b <;> rfl

theorem updated_no_color : s.updated "no_color" value =
    (match readSwitch value with
      | .ok b => (.ok (), { s with noColor := b })
      | .error e => (.error e, s)) := by
  unfold updated update
  cases readSwitch value <;> rfl

theorem updated_package_manager (hfull : value ≠ "") : s.updated "package_manager" value =
    (match PackageManager.parse value with
      | .ok _ => (.ok (), { s with packageManager := some value })
      | .error e => (.error e, s)) := by
  simp only [updated, update, hfull, nonEmpty, if_false]
  cases PackageManager.parse value <;> rfl

theorem Sets.updated_eq (hsets : Sets s key value t) : s.updated key value = (.ok (), t) := by
  cases hsets with
  | token | storePath | noManager => rfl
  | noColor b => rw [updated_no_color, readSwitch_eq_ok_iff.mpr rfl]
  | manager hnamed =>
      rw [updated_package_manager hnamed.ne_empty, PackageManager.parse_eq_ok_iff.mpr hnamed]

/-- An update fails and leaves the settings that it found, or it sets the field of its key. -/
theorem updated_cases (s : Settings) (key value : String) :
    (∃ e, s.updated key value = (.error e, s)) ∨
      ∃ t, s.updated key value = (.ok (), t) ∧ Sets s key value t := by
  -- One case for each key, two for the manager, which may be given up, and one for other keys.
  fun_cases update key value with
  | case1 => exact .inr ⟨_, rfl, .token value⟩
  | case2 => exact .inr ⟨_, rfl, .storePath value⟩
  | case3 =>
      rw [updated_no_color]
      cases hread : readSwitch value with
      | error e => exact .inl ⟨e, rfl⟩
      | ok b =>
          obtain rfl := readSwitch_eq_ok_iff.mp hread
          exact .inr ⟨_, rfl, .noColor b⟩
  | case4 _ hempty =>
      obtain rfl := hempty
      exact .inr ⟨_, rfl, .noManager⟩
  | case5 _ hfull =>
      rw [updated_package_manager hfull]
      cases hparse : PackageManager.parse value with
      | error e => exact .inl ⟨e, rfl⟩
      | ok manager =>
          exact .inr ⟨_, rfl, .manager (PackageManager.parse_eq_ok_iff.mp hparse)⟩
  | case6 key htoken hstore hcolor hmanager =>
      refine .inl ⟨.unknownKey key, ?_⟩
      simp only [updated, update]
      rfl

theorem Sets.stored_of_ne (hsets : Sets s key value t) (hother : other ≠ key) :
    t.stored other = s.stored other := by
  unfold stored
  cases hsets <;> split <;> first | rfl | exact absurd rfl hother

theorem Sets.get_eq (hsets : Sets s key value t) (hkey : key ≠ "github_token") :
    t.get key = .ok value := by
  cases hsets with
  | token => exact absurd rfl hkey
  | storePath | noColor | noManager | manager => rfl

/-- The settings that an update leaves, whether it went well or not. -/
def after (s : Settings) (update : String × String) : Settings :=
  (s.updated update.1 update.2).2

def afterAll (s : Settings) (updates : List (String × String)) : Settings :=
  updates.foldl after s

/-- What is kept as the package manager is the name of one. -/
def ManagerNamed (s : Settings) : Prop :=
  ∀ text, s.packageManager = some text → ∃ manager : PackageManager, manager.IsNamed text

theorem ManagerNamed.sets (hnamed : s.ManagerNamed) (hsets : Sets s key value t) :
    t.ManagerNamed := by
  cases hsets with
  | token | storePath | noColor => exact hnamed
  | noManager =>
      intro text htext
      cases htext
  | @manager manager text htext =>
      intro kept hkept
      cases hkept
      exact ⟨manager, htext⟩

theorem ManagerNamed.after (hnamed : s.ManagerNamed) (update : String × String) :
    (s.after update).ManagerNamed := by
  unfold Settings.after
  obtain ⟨e, hfail⟩ | ⟨t, hdone, hsets⟩ := updated_cases s update.1 update.2
  · rw [hfail]
    exact hnamed
  · rw [hdone]
    exact hnamed.sets hsets

theorem ManagerNamed.afterAll (hnamed : s.ManagerNamed) (updates : List (String × String)) :
    (s.afterAll updates).ManagerNamed := by
  unfold Settings.afterAll
  induction updates generalizing s with
  | nil => exact hnamed
  | cons update rest ih => exact ih (hnamed.after update)

theorem managerNamed_default (env : Environment) : (default env).ManagerNamed := by
  intro text htext
  cases htext

/-- An update that fails leaves the settings that it found, and there was nothing for it to set; one
that goes well sets the one field of its key, which then is shown as it was given.  After any updates
of the default settings, failed ones among them, the text of the package manager, if there is one, is
the name of just one manager, and that one is taken in every project. -/
theorem update_all_or_nothing (s : Settings) (key value : String) :
    (match s.updated key value with
      | (.error _, t) => t = s ∧ ∀ t', ¬Sets s key value t'
      | (.ok (), t) => Sets s key value t ∧
          (∀ other, other ≠ key → t.stored other = s.stored other) ∧
          (key ≠ "github_token" → t.get key = .ok value)) ∧
    ∀ (env : Environment) (updates : List (String × String)) (text : String),
      ((default env).afterAll updates).get "package_manager" = .ok text → text ≠ "" →
        ∃ manager : PackageManager, (∀ other : PackageManager,
            other.IsNamed text ↔ other = manager) ∧
          ∀ userAgent disk root, PackageManager.detect
            ((default env).afterAll updates).packageManager userAgent disk root = manager := by
  constructor
  · obtain ⟨e, hfail⟩ | ⟨t, hdone, hsets⟩ := updated_cases s key value
    · rw [hfail]
      refine ⟨rfl, ?_⟩
      intro t' hsets
      rw [hsets.updated_eq] at hfail
      cases hfail
    · rw [hdone]
      refine ⟨hsets, ?_, ?_⟩
      · intro other hother
        exact hsets.stored_of_ne hother
      · intro hkey
        exact hsets.get_eq hkey
  · intro env updates text hget hfull
    cases hkept : ((default env).afterAll updates).packageManager with
    | none =>
        have hempty : text = "" := by
          simpa [get, hkept, eq_comm] using hget
        exact absurd hempty hfull
    | some kept =>
        have hsame : kept = text := by
          simpa [get, hkept] using hget
        subst hsame
        obtain ⟨manager, hnamed⟩ := (managerNamed_default env).afterAll updates kept hkept
        refine ⟨manager, ?_, ?_⟩
        · intro other
          constructor
          · intro hother
            exact hnamed.eq hother
          · intro hother
            exact hother ▸ hnamed
        · exact PackageManager.detect_of_isNamed hnamed

/-- Updates of which three fail; the last one that goes well names a manager loosely. -/
def mixedUpdates : List (String × String) :=
  [("package_manager", "yarn"), ("no_color", "maybe"), ("package_manager", " \tPNPM\n"),
    ("package_manager", "maven"), ("theme", "dark"), ("no_color", "true")]

theorem update_all_or_nothing_mixed :
    ((default []).afterAll mixedUpdates).get "package_manager" = .ok " \tPNPM\n" ∧
      PackageManager.detect ((default []).afterAll mixedUpdates).packageManager
        (some "yarn/1.22.0") (Disk.put ["bun.lock"] (.file "") (Disk.rootedAt [])) ⟨"/"⟩ =
          .pnpm := by
  have hget : ((default []).afterAll mixedUpdates).get "package_manager" = .ok " \tPNPM\n" := by
    rfl
  have hpnpm : PackageManager.pnpm.IsNamed " \tPNPM\n" := by
    apply PackageManager.ofName?_eq_some_iff.mp
    rfl
  obtain ⟨manager, hnamed, hdetect⟩ :=
    (update_all_or_nothing (default []) "no_color" "true").2 [] mixedUpdates _ hget (by decide)
  rw [(hnamed _).mp hpnpm]
  exact ⟨hget, hdetect _ _ _⟩

end Settings
end Scaffold
