import Mathlib.Data.List.TakeWhile
import Scaffold.Install.Command

/-!
# Packages that are listed already

A package and the version it is pinned to are joined to one argument, and the name is read off it in
front of its last at sign.  What is read off is the name of the package as long as the version has
no at sign of its own; then just the packages that the manifest does not list are installed.
-/

namespace Scaffold

/-- A package that is wanted, with the version that it is pinned to. -/
structure Requirement where
  name : String
  version : Option String
deriving DecidableEq, Repr

namespace Requirement

def argument (r : Requirement) : String :=
  match r.version with
  | some version => r.name ++ "@" ++ version
  | none => r.name

/-- A name without a version has no at sign but at its front, and a version has none at all. -/
def Separable (r : Requirement) : Prop :=
  match r.version with
  | some version => r.name ≠ "" ∧ '@' ∉ version.toList
  | none => '@' ∉ r.name.toList.tail

instance (r : Requirement) : Decidable r.Separable := by
  unfold Separable
  cases r.version <;> infer_instance

end Requirement

def Dependency.requirements : Dependency → List Requirement
  | .package name => [⟨name, none⟩]
  | .versioned pins => pins.map fun pin => ⟨pin.1, some pin.2⟩

theorem Dependency.installArgs_eq (d : Dependency) :
    d.installArgs = d.requirements.map Requirement.argument := by
  cases d with
  | package name => rfl
  | versioned pins => simp [installArgs, requirements, Requirement.argument]

namespace InstallSite

open Requirement (argument)

variable {text name version : String} {front back : List Char}

/-! ### The last at sign -/

theorem exists_last_at {cs : List Char} (hat : '@' ∈ cs) :
    ∃ front back, cs = front ++ '@' :: back ∧ '@' ∉ back := by
  obtain ⟨before, behind, hcs, hbefore⟩ :=
    List.eq_append_cons_of_mem (List.mem_reverse.mpr hat)
  refine ⟨behind.reverse, before.reverse, ?_, by simpa using hbefore⟩
  have hreverse := congrArg List.reverse hcs
  simpa using hreverse

theorem packageName_of_no_at (hat : '@' ∉ text.toList) : packageName text = text := by
  have hdropped : text.toList.reverse.dropWhile (· != '@') = [] := by
    rw [List.dropWhile_eq_nil_iff]
    intro c hc
    have hne : c ≠ '@' := by
      rintro rfl
      exact hat (List.mem_reverse.mp hc)
    simpa using hne
  rw [packageName, hdropped]

theorem packageName_of_last_at (htext : text.toList = front ++ '@' :: back) (hback : '@' ∉ back) :
    packageName text = if front = [] then text else String.ofList front := by
  have hpassed : ∀ c ∈ back.reverse, (c != '@') = true := by
    intro c hc
    have hne : c ≠ '@' := by
      rintro rfl
      exact hback (List.mem_reverse.mp hc)
    simpa using hne
  have hdropped : text.toList.reverse.dropWhile (· != '@') = '@' :: front.reverse := by
    rw [htext, List.reverse_append, List.reverse_cons, List.append_assoc,
      List.dropWhile_append_of_pos hpassed]
    simp
  rw [packageName, hdropped]
  simp

/-- A text is its own name when there is no at sign behind its first character. -/
theorem packageName_eq_self_iff : packageName text = text ↔ '@' ∉ text.toList.tail := by
  by_cases hat : '@' ∈ text.toList
  · obtain ⟨front, back, htext, hback⟩ := exists_last_at hat
    rw [packageName_of_last_at htext hback, htext]
    cases front with
    | nil => simpa using hback
    | cons first rest =>
        have hshorter : String.ofList (first :: rest) ≠ text := by
          intro heq
          have hlength := congrArg (fun s : String => s.toList.length) heq
          simp [htext] at hlength
        simpa using hshorter
  · have htail : '@' ∉ text.toList.tail := fun hmem => hat (List.mem_of_mem_tail hmem)
    simp [packageName_of_no_at hat, htail]

theorem packageName_pinned (hversion : '@' ∉ version.toList) (hname : name ≠ "") :
    packageName (argument ⟨name, some version⟩) = name := by
  have htext : (argument ⟨name, some version⟩).toList = name.toList ++ '@' :: version.toList := by
    simp [argument]
  rw [packageName_of_last_at htext hversion, if_neg (mt String.toList_eq_nil_iff.mp hname),
    String.ofList_toList]

/-- Behind an at sign of the version, only the rest of the version is cut off. -/
theorem packageName_pinned_at {before behind : String} (hbehind : '@' ∉ behind.toList) :
    packageName (argument ⟨name, some (before ++ "@" ++ behind)⟩) =
      argument ⟨name, some before⟩ := by
  have htext : (argument ⟨name, some (before ++ "@" ++ behind)⟩).toList =
      (argument ⟨name, some before⟩).toList ++ '@' :: behind.toList := by
    simp [argument]
  rw [packageName_of_last_at htext hbehind, if_neg (by simp [argument]), String.ofList_toList]

theorem length_lt_argument (name version : String) :
    name.toList.length < (argument ⟨name, some version⟩).toList.length := by
  simp [argument]

theorem packageName_argument_eq_iff (r : Requirement) :
    packageName r.argument = r.name ↔ r.Separable := by
  obtain ⟨name, _ | version⟩ := r
  · exact packageName_eq_self_iff
  · constructor
    · intro hread
      have hversion : '@' ∉ version.toList := by
        intro hat
        obtain ⟨before, behind, hsplit, hbehind⟩ := exists_last_at hat
        obtain rfl : version = String.ofList before ++ "@" ++ String.ofList behind := by
          simp [String.ext_iff, hsplit]
        rw [packageName_pinned_at (by simpa using hbehind)] at hread
        have hlonger := length_lt_argument name (String.ofList before)
        rw [hread] at hlonger
        exact absurd hlonger (Nat.lt_irrefl _)
      refine ⟨?_, hversion⟩
      rintro rfl
      have hself : packageName (argument ⟨"", some version⟩) = argument ⟨"", some version⟩ :=
        packageName_eq_self_iff.mpr (by simpa [argument] using hversion)
      have hempty := length_lt_argument "" version
      rw [← hself, hread] at hempty
      exact absurd hempty (Nat.lt_irrefl _)
    · rintro ⟨hname, hversion⟩
      exact packageName_pinned hversion hname

/-! ### The manifest -/

variable {site : InstallSite}

/-- The manifest of the project has the name among its dependencies or those for development. -/
def Lists (site : InstallSite) (name : String) : Prop :=
  ∃ text manifest key fields,
    site.disk.read (site.root.push "package.json") = .ok text ∧
      Json.parse text = .ok manifest ∧ key ∈ ["dependencies", "devDependencies"] ∧
        manifest.field? key = some (.object fields) ∧ name ∈ fields.map Prod.fst

theorem mem_sectionNames_iff {manifest : Json} {key : String} :
    name ∈ sectionNames manifest key ↔
      ∃ fields, manifest.field? key = some (.object fields) ∧ name ∈ fields.map Prod.fst := by
  unfold sectionNames
  split
  next fields hfields => simp [hfields]
  next hother =>
    constructor
    · simp
    · rintro ⟨fields, hfields, -⟩
      exact absurd hfields (hother fields)

theorem mem_listedNames_iff : name ∈ site.listedNames ↔ site.Lists name := by
  unfold listedNames Lists
  rcases hread : site.disk.read (site.root.push "package.json") with e | text
  · simp
  · unfold manifestNames
    rcases hparse : Json.parse text with e | manifest
    · simp [hparse]
    · simp [hparse, mem_sectionNames_iff]

instance (site : InstallSite) (name : String) : Decidable (site.Lists name) :=
  decidable_of_iff (name ∈ site.listedNames) mem_listedNames_iff

theorem wanted_eq (site : InstallSite) (packages : List Dependency) :
    (splitListed site.listedNames packages).2 =
      ((packages.flatMap Dependency.requirements).filter fun r =>
        ¬site.Lists (packageName r.argument)).map argument := by
  have hargs : packages.flatMap Dependency.installArgs =
      (packages.flatMap Dependency.requirements).map argument := by
    rw [List.map_flatMap]
    exact congrArg packages.flatMap (funext Dependency.installArgs_eq)
  rw [splitListed, List.partition_eq_filter_filter, hargs]
  dsimp only
  rw [List.filter_map]
  refine congrArg (List.map argument) (List.filter_congr fun r _ => ?_)
  simp [mem_listedNames_iff]

/-- Just the packages that the manifest does not list are wanted, in order, if each name can be told
from its version; it can, unless the version has an at sign or the name is empty. -/
theorem wanted_unless_listed (site : InstallSite) (packages : List Dependency) :
    (∀ r : Requirement, packageName r.argument = r.name ↔ r.Separable) ∧
    (∀ name before behind : String, '@' ∉ behind.toList →
      packageName (argument ⟨name, some (before ++ "@" ++ behind)⟩) =
        argument ⟨name, some before⟩) ∧
    (splitListed site.listedNames packages).2 =
      ((packages.flatMap Dependency.requirements).filter fun r =>
        ¬site.Lists (packageName r.argument)).map argument ∧
    ((∀ r ∈ packages.flatMap Dependency.requirements, r.Separable) →
      (splitListed site.listedNames packages).2 =
        ((packages.flatMap Dependency.requirements).filter fun r =>
          ¬site.Lists r.name).map argument) := by
  refine ⟨packageName_argument_eq_iff, fun _ _ _ => packageName_pinned_at,
    wanted_eq site packages, fun hseparable => ?_⟩
  rw [wanted_eq]
  refine congrArg (List.map argument) (List.filter_congr fun r hr => ?_)
  rw [(packageName_argument_eq_iff r).mpr (hseparable r hr)]

/-- A project whose manifest lists a scoped package and one under another name. -/
def listing : InstallSite where
  disk := (Disk.rootedAt ["app"]).put ["app", "package.json"] (.file
    ("\x7b\"dependencies\":\x7b\"@radix-ui/slot\":\"1\"\x7d," ++
      "\"devDependencies\":\x7b\"valid\":\"npm:zod@3\"\x7d\x7d"))
  root := ⟨"/app"⟩
  manager := .npm
  output := ⟨true, false⟩
  programs := .absent

theorem listedNames_listing : listing.listedNames = ["@radix-ui/slot", "valid"] := by
  decide +kernel

theorem wanted_unless_listed_scoped :
    (∀ r ∈ [Dependency.versioned [("@radix-ui/slot", "^1.0"), ("clsx", "2")],
      .package "@types/node"].flatMap Dependency.requirements, r.Separable) ∧
    (splitListed listing.listedNames [.versioned [("@radix-ui/slot", "^1.0"), ("clsx", "2")],
      .package "@types/node"]).2 = ["clsx@2", "@types/node"] := by
  have hseparable : ∀ r ∈ [Dependency.versioned [("@radix-ui/slot", "^1.0"), ("clsx", "2")],
      .package "@types/node"].flatMap Dependency.requirements, r.Separable := by
    decide
  refine ⟨hseparable, ?_⟩
  rw [(wanted_unless_listed listing _).2.2.2 hseparable]
  decide +kernel

/-- A package that is listed is installed once more when its version has an at sign. -/
theorem wanted_though_listed :
    listing.Lists "valid" ∧
      (splitListed listing.listedNames [.versioned [("valid", "npm:zod@3")]]).2 =
        ["valid@npm:zod@3"] := by
  rw [← mem_listedNames_iff, listedNames_listing]
  decide

end InstallSite
end Scaffold
