import Mathlib.Data.List.Induction
import Toolwrap.CommandLine.Call
import Toolwrap.Proofs.Running.Steps
import Toolwrap.Proofs.Running.Variables

-- Which release a call asks for. The variable decides before any file does, and of the files the
-- nearest one decides alone: what it does not say is not looked for further up. A release that is
-- called in place of this one is told by the variable to hand on no further.

namespace Toolwrap.Release

open CommandLine
open Running (lookup_without ok_of_toOption)

section Nearest

-- The project file of a directory.
def fileOf (place : Place) : Place := place ++ [projectFile]

def Pins (t : FileTree) (place : Place) (text : String) : Prop :=
  ∃ executable, t.entryAt? (fileOf place) = some (.file text executable)

-- The first project file on the way up from a directory.
structure Nearest (t : FileTree) (start place : Place) (text : String) : Prop where
  above : place <+: start
  pins : Pins t place text
  first : ∀ nearer, place <+: nearer → nearer <+: start → nearer ≠ place → ∀ other, ¬ Pins t nearer other

def fileAt? (t : FileTree) (place : Place) : Option (Place × String) :=
  match t.entryAt? (place ++ [projectFile]) with
  | some (.file text _) => some (place ++ [projectFile], text)
  | _ => none

variable {t t' : FileTree} {start place file : Place} {name text : String}

theorem fileAt_iff : fileAt? t place = some (file, text) ↔ file = fileOf place ∧ Pins t place text := by
  unfold fileAt? Pins fileOf
  split
  · rename_i found executable here
    rw [here]
    constructor
    · intro same
      cases same
      exact ⟨rfl, executable, rfl⟩
    · rintro ⟨rfl, _, same⟩
      cases same
      rfl
  · rename_i missed
    refine iff_of_false nofun ?_
    rintro ⟨-, executable, here⟩
    exact missed _ _ here

theorem fileAt_none : fileAt? t place = none ↔ ∀ other, ¬ Pins t place other := by
  constructor
  · intro missed other pins
    rw [fileAt_iff.mpr ⟨rfl, pins⟩] at missed
    cases missed
  · intro missed
    cases found : fileAt? t place with
    | none => rfl
    | some entry => exact absurd (fileAt_iff.mp found).2 (missed _)

-- The way up goes over the directory itself and then from the one above.
theorem upward_snoc (place : Place) (name : String) :
    upward (place ++ [name]) = (place ++ [name]) :: upward place := by
  unfold upward
  rw [List.length_append, List.length_singleton, List.range_succ_eq_map, List.map_cons, List.map_map]
  congr 1
  · exact List.take_of_length_le (by simp)
  · refine List.map_congr_left fun n _ => ?_
    rw [Function.comp_apply, Nat.succ_eq_add_one, Nat.add_sub_add_right]
    exact List.take_append_of_le_length (Nat.sub_le _ _)

theorem nearest_root : Nearest t [] place text ↔ place = [] ∧ Pins t place text := by
  constructor
  · intro nearest
    exact ⟨List.prefix_nil.mp nearest.above, nearest.pins⟩
  · rintro ⟨rfl, pins⟩
    exact ⟨List.nil_prefix, pins, fun nearer _ below other => absurd (List.prefix_nil.mp below) other⟩

theorem nearest_snoc : Nearest t (start ++ [name]) place text ↔
    (place = start ++ [name] ∧ Pins t place text) ∨
      ((∀ other, ¬ Pins t (start ++ [name]) other) ∧ Nearest t start place text) := by
  constructor
  · rintro ⟨above, pins, first⟩
    rcases List.prefix_concat_iff.mp above with here | higher
    · exact Or.inl ⟨here, pins⟩
    · refine Or.inr ⟨first _ above (List.prefix_refl _) ?_, higher, pins, fun nearer below up => ?_⟩
      · rintro rfl
        have shorter := higher.length_le
        rw [List.length_append, List.length_singleton] at shorter
        omega
      · exact first nearer below (up.trans (List.prefix_append _ _))
  · rintro (⟨rfl, pins⟩ | ⟨missed, above, pins, first⟩)
    · refine ⟨List.prefix_refl _, pins, fun nearer below up other => ?_⟩
      exact absurd (up.eq_of_length_le below.length_le) other
    · refine ⟨above.trans (List.prefix_append _ _), pins, fun nearer below up other => ?_⟩
      rcases List.prefix_concat_iff.mp up with here | higher
      · rw [here]
        exact missed
      · exact first nearer below higher other

-- The walk up stops at the nearest project file, and nowhere if there is none.
theorem walk_iff : (upward start).findSome? (fileAt? t) = some (file, text) ↔
    ∃ place, file = fileOf place ∧ Nearest t start place text := by
  induction start using List.reverseRecOn with
  | nil =>
    have alone : (upward []).findSome? (fileAt? t) = fileAt? t [] := by
      change [[]].findSome? (fileAt? t) = _
      rw [List.findSome?_singleton]
    simp only [alone, fileAt_iff, nearest_root]
    constructor
    · rintro ⟨same, pins⟩
      exact ⟨[], same, rfl, pins⟩
    · rintro ⟨_, same, rfl, pins⟩
      exact ⟨same, pins⟩
  | append_singleton start name more =>
    rw [upward_snoc, List.findSome?_cons]
    simp only [nearest_snoc]
    cases here : fileAt? t (start ++ [name]) with
    | some entry =>
      obtain ⟨found, content⟩ := entry
      obtain ⟨rfl, pins⟩ := fileAt_iff.mp here
      constructor
      · intro same
        cases same
        exact ⟨_, rfl, Or.inl ⟨rfl, pins⟩⟩
      · rintro ⟨place, rfl, ⟨rfl, other⟩ | ⟨missed, -⟩⟩
        · exact here.symm.trans (fileAt_iff.mpr ⟨rfl, other⟩)
        · exact absurd pins (missed _)
    | none =>
      have missed := fileAt_none.mp here
      refine more.trans ⟨?_, ?_⟩
      · rintro ⟨place, same, nearest⟩
        exact ⟨place, same, Or.inr ⟨missed, nearest⟩⟩
      · rintro ⟨place, same, ⟨rfl, pins⟩ | ⟨-, nearest⟩⟩
        · exact absurd pins (missed _)
        · exact ⟨place, same, nearest⟩

theorem nearest_walked (found : (upward start).findSome? (fileAt? t) = some (fileOf place, text)) :
    Nearest t start place text := by
  obtain ⟨here, same, nearest⟩ := walk_iff.mp found
  rw [List.append_cancel_right same]
  exact nearest

-- Files that are no project files on the way from the directory to the nearest one count for nothing.
theorem Nearest.moved (nearest : Nearest t start place text)
    (same : ∀ nearer, place <+: nearer → nearer <+: start → t'.entryAt? (fileOf nearer) = t.entryAt? (fileOf nearer)) :
    Nearest t' start place text := by
  obtain ⟨above, ⟨executable, here⟩, first⟩ := nearest
  have stays := (same place (List.prefix_refl _) above).trans here
  refine ⟨above, ⟨executable, stays⟩, fun nearer below up other text pins => ?_⟩
  obtain ⟨executable, found⟩ := pins
  exact first nearer below up other text ⟨executable, (same nearer below up).symm.trans found⟩

end Nearest

-- What the text of a project file is read as, if it can be read.
def valueOf (file : Place) (text : String) : Checked Value :=
  match Yaml.parse (Text.readLineEnds text) with
  | .error .malformed => refuse (.unreadablePin ("/" ++ "/".intercalate file))
  | .error .impossible => .error .unsuited
  | .ok v => .ok v

-- The release that a value asks for.
def askedBy : Value → Option String
  | .map fields =>
    match Fields.getD fields "bashwrap_version" with
    | .null => none
    | v => some v.display
  | _ => none

theorem askedBy_none (v : Value) : askedBy v = none ↔
    ∀ fields, v = .map fields → Fields.getD fields "bashwrap_version" = .null := by
  cases v with
  | map fields =>
    have field : askedBy (.map fields) = none ↔ Fields.getD fields "bashwrap_version" = .null := by
      unfold askedBy
      dsimp only
      split
      · rename_i nothing
        exact iff_of_true rfl nothing
      · rename_i given
        exact iff_of_false nofun given
    rw [field]
    constructor
    · rintro nothing _ ⟨⟩
      exact nothing
    · exact fun nothing => nothing _ rfl
  | _ => exact iff_of_true rfl nofun

theorem pinnedIn_value (file : Place) (text : String) :
    pinnedIn ("/" ++ "/".intercalate file) text = (valueOf file text).map askedBy := by
  unfold pinnedIn valueOf
  cases Yaml.parse (Text.readLineEnds text) with
  | error fault => cases fault <;> rfl
  | ok v =>
    cases v with
    | map fields =>
      unfold askedBy
      dsimp only [Except.map]
      generalize Fields.getD fields "bashwrap_version" = v
      cases v with
      | scalar s => cases s <;> rfl
      | _ => rfl
    | _ => rfl

section Deciding

variable {t : FileTree} {start place : Place} {text : String}

theorem projectVersion_walk (t : FileTree) (start : Place) : projectVersion t start =
    match (upward start).findSome? (fileAt? t) with
    | some (file, text) => pinnedIn ("/" ++ "/".intercalate file) text
    | none => .ok none := rfl

theorem projectVersion_nearest (nearest : Nearest t start place text) :
    projectVersion t start = (valueOf (fileOf place) text).map askedBy := by
  rw [← pinnedIn_value, projectVersion_walk, walk_iff.mpr ⟨place, rfl, nearest⟩]

theorem projectVersion_none (missed : ∀ place text, ¬ Nearest t start place text) : projectVersion t start = .ok none := by
  rw [projectVersion_walk]
  cases found : (upward start).findSome? (fileAt? t) with
  | none => rfl
  | some entry =>
    obtain ⟨place, -, nearest⟩ := walk_iff.mp found
    exact absurd nearest (missed place _)

end Deciding

-- The home directory of the releases.
def homeFor (userHome : String) (env : List (String × String)) : Checked Path :=
  expandHome userHome (Path.parse ((variableOf env homeVariable).getD defaultHome))

section Detecting

variable {env : List (String × String)} {name value : String}

theorem variableOf_given (found : env.lookup name = some value) (filled : value ≠ "") :
    variableOf env name = some value := by
  unfold variableOf
  rw [found]
  simp [filled]

theorem variableOf_missing (empty : ∀ value, env.lookup name = some value → value = "") : variableOf env name = none := by
  unfold variableOf
  rw [Option.filter_eq_none_iff]
  intro value found
  simp [empty value found]

variable (t : FileTree) (userHome : String) (start : Place)

theorem detect_given (given : variableOf env versionVariable = some value) :
    detect t userHome env start = (homeFor userHome env).map fun home => ⟨some value, home⟩ := by
  unfold detect homeFor
  rw [given]
  rfl

theorem detect_missing (missing : variableOf env versionVariable = none) :
    detect t userHome env start = (do
      let home ← homeFor userHome env
      (projectVersion t start).map fun requested => ⟨requested, home⟩) := by
  unfold detect homeFor
  rw [missing]
  rfl

end Detecting

-- What a call is told when it stands in for another one.
section Handing

variable {env : List (String × String)} {name x value : String}

theorem withVariable_own (env : List (String × String)) (x value : String) :
    (withVariable env x value).lookup x = some value := by
  unfold withVariable
  rw [List.lookup_cons_self]

theorem withVariable_other (other : name ≠ x) : (withVariable env x value).lookup name = env.lookup name := by
  unfold withVariable
  rw [List.lookup_cons, beq_eq_false_iff_ne.mpr other, lookup_without, if_neg other]

-- The environment of a release that a call is handed to.
def handed (env : List (String × String)) : List (String × String) := withVariable env versionVariable noDelegation

-- The home directory of the caller.
def callerHome (env : List (String × String)) : String := (env.lookup "HOME").getD "/"

theorem handed_home (env : List (String × String)) :
    homeFor (callerHome (handed env)) (handed env) = homeFor (callerHome env) env := by
  have caller : (handed env).lookup "HOME" = env.lookup "HOME" := withVariable_other (by decide)
  have releases : (handed env).lookup homeVariable = env.lookup homeVariable := withVariable_other (by decide)
  unfold homeFor callerHome variableOf
  rw [caller, releases]

theorem detected_home {t : FileTree} {userHome : String} {start : Place} {pin : Pin}
    (detected : detect t userHome env start = .ok pin) : homeFor userHome env = .ok pin.home := by
  unfold detect at detected
  change (homeFor userHome env >>= _) = _ at detected
  obtain ⟨home, found, detected⟩ := Checked.bind_ok detected
  rw [found]
  split at detected
  · rw [← Except.ok.inj detected]
  · obtain ⟨_, _, detected⟩ := Checked.bind_ok detected
    rw [← Except.ok.inj detected]

-- A call that is told to stay does so, wherever it is and whatever files there are.
theorem told_stays {child : Setting} {home : Path} (told : child.env.lookup versionVariable = some noDelegation)
    (lives : homeFor (callerHome child.env) child.env = .ok home) (line : List String) :
    dispatch child line = carryOut child line := by
  have given : variableOf child.env versionVariable = some noDelegation := variableOf_given told (by decide)
  funext w
  have detected := detect_given w.tree (callerHome child.env) w.here given
  rw [lives] at detected
  unfold dispatch
  change (Work.ofChecked (detect w.tree (callerHome child.env) child.env w.here) >>= _) w = _
  rw [detected]
  rfl

theorem handed_on {setting : Setting} {line : List String} {w : Workspace} {pin : Pin} {path : Path} {text : String}
    {executable : Bool} (detected : detect w.tree (callerHome setting.env) setting.env w.here = .ok pin)
    (elsewhere : delegatePath pin.requested release pin.home = some path)
    (there : w.tree.find w.here path = .ok (.file text executable)) :
    dispatch setting line w = (do
      let outcome ← Shell.launch (handed setting.env) path line
      return { ending := .code outcome.code } : Work Result) w := by
  have answered : ∀ next : Pin → Work Result, (Work.ofChecked (.ok pin) >>= next) w = next pin w := fun _ => rfl
  have seen : ∀ next : Workspace → Work Result, (get >>= next) w = next w w := fun _ => rfl
  unfold dispatch
  change (Work.ofChecked (detect w.tree (callerHome setting.env) setting.env w.here) >>= _) w = _
  rw [detected, answered]
  simp only [elsewhere]
  unfold delegate
  rw [seen]
  simp only [there]
  rfl

end Handing

-- The variable decides if it holds anything, and otherwise the nearest project file alone: whatever
-- stands above it, the same is asked for, and nothing if there is no such file or it names no release.
-- The release that a call is handed to carries its calls out itself, whatever files there are.
theorem nearest_pin_decides :
    (∀ (t : FileTree) (userHome : String) (env : List (String × String)) (start : Place),
      (∀ version, env.lookup versionVariable = some version → version ≠ "" →
        detect t userHome env start = (homeFor userHome env).map fun home => ⟨some version, home⟩) ∧
      ((∀ version, env.lookup versionVariable = some version → version = "") →
        (∀ place text, Nearest t start place text →
          detect t userHome env start = (do
            let home ← homeFor userHome env
            return ⟨askedBy (← valueOf (fileOf place) text), home⟩) ∧
          ∀ t' : FileTree, (∀ nearer, place <+: nearer → nearer <+: start →
              t'.entryAt? (fileOf nearer) = t.entryAt? (fileOf nearer)) →
            detect t' userHome env start = detect t userHome env start) ∧
        ((∀ place text, ¬ Nearest t start place text) →
          detect t userHome env start = (homeFor userHome env).map fun home => ⟨none, home⟩))) ∧
    ((∀ v, askedBy v = none ↔ ∀ fields, v = .map fields → Fields.getD fields "bashwrap_version" = .null) ∧
      ∀ file, valueOf file "" = .ok .null) ∧
    (∀ (setting : Setting) (w : Workspace) (pin : Pin),
      detect w.tree (callerHome setting.env) setting.env w.here = .ok pin →
        (∀ path text executable line, delegatePath pin.requested release pin.home = some path →
          w.tree.find w.here path = .ok (.file text executable) →
            dispatch setting line w = (do
              let outcome ← Shell.launch (handed setting.env) path line
              return { ending := .code outcome.code } : Work Result) w) ∧
        ∀ child : Setting, child.env = handed setting.env → ∀ line, dispatch child line = carryOut child line) := by
  refine ⟨fun t userHome env start => ⟨fun version found filled => ?_, fun empty => ?_⟩,
    ⟨askedBy_none, fun file => rfl⟩, fun setting w pin detected => ⟨?_, ?_⟩⟩
  · exact detect_given t userHome start (variableOf_given found filled)
  · have missing := variableOf_missing empty
    refine ⟨fun place text nearest => ⟨?_, fun t' same => ?_⟩, fun missed => ?_⟩
    · rw [detect_missing t userHome start missing, projectVersion_nearest nearest]
      cases homeFor userHome env with
      | error fault => rfl
      | ok home =>
        cases valueOf (fileOf place) text <;> rfl
    · rw [detect_missing t userHome start missing, detect_missing t' userHome start missing, projectVersion_nearest nearest,
        projectVersion_nearest (nearest.moved same)]
    · rw [detect_missing t userHome start missing, projectVersion_none missed]
      cases homeFor userHome env <;> rfl
  · exact fun path text executable line elsewhere there => handed_on detected elsewhere there
  · intro child same line
    refine @told_stays child pin.home ?_ ?_ line
    · rw [same]
      exact withVariable_own ..
    · rw [same, handed_home]
      exact detected_home detected

section Below

-- A project file that pins a release that is there, below another project file.
def pinnedBelow (upper : String) : FileTree := ⟨[
  (["_bashwrap.yaml"], .file upper false), (["work"], .directory),
  (["work", "_bashwrap.yaml"], .file "bashwrap_version: 0.2.0\n" false), (["work", "src"], .directory),
  (["root"], .directory), (["root", ".bashwrap"], .directory), (["root", ".bashwrap", "releases"], .directory),
  (["root", ".bashwrap", "releases", "0.2.0"], .directory),
  (["root", ".bashwrap", "releases", "0.2.0", "bashwrap"], .file "" true)]⟩

def rootEnv : List (String × String) := [("HOME", "/root")]

def rootHome : Path := ⟨.root, ["root", ".bashwrap"]⟩

def rootProgram : Path := ⟨.root, ["root", ".bashwrap", "releases", "0.2.0", "bashwrap"]⟩

def belowWork (upper : String) : Workspace := { tree := pinnedBelow upper, here := ["work", "src"] }

theorem rootHome_found : homeFor "/root" rootEnv = .ok rootHome := ok_of_toOption (by decide +kernel)

theorem valueOf_pinned : ∃ v, valueOf (fileOf ["work"]) "bashwrap_version: 0.2.0\n" = .ok v ∧ askedBy v = some "0.2.0" := by
  have asked : pinnedIn ("/" ++ "/".intercalate (fileOf ["work"])) "bashwrap_version: 0.2.0\n" = .ok (some "0.2.0") :=
    ok_of_toOption (by decide +kernel)
  rw [pinnedIn_value] at asked
  cases read : valueOf (fileOf ["work"]) "bashwrap_version: 0.2.0\n" with
  | error fault =>
    rw [read] at asked
    cases asked
  | ok v =>
    rw [read] at asked
    exact ⟨v, rfl, Except.ok.inj asked⟩

theorem nearest_pin_decides_below :
    detect (pinnedBelow "") "/root" rootEnv ["work", "src"] = .ok ⟨some "0.2.0", rootHome⟩ ∧
      detect (pinnedBelow "a: [\n") "/root" rootEnv ["work", "src"] = .ok ⟨some "0.2.0", rootHome⟩ ∧
      detect (pinnedBelow "") "/root" (("BASHWRAP_VERSION", "0.3.0") :: rootEnv) ["work", "src"] =
        .ok ⟨some "0.3.0", rootHome⟩ ∧
      detect {} "/root" rootEnv ["work", "src"] = .ok ⟨none, rootHome⟩ ∧
      dispatch ⟨rootEnv, "1"⟩ ["run"] (belowWork "") = (do
        let outcome ← Shell.launch (handed rootEnv) rootProgram ["run"]
        return { ending := .code outcome.code } : Work Result) (belowWork "") ∧
      dispatch ⟨handed rootEnv, "2"⟩ ["run"] = carryOut ⟨handed rootEnv, "2"⟩ ["run"] := by
  have nearest : Nearest (pinnedBelow "") ["work", "src"] ["work"] "bashwrap_version: 0.2.0\n" := nearest_walked rfl
  have unset : ∀ version, rootEnv.lookup versionVariable = some version → version = "" := fun _ found => absurd found nofun
  have files := (nearest_pin_decides.1 (pinnedBelow "") "/root" rootEnv ["work", "src"]).2 unset
  have below : detect (pinnedBelow "") "/root" rootEnv ["work", "src"] = .ok ⟨some "0.2.0", rootHome⟩ := by
    obtain ⟨v, read, asked⟩ := valueOf_pinned
    rw [(files.1 _ _ nearest).1, rootHome_found, read, ← asked]
    rfl
  have handing := nearest_pin_decides.2.2 ⟨rootEnv, "1"⟩ (belowWork "") ⟨some "0.2.0", rootHome⟩ below
  refine ⟨below, ?_, ?_, ?_, ?_, ?_⟩
  · refine ((files.1 _ _ nearest).2 (pinnedBelow "a: [\n") fun nearer inside _ => ?_).trans below
    obtain ⟨deeper, rfl⟩ := inside
    rfl
  · rw [(nearest_pin_decides.1 _ _ _ _).1 "0.3.0" rfl (by decide)]
    exact congrArg (Except.map _) rootHome_found
  · have missed : ∀ place text, ¬ Nearest {} ["work", "src"] place text := by
      rintro place text ⟨-, ⟨executable, pins⟩, -⟩
      simp [FileTree.entryAt?, fileOf] at pins
    rw [((nearest_pin_decides.1 {} "/root" rootEnv ["work", "src"]).2 unset).2 missed, rootHome_found]
    rfl
  · exact handing.1 rootProgram "" true ["run"] (by decide +kernel) rfl
  · exact handing.2 ⟨handed rootEnv, "2"⟩ rfl ["run"]

end Below

end Toolwrap.Release
