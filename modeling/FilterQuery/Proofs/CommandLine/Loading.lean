import FilterQuery.Proofs.CommandLine.Steps
import FilterQuery.Proofs.Outcome

/-!
# Which settings are in force

A run is under the settings of the file that is named on the command line, else of the one that the
variable names unless it is blank, else of the user's file if there is one, else under the standard
settings. A named file has to be there, and the one that counts has to hold settings without a flaw.
-/

namespace FilterQuery.CommandLine.World

variable (w : World)

/-- What reading the settings of a file comes to. -/
inductive Holds (path : String) : Except Failure Settings → Prop where
  /-- The file cannot be read. -/
  | unreadable {e : FileError} (hread : w.files.read path = .error e) :
    Holds path (.error [.readSettings path, .file e])
  /-- The file holds no settings. -/
  | malformed {text : String} (hread : w.files.read path = .ok text)
      (htext : Settings.ofText? text = none) :
    Holds path (.error [.parseSettings path, .notSettings])
  /-- The settings have a flaw. -/
  | flawed {text : String} {s : Settings} {f : Settings.Flaw} (hread : w.files.read path = .ok text)
      (htext : Settings.ofText? text = some s) (hflaw : s.flaw? = some f) :
    Holds path (.error [.invalidSettings path, .flaw f])
  /-- The settings can be used. -/
  | usable {text : String} {s : Settings} (hread : w.files.read path = .ok text)
      (htext : Settings.ofText? text = some s) (hflaw : s.flaw? = none) : Holds path (.ok s)

/-- The variable names no settings file: it is not there or blank. -/
def VariableOpen : Prop :=
  ∀ path, w.environment.lookup settingsVariable = some path → Text.isBlankText path = true

/-- What loading the settings comes to, with the file that is named on the command line. -/
inductive Loads (given : Option String) : Except Failure (Settings × Option String) → Prop where
  /-- The named file is missing. -/
  | missing {path : String} (hgiven : given = some path) (hpath : w.files.hasPath path = false) :
    Loads given (.error [.settingsMissing path])
  /-- The named file counts. -/
  | named {path : String} {r : Except Failure Settings} (hgiven : given = some path)
      (hpath : w.files.hasPath path = true) (hr : w.Holds path r) :
    Loads given (r.map (·, some path))
  /-- The file of the variable is missing. -/
  | missingFromVariable {path : String} (hgiven : given = none)
      (hvariable : w.environment.lookup settingsVariable = some path)
      (hblank : Text.isBlankText path = false) (hpath : w.files.hasPath path = false) :
    Loads given (.error [.settingsMissingFromVariable path])
  /-- The file of the variable counts. -/
  | fromVariable {path : String} {r : Except Failure Settings} (hgiven : given = none)
      (hvariable : w.environment.lookup settingsVariable = some path)
      (hblank : Text.isBlankText path = false) (hpath : w.files.hasPath path = true)
      (hr : w.Holds path r) :
    Loads given (r.map (·, some path))
  /-- The user's file counts. -/
  | user {path : String} {r : Except Failure Settings} (hgiven : given = none)
      (hvariable : w.VariableOpen) (huser : w.userSettings = some path)
      (hpath : w.files.hasPath path = true) (hr : w.Holds path r) :
    Loads given (r.map (·, some path))
  /-- There is no file. -/
  | standard (hgiven : given = none) (hvariable : w.VariableOpen)
      (huser : ∀ path, w.userSettings = some path → w.files.hasPath path = false) :
    Loads given (.ok (.standard, none))

/-! ## Loading -/

/-- Reading the settings of a file comes to one thing only, and leaves the world as it is. -/
theorem holds_iff {path : String} {r : Except Failure Settings} :
    w.Holds path r ↔ w.run (readUsableSettings host path) = (r, w) := by
  have hread : w.run (attempt (.readSettings path) (host.read path)) =
      ((w.files.read path).mapError fun e => [.readSettings path, .file e], w) :=
    w.run_attempt _ _
  simp only [readUsableSettings, readSettings, run_bind, hread]
  constructor
  · rintro (hfile | ⟨hfile, htext⟩ | ⟨hfile, htext, hflaw⟩ | ⟨hfile, htext, hflaw⟩)
    · rw [hfile]
      rfl
    · simp only [hfile, mapError_ok, htext, run_throw]
    · simp only [hfile, mapError_ok, htext, hflaw, run_throw, run_pure]
    · simp only [hfile, mapError_ok, htext, hflaw, run_pure]
  · intro h
    cases hfile : w.files.read path with
    | error e =>
      rw [hfile] at h
      cases h
      exact .unreadable hfile
    | ok text =>
      cases htext : Settings.ofText? text with
      | none =>
        simp only [hfile, mapError_ok, htext, run_throw] at h
        cases h
        exact .malformed hfile htext
      | some s =>
        cases hflaw : s.flaw? with
        | some f =>
          simp only [hfile, mapError_ok, htext, hflaw, run_throw, run_pure] at h
          cases h
          exact .flawed hfile htext hflaw
        | none =>
          simp only [hfile, mapError_ok, htext, hflaw, run_pure] at h
          cases h
          exact .usable hfile htext hflaw

theorem exists_holds (path : String) : ∃ r, w.Holds path r := by
  cases hfile : w.files.read path with
  | error e => exact ⟨_, .unreadable hfile⟩
  | ok text =>
    cases htext : Settings.ofText? text with
    | none => exact ⟨_, .malformed hfile htext⟩
    | some s =>
      cases hflaw : s.flaw? with
      | some f => exact ⟨_, .flawed hfile htext hflaw⟩
      | none => exact ⟨_, .usable hfile htext hflaw⟩

theorem run_existing (missing : Cause) (path : String) :
    w.run (existing host missing path) =
      (if w.files.hasPath path then .ok path else .error [missing], w) := by
  have hpath : w.run (liftM (host.hasPath path)) = (.ok (w.files.hasPath path), w) := rfl
  rw [existing, run_bind, hpath]
  cases w.files.hasPath path <;> rfl

/-! ## Finding the file -/

/-- Where the file is not found, nothing is loaded. -/
theorem run_loadSettings_of_error {given : Option String} {f : Failure}
    (h : w.run (findSettings host given) = (.error f, w)) :
    w.run (loadSettings host given) = (.error f, w) := by
  rw [loadSettings, run_bind, h]

/-- Where there is no file, the standard settings are loaded. -/
theorem run_loadSettings_of_none {given : Option String}
    (h : w.run (findSettings host given) = (.ok none, w)) :
    w.run (loadSettings host given) = (.ok (.standard, none), w) := by
  rw [loadSettings, run_bind, h]
  rfl

/-- Where a file is found, its settings are loaded with its path. -/
theorem run_loadSettings_of_holds {given : Option String} {path : String}
    {r : Except Failure Settings} (h : w.run (findSettings host given) = (.ok (some path), w))
    (hr : w.Holds path r) :
    w.run (loadSettings host given) = (r.map (·, some path), w) := by
  rw [loadSettings, run_bind, h]
  dsimp only
  rw [run_bind, w.holds_iff.mp hr]
  cases r <;> rfl

theorem run_findSettings_some (path : String) :
    w.run (findSettings host (some path)) =
      (if w.files.hasPath path then .ok (some path) else .error [.settingsMissing path], w) := by
  rw [findSettings, run_bind, run_existing]
  cases w.files.hasPath path <;> rfl

theorem run_findSettings_variable {path : String}
    (hvariable : w.environment.lookup settingsVariable = some path)
    (hblank : Text.isBlankText path = false) :
    w.run (findSettings host none) =
      (if w.files.hasPath path then .ok (some path)
        else .error [.settingsMissingFromVariable path], w) := by
  have hlookup : w.run (liftM (host.environment settingsVariable)) = (.ok (some path), w) := by
    rw [← hvariable]
    rfl
  have hfilter : (some path).filter (fun path => !Text.isBlankText path) = some path := by
    rw [Option.filter, hblank]
    rfl
  rw [findSettings, run_bind, hlookup]
  dsimp only
  rw [hfilter]
  dsimp only
  rw [run_bind, run_existing]
  cases w.files.hasPath path <;> rfl

theorem run_findSettings_user (hvariable : w.VariableOpen) :
    w.run (findSettings host none) =
      (.ok (w.userSettings.filter fun path => w.files.hasPath path), w) := by
  have hlookup : w.run (liftM (host.environment settingsVariable)) =
      (.ok (w.environment.lookup settingsVariable), w) := rfl
  have hfilter : (w.environment.lookup settingsVariable).filter
      (fun path => !Text.isBlankText path) = none := by
    cases h : w.environment.lookup settingsVariable with
    | none => rfl
    | some path => rw [Option.filter, hvariable path h]; rfl
  have huser : w.run (liftM host.userSettings?) = (.ok w.userSettings, w) := rfl
  rw [findSettings, run_bind, hlookup]
  dsimp only
  rw [hfilter]
  dsimp only
  rw [run_bind, huser]
  cases w.userSettings with
  | none => rfl
  | some path =>
    have hpath : w.run (liftM (host.hasPath path)) = (.ok (w.files.hasPath path), w) := rfl
    dsimp only
    rw [run_bind, hpath, Option.filter]
    cases w.files.hasPath path <;> rfl

/-- Loading comes to what it is said to come to, and leaves the world as it is. -/
theorem run_of_loads {given : Option String} {r : Except Failure (Settings × Option String)}
    (h : w.Loads given r) : w.run (loadSettings host given) = (r, w) := by
  cases h with
  | missing hgiven hpath =>
    subst hgiven
    exact w.run_loadSettings_of_error (by rw [run_findSettings_some, hpath]; rfl)
  | named hgiven hpath hr =>
    subst hgiven
    exact w.run_loadSettings_of_holds (by rw [run_findSettings_some, hpath]; rfl) hr
  | missingFromVariable hgiven hvariable hblank hpath =>
    subst hgiven
    exact w.run_loadSettings_of_error
      (by rw [w.run_findSettings_variable hvariable hblank, hpath]; rfl)
  | fromVariable hgiven hvariable hblank hpath hr =>
    subst hgiven
    exact w.run_loadSettings_of_holds
      (by rw [w.run_findSettings_variable hvariable hblank, hpath]; rfl) hr
  | user hgiven hvariable huser hpath hr =>
    subst hgiven
    exact w.run_loadSettings_of_holds
      (by rw [w.run_findSettings_user hvariable, huser, Option.filter, hpath]; rfl) hr
  | standard hgiven hvariable huser =>
    subst hgiven
    refine w.run_loadSettings_of_none ?_
    rw [w.run_findSettings_user hvariable]
    cases h : w.userSettings with
    | none => rfl
    | some path => rw [Option.filter, huser path h]; rfl

/-- Loading always comes to something. -/
theorem exists_loads (given : Option String) : ∃ r, w.Loads given r := by
  cases given with
  | some path =>
    cases hpath : w.files.hasPath path with
    | false => exact ⟨_, .missing rfl hpath⟩
    | true =>
      obtain ⟨r, hr⟩ := w.exists_holds path
      exact ⟨_, .named rfl hpath hr⟩
  | none =>
    by_cases hvariable : w.VariableOpen
    · by_cases huser : ∀ path, w.userSettings = some path → w.files.hasPath path = false
      · exact ⟨_, .standard rfl hvariable huser⟩
      · simp only [Classical.not_forall, Bool.not_eq_false] at huser
        obtain ⟨path, huser, hpath⟩ := huser
        obtain ⟨r, hr⟩ := w.exists_holds path
        exact ⟨_, .user rfl hvariable huser hpath hr⟩
    · simp only [VariableOpen, Classical.not_forall, Bool.not_eq_true] at hvariable
      obtain ⟨path, hvariable, hblank⟩ := hvariable
      cases hpath : w.files.hasPath path with
      | false => exact ⟨_, .missingFromVariable rfl hvariable hblank hpath⟩
      | true =>
        obtain ⟨r, hr⟩ := w.exists_holds path
        exact ⟨_, .fromVariable rfl hvariable hblank hpath hr⟩

end FilterQuery.CommandLine.World
