import FilterQuery.Proofs.CommandLine.Loading
import FilterQuery.Proofs.Files.Tree
import Mathlib.Control.Monad.Basic

/-!
# Which files a run changes

A run looks at the world until it writes, and only `config init` writes: directories on the way to
its target, and then the target itself. Every other run leaves the files as they were, and so does
every run that fails.
-/

namespace FilterQuery.CommandLine

namespace World

variable {α β : Type}

/-! ## Directories on the way -/

/-- A world has some more directories than another one and is otherwise the same. -/
def GainsDirectories (w w' : World) : Prop :=
  ∃ new, w' = { w with files := { w.files with directories := w.files.directories ++ new } }

theorem GainsDirectories.refl (w : World) : w.GainsDirectories w :=
  ⟨[], by rw [List.append_nil]⟩

theorem GainsDirectories.trans {w w' w'' : World} (h : w.GainsDirectories w')
    (h' : w'.GainsDirectories w'') : w.GainsDirectories w'' := by
  obtain ⟨new, rfl⟩ := h
  obtain ⟨new', rfl⟩ := h'
  exact ⟨new ++ new', by rw [List.append_assoc]⟩

/-- A step that changes no more than to make directories. -/
def MakesDirectories (act : StateM World α) : Prop :=
  ∀ w : World, w.GainsDirectories (act.run w).run.2

theorem MakesDirectories.pure (a : α) : MakesDirectories (Pure.pure a : StateM World α) :=
  GainsDirectories.refl

theorem MakesDirectories.bind {act : StateM World α} {k : α → StateM World β}
    (hact : MakesDirectories act) (hk : ∀ a, MakesDirectories (k a)) :
    MakesDirectories (act >>= k) := by
  intro w
  rw [StateT.run_bind, Id.run_bind]
  exact (hact w).trans (hk _ _)

/-- A change of the files is made unless it is an error. -/
theorem run_change (w : World) (f : FileTree → Except FileError FileTree) :
    ((change f).run w).run =
      match f w.files with
      | .ok files => (.ok (), { w with files })
      | .error e => (.error e, w) := by
  cases h : f w.files with
  | error e => simp [change, h]
  | ok files => simp [change, h]

theorem makesDirectories_makeDirectory (path : String) :
    MakesDirectories (host.makeDirectory path) := by
  intro w
  show w.GainsDirectories ((change (·.makeDirectory path)).run w).run.2
  rw [run_change]
  cases h : w.files.makeDirectory path with
  | error e => exact .refl w
  | ok files =>
    obtain ⟨place, -, -, rfl⟩ := FileTree.makeDirectory_eq_ok_iff.mp h
    exact ⟨[place], rfl⟩

/-- However deep it goes, making directories does no more than that. -/
theorem makesDirectories_makeDirectories (path : String) (fuel : Nat) :
    MakesDirectories (makeDirectories host path fuel) := by
  induction fuel generalizing path with
  | zero => exact .pure _
  | succ fuel ih =>
    have hthere (e : FileError) : MakesDirectories (do
        if ← host.hasDirectory path then return .ok () else return .error e :
          StateM World (Except FileError Unit)) := by
      refine .bind (fun w => .refl w) fun b => ?_
      cases b <;> exact .pure _
    rw [makeDirectories]
    split
    · exact .pure _
    · refine .bind (makesDirectories_makeDirectory path) fun r => ?_
      split
      · exact .pure _
      · split
        · exact .pure _
        · refine .bind (ih _) fun r => ?_
          split
          · exact .pure _
          · refine .bind (makesDirectories_makeDirectory path) fun r => ?_
            split
            · exact .pure _
            · exact hthere _
      · exact hthere _

theorem GainsDirectories.extends {w w' : World} (h : w.GainsDirectories w') :
    w'.files.Extends w.files := by
  obtain ⟨new, rfl⟩ := h
  refine ⟨rfl, fun place hplace => ?_⟩
  rw [FileTree.isDirectory, Bool.or_eq_true] at hplace ⊢
  refine hplace.imp_right fun hmem => ?_
  rw [List.contains_iff_mem] at hmem ⊢
  exact List.mem_append_left new hmem

/-! ## Writing settings -/

/-- The last step writes the file, if that is possible. -/
theorem run_attempt_write (w : World) (doing : Cause) (path content : String) :
    w.run (attempt doing (host.write path content)) =
      match w.files.write path content with
      | .ok files => (.ok (), { w with files })
      | .error e => (.error [doing, .file e], w) := by
  have hrun : ((host.write path content).run w).run = ((change (·.write path content)).run w).run :=
    rfl
  rw [run_attempt, hrun, run_change]
  cases w.files.write path content <;> rfl

/-- Writing settings makes the directories on the way and then, unless something fails, the file. -/
theorem run_writeSettings (w : World) (path : String) :
    ∃ w', w.GainsDirectories w' ∧
      ((∃ f, w.run (writeSettings host path) = (.error f, w')) ∨
        ∃ files, w'.files.write path Settings.standard.text = .ok files ∧
          w.run (writeSettings host path) = (.ok (), { w' with files })) := by
  have hwrite (w' : World)
      (hrun : w.run (writeSettings host path) =
        w'.run (attempt (.writeSettings path) (host.write path Settings.standard.text))) :
      (∃ f, w.run (writeSettings host path) = (.error f, w')) ∨
        ∃ files, w'.files.write path Settings.standard.text = .ok files ∧
          w.run (writeSettings host path) = (.ok (), { w' with files }) := by
    rw [hrun, run_attempt_write]
    cases w'.files.write path Settings.standard.text with
    | error e => exact .inl ⟨_, rfl⟩
    | ok files => exact .inr ⟨files, rfl, rfl⟩
  cases hparent : (Path.parent? path).filter (· ≠ "") with
  | none =>
    refine ⟨w, .refl w, hwrite w ?_⟩
    rw [writeSettings, hparent]
  | some parent =>
    refine ⟨_, makesDirectories_makeDirectories parent (parent.length + 1) w, ?_⟩
    have hmade := w.run_attempt (.makeDirectory parent)
      (makeDirectories host parent (parent.length + 1))
    cases hr : ((makeDirectories host parent (parent.length + 1)).run w).run.1 with
    | error e =>
      refine .inl ⟨[.makeDirectory parent, .file e], ?_⟩
      rw [writeSettings, hparent]
      dsimp only
      rw [run_bind, hmade, hr]
      rfl
    | ok _ =>
      refine hwrite _ ?_
      rw [writeSettings, hparent]
      dsimp only
      rw [run_bind, hmade, hr]
      rfl

/-! ## What `config init` leaves behind -/

/-- A settings file has been written at a target. -/
structure Writes (w w' : World) (force : Bool) (target : String) : Prop where
  /-- Nothing but the files has changed. -/
  rest : w' = { w with files := w'.files }
  /-- The target holds the standard settings, and every other file is as it was. -/
  only : ∃ place, w'.files.locate target = .ok place ∧
    w'.files.file? place = some Settings.standard.text ∧
      ∀ other, other ≠ place → w'.files.file? other = w.files.file? other
  /-- Without force the target led to nothing. -/
  absent : force = false → w.files.hasPath target = false
  /-- Without force there was no file at the target, unless the path of the target goes back. -/
  fresh : force = false → w.files.Rooted → ".." ∉ Path.pieces target →
    ∀ place, w'.files.locate target = .ok place → w.files.file? place = none
  /-- The file is one that can be checked. -/
  checks : ∀ s path, w'.run (perform host s path (.checkSettings (some target))) =
    (.ok ("Configuration is valid: " ++ target ++ "\n"), w')

/-- The standard settings are read back from their own text. -/
theorem ofText?_text_standard : Settings.ofText? Settings.standard.text = some .standard := by
  decide +kernel

/-- The `config check` command says what reading the settings of the target comes to. -/
theorem run_checkSettings {w : World} {given path : Option String} {target : String}
    {r : Except Failure Settings} (htarget : (given <|> path) = some target)
    (h : w.Holds target r) (s : Settings) :
    w.run (perform host s path (.checkSettings given)) =
      (r.map fun _ => "Configuration is valid: " ++ target ++ "\n", w) := by
  rw [perform, htarget]
  dsimp only
  rw [run_bind, w.holds_iff.mp h]
  cases r <;> rfl

/-- Where a file has been written behind new directories, it is all that has changed. -/
theorem writes_of_write {w made : World} {target : String} {force : Bool} {files : FileTree}
    (hmade : w.GainsDirectories made)
    (hwrite : made.files.write target Settings.standard.text = .ok files)
    (habsent : force = false → w.files.hasPath target = false) :
    w.Writes { made with files } force target := by
  obtain ⟨place, hplace, hdir, hlocate, hread, hfile, hothers⟩ :=
    FileTree.exists_place_of_write hwrite
  have hkept (other : Place) : made.files.file? other = w.files.file? other := by
    obtain ⟨_, rfl⟩ := hmade
    rfl
  constructor
  · obtain ⟨_, rfl⟩ := hmade
    rfl
  · exact ⟨place, hlocate, hfile, fun other hne => (hothers other hne).trans (hkept other)⟩
  · exact habsent
  · intro hforce hrooted hback place' hplace'
    obtain rfl : place = place' := Except.ok.inj (hlocate.symm.trans hplace')
    cases hold : w.files.file? place with
    | none => rfl
    | some content =>
      have hled := hrooted.locate hmade.extends hback hplace hdir hold
      have hpath := FileTree.hasPath_of_file? hled hold
      rw [habsent hforce] at hpath
      cases hpath
  · exact fun s path =>
      run_checkSettings rfl (.usable hread ofText?_text_standard (by decide)) s

/-! ## What a run leaves behind -/

/-- What a command leaves behind. -/
inductive Leaves (w : World) : Command → Except Failure String → World → Prop where
  /-- Every command but `config init` leaves all as it was. -/
  | same {c : Command} (hc : ∀ given force, c ≠ .initSettings given force)
      (said : Except Failure String) : Leaves w c said w
  /-- A `config init` that fails leaves new directories at most. -/
  | stopped {given : Option String} {force : Bool} {f : Failure} {w' : World}
      (hgains : w.GainsDirectories w') : Leaves w (.initSettings given force) (.error f) w'
  /-- A `config init` that succeeds has written its target. -/
  | written {given : Option String} {force : Bool} {target text : String} {w' : World}
      (htarget : (given <|> w.userSettings) = some target) (hwrites : w.Writes w' force target) :
      Leaves w (.initSettings given force) (.ok text) w'

/-- The `config init` command stops at a target that is there, unless it is forced, and else writes
the settings. -/
theorem run_initSettings (w : World) (s : Settings) (path given : Option String) (force : Bool) :
    w.run (perform host s path (.initSettings given force)) =
      match given <|> w.userSettings with
      | none => (.error [.noSettingsDirectory], w)
      | some target =>
        if !force && w.files.hasPath target then (.error [.settingsExist target], w)
        else
          match w.run (writeSettings host target) with
          | (.ok (), w') => (.ok ("Created config file: " ++ target ++ "\n"), w')
          | (.error f, w') => (.error f, w') := by
  have huser : w.run (liftM host.userSettings?) = (.ok w.userSettings, w) := rfl
  rw [perform, run_bind, huser]
  dsimp only
  cases given <|> w.userSettings with
  | none => rfl
  | some target =>
    have hpath : w.run (liftM (host.hasPath target)) = (.ok (w.files.hasPath target), w) := rfl
    dsimp only
    rw [run_bind, hpath]
    dsimp only
    cases !force && w.files.hasPath target with
    | true => rfl
    | false =>
      show w.run (writeSettings host target >>= fun _ =>
        pure ("Created config file: " ++ target ++ "\n")) = _
      rw [if_neg Bool.false_ne_true, run_bind]
      rcases w.run (writeSettings host target) with ⟨_ | _, _⟩ <;> rfl

/-- A command leaves behind what it may. -/
theorem leaves_perform (w : World) (s : Settings) (path : Option String) (c : Command) :
    w.Leaves c (w.run (perform host s path c)).1 (w.run (perform host s path c)).2 := by
  have hsame (hc : ∀ given force, c ≠ .initSettings given force)
      (hw : (w.run (perform host s path c)).2 = w) :
      w.Leaves c (w.run (perform host s path c)).1 (w.run (perform host s path c)).2 := by
    rw [hw]
    exact .same hc _
  cases c with
  | compile input table dialect pretty o =>
    exact hsame (by rintro _ _ ⟨⟩) (congrArg Prod.snd (w.run_query input (.compile input)
      (compileText s table dialect pretty o)))
  | validate input o =>
    exact hsame (by rintro _ _ ⟨⟩) (congrArg Prod.snd (w.run_query input (.validate input)
      (validateText s input o)))
  | operators fieldType json => exact hsame (by rintro _ _ ⟨⟩) rfl
  | showSettings => exact hsame (by rintro _ _ ⟨⟩) rfl
  | checkSettings given =>
    refine hsame (by rintro _ _ ⟨⟩) ?_
    cases htarget : given <|> path with
    | none =>
      rw [perform, htarget]
      rfl
    | some target =>
      obtain ⟨r, hr⟩ := w.exists_holds target
      rw [run_checkSettings htarget hr s]
  | initSettings given force =>
    rw [run_initSettings]
    cases htarget : given <|> w.userSettings with
    | none => exact .stopped (.refl w)
    | some target =>
      dsimp only
      cases hstop : !force && w.files.hasPath target with
      | true => exact .stopped (.refl w)
      | false =>
        rw [if_neg Bool.false_ne_true]
        obtain ⟨made, hmade, ⟨f, hrun⟩ | ⟨files, hwrite, hrun⟩⟩ := w.run_writeSettings target
        · rw [hrun]
          exact .stopped hmade
        · rw [hrun]
          refine .written htarget (writes_of_write hmade hwrite fun hforce => ?_)
          rw [hforce] at hstop
          exact hstop

end World

/-- A run is under the settings that are loaded, and stops where they cannot be. Otherwise it says
what its command has to say, and only a successful `config init` changes a file: its target. -/
theorem Invocation.run_writes_target (i : Invocation) (w : World) :
    ∃ loaded, w.Loads i.settings loaded ∧
      (∀ other, w.Loads i.settings other → other = loaded) ∧
        match loaded with
        | .error f => w.run (i.run World.host) = (.error f, w)
        | .ok (s, path) => ∃ said left,
          w.run (perform World.host s path i.command) = (said, left) ∧
            w.Leaves i.command said left ∧
              w.run (i.run World.host) = match said with
                | .error f => (.error f, left)
                | .ok text => (.ok (max i.verbose s.verbosity),
                    { left with output := left.output ++ text }) := by
  obtain ⟨loaded, hloaded⟩ := w.exists_loads i.settings
  have hload := w.run_of_loads hloaded
  refine ⟨loaded, hloaded, fun other hother => ?_, ?_⟩
  · exact congrArg Prod.fst ((w.run_of_loads hother).symm.trans hload)
  · rw [Invocation.run, World.run_bind, hload]
    cases loaded with
    | error f => rfl
    | ok loaded =>
      obtain ⟨s, path⟩ := loaded
      have hleaves := w.leaves_perform s path i.command
      rcases hrun : w.run (perform World.host s path i.command) with ⟨said, left⟩
      rw [hrun] at hleaves
      refine ⟨said, left, hrun, hleaves, ?_⟩
      dsimp only
      rw [World.run_bind, hrun]
      cases said <;> rfl

/-- A settings file is written beside another one, which is left alone. -/
theorem Invocation.run_writes_target_beside :
    let w : World := ⟨.ofFiles "/work" [("conf/old.toml", "keep")], "", [], .dayOne, none, ""⟩
    let i : Invocation := ⟨0, none, .initSettings (some "conf/new.toml") false⟩
    w.Loads i.settings (.ok (.standard, none)) ∧ (w.run (i.run World.host)).1 = .ok 0 ∧
      ∃ left, w.Writes left false "conf/new.toml" ∧
        (∀ place, left.files.locate "conf/new.toml" = .ok place → w.files.file? place = none) ∧
          left.files.read "conf/new.toml" = .ok Settings.standard.text ∧
            left.files.read "conf/old.toml" = .ok "keep" := by
  intro w i
  have hloads : w.Loads i.settings (.ok (.standard, none)) :=
    .standard rfl nofun nofun
  obtain ⟨loaded, -, hone, h⟩ := i.run_writes_target w
  obtain rfl := hone _ hloads
  obtain ⟨said, left, hperform, hleaves, hrun⟩ := h
  let ended := w.run (perform World.host .standard none i.command)
  have hsaid : ended.1 = .ok "Created config file: conf/new.toml\n" := by decide +kernel
  have hnew : ended.2.files.read "conf/new.toml" = .ok Settings.standard.text := by decide +kernel
  have hold : ended.2.files.read "conf/old.toml" = .ok "keep" := by decide +kernel
  rw [show ended = (said, left) from hperform] at hsaid hnew hold
  subst hsaid
  have hwrites : w.Writes left false "conf/new.toml" := by
    cases hleaves with
    | same hc => exact absurd rfl (hc _ _)
    | written htarget hwrites =>
      obtain rfl := Option.some.inj htarget
      exact hwrites
  have hfresh := hwrites.fresh rfl (FileTree.rooted_ofFiles _ _) (by decide +kernel)
  exact ⟨hloads, congrArg Prod.fst hrun, left, hwrites, hfresh, hnew, hold⟩

/-- A path that goes through a missing directory and back leads to nothing until the directory is
made, and then to a file that is overwritten without force. -/
theorem Invocation.run_overwrites_behind_new_directory :
    let w : World :=
      ⟨.ofFiles "/work" [("b.toml", "keep")], "", [], .dayOne, none, ""⟩
    let i : Invocation := ⟨0, none, .initSettings (some "a/../b.toml") false⟩
    w.files.read "b.toml" = .ok "keep" ∧ (w.run (i.run World.host)).1 = .ok 0 ∧
      (w.run (i.run World.host)).2.files.read "b.toml" = .ok Settings.standard.text := by
  intro w i
  refine ⟨?_, ?_, ?_⟩ <;> decide +kernel

end FilterQuery.CommandLine
