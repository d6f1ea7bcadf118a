import PackagePlan.CommandLine
import PackagePlan.Proofs.Settings.Faults
import PackagePlan.Proofs.SpecFaults

/-! # Which phase decides a run

The compilation of a spec file goes through six phases (`Phase`).  `Fault` says for each phase,
apart from the others, what is wrong with the things that it reads.  The run fails with a fault
of the first phase that has one, and what only later phases read does not matter.

* `fault_settings_iff`, `fault_overrides_iff`, `fault_preconditions_iff`, `fault_steps_iff` : the
  faults of the phases are the errors of what the program does in them.
* `compilePlan_eq_error_iff` : a compilation fails with the first fault.
* `fault_congr` : what a phase reads decides its faults.
* `first_phase_decides` : what the command line answers. -/

namespace PackagePlan

/-! ### Phases -/

/-- The phases of a compilation, in the order in which they are carried out. -/
inductive Phase where
  | settings
  | overrides
  | file
  | document
  | preconditions
  | steps
deriving DecidableEq

/-- The number of phases before a phase. -/
def Phase.rank : Phase → Nat
  | settings => 0
  | overrides => 1
  | file => 2
  | document => 3
  | preconditions => 4
  | steps => 5

theorem Phase.rank_injective : ∀ phase other : Phase, phase.rank = other.rank → phase = other := by
  intro phase other h
  cases phase <;> cases other <;> first | rfl | cases h

namespace Surroundings
variable (around : Surroundings)

/-- The file at a path holds the bytes of a text. -/
def Holds (path text : String) : Prop := around.contentsOf path = .ok (Text.Utf8.encode text)

/-- The file at a path holds a text that spells a spec. -/
def HoldsSpec (path : String) (spec : Spec) : Prop :=
  ∃ text, around.Holds path text ∧ Spec.Spells text spec

/-- The settings are those of a file: of the one that is asked for, or else of the default one. -/
def Chooses (config : Option String) (file : String) : Prop :=
  config = some file ∨
    config = none ∧ around.hasConfigPlace = true ∧ around.defaultConfig = some file

end Surroundings

namespace Command

section
variable (around : Surroundings) (path : String) (config : Option String)

/-- What is wrong in a phase with what it reads, whatever holds of the phases before. -/
inductive Fault : Phase → Error → Prop
  | noPlace (unasked : config = none) (nowhere : around.hasConfigPlace = false) :
      Fault .settings (.config (.notFound "config directory"))
  | unreadable {file : String} (chosen : around.Chooses config file)
      (noText : ∀ text, ¬ around.Holds file text) : Fault .settings (.config (.notFound file))
  | unfit {file text : String} {fault : ConfigError} (chosen : around.Chooses config file)
      (holds : around.Holds file text) (unfit : Settings.Unfit text fault) :
      Fault .settings (.config fault)
  | unmergeable {fault : ConfigError}
      (unmergeable : Settings.Unmergeable around.lookupVariable fault) :
      Fault .overrides (.config fault)
  | file {fault : FileFault} (unreadable : around.contentsOf path = .error fault) :
      Fault .file (.file fault.message (some path))
  | document {bytes : List UInt8} {fault : SpecFault}
      (contents : around.contentsOf path = .ok bytes) (unfit : Spec.Unfit bytes fault) :
      Fault .document (.schema (.specParse fault))
  | preconditions {spec : Spec} {fault : PreconditionError} (holds : around.HoldsSpec path spec)
      (first : spec.FirstFault fault) : Fault .preconditions (.precondition fault)
  | steps {spec : Spec} {e : Error} (holds : around.HoldsSpec path spec)
      (fails : spec.synthesize.result Catalog.bundled = .error e) : Fault .steps e

/-- A fault of a phase, with no fault in a phase before. -/
def FirstFault (phase : Phase) (e : Error) : Prop :=
  Fault around path config phase e ∧
    ∀ (earlier : Phase) (e' : Error), earlier.rank < phase.rank →
      ¬ Fault around path config earlier e'

end

variable {around : Surroundings} {path file : String} {config tree : Option String}
  {settings : Settings} {spec : Spec} {e : Error}

/-! ### Settings and variables -/

theorem settingsAt_of_holds {text : String} (h : around.Holds file text) :
    settingsAt around file = (Settings.ofToml text).mapError .config := by
  unfold Surroundings.Holds at h
  unfold settingsAt
  simp only [h, Text.Utf8.decode_eq_ok_iff.mpr rfl]

theorem settingsAt_of_not_holds (h : ∀ text, ¬ around.Holds file text) :
    settingsAt around file = .error (.config (.notFound file)) := by
  unfold settingsAt
  cases hcontents : around.contentsOf file with
  | error _ => rfl
  | ok bytes =>
      cases htext : Text.Utf8.decode bytes with
      | error _ => simp only [htext]
      | ok text =>
          rw [← Text.Utf8.decode_eq_ok_iff.mp htext] at hcontents
          exact absurd hcontents (h text)

theorem loadSettings_of_chooses (h : around.Chooses config file) :
    loadSettings around config = settingsAt around file := by
  unfold loadSettings
  rcases h with rfl | ⟨rfl, hplace, hdefault⟩
  · rfl
  · simp only [hplace, hdefault, if_true]

/-- How loading goes: over the text of a file, over a file without text, and without a file. -/
theorem loadSettings_cases (around : Surroundings) (config : Option String) :
    (∃ file text, around.Chooses config file ∧ around.Holds file text ∧
      loadSettings around config = (Settings.ofToml text).mapError .config) ∨
    (∃ file, around.Chooses config file ∧ (∀ text, ¬ around.Holds file text) ∧
      loadSettings around config = .error (.config (.notFound file))) ∨
    (config = none ∧ around.hasConfigPlace = false ∧
      loadSettings around config = .error (.config (.notFound "config directory"))) ∨
    (config = none ∧ around.hasConfigPlace = true ∧ around.defaultConfig = none ∧
      loadSettings around config = .ok {}) := by
  have hfile : ∀ file, around.Chooses config file →
      (∃ text, around.Holds file text ∧
        loadSettings around config = (Settings.ofToml text).mapError .config) ∨
      (∀ text, ¬ around.Holds file text) ∧
        loadSettings around config = .error (.config (.notFound file)) := by
    intro file hchosen
    rw [loadSettings_of_chooses hchosen]
    by_cases hholds : ∃ text, around.Holds file text
    · obtain ⟨text, hholds⟩ := hholds
      exact .inl ⟨text, hholds, settingsAt_of_holds hholds⟩
    · exact .inr ⟨not_exists.mp hholds, settingsAt_of_not_holds (not_exists.mp hholds)⟩
  by_cases hchosen : ∃ file, around.Chooses config file
  · obtain ⟨file, hchosen⟩ := hchosen
    rcases hfile file hchosen with ⟨text, hholds, hload⟩ | ⟨hnone, hload⟩
    · exact .inl ⟨file, text, hchosen, hholds, hload⟩
    · exact .inr (.inl ⟨file, hchosen, hnone, hload⟩)
  · have hnone := not_exists.mp hchosen
    cases config with
    | some file => exact absurd (.inl rfl) (hnone file)
    | none =>
        unfold loadSettings
        cases hplace : around.hasConfigPlace with
        | false => exact .inr (.inr (.inl ⟨rfl, rfl, rfl⟩))
        | true =>
            cases hdefault : around.defaultConfig with
            | some file => exact absurd (.inr ⟨rfl, hplace, hdefault⟩) (hnone file)
            | none => exact .inr (.inr (.inr ⟨rfl, rfl, rfl, rfl⟩))

theorem fault_settings_iff :
    Fault around path config .settings e ↔ loadSettings around config = .error e := by
  constructor
  · intro h
    cases h with
    | noPlace hunasked hplace =>
        rw [hunasked]
        unfold loadSettings
        simp [hplace]
    | unreadable hchosen hnone =>
        rw [loadSettings_of_chooses hchosen, settingsAt_of_not_holds hnone]
    | unfit hchosen hholds hunfit =>
        rw [loadSettings_of_chooses hchosen, settingsAt_of_holds hholds,
          Settings.ofToml_eq_error_iff.mpr hunfit]
        rfl
  · intro h
    rcases loadSettings_cases around config with ⟨file, text, hchosen, hholds, hload⟩ |
      ⟨file, hchosen, hnone, hload⟩ | ⟨hunasked, hplace, hload⟩ | ⟨_, _, _, hload⟩
    · rw [hload] at h
      cases hread : Settings.ofToml text with
      | ok _ =>
          rw [hread] at h
          cases h
      | error fault =>
          rw [hread] at h
          cases h
          exact .unfit hchosen hholds (Settings.ofToml_eq_error_iff.mp hread)
    · cases hload.symm.trans h
      exact .unreadable hchosen hnone
    · cases hload.symm.trans h
      exact .noPlace hunasked hplace
    · cases hload.symm.trans h

theorem validate_of_loadSettings (h : loadSettings around config = .ok settings) :
    settings.validate = .ok () := by
  rcases loadSettings_cases around config with ⟨_, text, _, _, hload⟩ | ⟨_, _, _, hload⟩ |
    ⟨_, _, hload⟩ | ⟨_, _, _, hload⟩
  · rw [hload] at h
    cases hread : Settings.ofToml text with
    | error _ =>
        rw [hread] at h
        cases h
    | ok _ =>
        rw [hread] at h
        cases h
        exact Settings.validate_of_ofToml hread
  · cases hload.symm.trans h
  · cases hload.symm.trans h
  · cases hload.symm.trans h
    rfl

theorem mergeSettings_eq_error_iff : mergeSettings around settings = .error e ↔
    ∃ fault, (settings.mergeVariables around.lookupVariable).1 = .error fault ∧
      e = .config fault := by
  unfold mergeSettings
  rcases settings.mergeVariables around.lookupVariable with ⟨_ | _, _⟩ <;> simp [eq_comm]

theorem fault_overrides_iff (hvalid : settings.validate = .ok ()) :
    Fault around path config .overrides e ↔ mergeSettings around settings = .error e := by
  rw [mergeSettings_eq_error_iff]
  simp only [Settings.mergeVariables_eq_error_iff hvalid]
  constructor
  · rintro ⟨⟩
    case unmergeable fault hfault => exact ⟨fault, hfault, rfl⟩
  · rintro ⟨fault, hfault, rfl⟩
    exact .unmergeable hfault

theorem validate_of_mergeSettings {merged : Settings}
    (h : mergeSettings around settings = .ok merged) : merged.validate = .ok () := by
  unfold mergeSettings at h
  split at h
  case h_1 hmerge =>
    cases h
    exact (Settings.mergeVariables_eq_ok_iff.mp hmerge).2.2.2
  case h_2 => cases h

/-! ### Specs -/

theorem holdsSpec_iff : around.HoldsSpec path spec ↔
    ∃ bytes, around.contentsOf path = .ok bytes ∧ Spec.ofBytes bytes = .ok spec := by
  simp only [Spec.ofBytes_eq_ok_iff]
  constructor
  · rintro ⟨text, hholds, hspells⟩
    exact ⟨_, hholds, text, rfl, hspells⟩
  · rintro ⟨_, hcontents, text, rfl, hspells⟩
    exact ⟨text, hcontents, hspells⟩

theorem holdsSpec_unique {spec' : Spec} (h : around.HoldsSpec path spec)
    (h' : around.HoldsSpec path spec') : spec = spec' := by
  obtain ⟨bytes, hcontents, hread⟩ := holdsSpec_iff.mp h
  obtain ⟨bytes', hcontents', hread'⟩ := holdsSpec_iff.mp h'
  obtain rfl := Except.ok.inj (hcontents.symm.trans hcontents')
  exact Except.ok.inj (hread.symm.trans hread')

theorem loadSpec_cases (around : Surroundings) (path : String) :
    (∃ fault, around.contentsOf path = .error fault ∧
      loadSpec around path = .error (.file fault.message (some path))) ∨
    (∃ bytes fault, around.contentsOf path = .ok bytes ∧ Spec.Unfit bytes fault ∧
      loadSpec around path = .error (.schema (.specParse fault))) ∨
    ∃ spec, around.HoldsSpec path spec ∧ loadSpec around path = .ok spec := by
  unfold loadSpec
  cases hcontents : around.contentsOf path with
  | error fault => exact .inl ⟨fault, rfl, rfl⟩
  | ok bytes =>
      cases hread : Spec.ofBytes bytes with
      | error fault =>
          refine .inr (.inl ⟨bytes, fault, rfl, Spec.ofBytes_eq_error_iff.mp hread, ?_⟩)
          simp only [hread]
          rfl
      | ok spec =>
          refine .inr (.inr ⟨spec, holdsSpec_iff.mpr ⟨bytes, hcontents, hread⟩, ?_⟩)
          simp only [hread]
          rfl

theorem not_fault_of_contents {bytes : List UInt8} (h : around.contentsOf path = .ok bytes)
    (e : Error) : ¬ Fault around path config .file e := by
  rintro ⟨⟩
  case file hunreadable => cases h.symm.trans hunreadable

theorem not_fault_of_holdsSpec (h : around.HoldsSpec path spec) (e : Error) :
    ¬ Fault around path config .document e := by
  obtain ⟨bytes, hcontents, hread⟩ := holdsSpec_iff.mp h
  rintro ⟨⟩
  case document hcontents' hunfit =>
    cases hcontents.symm.trans hcontents'
    cases hread.symm.trans (Spec.ofBytes_eq_error_iff.mpr hunfit)

theorem fault_preconditions_iff (h : around.HoldsSpec path spec) :
    Fault around path config .preconditions e ↔
      ∃ fault, spec.FirstFault fault ∧ e = .precondition fault := by
  constructor
  · rintro ⟨⟩
    case preconditions fault hholds hfirst =>
      obtain rfl := holdsSpec_unique h hholds
      exact ⟨fault, hfirst, rfl⟩
  · rintro ⟨fault, hfirst, rfl⟩
    exact .preconditions h hfirst

theorem fault_steps_iff (h : around.HoldsSpec path spec) :
    Fault around path config .steps e ↔ spec.synthesize.result Catalog.bundled = .error e := by
  constructor
  · rintro ⟨⟩
    case steps hholds hfails =>
      obtain rfl := holdsSpec_unique h hholds
      exact hfails
  · exact .steps h

theorem not_fault_of_checked (h : around.HoldsSpec path spec)
    (hchecked : spec.Complete ∧ spec.StaysInside) (e : Error) :
    ¬ Fault around path config .preconditions e := by
  intro he
  obtain ⟨fault, hfirst, rfl⟩ := (fault_preconditions_iff h).mp he
  have hok := Spec.checkPreconditions_eq_ok_iff.mpr hchecked
  cases hok.symm.trans (Spec.checkPreconditions_eq_error_iff.mpr hfirst)

/-! ### Compilations -/

/-- What a compilation does once there is a compiler. -/
def compileWith (compiler : Compiler) (around : Surroundings) (path : String)
    (tree : Option String) : Except Error Plan := do
  let spec ← loadSpec around path
  onBundled (compiler.compile spec ((tree.map SourceTree.mk).getD spec.sourceTree))

/-- Making the compiler never fails: what it checks has been checked when the settings were loaded
and overridden. -/
theorem compilePlan_of_merged {merged : Settings} (hload : loadSettings around config = .ok settings)
    (hmerge : mergeSettings around settings = .ok merged) :
    compilePlan around path tree config =
      compileWith ⟨merged, validate_of_mergeSettings hmerge⟩ around path tree := by
  unfold compilePlan compileWith
  rw [hload]
  show mergeSettings around settings >>= _ = _
  rw [hmerge]
  show (loadSpec around path >>= fun spec =>
    (Compiler.ofSettings merged).mapError .config >>= _) = _
  rw [Compiler.ofSettings_of_ok (validate_of_mergeSettings hmerge)]
  rfl

/-! ### The first fault -/

theorem fault_unique {phase : Phase} {e' : Error} (h : Fault around path config phase e)
    (h' : Fault around path config phase e') : e = e' := by
  cases phase with
  | settings =>
      have herror := fault_settings_iff.mp h
      exact Except.error.inj (herror.symm.trans (fault_settings_iff.mp h'))
  | overrides =>
      have hvalid : ({} : Settings).validate = .ok () := rfl
      have herror := (fault_overrides_iff hvalid).mp h
      exact Except.error.inj (herror.symm.trans ((fault_overrides_iff hvalid).mp h'))
  | file =>
      cases h with
      | file hfault =>
          cases h' with
          | file hfault' =>
              cases hfault.symm.trans hfault'
              rfl
  | document =>
      cases h with
      | document hcontents hunfit =>
          cases h' with
          | document hcontents' hunfit' =>
              cases hcontents.symm.trans hcontents'
              rw [← Spec.ofBytes_eq_error_iff] at hunfit hunfit'
              cases hunfit.symm.trans hunfit'
              rfl
  | preconditions =>
      cases h with
      | preconditions hholds hfirst =>
          obtain ⟨fault, hfirst', rfl⟩ := (fault_preconditions_iff hholds).mp h'
          have herror := Spec.checkPreconditions_eq_error_iff.mpr hfirst
          cases herror.symm.trans (Spec.checkPreconditions_eq_error_iff.mpr hfirst')
          rfl
  | steps =>
      cases h with
      | steps hholds hfails =>
          exact Except.error.inj (hfails.symm.trans ((fault_steps_iff hholds).mp h'))

theorem firstFault_unique {phase phase' : Phase} {e' : Error}
    (h : FirstFault around path config phase e) (h' : FirstFault around path config phase' e') :
    phase = phase' ∧ e = e' := by
  have hphase : phase = phase' := by
    apply Phase.rank_injective
    rcases Nat.lt_trichotomy phase.rank phase'.rank with hlt | heq | hlt
    · exact absurd h.1 (h'.2 phase e hlt)
    · exact heq
    · exact absurd h'.1 (h.2 phase' e' hlt)
  subst hphase
  exact ⟨rfl, fault_unique h.1 h'.1⟩

section
variable (around path config)

/-- The first few phases have no faults. -/
def Passed (count : Nat) : Prop :=
  ∀ (phase : Phase) (e : Error), phase.rank < count → ¬ Fault around path config phase e

variable {around path config}

theorem Passed.next {phase : Phase} (h : Passed around path config phase.rank)
    (hphase : ∀ e, ¬ Fault around path config phase e) :
    Passed around path config (phase.rank + 1) := by
  intro other e hlt
  rcases Nat.lt_succ_iff_lt_or_eq.mp hlt with hlt | heq
  · exact h other e hlt
  · rw [Phase.rank_injective other phase heq]
    exact hphase e

theorem passed_of_merged {merged : Settings} (hload : loadSettings around config = .ok settings)
    (hmerge : mergeSettings around settings = .ok merged) :
    Passed around path config Phase.file.rank := by
  have hstart : Passed around path config Phase.settings.rank := nofun
  have hsettings : Passed around path config Phase.overrides.rank := by
    apply hstart.next
    intro e he
    cases hload.symm.trans (fault_settings_iff.mp he)
  apply hsettings.next
  intro e he
  cases hmerge.symm.trans ((fault_overrides_iff (validate_of_loadSettings hload)).mp he)

theorem Passed.of_holdsSpec (h : Passed around path config Phase.file.rank)
    (hholds : around.HoldsSpec path spec) : Passed around path config Phase.preconditions.rank := by
  obtain ⟨bytes, hcontents, _⟩ := holdsSpec_iff.mp hholds
  have hfile : Passed around path config Phase.document.rank :=
    h.next (not_fault_of_contents hcontents)
  exact hfile.next (not_fault_of_holdsSpec hholds)

end

theorem compile_cases (compiler : Compiler) (tree : SourceTree) (hholds : around.HoldsSpec path spec)
    (hpassed : Passed around path config Phase.preconditions.rank) :
    (∃ phase e, FirstFault around path config phase e ∧
      onBundled (compiler.compile spec tree) = .error e) ∨
    (∀ phase e, ¬ Fault around path config phase e) ∧
      ∃ plan, onBundled (compiler.compile spec tree) = .ok plan := by
  have hbundled : onBundled (compiler.compile spec tree) =
      (compiler.compile spec tree).result Catalog.bundled := rfl
  rw [hbundled]
  cases hcompile : (compiler.compile spec tree).result Catalog.bundled with
  | error e =>
      left
      rcases Compiler.compile_eq_error_iff.mp hcompile with hfirst | ⟨hchecked, hfails⟩
      · exact ⟨.preconditions, e, ⟨(fault_preconditions_iff hholds).mpr hfirst, hpassed⟩, rfl⟩
      · have hpreconditions : Passed around path config Phase.steps.rank :=
          hpassed.next (not_fault_of_checked hholds hchecked)
        exact ⟨.steps, e, ⟨.steps hholds hfails, hpreconditions⟩, rfl⟩
  | ok plan =>
      right
      obtain ⟨hchecked, script, hscript, _⟩ := Compiler.compile_eq_ok_iff.mp hcompile
      have hpreconditions : Passed around path config Phase.steps.rank :=
        hpassed.next (not_fault_of_checked hholds hchecked)
      have hsteps : Passed around path config (Phase.steps.rank + 1) := by
        apply hpreconditions.next
        intro e he
        cases hscript.symm.trans ((fault_steps_iff hholds).mp he)
      refine ⟨fun phase e => hsteps phase e ?_, plan, rfl⟩
      cases phase <;> decide

/-- What is left of a compilation once there is a compiler fails with the first fault, or there is
no fault and it gives a plan. -/
theorem compileWith_cases (compiler : Compiler) (tree : Option String)
    (hpassed : Passed around path config Phase.file.rank) :
    (∃ phase e, FirstFault around path config phase e ∧
      compileWith compiler around path tree = .error e) ∨
    (∀ phase e, ¬ Fault around path config phase e) ∧
      ∃ plan, compileWith compiler around path tree = .ok plan := by
  unfold compileWith
  rcases loadSpec_cases around path with ⟨fault, hfault, hload⟩ |
    ⟨bytes, fault, hcontents, hunfit, hload⟩ | ⟨spec, hholds, hload⟩
  · rw [hload]
    exact .inl ⟨.file, _, ⟨.file hfault, hpassed⟩, rfl⟩
  · have hfile : Passed around path config Phase.document.rank :=
      hpassed.next (not_fault_of_contents hcontents)
    rw [hload]
    exact .inl ⟨.document, _, ⟨.document hcontents hunfit, hfile⟩, rfl⟩
  · rw [hload]
    exact compile_cases compiler _ hholds (hpassed.of_holdsSpec hholds)

/-- A compilation fails with the first fault, or there is no fault and it gives a plan. -/
theorem compilePlan_cases (around : Surroundings) (path : String) (tree config : Option String) :
    (∃ phase e, FirstFault around path config phase e ∧
      compilePlan around path tree config = .error e) ∨
    (∀ phase e, ¬ Fault around path config phase e) ∧
      ∃ plan, compilePlan around path tree config = .ok plan := by
  -- phase by phase: the first error is a fault of its phase, a result lets the phase pass
  have hstart : Passed around path config Phase.settings.rank := nofun
  cases hload : loadSettings around config with
  | error e =>
      refine .inl ⟨.settings, e, ⟨fault_settings_iff.mpr hload, hstart⟩, ?_⟩
      unfold compilePlan
      rw [hload]
      rfl
  | ok settings =>
      cases hmerge : mergeSettings around settings with
      | error e =>
          have hsettings : Passed around path config Phase.overrides.rank := by
            apply hstart.next
            intro e he
            cases hload.symm.trans (fault_settings_iff.mp he)
          have hfault : Fault around path config .overrides e :=
            (fault_overrides_iff (validate_of_loadSettings hload)).mpr hmerge
          refine .inl ⟨.overrides, e, ⟨hfault, hsettings⟩, ?_⟩
          unfold compilePlan
          rw [hload]
          show mergeSettings around settings >>= _ = _
          rw [hmerge]
          rfl
      | ok merged =>
          rw [compilePlan_of_merged hload hmerge]
          exact compileWith_cases _ tree (passed_of_merged hload hmerge)

theorem compilePlan_eq_error_iff :
    compilePlan around path tree config = .error e ↔
      ∃ phase, FirstFault around path config phase e := by
  constructor
  · intro h
    rcases compilePlan_cases around path tree config with ⟨phase, e', hfirst, hrun⟩ |
      ⟨_, plan, hrun⟩
    · cases hrun.symm.trans h
      exact ⟨phase, hfirst⟩
    · cases hrun.symm.trans h
  · rintro ⟨phase, hfirst⟩
    rcases compilePlan_cases around path tree config with ⟨phase', e', hfirst', hrun⟩ |
      ⟨hnone, _⟩
    · rw [hrun, (firstFault_unique hfirst hfirst').2]
    · exact absurd hfirst.1 (hnone phase e)

/-! ### What a phase reads -/

section
variable (around around' : Surroundings) (path path' : String) (config config' : Option String)

/-- What a phase reads is the same in two runs. -/
def Alike : Phase → Prop
  | .settings => config = config' ∧ around.hasConfigPlace = around'.hasConfigPlace ∧
      around.defaultConfig = around'.defaultConfig ∧
      ∀ file, around.Chooses config file → around.contentsOf file = around'.contentsOf file
  | .overrides =>
      around.lookupVariable Settings.imageVariable =
          around'.lookupVariable Settings.imageVariable ∧
        around.lookupVariable Settings.userVariable =
          around'.lookupVariable Settings.userVariable
  | .file | .document | .preconditions | .steps =>
      path = path' ∧ around.contentsOf path = around'.contentsOf path

end

variable {around' : Surroundings} {path' : String} {config' : Option String}

theorem chooses_congr (hplace : around.hasConfigPlace = around'.hasConfigPlace)
    (hdefault : around.defaultConfig = around'.defaultConfig)
    (h : around.Chooses config file) : around'.Chooses config file := by
  unfold Surroundings.Chooses
  rw [← hplace, ← hdefault]
  exact h

theorem Alike.symm {phase : Phase} (h : Alike around around' path path' config config' phase) :
    Alike around' around path' path config' config phase := by
  cases phase with
  | settings =>
      obtain ⟨rfl, hplace, hdefault, hcontents⟩ := h
      refine ⟨rfl, hplace.symm, hdefault.symm, ?_⟩
      intro file hchosen
      exact (hcontents file (chooses_congr hplace.symm hdefault.symm hchosen)).symm
  | overrides => exact ⟨h.1.symm, h.2.symm⟩
  | file | document | preconditions | steps =>
      obtain ⟨rfl, hcontents⟩ := h
      exact ⟨rfl, hcontents.symm⟩

theorem fault_congr {phase : Phase} (h : Alike around around' path path' config config' phase)
    (hfault : Fault around path config phase e) : Fault around' path' config' phase e := by
  cases hfault with
  | noPlace hunasked hplace =>
      obtain ⟨rfl, hsame, _⟩ := h
      exact .noPlace hunasked (hsame.symm.trans hplace)
  | unreadable hchosen hnone =>
      obtain ⟨rfl, hplace, hdefault, hcontents⟩ := h
      refine .unreadable (chooses_congr hplace hdefault hchosen) ?_
      unfold Surroundings.Holds
      rw [← hcontents _ hchosen]
      exact hnone
  | unfit hchosen hholds hunfit =>
      obtain ⟨rfl, hplace, hdefault, hcontents⟩ := h
      refine .unfit (chooses_congr hplace hdefault hchosen) ?_ hunfit
      unfold Surroundings.Holds
      rw [← hcontents _ hchosen]
      exact hholds
  | unmergeable hfault =>
      apply Fault.unmergeable
      exact hfault.congr h.1 h.2
  | file hunreadable =>
      obtain ⟨rfl, hcontents⟩ := h
      exact .file (hcontents.symm.trans hunreadable)
  | document hread hunfit =>
      obtain ⟨rfl, hcontents⟩ := h
      exact .document (hcontents.symm.trans hread) hunfit
  | preconditions hholds hfirst =>
      obtain ⟨rfl, hcontents⟩ := h
      obtain ⟨text, hread, hspells⟩ := hholds
      exact .preconditions ⟨text, hcontents.symm.trans hread, hspells⟩ hfirst
  | steps hholds hfails =>
      obtain ⟨rfl, hcontents⟩ := h
      obtain ⟨text, hread, hspells⟩ := hholds
      exact .steps ⟨text, hcontents.symm.trans hread, hspells⟩ hfails

theorem firstFault_congr {phase : Phase}
    (h : ∀ earlier : Phase, earlier.rank ≤ phase.rank →
      Alike around around' path path' config config' earlier)
    (hfirst : FirstFault around path config phase e) :
    FirstFault around' path' config' phase e := by
  refine ⟨fault_congr (h phase Nat.le.refl) hfirst.1, ?_⟩
  intro earlier e' hlt hfault
  exact hfirst.2 earlier e' hlt (fault_congr (h earlier (Nat.le_of_lt hlt)).symm hfault)

/-! ### Runs -/

variable {arguments : List String} {json : Bool} {words : Wording}

theorem runArguments_of_firstFault {phase : Phase}
    (h : ofArguments? arguments = some (.compile path tree config json))
    (hfirst : FirstFault around path config phase e) :
    runArguments around arguments words =
      { code := 1, stdout := "", stderr := "Error: " ++ e.shown words ++ "\n" } := by
  have hrun : compilePlan around path tree config = .error e :=
    compilePlan_eq_error_iff.mpr ⟨phase, hfirst⟩
  have houtput : (compile path tree config json).output around = .error e := by
    unfold output
    simp only [hrun]
    rfl
  unfold runArguments
  simp only [h]
  unfold run
  rw [houtput]
  rfl

theorem exists_firstFault_of_code
    (h : ofArguments? arguments = some (.compile path tree config json))
    (hcode : (runArguments around arguments words).code ≠ 0) :
    ∃ phase e, FirstFault around path config phase e := by
  rcases compilePlan_cases around path tree config with ⟨phase, e, hfirst, _⟩ | ⟨_, plan, hrun⟩
  · exact ⟨phase, e, hfirst⟩
  · exfalso
    apply hcode
    unfold runArguments
    simp only [h]
    unfold run output
    simp only [hrun]
    rfl

theorem runArguments_script_congr (h : ofArguments? arguments = some (.script path))
    (hcontents : around.contentsOf path = around'.contentsOf path) :
    runArguments around arguments words = runArguments around' arguments words := by
  have hload : loadSpec around path = loadSpec around' path := by
    unfold loadSpec
    rw [hcontents]
  have houtput : (script path).output around = (script path).output around' := by
    have hscript : buildScript around path = buildScript around' path := by
      unfold buildScript
      rw [hload]
    show (buildScript around path).map BuildScript.text =
      (buildScript around' path).map BuildScript.text
    rw [hscript]
  unfold runArguments
  simp only [h]
  unfold run
  rw [houtput]

end Command

/-- **The first phase that fails decides the run.**  Take any arguments that ask for a compilation,
any files and variables, and any wording of the parsers.

* If the run fails, some phase has a fault and no phase before it has one; then the run prints
  nothing but this fault, on standard error, and ends with code 1.
* Without a settings file, in a place where there could be one, the settings are the defaults.
* Once the settings are loaded and overridden, there is a compiler for them.
* What later phases read, the name of the source tree and the way the plan is printed do not
  matter: runs in which the phases up to the first one that fails read the same end the same way.

The command for the script answers the same wherever the spec file has the same contents. -/
theorem first_phase_decides :
    (∀ (words : Wording) (around : Surroundings) (arguments : List String) (path : String)
      (tree config : Option String) (json : Bool),
      Command.ofArguments? arguments = some (.compile path tree config json) →
      ((runArguments around arguments words).code ≠ 0 →
        ∃ phase e, Command.FirstFault around path config phase e) ∧
      (∀ phase e, Command.FirstFault around path config phase e →
        runArguments around arguments words =
          { code := 1, stdout := "", stderr := "Error: " ++ e.shown words ++ "\n" }) ∧
      (config = none → around.hasConfigPlace = true → around.defaultConfig = none →
        Command.loadSettings around config = .ok {}) ∧
      (∀ settings merged, Command.loadSettings around config = .ok settings →
        Command.mergeSettings around settings = .ok merged →
          ∃ compiler, Compiler.ofSettings merged = .ok compiler) ∧
      ∀ (around' : Surroundings) (arguments' : List String) (path' : String)
        (tree' config' : Option String) (json' : Bool),
        Command.ofArguments? arguments' = some (.compile path' tree' config' json') →
        ∀ phase e, Command.FirstFault around path config phase e →
          (∀ earlier : Phase, earlier.rank ≤ phase.rank →
            Command.Alike around around' path path' config config' earlier) →
          runArguments around' arguments' words = runArguments around arguments words) ∧
    ∀ (words : Wording) (around around' : Surroundings) (arguments : List String) (path : String),
      Command.ofArguments? arguments = some (.script path) →
      around.contentsOf path = around'.contentsOf path →
        runArguments around arguments words = runArguments around' arguments words := by
  constructor
  · intro words around arguments path tree config json h
    refine ⟨Command.exists_firstFault_of_code h, ?_, ?_, ?_, ?_⟩
    · intro phase e hfirst
      exact Command.runArguments_of_firstFault h hfirst
    · rintro rfl hplace hdefault
      unfold Command.loadSettings
      simp only [hplace, hdefault, if_true]
    · intro settings merged _ hmerge
      exact ⟨_, Compiler.ofSettings_of_ok (Command.validate_of_mergeSettings hmerge)⟩
    · intro around' arguments' path' tree' config' json' h' phase e hfirst halike
      rw [Command.runArguments_of_firstFault h hfirst,
        Command.runArguments_of_firstFault h' (Command.firstFault_congr halike hfirst)]
  · intro words around around' arguments path h hcontents
    exact Command.runArguments_script_congr h hcontents

/-- The variable for the image is empty and there is no spec file.  The variable is what is told,
as it is where the spec file is not UTF-8 and the plan is asked for in another way; only a settings
file with a user that is no account name comes before it.  The script is told nothing of the
variable.  Without the variable, the missing file is told, and then what is in the file: that it is
not UTF-8, or what the parser says of a name that is a list, or that the version is missing, although
there are no steps, or a step that names no pipeline. -/
theorem first_phase_decides_blank :
    let badUser := "[compiler]\nbuilder_user = \"Bob\"\n"
    let refused := "name: [a]\n"
    let unversioned := "name: a\n"
    let unknown := "name: a\nversion: 1\ndescription: b\nurl: c\nlicense: d\n"
      ++ "pipeline:\n- run: make\n- uses: nope\n"
    let words : Wording :=
      { refusal := fun kind document =>
          if kind = .spec ∧ document = refused then
            "name: invalid type: sequence, expected a string at line 1 column 7"
          else ""
        placed := fun _ message => message }
    let around : Surroundings :=
      { contentsOf := fun _ => .error .notFound
        defaultConfig := none
        lookupVariable := fun name => if name = Settings.imageVariable then some "" else none }
    let configured : Surroundings :=
      { around with contentsOf := fun path =>
          if path = "s.toml" then .ok (Text.Utf8.encode badUser) else .error .notFound }
    let broken : Surroundings := { around with contentsOf := fun _ => .ok [0xff] }
    let unset : Surroundings := { broken with lookupVariable := fun _ => none }
    let holding (text : String) : Surroundings :=
      { unset with contentsOf := fun _ => .ok (Text.Utf8.encode text) }
    let told (message code hint : String) : Outcome :=
      { code := 1
        stderr := "Error: " ++ message ++ "\n  Code: " ++ code ++ "\n  Hint: " ++ hint ++ "\n" }
    let answer := told "config error: invalid value for APKFORGE_BASE_IMAGE: "
      "config.invalid_value" "Fix the configuration value and retry the command."
    runArguments configured ["compile", "a.yaml", "--config", "s.toml"] words =
        told "config error: invalid value for builder_user: Bob"
          "config.invalid_value" "Fix the configuration value and retry the command." ∧
      runArguments around ["compile", "a.yaml"] words = answer ∧
      runArguments broken ["compile", "--json", "--context=up", "b.yaml"] words = answer ∧
      runArguments broken ["script", "a.yaml"] words =
        runArguments unset ["script", "a.yaml"] words ∧
      runArguments { around with lookupVariable := fun _ => none } ["compile", "a.yaml"] words =
        { code := 1
          stderr := "Error: No such file or directory (os error 2) (a.yaml)\n"
            ++ "  Code: error.io\n" } ∧
      runArguments unset ["compile", "a.yaml"] words =
        told ("failed to parse spec: spec is not valid UTF-8: "
            ++ "invalid utf-8 sequence of 1 bytes from index 0")
          "schema.spec_parse" "Check the spec file for YAML syntax errors." ∧
      runArguments (holding refused) ["compile", "a.yaml"] words =
        told ("failed to parse spec: "
            ++ "name: invalid type: sequence, expected a string at line 1 column 7")
          "schema.spec_parse" "Check the spec file for YAML syntax errors." ∧
      runArguments (holding unversioned) ["compile", "a.yaml"] words =
        told "spec version is required" "precondition.missing_field"
          "Fill in the package metadata at the top of the spec." ∧
      runArguments (holding unknown) ["compile", "a.yaml"] words =
        told "pipeline \"nope\" not found" "not_found.pipeline"
          "Run `apkforge pipelines` to list available pipelines." := by
  intro badUser refused unversioned unknown words around configured broken unset holding told answer
  obtain ⟨hcompile, hscript⟩ := first_phase_decides
  have hruns := fun around : Surroundings =>
    hcompile words around ["compile", "a.yaml"] "a.yaml" none none false (by decide +kernel)
  -- the settings come before the variable, and the variable comes before the file
  have hsettings : Command.FirstFault configured "a.yaml" (some "s.toml") .settings
      (.config (.invalidValue "builder_user" "Bob")) :=
    ⟨Command.fault_settings_iff.mpr (by decide +kernel),
      fun _ _ hlt => absurd hlt (Nat.not_lt_zero _)⟩
  obtain ⟨_, hconfigured, _⟩ := hcompile words configured
    ["compile", "a.yaml", "--config", "s.toml"] "a.yaml" none (some "s.toml") false
    (by decide +kernel)
  have hfirst : Command.FirstFault around "a.yaml" none .overrides
      (.config (.invalidValue Settings.imageVariable "")) := by
    refine ⟨.unmergeable (.blankImage rfl (by decide)), ?_⟩
    intro earlier e hlt hfault
    cases earlier with
    | settings => cases Command.fault_settings_iff.mp hfault
    | _ => exact absurd hlt (by decide)
  obtain ⟨_, hanswer, _, _, hlater⟩ := hruns around
  have hrun : runArguments around ["compile", "a.yaml"] words = answer :=
    (hanswer .overrides _ hfirst).trans (by decide +kernel)
  have hother : runArguments broken ["compile", "--json", "--context=up", "b.yaml"] words =
      runArguments around ["compile", "a.yaml"] words := by
    apply hlater broken _ "b.yaml" (some "up") none true (by decide +kernel) .overrides _ hfirst
    intro earlier hle
    cases earlier with
    | settings =>
        refine ⟨rfl, rfl, rfl, ?_⟩
        rintro file (hasked | ⟨_, _, hdefault⟩)
        · cases hasked
        · cases hdefault
    | overrides => exact ⟨rfl, rfl⟩
    | _ => exact absurd hle (by decide)
  -- without the variable, the file decides
  have hfile : Command.FirstFault { around with lookupVariable := fun _ => none } "a.yaml" none .file
      (.file FileFault.notFound.message (some "a.yaml")) :=
    ⟨.file rfl, Command.passed_of_merged rfl rfl⟩
  have hread : ∀ contents, Command.Passed { unset with contentsOf := fun _ => .ok contents }
      "a.yaml" none Phase.document.rank := fun contents =>
    (Command.passed_of_merged rfl rfl).next (Command.not_fault_of_contents rfl)
  have hspells : ∀ {text spec}, Spec.ofYaml text = .ok spec →
      (holding text).HoldsSpec "a.yaml" spec ∧
        Command.Passed (holding text) "a.yaml" none Phase.preconditions.rank := by
    intro text spec h
    have hholds : (holding text).HoldsSpec "a.yaml" spec :=
      ⟨text, rfl, Spec.ofYaml_eq_ok_iff_spells.mp h⟩
    exact ⟨hholds, (Command.passed_of_merged rfl rfl).of_holdsSpec hholds⟩
  refine ⟨(hconfigured .settings _ hsettings).trans (by decide +kernel), hrun, hother.trans hrun,
    hscript words broken unset _ "a.yaml" (by decide +kernel) rfl,
    ((hruns _).2.1 .file _ hfile).trans (by decide +kernel), ?_, ?_, ?_, ?_⟩
  · have hunfit : Spec.Unfit [0xff] (.encoding (.invalid 0 1)) :=
      .encoding (Text.Utf8.decode_eq_error_iff.mp rfl)
    exact ((hruns _).2.1 .document _ ⟨.document rfl hunfit, hread _⟩).trans (by decide +kernel)
  · have hunfit : Spec.Unfit (Text.Utf8.encode refused) (.document (.refusal .spec refused)) := by
      rw [← Spec.ofBytes_eq_error_iff, Spec.ofBytes_encode]
      decide +kernel
    exact ((hruns _).2.1 .document _ ⟨.document rfl hunfit, hread _⟩).trans (by decide +kernel)
  · obtain ⟨hholds, hpassed⟩ := @hspells unversioned { name := "a" } (by decide +kernel)
    have hmissing : ({ name := "a" } : Spec).FirstFault (.missingField "version") :=
      Spec.checkPreconditions_eq_error_iff.mp rfl
    exact ((hruns _).2.1 .preconditions _ ⟨.preconditions hholds hmissing, hpassed⟩).trans
      (by decide +kernel)
  · let spec : Spec :=
      { name := "a", version := "1", description := "b", url := "c", license := "d"
        pipeline := [.ofScript "make", .ofReference "nope" .empty] }
    obtain ⟨hholds, hpassed⟩ := @hspells unknown spec (by decide +kernel)
    have hchecked : spec.Complete ∧ spec.StaysInside :=
      Spec.checkPreconditions_eq_ok_iff.mp (by decide +kernel)
    have hfails : spec.synthesize.result Catalog.bundled = .error (.lookup (.pipeline "nope")) := by
      decide +kernel
    have hsteps := hpassed.next (Command.not_fault_of_checked hholds hchecked)
    exact ((hruns _).2.1 .steps _ ⟨.steps hholds hfails, hsteps⟩).trans (by decide +kernel)

end PackagePlan
