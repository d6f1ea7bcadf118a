import Mathlib.Data.List.Basic
import PackagePlan.Proofs.Compiler
import PackagePlan.Settings.Toml

/-! # Settings that are accepted

Settings are read from a document or are the default ones, and then variables may override them,
any number of times.  The account is checked in either case.  The image is checked only where a
variable sets it: a blank one that the document has stays until a variable sets another.

* `isAccountName_iff`, `Settings.validate_eq_ok_iff` : what is checked of the account.
* `Settings.mergeVariables_eq_ok_iff` : what overriding does when it succeeds.
* `Settings.Overridden` : overriding time after time.
* `Settings.ofToml_eq_ok_iff` : what reading a document gives.
* `accepted_image_visible_iff` : what holds of all settings that come about in these ways. -/

namespace PackagePlan

/-! ### The account -/

/-- A lower-case letter or an underscore, then any number of such characters, digits and
dashes. -/
def IsAccountName (name : String) : Prop :=
  ∃ first rest, name.toList = first :: rest ∧ (('a' ≤ first ∧ first ≤ 'z') ∨ first = '_') ∧
    ∀ c ∈ rest, ('a' ≤ c ∧ c ≤ 'z') ∨ ('0' ≤ c ∧ c ≤ '9') ∨ c = '_' ∨ c = '-'

theorem isAccountStart_iff {c : Char} :
    isAccountStart c = true ↔ ('a' ≤ c ∧ c ≤ 'z') ∨ c = '_' := by
  simp [isAccountStart]

theorem isAccountChar_iff {c : Char} :
    isAccountChar c = true ↔ ('a' ≤ c ∧ c ≤ 'z') ∨ ('0' ≤ c ∧ c ≤ '9') ∨ c = '_' ∨ c = '-' := by
  rw [isAccountChar, Bool.or_eq_true, Bool.or_eq_true, isAccountStart_iff]
  simp only [Bool.and_eq_true, decide_eq_true_eq, beq_iff_eq, or_assoc]
  rw [or_left_comm (a := c = '_')]

theorem isAccountName_iff {name : String} : isAccountName name = true ↔ IsAccountName name := by
  rw [isAccountName, IsAccountName]
  cases name.toList with
  | nil => simp
  | cons first rest =>
      simp only [Bool.and_eq_true, List.all_eq_true, isAccountStart_iff, isAccountChar_iff]
      constructor
      · rintro ⟨hfirst, hrest⟩
        exact ⟨first, rest, rfl, hfirst, hrest⟩
      · rintro ⟨_, _, heq, hfirst, hrest⟩
        cases heq
        exact ⟨hfirst, hrest⟩

namespace Settings
variable {settings merged : Settings} {lookup : String → Option String}

theorem validate_eq_ok_iff : settings.validate = .ok () ↔
    IsAccountName settings.builderUser ∧ IsAccountName settings.builderGroup := by
  rw [← isAccountName_iff, ← isAccountName_iff, validate]
  cases isAccountName settings.builderUser <;> cases isAccountName settings.builderGroup <;> simp

/-! ### Overriding -/

theorem mergeUser_eq_ok_iff : settings.mergeUser lookup = (.ok (), merged) ↔
    merged = { settings with builderUser := (lookup userVariable).getD settings.builderUser } ∧
      (∀ user, lookup userVariable = some user → Text.HasVisible user) ∧
      merged.validate = .ok () := by
  rw [mergeUser]
  cases lookup userVariable with
  | none =>
      simp only [Prod.mk.injEq, Option.getD_none]
      constructor
      · rintro ⟨hvalid, rfl⟩
        exact ⟨rfl, nofun, hvalid⟩
      · rintro ⟨rfl, _, hvalid⟩
        exact ⟨hvalid, rfl⟩
  | some user =>
      simp only [Option.getD_some]
      cases hblank : Text.isBlank user with
      | true =>
          rw [Text.isBlank_iff] at hblank
          simp [hblank]
      | false =>
          rw [Text.isBlank_eq_false_iff] at hblank
          simp only [Bool.false_eq_true, if_false, Prod.mk.injEq]
          constructor
          · rintro ⟨hvalid, rfl⟩
            refine ⟨rfl, ?_, hvalid⟩
            rintro _ ⟨⟩
            exact hblank
          · rintro ⟨rfl, _, hvalid⟩
            exact ⟨hvalid, rfl⟩

/-- Variables that are set replace the image and the user, and none of them may be blank. -/
theorem mergeVariables_eq_ok_iff : settings.mergeVariables lookup = (.ok (), merged) ↔
    merged = { settings with
        baseImage := (lookup imageVariable).getD settings.baseImage
        builderUser := (lookup userVariable).getD settings.builderUser } ∧
      (∀ image, lookup imageVariable = some image → Text.HasVisible image) ∧
      (∀ user, lookup userVariable = some user → Text.HasVisible user) ∧
      merged.validate = .ok () := by
  rw [mergeVariables]
  cases lookup imageVariable with
  | none =>
      simp only [Option.getD_none]
      rw [mergeUser_eq_ok_iff]
      simp
  | some image =>
      simp only [Option.getD_some]
      cases hblank : Text.isBlank image with
      | true =>
          rw [Text.isBlank_iff] at hblank
          simp [hblank]
      | false =>
          rw [Text.isBlank_eq_false_iff] at hblank
          simp only [Bool.false_eq_true, if_false]
          rw [mergeUser_eq_ok_iff]
          simp [hblank]

/-- Variables override settings, time after time, and it succeeds every time. -/
inductive Overridden : Settings → List (String → Option String) → Settings → Prop
  | done (settings : Settings) : Overridden settings [] settings
  | merge {settings merged final : Settings} {lookup : String → Option String}
      {lookups : List (String → Option String)}
      (first : settings.mergeVariables lookup = (.ok (), merged))
      (rest : Overridden merged lookups final) : Overridden settings (lookup :: lookups) final

variable {start final : Settings} {lookups : List (String → Option String)}

theorem Overridden.validate (h : Overridden start lookups final) (hstart : start.validate = .ok ()) :
    final.validate = .ok () := by
  induction h with
  | done => exact hstart
  | merge first _ ih => exact ih (mergeVariables_eq_ok_iff.mp first).2.2.2

theorem Overridden.hasVisible_baseImage_iff (h : Overridden start lookups final) :
    Text.HasVisible final.baseImage ↔
      Text.HasVisible start.baseImage ∨ ∃ lookup ∈ lookups, lookup imageVariable ≠ none := by
  induction h with
  | done => simp
  | @merge settings merged final lookup lookups first _ ih =>
      obtain ⟨rfl, himage, _⟩ := mergeVariables_eq_ok_iff.mp first
      rw [ih, List.exists_mem_cons_iff, ← or_assoc]
      refine or_congr_left ?_
      cases hset : lookup imageVariable with
      | none => simp
      | some image => simp [himage image hset]

theorem ofToml_eq_ok_iff {text : String} : ofToml text = .ok settings ↔
    ∃ document, Toml.parse? text = some document ∧ ofDocument? document = some settings ∧
      settings.validate = .ok () := by
  constructor
  · intro h
    unfold ofToml at h
    split at h
    case h_1 => cases h
    case h_2 read hread =>
      obtain ⟨document, hparse, hread⟩ := Option.bind_eq_some_iff.mp hread
      cases hvalid : read.validate with
      | error e =>
          rw [hvalid] at h
          cases h
      | ok _ =>
          rw [hvalid] at h
          cases h
          exact ⟨document, hparse, hread, hvalid⟩
  · rintro ⟨document, hparse, hread, hvalid⟩
    simp only [ofToml, hparse, Option.bind_some, hread, hvalid]
    rfl

theorem validate_of_ofToml {text : String} (h : ofToml text = .ok settings) :
    settings.validate = .ok () := by
  obtain ⟨_, _, _, hvalid⟩ := ofToml_eq_ok_iff.mp h
  exact hvalid

end Settings

/-- **What holds of accepted settings.**  Let settings be read from a document, or be the default
ones, and let variables override them any number of times, always with success.  Then user and
group are account names.  The image of the first stage of every plan that is compiled with these
settings is theirs; it has a visible character exactly if the image did that was there at the
start, as the default one does, or a variable has set it. -/
theorem accepted_image_visible_iff {start final : Settings}
    {lookups : List (String → Option String)}
    (hstart : start = {} ∨ ∃ text, Settings.ofToml text = .ok start)
    (hoverridden : Settings.Overridden start lookups final) :
    IsAccountName final.builderUser ∧ IsAccountName final.builderGroup ∧
    (Text.HasVisible final.baseImage ↔ Text.HasVisible start.baseImage ∨
      ∃ lookup ∈ lookups, lookup Settings.imageVariable ≠ none) ∧
    (start = {} → Text.HasVisible final.baseImage) ∧
    ∃ compiler, Compiler.ofSettings final = .ok compiler ∧
      ∀ spec tree c plan, (compiler.compile spec tree).result c = .ok plan →
        (plan.stage? .environmentSetup).map (·.base) = some (.image final.baseImage) := by
  have hvalid : start.validate = .ok () := by
    rcases hstart with rfl | ⟨text, htext⟩
    · rfl
    · exact Settings.validate_of_ofToml htext
  have hfinal := hoverridden.validate hvalid
  obtain ⟨huser, hgroup⟩ := Settings.validate_eq_ok_iff.mp hfinal
  refine ⟨huser, hgroup, hoverridden.hasVisible_baseImage_iff, ?_,
    ⟨final, hfinal⟩, Compiler.ofSettings_of_ok hfinal, ?_⟩
  · rintro rfl
    exact hoverridden.hasVisible_baseImage_iff.mpr (.inl (by decide))
  · intro spec tree c plan h
    obtain ⟨_, script, _, rfl⟩ := Compiler.compile_eq_ok_iff.mp h
    rw [Compiler.stage?_plan_environmentSetup]
    rfl

/-- A document has a blank image and sets the user; a variable gives another image. -/
theorem accepted_image_visible_overridden :
    let text := "[compiler]\nbase_image = \" \"\nbuilder_user = \"ci\"\n"
    let lookup : String → Option String :=
      fun name => if name = Settings.imageVariable then some "alpine:edge" else none
    let start : Settings := { baseImage := " ", builderUser := "ci" }
    let final : Settings := { baseImage := "alpine:edge", builderUser := "ci" }
    Settings.ofToml text = .ok start ∧ Settings.Overridden start [lookup] final ∧
      IsAccountName "ci" ∧ IsAccountName "abuild" ∧ Text.HasVisible "alpine:edge" := by
  intro text lookup start final
  have htext : Settings.ofToml text = .ok start := by decide +kernel
  have hoverridden : Settings.Overridden start [lookup] final :=
    .merge (by decide +kernel) (.done final)
  obtain ⟨huser, hgroup, himage, _⟩ := accepted_image_visible_iff (.inr ⟨text, htext⟩) hoverridden
  exact ⟨htext, hoverridden, huser, hgroup, himage.mpr (.inr ⟨lookup, by simp, by decide⟩)⟩

/-- A document with an empty image is accepted, and no variable mends it: the first stage of a
plan starts from an image without a name.  The same image in the variable is refused. -/
theorem accepted_image_blank :
    let text := "[compiler]\nbase_image = \"\"\n"
    let settings : Settings := { baseImage := "" }
    let spec : Spec := { name := "a", version := "1", description := "d", url := "u"
                         license := "MIT", pipeline := [.ofScript "make"] }
    Settings.ofToml text = .ok settings ∧
      Settings.Overridden settings [fun _ => none] settings ∧
      ¬ Text.HasVisible settings.baseImage ∧
      (∃ compiler plan, Compiler.ofSettings settings = .ok compiler ∧
        (compiler.compile spec {}).result { sources := .empty } = .ok plan ∧
        (plan.stage? .environmentSetup).map (·.base) = some (.image "")) ∧
      ({} : Settings).mergeVariables
        (fun name => if name = Settings.imageVariable then some "" else none) =
          (.error (.invalidValue Settings.imageVariable ""), {}) := by
  intro text settings spec
  have hvalid : settings.validate = .ok () := by decide +kernel
  have hscript : spec.synthesize.result { sources := .empty } =
      .ok ⟨"set -e\nmkdir -p /pkg\nmake\n", []⟩ := by decide +kernel
  refine ⟨by decide +kernel, .merge (by decide +kernel) (.done settings), by decide, ?_,
    by decide +kernel⟩
  exact ⟨⟨settings, hvalid⟩, _, Compiler.ofSettings_of_ok hvalid,
    Compiler.compile_eq_ok_iff.mpr ⟨⟨by decide, nofun⟩, _, hscript, rfl⟩, rfl⟩

end PackagePlan
