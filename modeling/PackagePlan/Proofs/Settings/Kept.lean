import PackagePlan.Proofs.Settings.Faults

/-! # What overriding leaves, also when it fails

Overriding writes the image, then the user, and checks the account last.  It stops at a blank
variable, and what it has written before it fails stays.  So the settings that are left can be
told from the variables that were written, whether overriding succeeds or not.

* `writtenImage?`, `writtenUser?` : what is written; `mergeVariables_snd` : what is left.
* `not_isAccountName_of_written` : if overriding fails, a user that it has written is no account
  name.
* `keptAfter` : what is left by any number of overridings; the last user that was written stands
  (`builderUser_keptAfter`).
* `failed_override_intact_iff` : when a failure leaves the settings as they were, and when the
  settings that are left are in order. -/

namespace PackagePlan

namespace Settings
variable {settings : Settings} {lookup : String → Option String} {e : ConfigError}

/-! ### What is written -/

/-- The image that overriding writes: the one that is set, unless it is blank. -/
def writtenImage? (lookup : String → Option String) : Option String :=
  (lookup imageVariable).filter (!Text.isBlank ·)

/-- The user that overriding writes: the one that is set, unless it is blank or overriding has
stopped at a blank image. -/
def writtenUser? (lookup : String → Option String) : Option String :=
  if (lookup imageVariable).any Text.isBlank then none
  else (lookup userVariable).filter (!Text.isBlank ·)

theorem mergeUser_snd (settings : Settings) (lookup : String → Option String) :
    (settings.mergeUser lookup).2 = { settings with
      builderUser :=
        ((lookup userVariable).filter (!Text.isBlank ·)).getD settings.builderUser } := by
  rw [mergeUser]
  cases lookup userVariable with
  | none => rfl
  | some user => cases hblank : Text.isBlank user <;> simp [Option.filter, hblank]

/-- What is written stays, and nothing else changes. -/
theorem mergeVariables_snd (settings : Settings) (lookup : String → Option String) :
    (settings.mergeVariables lookup).2 = { settings with
      baseImage := (writtenImage? lookup).getD settings.baseImage
      builderUser := (writtenUser? lookup).getD settings.builderUser } := by
  rw [mergeVariables, writtenImage?, writtenUser?]
  cases lookup imageVariable with
  | none => simp [mergeUser_snd]
  | some image => cases hblank : Text.isBlank image <;> simp [Option.filter, hblank, mergeUser_snd]

theorem writtenUser?_eq_some_iff {user : String} : writtenUser? lookup = some user ↔
    (∀ image, lookup imageVariable = some image → Text.HasVisible image) ∧
      lookup userVariable = some user ∧ Text.HasVisible user := by
  have himage : (lookup imageVariable).any Text.isBlank = false ↔
      ∀ image, lookup imageVariable = some image → Text.HasVisible image := by
    simp only [Option.any_eq_false, Text.isBlank_eq_false_iff]
  rw [writtenUser?, ← himage]
  cases (lookup imageVariable).any Text.isBlank with
  | true => simp
  | false => simp [Option.filter_eq_some_iff, Text.isBlank_eq_false_iff]

theorem not_isAccountName_of_written (h : Unmergeable lookup e) {user : String}
    (hwritten : writtenUser? lookup = some user) : ¬ IsAccountName user := by
  obtain ⟨hvisible, hset, hshown⟩ := writtenUser?_eq_some_iff.mp hwritten
  cases h with
  | blankImage himage hblank => exact absurd (hvisible _ himage) hblank
  | blankUser _ huser hblank =>
      obtain rfl := Option.some.inj (hset.symm.trans huser)
      exact absurd hshown hblank
  | user _ huser _ hunfit =>
      obtain rfl := Option.some.inj (hset.symm.trans huser)
      exact hunfit

/-- An override that fails leaves the settings as they were if it has written nothing new; a user
that it has written is always new. -/
theorem snd_eq_self_iff_of_unmergeable (huser : IsAccountName settings.builderUser)
    (h : Unmergeable lookup e) : (settings.mergeVariables lookup).2 = settings ↔
      writtenUser? lookup = none ∧
        ∀ image, writtenImage? lookup = some image → image = settings.baseImage := by
  have hnew : (writtenUser? lookup).getD settings.builderUser = settings.builderUser ↔
      writtenUser? lookup = none := by
    cases hwritten : writtenUser? lookup with
    | none => simp
    | some user =>
        have hne : user ≠ settings.builderUser := by
          rintro rfl
          exact not_isAccountName_of_written h hwritten huser
        simpa using hne
  have himage : (writtenImage? lookup).getD settings.baseImage = settings.baseImage ↔
      ∀ image, writtenImage? lookup = some image → image = settings.baseImage := by
    cases writtenImage? lookup <;> simp
  rw [mergeVariables_snd, ← hnew, ← himage]
  obtain ⟨image, user, group⟩ := settings
  rw [mk.injEq, eq_self, and_true, and_comm]

/-! ### Any number of overridings -/

/-- The settings after overriding time after time, each time with what the last one has left. -/
def keptAfter (lookups : List (String → Option String)) (settings : Settings) : Settings :=
  lookups.foldl (fun kept lookup => (kept.mergeVariables lookup).2) settings

theorem keptAfter_cons (lookup : String → Option String)
    (lookups : List (String → Option String)) (settings : Settings) :
    keptAfter (lookup :: lookups) settings =
      keptAfter lookups (settings.mergeVariables lookup).2 := rfl

theorem builderGroup_keptAfter : ∀ (lookups : List (String → Option String))
    (settings : Settings), (keptAfter lookups settings).builderGroup = settings.builderGroup
  | [], _ => rfl
  | lookup :: lookups, settings => by
      rw [keptAfter_cons, builderGroup_keptAfter lookups, mergeVariables_snd]

theorem builderUser_keptAfter : ∀ (lookups : List (String → Option String)) (settings : Settings),
    (keptAfter lookups settings).builderUser =
      (lookups.reverse.findSome? writtenUser?).getD settings.builderUser
  | [], _ => rfl
  | lookup :: lookups, settings => by
      have hlast : (lookup :: lookups).reverse.findSome? writtenUser? =
          (lookups.reverse.findSome? writtenUser?).or (writtenUser? lookup) := by
        rw [List.reverse_cons, List.findSome?_append, List.findSome?_singleton]
      rw [keptAfter_cons, builderUser_keptAfter lookups, mergeVariables_snd, hlast]
      cases lookups.reverse.findSome? writtenUser? <;> rfl

theorem validate_keptAfter_iff (hvalid : settings.validate = .ok ())
    (lookups : List (String → Option String)) : (keptAfter lookups settings).validate = .ok () ↔
      ∀ user, lookups.reverse.findSome? writtenUser? = some user → IsAccountName user := by
  obtain ⟨huser, hgroup⟩ := validate_eq_ok_iff.mp hvalid
  rw [validate_eq_ok_iff, builderUser_keptAfter, builderGroup_keptAfter]
  cases lookups.reverse.findSome? writtenUser? with
  | none => simp [huser, hgroup]
  | some user => simp [hgroup]

end Settings

/-- **What a failed override leaves.**  Let settings be in order.  If overriding them fails, they
are left as they were exactly if no user has been written and no other image than theirs, and they
are left in order exactly if no user has been written.  After any number of overridings, some of
which may have failed, they are in order exactly if the last user that was written is an account
name, or none was. -/
theorem failed_override_intact_iff {settings : Settings} (hvalid : settings.validate = .ok ()) :
    (∀ lookup e kept, settings.mergeVariables lookup = (.error e, kept) →
      (kept = settings ↔ Settings.writtenUser? lookup = none ∧
        ∀ image, Settings.writtenImage? lookup = some image → image = settings.baseImage) ∧
      (kept.validate = .ok () ↔ Settings.writtenUser? lookup = none)) ∧
    ∀ lookups, (Settings.keptAfter lookups settings).validate = .ok () ↔
      ∀ user, lookups.reverse.findSome? Settings.writtenUser? = some user →
        IsAccountName user := by
  refine ⟨fun lookup e kept h => ?_, Settings.validate_keptAfter_iff hvalid⟩
  have hfault : Settings.Unmergeable lookup e :=
    (Settings.mergeVariables_eq_error_iff hvalid).mp (by rw [h])
  obtain rfl : (settings.mergeVariables lookup).2 = kept := by rw [h]
  refine ⟨Settings.snd_eq_self_iff_of_unmergeable (Settings.validate_eq_ok_iff.mp hvalid).1 hfault,
    ?_⟩
  have hinOrder := Settings.validate_keptAfter_iff hvalid [lookup]
  rw [List.reverse_singleton, List.findSome?_singleton] at hinOrder
  refine hinOrder.trans ⟨fun hnames => ?_, fun hnone user hwritten => ?_⟩
  · rw [Option.eq_none_iff_forall_ne_some]
    intro user hwritten
    exact Settings.not_isAccountName_of_written hfault hwritten (hnames user hwritten)
  · rw [hnone] at hwritten
    cases hwritten

/-- A new image comes with a blank user, then a user is no account name, then a user is one: the
first failure leaves a new image, the second one settings that are not in order, and the success
after them mends this. -/
theorem failed_override_intact_iff_mended :
    let setting (image user : Option String) : String → Option String :=
      fun name => if name = Settings.imageVariable then image else user
    let blank := setting (some "alpine:edge") (some " ")
    let malformed := setting none (some "bob smith")
    let mended := setting none (some "bob")
    let settings : Settings := {}
    let kept : Settings := { baseImage := "alpine:edge" }
    settings.validate = .ok () ∧
      settings.mergeVariables blank = (.error (.invalidValue Settings.userVariable " "), kept) ∧
      kept ≠ settings ∧ kept.validate = .ok () ∧
      (Settings.keptAfter [blank, malformed] settings).validate ≠ .ok () ∧
      (Settings.keptAfter [blank, malformed, mended] settings).validate = .ok () := by
  intro setting blank malformed mended settings kept
  have hvalid : settings.validate = .ok () := by decide
  have hblank : settings.mergeVariables blank =
      (.error (.invalidValue Settings.userVariable " "), kept) := by decide +kernel
  obtain ⟨hfails, hruns⟩ := failed_override_intact_iff hvalid
  obtain ⟨hintact, hinOrder⟩ := hfails blank _ _ hblank
  refine ⟨hvalid, hblank, fun h => ?_, hinOrder.mpr (by decide), fun h => ?_, ?_⟩
  · exact absurd ((hintact.mp h).2 "alpine:edge" (by decide)) (by decide)
  · have hname : IsAccountName "bob smith" := (hruns _).mp h "bob smith" (by decide)
    exact absurd (isAccountName_iff.mpr hname) (by decide)
  · refine (hruns _).mpr fun user hlast => ?_
    obtain rfl : "bob" = user := Option.some.inj hlast
    exact isAccountName_iff.mp (by decide)

/-- **A failed override can spoil the settings.**  A user that is no account name is refused, but
it stays: the settings are not in order any more, and from then on overriding fails also where no
variable is set. -/
theorem failed_override_keeps_malformed :
    let lookup : String → Option String :=
      fun name => if name = Settings.userVariable then some "bob smith" else none
    let refused : ConfigError := .invalidValue "builder_user" "bob smith"
    let kept : Settings := { builderUser := "bob smith" }
    ({} : Settings).validate = .ok () ∧
      ({} : Settings).mergeVariables lookup = (.error refused, kept) ∧
      kept ≠ {} ∧ kept.validate = .error refused ∧
      kept.mergeVariables (fun _ => none) = (.error refused, kept) := by
  decide +kernel

end PackagePlan
