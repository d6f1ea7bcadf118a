import PackagePlan.Proofs.Settings

/-! # What is wrong with settings

A settings document is refused for the first of three things that are wrong with it (`Unfit`).
Overriding settings whose account is in order fails for what is wrong with the variables
(`Unmergeable`), whatever the settings are.

* `ofToml_eq_error_iff` : reading fails with what is wrong with the document.
* `mergeVariables_eq_error_iff` : overriding fails with what is wrong with the variables. -/

namespace PackagePlan.Settings

/-- What is wrong with a settings document: it is not well formed or a setting in it is not a text,
so that the parser refuses it, or the user or else the group is no account name. -/
inductive Unfit (text : String) : ConfigError → Prop
  | refused (unread : ∀ document settings, Toml.parse? text = some document →
      ofDocument? document ≠ some settings) : Unfit text (.parse (.refusal .settings text))
  | user {document : Toml.Value} {settings : Settings}
      (parsed : Toml.parse? text = some document) (read : ofDocument? document = some settings)
      (unfit : ¬ IsAccountName settings.builderUser) :
      Unfit text (.invalidValue "builder_user" settings.builderUser)
  | group {document : Toml.Value} {settings : Settings}
      (parsed : Toml.parse? text = some document) (read : ofDocument? document = some settings)
      (user : IsAccountName settings.builderUser)
      (unfit : ¬ IsAccountName settings.builderGroup) :
      Unfit text (.invalidValue "builder_group" settings.builderGroup)

/-- What is wrong with the variables: the image is blank or else the user is, or the user is no
account name. -/
inductive Unmergeable (lookup : String → Option String) : ConfigError → Prop
  | blankImage {image : String} (set : lookup imageVariable = some image)
      (blank : ¬ Text.HasVisible image) : Unmergeable lookup (.invalidValue imageVariable image)
  | blankUser {user : String}
      (visible : ∀ image, lookup imageVariable = some image → Text.HasVisible image)
      (set : lookup userVariable = some user) (blank : ¬ Text.HasVisible user) :
      Unmergeable lookup (.invalidValue userVariable user)
  | user {user : String}
      (visible : ∀ image, lookup imageVariable = some image → Text.HasVisible image)
      (set : lookup userVariable = some user) (shown : Text.HasVisible user)
      (unfit : ¬ IsAccountName user) : Unmergeable lookup (.invalidValue "builder_user" user)

variable {settings merged : Settings} {e : ConfigError}

theorem validate_eq_error_iff : settings.validate = .error e ↔
    (¬ IsAccountName settings.builderUser ∧ e = .invalidValue "builder_user" settings.builderUser) ∨
      IsAccountName settings.builderUser ∧ ¬ IsAccountName settings.builderGroup ∧
        e = .invalidValue "builder_group" settings.builderGroup := by
  unfold validate
  rw [← isAccountName_iff, ← isAccountName_iff]
  cases isAccountName settings.builderUser <;> cases isAccountName settings.builderGroup <;>
    simp [eq_comm]

theorem ofToml_eq_error_iff {text : String} : ofToml text = .error e ↔ Unfit text e := by
  constructor
  · intro h
    unfold ofToml at h
    split at h
    case h_1 hnone =>
      cases h
      refine .refused ?_
      intro document settings hparse hread
      rw [hparse, Option.bind_some, hread] at hnone
      cases hnone
    case h_2 settings hread =>
      obtain ⟨document, hparse, hread⟩ := Option.bind_eq_some_iff.mp hread
      cases hvalid : settings.validate with
      | ok _ =>
          rw [hvalid] at h
          cases h
      | error fault =>
          rw [hvalid] at h
          cases h
          rcases validate_eq_error_iff.mp hvalid with ⟨huser, rfl⟩ | ⟨huser, hgroup, rfl⟩
          · exact .user hparse hread huser
          · exact .group hparse hread huser hgroup
  · intro h
    unfold ofToml
    cases h with
    | refused hunread =>
        have hnone : (Toml.parse? text).bind ofDocument? = none :=
          Option.bind_eq_none_iff.mpr fun document hparse =>
            Option.eq_none_iff_forall_ne_some.mpr fun settings => hunread document settings hparse
        simp only [hnone]
    | user hparse hread huser =>
        simp only [hparse, Option.bind_some, hread, validate_eq_error_iff.mpr (.inl ⟨huser, rfl⟩)]
        rfl
    | group hparse hread huser hgroup =>
        simp only [hparse, Option.bind_some, hread,
          validate_eq_error_iff.mpr (.inr ⟨huser, hgroup, rfl⟩)]
        rfl

variable {lookup : String → Option String}

theorem Unmergeable.congr {lookup' : String → Option String} (h : Unmergeable lookup e)
    (himage : lookup imageVariable = lookup' imageVariable)
    (huser : lookup userVariable = lookup' userVariable) : Unmergeable lookup' e := by
  cases h with
  | blankImage hset hblank => exact .blankImage (himage.symm.trans hset) hblank
  | blankUser hvisible hset hblank =>
      exact .blankUser (himage ▸ hvisible) (huser.symm.trans hset) hblank
  | user hvisible hset hshown hunfit =>
      exact .user (himage ▸ hvisible) (huser.symm.trans hset) hshown hunfit

theorem mergeUser_eq_error_iff (huser : IsAccountName settings.builderUser)
    (hgroup : IsAccountName settings.builderGroup) :
    (settings.mergeUser lookup).1 = .error e ↔ ∃ user, lookup userVariable = some user ∧
      (¬ Text.HasVisible user ∧ e = .invalidValue userVariable user ∨
        Text.HasVisible user ∧ ¬ IsAccountName user ∧ e = .invalidValue "builder_user" user) := by
  unfold mergeUser
  cases lookup userVariable with
  | none =>
      have hvalid : settings.validate = .ok () := validate_eq_ok_iff.mpr ⟨huser, hgroup⟩
      simp [hvalid]
  | some user =>
      simp only [Option.some.injEq, exists_eq_left']
      cases hblank : Text.isBlank user with
      | true =>
          have hhidden := Text.isBlank_iff.mp hblank
          simp only [if_true, Except.error.injEq, hhidden, not_false_eq_true, true_and, false_and,
            or_false]
          exact eq_comm
      | false =>
          have hshown := Text.isBlank_eq_false_iff.mp hblank
          simp only [Bool.false_eq_true, if_false, hshown, not_true_eq_false, false_and, true_and,
            false_or]
          rw [validate_eq_error_iff]
          simp only [hgroup, not_true_eq_false, false_and, and_false, or_false]

/-- Overriding settings whose account is in order fails for what is wrong with the variables
alone: the group stays as it is. -/
theorem mergeVariables_eq_error_iff (hvalid : settings.validate = .ok ()) :
    (settings.mergeVariables lookup).1 = .error e ↔ Unmergeable lookup e := by
  obtain ⟨huser, hgroup⟩ := validate_eq_ok_iff.mp hvalid
  have huserFault : (∀ image, lookup imageVariable = some image → Text.HasVisible image) →
      ((∃ user, lookup userVariable = some user ∧
        (¬ Text.HasVisible user ∧ e = .invalidValue userVariable user ∨
          Text.HasVisible user ∧ ¬ IsAccountName user ∧ e = .invalidValue "builder_user" user)) ↔
        Unmergeable lookup e) := by
    intro hvisible
    constructor
    · rintro ⟨user, hset, ⟨hblank, rfl⟩ | ⟨hshown, hunfit, rfl⟩⟩
      · exact .blankUser hvisible hset hblank
      · exact .user hvisible hset hshown hunfit
    · intro h
      cases h with
      | blankImage hset hblank => exact absurd (hvisible _ hset) hblank
      | blankUser _ hset hblank => exact ⟨_, hset, .inl ⟨hblank, rfl⟩⟩
      | user _ hset hshown hunfit => exact ⟨_, hset, .inr ⟨hshown, hunfit, rfl⟩⟩
  unfold mergeVariables
  cases himage : lookup imageVariable with
  | none =>
      rw [himage] at huserFault
      exact (mergeUser_eq_error_iff huser hgroup).trans (huserFault nofun)
  | some image =>
      cases hblank : Text.isBlank image with
      | true =>
          have hhidden := Text.isBlank_iff.mp hblank
          simp only [hblank, if_true]
          constructor
          · rintro ⟨⟩
            exact .blankImage himage hhidden
          · intro h
            cases h with
            | blankImage hset _ =>
                cases himage.symm.trans hset
                rfl
            | blankUser hvisible _ _ | user hvisible _ _ _ =>
                exact absurd (hvisible _ himage) hhidden
      | false =>
          have hshown := Text.isBlank_eq_false_iff.mp hblank
          simp only [hblank, Bool.false_eq_true, if_false]
          refine Iff.trans (mergeUser_eq_error_iff ?_ hgroup) (huserFault ?_)
          · exact huser
          intro other hset
          cases himage.symm.trans hset
          exact hshown

end PackagePlan.Settings
