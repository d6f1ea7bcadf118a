import PackagePlan.Proofs.Settings.Kept

/-! # Which source of a setting counts

A setting comes from the last variable that sets it, else from the document, else it has its default.
No variable sets the group.

* `given?` : the text that a document has for a setting.
* `lastSet?` : the text that the last variable has set, in any number of overridings.
* `ofDocument?_eq_some`, `Overridden.eq_lastSet` : what reading and overriding give.
* `settings_precedence` : the order of the three sources. -/

namespace PackagePlan

namespace Settings

/-! ### What a document gives -/

/-- The text that a settings document has for a setting: under its name in the table `compiler`, or
at its place in a list that stands for that table. -/
def given? (name : String) (place : Nat) : Toml.Value → Option String
  | .table _ entries =>
    match Toml.Value.find? "compiler" entries with
    | some (.table _ members) => textOf? (Toml.Value.find? name members)
    | some (.list items) => textOf? items[place]?
    | _ => none
  | _ => none
where
  /-- The text, if a value is there and is one. -/
  textOf? : Option Toml.Value → Option String
    | some (.text s) => some s
    | _ => none

variable {start settings merged final : Settings} {lookup : String → Option String}
  {lookups : List (String → Option String)}

theorem readText?_eq_some_iff {missing text : String} {value : Option Toml.Value} :
    readText? missing value = some text ↔
      (value = none ∨ ∃ s, value = some (.text s)) ∧ (given?.textOf? value).getD missing = text := by
  cases value with
  | none => simp [readText?, given?.textOf?]
  | some value => cases value <;> simp [readText?, given?.textOf?]

theorem eq_of_readText? {image user group : Option Toml.Value}
    (h : (do
      let image ← readText? ({} : Settings).baseImage image
      let user ← readText? ({} : Settings).builderUser user
      let group ← readText? ({} : Settings).builderGroup group
      return { baseImage := image, builderUser := user, builderGroup := group }) =
        some settings) :
    settings =
      { baseImage := (given?.textOf? image).getD ({} : Settings).baseImage
        builderUser := (given?.textOf? user).getD ({} : Settings).builderUser
        builderGroup := (given?.textOf? group).getD ({} : Settings).builderGroup } := by
  simp only [Option.bind_eq_bind, Option.bind_eq_some_iff, Option.pure_def, Option.some.injEq] at h
  obtain ⟨image, himage, user, huser, group, hgroup, rfl⟩ := h
  rw [(readText?_eq_some_iff.mp himage).2, (readText?_eq_some_iff.mp huser).2,
    (readText?_eq_some_iff.mp hgroup).2]

/-- What a document does not give has its default. -/
theorem ofDocument?_eq_some {document : Toml.Value} (h : ofDocument? document = some settings) :
    settings =
      { baseImage := (given? "base_image" 0 document).getD ({} : Settings).baseImage
        builderUser := (given? "builder_user" 1 document).getD ({} : Settings).builderUser
        builderGroup := (given? "builder_group" 2 document).getD ({} : Settings).builderGroup } := by
  unfold ofDocument? at h
  split at h
  case h_1 entries =>
    split at h
    case h_1 hnone =>
      cases h
      simp only [given?, hnone, Option.getD_none]
    case h_2 members htable =>
      simp only [given?, htable]
      exact eq_of_readText? h
    case h_3 items hlist =>
      simp only [given?, hlist]
      exact eq_of_readText? h
    case h_4 => cases h
  case h_2 => cases h

/-! ### Any number of overridings -/

/-- The text that the last lookup has for a variable, of those that have one. -/
def lastSet? (name : String) (lookups : List (String → Option String)) : Option String :=
  lookups.reverse.findSome? fun lookup => lookup name

theorem lastSet?_cons (name : String) (lookup : String → Option String)
    (lookups : List (String → Option String)) :
    lastSet? name (lookup :: lookups) = (lastSet? name lookups).or (lookup name) := by
  rw [lastSet?, List.reverse_cons, List.findSome?_append, List.findSome?_singleton, lastSet?]

theorem overridden_cons_iff : Overridden start (lookup :: lookups) final ↔
    ∃ merged, start.mergeVariables lookup = (.ok (), merged) ∧ Overridden merged lookups final := by
  constructor
  · rintro ⟨⟩
    exact ⟨_, ‹_›, ‹_›⟩
  · rintro ⟨merged, hfirst, hrest⟩
    exact .merge hfirst hrest

/-- Image and user come from the last variables that set them. -/
theorem Overridden.eq_lastSet (h : Overridden start lookups final) : final =
    { start with
      baseImage := (lastSet? imageVariable lookups).getD start.baseImage
      builderUser := (lastSet? userVariable lookups).getD start.builderUser } := by
  induction h with
  | done => rfl
  | @merge settings merged final lookup lookups first _ ih =>
      obtain ⟨rfl, _⟩ := mergeVariables_eq_ok_iff.mp first
      rw [ih, lastSet?_cons, lastSet?_cons]
      cases lastSet? imageVariable lookups <;> cases lastSet? userVariable lookups <;> rfl

theorem exists_overridden_iff : ∀ {lookups : List (String → Option String)} {start : Settings},
    start.validate = .ok () → ((∃ final, Overridden start lookups final) ↔
      ∀ lookup ∈ lookups, ∀ e, ¬ Unmergeable lookup e)
  | [], start, _ => ⟨fun _ => nofun, fun _ => ⟨start, .done start⟩⟩
  | lookup :: lookups, start, hvalid => by
      rw [List.forall_mem_cons]
      cases hmerge : start.mergeVariables lookup with
      | mk result merged =>
          cases result with
          | error e =>
              have hfault : Unmergeable lookup e :=
                (mergeVariables_eq_error_iff hvalid).mp (by rw [hmerge])
              constructor
              · rintro ⟨final, h⟩
                obtain ⟨_, hfirst, _⟩ := overridden_cons_iff.mp h
                cases hmerge.symm.trans hfirst
              · rintro ⟨hnone, _⟩
                exact absurd hfault (hnone e)
          | ok _ =>
              have hmerged : merged.validate = .ok () :=
                (mergeVariables_eq_ok_iff.mp hmerge).2.2.2
              have hnone : ∀ e, ¬ Unmergeable lookup e := by
                intro e hfault
                have herror := (mergeVariables_eq_error_iff hvalid).mpr hfault
                rw [hmerge] at herror
                cases herror
              rw [and_iff_right hnone, ← exists_overridden_iff hmerged]
              simp only [overridden_cons_iff, hmerge, Prod.mk.injEq, true_and, exists_eq_left']

/-! ### Overriding twice -/

theorem mergeUser_again (settings : Settings) (lookup : String → Option String) :
    (settings.mergeUser lookup).2.mergeUser lookup = settings.mergeUser lookup := by
  unfold mergeUser
  cases lookup userVariable with
  | none => rfl
  | some user => cases hblank : Text.isBlank user <;> simp [hblank]

/-- Overriding again with the same variables changes nothing, whether it succeeds or not. -/
theorem mergeVariables_again (settings : Settings) (lookup : String → Option String) :
    (settings.mergeVariables lookup).2.mergeVariables lookup = settings.mergeVariables lookup := by
  cases himage : lookup imageVariable with
  | none =>
      simp only [mergeVariables, himage]
      exact mergeUser_again settings lookup
  | some image =>
      cases hblank : Text.isBlank image with
      | true => simp [mergeVariables, himage, hblank]
      | false =>
          simp only [mergeVariables, himage, hblank, Bool.false_eq_true, if_false]
          -- the image that is written the second time is there already
          have hwritten : { (mergeUser lookup { settings with baseImage := image }).2 with
              baseImage := image } = (mergeUser lookup { settings with baseImage := image }).2 := by
            rw [mergeUser_snd]
          rw [hwritten]
          exact mergeUser_again _ lookup

theorem overridden_twice_iff {after : List (String → Option String)} :
    ∀ {before : List (String → Option String)} {start : Settings},
      Overridden start (before ++ lookup :: lookup :: after) final ↔
        Overridden start (before ++ lookup :: after) final
  | [], start => by
      have hagain : ∀ {merged}, start.mergeVariables lookup = (.ok (), merged) →
          merged.mergeVariables lookup = (.ok (), merged) := by
        intro merged hmerge
        have h := mergeVariables_again start lookup
        rwa [hmerge] at h
      simp only [List.nil_append, overridden_cons_iff]
      constructor
      · rintro ⟨merged, hmerge, same, hsame, hrest⟩
        cases (hagain hmerge).symm.trans hsame
        exact ⟨merged, hmerge, hrest⟩
      · rintro ⟨merged, hmerge, hrest⟩
        exact ⟨merged, hmerge, merged, hagain hmerge, hrest⟩
  | first :: before, start => by
      simp only [List.cons_append, overridden_cons_iff, overridden_twice_iff]

end Settings

/-- **Which source of a setting counts.**  Let settings be read from a document and then overridden
any number of times, always with success.  The image is the one that the last variable has set, else
the one in the document, else the default one, and so is the user; the group is the one in the
document, else the default one.  All texts are taken as they are.  Overriding succeeds every time
exactly if nothing is wrong with the variables at any time.  Overriding twice in a row with the same
variables is the same as overriding once. -/
theorem settings_precedence {text : String} {start : Settings} (h : Settings.ofToml text = .ok start) :
    ∃ document, Toml.parse? text = some document ∧
      (∀ lookups final, Settings.Overridden start lookups final →
        final.baseImage = (Settings.lastSet? Settings.imageVariable lookups).getD
          ((Settings.given? "base_image" 0 document).getD "alpine:3.23") ∧
        final.builderUser = (Settings.lastSet? Settings.userVariable lookups).getD
          ((Settings.given? "builder_user" 1 document).getD "builder") ∧
        final.builderGroup = (Settings.given? "builder_group" 2 document).getD "abuild") ∧
      (∀ lookups, (∃ final, Settings.Overridden start lookups final) ↔
        ∀ lookup ∈ lookups, ∀ e, ¬ Settings.Unmergeable lookup e) ∧
      ∀ before lookup after final,
        Settings.Overridden start (before ++ lookup :: lookup :: after) final ↔
          Settings.Overridden start (before ++ lookup :: after) final := by
  obtain ⟨document, hparse, hread, hvalid⟩ := Settings.ofToml_eq_ok_iff.mp h
  refine ⟨document, hparse, fun lookups final hfinal => ?_,
    fun lookups => Settings.exists_overridden_iff hvalid,
    fun before lookup after final => Settings.overridden_twice_iff⟩
  rw [hfinal.eq_lastSet, Settings.ofDocument?_eq_some hread]
  exact ⟨rfl, rfl, rfl⟩

/-- A document sets the user and the group, and of three times of overriding the first sets the
image and the user and the last the image: the image comes from the last, the user, with its dash,
from the first, and the group from the document. -/
theorem settings_precedence_layers :
    let text := "[compiler]\nbuilder_user = \"ci\"\nbuilder_group = \"wheel\"\n"
    let setting (image user : Option String) : String → Option String :=
      fun name => if name = Settings.imageVariable then image else user
    let lookups := [setting (some "alpine:3.20") (some "bob-"), setting none none,
      setting (some " alpine:edge ") none]
    let start : Settings := { builderUser := "ci", builderGroup := "wheel" }
    let final : Settings :=
      { baseImage := " alpine:edge ", builderUser := "bob-", builderGroup := "wheel" }
    Settings.ofToml text = .ok start ∧ Settings.Overridden start lookups final ∧
      (∃ document, Toml.parse? text = some document ∧
        "wheel" = (Settings.given? "builder_group" 2 document).getD "abuild") ∧
      Settings.Overridden start (lookups.take 1 ++ lookups) final := by
  intro text setting lookups start final
  let first : Settings :=
    { baseImage := "alpine:3.20", builderUser := "bob-", builderGroup := "wheel" }
  have htext : Settings.ofToml text = .ok start := by decide +kernel
  have hfirst : start.mergeVariables (setting (some "alpine:3.20") (some "bob-")) =
      (.ok (), first) := by decide +kernel
  have hunset : first.mergeVariables (setting none none) = (.ok (), first) := by decide +kernel
  have hlast : first.mergeVariables (setting (some " alpine:edge ") none) = (.ok (), final) := by
    decide +kernel
  have hoverridden : Settings.Overridden start lookups final :=
    .merge hfirst (.merge hunset (.merge hlast (.done final)))
  obtain ⟨document, hparse, hsources, _, htwice⟩ := settings_precedence htext
  obtain ⟨_, _, hgroup⟩ := hsources lookups final hoverridden
  exact ⟨htext, hoverridden, ⟨document, hparse, hgroup⟩, (htwice [] _ _ final).mpr hoverridden⟩

end PackagePlan
