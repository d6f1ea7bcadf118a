import PackagePlan.Proofs.Json
import PackagePlan.Proofs.SpecDocument
import PackagePlan.Proofs.Yaml.Datum
import PackagePlan.Proofs.Yaml.Record
import PackagePlan.Spec.Json
import PackagePlan.Spec.Yaml

/-! # Specs are read back from their trees

What is left out of the tree of a spec is what a missing member is read as.  The kind of an
argument is not written: it is told from the tree of its value, which works for all arguments
but whole numbers that are kept as unsigned without need (`Argument.IsWide`) and numbers that are
not finite (`Argument.IsFinite`).

* `Argument.ofJson?_toJson_iff` : which arguments are read back.
* `Spec.isWide_of_ofYaml` : arguments that are read from a document are unsigned only if they
  have to be.
* `spec_read_back` : specs are read back, and defaults are put in once. -/

namespace PackagePlan

open Json (Same Reads)
open Table (findEntry)

/-! ### Arguments -/

namespace Argument

/-- A whole number is kept as unsigned only if it is too great for a signed one. -/
def IsWide : Argument → Prop
  | unsigned n => 0x7fffffffffffffff < n.toNat
  | _ => True

/-- A floating-point number is finite. -/
def IsFinite : Argument → Prop
  | real x => x.isFinite = true
  | _ => True

instance : DecidablePred IsWide
  | unsigned n => inferInstanceAs (Decidable (0x7fffffffffffffff < n.toNat))
  | boolean _ | integer _ | real _ | text _ => inferInstanceAs (Decidable True)

instance : DecidablePred IsFinite
  | real x => inferInstanceAs (Decidable (x.isFinite = true))
  | boolean _ | integer _ | unsigned _ | text _ => inferInstanceAs (Decidable True)

theorem ofInt_toInt (n : Int64) : ofInt n.toInt = integer n := by
  have hlow : -2 ^ 63 ≤ n.toInt := n.le_toInt
  have hhigh : n.toInt < 2 ^ 63 := n.toInt_lt
  have hfits : Number.FitsInt64 n.toInt := by
    constructor <;> omega
  unfold ofInt
  rw [if_pos hfits, Int64.ofInt_toInt]

theorem ofInt_toNat_of_wide {n : UInt64} (h : 0x7fffffffffffffff < n.toNat) :
    ofInt n.toNat = unsigned n := by
  have hfits : ¬ Number.FitsInt64 n.toNat := by
    intro hn
    omega
  unfold ofInt
  rw [if_neg hfits, Int.toNat_natCast, UInt64.ofNat_toNat]

theorem ofInt_toNat_of_not_wide {n : UInt64} (h : ¬ 0x7fffffffffffffff < n.toNat) :
    ofInt n.toNat = integer (Int64.ofInt n.toNat) := by
  have hfits : Number.FitsInt64 n.toNat := by
    constructor <;> omega
  unfold ofInt
  rw [if_pos hfits]

theorem ofJson?_integer {n : Int} (h : Number.Fits64 n) : ofJson? (.integer n) = some (ofInt n) :=
  if_pos h

/-- The kind and the value of an argument are told from its tree exactly if it is an unsigned
number beyond the signed ones, a finite floating-point number, or of another kind. -/
theorem ofJson?_toJson_iff {a : Argument} :
    ofJson? a.toJson = some a ↔ a.IsWide ∧ a.IsFinite := by
  cases a with
  | boolean b => exact ⟨fun _ => ⟨trivial, trivial⟩, fun _ => rfl⟩
  | integer n =>
      have hlow : -2 ^ 63 ≤ n.toInt := n.le_toInt
      have hhigh : n.toInt < 2 ^ 63 := n.toInt_lt
      have hread : ofJson? (integer n).toJson = some (integer n) := by
        unfold toJson
        rw [ofJson?_integer (by constructor <;> omega), ofInt_toInt]
      exact ⟨fun _ => ⟨trivial, trivial⟩, fun _ => hread⟩
  | unsigned n =>
      have hhigh : n.toNat < 2 ^ 64 := n.toNat_lt
      have hread : ofJson? (unsigned n).toJson = some (ofInt n.toNat) := by
        unfold toJson
        exact ofJson?_integer (by constructor <;> omega)
      rw [hread, Option.some_inj]
      constructor
      · intro h
        refine ⟨?_, trivial⟩
        by_contra hnot
        rw [ofInt_toNat_of_not_wide hnot] at h
        cases h
      · rintro ⟨h, _⟩
        exact ofInt_toNat_of_wide h
  | real x =>
      have htree : (real x).toJson = if x.isFinite then .real x else .null := rfl
      rw [htree]
      cases hx : x.isFinite with
      | false => simp [ofJson?, IsFinite, hx]
      | true => simp [ofJson?, IsFinite, IsWide, hx]
  | text s => exact ⟨fun _ => ⟨trivial, trivial⟩, fun _ => rfl⟩

theorem reads_toJson {a : Argument} (hwide : a.IsWide) (hfinite : a.IsFinite) :
    Reads ofJson? a.toJson a := by
  have hread := ofJson?_toJson_iff.mpr ⟨hwide, hfinite⟩
  intro json h
  -- the tree of an argument has no members
  have hsame : json = a.toJson := by
    cases a with
    | real x =>
        have htree : (real x).toJson = .real x := if_pos hfinite
        rw [htree] at h ⊢
        cases h
        rfl
    | _ =>
        cases h
        rfl
  rw [hsame, hread]

end Argument

/-! ### Parts of a spec -/

theorem Copyright.reads_toJson (c : Copyright) : Reads ofJson? c.toJson c := by
  intro json h
  have hrecord : c.toJson.IsRecord := ⟨_, rfl, by simp⟩
  have hattestation : json.getD? "attestation" Json.text? "" = some c.attestation :=
    h.getD? hrecord (Json.reads_text _) (by simp [toJson, findEntry])
  have hlicense : json.getD? "license" Json.text? "" = some c.license :=
    h.getD? hrecord (Json.reads_text _) (by simp [toJson, findEntry])
  unfold ofJson?
  rw [hattestation, hlicense]
  rfl

theorem reads_runtimeToJson (runtime : List String) :
    Reads runtimeOfJson? (runtimeToJson runtime) runtime := by
  intro json h
  have hrecord : (runtimeToJson runtime).IsRecord :=
    ⟨_, rfl, by unfold Json.memberUnless; split <;> simp⟩
  exact h.getD?_texts hrecord (by simp [runtimeToJson])

theorem Environment.reads_contentsToJson (e : Environment) :
    Reads ofContents? e.contentsToJson e := by
  intro json h
  have hrecord : e.contentsToJson.IsRecord :=
    ⟨_, rfl, by unfold Json.memberUnless; split <;> split <;> simp⟩
  have hrepositories : json.getD? "repositories" (Json.list? Json.text?) [] =
      some e.repositories :=
    h.getD?_texts hrecord (by simp [contentsToJson])
  have hpackages : json.getD? "packages" (Json.list? Json.text?) [] = some e.packages :=
    h.getD?_texts hrecord (by simp [contentsToJson])
  unfold ofContents?
  rw [hrepositories, hpackages]
  rfl

theorem Environment.reads_toJson (e : Environment) : Reads ofJson? e.toJson e := by
  intro json h
  have hrecord : e.toJson.IsRecord := ⟨_, rfl, by simp⟩
  exact h.getD? hrecord e.reads_contentsToJson (by simp [toJson, findEntry])

theorem reads_contextToJson (name : String) : Reads contextOfJson? (contextToJson name) name := by
  intro json h
  have hrecord : (contextToJson name).IsRecord := ⟨_, rfl, by simp⟩
  exact h.getD? hrecord (Json.reads_text name) (by simp [contextToJson, findEntry])

theorem Source.reads_toJson (source : Source) : Reads ofJson? source.toJson source := by
  intro json h
  have hrecord : source.toJson.IsRecord :=
    ⟨_, rfl, by cases source.context <;> simp [Json.memberOf]⟩
  have hcontext : json.optional? "context" contextOfJson? = some source.context :=
    h.optional? hrecord reads_contextToJson (fun _ => Json.object_ne_null _) (by simp [toJson])
  unfold ofJson?
  rw [hcontext]
  rfl

theorem Step.reads_toJson {step : Step} (hwide : ∀ a ∈ step.arguments.values, a.IsWide)
    (hfinite : ∀ a ∈ step.arguments.values, a.IsFinite) : Reads ofJson? step.toJson step := by
  intro json h
  have hrecord : step.toJson.IsRecord := by
    refine ⟨_, rfl, ?_⟩
    unfold Json.memberUnless
    cases step.uses <;> cases step.run <;> split <;> simp [Json.memberOf]
  have huses : json.optional? "uses" Json.text? = some step.uses :=
    h.optional? hrecord Json.reads_text Json.text_ne_null (by simp [toJson])
  have harguments : json.getD? "with" (Json.table? Argument.ofJson?) .empty =
      some step.arguments :=
    h.getD?_table hrecord (fun a ha => Argument.reads_toJson (hwide a ha) (hfinite a ha))
      (by simp [toJson])
  have hrun : json.optional? "run" Json.text? = some step.run :=
    h.optional? hrecord Json.reads_text Json.text_ne_null (by simp [toJson])
  unfold ofJson?
  rw [huses, harguments, hrun]
  rfl

theorem Build.reads_toJson (build : Build) : Reads ofJson? build.toJson build := by
  intro json h
  have hrecord : build.toJson.IsRecord :=
    ⟨_, rfl, by cases build.sourceDir <;> simp [Json.memberOf]⟩
  have hinstallDir : json.getD? "install_dir" Json.text? defaultInstallDir =
      some build.installDir :=
    h.getD? hrecord (Json.reads_text _) (by simp [toJson, findEntry])
  have hsourceDir : json.optional? "source_dir" Json.text? = some build.sourceDir :=
    h.optional? hrecord Json.reads_text Json.text_ne_null (by simp [toJson, findEntry])
  unfold ofJson?
  rw [hinstallDir, hsourceDir]
  rfl

theorem Build.withDefaults_withDefaults (build : Build) :
    build.withDefaults.withDefaults = build.withDefaults := by
  have hdefault : Text.isBlank defaultInstallDir = false := by decide
  unfold withDefaults
  rw [Option.filter_filter]
  cases hblank : Text.isBlank build.installDir <;> simp [hblank, hdefault]

/-! ### Specs -/

namespace Spec

/-- Every argument of every step has the property. -/
def EveryArgument (P : Argument → Prop) (spec : Spec) : Prop :=
  ∀ step ∈ spec.pipeline, ∀ a ∈ step.arguments.values, P a

instance {P : Argument → Prop} [DecidablePred P] : DecidablePred (EveryArgument P) :=
  fun spec => inferInstanceAs
    (Decidable (∀ step ∈ spec.pipeline, ∀ a ∈ step.arguments.values, P a))

theorem isRecord_toJson (spec : Spec) : spec.toJson.IsRecord := by
  refine ⟨_, rfl, ?_⟩
  unfold Json.memberUnless
  split <;> split <;> simp

theorem reads_toJson {spec : Spec} (hwide : spec.EveryArgument Argument.IsWide)
    (hfinite : spec.EveryArgument Argument.IsFinite) : Reads ofJson? spec.toJson spec := by
  intro json h
  have hrecord := spec.isRecord_toJson
  have hname : json.getD? "name" Json.text? "" = some spec.name :=
    h.getD? hrecord (Json.reads_text _) (by simp [toJson, findEntry])
  have hversion : json.getD? "version" Json.text? "" = some spec.version :=
    h.getD? hrecord (Json.reads_text _) (by simp [toJson, findEntry])
  have hepoch : json.getD? "epoch" epochOfJson? 0 = some spec.epoch :=
    h.getD? hrecord (Json.reads_word _) (by simp [toJson, findEntry])
  have hdescription : json.getD? "description" Json.text? "" = some spec.description :=
    h.getD? hrecord (Json.reads_text _) (by simp [toJson, findEntry])
  have hurl : json.getD? "url" Json.text? "" = some spec.url :=
    h.getD? hrecord (Json.reads_text _) (by simp [toJson, findEntry])
  have hlicense : json.getD? "license" Json.text? "" = some spec.license :=
    h.getD? hrecord (Json.reads_text _) (by simp [toJson, findEntry])
  have hcopyright : json.getD? "copyright" (Json.list? Copyright.ofJson?) [] =
      some spec.copyright :=
    h.getD?_list hrecord (fun c _ => c.reads_toJson) (by simp [toJson, findEntry])
  have hruntime : json.getD? "dependencies" runtimeOfJson? [] = some spec.runtime :=
    h.getD? hrecord (reads_runtimeToJson _) (by simp [toJson, findEntry])
  have henvironment : json.getD? "environment" Environment.ofJson? {} =
      some spec.environment :=
    h.getD? hrecord spec.environment.reads_toJson (by simp [toJson, findEntry])
  have hsources : json.getD? "sources" (Json.table? Source.ofJson?) .empty =
      some spec.sources :=
    h.getD?_table hrecord (fun source _ => source.reads_toJson) (by simp [toJson, findEntry])
  have hsteps : Reads (Json.list? Step.ofJson?) (.list (spec.pipeline.map Step.toJson))
      spec.pipeline := by
    apply Json.reads_list
    intro step hstep
    exact Step.reads_toJson (hwide step hstep) (hfinite step hstep)
  have hpipeline : json.getD? "pipeline" (Json.list? Step.ofJson?) [] = some spec.pipeline :=
    h.getD? hrecord hsteps (by simp [toJson, findEntry])
  have hbuild : json.getD? "build" Build.ofJson? {} = some spec.build :=
    h.getD? hrecord spec.build.reads_toJson (by simp [toJson, findEntry])
  unfold ofJson?
  rw [hname, hversion, hepoch, hdescription, hurl, hlicense, hcopyright, hruntime, henvironment,
    hsources, hpipeline, hbuild]
  rfl

end Spec

/-! ### Specs from documents -/

theorem Argument.isWide_ofInt {n : Int} (h : Number.Fits64 n) : (ofInt n).IsWide := by
  unfold ofInt
  split
  case isTrue => trivial
  case isFalse hsigned =>
    show 0x7fffffffffffffff < (UInt64.ofNat n.toNat).toNat
    have hsmall : n.toNat < 2 ^ 64 := by omega
    rw [UInt64.toNat_ofNat_of_lt' hsmall]
    omega

theorem Argument.gives_ofNode : Yaml.Gives ofNode IsWide := by
  intro node argument h
  unfold ofNode at h
  split at h
  case h_1 read hread =>
    cases h
    obtain ⟨datum, hdatum, hargument⟩ := Option.bind_eq_some_iff.mp hread
    cases datum with
    | null => cases hargument
    | integer n =>
        cases hargument
        unfold Yaml.Node.datum? at hdatum
        split at hdatum
        · exact isWide_ofInt (Yaml.fits64_of_scalarDatum? hdatum)
        · cases hdatum
    | _ =>
        cases hargument
        trivial
  case h_2 => cases h

namespace Spec

theorem gives_step :
    Yaml.Gives (Yaml.readRecord Step.members {}) fun step =>
      ∀ a ∈ step.arguments.values, a.IsWide := by
  have hother {α : Type} {read : Yaml.Reader α} {name : String} {store : α → Step → Step}
      (h : ∀ a step, (store a step).arguments = step.arguments) :
      (Yaml.Member.of name read store).Keeps fun step => ∀ a ∈ step.arguments.values, a.IsWide :=
    Yaml.Member.keeps_part Step.arguments (fun table => ∀ a ∈ table.values, a.IsWide) h
  apply Yaml.Gives.record
  · exact fun _ ha => absurd ha List.not_mem_nil
  · unfold Step.members
    simp only [List.forall_mem_cons]
    refine ⟨hother fun _ _ => rfl, ?_, hother fun _ _ => rfl, nofun⟩
    exact Yaml.Member.keeps_of Argument.gives_ofNode.table fun table step htable _ => htable

theorem gives_ofNode : Yaml.Gives ofNode (EveryArgument Argument.IsWide) := by
  -- only the member with the steps is stored in the steps
  have hother {α : Type} {read : Yaml.Reader α} {name : String} {store : α → Spec → Spec}
      (h : ∀ a spec, (store a spec).pipeline = spec.pipeline) :
      (Yaml.Member.of name read store).Keeps (EveryArgument Argument.IsWide) :=
    Yaml.Member.keeps_part Spec.pipeline
      (fun steps => ∀ step ∈ steps, ∀ a ∈ step.arguments.values, a.IsWide) h
  apply Yaml.Gives.record
  · exact fun _ hstep => absurd hstep List.not_mem_nil
  · unfold members
    simp only [List.forall_mem_cons]
    refine ⟨hother fun _ _ => rfl, hother fun _ _ => rfl, hother fun _ _ => rfl,
      hother fun _ _ => rfl, hother fun _ _ => rfl, hother fun _ _ => rfl, hother fun _ _ => rfl,
      hother fun _ _ => rfl, hother fun _ _ => rfl, hother fun _ _ => rfl, ?_,
      hother fun _ _ => rfl, nofun⟩
    exact Yaml.Member.keeps_of gives_step.list fun steps spec hsteps _ => hsteps

variable {text : String} {spec : Spec}

theorem exists_withDefaults_of_ofYaml (h : ofYaml text = .ok spec) :
    ∃ raw, ofNode (Yaml.Document.ofText text).root = .ok raw ∧ spec = raw.withDefaults := by
  obtain ⟨_, raw, hraw, rfl⟩ := ofDocument_eq_ok_iff.mp (ofYaml_eq_ok_iff.mp h).2
  exact ⟨raw, hraw, rfl⟩

/-- An argument that is read from a document is kept as unsigned only if it has to be. -/
theorem isWide_of_ofYaml (h : ofYaml text = .ok spec) : spec.EveryArgument Argument.IsWide := by
  obtain ⟨raw, hraw, rfl⟩ := exists_withDefaults_of_ofYaml h
  exact gives_ofNode _ raw hraw

theorem withDefaults_withDefaults (spec : Spec) :
    spec.withDefaults.withDefaults = spec.withDefaults := by
  unfold withDefaults
  rw [Build.withDefaults_withDefaults]

end Spec

/-- **Specs are read back from their trees.**  A spec whose unsigned arguments are beyond the
signed numbers and whose floating-point arguments are finite is read from its tree, the members of
its objects in whatever order, as it was, though empty lists and tables and unset values are not
written; and the arguments that are read from a document are of that kind.  What is read back from
a spec with defaults, be it from a document or not, has its defaults already. -/
theorem spec_read_back :
    (∀ (spec : Spec) (json : Json), spec.EveryArgument Argument.IsWide →
      spec.EveryArgument Argument.IsFinite → Same json spec.toJson →
        Spec.ofJson? json = some spec) ∧
    (∀ (text : String) (spec : Spec), Spec.ofYaml text = .ok spec →
      spec.EveryArgument Argument.IsWide) ∧
    (∀ (text : String) (spec : Spec) (json : Json), Spec.ofYaml text = .ok spec →
      spec.EveryArgument Argument.IsFinite → Same json spec.toJson →
        ∃ reread, Spec.ofJson? json = some reread ∧ reread.withDefaults = reread) ∧
    ∀ (raw : Spec) (json : Json), raw.EveryArgument Argument.IsWide →
      raw.EveryArgument Argument.IsFinite → Same json raw.withDefaults.toJson →
        ∃ reread, Spec.ofJson? json = some reread ∧ reread.withDefaults = reread := by
  refine ⟨?_, fun text spec => Spec.isWide_of_ofYaml, ?_, ?_⟩
  · intro spec json hwide hfinite hsame
    exact Spec.reads_toJson hwide hfinite json hsame
  · intro text spec json hspec hfinite hsame
    have hread := Spec.reads_toJson (Spec.isWide_of_ofYaml hspec) hfinite json hsame
    obtain ⟨raw, _, rfl⟩ := Spec.exists_withDefaults_of_ofYaml hspec
    exact ⟨raw.withDefaults, hread, raw.withDefaults_withDefaults⟩
  · intro raw json hwide hfinite hsame
    -- defaults leave the steps alone
    have hwide' : raw.withDefaults.EveryArgument Argument.IsWide := hwide
    have hread := Spec.reads_toJson hwide' hfinite json hsame
    exact ⟨raw.withDefaults, hread, raw.withDefaults_withDefaults⟩

/-- A spec with an argument of each kind, an empty script beside none, a source without a context
beside one whose name is empty, and blank directories: it is read with its members written
backwards, and with defaults it is read as it is.  So is a document with a great number. -/
theorem spec_read_back_backwards :
    let spec : Spec :=
      { epoch := 4294967295
        sources := .ofList [("bare", {}), ("named", { context := some "" })]
        pipeline :=
          [{ run := some "" },
           .ofReference "cmake" <| .ofList
             [("boolean", .boolean false), ("greatest", .integer 9223372036854775807),
              ("beyond", .unsigned 9223372036854775808), ("zero", .real (.finite true .zero)),
              ("text", .text "1")]]
        build := { installDir := " ", sourceDir := some "" } }
    let backwards : Json :=
      match spec.toJson with
      | .object members => .object members.reverse
      | json => json
    let document := "pipeline: [{uses: cmake, with: {beyond: 9223372036854775808}}]"
    let parsed : Spec :=
      { pipeline := [.ofReference "cmake" (.ofList [("beyond", .unsigned 9223372036854775808)])] }
    (Spec.ofJson? backwards = some spec ∧ spec.withDefaults ≠ spec ∧
      ∃ reread, Spec.ofJson? spec.withDefaults.toJson = some reread ∧
        reread.withDefaults = reread) ∧
    Spec.ofYaml document = .ok parsed ∧ parsed.EveryArgument Argument.IsWide ∧
      ∃ reread, Spec.ofJson? parsed.toJson = some reread ∧ reread.withDefaults = reread := by
  intro spec backwards document parsed
  obtain ⟨hread, hwides, hparsed, hdefaults⟩ := spec_read_back
  have hwide : spec.EveryArgument Argument.IsWide := by decide
  have hfinite : spec.EveryArgument Argument.IsFinite := by decide
  have hbackwards : Same backwards spec.toJson := Same.of_perm (List.reverse_perm _)
  have hdocument : Spec.ofYaml document = .ok parsed := by decide +kernel
  refine ⟨⟨hread spec backwards hwide hfinite hbackwards, by decide, ?_⟩, hdocument, ?_, ?_⟩
  · exact hdefaults spec spec.withDefaults.toJson hwide hfinite (Same.refl _)
  · exact hwides document parsed hdocument
  · exact hparsed document parsed parsed.toJson hdocument (by decide) (Same.refl _)

end PackagePlan
