import PackagePlan.Text.Quoted
import PackagePlan.Text.Utf8

/-! # Errors

An error names its cause.  The causes are grouped by what they are about: documents and steps
(`SchemaError`), arguments of a step (`ValidationError`), names of pipelines (`LookupError`),
metadata of a package (`PreconditionError`) and settings (`ConfigError`).  `Error` joins them
with the failures of files and of the program itself.

Every group, and `Error` as a whole, has a `report`: what the user is told, how to mend it, and
a code for programs.

What is said of a document that is refused are the words of the parser that refuses it.  An error
holds the document (`Notice`), and a report takes these words from a `Wording`. -/

namespace PackagePlan

/-! ### Messages of parsers -/

/-- What a document is read for. -/
inductive DocumentKind where
  | settings
  | definition
  | spec
deriving DecidableEq, Repr

/-- How the parsers of documents word their messages. -/
structure Wording where
  /-- What is said of a document that is refused. -/
  refusal : DocumentKind → (document : String) → String
  /-- A message about a value in a document, with the place that the parser adds to it. -/
  placed : (document message : String) → String

/-- Nothing is said of a document, and no place is added. -/
def Wording.silent : Wording where
  refusal _ _ := ""
  placed _ message := message

/-- The message of a parser: its words, or the document that it refuses. -/
inductive Notice where
  | words (message : String)
  | refusal (kind : DocumentKind) (document : String)
deriving DecidableEq, Repr

instance : Coe String Notice := ⟨.words⟩

/-- The words of a message. -/
def Notice.text (words : Wording) : Notice → String
  | .words message => message
  | refusal kind document => words.refusal kind document

/-- What the user learns of an error. -/
structure Report where
  message : String
  hint : Option String
  code : String
  /-- Trying again without any change may help. -/
  retryable : Bool
deriving DecidableEq, Repr

/-! ### Documents and steps -/

/-- Why a package spec cannot be read. -/
inductive SpecFault where
  | encoding (fault : Text.Utf8.Fault)
  | epochOutOfRange (document : String) (value : Int)
  | document (reason : Notice)
deriving DecidableEq, Repr

/-- The wording of a fault of a spec. -/
def SpecFault.message (words : Wording) : SpecFault → String
  | encoding fault => s!"spec is not valid UTF-8: {fault.message}"
  | epochOutOfRange text n =>
    words.placed text
      s!"epoch must be a non-negative integer no larger than 4294967295, got {n}"
  | document reason => reason.text words

/-- A document or the list of steps in it is not as it must be. -/
inductive SchemaError where
  | specParse (fault : SpecFault)
  | pipelineParse (name : String) (reason : Notice)
  | missingRuns (name : String)
  | noBuildSteps
  | conflictingStep (step : Nat)
  | emptyStep (step : Nat)
deriving DecidableEq, Repr

/-- What the user is told about an unfit document or list of steps. -/
def SchemaError.report (error : SchemaError) (words : Wording) : Report :=
  match error with
  | specParse fault =>
    ⟨s!"failed to parse spec: {fault.message words}",
      some "Check the spec file for YAML syntax errors.", "schema.spec_parse", false⟩
  | pipelineParse name reason =>
    ⟨s!"pipeline {Text.quoted name}: {reason.text words}", none, "schema.pipeline_parse", false⟩
  | missingRuns name =>
    ⟨s!"pipeline {Text.quoted name}: missing runs", none, "schema.missing_runs", false⟩
  | noBuildSteps =>
    ⟨"pipeline is required and must not be empty",
      some "Add at least one `run` or `uses` step under `pipeline`.",
      "schema.no_build_steps", false⟩
  | conflictingStep step =>
    ⟨s!"pipeline step {step}: cannot set both 'uses' and 'run'", some stepHint,
      "schema.conflicting_step", false⟩
  | emptyStep step =>
    ⟨s!"pipeline step {step}: must set either 'uses' or 'run'", some stepHint,
      "schema.empty_step", false⟩
where
  /-- How to mend a step that is not of one kind. -/
  stepHint : String := "Each pipeline step needs exactly one of `run` or `uses`."

/-! ### Arguments of a step -/

/-- The arguments of a step do not match the inputs of the pipeline that it uses. -/
inductive ValidationError where
  | unknownInput (step : Nat) (pipeline key : String) (allowed : List String)
  | missingInput (step : Nat) (pipeline input : String)
  | blankInput (step : Nat) (pipeline input : String)
deriving DecidableEq, Repr

namespace ValidationError

/-- The name of the input that the error is about. -/
def input : ValidationError → String
  | unknownInput _ _ key _ => key
  | missingInput _ _ input => input
  | blankInput _ _ input => input

/-- The number of the step that the error is about. -/
def step : ValidationError → Nat
  | unknownInput step .. => step
  | missingInput step .. => step
  | blankInput step .. => step

/-- What the user is told about unfit arguments. -/
def report : ValidationError → Report
  | unknownInput step pipeline key allowed =>
    let names := ", ".intercalate allowed
    ⟨s!"pipeline step {step} ({pipeline}): unknown input {Text.quoted key} (allowed: {names})",
      some "Remove the input or use one of the allowed names.",
      "validation.unknown_input", false⟩
  | missingInput step pipeline input =>
    ⟨s!"pipeline step {step} ({pipeline}): required input {Text.quoted input} is missing",
      some inputHint, "validation.missing_input", false⟩
  | blankInput step pipeline input =>
    ⟨s!"pipeline step {step} ({pipeline}): required input {Text.quoted input} must not be empty",
      some inputHint, "validation.blank_input", false⟩
where
  /-- How to mend a required input without a value. -/
  inputHint : String := "Supply the required input under the step's `with` block."

end ValidationError

/-! ### Names, metadata and settings -/

/-- A name stands for nothing. -/
inductive LookupError where
  | pipeline (name : String)
deriving DecidableEq, Repr

/-- What the user is told about a name that stands for nothing. -/
def LookupError.report : LookupError → Report
  | pipeline name =>
    ⟨s!"pipeline {Text.quoted name} not found",
      some "Run `apkforge pipelines` to list available pipelines.",
      "not_found.pipeline", false⟩

/-- The metadata of a package cannot be compiled. -/
inductive PreconditionError where
  | missingField (field : String)
  | escapingPath (field value : String)
deriving DecidableEq, Repr

/-- What the user is told about unfit metadata. -/
def PreconditionError.report : PreconditionError → Report
  | missingField field =>
    ⟨s!"spec {field} is required",
      some "Fill in the package metadata at the top of the spec.",
      "precondition.missing_field", false⟩
  | escapingPath field value =>
    ⟨s!"spec {field} must stay inside the source tree: {Text.quoted value}",
      some "Use a path relative to the source tree without `..`.",
      "precondition.escaping_path", false⟩

/-- The settings cannot be used. -/
inductive ConfigError where
  | notFound (path : String)
  | parse (reason : Notice)
  | invalidValue (field value : String)
deriving DecidableEq, Repr

/-- What the user is told about unfit settings. -/
def ConfigError.report (error : ConfigError) (words : Wording) : Report :=
  match error with
  | notFound path =>
    ⟨s!"config file not found: {path}",
      some "Pass --config with an existing file or remove the flag to use defaults.",
      "config.not_found", false⟩
  | parse reason =>
    ⟨s!"parse error: {reason.text words}", some valueHint, "config.parse_error", false⟩
  | invalidValue field value =>
    ⟨s!"invalid value for {field}: {value}", some valueHint, "config.invalid_value", false⟩
where
  /-- How to mend a setting. -/
  valueHint : String := "Fix the configuration value and retry the command."

/-! ### All errors -/

/-- Any failure of the program. -/
inductive Error where
  | schema (error : SchemaError)
  | validation (error : ValidationError)
  | lookup (error : LookupError)
  | precondition (error : PreconditionError)
  | config (error : ConfigError)
  | internal (message : String)
  /-- A file cannot be read or written. -/
  | file (message : String) (path : Option String)
deriving DecidableEq, Repr

namespace Error

/-- The wording of an error, with the group it belongs to. -/
def text (error : Error) (words : Wording := .silent) : String :=
  match error with
  | schema e => s!"schema error: {(e.report words).message}"
  | validation e => s!"validation error: {e.report.message}"
  | lookup e => s!"not found: {e.report.message}"
  | precondition e => s!"precondition failed: {e.report.message}"
  | config e => s!"config error: {(e.report words).message}"
  | internal message => s!"internal error: {message}"
  | file message _ => s!"I/O error: {message}"

/-- What the user is told about an error.  The message names the group for settings and failures
of the program itself only. -/
def report (error : Error) (words : Wording := .silent) : Report :=
  match error with
  | schema e => e.report words
  | validation e => e.report
  | lookup e => e.report
  | precondition e => e.report
  | config e => { e.report words with message := (config e).text words }
  | internal message => ⟨(internal message).text, none, "error.internal", false⟩
  | file message _ => ⟨message, none, "error.io", true⟩

/-- The path of the file that the error is about. -/
def path? : Error → Option String
  | file _ path => path
  | _ => none

/-- The lines that the command line shows: the message, with the path if there is one, the
code and the hint. -/
def shown (error : Error) (words : Wording := .silent) : String :=
  let report := error.report words
  let place := (error.path?.map fun path => s!" ({path})").getD ""
  let hint := (report.hint.map fun hint => s!"\n  Hint: {hint}").getD ""
  s!"{report.message}{place}\n  Code: {report.code}{hint}"

end Error

end PackagePlan
