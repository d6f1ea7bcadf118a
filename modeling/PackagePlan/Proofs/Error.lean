import Mathlib.Data.String.Basic
import PackagePlan.Error

/-! # Errors of one domain

Five domains have errors of their own: documents, arguments, names, metadata and settings.  Such an
error has a report, and as an `Error` of the program it has one again.

* `Error.report_retryable_iff` : which errors may go away without any change.
* `DomainError.text_toError` : the domain stands before the message in the wording of an error.
* `DomainError.report_toError` : the message is all of a report that can change.
* `wrapped_error_told_iff` : the report of an error as an `Error`, exactly. -/

namespace PackagePlan

/-- Only failures of files may go away without any change: to compile is a function. -/
theorem Error.report_retryable_iff {error : Error} {words : Wording} :
    (error.report words).retryable = true ↔ ∃ message path, error = .file message path := by
  cases error with
  | file message path => exact iff_of_true rfl ⟨message, path, rfl⟩
  | schema e | validation e | lookup e | precondition e | config e =>
      refine iff_of_false ?_ (by simp)
      cases e <;> exact Bool.false_ne_true
  | internal message => exact iff_of_false Bool.false_ne_true (by simp)

/-- An error of one of the five domains. -/
inductive DomainError where
  | schema (error : SchemaError)
  | validation (error : ValidationError)
  | lookup (error : LookupError)
  | precondition (error : PreconditionError)
  | config (error : ConfigError)
deriving DecidableEq, Repr

namespace DomainError

/-- What the domain tells the user about its error. -/
def report (words : Wording) : DomainError → Report
  | schema e => e.report words
  | validation e => e.report
  | lookup e => e.report
  | precondition e => e.report
  | config e => e.report words

/-- The error as a failure of the program. -/
def toError : DomainError → Error
  | schema e => .schema e
  | validation e => .validation e
  | lookup e => .lookup e
  | precondition e => .precondition e
  | config e => .config e

/-- What names the domain before the message. -/
def heading : DomainError → String
  | schema _ => "schema error: "
  | validation _ => "validation error: "
  | lookup _ => "not found: "
  | precondition _ => "precondition failed: "
  | config _ => "config error: "

variable (error : DomainError) (words : Wording)

theorem text_toError :
    error.toError.text words = error.heading ++ (error.report words).message := by
  cases error <;> rfl

/-- Whatever the domain, hint, code and retryability are those of the domain. -/
theorem report_toError : error.toError.report words =
    { error.report words with message := (error.toError.report words).message } := by
  cases error <;> rfl

variable {error words}

theorem report_toError_of_ne (hconfig : ∀ e, error ≠ config e) :
    error.toError.report words = error.report words := by
  cases error with
  | config e => exact absurd rfl (hconfig e)
  | schema | validation | lookup | precondition => rfl

/-- An error of the settings is told with its wording as a failure of the program, which is
longer than the message by the name of the domain. -/
theorem message_toError_config (e : ConfigError) :
    ((config e).toError.report words).message = (config e).toError.text words := rfl

theorem message_toError_config_ne (e : ConfigError) :
    ((config e).toError.report words).message ≠ (e.report words).message := by
  intro hsame
  have hlength := congrArg String.length hsame
  rw [message_toError_config, text_toError, String.length_append] at hlength
  have hheading : 0 < (config e).heading.length := by rw [heading]; decide
  simp only [report] at hlength
  omega

theorem message_toError_eq_iff :
    (error.toError.report words).message = (error.report words).message ↔
      ∀ e, error ≠ config e := by
  constructor
  · rintro hsame e rfl
    exact message_toError_config_ne e hsame
  · intro hconfig
    rw [report_toError_of_ne hconfig]

end DomainError

/-- **What the user is told of a wrapped error.**  For an error of any domain, with any payload, and
however parsers word their messages: its wording as a failure of the program is the fixed name of the domain and then the message of
the domain, and hint, code and retryability stay as the domain gives them.  The message itself
stays exactly if the error is not one of the settings; for those the wording takes its place, so
that the user reads the name of the domain as well. -/
theorem wrapped_error_told_iff (error : DomainError) (words : Wording) :
    let told := error.report words
    let wrapped := error.toError.report words
    error.toError.text words = error.heading ++ told.message ∧
      wrapped.hint = told.hint ∧ wrapped.code = told.code ∧
      wrapped.retryable = told.retryable ∧
      (wrapped.message = told.message ↔ ∀ e, error ≠ .config e) ∧
      (wrapped.message = told.message ∨ wrapped.message = error.toError.text words) := by
  intro told wrapped
  have hkept : wrapped = { told with message := wrapped.message } := error.report_toError words
  refine ⟨error.text_toError words, ?_, ?_, ?_, DomainError.message_toError_eq_iff, ?_⟩
  · rw [hkept]
  · rw [hkept]
  · rw [hkept]
  · by_cases hconfig : ∀ e, error ≠ .config e
    · exact .inl (DomainError.message_toError_eq_iff.mpr hconfig)
    · push Not at hconfig
      obtain ⟨e, rfl⟩ := hconfig
      exact .inr (DomainError.message_toError_config e)

/-- A missing file of settings: the program, and so the command line, names the domain before the
message, which the domain itself does not. -/
theorem wrapped_config_message_changes :
    let missing : DomainError := .config (.notFound "x")
    let words : Wording := .silent
    (missing.report words).message = "config file not found: x" ∧
      (missing.toError.report words).message = "config error: config file not found: x" ∧
      missing.toError.shown words =
        "config error: config file not found: x\n  Code: config.not_found\n  Hint: " ++
          "Pass --config with an existing file or remove the flag to use defaults." ∧
      ¬ ∀ error : DomainError,
        (error.toError.report words).message = (error.report words).message := by
  refine ⟨by decide, by decide, by decide +kernel, fun hkept => ?_⟩
  exact absurd (hkept (.config (.notFound "x"))) (by decide)

end PackagePlan
