import PackagePlan.Yaml.Cursor

/-! # Faults of documents

Why a text is not one well-formed document, and where. -/

namespace PackagePlan.Yaml

/-- What is wrong at a place of a document. -/
inductive Problem where
  | forbiddenCharacter
  | noTokenStart
  | missingColon
  | misplacedEntry
  | misplacedKey
  | misplacedValue
  | markerInQuotes
  | unclosedQuotes
  | unknownEscape
  | badEscapeDigits
  | badEscapeValue
  | colonInFlow
  | tabInIndentation
  | zeroIndentation
  | badBlockHeader
  | badAnchor
  | badTag
  | badTagEscape
  | badDirective
  | repeatedDirective
  | unsupportedVersion
  | unknownTagHandle
  | missingDocumentStart
  | missingNode
  | missingEntry
  | missingKey
  | missingComma
  | unknownAnchor
  | severalDocuments
deriving DecidableEq, Repr

/-- A problem and its place. -/
structure Fault where
  problem : Problem
  mark : Mark
deriving DecidableEq, Repr

end PackagePlan.Yaml
