import PackagePlan.Proofs.Settings.Faults
import PackagePlan.Proofs.Text.Words
import PackagePlan.Proofs.Wiring

/-! # The script that signs the package

The user and the group of the builder stand unquoted in the script that signs the package: as
words, on both sides of a colon and inside a path.  Account names hold nothing that has a meaning
in a script, so that its lines have the same words for all of them, up to these two.

* `IsAccountName.not_mem` : what an account name cannot hold.
* `signingWords` : the words of the script, line by line; `words_signingScript`.
* `signing_script_unaltered` : which settings are accepted, and the script for them. -/

namespace PackagePlan

/-! ### What an account name holds -/

theorem IsAccountName.isAccountChar_of_mem {name : String} (h : IsAccountName name) :
    ∀ c ∈ name.toList, isAccountChar c = true := by
  obtain ⟨first, rest, hname, hfirst, hrest⟩ := h
  rw [hname, List.forall_mem_cons]
  refine ⟨?_, fun c hc => isAccountChar_iff.mpr (hrest c hc)⟩
  rw [isAccountChar, isAccountStart_iff.mpr hfirst]
  rfl

theorem IsAccountName.not_mem {name : String} (h : IsAccountName name) {c : Char}
    (hc : isAccountChar c = false) : c ∉ name.toList := by
  intro hmem
  rw [h.isAccountChar_of_mem c hmem] at hc
  cases hc

theorem IsAccountName.head?_ne_dash {name : String} (h : IsAccountName name) :
    name.toList.head? ≠ some '-' := by
  obtain ⟨first, rest, hname, hfirst, _⟩ := h
  rw [hname, List.head?_cons, ne_eq, Option.some.injEq]
  rintro rfl
  exact absurd hfirst (by decide)

/-! ### The words of the script -/

/-- The words of the lines of the script. -/
def signingWords (user group : String) : List (List String) :=
  [["set", "-e"],
   ["adduser", "-D", user],
   ["addgroup", user, group],
   ["mkdir", "-p", "/out"],
   ["chown", "-R", user ++ ":" ++ user, "/work", "/out"],
   ["su", user, "-s", "/bin/sh", "-c", "'abuild-keygen", "-an'"],
   ["cp", "/home/" ++ user ++ "/.abuild/*.rsa.pub", "/etc/apk/keys/"],
   ["su", user, "-s", "/bin/sh", "-c", "'cd", "/work", "&&", "abuild", "-r", "&&", "find",
    "~/packages", "-name", "\"*.apk\"", "-exec", "cp", "\x7b\x7d", "/out", "\\;'"]]

theorem signingLines_eq (user group : String) :
    signingLines user group = (signingWords user group).map (" ".intercalate ·) := by
  simp only [signingLines, signingWords, Paths.result, Paths.work, Paths.keys, toString,
    List.map_cons, List.map_nil, String.intercalate_cons_cons, String.intercalate_singleton]
  -- Fixed texts are put together from the left, up to the first name, and then from the right.
  simp only [← String.append_assoc, String.reduceAppend]
  simp only [String.append_assoc, String.reduceAppend]

section words
variable {user group : String}

theorem plain_signingWords (huser : IsAccountName user) (hgroup : IsAccountName group) :
    ∀ line ∈ signingWords user group, ∀ word ∈ line, ' ' ∉ word.toList ∧ '\n' ∉ word.toList := by
  have huserSpace : ' ' ∉ user.toList := huser.not_mem (by decide)
  have huserLine : '\n' ∉ user.toList := huser.not_mem (by decide)
  have hgroupSpace : ' ' ∉ group.toList := hgroup.not_mem (by decide)
  have hgroupLine : '\n' ∉ group.toList := hgroup.not_mem (by decide)
  simp [signingWords, huserSpace, huserLine, hgroupSpace, hgroupLine]

theorem words_signingLines (huser : IsAccountName user) (hgroup : IsAccountName group) :
    Text.words (Text.unlines (signingLines user group)) =
      (signingWords user group).map (·.map String.toList) ++ [[[]]] := by
  rw [signingLines_eq]
  refine Text.words_unlines (fun line hline => ?_) (plain_signingWords huser hgroup)
  rintro rfl
  simp [signingWords] at hline

/-- A character that no account name has comes in the script as often as without any. -/
theorem count_signingLines (huser : IsAccountName user) (hgroup : IsAccountName group) {c : Char}
    (hc : isAccountChar c = false) (hspace : c ≠ ' ') (hline : c ≠ '\n') :
    (Text.unlines (signingLines user group)).toList.count c =
      ((signingWords "" "").flatten.flatMap String.toList).count c := by
  have huserNone := List.count_eq_zero.mpr (huser.not_mem hc)
  have hgroupNone := List.count_eq_zero.mpr (hgroup.not_mem hc)
  rw [signingLines_eq, Text.count_unlines hspace hline]
  simp only [signingWords, List.flatten_cons, List.flatten_nil, List.cons_append,
    List.nil_append, List.append_nil, List.flatMap_cons, List.flatMap_nil, String.toList_append,
    List.count_append, huserNone, hgroupNone, String.toList_empty, Nat.add_zero, Nat.zero_add]

end words

/-- The script by which a compiler lets packages be signed. -/
def Compiler.signingScript (compiler : Compiler) : String :=
  Text.unlines (signingLines compiler.settings.builderUser compiler.settings.builderGroup)

theorem Compiler.script?_signing {compiler : Compiler} {spec : Spec} {tree : SourceTree}
    {c : Catalog} {plan : Plan} (h : (compiler.compile spec tree).result c = .ok plan) :
    (plan.stage? .signing).bind Stage.script? = some compiler.signingScript := by
  obtain ⟨_, script, _, rfl⟩ := compile_eq_ok_iff.mp h
  rw [stage?_plan_signing]
  rfl

/-- **The signing script cannot be altered through the account of the builder.**  Settings are
accepted exactly if user and group are account names, and otherwise the user is told of first.  The
signing stage of every plan that is compiled with accepted settings runs a script of eight lines,
each with a line feed at its end.  Its words are those of `signingWords`: the names stand in them
where they belong, and they bring no word, quote or option with them.  Both can be read from the
script: settings with the same script have the same names. -/
theorem signing_script_unaltered (settings : Settings) :
    ((∃ compiler, Compiler.ofSettings settings = .ok compiler) ↔
      IsAccountName settings.builderUser ∧ IsAccountName settings.builderGroup) ∧
    (∀ e, Compiler.ofSettings settings = .error e ↔
      (¬ IsAccountName settings.builderUser ∧
        e = .invalidValue "builder_user" settings.builderUser) ∨
      IsAccountName settings.builderUser ∧ ¬ IsAccountName settings.builderGroup ∧
        e = .invalidValue "builder_group" settings.builderGroup) ∧
    ∀ compiler, Compiler.ofSettings settings = .ok compiler →
      (∀ spec tree c plan, (compiler.compile spec tree).result c = .ok plan →
        (plan.stage? .signing).bind Stage.script? = some compiler.signingScript) ∧
      Text.words compiler.signingScript =
        (signingWords settings.builderUser settings.builderGroup).map (·.map String.toList) ++
          [[[]]] ∧
      compiler.signingScript.toList.count '\x27' = 4 ∧
      compiler.signingScript.toList.count '"' = 2 ∧
      settings.builderUser.toList.head? ≠ some '-' ∧
      settings.builderGroup.toList.head? ≠ some '-' ∧
      ∀ other : Compiler, other.signingScript = compiler.signingScript →
        other.settings.builderUser = settings.builderUser ∧
          other.settings.builderGroup = settings.builderGroup := by
  refine ⟨?_, ?_, ?_⟩
  · rw [← Settings.validate_eq_ok_iff]
    constructor
    · rintro ⟨compiler, h⟩
      obtain rfl := Compiler.ofSettings_eq_ok_iff.mp h
      exact compiler.accepted
    · intro h
      exact ⟨_, Compiler.ofSettings_of_ok h⟩
  · intro e
    rw [Compiler.ofSettings_eq_error_iff, Settings.validate_eq_error_iff]
  · intro compiler h
    obtain rfl := Compiler.ofSettings_eq_ok_iff.mp h
    obtain ⟨huser, hgroup⟩ := Settings.validate_eq_ok_iff.mp compiler.accepted
    refine ⟨fun _ _ _ _ => Compiler.script?_signing, words_signingLines huser hgroup, ?_, ?_,
      huser.head?_ne_dash, hgroup.head?_ne_dash, fun other hother => ?_⟩
    · exact (count_signingLines huser hgroup (by decide) (by decide) (by decide)).trans (by decide)
    · exact (count_signingLines huser hgroup (by decide) (by decide) (by decide)).trans (by decide)
    · obtain ⟨huser', hgroup'⟩ := Settings.validate_eq_ok_iff.mp other.accepted
      have hwords := congrArg Text.words hother
      rw [Compiler.signingScript, Compiler.signingScript, words_signingLines huser' hgroup',
        words_signingLines huser hgroup] at hwords
      simp only [signingWords, List.map_cons, List.cons_append, List.cons.injEq,
        String.toList_inj] at hwords
      exact ⟨hwords.2.1.2.2.1, hwords.2.2.1.2.2.1⟩

/-- Names with a dash, a digit and an underscore in them; and a user that would be an option of the
commands, with a group that would be a command. -/
theorem signing_script_unaltered_dash :
    let settings : Settings := { builderUser := "_b-1", builderGroup := "g_0" }
    let refused : Settings := { builderUser := "-x", builderGroup := "g;id" }
    (∃ compiler, Compiler.ofSettings settings = .ok compiler ∧
      (Text.words compiler.signingScript)[4]? =
        some (["chown", "-R", "_b-1:_b-1", "/work", "/out"].map String.toList)) ∧
      Compiler.ofSettings refused = .error (.invalidValue "builder_user" "-x") := by
  intro settings refused
  obtain ⟨haccepted, _, hscript⟩ := signing_script_unaltered settings
  obtain ⟨_, hrefused, _⟩ := signing_script_unaltered refused
  obtain ⟨compiler, hcompiler⟩ := haccepted.mpr
    ⟨isAccountName_iff.mp (by decide), isAccountName_iff.mp (by decide)⟩
  obtain ⟨_, hwords, _⟩ := hscript compiler hcompiler
  refine ⟨⟨compiler, hcompiler, ?_⟩, (hrefused _).mpr (.inl ⟨?_, rfl⟩)⟩
  · rw [hwords]
    rfl
  · rw [← isAccountName_iff]
    decide

end PackagePlan
