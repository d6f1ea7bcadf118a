import PackagePlan.Proofs.Template.Expansion
import PackagePlan.Proofs.Template.Simultaneous

/-! # The order in which values come in

The values of inputs are put into a template one after the other, in the order of their names, and
each replacement looks at what the earlier ones have put in.  Another order can give another
script: a value that mentions a second input is expanded if the second input comes later, and
loses the mention if it came before.

* `expandInputs_of_perm` : no order matters where all values put in at once leave nothing to
  replace.
* `toList_settled` : in well marked texts no order matters where only such inputs are mentioned in
  values that are made up of placeholders.
* `substitution_order` : both, and that the second condition cannot be dropped.
* `substitution_order_matters` : a template where the order matters. -/

namespace PackagePlan.Template

open Text

/-- The script with the values of inputs put in in some order. -/
def substituteInOrder (spec : Spec) (order : List (String × String)) (template : String) : String :=
  stripUnresolved (expandInputs order (located spec template))

/-- No order in which the values are put in gives another script than that of their names. -/
def OrderIrrelevant (spec : Spec) (inputs : Table String) (template : String) : Prop :=
  ∀ order : List (String × String), order.Perm inputs.entries →
    substituteInOrder spec order template = substitute spec inputs template

/-! ### All values at once -/

/-- The input whose placeholder a text starts with. -/
def entryAt? (entries : List (String × String)) (text : List Char) : Option (String × String) :=
  entries.find? fun e => (inputPlaceholder e.1).toList.isPrefixOf text

/-- Putting all values in, where the first `skip` characters belong to a placeholder for which a
value has been put in. -/
def fillFrom (entries : List (String × String)) : (skip : Nat) → List Char → List Char
  | _, [] => []
  | skip + 1, _ :: rest => fillFrom entries skip rest
  | 0, c :: rest =>
    match entryAt? entries (c :: rest) with
    | some e => e.2.toList ++ fillFrom entries ((inputPlaceholder e.1).length - 1) rest
    | none => c :: fillFrom entries 0 rest

/-- The text with the values of all inputs put in at once: what comes in is not looked at. -/
def fillInputs (inputs : Table String) (text : String) : String :=
  String.ofList (fillFrom inputs.entries 0 text.toList)

section
variable {spec : Spec} {inputs : Table String}

theorem inputPlaceholder_ne_nil (name : String) : (inputPlaceholder name).toList ≠ [] := by
  rw [toList_inputPlaceholder]
  simp [inputOpening]

theorem fillFrom_skip (entries : List (String × String)) (rest : List Char) :
    ∀ skipped : List Char,
      fillFrom entries skipped.length (skipped ++ rest) = fillFrom entries 0 rest
  | [] => rfl
  | _ :: skipped => fillFrom_skip entries rest skipped

theorem fillFrom_match {entries : List (String × String)} {e : String × String}
    {rest : List Char} (h : entryAt? entries ((inputPlaceholder e.1).toList ++ rest) = some e) :
    fillFrom entries 0 ((inputPlaceholder e.1).toList ++ rest) =
      e.2.toList ++ fillFrom entries 0 rest := by
  have hlength := String.length_toList (s := inputPlaceholder e.1)
  cases hplaceholder : (inputPlaceholder e.1).toList with
  | nil => exact absurd hplaceholder (inputPlaceholder_ne_nil e.1)
  | cons c tail =>
      rw [hplaceholder] at h hlength
      rw [List.cons_append] at h ⊢
      rw [fillFrom, h]
      dsimp only
      rw [← hlength]
      exact congrArg (e.2.toList ++ ·) (fillFrom_skip entries rest tail)

theorem exists_parts (spec : Spec) (inputs : Table String) (text : List Char) :
    ∃ parts, written parts = text ∧
      filled spec inputs parts = fillFrom inputs.entries 0 text ∧
      ∀ p, .hole p ∈ parts → ∃ name ∈ inputs.keys, p = .input name := by
  induction h : text.length using Nat.strong_induction_on generalizing text with
  | _ n ih =>
      cases text with
      | nil => exact ⟨[], rfl, rfl, fun _ hp => absurd hp List.not_mem_nil⟩
      | cons c rest =>
          cases hentry : entryAt? inputs.entries (c :: rest) with
          | none =>
              obtain ⟨parts, hwritten, hfilled, hholes⟩ := ih rest.length (by simp [← h]) rest rfl
              refine ⟨.char c :: parts, by rw [written, hwritten], ?_, fun p hp => ?_⟩
              · rw [filled, hfilled, fillFrom, hentry]
              · rcases List.mem_cons.mp hp with hp | hp
                · cases hp
                · exact hholes p hp
          | some e =>
              have hmem : e ∈ inputs.entries := List.mem_of_find?_eq_some hentry
              have hstart := List.find?_some hentry
              obtain ⟨after, hafter⟩ := List.isPrefixOf_iff_prefix.mp hstart
              have hlt : after.length < n := by
                have hpos := List.length_pos_iff.mpr (inputPlaceholder_ne_nil e.1)
                rw [← h, ← hafter, List.length_append]
                omega
              obtain ⟨parts, hwritten, hfilled, hholes⟩ := ih _ hlt after rfl
              rw [← hafter] at hentry ⊢
              refine ⟨.hole (.input e.1) :: parts, ?_, ?_, fun p hp => ?_⟩
              · rw [written, hwritten]
                rfl
              · rw [filled, hfilled, fillFrom_match hentry, Hole.value,
                  Table.mem_entries_iff.mp hmem, Option.getD_some]
              · rcases List.mem_cons.mp hp with hp | hp
                · cases hp
                  exact ⟨e.1, List.mem_map.mpr ⟨e, hmem, rfl⟩, rfl⟩
                · exact hholes p hp

theorem written_eq_filled : ∀ {parts : List Part}, (∀ p, .hole p ∉ parts) →
    written parts = filled spec inputs parts
  | [], _ => rfl
  | .char c :: _, h =>
      congrArg (c :: ·) (written_eq_filled fun p hp => h p (List.mem_cons_of_mem _ hp))
  | .hole p :: _, h => absurd List.mem_cons_self (h p)

/-- Where all values put in at once leave no placeholder of an input that has one, they can be put
in in any order. -/
theorem expandInputs_of_perm {order : List (String × String)} (horder : order.Perm inputs.entries)
    (hkeys : ∀ key ∈ inputs.keys, '$' ∉ key.toList ∧ '}' ∉ key.toList) {text : String}
    (hclean : ∀ key ∈ inputs.keys, ¬ Occurs (inputPlaceholder key) (fillInputs inputs text)) :
    expandInputs order text = fillInputs inputs text := by
  obtain ⟨parts, hwritten, hfilled, hholes⟩ := exists_parts {} inputs text.toList
  have hnamed : AllNamed parts := by
    intro p hp
    obtain ⟨name, hname, rfl⟩ := hholes p hp
    exact hkeys name hname
  have hmem : ∀ e ∈ order, e ∈ inputs.entries := fun e he => horder.mem_iff.mp he
  have habsent : ∀ p ∈ order.map fun e => Hole.input e.1,
      p.Named ∧ ¬ p.text.toList <:+: filled {} inputs parts := by
    intro p hp
    obtain ⟨e, he, rfl⟩ := List.mem_map.mp hp
    have hkey : e.1 ∈ inputs.keys := List.mem_map.mpr ⟨e, hmem e he, rfl⟩
    refine ⟨hkeys _ hkey, ?_⟩
    have hnot := hclean _ hkey
    rwa [Occurs, fillInputs, String.toList_ofList, ← hfilled] at hnot
  obtain ⟨left, hleft, hsame, hrest⟩ := foldl_written hnamed habsent
  have hnone : ∀ p, .hole p ∉ left := by
    intro p hp
    obtain ⟨hparts, hkind⟩ := hrest p hp
    obtain ⟨name, hname, rfl⟩ := hholes p hparts
    obtain ⟨e, he, rfl⟩ := List.mem_map.mp hname
    exact hkind (List.mem_map.mpr ⟨e, horder.mem_iff.mpr he, rfl⟩)
  rw [expandInputs_eq_foldl {} inputs fun e he => Table.mem_entries_iff.mp (hmem e he),
    ← String.ofList_toList (s := text), ← hwritten, hleft, written_eq_filled hnone, hsame, hfilled,
    hwritten, fillInputs, String.toList_ofList]

end

/-! ### Values in well marked texts -/

/-- If a value mentions another input, then nothing is left of that one's value. -/
def Separate (entries : List (String × String)) : Prop :=
  ∀ e ∈ entries, ∀ other ∈ entries, e.1 ≠ other.1 →
    Occurs (inputPlaceholder other.1) e.2 → stripUnresolved other.2 = ""

/-- What a mark leaves if all values are put in at once and the rest is deleted. -/
def settled (entries : List (String × String)) : Mark → List Char
  | .plain c _ => [c]
  | .placeholder (.input name _ _) =>
    match Table.findEntry name entries with
    | some value => (stripUnresolved value).toList
    | none => []
  | .placeholder p => p.text.toList

theorem Mark.exists_input {mark : Mark} (h : mark.isInput = true) :
    ∃ (name : String) (hname : IsName name), mark = .placeholder (.input name hname.1 hname.2) := by
  cases mark with
  | plain c hc => cases h
  | placeholder p =>
      cases p with
      | packageName | packageVersion | outputDir => cases h
      | input name hne hunmarked => exact ⟨name, ⟨hne, hunmarked⟩, rfl⟩

theorem settled_eq_chars (entries : List (String × String)) {mark : Mark}
    (h : mark.isInput = false) : settled entries mark = mark.chars := by
  unfold settled
  split
  · rfl
  · cases h
  · rfl

theorem settled_nil (mark : Mark) :
    settled [] mark = if mark.isInput = true then [] else mark.chars := by
  cases h : mark.isInput with
  | false => rw [settled_eq_chars [] h, if_neg Bool.false_ne_true]
  | true =>
      obtain ⟨name, _, rfl⟩ := Mark.exists_input h
      rfl

theorem settled_congr {entries moved : List (String × String)}
    (h : ∀ name, Table.findEntry name entries = Table.findEntry name moved) :
    settled entries = settled moved := by
  funext mark
  cases hinput : mark.isInput with
  | false => rw [settled_eq_chars entries hinput, settled_eq_chars moved hinput]
  | true =>
      obtain ⟨name, _, rfl⟩ := Mark.exists_input hinput
      rw [settled, settled, h]

theorem render_filter_eq (marks : List Mark) :
    render (marks.filter (!·.isInput)) = marks.flatMap (settled []) := by
  induction marks with
  | nil => rfl
  | cons mark marks ih =>
      rw [List.flatMap_cons, settled_nil, ← ih, List.filter_cons]
      cases mark.isInput <;> rfl

/-- What is put in for an input is looked at by the later ones, to no effect where the values are
separate. -/
theorem settled_value {name value : String} {entries : List (String × String)}
    (hsep : Separate ((name, value) :: entries)) (hname : name ∉ entries.map (·.1))
    {held : List Mark} (hheld : value.toList = render held) :
    held.flatMap (settled entries) = (stripUnresolved value).toList := by
  rw [toList_stripUnresolved_of_marks hheld, render_filter_eq]
  apply List.flatMap_congr
  intro mark hmark
  cases h : mark.isInput with
  | false => rw [settled_eq_chars entries h, settled_eq_chars [] h]
  | true =>
      obtain ⟨other, hvalid, rfl⟩ := Mark.exists_input h
      rw [settled_nil, if_pos h, settled]
      cases hother : Table.findEntry other entries with
      | none => rfl
      | some text =>
          have hmem := Table.mem_of_findEntry hother
          have hdiffer : name ≠ other := by
            rintro rfl
            exact hname (List.mem_map.mpr ⟨_, hmem, rfl⟩)
          have hoccurs : Occurs (inputPlaceholder other) value :=
            (occurs_text_iff hheld (.input other hvalid.1 hvalid.2)).mpr hmark
          have hempty : stripUnresolved text = "" :=
            hsep (name, value) List.mem_cons_self (other, text) (List.mem_cons_of_mem _ hmem)
              hdiffer hoccurs
          dsimp only
          rw [hempty, String.toList_empty]

/-- Putting one value in first, where the values are separate. -/
theorem flatMap_settled_put {name value : String} (hvalid : IsName name)
    {entries : List (String × String)} (hsep : Separate ((name, value) :: entries))
    (hname : name ∉ entries.map (·.1)) {held : List Mark} (hheld : value.toList = render held)
    (marks : List Mark) :
    (put (.input name hvalid.1 hvalid.2) held marks).flatMap (settled entries) =
      marks.flatMap (settled ((name, value) :: entries)) := by
  rw [put, List.flatMap_assoc]
  apply List.flatMap_congr
  intro mark _
  split
  case isTrue heq =>
    rw [settled_value hsep hname hheld, heq, settled, Table.findEntry, if_pos rfl]
  case isFalse hne =>
    rw [List.flatMap_singleton]
    cases h : mark.isInput with
    | false => rw [settled_eq_chars entries h, settled_eq_chars _ h]
    | true =>
        obtain ⟨other, hother, rfl⟩ := Mark.exists_input h
        have hdiffer : other ≠ name := by
          rintro rfl
          exact hne rfl
        rw [settled, settled, Table.findEntry, if_neg hdiffer]

/-- One value after the other is put in as if all were put in at once. -/
theorem toList_settled : ∀ {entries : List (String × String)}, (entries.map (·.1)).Nodup →
    (∀ e ∈ entries, IsName e.1 ∧ WellMarked e.2) → Separate entries →
      ∀ {text : String} {marks : List Mark}, text.toList = render marks →
        (stripUnresolved (expandInputs entries text)).toList = marks.flatMap (settled entries)
  | [], _, _, _, text, marks, htext => by
      rw [← render_filter_eq, ← toList_stripUnresolved_of_marks htext]
      rfl
  | (name, value) :: entries, hnodup, hentries, hsep, text, marks, htext => by
      rw [List.map_cons, List.nodup_cons] at hnodup
      obtain ⟨hvalid, held, hheld⟩ := hentries (name, value) List.mem_cons_self
      have hput : (expandInput text (name, value)).toList =
          render (put (.input name hvalid.1 hvalid.2) held marks) :=
        toList_replaceAll htext hheld (.input name hvalid.1 hvalid.2)
      have hsep' : Separate entries := fun e he other hother =>
        hsep e (List.mem_cons_of_mem _ he) other (List.mem_cons_of_mem _ hother)
      have hentries' : ∀ e ∈ entries, IsName e.1 ∧ WellMarked e.2 :=
        fun e he => hentries e (List.mem_cons_of_mem _ he)
      rw [← flatMap_settled_put hvalid hsep hnodup.1 hheld marks,
        ← toList_settled hnodup.2 hentries' hsep' hput, expandInputs_cons]

/-! ### What is visible in a text -/

/-- How much of a text is left after the deletion. -/
def visible (marks : List Mark) : Nat := (render (marks.filter (!·.isInput))).length

theorem visible_append (marks more : List Mark) :
    visible (marks ++ more) = visible marks + visible more := by
  unfold visible
  rw [List.filter_append, render_append, List.length_append]

theorem visible_cons (mark : Mark) (marks : List Mark) :
    visible (mark :: marks) = visible [mark] + visible marks := visible_append [mark] marks

theorem length_stripUnresolved {text : String} {marks : List Mark}
    (h : text.toList = render marks) : (stripUnresolved text).length = visible marks := by
  rw [← String.length_toList, toList_stripUnresolved_of_marks h, visible]

/-- Putting a value in for an input hides nothing, and shows the value wherever the input is. -/
theorem visible_put {p : Placeholder} (hp : p.isInput = true) (value : List Mark) :
    ∀ marks : List Mark, visible marks ≤ visible (put p value marks) ∧
      (.placeholder p ∈ marks → visible marks + visible value ≤ visible (put p value marks))
  | [] => ⟨Nat.le_refl _, fun h => absurd h List.not_mem_nil⟩
  | mark :: marks => by
      obtain ⟨hle, hin⟩ := visible_put hp value marks
      have hput : put p value (mark :: marks) =
          (if mark = .placeholder p then value else [mark]) ++ put p value marks := rfl
      rw [hput, visible_append, visible_cons]
      split
      case isTrue heq =>
        have hzero : visible [mark] = 0 := by
          rw [heq]
          simp [visible, Mark.isInput, hp, render]
        omega
      case isFalse hne =>
        refine ⟨by omega, fun hmem => ?_⟩
        have hrest := hin (List.mem_of_ne_of_mem (Ne.symm hne) hmem)
        omega

/-- Whatever values are put in, what was visible remains, and so do the placeholders of other
inputs. -/
theorem exists_marks_expandInputs : ∀ {entries : List (String × String)},
    (∀ e ∈ entries, IsName e.1 ∧ WellMarked e.2) →
      ∀ {text : String} {marks : List Mark}, text.toList = render marks →
        ∃ after, (expandInputs entries text).toList = render after ∧
          visible marks ≤ visible after ∧
          ∀ (other : String) (h : IsName other), .placeholder (.input other h.1 h.2) ∈ marks →
            other ∉ entries.map (·.1) → .placeholder (.input other h.1 h.2) ∈ after
  | [], _, _, marks, htext => ⟨marks, htext, Nat.le_refl _, fun _ _ hin _ => hin⟩
  | (name, value) :: entries, hentries, _, marks, htext => by
      obtain ⟨hvalid, held, hheld⟩ := hentries (name, value) List.mem_cons_self
      have hput := toList_replaceAll htext hheld (.input name hvalid.1 hvalid.2)
      obtain ⟨after, hafter, hle, hkept⟩ := exists_marks_expandInputs
        (fun e he => hentries e (List.mem_cons_of_mem _ he)) hput
      obtain ⟨hshown, _⟩ := @visible_put (.input name hvalid.1 hvalid.2) rfl held marks
      refine ⟨after, hafter, hshown.trans hle, fun other hother hin hnot => ?_⟩
      rw [List.map_cons, List.mem_cons, not_or] at hnot
      refine hkept other hother (mem_put.mpr (.inl ⟨hin, fun heq => hnot.1 ?_⟩)) hnot.2
      exact Placeholder.input.inj (Mark.placeholder.inj heq)

/-! ### Orders -/

theorem replaceAll_of_not_occurs {pattern value text : String} (h : ¬ Occurs pattern text) :
    replaceAll pattern value text = text := by
  rw [replaceAll, replaceChars_of_absent h, String.ofList_toList]

theorem expandInputs_of_not_occurs : ∀ {entries : List (String × String)} {text : String},
    (∀ e ∈ entries, ¬ Occurs (inputPlaceholder e.1) text) → expandInputs entries text = text
  | [], _, _ => rfl
  | e :: entries, text, h => by
      have hstep : expandInput text e = text := replaceAll_of_not_occurs (h e List.mem_cons_self)
      rw [expandInputs_cons, hstep,
        expandInputs_of_not_occurs fun e he => h e (List.mem_cons_of_mem _ he)]

theorem occurs_placeholder_iff {p q : Placeholder} : Occurs q.text p.text ↔ q = p := by
  have hmarks : p.text.toList = render [.placeholder p] := (List.append_nil _).symm
  rw [occurs_text_iff hmarks, List.mem_singleton, Mark.placeholder.injEq]

theorem located_inputPlaceholder (spec : Spec) {name : String} (h : IsName name) :
    located spec (inputPlaceholder name) = inputPlaceholder name := by
  have hkept : ∀ q : Placeholder, q.isInput = false → ∀ value,
      replaceAll q.text value (inputPlaceholder name) = inputPlaceholder name := by
    intro q hq value
    refine replaceAll_of_not_occurs fun hoccurs => ?_
    have heq : q = .input name h.1 h.2 := occurs_placeholder_iff.mp hoccurs
    rw [heq] at hq
    cases hq
  have hname : replaceAll packageName spec.name (inputPlaceholder name) = inputPlaceholder name :=
    hkept .packageName rfl spec.name
  have hversion : replaceAll packageVersion spec.version (inputPlaceholder name) =
      inputPlaceholder name := hkept .packageVersion rfl spec.version
  have houtput : replaceAll outputDir Paths.output (inputPlaceholder name) =
      inputPlaceholder name := hkept .outputDir rfl Paths.output
  rw [located, expandPackage, hname, hversion, houtput]

theorem expandInput_inputPlaceholder (name value : String) :
    expandInput (inputPlaceholder name) (name, value) = value := by
  have hmatch := @replaceChars_match _ value.toList (inputPlaceholder_ne_nil name) []
  rw [List.append_nil, replaceChars_nil, List.append_nil] at hmatch
  rw [expandInput, replaceAll, hmatch, String.ofList_toList]

theorem orderIrrelevant_of_separate {spec : Spec} {inputs : Table String}
    (hname : Unmarked spec.name) (hversion : Unmarked spec.version)
    (hentries : ∀ e ∈ inputs.entries, IsName e.1 ∧ WellMarked e.2)
    (hsep : Separate inputs.entries) {template : String} (h : WellMarked template) :
    OrderIrrelevant spec inputs template := by
  intro order horder
  obtain ⟨⟨marks, hmarks⟩, _⟩ := wellMarked_located hname hversion h
  have hmem : ∀ e ∈ order, e ∈ inputs.entries := fun e he => horder.mem_iff.mp he
  have hnodup : (order.map (·.1)).Nodup := (horder.map (·.1)).symm.nodup inputs.nodup_keys
  have hsame : settled order = settled inputs.entries :=
    settled_congr (Table.findEntry_of_perm horder hnodup)
  rw [substitute_eq, expanded_eq, substituteInOrder, ← String.toList_inj,
    toList_settled hnodup (fun e he => hentries e (hmem e he))
      (fun e he other hother => hsep e (hmem e he) other (hmem other hother)) hmarks,
    toList_settled inputs.nodup_keys hentries hsep hmarks, hsame]

/-- The placeholder of the input that is put in first becomes its value, which the others change. -/
theorem substituteInOrder_of_first (spec : Spec) {name value : String} (hvalid : IsName name)
    {entries : List (String × String)} :
    substituteInOrder spec ((name, value) :: entries) (inputPlaceholder name) =
      stripUnresolved (expandInputs entries value) := by
  rw [substituteInOrder, located_inputPlaceholder spec hvalid, expandInputs_cons,
    expandInput_inputPlaceholder]

/-- The placeholder of the input that is put in last becomes its value, which is kept. -/
theorem substituteInOrder_of_last (spec : Spec) {name value : String} (hvalid : IsName name)
    {entries : List (String × String)} (hentries : ∀ e ∈ entries, IsName e.1)
    (hname : name ∉ entries.map (·.1)) :
    substituteInOrder spec (entries ++ [(name, value)]) (inputPlaceholder name) =
      stripUnresolved value := by
  have hkept : expandInputs entries (inputPlaceholder name) = inputPlaceholder name := by
    refine expandInputs_of_not_occurs fun e he hoccurs => hname ?_
    obtain ⟨hne, hunmarked⟩ := hentries e he
    have hsame : Placeholder.input e.1 hne hunmarked = .input name hvalid.1 hvalid.2 :=
      occurs_placeholder_iff.mp hoccurs
    rw [← Placeholder.input.inj hsame]
    exact List.mem_map.mpr ⟨e, he, rfl⟩
  rw [substituteInOrder, located_inputPlaceholder spec hvalid, expandInputs_append, hkept]
  exact congrArg stripUnresolved (expandInput_inputPlaceholder name value)

/-- If an input is put in last, then what is visible of its value is added to a text that mentions
it. -/
theorem visible_of_last {other text : String} (hvalid : IsName other) {shown : List Mark}
    (hshown : text.toList = render shown) {entries : List (String × String)}
    (hentries : ∀ e ∈ entries, IsName e.1 ∧ WellMarked e.2) (hother : other ∉ entries.map (·.1))
    {value : String} {held : List Mark} (hheld : value.toList = render held)
    (hoccurs : Occurs (inputPlaceholder other) value) :
    visible held + visible shown ≤
      (stripUnresolved (expandInputs (entries ++ [(other, text)]) value)).length := by
  obtain ⟨after, hafter, hle, hkept⟩ := exists_marks_expandInputs hentries hheld
  have hmention : .placeholder (.input other hvalid.1 hvalid.2) ∈ after :=
    hkept other hvalid
      ((occurs_text_iff hheld (.input other hvalid.1 hvalid.2)).mp hoccurs) hother
  have hput := toList_replaceAll hafter hshown (.input other hvalid.1 hvalid.2)
  have hadded := (@visible_put (.input other hvalid.1 hvalid.2) rfl shown after).2 hmention
  calc visible held + visible shown
      ≤ visible after + visible shown := Nat.add_le_add_right hle _
    _ ≤ visible (put (.input other hvalid.1 hvalid.2) shown after) := hadded
    _ = (stripUnresolved (expandInputs (entries ++ [(other, text)]) value)).length := by
        rw [← length_stripUnresolved hput, expandInputs_append, expandInputs_cons]
        rfl

theorem exists_perm_first_last {inputs : Table String} {e other : String × String}
    (he : e ∈ inputs.entries) (hother : other ∈ inputs.entries) (hne : e.1 ≠ other.1) :
    ∃ rest, inputs.entries.Perm (e :: (rest ++ [other])) ∧
      e.1 ∉ (rest ++ [other]).map (·.1) ∧ other.1 ∉ rest.map (·.1) := by
  have hdiffer : other ≠ e := fun heq => hne (congrArg Prod.fst heq).symm
  have hleft : other ∈ inputs.entries.erase e := (List.mem_erase_of_ne hdiffer).mpr hother
  have hmoved : inputs.entries.Perm (e :: ((inputs.entries.erase e).erase other ++ [other])) :=
    (List.perm_cons_erase he).trans
      (.cons e ((List.perm_cons_erase hleft).trans (List.perm_append_singleton other _).symm))
  have hnodup := (hmoved.map (·.1)).nodup inputs.nodup_keys
  rw [List.map_cons, List.nodup_cons, List.map_append, List.nodup_append] at hnodup
  obtain ⟨hfirst, _, _, hapart⟩ := hnodup
  refine ⟨(inputs.entries.erase e).erase other, hmoved, ?_, fun hin => ?_⟩
  · rwa [List.map_append]
  · exact hapart other.1 hin other.1 (List.mem_map_of_mem List.mem_cons_self) rfl

/-- Two orders tell values apart that are not separate: in one the mentioned input comes last, in
the other the one that mentions it. -/
theorem separate_of_orderIrrelevant {spec : Spec} {inputs : Table String}
    (hentries : ∀ e ∈ inputs.entries, IsName e.1 ∧ WellMarked e.2)
    (h : ∀ template, WellMarked template → OrderIrrelevant spec inputs template) :
    Separate inputs.entries := by
  rintro ⟨name, value⟩ he ⟨other, text⟩ hother hne hoccurs
  obtain ⟨hvalid, held, hheld⟩ := hentries _ he
  obtain ⟨hvalid', shown, hshown⟩ := hentries _ hother
  obtain ⟨rest, hfirst, hname, hother'⟩ := exists_perm_first_last he hother hne
  have hlast : inputs.entries.Perm (rest ++ [(other, text)] ++ [(name, value)]) :=
    hfirst.trans (List.perm_append_singleton _ _).symm
  have hmem : ∀ e ∈ rest ++ [(other, text)], e ∈ inputs.entries := fun e he =>
    hfirst.mem_iff.mpr (List.mem_cons_of_mem _ he)
  -- the template is the placeholder of the input whose value mentions the other one
  have htemplate : WellMarked (inputPlaceholder name) :=
    Placeholder.wellMarked_text (.input name hvalid.1 hvalid.2)
  have hsame : stripUnresolved (expandInputs (rest ++ [(other, text)]) value) =
      stripUnresolved value :=
    calc stripUnresolved (expandInputs (rest ++ [(other, text)]) value)
        = substituteInOrder spec ((name, value) :: (rest ++ [(other, text)]))
            (inputPlaceholder name) := (substituteInOrder_of_first spec hvalid).symm
      _ = substitute spec inputs (inputPlaceholder name) := h _ htemplate _ hfirst.symm
      _ = substituteInOrder spec (rest ++ [(other, text)] ++ [(name, value)])
            (inputPlaceholder name) := (h _ htemplate _ hlast.symm).symm
      _ = stripUnresolved value :=
          substituteInOrder_of_last spec hvalid (fun e he => (hentries e (hmem e he)).1) hname
  have hvisible := visible_of_last hvalid' hshown
    (fun e he => hentries e (hmem e (List.mem_append_left _ he))) hother' hheld hoccurs
  rw [hsame, length_stripUnresolved hheld] at hvisible
  have hnothing : (stripUnresolved text).length = 0 := by
    rw [length_stripUnresolved hshown]
    omega
  exact String.length_eq_zero_iff.mp hnothing

/-- **When the order of the values does not matter.**  Let the inputs have no dollar and no closing
brace in their names.

* Where all values put in at once leave no placeholder of an input that has a value, this is what
  substitution makes of the template, what is left over being deleted, and no other order gives
  anything else.
* In well marked templates, with well marked values and a package's name and version without
  dollars and braces, the order never matters exactly if the values are separate: nothing is left
  of the value of an input that another value mentions. -/
theorem substitution_order (spec : Spec) (inputs : Table String)
    (hkeys : ∀ key ∈ inputs.keys, '$' ∉ key.toList ∧ '}' ∉ key.toList) :
    (∀ template,
      (∀ key ∈ inputs.keys,
        ¬ Occurs (inputPlaceholder key) (fillInputs inputs (located spec template))) →
      substitute spec inputs template =
          stripUnresolved (fillInputs inputs (located spec template)) ∧
        OrderIrrelevant spec inputs template) ∧
    (Unmarked spec.name → Unmarked spec.version →
      (∀ e ∈ inputs.entries, IsName e.1 ∧ WellMarked e.2) →
      ((∀ template, WellMarked template → OrderIrrelevant spec inputs template) ↔
        Separate inputs.entries)) := by
  refine ⟨fun template hclean => ?_, fun hname hversion hentries => ⟨?_, ?_⟩⟩
  · have hfill : ∀ order : List (String × String), order.Perm inputs.entries →
        substituteInOrder spec order template =
          stripUnresolved (fillInputs inputs (located spec template)) := fun order horder => by
      rw [substituteInOrder, expandInputs_of_perm horder hkeys hclean]
    have hsubstitute : substitute spec inputs template =
        stripUnresolved (fillInputs inputs (located spec template)) := hfill _ (.refl _)
    exact ⟨hsubstitute, fun order horder => (hfill order horder).trans hsubstitute.symm⟩
  · exact separate_of_orderIrrelevant hentries
  · intro hsep template h
    exact orderIrrelevant_of_separate hname hversion hentries hsep h

/-- The shell's own dollars and braces in values and template do no harm; a mention of another
input does. -/
theorem substitution_order_shell :
    let inputs : Table String := .ofList [("dir", "$HOME/$\x7bX\x7d"), ("jobs", "$(nproc)")]
    let template := "cd " ++ inputPlaceholder "dir" ++ " && make -j" ++ inputPlaceholder "jobs" ++
      " # $\x7b\x7bvars.x\x7d\x7d"
    let mentioning : Table String := .ofList [("a", "x"), ("b", inputPlaceholder "a")]
    OrderIrrelevant {} inputs template ∧
      ∃ other, WellMarked other ∧ ¬ OrderIrrelevant {} mentioning other := by
  intro inputs template mentioning
  have hkeys : ∀ key ∈ inputs.keys, '$' ∉ key.toList ∧ '}' ∉ key.toList := by decide +kernel
  have hclean : ∀ key ∈ inputs.keys,
      ¬ Occurs (inputPlaceholder key) (fillInputs inputs (located {} template)) := by decide +kernel
  refine ⟨((substitution_order {} inputs hkeys).1 template hclean).2, ?_⟩
  have hentries : ∀ e ∈ mentioning.entries, IsName e.1 ∧ WellMarked e.2 := by
    have hname : IsName "a" := ⟨by decide, by decide⟩
    intro e he
    rcases List.mem_cons.mp he with rfl | he
    · exact ⟨hname, Unmarked.wellMarked (by decide)⟩
    · cases List.mem_singleton.mp he
      exact ⟨⟨by decide, by decide⟩, Placeholder.wellMarked_text (.input "a" hname.1 hname.2)⟩
  by_contra hnone
  have hall : ∀ other, WellMarked other → OrderIrrelevant {} mentioning other :=
    fun other hother => by_contra fun hnot => hnone ⟨other, hother, hnot⟩
  have hkeys' : ∀ key ∈ mentioning.keys, '$' ∉ key.toList ∧ '}' ∉ key.toList := by decide +kernel
  have hsep := ((substitution_order {} mentioning hkeys').2 (by decide) (by decide)
    hentries).mp hall
  have hempty : stripUnresolved "x" = "" :=
    hsep ("b", inputPlaceholder "a") (by decide) ("a", "x") (by decide) (by decide)
      (by decide +kernel)
  exact absurd hempty (by decide +kernel)

/-- A value that mentions an input with an earlier name loses the mention, while it is expanded if
the values come in the other way round. -/
theorem substitution_order_matters :
    let inputs : Table String := .ofList [("a", "x"), ("b", inputPlaceholder "a")]
    let order : List (String × String) := [("b", inputPlaceholder "a"), ("a", "x")]
    order.Perm inputs.entries ∧ substitute {} inputs (inputPlaceholder "b") = "" ∧
      substituteInOrder {} order (inputPlaceholder "b") = "x" := by
  decide +kernel

end PackagePlan.Template
