import PackagePlan.Proofs.Template.Leftover

/-! # The division of a text at its placeholders

A text is divided into gaps and placeholders that alternate, with a gap at both ends (`Division`).
The division is *leftmost* if no placeholder of the text starts at a character of a gap
(`IsLeftmost`).  It is the cut of the text with the kept characters between two deletions taken
together (`IsLeftmost.cut`, `Cut.isLeftmost`), so every text has one, and no other
(`existsUnique_isLeftmost`).

What starts like a placeholder and is none is not closed, has no name, or is closed by a single
brace (`LookAlike`).  No placeholder starts in it (`LookAlike.free`), so that it is kept as a
whole.

* `deletion_keeps_gaps` : what is left of a text are the gaps of its leftmost division. -/

namespace PackagePlan.Template

open Text

/-! ### Placeholders at a place -/

theorem IsPlaceholder.eq_of_append {m m' rest rest' : List Char} (hm : IsPlaceholder m)
    (hm' : IsPlaceholder m') (h : m ++ rest = m' ++ rest') : m = m' := by
  have hlength : some m.length = some m'.length := by
    rw [← placeholderLength?_of_placeholder hm rest, h, placeholderLength?_of_placeholder hm']
  exact (List.append_inj h (Option.some.inj hlength)).1

theorem IsPlaceholder.head?_eq {m : List Char} (hm : IsPlaceholder m) : m.head? = some '$' := by
  obtain ⟨name, _, _, rfl⟩ := hm
  rfl

theorem isPlaceholder_iff {m : List Char} :
    IsPlaceholder m ↔ placeholderLength? m = some m.length := by
  constructor
  · intro hm
    have hlength := placeholderLength?_of_placeholder hm []
    rwa [List.append_nil] at hlength
  · intro h
    obtain ⟨m', hm', rest, rfl⟩ := exists_placeholder_of_length h
    rw [placeholderLength?_of_placeholder hm', Option.some.injEq] at h
    have hrest : rest = [] := List.length_eq_zero_iff.mp (by
      rw [List.length_append] at h
      omega)
    rwa [hrest, List.append_nil]

instance : DecidablePred IsPlaceholder := fun _ => decidable_of_iff' _ isPlaceholder_iff

/-- No placeholder starts at a character of `part`, where `rest` follows it. -/
def Free (part rest : List Char) : Prop :=
  ∀ n < part.length, ∀ m, IsPlaceholder m → ¬ m <+: (part ++ rest).drop n

instance (part rest : List Char) : Decidable (Free part rest) :=
  decidable_of_iff (∀ n < part.length, placeholderLength? ((part ++ rest).drop n) = none)
    (forall₂_congr fun _ _ => placeholderLength?_eq_none_iff)

theorem free_cons_iff {c : Char} {part rest : List Char} :
    Free (c :: part) rest ↔
      (∀ m, IsPlaceholder m → ¬ m <+: c :: (part ++ rest)) ∧ Free part rest := by
  constructor
  · intro h
    refine ⟨h 0 (Nat.succ_pos _), fun n hn => ?_⟩
    exact h (n + 1) (Nat.succ_lt_succ hn)
  · rintro ⟨hhead, hpart⟩ n hn
    cases n with
    | zero => exact hhead
    | succ n => exact hpart n (Nat.lt_of_succ_lt_succ hn)

/-! ### Laws of the cut -/

theorem kept_map (part : List Char) : kept (part.map .kept) = part := by
  induction part with
  | nil => rfl
  | cons c part ih => rw [List.map_cons, kept, ih]

theorem Cut.unique {text text' : List Char} {pieces pieces' : List Piece} (h : Cut text pieces)
    (h' : Cut text' pieces') (he : text = text') : pieces = pieces' := by
  induction h generalizing text' pieces' with
  | nil =>
      cases h' with
      | nil => rfl
      | delete hm _ => exact absurd (List.append_eq_nil_iff.mp he.symm).1 hm.ne_nil
      | keep _ _ => cases he
  | @delete m rest pieces hm _ ih =>
      cases h' with
      | nil => exact absurd (List.append_eq_nil_iff.mp he).1 hm.ne_nil
      | @delete m' rest' _ hm' hcut' =>
          have hsame := hm.eq_of_append hm' he
          subst hsame
          rw [ih hcut' (List.append_cancel_left he)]
      | keep hnot _ => exact absurd ⟨rest, he⟩ (hnot m hm)
  | @keep c rest pieces hnot _ ih =>
      cases h' with
      | nil => cases he
      | @delete m' rest' _ hm' _ => exact absurd ⟨rest', he.symm⟩ (hnot m' hm')
      | keep _ hcut' =>
          obtain ⟨rfl, hrest⟩ := List.cons.inj he
          rw [ih hcut' hrest]

theorem Cut.keep_free {part rest : List Char} {pieces : List Piece} (hcut : Cut rest pieces)
    (hfree : Free part rest) : Cut (part ++ rest) (part.map .kept ++ pieces) := by
  induction part with
  | nil => exact hcut
  | cons c part ih =>
      obtain ⟨hhead, hpart⟩ := free_cons_iff.mp hfree
      exact .keep hhead (ih hpart)

/-- The text of which pieces are the cut. -/
def whole : List Piece → List Char
  | [] => []
  | .kept c :: pieces => c :: whole pieces
  | .deleted m :: pieces => m ++ whole pieces

theorem whole_append (pieces more : List Piece) :
    whole (pieces ++ more) = whole pieces ++ whole more := by
  induction pieces with
  | nil => rfl
  | cons piece pieces ih => cases piece <;> simp [whole, ih]

theorem whole_map (part : List Char) : whole (part.map .kept) = part := by
  induction part with
  | nil => rfl
  | cons c part ih => rw [List.map_cons, whole, ih]

theorem Cut.whole_eq {text : List Char} {pieces : List Piece} (h : Cut text pieces) :
    whole pieces = text := by
  induction h with
  | nil => rfl
  | delete _ _ ih => rw [whole, ih]
  | keep _ _ ih => rw [whole, ih]

/-- The parts of a cut are the cuts of the parts of the text. -/
theorem Cut.split {text : List Char} {before after : List Piece} (h : Cut text (before ++ after)) :
    Cut (whole before) before ∧ Cut (whole after) after := by
  induction before generalizing text with
  | nil => exact ⟨.nil, h.whole_eq.symm ▸ h⟩
  | cons piece before ih =>
      cases h with
      | delete hm hcut =>
          obtain ⟨hbefore, hafter⟩ := ih hcut
          exact ⟨.delete hm hbefore, hafter⟩
      | @keep c rest _ hnot hcut =>
          obtain ⟨hbefore, hafter⟩ := ih hcut
          have hrest : whole (before ++ after) = rest := hcut.whole_eq
          rw [whole_append] at hrest
          have hprefix : c :: whole before <+: c :: rest := by
            rw [← hrest]
            exact List.prefix_append (c :: whole before) _
          exact ⟨.keep (fun m hm hp => hnot m hm (hp.trans hprefix)) hbefore, hafter⟩

/-! ### Divisions -/

/-- A text divided into gaps and placeholders that alternate, with a gap at both ends. -/
inductive Division where
  | last (gap : List Char)
  | cons (gap placeholder : List Char) (rest : Division)

namespace Division

/-- The text that is divided. -/
def text : Division → List Char
  | last gap => gap
  | cons gap m rest => gap ++ (m ++ rest.text)

/-- The gaps, from left to right. -/
def gaps : Division → List (List Char)
  | last gap => [gap]
  | cons gap _ rest => gap :: rest.gaps

/-- What stands between the gaps, from left to right. -/
def placeholders : Division → List (List Char)
  | last _ => []
  | cons _ m rest => m :: rest.placeholders

/-- The position in the text is that of a character of a gap. -/
def InGap : Division → (position : Nat) → Prop
  | last gap, position => position < gap.length
  | cons gap m rest, position =>
    position < gap.length ∨ ∃ n, position = (gap ++ m).length + n ∧ rest.InGap n

/-- Between the gaps stand placeholders, and no placeholder of the text starts inside a gap. -/
structure IsLeftmost (d : Division) : Prop where
  isPlaceholder : ∀ m ∈ d.placeholders, IsPlaceholder m
  not_starts : ∀ position, d.InGap position → ∀ m, IsPlaceholder m →
    ¬ m <+: d.text.drop position

theorem isLeftmost_last_iff {gap : List Char} : (last gap).IsLeftmost ↔ Free gap [] := by
  have hfree : Free gap [] ↔ ∀ n < gap.length, ∀ m, IsPlaceholder m → ¬ m <+: gap.drop n := by
    rw [Free, List.append_nil]
  rw [hfree]
  exact ⟨fun h => h.not_starts, fun h => ⟨nofun, h⟩⟩

theorem isLeftmost_cons_iff {gap m : List Char} {rest : Division} :
    (cons gap m rest).IsLeftmost ↔
      IsPlaceholder m ∧ Free gap (m ++ rest.text) ∧ rest.IsLeftmost := by
  have hdrop : ∀ n, (gap ++ (m ++ rest.text)).drop ((gap ++ m).length + n) = rest.text.drop n := by
    intro n
    rw [← List.append_assoc, List.drop_append]
    simp
  constructor
  · rintro ⟨hplaceholders, hstarts⟩
    obtain ⟨hm, hrest⟩ := List.forall_mem_cons.mp hplaceholders
    refine ⟨hm, fun n hn => hstarts n (.inl hn), hrest, fun n hn => ?_⟩
    have hlater := hstarts _ (.inr ⟨n, rfl, hn⟩)
    rwa [text, hdrop] at hlater
  · rintro ⟨hm, hgap, hrest⟩
    refine ⟨List.forall_mem_cons.mpr ⟨hm, hrest.isPlaceholder⟩, ?_⟩
    rintro position (hn | ⟨n, rfl, hn⟩)
    · exact hgap position hn
    · rw [text, hdrop]
      exact hrest.not_starts n hn

instance decidableIsLeftmost : (d : Division) → Decidable d.IsLeftmost
  | last _ => decidable_of_iff' _ isLeftmost_last_iff
  | cons _ _ rest =>
    have := decidableIsLeftmost rest
    decidable_of_iff' _ isLeftmost_cons_iff

/-! ### Divisions and cuts -/

/-- The pieces of a division. -/
def pieces : Division → List Piece
  | last gap => gap.map .kept
  | cons gap m rest => gap.map .kept ++ .deleted m :: rest.pieces

theorem kept_pieces (d : Division) : kept d.pieces = d.gaps.flatten := by
  induction d with
  | last gap => rw [pieces, kept_map, gaps, List.flatten_singleton]
  | cons gap m rest ih => rw [pieces, kept_append, kept_map, kept, ih, gaps, List.flatten_cons]

theorem exists_pieces_of_inGap {d : Division} {position : Nat} (h : d.InGap position) :
    ∃ before after, d.pieces = before ++ after ∧ (whole before).length = position := by
  induction d generalizing position with
  | last gap =>
      refine ⟨(gap.take position).map .kept, (gap.drop position).map .kept, ?_, ?_⟩
      · rw [pieces, ← List.map_append, List.take_append_drop]
      · rw [whole_map, List.length_take_of_le (Nat.le_of_lt h)]
  | cons gap m rest ih =>
      rcases h with hlt | ⟨n, rfl, hn⟩
      · refine ⟨(gap.take position).map .kept,
          (gap.drop position).map .kept ++ .deleted m :: rest.pieces, ?_, ?_⟩
        · rw [pieces, ← List.append_assoc, ← List.map_append, List.take_append_drop]
        · rw [whole_map, List.length_take_of_le (Nat.le_of_lt hlt)]
      · obtain ⟨before, after, hpieces, hlength⟩ := ih hn
        refine ⟨gap.map .kept ++ .deleted m :: before, after, ?_, ?_⟩
        · rw [pieces, hpieces, List.append_assoc, List.cons_append]
        · rw [whole_append, whole_map, whole, List.length_append, List.length_append, hlength,
            List.length_append]
          omega

theorem IsLeftmost.cut {d : Division} (h : d.IsLeftmost) : Cut d.text d.pieces := by
  induction d with
  | last gap =>
      have hcut := Cut.nil.keep_free (isLeftmost_last_iff.mp h)
      rwa [List.append_nil, List.append_nil] at hcut
  | cons gap m rest ih =>
      obtain ⟨hm, hgap, hrest⟩ := isLeftmost_cons_iff.mp h
      exact (Cut.delete hm (ih hrest)).keep_free hgap

/-- The division with a longer first gap. -/
def widen (front : List Char) : Division → Division
  | last gap => last (front ++ gap)
  | cons gap m rest => cons (front ++ gap) m rest

theorem text_widen (front : List Char) (d : Division) : (d.widen front).text = front ++ d.text := by
  cases d with
  | last gap => rfl
  | cons gap m rest => simp only [widen, text, List.append_assoc]

theorem isLeftmost_widen_iff {c : Char} {d : Division} : (d.widen [c]).IsLeftmost ↔
    (∀ m, IsPlaceholder m → ¬ m <+: c :: d.text) ∧ d.IsLeftmost := by
  cases d with
  | last gap =>
      rw [widen, isLeftmost_last_iff, isLeftmost_last_iff, List.singleton_append, free_cons_iff,
        List.append_nil, text]
  | cons gap m rest =>
      rw [widen, isLeftmost_cons_iff, isLeftmost_cons_iff, List.singleton_append, free_cons_iff,
        text, and_assoc, and_left_comm]

/-- The division with the pieces of a cut: kept characters next to each other are one gap. -/
def ofPieces : List Piece → Division
  | [] => last []
  | .kept c :: pieces => (ofPieces pieces).widen [c]
  | .deleted m :: pieces => cons [] m (ofPieces pieces)

theorem ofPieces_append (gap : List Char) (pieces : List Piece) :
    ofPieces (gap.map .kept ++ pieces) = (ofPieces pieces).widen gap := by
  induction gap with
  | nil => cases h : ofPieces pieces <;> simp [h, widen]
  | cons c gap ih =>
      rw [List.map_cons, List.cons_append, ofPieces, ih]
      cases ofPieces pieces <;> rfl

theorem ofPieces_pieces (d : Division) : ofPieces d.pieces = d := by
  induction d with
  | last gap =>
      have h := ofPieces_append gap []
      rw [List.append_nil] at h
      rw [pieces, h, ofPieces, widen, List.append_nil]
  | cons gap m rest ih => rw [pieces, ofPieces_append, ofPieces, ih, widen, List.append_nil]

end Division

theorem Cut.isLeftmost {text : List Char} {pieces : List Piece} (h : Cut text pieces) :
    (Division.ofPieces pieces).text = text ∧ (Division.ofPieces pieces).IsLeftmost := by
  induction h with
  | nil => exact ⟨rfl, by decide⟩
  | @delete m rest pieces hm _ ih =>
      obtain ⟨htext, hleft⟩ := ih
      refine ⟨?_, Division.isLeftmost_cons_iff.mpr ⟨hm, nofun, hleft⟩⟩
      rw [Division.ofPieces, Division.text, htext, List.nil_append]
  | @keep c rest pieces hnot _ ih =>
      obtain ⟨htext, hleft⟩ := ih
      rw [Division.ofPieces]
      refine ⟨?_, Division.isLeftmost_widen_iff.mpr ⟨?_, hleft⟩⟩
      · rw [Division.text_widen, htext, List.singleton_append]
      · rwa [htext]

/-- Every text has one leftmost division. -/
theorem existsUnique_isLeftmost (text : List Char) :
    ∃! d : Division, d.text = text ∧ d.IsLeftmost := by
  obtain ⟨pieces, hcut⟩ := exists_cut text
  refine ⟨.ofPieces pieces, hcut.isLeftmost, ?_⟩
  rintro d ⟨htext, hleft⟩
  rw [← hleft.cut.unique hcut htext, Division.ofPieces_pieces]

/-! ### Look-alikes -/

/-- A part that starts as placeholders do but is none, in front of `rest`: it is not closed, it has
no name, or a single brace closes it. -/
inductive LookAlike : (part rest : List Char) → Prop
  | unclosed {name : List Char} : '}' ∉ name → LookAlike (inputOpening.toList ++ name) []
  | unnamed {rest : List Char} : LookAlike (inputOpening.toList ++ closing.toList) rest
  | halfClosed {name rest : List Char} : '}' ∉ name → rest.head? ≠ some '}' →
      LookAlike (inputOpening.toList ++ name ++ ['}']) rest

theorem not_mem_opening_append {name : List Char} (h : '}' ∉ name) :
    '}' ∉ inputOpening.toList ++ name := by
  rw [List.mem_append, not_or]
  exact ⟨not_mem_opening, h⟩

/-- A placeholder that starts before the first closing brace of a text or at it ends with this
brace and another one. -/
theorem IsPlaceholder.closed_of_prefix_drop {m front back : List Char} (hm : IsPlaceholder m)
    (hfront : '}' ∉ front) {n : Nat} (hn : n ≤ front.length)
    (hp : m <+: (front ++ '}' :: back).drop n) :
    ∃ name, name ≠ [] ∧ front.drop n = inputOpening.toList ++ name ∧ back.head? = some '}' := by
  obtain ⟨name, hne, hbrace, rfl⟩ := hm
  obtain ⟨v, hv⟩ := hp
  rw [List.drop_append_of_le_length hn] at hv
  have hname : inputOpening.toList ++ name = front.drop n := by
    have htake := congrArg (List.takeWhile (· != '}')) hv
    rwa [takeWhile_name (not_mem_opening_append hbrace),
      takeWhile_append_brace fun hmem => hfront (List.mem_of_mem_drop hmem)] at htake
  rw [← hname, List.append_assoc] at hv
  have hback : '}' :: '}' :: v = '}' :: back := List.append_cancel_left hv
  obtain rfl : '}' :: v = back := (List.cons.inj hback).2
  exact ⟨name, hne, hname.symm, rfl⟩

theorem LookAlike.free {part rest : List Char} (h : LookAlike part rest) : Free part rest := by
  intro n hn m hm hp
  cases h with
  | @unclosed name hname =>
      have hbrace : '}' ∈ m := by
        obtain ⟨name', _, _, rfl⟩ := hm
        simp [closing]
      have hmem := List.mem_of_mem_drop (hp.subset hbrace)
      rw [List.append_nil] at hmem
      exact not_mem_opening_append hname hmem
  | unnamed =>
      rcases Nat.lt_or_ge inputOpening.toList.length n with hlt | hle
      · -- the second of the two braces, which starts no placeholder
        obtain rfl : n = inputOpening.toList.length + 1 := by
          have hlength : (inputOpening.toList ++ closing.toList).length =
              inputOpening.toList.length + 2 := rfl
          omega
        exact not_prefix_cons hm.head?_eq (by decide) rest hp
      · rw [List.append_assoc] at hp
        obtain ⟨name, hne, hdrop, _⟩ := hm.closed_of_prefix_drop not_mem_opening hle hp
        have hlength := congrArg List.length hdrop
        have hpos := List.length_pos_iff.mpr hne
        rw [List.length_drop, List.length_append] at hlength
        omega
  | @halfClosed name rest hname hrest =>
      rw [List.append_assoc] at hp
      have hle : n ≤ (inputOpening.toList ++ name).length := by
        rw [List.length_append, List.length_singleton] at hn
        omega
      obtain ⟨_, _, _, hhead⟩ := hm.closed_of_prefix_drop (not_mem_opening_append hname) hle hp
      exact hrest hhead

theorem LookAlike.length_pos {part rest : List Char} (h : LookAlike part rest) : 0 < part.length := by
  cases h <;> simp [inputOpening]

/-- A text that starts as placeholders do starts with a placeholder or a look-alike. -/
theorem placeholder_or_lookAlike {text : List Char} (h : inputOpening.toList <+: text) :
    (∃ m, IsPlaceholder m ∧ m <+: text) ∨ ∃ part rest, text = part ++ rest ∧ LookAlike part rest := by
  obtain ⟨after, rfl⟩ := h
  by_cases hbrace : '}' ∈ after
  · obtain ⟨name, back, rfl, hname⟩ := List.eq_append_cons_of_mem hbrace
    by_cases hclosed : back.head? = some '}'
    · obtain ⟨tail, rfl⟩ := List.head?_eq_some_iff.mp hclosed
      by_cases hempty : name = []
      · rw [hempty]
        exact .inr ⟨_, tail, rfl, .unnamed⟩
      · refine .inl ⟨_, ⟨name, hempty, hname, rfl⟩, tail, ?_⟩
        rw [List.append_assoc, List.append_assoc]
        rfl
    · refine .inr ⟨_, back, ?_, .halfClosed hname hclosed⟩
      rw [List.append_assoc, List.append_assoc]
      rfl
  · exact .inr ⟨_, [], (List.append_nil _).symm, .unclosed hbrace⟩

/-! ### The deletion -/

/-- A look-alike that starts in a gap is kept as it is. -/
theorem Division.IsLeftmost.stripUnresolved_lookAlike {d : Division} (hd : d.IsLeftmost)
    {front part rest : String} (htext : d.text = (front ++ part ++ rest).toList)
    (hpart : LookAlike part.toList rest.toList) (hgap : d.InGap front.toList.length) :
    stripUnresolved (front ++ part ++ rest) = stripUnresolved front ++ part ++ stripUnresolved rest := by
  have hcut := hd.cut
  obtain ⟨before, after, hpieces, hlength⟩ := exists_pieces_of_inGap hgap
  rw [hpieces, htext] at hcut
  obtain ⟨hbefore, hafter⟩ := hcut.split
  have hwhole : whole before ++ whole after = front.toList ++ (part.toList ++ rest.toList) := by
    rw [← whole_append, hcut.whole_eq, String.toList_append, String.toList_append, List.append_assoc]
  obtain ⟨hfront, hback⟩ := List.append_inj hwhole hlength
  obtain ⟨pieces, hrest⟩ := exists_cut rest.toList
  have hkept : after = part.toList.map .kept ++ pieces :=
    hafter.unique (hrest.keep_free hpart.free) hback
  rw [hfront] at hbefore
  rw [← String.toList_inj, toList_stripUnresolved hcut, String.toList_append, String.toList_append,
    toList_stripUnresolved hbefore, toList_stripUnresolved hrest, hkept, kept_append, kept_append,
    kept_map, List.append_assoc]

theorem stripUnresolved_of_not_occurs {text : String} (h : ¬ Occurs inputOpening text) :
    stripUnresolved text = text := by
  rw [stripUnresolved_eq_iff, complete_iff]
  rintro m ⟨name, _, _, rfl⟩ hin
  rw [List.append_assoc] at hin
  exact h ((List.prefix_append _ _).isInfix.trans hin)

/-- **Exactly the leftmost placeholders are deleted.**  Every text is divided in exactly one way
into gaps and placeholders that alternate so that no placeholder of the text starts in a gap, and
its gaps are what is left of it.  In particular,

* what starts as placeholders do and is none is a look-alike: not closed, without a name, or closed
  by a single brace;
* a look-alike that starts in a gap is kept character by character, whatever stands around it;
* a text in which no placeholder is opened is kept. -/
theorem deletion_keeps_gaps (text : String) :
    (∃! d : Division, d.text = text.toList ∧ d.IsLeftmost) ∧
    (∀ d : Division, d.text = text.toList → d.IsLeftmost →
      (stripUnresolved text).toList = d.gaps.flatten) ∧
    (∀ tail, tail <:+ text.toList → inputOpening.toList <+: tail →
      ((∀ m, IsPlaceholder m → ¬ m <+: tail) ↔
        ∃ part rest, tail = part ++ rest ∧ LookAlike part rest)) ∧
    (∀ d : Division, d.text = text.toList → d.IsLeftmost →
      ∀ front part rest : String, text = front ++ part ++ rest →
        LookAlike part.toList rest.toList → d.InGap front.toList.length →
        stripUnresolved text = stripUnresolved front ++ part ++ stripUnresolved rest) ∧
    (¬ Occurs inputOpening text → stripUnresolved text = text) := by
  refine ⟨existsUnique_isLeftmost text.toList, fun d htext hleft => ?_,
    fun tail _ hopening => ⟨fun hnot => ?_, ?_⟩,
    fun d hd hleft front part rest htext hpart hgap => ?_, stripUnresolved_of_not_occurs⟩
  · have hcut := hleft.cut
    rw [htext] at hcut
    rw [toList_stripUnresolved hcut, Division.kept_pieces]
  · refine (placeholder_or_lookAlike hopening).resolve_left ?_
    rintro ⟨m, hm, hp⟩
    exact hnot m hm hp
  · rintro ⟨part, rest, rfl, hpart⟩
    exact hpart.free 0 hpart.length_pos
  · rw [htext] at hd ⊢
    exact hleft.stripUnresolved_lookAlike hd hpart hgap

/-- A placeholder on two lines, with another opening in it, ends in front of a look-alike without a
name and one that is closed by a single brace.  Without an opening there is nothing to delete. -/
theorem deletion_keeps_gaps_lookalikes :
    let spanning := "$\x7b\x7binputs.$\x7b\x7binputs.a\n\x7d\x7d"
    let unnamed := "$\x7b\x7binputs.\x7d\x7d"
    let halfClosed := "$\x7b\x7binputs.a\x7db\x7d\x7d"
    let text := "make " ++ spanning ++ unnamed ++ halfClosed
    let tail := (unnamed ++ halfClosed).toList
    let d : Division := .cons "make ".toList spanning.toList (.last tail)
    (d.text = text.toList ∧ d.IsLeftmost) ∧
      (stripUnresolved text).toList = d.gaps.flatten ∧
      (tail <:+ text.toList ∧ inputOpening.toList <+: tail ∧
        ∀ m, IsPlaceholder m → ¬ m <+: tail) ∧
      (LookAlike unnamed.toList halfClosed.toList ∧
        d.InGap ("make " ++ spanning).toList.length) ∧
      stripUnresolved text =
        stripUnresolved ("make " ++ spanning) ++ unnamed ++ stripUnresolved halfClosed ∧
      ¬ Occurs inputOpening "echo $HOME" ∧ stripUnresolved "echo $HOME" = "echo $HOME" := by
  intro spanning unnamed halfClosed text tail d
  obtain ⟨_, hgaps, hlookalikes, hkept, _⟩ := deletion_keeps_gaps text
  have hd : d.text = text.toList ∧ d.IsLeftmost := by decide +kernel
  have hsuffix : tail <:+ text.toList := by decide +kernel
  have hopening : inputOpening.toList <+: tail := by decide +kernel
  have hunnamed : LookAlike unnamed.toList halfClosed.toList := by
    have hchars : unnamed.toList = inputOpening.toList ++ closing.toList := by decide +kernel
    rw [hchars]
    exact .unnamed
  have hpositive : 0 < tail.length := by decide +kernel
  have hgap : d.InGap ("make " ++ spanning).toList.length := .inr ⟨0, by decide +kernel, hpositive⟩
  have hhome : ¬ Occurs inputOpening "echo $HOME" := by decide +kernel
  refine ⟨hd, hgaps d hd.1 hd.2, ⟨hsuffix, hopening, ?_⟩, ⟨hunnamed, hgap⟩,
    hkept d hd.1 hd.2 _ _ _ rfl hunnamed hgap, hhome, (deletion_keeps_gaps _).2.2.2.2 hhome⟩
  exact (hlookalikes tail hsuffix hopening).mpr ⟨_, _, String.toList_append, hunnamed⟩

end PackagePlan.Template
