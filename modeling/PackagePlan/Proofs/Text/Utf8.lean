import PackagePlan.Text.Utf8

/-! # What is read as UTF-8

The bytes of a text are those of its characters, one after the other (`encode`).  Reading gives a
text exactly for the bytes of it.  Any other bytes begin with the bytes of a text and then start no
character: that is the fault, and it tells where they do so and how many bytes show it (`Breaks`).

* `Sequence` : which bytes stand for one character.
* `Stuck` : in what ways bytes start no character.
* `decode_eq_ok_iff`, `decode_eq_error_iff` : what reading gives. -/

namespace PackagePlan.Text.Utf8

open String (utf8EncodeChar)

/-! ### The bytes of a character -/

/-- The sequences of bytes that stand for one character. -/
inductive Sequence : List UInt8 → Prop
  | one {a : UInt8} (first : a.toNat < 0x80) : Sequence [a]
  | two {a b : UInt8} (low : 0xC2 ≤ a.toNat) (high : a.toNat ≤ 0xDF) (second : isTail b = true) :
      Sequence [a, b]
  | three {a b c : UInt8} (low : 0xE0 ≤ a.toNat) (high : a.toNat ≤ 0xEF)
      (second : second3 a b = true) (third : isTail c = true) : Sequence [a, b, c]
  | four {a b c d : UInt8} (low : 0xF0 ≤ a.toNat) (high : a.toNat ≤ 0xF4)
      (second : second4 a b = true) (third : isTail c = true) (fourth : isTail d = true) :
      Sequence [a, b, c, d]

theorem isTail_iff {b : UInt8} : isTail b = true ↔ 0x80 ≤ b.toNat ∧ b.toNat ≤ 0xBF := by
  simp only [isTail, Bool.and_eq_true, decide_eq_true_eq, UInt8.le_iff_toNat_le]
  rfl

theorem second3_iff {a b : UInt8} : second3 a b = true ↔
    (a.toNat = 0xE0 → 0xA0 ≤ b.toNat) ∧ (a.toNat = 0xED → b.toNat ≤ 0x9F) ∧
      0x80 ≤ b.toNat ∧ b.toNat ≤ 0xBF := by
  have hE0 : a = 0xE0 ↔ a.toNat = 0xE0 := UInt8.toNat_inj.symm
  have hED : a = 0xED ↔ a.toNat = 0xED := UInt8.toNat_inj.symm
  simp only [second3, beq_iff_eq, hE0, hED]
  split
  · simp [UInt8.le_iff_toNat_le]
    omega
  split
  · simp [UInt8.le_iff_toNat_le]
    omega
  · rw [isTail_iff]
    omega

theorem second4_iff {a b : UInt8} : second4 a b = true ↔
    (a.toNat = 0xF0 → 0x90 ≤ b.toNat) ∧ (a.toNat = 0xF4 → b.toNat ≤ 0x8F) ∧
      0x80 ≤ b.toNat ∧ b.toNat ≤ 0xBF := by
  have hF0 : a = 0xF0 ↔ a.toNat = 0xF0 := UInt8.toNat_inj.symm
  have hF4 : a = 0xF4 ↔ a.toNat = 0xF4 := UInt8.toNat_inj.symm
  simp only [second4, beq_iff_eq, hF0, hF4]
  split
  · simp [UInt8.le_iff_toNat_le]
    omega
  split
  · simp [UInt8.le_iff_toNat_le]
    omega
  · rw [isTail_iff]
    omega

theorem toNat_ofNat {n : Nat} (h : n.isValidChar) : (Char.ofNat n).val.toNat = n := by
  rw [Char.ofNat, dif_pos h]
  rfl

section
variable {a b c d : UInt8}

theorem utf8EncodeChar_one (first : a.toNat < 0x80) : utf8EncodeChar (Char.ofNat a.toNat) = [a] := by
  have hvalue := toNat_ofNat (n := a.toNat) (.inl (by omega))
  unfold utf8EncodeChar
  simp only [hvalue]
  rw [if_pos (by omega), UInt8.ofNat_toNat]

theorem utf8EncodeChar_two (low : 0xC2 ≤ a.toNat) (high : a.toNat ≤ 0xDF) (hb : isTail b = true) :
    utf8EncodeChar (Char.ofNat (push (a.toNat % 32) b)) = [a, b] := by
  rw [isTail_iff] at hb
  have hvalue := toNat_ofNat (n := push (a.toNat % 32) b) (.inl (by unfold push; omega))
  unfold utf8EncodeChar
  simp only [hvalue]
  unfold push
  rw [if_neg (by omega), if_pos (by omega)]
  simp only [List.cons.injEq, and_true, ← UInt8.toNat_inj, UInt8.toNat_ofNat']
  omega

theorem utf8EncodeChar_three (low : 0xE0 ≤ a.toNat) (high : a.toNat ≤ 0xEF)
    (hb : second3 a b = true) (hc : isTail c = true) :
    utf8EncodeChar (Char.ofNat (push (push (a.toNat % 16) b) c)) = [a, b, c] := by
  rw [second3_iff] at hb
  rw [isTail_iff] at hc
  have hvalue := toNat_ofNat (n := push (push (a.toNat % 16) b) c)
    (by unfold push Nat.isValidChar; omega)
  unfold utf8EncodeChar
  simp only [hvalue]
  unfold push
  rw [if_neg (by omega), if_neg (by omega), if_pos (by omega)]
  simp only [List.cons.injEq, and_true, ← UInt8.toNat_inj, UInt8.toNat_ofNat']
  omega

theorem utf8EncodeChar_four (low : 0xF0 ≤ a.toNat) (high : a.toNat ≤ 0xF4)
    (hb : second4 a b = true) (hc : isTail c = true) (hd : isTail d = true) :
    utf8EncodeChar (Char.ofNat (push (push (push (a.toNat % 8) b) c) d)) = [a, b, c, d] := by
  rw [second4_iff] at hb
  rw [isTail_iff] at hc hd
  have hvalue := toNat_ofNat (n := push (push (push (a.toNat % 8) b) c) d)
    (by unfold push Nat.isValidChar; omega)
  unfold utf8EncodeChar
  simp only [hvalue]
  unfold push
  rw [if_neg (by omega), if_neg (by omega), if_neg (by omega)]
  simp only [List.cons.injEq, and_true, ← UInt8.toNat_inj, UInt8.toNat_ofNat']
  omega

end

theorem Sequence.exists_char {bytes : List UInt8} (h : Sequence bytes) :
    ∃ c, utf8EncodeChar c = bytes := by
  cases h with
  | one first => exact ⟨_, utf8EncodeChar_one first⟩
  | two low high hb => exact ⟨_, utf8EncodeChar_two low high hb⟩
  | three low high hb hc => exact ⟨_, utf8EncodeChar_three low high hb hc⟩
  | four low high hb hc hd => exact ⟨_, utf8EncodeChar_four low high hb hc hd⟩

theorem sequence_utf8EncodeChar (c : Char) : Sequence (utf8EncodeChar c) := by
  have hvalid : c.val.toNat.isValidChar := c.valid
  unfold Nat.isValidChar at hvalid
  unfold utf8EncodeChar
  dsimp only
  generalize c.val.toNat = v at hvalid ⊢
  split
  · refine .one ?_
    rw [UInt8.toNat_ofNat']
    omega
  split
  · refine .two ?_ ?_ ?_
    all_goals
      simp only [isTail_iff, UInt8.toNat_ofNat']
      omega
  split
  · refine .three ?_ ?_ ?_ ?_
    all_goals
      simp only [second3_iff, isTail_iff, UInt8.toNat_ofNat']
      omega
  · refine .four ?_ ?_ ?_ ?_ ?_
    all_goals
      simp only [second4_iff, isTail_iff, UInt8.toNat_ofNat']
      omega

theorem utf8EncodeChar_append_inj {c d : Char} {x y : List UInt8}
    (h : utf8EncodeChar c ++ x = utf8EncodeChar d ++ y) : c = d ∧ x = y := by
  have hbytes := congrArg List.toByteArray h
  rw [List.toByteArray_append, List.toByteArray_append] at hbytes
  have hread := @ByteArray.utf8DecodeChar?_utf8EncodeChar_append x.toByteArray c
  rw [hbytes, ByteArray.utf8DecodeChar?_utf8EncodeChar_append] at hread
  obtain rfl := Option.some.inj hread
  exact ⟨rfl, List.append_cancel_left h⟩

/-! ### Where reading stops -/

/-- The bytes of a text. -/
def encode (s : String) : List UInt8 := s.toList.flatMap utf8EncodeChar

/-- The bytes begin those of a character, but there are some missing. -/
def Begun (bytes : List UInt8) : Prop :=
  ∃ c missing, missing ≠ [] ∧ utf8EncodeChar c = bytes ++ missing

/-- The bytes begin those of a character, or are all of them. -/
def Begins (bytes : List UInt8) : Prop := ∃ c, bytes <+: utf8EncodeChar c

/-- What is wrong with bytes at an index where they start no character. -/
inductive Stuck (index : Nat) : List UInt8 → Fault → Prop
  | cutOff {bytes : List UInt8} (nonempty : bytes ≠ []) (begun : Begun bytes) :
      Stuck index bytes (.incomplete index)
  | noStart {b : UInt8} {rest : List UInt8} (unfit : ¬ Begins [b]) :
      Stuck index (b :: rest) (.invalid index 1)
  | noContinuation (bytes : List UInt8) {b : UInt8} {rest : List UInt8} (nonempty : bytes ≠ [])
      (begun : Begun bytes) (unfit : ¬ Begins (bytes ++ [b])) :
      Stuck index (bytes ++ b :: rest) (.invalid index bytes.length)

/-- What is wrong with bytes that are not those of a text. -/
def Breaks (bytes : List UInt8) (fault : Fault) : Prop :=
  ∃ s rest, bytes = encode s ++ rest ∧ Stuck (encode s).length rest fault

theorem Sequence.begun {bytes : List UInt8} (missing : List UInt8)
    (h : Sequence (bytes ++ missing)) (hmissing : missing ≠ []) : Begun bytes := by
  obtain ⟨c, hc⟩ := h.exists_char
  exact ⟨c, missing, hmissing, hc⟩

/-- Bytes begin a character only if more bytes make a sequence of them. -/
theorem not_begins {bytes : List UInt8} (h : ∀ missing, ¬ Sequence (bytes ++ missing)) :
    ¬ Begins bytes := by
  rintro ⟨c, missing, hc⟩
  exact h missing (hc ▸ sequence_utf8EncodeChar c)

section
variable {a b c d : UInt8} {rest : List UInt8}

theorem Sequence.first (h : Sequence (a :: rest)) : a.toNat < 0x80 ∨
    (0xC2 ≤ a.toNat ∧ a.toNat ≤ 0xDF) ∨ (0xE0 ≤ a.toNat ∧ a.toNat ≤ 0xEF) ∨
      0xF0 ≤ a.toNat ∧ a.toNat ≤ 0xF4 := by
  cases h <;> simp [*]

theorem Sequence.second (h : Sequence (a :: b :: rest)) :
    (0xC2 ≤ a.toNat ∧ a.toNat ≤ 0xDF ∧ isTail b = true) ∨
    (0xE0 ≤ a.toNat ∧ a.toNat ≤ 0xEF ∧ second3 a b = true) ∨
      0xF0 ≤ a.toNat ∧ a.toNat ≤ 0xF4 ∧ second4 a b = true := by
  cases h <;> simp [*]

theorem Sequence.third (h : Sequence (a :: b :: c :: rest)) : isTail c = true := by
  cases h <;> assumption

theorem Sequence.fourth (h : Sequence (a :: b :: c :: d :: rest)) : isTail d = true := by
  cases h
  assumption

end

section
variable {a b c : UInt8}

theorem begun_two (low : 0xC2 ≤ a.toNat) (high : a.toNat ≤ 0xDF) : Begun [a] :=
  Sequence.begun [0x80] (.two low high (by decide)) (by simp)

theorem begun_three (low : 0xE0 ≤ a.toNat) (high : a.toNat ≤ 0xEF) : Begun [a] := by
  by_cases hE0 : a.toNat = 0xE0
  · refine Sequence.begun [0xA0, 0x80] (.three low high ?_ (by decide)) (by simp)
    rw [second3_iff]
    simp [hE0]
  · refine Sequence.begun [0x80, 0x80] (.three low high ?_ (by decide)) (by simp)
    rw [second3_iff]
    simp [hE0]

theorem begun_four (low : 0xF0 ≤ a.toNat) (high : a.toNat ≤ 0xF4) : Begun [a] := by
  by_cases hF0 : a.toNat = 0xF0
  · refine Sequence.begun [0x90, 0x80, 0x80]
      (.four low high ?_ (by decide) (by decide)) (by simp)
    rw [second4_iff]
    simp [hF0]
  · refine Sequence.begun [0x80, 0x80, 0x80]
      (.four low high ?_ (by decide) (by decide)) (by simp)
    rw [second4_iff]
    simp [hF0]

theorem begun_three_second (low : 0xE0 ≤ a.toNat) (high : a.toNat ≤ 0xEF)
    (hb : second3 a b = true) : Begun [a, b] :=
  Sequence.begun [0x80] (.three low high hb (by decide)) (by simp)

theorem begun_four_second (low : 0xF0 ≤ a.toNat) (high : a.toNat ≤ 0xF4)
    (hb : second4 a b = true) : Begun [a, b] :=
  Sequence.begun [0x80, 0x80] (.four low high hb (by decide) (by decide)) (by simp)

theorem begun_four_third (low : 0xF0 ≤ a.toNat) (high : a.toNat ≤ 0xF4)
    (hb : second4 a b = true) (hc : isTail c = true) : Begun [a, b, c] :=
  Sequence.begun [0x80] (.four low high hb hc (by decide)) (by simp)

end

/-- What reading from an index on comes to: all of the characters, or a fault behind some. -/
def Comes (index : Nat) (done : List Char) (bytes : List UInt8) :
    Except Fault (List Char) → Prop
  | .ok cs => ∃ text : List Char, cs = done.reverse ++ text ∧ bytes = text.flatMap utf8EncodeChar
  | .error fault => ∃ (text : List Char) (rest : List UInt8),
      bytes = text.flatMap utf8EncodeChar ++ rest ∧
        Stuck (index + (text.flatMap utf8EncodeChar).length) rest fault

section
variable {index : Nat} {done : List Char} {bytes rest : List UInt8} {fault : Fault}

theorem Comes.stop (h : Stuck index rest fault) : Comes index done rest (.error fault) :=
  ⟨[], rest, rfl, h⟩

theorem Comes.step {c : Char} {result : Except Fault (List Char)} (hc : utf8EncodeChar c = bytes)
    (h : Comes (index + bytes.length) (c :: done) rest result) :
    Comes index done (bytes ++ rest) result := by
  subst hc
  cases result with
  | ok cs =>
      obtain ⟨text, rfl, rfl⟩ := h
      refine ⟨c :: text, ?_, ?_⟩
      · rw [List.reverse_cons, List.append_assoc, List.singleton_append]
      · rw [List.flatMap_cons]
  | error fault =>
      obtain ⟨text, rest, rfl, hstuck⟩ := h
      refine ⟨c :: text, rest, ?_, ?_⟩
      · rw [List.flatMap_cons, List.append_assoc]
      · rw [List.flatMap_cons, List.length_append, ← Nat.add_assoc]
        exact hstuck

end

theorem between_iff {low high a : UInt8} :
    (decide (low ≤ a) && decide (a ≤ high)) = true ↔
      low.toNat ≤ a.toNat ∧ a.toNat ≤ high.toNat := by
  simp only [Bool.and_eq_true, decide_eq_true_eq, UInt8.le_iff_toNat_le]

theorem comes_decodeFrom (index : Nat) (done : List Char) (bytes : List UInt8) :
    Comes index done bytes (decodeFrom index done bytes) := by
  fun_induction decodeFrom index done bytes with
  | case1 index done => exact ⟨[], (List.append_nil _).symm, rfl⟩
  | case2 index done a rest hone ih => exact Comes.step (utf8EncodeChar_one hone) ih
  -- two bytes
  | case3 index done a _ hfirst =>
      obtain ⟨hlow, hhigh⟩ := between_iff.mp hfirst
      exact .stop (.cutOff (by simp) (begun_two hlow hhigh))
  | case4 index done a _ hfirst b rest hb ih =>
      obtain ⟨hlow, hhigh⟩ := between_iff.mp hfirst
      exact Comes.step (utf8EncodeChar_two hlow hhigh hb) ih
  | case5 index done a _ hfirst b rest hb =>
      obtain ⟨hlow, hhigh⟩ := between_iff.mp hfirst
      refine .stop (.noContinuation [a] (by simp) (begun_two hlow hhigh) ?_)
      refine not_begins fun missing h => ?_
      rcases Sequence.second h with ⟨_, _, hsecond⟩ | ⟨hthree, _⟩ | ⟨hfour, _⟩
      · exact hb hsecond
      · change a.toNat ≤ 0xDF at hhigh
        omega
      · change a.toNat ≤ 0xDF at hhigh
        omega
  -- three bytes
  | case6 index done a _ _ hfirst =>
      obtain ⟨hlow, hhigh⟩ := between_iff.mp hfirst
      exact .stop (.cutOff (by simp) (begun_three hlow hhigh))
  | case7 index done a _ _ hfirst b hb =>
      obtain ⟨hlow, hhigh⟩ := between_iff.mp hfirst
      exact .stop (.cutOff (by simp) (begun_three_second hlow hhigh hb))
  | case8 index done a _ _ hfirst b hb c rest hc ih =>
      obtain ⟨hlow, hhigh⟩ := between_iff.mp hfirst
      exact Comes.step (utf8EncodeChar_three hlow hhigh hb hc) ih
  | case9 index done a _ _ hfirst b hb c rest hc =>
      obtain ⟨hlow, hhigh⟩ := between_iff.mp hfirst
      refine .stop (.noContinuation [a, b] (by simp) (begun_three_second hlow hhigh hb) ?_)
      exact not_begins fun missing h => hc (Sequence.third h)
  | case10 index done a _ _ hfirst b rest hb =>
      obtain ⟨hlow, hhigh⟩ := between_iff.mp hfirst
      refine .stop (.noContinuation [a] (by simp) (begun_three hlow hhigh) ?_)
      refine not_begins fun missing h => ?_
      rcases Sequence.second h with ⟨_, htwo, _⟩ | ⟨_, _, hsecond⟩ | ⟨hfour, _⟩
      · change 0xE0 ≤ a.toNat at hlow
        omega
      · exact hb hsecond
      · change a.toNat ≤ 0xEF at hhigh
        omega
  -- four bytes
  | case11 index done a _ _ _ hfirst =>
      obtain ⟨hlow, hhigh⟩ := between_iff.mp hfirst
      exact .stop (.cutOff (by simp) (begun_four hlow hhigh))
  | case12 index done a _ _ _ hfirst b hb =>
      obtain ⟨hlow, hhigh⟩ := between_iff.mp hfirst
      exact .stop (.cutOff (by simp) (begun_four_second hlow hhigh hb))
  | case13 index done a _ _ _ hfirst b hb c hc =>
      obtain ⟨hlow, hhigh⟩ := between_iff.mp hfirst
      exact .stop (.cutOff (by simp) (begun_four_third hlow hhigh hb hc))
  | case14 index done a _ _ _ hfirst b hb c hc d rest hd ih =>
      obtain ⟨hlow, hhigh⟩ := between_iff.mp hfirst
      exact Comes.step (utf8EncodeChar_four hlow hhigh hb hc hd) ih
  | case15 index done a _ _ _ hfirst b hb c hc d rest hd =>
      obtain ⟨hlow, hhigh⟩ := between_iff.mp hfirst
      refine .stop (.noContinuation [a, b, c] (by simp) (begun_four_third hlow hhigh hb hc) ?_)
      exact not_begins fun missing h => hd (Sequence.fourth h)
  | case16 index done a _ _ _ hfirst b hb c rest hc =>
      obtain ⟨hlow, hhigh⟩ := between_iff.mp hfirst
      refine .stop (.noContinuation [a, b] (by simp) (begun_four_second hlow hhigh hb) ?_)
      exact not_begins fun missing h => hc (Sequence.third h)
  | case17 index done a _ _ _ hfirst b rest hb =>
      obtain ⟨hlow, hhigh⟩ := between_iff.mp hfirst
      refine .stop (.noContinuation [a] (by simp) (begun_four hlow hhigh) ?_)
      refine not_begins fun missing h => ?_
      rcases Sequence.second h with ⟨_, htwo, _⟩ | ⟨_, hthree, _⟩ | ⟨_, _, hsecond⟩
      · change 0xF0 ≤ a.toNat at hlow
        omega
      · change 0xF0 ≤ a.toNat at hlow
        omega
      · exact hb hsecond
  | case18 index done a rest hone htwo hthree hfour =>
      refine .stop (.noStart (not_begins fun missing h => ?_))
      rcases Sequence.first h with hfirst | hfirst | hfirst | hfirst
      · exact hone hfirst
      · exact htwo (between_iff.mpr hfirst)
      · exact hthree (between_iff.mpr hfirst)
      · exact hfour (between_iff.mpr hfirst)

/-! ### One reading -/

theorem utf8EncodeChar_ne_nil (c : Char) : utf8EncodeChar c ≠ [] := by
  have h := sequence_utf8EncodeChar c
  intro hnil
  rw [hnil] at h
  cases h

theorem Begins.mono {bytes first : List UInt8} (h : Begins bytes) (hfirst : first <+: bytes) :
    Begins first := by
  obtain ⟨c, hc⟩ := h
  exact ⟨c, hfirst.trans hc⟩

theorem Begun.begins {bytes : List UInt8} (h : Begun bytes) : Begins bytes := by
  obtain ⟨c, missing, _, hc⟩ := h
  exact ⟨c, missing, hc.symm⟩

/-- The bytes of a character are not the first ones of those of another. -/
theorem Begun.not_prefix {bytes : List UInt8} (h : Begun bytes) (c : Char) :
    ¬ utf8EncodeChar c <+: bytes := by
  rintro ⟨more, rfl⟩
  obtain ⟨d, missing, hmissing, hd⟩ := h
  rw [List.append_assoc] at hd
  have hsame := (utf8EncodeChar_append_inj (hd.symm.trans (List.append_nil _).symm)).2
  exact hmissing (List.append_eq_nil_iff.mp hsame).2

section
variable {index : Nat} {rest : List UInt8} {fault : Fault}

theorem Stuck.ne_nil (h : Stuck index rest fault) : rest ≠ [] := by
  cases h with
  | cutOff hnonempty _ => exact hnonempty
  | noStart _ => simp
  | noContinuation _ _ _ _ => simp

theorem Stuck.not_prefix (h : Stuck index rest fault) (c : Char) :
    ¬ utf8EncodeChar c <+: rest := by
  cases h with
  | cutOff _ hbegun => exact hbegun.not_prefix c
  | noStart hunfit =>
      rintro ⟨more, hc⟩
      rcases List.append_eq_cons_iff.mp hc with ⟨hnil, _⟩ | ⟨after, hafter, _⟩
      · exact utf8EncodeChar_ne_nil c hnil
      · exact hunfit ⟨c, after, hafter.symm⟩
  | noContinuation _ _ hbegun hunfit =>
      rintro ⟨more, hc⟩
      rcases List.append_eq_append_iff.mp hc with ⟨after, hbytes, _⟩ | ⟨after, hchar, hafter⟩
      · exact hbegun.not_prefix c ⟨after, hbytes.symm⟩
      rcases List.cons_eq_append_iff.mp hafter with ⟨rfl, _⟩ | ⟨after, rfl, _⟩
      · rw [List.append_nil] at hchar
        exact hbegun.not_prefix c (hchar ▸ List.prefix_refl _)
      · exact hunfit ⟨c, after, by rw [hchar, List.append_assoc, List.singleton_append]⟩

theorem Stuck.of_incomplete {i : Nat} (h : Stuck index rest (.incomplete i)) :
    i = index ∧ Begins rest := by
  cases h with
  | cutOff _ hbegun => exact ⟨rfl, hbegun.begins⟩

theorem Stuck.of_invalid {i length : Nat} (h : Stuck index rest (.invalid i length)) :
    i = index ∧ ¬ Begins (rest.take (length + 1)) ∧
      (length = 1 ∨ Begins (rest.take length)) ∧ 0 < length := by
  cases h with
  | @noStart b rest hunfit =>
      refine ⟨rfl, fun hbegins => hunfit (hbegins.mono ?_), .inl rfl, by omega⟩
      rw [List.take_succ_cons]
      exact List.prefix_append [b] _
  | @noContinuation bytes b rest hnonempty hbegun hunfit =>
      refine ⟨rfl, ?_, .inr ?_, List.length_pos_iff.mpr hnonempty⟩
      · rw [List.take_length_add_append]
        exact hunfit
      · rw [List.take_left]
        exact hbegun.begins

theorem Stuck.unique {other : Fault} (h : Stuck index rest fault)
    (h' : Stuck index rest other) : fault = other := by
  have hcut : ∀ {i j length}, Stuck index rest (.incomplete i) →
      ¬ Stuck index rest (.invalid j length) := by
    intro i j length hi hj
    exact hj.of_invalid.2.1 (hi.of_incomplete.2.mono (List.take_prefix ..))
  have hle : ∀ {i j length longer}, Stuck index rest (.invalid i length) →
      Stuck index rest (.invalid j longer) → longer ≤ length := by
    intro i j length longer hi hj
    obtain ⟨_, hshown, _, hpos⟩ := hi.of_invalid
    obtain ⟨_, _, hone | hbegins, _⟩ := hj.of_invalid
    · omega
    · refine Nat.le_of_not_lt fun hlt => hshown (hbegins.mono ?_)
      exact List.take_prefix_take_left hlt
  cases fault with
  | incomplete i =>
      cases other with
      | incomplete j => rw [h.of_incomplete.1, h'.of_incomplete.1]
      | invalid j length => exact absurd h' (hcut h)
  | invalid i length =>
      cases other with
      | incomplete j => exact absurd h (hcut h')
      | invalid j longer =>
          rw [h.of_invalid.1, h'.of_invalid.1, Nat.le_antisymm (hle h' h) (hle h h')]

end

/-- Bytes of a text and others that start no character can be told apart. -/
theorem flatMap_append_inj {x y : List UInt8} (hx : ∀ c, ¬ utf8EncodeChar c <+: x)
    (hy : ∀ c, ¬ utf8EncodeChar c <+: y) : ∀ {cs ds : List Char},
      cs.flatMap utf8EncodeChar ++ x = ds.flatMap utf8EncodeChar ++ y → cs = ds ∧ x = y
  | [], [], h => ⟨rfl, h⟩
  | [], d :: ds, h => by
      rw [List.flatMap_nil, List.nil_append, List.flatMap_cons, List.append_assoc] at h
      exact absurd ⟨_, h.symm⟩ (hx d)
  | c :: cs, [], h => by
      rw [List.flatMap_nil, List.nil_append, List.flatMap_cons, List.append_assoc] at h
      exact absurd ⟨_, h⟩ (hy c)
  | c :: cs, d :: ds, h => by
      rw [List.flatMap_cons, List.flatMap_cons, List.append_assoc, List.append_assoc] at h
      obtain ⟨rfl, hrest⟩ := utf8EncodeChar_append_inj h
      obtain ⟨rfl, rfl⟩ := flatMap_append_inj hx hy hrest
      exact ⟨rfl, rfl⟩

theorem not_prefix_nil (c : Char) : ¬ utf8EncodeChar c <+: [] := fun h =>
  utf8EncodeChar_ne_nil c (List.prefix_nil.mp h)

/-! ### What reading gives -/

variable {bytes : List UInt8}

theorem encode_ofList (cs : List Char) : encode (String.ofList cs) = cs.flatMap utf8EncodeChar := by
  rw [encode, String.toList_ofList]

theorem decode_cases (bytes : List UInt8) :
    (∃ s, encode s = bytes ∧ decode bytes = .ok s) ∨
      ∃ fault, Breaks bytes fault ∧ decode bytes = .error fault := by
  have hcomes := comes_decodeFrom 0 [] bytes
  unfold decode
  cases hread : decodeFrom 0 [] bytes with
  | ok cs =>
      rw [hread] at hcomes
      obtain ⟨text, rfl, hbytes⟩ := hcomes
      exact .inl ⟨_, (encode_ofList _).trans hbytes.symm, rfl⟩
  | error fault =>
      rw [hread] at hcomes
      obtain ⟨text, rest, hbytes, hstuck⟩ := hcomes
      rw [Nat.zero_add, ← encode_ofList] at hstuck
      rw [← encode_ofList] at hbytes
      exact .inr ⟨fault, ⟨_, rest, hbytes, hstuck⟩, rfl⟩

theorem encode_injective {s t : String} (h : encode s = encode t) : s = t := by
  have hsame := flatMap_append_inj not_prefix_nil not_prefix_nil (congrArg (· ++ []) h)
  exact String.toList_injective hsame.1

theorem not_breaks_encode (s : String) (fault : Fault) : ¬ Breaks (encode s) fault := by
  rintro ⟨t, rest, hbytes, hstuck⟩
  rw [← List.append_nil (encode s)] at hbytes
  exact hstuck.ne_nil (flatMap_append_inj not_prefix_nil hstuck.not_prefix hbytes).2.symm

theorem Breaks.unique {fault other : Fault} (h : Breaks bytes fault) (h' : Breaks bytes other) :
    fault = other := by
  obtain ⟨s, rest, rfl, hstuck⟩ := h
  obtain ⟨t, rest', hbytes, hstuck'⟩ := h'
  obtain ⟨hsame, rfl⟩ := flatMap_append_inj hstuck.not_prefix hstuck'.not_prefix hbytes
  obtain rfl := String.toList_injective hsame
  exact hstuck.unique hstuck'

theorem decode_eq_ok_iff {s : String} : decode bytes = .ok s ↔ encode s = bytes := by
  rcases decode_cases bytes with ⟨t, rfl, ht⟩ | ⟨fault, hbreaks, hfault⟩
  · rw [ht, Except.ok.injEq]
    exact ⟨congrArg encode ∘ Eq.symm, fun h => (encode_injective h).symm⟩
  · rw [hfault]
    refine ⟨nofun, ?_⟩
    rintro rfl
    exact absurd hbreaks (not_breaks_encode s fault)

theorem decode_eq_error_iff {fault : Fault} : decode bytes = .error fault ↔ Breaks bytes fault := by
  rcases decode_cases bytes with ⟨t, rfl, ht⟩ | ⟨other, hbreaks, hother⟩
  · rw [ht]
    exact ⟨nofun, fun h => absurd h (not_breaks_encode t fault)⟩
  · rw [hother, Except.error.injEq]
    exact ⟨fun h => h ▸ hbreaks, fun h => hbreaks.unique h⟩

/-- The sign for the euro, cut off behind a letter. -/
example : decode [0x61, 0xE2, 0x82] = .error (.incomplete 1) := rfl

end PackagePlan.Text.Utf8
