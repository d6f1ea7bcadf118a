import Mathlib.Data.List.Infix

/-! # Reading what a shell reads

Between double quotes a shell takes a text as it stands up to the next double quote, with three
exceptions: a backslash takes the meaning of a dollar, a backtick, a double quote, a backslash or
a line end behind it; a dollar and a backtick without one start an expansion.

* `readQuoted?` : the value of a double-quoted word without expansions.
* `Literal` : the texts that can stand between double quotes as they are;
  `readQuoted?_eq_some_iff` : these are the ones that are read back.
* `readAssignments` : assignments of such words, line by line. -/

namespace PackagePlan.Shell

/-! ### Double-quoted words -/

/-- The characters that end a double-quoted word or start an expansion in it. -/
def special : List Char := ['"', '$', '`']

/-- The characters whose meaning a backslash takes between double quotes. -/
def escapable : List Char := special ++ ['\\', '\n']

/-- Puts characters in front of a value that has been read. -/
def push (front : List Char) (read : Option (List Char × List Char)) :
    Option (List Char × List Char) :=
  read.map fun r => (front ++ r.1, r.2)

/-- Reads on between double quotes; `escaped` says that the character before is a backslash that
may take the meaning of the next one.  A line end behind a backslash vanishes together with it,
and so does the backslash before the other characters of `escapable`. -/
def readFrom : (escaped : Bool) → List Char → Option (List Char × List Char)
  | _, [] => none
  | true, c :: rest =>
    if c = '\n' then readFrom false rest
    else push (if c ∈ escapable then [c] else ['\\', c]) (readFrom false rest)
  | false, c :: rest =>
    if c = '"' then some ([], rest)
    else if c = '\\' then readFrom true rest
    else if c ∈ special then none
    else push [c] (readFrom false rest)

/-- Reads a double-quoted word from behind its opening quote: its value, and what comes after its
closing quote.  There is no value if the word is not closed or an expansion starts in it. -/
def readQuoted? (text : List Char) : Option (List Char × List Char) := readFrom false text

/-- A text means itself between double quotes: it has no double quote, dollar or backtick, and no
backslash comes before a character whose meaning it takes, the closing quote counted. -/
def Literal (text : List Char) : Prop :=
  (∀ c ∈ text, c ∉ special) ∧ ∀ c ∈ escapable, ¬ ['\\', c] <:+: text ++ ['"']

instance (text : List Char) : Decidable (Literal text) :=
  @instDecidableAnd _ _ (List.decidableBAll ..) (List.decidableBAll ..)

theorem push_eq_some_iff {front value rest : List Char} {read : Option (List Char × List Char)} :
    push front read = some (value, rest) ↔
      ∃ back, read = some (back, rest) ∧ value = front ++ back := by
  unfold push
  rw [Option.map_eq_some_iff]
  constructor
  · rintro ⟨⟨back, rest'⟩, hread, h⟩
    cases h
    exact ⟨back, hread, rfl⟩
  · rintro ⟨back, hread, rfl⟩
    exact ⟨_, hread, rfl⟩

theorem push_push (front middle : List Char) (read : Option (List Char × List Char)) :
    push front (push middle read) = push (front ++ middle) read := by
  cases read <;> simp [push]

/-! ### Single characters -/

theorem readFrom_plain {c : Char} (hbackslash : c ≠ '\\') (hplain : c ∉ special)
    (rest : List Char) : readFrom false (c :: rest) = push [c] (readFrom false rest) := by
  have hquote : c ≠ '"' := fun h => hplain (h ▸ by decide)
  rw [readFrom, if_neg hquote, if_neg hbackslash, if_neg hplain]

theorem readFrom_backslash (rest : List Char) :
    readFrom false ('\\' :: rest) = readFrom true rest := by
  rw [readFrom, if_neg (by decide), if_pos rfl]

theorem readFrom_escaped {c : Char} (hc : c ∈ escapable) (hline : c ≠ '\n') (rest : List Char) :
    readFrom true (c :: rest) = push [c] (readFrom false rest) := by
  rw [readFrom, if_neg hline, if_pos hc]

theorem readFrom_kept {c : Char} (hc : c ∉ escapable) (rest : List Char) :
    readFrom true (c :: rest) = push ['\\', c] (readFrom false rest) := by
  have hline : c ≠ '\n' := fun h => hc (h ▸ by decide)
  rw [readFrom, if_neg hline, if_neg hc]

/-! ### Assignments -/

/-- A character of the name of a variable; digits are not needed here. -/
def isNameChar (c : Char) : Bool := c.isAlpha || c == '_'

/-- Reads an assignment that stands on a line of its own and gives a variable a double-quoted word
without expansions: the name, the value, and the lines after it. -/
def readAssignment? (text : List Char) : Option ((String × String) × List Char) :=
  match text.takeWhile isNameChar, text.dropWhile isNameChar with
  | c :: name, '=' :: '"' :: rest =>
    match readQuoted? rest with
    | some (value, '\n' :: rest) => some ((String.ofList (c :: name), String.ofList value), rest)
    | _ => none
  | _, _ => none

/-- Reads a number of such assignments, one after the other. -/
def readAssignments : (count : Nat) → List Char → Option (List (String × String) × List Char)
  | 0, text => some ([], text)
  | count + 1, text =>
    match readAssignment? text with
    | none => none
    | some (assignment, rest) =>
      (readAssignments count rest).map fun read => (assignment :: read.1, read.2)

/-- Passes over the line that a text starts with if it is a comment. -/
def passComment : List Char → List Char
  | '#' :: rest => (rest.dropWhile (· != '\n')).tail
  | text => text

theorem passComment_line {comment : List Char} (hline : '\n' ∉ comment) (rest : List Char) :
    passComment ('#' :: (comment ++ '\n' :: rest)) = rest := by
  have hpassed : ∀ c ∈ comment, (c != '\n') = true := fun c hc =>
    bne_iff_ne.mpr fun h => hline (h ▸ hc)
  rw [passComment, List.dropWhile_append_of_pos hpassed, List.dropWhile_cons_of_neg (by simp),
    List.tail_cons]

/-! ### Texts that mean themselves -/

theorem infix_cons_of_ne {c e : Char} (h : c ≠ '\\') (text : List Char) :
    ['\\', e] <:+: c :: text ↔ ['\\', e] <:+: text := by
  rw [List.infix_cons_iff, List.cons_prefix_cons]
  simp [Ne.symm h]

theorem literal_nil : Literal [] := by decide

theorem literal_cons_iff {c : Char} (h : c ≠ '\\') {text : List Char} :
    Literal (c :: text) ↔ c ∉ special ∧ Literal text := by
  unfold Literal
  simp only [List.cons_append, infix_cons_of_ne h, List.forall_mem_cons, and_assoc]

theorem infix_backslash_cons {c e : Char} (text : List Char) :
    ['\\', e] <:+: '\\' :: c :: text ↔ e = c ∨ ['\\', e] <:+: c :: text := by
  rw [List.infix_cons_iff, List.cons_prefix_cons, List.cons_prefix_cons]
  simp

theorem not_literal_backslash : ¬ Literal ['\\'] := by decide

theorem literal_backslash_cons_iff {c : Char} {text : List Char} :
    Literal ('\\' :: c :: text) ↔ c ∉ escapable ∧ Literal text := by
  constructor
  · rintro ⟨hplain, hfree⟩
    have hc : c ∉ escapable := fun hc => hfree c hc ((infix_backslash_cons _).mpr (.inl rfl))
    refine ⟨hc, fun e he => hplain e (by simp [he]), fun e he hin => hfree e he ?_⟩
    exact (infix_backslash_cons _).mpr (.inr (List.infix_cons hin))
  · rintro ⟨hc, hplain, hfree⟩
    have hbackslash : c ≠ '\\' := fun h => hc (h ▸ by decide)
    refine ⟨?_, fun e he hin => ?_⟩
    · rw [List.forall_mem_cons, List.forall_mem_cons]
      exact ⟨by decide, fun h => hc (List.mem_append_left _ h), hplain⟩
    · rcases (infix_backslash_cons _).mp hin with rfl | hin
      · exact hc he
      · exact hfree e he ((infix_cons_of_ne hbackslash _).mp hin)

theorem literal_of_forall : ∀ {text : List Char},
    (∀ c ∈ text, c ≠ '\\' ∧ c ∉ special) → Literal text
  | [], _ => literal_nil
  | c :: text, h => by
      obtain ⟨⟨hbackslash, hplain⟩, htext⟩ := List.forall_mem_cons.mp h
      exact (literal_cons_iff hbackslash).mpr ⟨hplain, literal_of_forall htext⟩

theorem literal_toString (n : Nat) : Literal (toString n).toList := by
  refine literal_of_forall fun c hc => ?_
  have hdigit : c.isDigit = true := by
    rw [Nat.toString_eq_repr, Nat.toList_repr] at hc
    exact Nat.isDigit_of_mem_toDigits (by decide) (by decide) hc
  refine ⟨?_, fun hspecial => ?_⟩
  · rintro rfl
    exact absurd hdigit (by decide)
  · have hnone : special.all (!·.isDigit) = true := by decide
    simpa [hdigit] using List.all_eq_true.mp hnone c hspecial

/-! ### Reading back -/

/-- What one character does that stands for itself or ends the word. -/
theorem cases_of_readFrom_false {c : Char} {text value rest : List Char}
    (h : readFrom false (c :: text) = some (value, rest)) :
    (c = '"' ∧ value = [] ∧ text = rest) ∨
      (c = '\\' ∧ readFrom true text = some (value, rest)) ∨
      (c ≠ '\\' ∧ c ∉ special ∧ ∃ back, readFrom false text = some (back, rest) ∧
        value = c :: back) := by
  rw [readFrom] at h
  split at h
  case isTrue hquote =>
    obtain ⟨rfl, rfl⟩ := Prod.mk.inj (Option.some.inj h)
    exact .inl ⟨hquote, rfl, rfl⟩
  case isFalse =>
    split at h
    case isTrue hbackslash => exact .inr (.inl ⟨hbackslash, h⟩)
    case isFalse hbackslash =>
      split at h
      case isTrue => cases h
      case isFalse hplain => exact .inr (.inr ⟨hbackslash, hplain, push_eq_some_iff.mp h⟩)

/-- What one character does behind a backslash. -/
theorem cases_of_readFrom_true {c : Char} {text value rest : List Char}
    (h : readFrom true (c :: text) = some (value, rest)) :
    ∃ back, readFrom false text = some (back, rest) ∧
      ((c = '\n' ∧ value = back) ∨ (c ∈ escapable ∧ value = c :: back) ∨
        (c ∉ escapable ∧ value = '\\' :: c :: back)) := by
  rw [readFrom] at h
  split at h
  case isTrue hline => exact ⟨value, h, .inl ⟨hline, rfl⟩⟩
  case isFalse =>
    obtain ⟨back, hback, hvalue⟩ := push_eq_some_iff.mp h
    refine ⟨back, hback, .inr ?_⟩
    by_cases hc : c ∈ escapable
    · exact .inl ⟨hc, by rw [hvalue, if_pos hc]; rfl⟩
    · exact .inr ⟨hc, by rw [hvalue, if_neg hc]; rfl⟩

/-- What stands before a place where reading goes on. -/
def pending (escaped : Bool) : List Char := if escaped then ['\\'] else []

theorem readFrom_of_literal (rest : List Char) : ∀ (text : List Char) (escaped : Bool),
    Literal (pending escaped ++ text) →
      readFrom escaped (text ++ '"' :: rest) = some (pending escaped ++ text, rest)
  | [], false, _ => rfl
  | [], true, h => absurd h not_literal_backslash
  | c :: text, true, h => by
      obtain ⟨hc, htext⟩ := literal_backslash_cons_iff.mp h
      rw [List.cons_append, readFrom_kept hc, readFrom_of_literal rest text false htext]
      rfl
  | c :: text, false, h => by
      by_cases hc : c = '\\'
      · subst hc
        rw [List.cons_append, readFrom_backslash]
        exact readFrom_of_literal rest text true h
      · obtain ⟨hplain, htext⟩ := (literal_cons_iff hc).mp h
        rw [List.cons_append, readFrom_plain hc hplain, readFrom_of_literal rest text false htext]
        rfl

/-- The value that is read of a text never gets ahead of it: it is not the text with something
more in front, unless with a double quote, which can come from behind the end of the text. -/
theorem readFrom_ne_longer (rest rest' : List Char) : ∀ (text : List Char) (escaped : Bool)
    (front : List Char), front ≠ [] → '"' ∉ front →
      readFrom escaped (text ++ '"' :: rest) ≠ some (front ++ (pending escaped ++ text), rest')
  | _, _, [], hne, _, _ => hne rfl
  | [], false, d :: front, _, _, h => by
      obtain ⟨hvalue, _⟩ := Prod.mk.inj (Option.some.inj h)
      cases hvalue
  | [], true, d :: front, _, hfront, h => by
      obtain ⟨back, _, ⟨hline, _⟩ | ⟨_, hvalue⟩ | ⟨hquote, _⟩⟩ := cases_of_readFrom_true h
      · cases hline
      · cases hvalue
        exact hfront List.mem_cons_self
      · exact hquote (by decide)
  | c :: text, false, d :: front, _, hfront, h => by
      obtain ⟨_, hvalue, _⟩ | ⟨rfl, hread⟩ | ⟨_, _, back, hread, hvalue⟩ := cases_of_readFrom_false h
      · cases hvalue
      · exact readFrom_ne_longer rest rest' text true (d :: front) (by simp) hfront hread
      · obtain ⟨rfl, rfl⟩ := List.cons.inj hvalue
        exact readFrom_ne_longer rest rest' text false (front ++ [d]) (by simp) (by simp_all)
          (by simpa [pending] using hread)
  | c :: text, true, d :: front, _, hfront, h => by
      have hback : ∀ value : List Char, value ≠ [] → '"' ∉ value →
          readFrom false (text ++ '"' :: rest) ≠ some (value ++ text, rest') :=
        readFrom_ne_longer rest rest' text false
      obtain ⟨back, hread, ⟨rfl, rfl⟩ | ⟨_, hvalue⟩ | ⟨hc, hvalue⟩⟩ := cases_of_readFrom_true h
      · exact hback (d :: front ++ ['\\', '\n']) (by simp) (by simpa using hfront)
          (by simpa [pending] using hread)
      · obtain ⟨rfl, rfl⟩ := List.cons.inj hvalue
        exact hback (front ++ ['\\', d]) (by simp) (by simp_all) (by simpa [pending] using hread)
      · obtain ⟨rfl, htail⟩ := List.cons.inj hvalue
        cases front with
        | nil => exact hc ((List.cons.inj htail).1 ▸ by decide)
        | cons e front =>
            obtain ⟨rfl, rfl⟩ := List.cons.inj htail
            exact hback (front ++ ['\\', e]) (by simp) (by simp_all)
              (by simpa [pending] using hread)

theorem literal_of_readFrom {rest rest' : List Char} : ∀ (text : List Char) (escaped : Bool),
    readFrom escaped (text ++ '"' :: rest) = some (pending escaped ++ text, rest') →
      Literal (pending escaped ++ text) ∧ rest' = rest
  | [], false, h => by
      obtain ⟨_, rfl⟩ := Prod.mk.inj (Option.some.inj h)
      exact ⟨literal_nil, rfl⟩
  | [], true, h => by
      obtain ⟨back, _, ⟨hline, _⟩ | ⟨_, hvalue⟩ | ⟨hquote, _⟩⟩ := cases_of_readFrom_true h
      · cases hline
      · cases hvalue
      · exact absurd (by decide) hquote
  | c :: text, false, h => by
      obtain ⟨_, hvalue, _⟩ | ⟨rfl, hread⟩ | ⟨hc, hplain, back, hread, hvalue⟩ :=
        cases_of_readFrom_false h
      · cases hvalue
      · exact literal_of_readFrom text true hread
      · obtain rfl : text = back := (List.cons.inj hvalue).2
        obtain ⟨htext, hrest⟩ := literal_of_readFrom text false hread
        exact ⟨(literal_cons_iff hc).mpr ⟨hplain, htext⟩, hrest⟩
  | c :: text, true, h => by
      obtain ⟨back, hread, ⟨rfl, rfl⟩ | ⟨_, hvalue⟩ | ⟨hc, hvalue⟩⟩ := cases_of_readFrom_true h
      · exact absurd hread (readFrom_ne_longer _ _ text false ['\\', '\n'] (by simp) (by decide))
      · obtain ⟨rfl, rfl⟩ := List.cons.inj hvalue
        exact absurd hread (readFrom_ne_longer _ _ text false ['\\'] (by simp) (by decide))
      · obtain rfl : text = back := (List.cons.inj (List.cons.inj hvalue).2).2
        obtain ⟨htext, hrest⟩ := literal_of_readFrom text false hread
        exact ⟨literal_backslash_cons_iff.mpr ⟨hc, htext⟩, hrest⟩

/-- A text is read back from between double quotes exactly if it is literal. -/
theorem readQuoted?_eq_some_iff {text rest rest' : List Char} :
    readQuoted? (text ++ '"' :: rest) = some (text, rest') ↔ Literal text ∧ rest' = rest := by
  constructor
  · exact fun h => literal_of_readFrom text false h
  · rintro ⟨h, rfl⟩
    exact readFrom_of_literal rest' text false h

theorem readAssignment?_eq_some_iff {name value : String} (hne : name.toList ≠ [])
    (hname : ∀ c ∈ name.toList, isNameChar c = true) {rest rest' : List Char} :
    readAssignment? (name.toList ++ '=' :: '"' :: (value.toList ++ '"' :: '\n' :: rest)) =
        some ((name, value), rest') ↔
      Literal value.toList ∧ rest' = rest := by
  have hequals : isNameChar '=' = false := by decide
  have htake : (name.toList ++ '=' :: '"' :: (value.toList ++ '"' :: '\n' :: rest)).takeWhile
      isNameChar = name.toList := by
    rw [List.takeWhile_append_of_pos hname, List.takeWhile_cons_of_neg (by simp [hequals]),
      List.append_nil]
  have hdrop : (name.toList ++ '=' :: '"' :: (value.toList ++ '"' :: '\n' :: rest)).dropWhile
      isNameChar = '=' :: '"' :: (value.toList ++ '"' :: '\n' :: rest) := by
    rw [List.dropWhile_append_of_pos hname, List.dropWhile_cons_of_neg (by simp [hequals])]
  obtain ⟨c, cs, hcons⟩ := List.exists_cons_of_ne_nil hne
  have hsame : String.ofList (c :: cs) = name := by rw [← hcons, String.ofList_toList]
  rw [readAssignment?, htake, hdrop, hcons]
  simp only [hsame]
  constructor
  · intro h
    split at h
    case h_1 read rest hread =>
      cases h
      rw [String.toList_ofList] at hread ⊢
      obtain ⟨hliteral, hrest⟩ := readQuoted?_eq_some_iff.mp hread
      exact ⟨hliteral, (List.cons.inj hrest).2⟩
    case h_2 => cases h
  · rintro ⟨hliteral, rfl⟩
    rw [readQuoted?_eq_some_iff.mpr ⟨hliteral, rfl⟩]
    simp only [String.ofList_toList]

theorem readAssignments_succ_eq_some_iff {count : Nat} {text rest : List Char}
    {first : String × String} {more : List (String × String)} :
    readAssignments (count + 1) text = some (first :: more, rest) ↔
      ∃ next, readAssignment? text = some (first, next) ∧
        readAssignments count next = some (more, rest) := by
  rw [readAssignments]
  cases readAssignment? text with
  | none => simp
  | some read =>
      obtain ⟨assignment, next⟩ := read
      simp only [Option.map_eq_some_iff]
      constructor
      · rintro ⟨⟨assignments, rest'⟩, hmore, h⟩
        cases h
        exact ⟨next, rfl, hmore⟩
      · rintro ⟨next', hfirst, hmore⟩
        cases hfirst
        exact ⟨_, hmore, rfl⟩

end PackagePlan.Shell
