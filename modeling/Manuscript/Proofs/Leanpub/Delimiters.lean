import Manuscript.Proofs.Leanpub.Fencing

/-!
# Delimiters of formulas

Display mathematics stands between brackets, each behind a backslash, and a formula in a line sheds
them: first the opening ones, then the closing ones of what is left. No two delimiters overlap, yet
this is not the same as shedding all of them at once:

* `without`: a text without exactly the characters that belong to a delimiter of it;
* `delimited_induction`: a text read delimiter by delimiter and character by character;
* `removeEscaped_eq`: removing the delimiters of one kind leaves what is without them;
* `stripDelimiters_sublist`: all delimiters are gone once both kinds are removed;
* `stripDelimiters_eq_iff`: nothing else is gone exactly if no closing delimiter is `veiled`, with
  opening ones between its two characters;
* `formulas_are_bare`: what is written for a formula.
-/

namespace Manuscript.Leanpub

/-! ## Texts without delimiters -/

/-- A character belongs to a delimiter, between the given neighbours: it is a backslash before one of
the brackets, or a bracket behind a backslash. -/
def belongs (brackets : List Char) (before : Option Char) (c : Char) (after : Option Char) : Bool :=
  (c == '\\' && after.any brackets.contains) || (brackets.contains c && before == some '\\')

/-- What follows the character `before`, without the characters that belong to a delimiter. -/
def withoutAfter (brackets : List Char) (before : Option Char) : List Char → List Char
  | [] => []
  | c :: cs =>
    if belongs brackets before c cs.head? then withoutAfter brackets (some c) cs
    else c :: withoutAfter brackets (some c) cs

/-- A text without exactly the characters that belong to a delimiter of it. -/
def without (brackets : List Char) (cs : List Char) : List Char := withoutAfter brackets none cs

/-- The text begins with a delimiter. -/
def Delimited (brackets : List Char) : List Char → Prop
  | c :: d :: _ => c = '\\' ∧ d ∈ brackets
  | _ => False

/-- What holds of nothing, and passes on to a text when a delimiter is put before it, or a character
that is no delimiter with what follows, holds of every text. -/
theorem delimited_induction (brackets : List Char) {motive : List Char → Prop} (nil : motive [])
    (delimiter : ∀ d cs, d ∈ brackets → motive cs → motive ('\\' :: d :: cs))
    (character : ∀ c cs, ¬ Delimited brackets (c :: cs) → motive cs → motive (c :: cs)) :
    ∀ cs, motive cs
  | [] => nil
  | [c] => character c [] id nil
  | c :: d :: cs => by
    by_cases h : c = '\\' ∧ d ∈ brackets
    · obtain ⟨rfl, hd⟩ := h
      exact delimiter d cs hd (delimited_induction brackets nil delimiter character cs)
    · exact character c _ h (delimited_induction brackets nil delimiter character (d :: cs))

section
variable {brackets : List Char}

/-- What stands before a text matters only if it makes a delimiter of the first character. -/
theorem withoutAfter_eq {before : Option Char} {cs : List Char}
    (free : ∀ b ∈ before, ¬ Delimited brackets (b :: cs)) :
    withoutAfter brackets before cs = without brackets cs := by
  cases cs with
  | nil => rfl
  | cons c cs =>
    have same : belongs brackets before c cs.head? = belongs brackets none c cs.head? := by
      cases before with
      | none => rfl
      | some b =>
        have apart : ¬ (b = '\\' ∧ c ∈ brackets) := free b rfl
        by_cases bracket : c ∈ brackets <;> simp_all [belongs]
    rw [without, withoutAfter, withoutAfter, same]

theorem without_delimiter (plain : '\\' ∉ brackets) {d : Char} (hd : d ∈ brackets)
    (cs : List Char) : without brackets ('\\' :: d :: cs) = without brackets cs := by
  have other : d ≠ '\\' := fun same => plain (same ▸ hd)
  have rest : withoutAfter brackets (some d) cs = without brackets cs := by
    apply withoutAfter_eq
    intro b hb
    obtain rfl : d = b := Option.some.inj hb
    cases cs <;> simp [Delimited, other]
  rw [← rest]
  simp [without, withoutAfter, belongs, hd]

theorem without_character {c : Char} {cs : List Char}
    (single : ¬ Delimited brackets (c :: cs)) :
    without brackets (c :: cs) = c :: without brackets cs := by
  have kept : belongs brackets none c cs.head? = false := by
    cases cs with
    | nil => simp [belongs]
    | cons d cs =>
      have apart : ¬ (c = '\\' ∧ d ∈ brackets) := single
      simpa [belongs] using apart
  rw [without, withoutAfter, kept, withoutAfter_eq]
  · rfl
  · intro b hb
    obtain rfl : c = b := Option.some.inj hb
    exact single

end

/-- Removing the delimiters of one kind. -/
theorem removeEscaped_eq {d : Char} (other : d ≠ '\\') (cs : List Char) :
    removeEscaped d cs = without [d] cs := by
  have plain : '\\' ∉ [d] := by simpa using other.symm
  induction cs using delimited_induction [d] with
  | nil => rfl
  | delimiter e cs he ih =>
    obtain rfl : e = d := List.mem_singleton.1 he
    rw [without_delimiter plain he, ← ih]
    simp [removeEscaped]
  | character c cs single ih =>
    rw [without_character single, ← ih]
    cases cs with
    | nil => rfl
    | cons e cs => rw [removeEscaped, if_neg (by simpa [Delimited] using single)]

/-! ## Delimiters of two kinds -/

/-- So many opening delimiters. -/
def openings (count : Nat) : List Char := (List.replicate count ['\\', '[']).flatten

theorem openings_succ (count : Nat) : openings (count + 1) = '\\' :: '[' :: openings count := rfl

/-- A closing delimiter with so many opening ones between its backslash and its bracket. -/
def veiled (count : Nat) : List Char := '\\' :: (openings count ++ [']'])

theorem stripDelimiters_eq (cs : List Char) :
    stripDelimiters cs = without [']'] (without ['['] cs) := by
  rw [stripDelimiters, removeEscaped_eq (by decide), removeEscaped_eq (by decide)]

/-- Without its opening delimiters a text begins with a closing bracket exactly if it begins with
some of them and this bracket. -/
theorem head?_without_iff (cs : List Char) :
    (without ['['] cs).head? = some ']' ↔ ∃ count, openings count ++ [']'] <+: cs := by
  induction cs using delimited_induction ['['] with
  | nil => simp [without, withoutAfter]
  | delimiter d cs hd ih =>
    obtain rfl : d = '[' := List.mem_singleton.1 hd
    rw [without_delimiter (by decide) hd, ih]
    constructor
    · rintro ⟨count, opens⟩
      exact ⟨count + 1, by simpa [openings_succ] using opens⟩
    · rintro ⟨count, opens⟩
      cases count with
      | zero => simp [openings] at opens
      | succ count => exact ⟨count, by simpa [openings_succ] using opens⟩
  | character c cs single ih =>
    rw [without_character single]
    constructor
    · intro head
      obtain rfl : c = ']' := by simpa using head
      exact ⟨0, by simp [openings]⟩
    · rintro ⟨count, opens⟩
      cases count with
      | zero => simpa [openings, eq_comm] using opens
      | succ count =>
        exfalso
        apply single
        rw [openings_succ] at opens
        cases cs with
        | nil => simp at opens
        | cons d cs =>
          obtain ⟨rfl, rfl, -⟩ : '\\' = c ∧ '[' = d ∧ openings count ++ [']'] <+: cs := by
            simpa using opens
          exact ⟨rfl, by decide⟩

theorem stripDelimiters_delimiter {d : Char} (hd : d ∈ ['[', ']']) (cs : List Char) :
    stripDelimiters ('\\' :: d :: cs) = stripDelimiters cs := by
  rw [stripDelimiters_eq, stripDelimiters_eq]
  by_cases opening : d = '['
  · rw [without_delimiter (by decide) (by simp [opening])]
  · obtain rfl : d = ']' := by simpa [opening] using hd
    have kept : without ['['] ('\\' :: ']' :: cs) = '\\' :: ']' :: without ['['] cs := by
      rw [without_character (by simp [Delimited]), without_character]
      cases cs <;> simp [Delimited]
    rw [kept, without_delimiter (by decide) (by decide)]

/-- A character that is no delimiter with what follows is kept, unless it is a backslash that comes to
stand before a closing bracket. -/
theorem stripDelimiters_character {c : Char} {cs : List Char}
    (single : ¬ Delimited ['[', ']'] (c :: cs)) :
    (c = '\\' ∧ (without ['['] cs).head? = some ']' ∧
        stripDelimiters cs = ']' :: stripDelimiters (c :: cs)) ∨
      ¬ (c = '\\' ∧ (without ['['] cs).head? = some ']') ∧
        stripDelimiters (c :: cs) = c :: stripDelimiters cs := by
  have opening : ¬ Delimited ['['] (c :: cs) := by
    cases cs <;> simp_all [Delimited]
  rw [stripDelimiters_eq, stripDelimiters_eq, without_character opening]
  by_cases closes : c = '\\' ∧ (without ['['] cs).head? = some ']'
  · obtain ⟨rfl, head⟩ := closes
    obtain ⟨rest, split⟩ := List.head?_eq_some_iff.1 head
    left
    refine ⟨rfl, head, ?_⟩
    rw [split, without_delimiter (by decide) (by decide), without_character]
    cases rest <;> simp [Delimited]
  · right
    refine ⟨closes, without_character ?_⟩
    cases split : without ['['] cs <;> simp_all [Delimited]

/-- All delimiters are gone. -/
theorem stripDelimiters_sublist (cs : List Char) :
    (stripDelimiters cs).Sublist (without ['[', ']'] cs) := by
  induction cs using delimited_induction ['[', ']'] with
  | nil => exact List.Sublist.refl _
  | delimiter d cs hd ih => rwa [stripDelimiters_delimiter hd, without_delimiter (by decide) hd]
  | character c cs single ih =>
    rw [without_character single]
    rcases stripDelimiters_character single with ⟨-, -, lost⟩ | ⟨-, kept⟩
    · rw [lost] at ih
      exact (List.sublist_of_cons_sublist ih).cons c
    · rw [kept]
      exact ih.cons_cons c

theorem veiled_prefix_iff {count : Nat} {c : Char} {cs : List Char} :
    veiled count <+: c :: cs ↔ c = '\\' ∧ openings count ++ [']'] <+: cs := by
  rw [veiled, List.cons_prefix_cons, eq_comm]

/-- No veiled delimiter begins at the characters of another delimiter. -/
theorem veiled_infix_delimiter_iff {d : Char} (hd : d ∈ ['[', ']']) {count : Nat} {cs : List Char} :
    veiled (count + 1) <:+: '\\' :: d :: cs ↔ veiled (count + 1) <:+: cs := by
  have other : d ≠ '\\' := by
    rintro rfl
    exact absurd hd (by decide)
  rw [List.infix_cons_iff, List.infix_cons_iff, veiled_prefix_iff, veiled_prefix_iff, openings_succ]
  simp [other, other.symm]

theorem exists_veiled_prefix {c : Char} {cs : List Char}
    (single : ¬ Delimited ['[', ']'] (c :: cs)) (backslash : c = '\\')
    (head : (without ['['] cs).head? = some ']') : ∃ count, veiled (count + 1) <+: c :: cs := by
  obtain ⟨count, opens⟩ := (head?_without_iff cs).1 head
  cases count with
  | zero =>
    exfalso
    apply single
    obtain ⟨rest, rfl⟩ := opens
    exact ⟨backslash, by decide⟩
  | succ count => exact ⟨count, veiled_prefix_iff.2 ⟨backslash, opens⟩⟩

/-- Nothing else is gone exactly if no closing delimiter is veiled. -/
theorem stripDelimiters_eq_iff (cs : List Char) :
    stripDelimiters cs = without ['[', ']'] cs ↔ ∀ count, ¬ veiled (count + 1) <:+: cs := by
  induction cs using delimited_induction ['[', ']'] with
  | nil => simp [without, withoutAfter, stripDelimiters, removeEscaped, veiled]
  | delimiter d cs hd ih =>
    rw [stripDelimiters_delimiter hd, without_delimiter (by decide) hd, ih]
    simp only [veiled_infix_delimiter_iff hd]
  | character c cs single ih =>
    rw [without_character single]
    rcases stripDelimiters_character single with ⟨backslash, head, lost⟩ | ⟨apart, kept⟩
    · -- The bracket is lost besides the backslash, so that too little is left.
      have fewer := (stripDelimiters_sublist cs).length_le
      rw [lost, List.length_cons] at fewer
      have shorter : stripDelimiters (c :: cs) ≠ c :: without ['[', ']'] cs := by
        intro same
        have length := congrArg List.length same
        rw [List.length_cons] at length
        omega
      obtain ⟨count, begins⟩ := exists_veiled_prefix single backslash head
      exact iff_of_false shorter fun free => free count begins.isInfix
    · rw [kept, List.cons_inj_right, ih]
      apply forall_congr'
      intro count
      rw [List.infix_cons_iff, not_or, and_iff_right]
      intro begins
      obtain ⟨backslash, opens⟩ := veiled_prefix_iff.1 begins
      exact apart ⟨backslash, (head?_without_iff cs).2 ⟨count + 1, opens⟩⟩

/-! ## Formulas -/

namespace Export

variable {x : Export}

theorem transcode_mathInline (ruled : x.rules = .leanpub) (key : Nat) (formula : String) :
    (x.transcode ⟨key, .mathInline formula⟩).result = .ok (mathInline formula) := by
  obtain ⟨_, written⟩ := x.transcode_childless (n := ⟨key, .mathInline formula⟩) rfl
  rw [written, ruled]
  rfl

/-- **A formula is written without its delimiters, and with everything else exactly if no closing
delimiter is veiled by opening ones.** The opening delimiters go first, and then the closing ones of
what is left. -/
theorem formulas_are_bare (options : LeanpubOptions) (environment : Environment)
    (context : Context) (key : Nat) (formula : String) :
    ∃ bare, (transcode ⟨options, .leanpub, environment, context⟩ ⟨key, .mathInline formula⟩).result
        = .ok ("\x7b$$\x7d" ++ String.ofList bare ++ "\x7b/$$\x7d") ∧
      bare = without [']'] (without ['['] formula.toList) ∧
      bare.Sublist (without ['[', ']'] formula.toList) ∧
      (bare = without ['[', ']'] formula.toList ↔
        ∀ count, ¬ veiled (count + 1) <:+: formula.toList) := by
  refine ⟨stripDelimiters formula.toList, ?_, ?_, ?_, ?_⟩
  · exact transcode_mathInline rfl key formula
  · exact stripDelimiters_eq formula.toList
  · exact stripDelimiters_sublist formula.toList
  · exact stripDelimiters_eq_iff formula.toList

/-- A backslash and a bracket are lost that belong to no delimiter of the formula. -/
theorem bracket_lost :
    ¬ ∀ (options : LeanpubOptions) (environment : Environment) (context : Context) (key : Nat)
      (formula : String),
      (transcode ⟨options, .leanpub, environment, context⟩ ⟨key, .mathInline formula⟩).result =
        .ok ("\x7b$$\x7d" ++ String.ofList (without ['[', ']'] formula.toList) ++
          "\x7b/$$\x7d") := by
  intro claimed
  have left : without ['[', ']'] "\\\\[]".toList = ['\\', ']'] := by decide
  have written := transcode_mathInline
    (x := ⟨.standard, .leanpub, ⟨"/home", "/"⟩, Context.of ⟨0, .document []⟩⟩) rfl 1 "\\\\[]"
  rw [claimed, left] at written
  exact absurd (Except.ok.inj written) (by decide)

end Export

end Manuscript.Leanpub
