import Mathlib.Data.List.DropRight
import Manuscript.Proofs.Markdown.Fault
import Manuscript.Proofs.Markdown.Fence
import Manuscript.Proofs.Text.Carried

/-!
# Tidy output is tidy

Generic output is tidied in three steps, each of them taken once: newlines are unified, long runs of
them collapsed, and the end is trimmed. No step undoes what an earlier one did, so that nothing is
left to be tidied:

* `IsTidy`: the normal form, said without the steps;
* `isTidy_tidyChars`, `tidyChars_eq_self_iff`: it is reached, and only such a text is left as it is;
* `visible_tidyChars`: the characters that can be seen are the same as before;
* `filledLines_append_break`: the lines that are not empty, cut at line breaks of any kind;
* `filledLines_tidyChars`: each of them stays as it is, up to the white space at the very end;
* `render_is_tidy`: so it is with every document that is rendered.
-/

namespace Manuscript.Markdown

open Text

/-- Nothing is left to be tidied. -/
structure IsTidy (collapse : Bool) (cs : List Char) : Prop where
  noReturn : '\r' ∉ cs
  ends : ∀ c, cs.getLast? = some c → isBlank c = false
  runs : collapse = true → ¬ ['\n', '\n', '\n'] <:+: cs

/-- The characters that are no white space. -/
def visible (cs : List Char) : List Char := cs.filter fun c => !isBlank c

/-- A character that ends a line. -/
def isBreak (c : Char) : Bool := c == '\n' || c == '\r'

/-- The lines that are not empty, whatever ends them. -/
def filledLines (cs : List Char) : List (List Char) :=
  (cs.splitOnP isBreak).filter fun line => !line.isEmpty

variable {collapse : Bool} {cs : List Char}

/-! ## The normal form is reached -/

theorem return_not_mem_unifyNewlines (cs : List Char) : '\r' ∉ unifyNewlines cs := by
  fun_induction unifyNewlines cs with
  | case1 => simp
  | case2 cs ih => simpa using ih
  | case3 cs _ ih => simpa using ih
  | case4 c cs _ other ih =>
    intro among
    rcases List.mem_cons.1 among with rfl | later
    · exact other rfl
    · exact ih later

theorem collapseNewlines_sublist (seen : Nat) (cs : List Char) :
    (collapseNewlines seen cs).Sublist cs := by
  fun_induction collapseNewlines seen cs with
  | case1 => exact .slnil
  | case2 seen cs _ ih => exact ih.cons_cons '\n'
  | case3 seen cs _ ih => exact ih.cons '\n'
  | case4 seen c cs _ ih => exact ih.cons_cons c

/-- The run that is under way is put before the text, so that the count of its newlines tells how
many may still follow. -/
theorem collapseNewlines_no_run {seen : Nat} (few : seen ≤ 2) (cs : List Char) :
    ¬ List.replicate 3 '\n' <:+: List.replicate seen '\n' ++ collapseNewlines seen cs := by
  fun_induction collapseNewlines seen cs with
  | case1 seen =>
    rw [List.append_nil, replicate_infix_replicate_iff]
    omega
  | case2 seen cs more ih =>
    rw [replicate_append_cons]
    exact ih more
  | case3 seen cs _ ih => exact ih few
  | case4 seen c cs other ih =>
    have rest := ih (Nat.zero_le 2)
    rw [List.replicate_zero, List.nil_append] at rest
    rw [replicate_infix_append_cons_iff other]
    rintro (long | later)
    · omega
    · exact rest later

theorem isPrefix_trimEnd (cs : List Char) : trimEnd cs <+: cs := List.rdropWhile_prefix isBlank cs

theorem trimEnd_ends {c : Char} (last : (trimEnd cs).getLast? = some c) : isBlank c = false := by
  have some : trimEnd cs ≠ [] := by
    intro none
    simp [none] at last
  obtain rfl : (trimEnd cs).getLast some = c := by
    simpa [List.getLast?_eq_some_getLast some] using last
  exact Bool.eq_false_iff.2 (List.rdropWhile_last_not isBlank cs some)

/-- The text before its end is trimmed. -/
def untrimmed (collapse : Bool) (cs : List Char) : List Char :=
  if collapse then collapseNewlines 0 (unifyNewlines cs) else unifyNewlines cs

theorem tidyChars_eq (collapse : Bool) (cs : List Char) :
    tidyChars collapse cs = trimEnd (untrimmed collapse cs) := rfl

theorem untrimmed_sublist (collapse : Bool) (cs : List Char) :
    (untrimmed collapse cs).Sublist (unifyNewlines cs) := by
  cases collapse with
  | true => exact collapseNewlines_sublist 0 _
  | false => exact .refl _

theorem isTidy_tidyChars (collapse : Bool) (cs : List Char) :
    IsTidy collapse (tidyChars collapse cs) where
  noReturn among := by
    have before := (isPrefix_trimEnd (untrimmed collapse cs)).subset among
    exact return_not_mem_unifyNewlines cs ((untrimmed_sublist collapse cs).subset before)
  ends _ last := trimEnd_ends last
  runs on run := by
    subst on
    have before := run.trans (isPrefix_trimEnd (untrimmed true cs)).isInfix
    exact collapseNewlines_no_run (Nat.zero_le 2) (unifyNewlines cs) before

/-! ## The normal form is kept -/

theorem unifyNewlines_of_not_mem (free : '\r' ∉ cs) : unifyNewlines cs = cs := by
  fun_induction unifyNewlines cs with
  | case1 => rfl
  | case2 cs _ => simp at free
  | case3 cs _ _ => simp at free
  | case4 c cs _ _ ih => rw [ih fun among => free (List.mem_cons_of_mem c among)]

theorem collapseNewlines_of_no_run {seen : Nat} (few : seen ≤ 2)
    (free : ¬ List.replicate 3 '\n' <:+: List.replicate seen '\n' ++ cs) :
    collapseNewlines seen cs = cs := by
  fun_induction collapseNewlines seen cs with
  | case1 => rfl
  | case2 seen cs more ih =>
    rw [replicate_append_cons] at free
    rw [ih more free]
  | case3 seen cs enough _ =>
    obtain rfl : seen = 2 := by omega
    exact absurd ⟨[], cs, rfl⟩ free
  | case4 seen c cs other ih =>
    rw [ih (Nat.zero_le 2)]
    intro later
    exact free ((replicate_infix_append_cons_iff other cs).2 (.inr later))

theorem trimEnd_of_ends (ends : ∀ c, cs.getLast? = some c → isBlank c = false) :
    trimEnd cs = cs := by
  apply List.rdropWhile_eq_self_iff.2
  intro some
  rw [ends _ (List.getLast?_eq_some_getLast some)]
  exact Bool.false_ne_true

theorem IsTidy.tidyChars_eq_self (h : IsTidy collapse cs) : tidyChars collapse cs = cs := by
  have unified := unifyNewlines_of_not_mem h.noReturn
  have whole : untrimmed collapse cs = cs := by
    cases collapse with
    | true =>
      rw [untrimmed, if_pos rfl, unified]
      exact collapseNewlines_of_no_run (Nat.zero_le 2) (h.runs rfl)
    | false => exact unified
  rw [tidyChars_eq, whole, trimEnd_of_ends h.ends]

/-- The texts that are left as they are, are those in normal form. -/
theorem tidyChars_eq_self_iff : tidyChars collapse cs = cs ↔ IsTidy collapse cs := by
  constructor
  · intro same
    rw [← same]
    exact isTidy_tidyChars collapse cs
  · exact IsTidy.tidyChars_eq_self

/-! ## What can be seen -/

theorem visible_unifyNewlines (cs : List Char) : visible (unifyNewlines cs) = visible cs := by
  have newline : isBlank '\n' = true := by decide
  have return_ : isBlank '\r' = true := by decide
  fun_induction unifyNewlines cs with
  | case1 => rfl
  | case2 cs ih => simpa [visible, newline, return_] using ih
  | case3 cs _ ih => simpa [visible, newline, return_] using ih
  | case4 c cs _ _ ih =>
    simp only [visible] at ih ⊢
    rw [List.filter_cons, List.filter_cons, ih]

theorem visible_collapseNewlines (seen : Nat) (cs : List Char) :
    visible (collapseNewlines seen cs) = visible cs := by
  have newline : isBlank '\n' = true := by decide
  fun_induction collapseNewlines seen cs with
  | case1 => rfl
  | case2 seen cs _ ih => simpa [visible, newline] using ih
  | case3 seen cs _ ih => simpa [visible, newline] using ih
  | case4 seen c cs _ ih =>
    simp only [visible] at ih ⊢
    rw [List.filter_cons, List.filter_cons, ih]

theorem visible_trimEnd (cs : List Char) : visible (trimEnd cs) = visible cs := by
  obtain ⟨tail, split, blank⟩ := exists_eq_trimEnd_append cs
  have nothing : tail.filter (fun c => !isBlank c) = [] := by
    apply List.filter_eq_nil_iff.2
    intro c hc
    simp [blank c hc]
  calc visible (trimEnd cs)
      = visible (trimEnd cs ++ tail) := by
        rw [visible, visible, List.filter_append, nothing, List.append_nil]
    _ = visible cs := by rw [← split]

theorem visible_tidyChars (collapse : Bool) (cs : List Char) :
    visible (tidyChars collapse cs) = visible cs := by
  rw [tidyChars_eq, visible_trimEnd]
  cases collapse with
  | true => exact (visible_collapseNewlines 0 _).trans (visible_unifyNewlines cs)
  | false => exact visible_unifyNewlines cs

/-! ## Lines that are not empty -/

/-- A text falls apart at every line break. -/
theorem filledLines_append_break {c : Char} (ends : isBreak c = true) (front rest : List Char) :
    filledLines (front ++ c :: rest) = filledLines front ++ filledLines rest := by
  rw [filledLines, List.splitOnP_append_cons front rest ends, List.filter_append]
  rfl

theorem filledLines_break {c : Char} (ends : isBreak c = true) (rest : List Char) :
    filledLines (c :: rest) = filledLines rest := filledLines_append_break ends [] rest

/-- What stands before the text is free, so that a line may begin there. -/
theorem filledLines_unifyNewlines (front cs : List Char) :
    filledLines (front ++ unifyNewlines cs) = filledLines (front ++ cs) := by
  fun_induction unifyNewlines cs generalizing front with
  | case1 => rfl
  | case2 cs ih =>
    rw [filledLines_append_break rfl, filledLines_append_break rfl, filledLines_break rfl]
    exact congrArg (filledLines front ++ ·) (ih [])
  | case3 cs _ ih =>
    rw [filledLines_append_break rfl, filledLines_append_break rfl]
    exact congrArg (filledLines front ++ ·) (ih [])
  | case4 c cs _ _ ih =>
    have rest := ih (front ++ [c])
    rwa [List.append_assoc, List.append_assoc] at rest

/-- A newline is only left out behind another one, where no line can begin. -/
theorem filledLines_collapseNewlines (seen : Nat) (front cs : List Char)
    (behind : seen ≠ 0 → front = []) :
    filledLines (front ++ collapseNewlines seen cs) = filledLines (front ++ cs) := by
  fun_induction collapseNewlines seen cs generalizing front with
  | case1 => rfl
  | case2 seen cs _ ih =>
    rw [filledLines_append_break rfl, filledLines_append_break rfl]
    exact congrArg (filledLines front ++ ·) (ih [] fun _ => rfl)
  | case3 seen cs enough ih =>
    obtain rfl := behind (by omega)
    rw [List.nil_append, List.nil_append, filledLines_break rfl]
    exact ih [] fun _ => rfl
  | case4 seen c cs _ ih =>
    have rest := ih (front ++ [c]) (absurd rfl)
    rwa [List.append_assoc, List.append_assoc] at rest

theorem filledLines_untrimmed (collapse : Bool) (cs : List Char) :
    filledLines (untrimmed collapse cs) = filledLines cs := by
  have unified := filledLines_unifyNewlines [] cs
  cases collapse with
  | true => exact (filledLines_collapseNewlines 0 [] _ (absurd rfl)).trans unified
  | false => exact unified

theorem filledLines_tidyChars (collapse : Bool) (cs : List Char) :
    ∃ tail, (∀ c ∈ tail, isBlank c = true) ∧
      filledLines (tidyChars collapse cs ++ tail) = filledLines cs := by
  obtain ⟨tail, split, blank⟩ := exists_eq_trimEnd_append (untrimmed collapse cs)
  refine ⟨tail, blank, ?_⟩
  rw [tidyChars_eq, ← split, filledLines_untrimmed]

/-! ## Documents -/

/-- The second text is the first one with nothing changed but its white space, and nothing in it is
left to be tidied. -/
structure Tidied (o : MarkdownOptions) (raw s : String) : Prop where
  noReturn : '\r' ∉ s.toList
  ends : ∀ c, s.toList.getLast? = some c → isBlank c = false
  runs : o.collapseBlankLines = true → ¬ ['\n', '\n', '\n'] <:+: s.toList
  settled : tidy o s = s
  seen : visible s.toList = visible raw.toList
  /-- Lines are neither joined nor cut, and keep the white space that they hold; only the last one
  may lose some at its end. -/
  lines : ∃ tail, (∀ c ∈ tail, isBlank c = true) ∧
    filledLines (s.toList ++ tail) = filledLines raw.toList

theorem toList_tidy (o : MarkdownOptions) (s : String) :
    (tidy o s).toList = tidyChars o.collapseBlankLines s.toList := String.toList_ofList

theorem tidied_tidy (o : MarkdownOptions) (raw : String) : Tidied o raw (tidy o raw) := by
  have normal : IsTidy o.collapseBlankLines (tidy o raw).toList := by
    rw [toList_tidy]
    exact isTidy_tidyChars _ _
  constructor
  case noReturn => exact normal.noReturn
  case ends => exact normal.ends
  case runs => exact normal.runs
  case settled =>
    apply String.toList_inj.1
    rw [toList_tidy]
    exact normal.tidyChars_eq_self
  case seen =>
    rw [toList_tidy]
    exact visible_tidyChars _ _
  case lines =>
    rw [toList_tidy]
    exact filledLines_tidyChars _ _

/-- **Generic output is tidy, and differs from what was written in white space alone.** -/
theorem render_is_tidy {o : MarkdownOptions} {root : Node} {s : String}
    (rendered : (render o root).result = .ok s) :
    ∃ raw, (transcode o (Context.of root) root).result = .ok raw ∧ Tidied o raw s := by
  rw [render_result] at rendered
  cases written : (transcode o (Context.of root) root).result with
  | error e =>
    rw [written] at rendered
    cases rendered
  | ok raw =>
    rw [written] at rendered
    obtain rfl := Except.ok.inj rendered
    exact ⟨raw, rfl, tidied_tidy o raw⟩

/-- Two paragraphs with line breaks of every kind at their ends. -/
def draft : Node :=
  ⟨0, .document
    [⟨1, .paragraph [⟨2, .text "one \r\r\n\n"⟩] []⟩,
      ⟨3, .paragraph [⟨4, .text "\rtwo \t\n\r"⟩] []⟩]⟩

theorem draft_is_tidy :
    (render .standard draft).result = .ok "one \n\ntwo" ∧
      ∃ raw, (transcode .standard (Context.of draft) draft).result = .ok raw ∧
        Tidied .standard raw "one \n\ntwo" := by
  have tidied : tidy .standard "one \r\r\n\n\n\n\rtwo \t\n\r" = "one \n\ntwo" := by decide
  have rendered : (render .standard draft).result = .ok "one \n\ntwo" := by
    have transcoded : (transcode .standard (Context.of draft) draft).result =
        .ok "one \r\r\n\n\n\n\rtwo \t\n\r" := by
      have first : escape "one \r\r\n\n" = "one \r\r\n\n" := by decide
      have second : escape "\rtwo \t\n\r" = "\rtwo \t\n\r" := by decide
      simp [transcode, Node.fold_eq, draft, Node.children, Body.children, Node.body, convert,
        MarkdownOptions.standard, first, second, joinBlocks, joinNonempty]
      rfl
    rw [render_result, transcoded]
    exact congrArg Except.ok tidied
  exact ⟨rendered, render_is_tidy rendered⟩

end Manuscript.Markdown
