import Mathlib.Data.List.Basic
import Manuscript.Proofs.Text.Hanging
import Manuscript.Text.Indentation

/-!
# Lines of texts without indentation

Texts are changed line by line, and their lines can be told again afterwards:

* `ofChars_onLines`: the lines of a changed text are the changed lines;
* `unprefixed_prefixLines`: a mark before every line can be taken away again;
* `ofChars_removeIndentation`: the lines of a text whose indentation was removed;
* `endLine_eq`, `mem_endedLines_iff`: the lines of a text that ends its last one.
-/

namespace Manuscript.Text

variable {line : List Char}

/-- Lines that are changed without a newline are told again in the changed text. -/
theorem ofChars_onLines {f : Lines → Lines} {s : String}
    (whole : ∀ line ∈ (f (.ofChars s.toList)).toList, '\n' ∉ line) :
    Lines.ofChars (onLines f s).toList = f (.ofChars s.toList) := by
  rw [onLines, String.toList_ofList, Lines.ofChars_toChars whole]

theorem Lines.toList_map (f : List Char → List Char) (lines : Lines) :
    (lines.map f).toList = lines.toList.map f := rfl

theorem Lines.map_map (f g : List Char → List Char) (lines : Lines) :
    (lines.map f).map g = lines.map (g ∘ f) := by
  simp only [map, List.map_map, Function.comp_apply]

theorem Lines.toList_injective : Function.Injective Lines.toList := by
  rintro ⟨first, rest⟩ ⟨first', rest'⟩ same
  obtain ⟨rfl, rfl⟩ := List.cons.inj same
  rfl

/-- A text is told by its lines. -/
theorem eq_of_lines_eq {s t : String}
    (same : (Lines.ofChars s.toList).toList = (Lines.ofChars t.toList).toList) : s = t := by
  have lines : Lines.ofChars s.toList = Lines.ofChars t.toList := Lines.toList_injective same
  rw [← String.toList_inj, ← Lines.toChars_ofChars s.toList, lines, Lines.toChars_ofChars]

theorem Lines.map_id (lines : Lines) : lines.map id = lines := by
  simp only [map, List.map_id, id]

/-- A change of the lines of a text that leaves them whole. -/
theorem newline_not_mem_map {f : List Char → List Char}
    (keeps : ∀ line, '\n' ∉ line → '\n' ∉ f line) {lines : Lines}
    (whole : ∀ line ∈ lines.toList, '\n' ∉ line) :
    ∀ line ∈ (lines.map f).toList, '\n' ∉ line := by
  rw [Lines.toList_map]
  intro line hl
  obtain ⟨other, ho, rfl⟩ := List.mem_map.1 hl
  exact keeps other (whole other ho)

theorem newline_not_mem_ofChars (cs : List Char) :
    ∀ line ∈ (Lines.ofChars cs).toList, '\n' ∉ line :=
  fun _ => Lines.newline_not_mem_of_mem

section
variable {mark : String} (whole : '\n' ∉ mark.toList) (s : String)
include whole

theorem ofChars_prefixLines : Lines.ofChars (prefixLines mark s).toList =
    (Lines.ofChars s.toList).map (mark.toList ++ ·) := by
  refine ofChars_onLines (newline_not_mem_map (fun line hl => ?_) (newline_not_mem_ofChars _))
  exact List.not_mem_append whole hl

theorem prefix_of_mem_prefixLines :
    ∀ line ∈ (Lines.ofChars (prefixLines mark s).toList).toList, mark.toList <+: line := by
  rw [ofChars_prefixLines whole, Lines.toList_map]
  intro line hl
  obtain ⟨other, -, rfl⟩ := List.mem_map.1 hl
  exact List.prefix_append _ _

/-- A mark that was put before every line is taken away with as many characters. -/
theorem unprefixed_prefixLines :
    onLines (.map (List.drop mark.toList.length)) (prefixLines mark s) = s := by
  have restored : List.drop mark.toList.length ∘ (mark.toList ++ ·) = id :=
    funext fun _ => List.drop_left
  rw [onLines, ofChars_prefixLines whole, Lines.map_map, restored, Lines.map_id,
    Lines.toChars_ofChars, String.ofList_toList]

end

/-! ## Removed indentation -/

theorem newline_not_mem_expandTabs (column : Nat) (whole : '\n' ∉ line) :
    '\n' ∉ expandTabs column line := by
  induction line generalizing column with
  | nil => exact whole
  | cons c cs ih =>
    have rest : '\n' ∉ cs := fun among => whole (List.mem_cons_of_mem c among)
    rw [expandTabs]
    split
    · simpa using ih (column + 1) rest
    split
    · intro among
      rcases List.mem_append.1 among with spaces | among
      · exact absurd (List.eq_of_mem_replicate spaces) (by decide)
      · exact ih _ rest among
    · exact whole

/-- The lines of a text without the indentation they share. -/
def dedented (s : String) : Lines := ((Lines.ofChars s.toList).map (expandTabs 0)).dedent

theorem newline_not_mem_dedented (s : String) : ∀ line ∈ (dedented s).toList, '\n' ∉ line := by
  unfold dedented Lines.dedent
  refine newline_not_mem_map (fun line hl => ?_) (newline_not_mem_map
    (fun line hl => newline_not_mem_expandTabs 0 hl) (newline_not_mem_ofChars _))
  split
  · exact List.not_mem_nil
  · exact fun among => hl (List.mem_of_mem_drop among)

theorem ofChars_removeIndentation (s : String) :
    Lines.ofChars (removeIndentation s).toList = dedented s :=
  ofChars_onLines (newline_not_mem_dedented s)

/-! ## Ended lines -/

/-- The lines of a text that has its last line ended: an empty line at the end is none. -/
def endedLines (s : String) : List (List Char) :=
  let lines := (Lines.ofChars s.toList).toList
  if lines.getLast? = some [] then lines.dropLast else lines

theorem exists_lines (cs : List Char) :
    ∃ before last, (Lines.ofChars cs).toList = before ++ [last] ∧ '\n' ∉ last := by
  obtain ⟨before, last, split⟩ : ∃ before last, (Lines.ofChars cs).toList = before ++ [last] :=
    ⟨_, _, (List.dropLast_append_getLast (List.cons_ne_nil _ _)).symm⟩
  exact ⟨before, last, split, newline_not_mem_ofChars cs last (by simp [split])⟩

theorem endedLines_of_lines {s : String} {before : List (List Char)} {last : List Char}
    (h : (Lines.ofChars s.toList).toList = before ++ [last]) :
    endedLines s = if last = [] then before else before ++ [last] := by
  simp only [endedLines, h, List.getLast?_concat, List.dropLast_concat, Option.some.injEq]

theorem mem_ofChars_of_mem_endedLines {s : String} (h : line ∈ endedLines s) :
    line ∈ (Lines.ofChars s.toList).toList := by
  obtain ⟨before, last, split, -⟩ := exists_lines s.toList
  rw [endedLines_of_lines split] at h
  rw [split, List.mem_append]
  split at h
  next => exact .inl h
  next => exact List.mem_append.1 h

theorem newline_not_mem_endedLines (s : String) : ∀ line ∈ endedLines s, '\n' ∉ line :=
  fun _ hl => Lines.newline_not_mem_of_mem (mem_ofChars_of_mem_endedLines hl)

theorem mem_endedLines_iff {s : String} (visible : line ≠ []) :
    line ∈ endedLines s ↔ line ∈ (Lines.ofChars s.toList).toList := by
  obtain ⟨before, last, split, -⟩ := exists_lines s.toList
  rw [endedLines_of_lines split, split]
  by_cases blank : last = []
  · simp [blank, visible]
  · rw [if_neg blank]

/-- Lines that are ended, one after the other. -/
def joinEnded (lines : List (List Char)) : List Char := lines.flatMap (· ++ ['\n'])

theorem ofChars_joinEnded {lines : List (List Char)} (whole : ∀ line ∈ lines, '\n' ∉ line)
    (cs : List Char) :
    (Lines.ofChars (joinEnded lines ++ cs)).toList = lines ++ (Lines.ofChars cs).toList := by
  induction lines with
  | nil => rfl
  | cons line lines ih =>
    have first : '\n' ∉ line := whole line List.mem_cons_self
    have rest := ih fun other ho => whole other (List.mem_cons_of_mem line ho)
    have split : joinEnded (line :: lines) ++ cs = line ++ '\n' :: (joinEnded lines ++ cs) := by
      simp [joinEnded]
    rw [split, Lines.ofChars_append_newline first, Lines.toList, rest, List.cons_append]

/-- A text is made of its lines, of which all but the last one are ended. -/
theorem eq_joinEnded_append {cs last : List Char} {before : List (List Char)}
    (h : (Lines.ofChars cs).toList = before ++ [last]) : cs = joinEnded before ++ last := by
  have whole : ∀ line ∈ before ++ [last], '\n' ∉ line := h ▸ newline_not_mem_ofChars cs
  have earlier : ∀ line ∈ before, '\n' ∉ line := fun line hl => whole line (by simp [hl])
  have ending : Lines.ofChars last = ⟨last, []⟩ := Lines.ofChars_of_not_mem (whole last (by simp))
  have same : (Lines.ofChars (joinEnded before ++ last)).toList = (Lines.ofChars cs).toList := by
    rw [ofChars_joinEnded earlier, ending, h]
    rfl
  rw [← Lines.toChars_ofChars cs, ← Lines.toList_injective same, Lines.toChars_ofChars]

theorem joinEnded_concat (lines : List (List Char)) (line : List Char) :
    joinEnded (lines ++ [line]) = joinEnded lines ++ line ++ ['\n'] := by
  simp [joinEnded]

theorem endLine_eq (s : String) : (endLine s).toList = joinEnded (endedLines s) := by
  obtain ⟨before, last, split, whole⟩ := exists_lines s.toList
  have text := eq_joinEnded_append split
  rw [endedLines_of_lines split]
  by_cases blank : last = []
  · have ended : (s.isEmpty || s.toList.getLast? = some '\n') = true := by
      rw [text, blank, List.append_nil]
      rcases List.eq_nil_or_concat before with rfl | ⟨earlier, line, rfl⟩
      · have empty : s.toList = [] := by simp [text, blank, joinEnded]
        simp [String.toList_eq_nil_iff.1 empty]
      · simp [joinEnded_concat]
    rw [endLine, if_pos ended, if_pos blank, text, blank, List.append_nil]
  · have unended : ¬ (s.isEmpty || s.toList.getLast? = some '\n') = true := by
      have visible : s.isEmpty = false := by
        rw [Bool.eq_false_iff, Ne, String.isEmpty_iff, ← String.toList_eq_nil_iff, text]
        simp [blank]
      rw [visible, text, List.getLast?_append_of_ne_nil _ blank]
      simpa using fun ends => whole (List.mem_of_getLast? ends)
    rw [endLine, if_neg unended, if_neg blank, joinEnded_concat, ← text, String.toList_append]
    rfl

end Manuscript.Text
