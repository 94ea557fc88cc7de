import Mathlib.Data.List.SplitBy
import Manuscript.Markdown.Convert

/-!
# Reading code in a line back

A reader of Markdown takes the backticks at the start of a span for its opening mark and the next
run of exactly as many for the closing one. Code is written between one backtick or two, whatever
runs are in it, so that it does not always come back:

* `pieces`: a text cut into runs of backticks and what stands between them;
* `readSpan`: the code that is read, and what is left after the closing mark;
* `pieces_marked`: the pieces of code between two marks, if no backtick is at its ends;
* `readSpan_marked_iff`: when code is read back from between two marks;
* `code_reads_back_iff`: which code is read back.
-/

namespace Manuscript.Markdown

/-- A text cut wherever a run of backticks begins or ends. -/
def pieces (cs : List Char) : List (List Char) := cs.splitBy fun c d => (c == '`') == (d == '`')

/-- Reads a span of code: a run of backticks, and everything up to the next run that is equally
long. What is left after that run is not read. -/
def readSpan (text : List Char) : Option (List Char × List Char) :=
  match pieces text with
  | [] => none
  | run :: rest =>
    if run.head? = some '`' ∧ run ∈ rest then
      some ((rest.takeWhile (· != run)).flatten, (rest.dropWhile (· != run)).tail.flatten)
    else none

/-- So many backticks. -/
abbrev backticks (count : Nat) : List Char := List.replicate count '`'

/-! ## Pieces -/

theorem flatten_pieces (cs : List Char) : (pieces cs).flatten = cs := List.flatten_splitBy _ cs

theorem nil_not_mem_pieces (cs : List Char) : [] ∉ pieces cs := List.nil_notMem_splitBy _ cs

/-- A piece that begins with a backtick holds nothing else. -/
theorem eq_backticks_of_mem_pieces {cs run : List Char} (hr : run ∈ pieces cs)
    (tick : run.head? = some '`') : run = backticks run.length := by
  have chain := List.isChain_of_mem_splitBy hr
  clear hr
  induction run with
  | nil => rfl
  | cons c run ih =>
    obtain rfl : c = '`' := by simpa using tick
    cases run with
    | nil => rfl
    | cons d run =>
      obtain ⟨same, rest⟩ := List.isChain_cons_cons.1 chain
      exact congrArg ('`' :: ·) (ih (by simpa using same) rest)

/-- Where a text is cut a backtick meets another character. -/
theorem cut_of_pieces {cs : List Char} (front back : List (List Char))
    (split : pieces cs = front ++ back) {c d : Char} (before : front.flatten.getLast? = some c)
    (after : back.flatten.head? = some d) : (c == '`') ≠ (d == '`') := by
  have chain := List.isChain_getLast_head_splitBy (fun c d => (c == '`') == (d == '`')) cs
  change (pieces cs).IsChain _ at chain
  rw [split] at chain
  rcases List.eq_nil_or_concat' front with rfl | ⟨front, p, rfl⟩
  · simp at before
  cases back with
  | nil => simp at after
  | cons q back =>
    obtain ⟨hp, hq, apart⟩ := (List.isChain_append.1 chain).2.2 p (by simp) q (by simp)
    have last : p.getLast hp = c := by
      simpa [List.getLast?_append_of_ne_nil _ hp, List.getLast?_eq_some_getLast hp] using before
    have first : q.head hq = d := by
      simpa [List.head?_append_of_ne_nil _ hq, List.head?_eq_some_head hq] using after
    simpa [last, first] using apart

theorem head?_backticks {count : Nat} (positive : 0 < count) :
    (backticks count).head? = some '`' := by
  simp [List.head?_replicate, Nat.ne_of_gt positive]

theorem getLast?_backticks {count : Nat} (positive : 0 < count) :
    (backticks count).getLast? = some '`' := by
  simp [List.getLast?_replicate, Nat.ne_of_gt positive]

theorem pieces_backticks {count : Nat} (positive : 0 < count) :
    pieces (backticks count) = [backticks count] := by
  apply List.splitBy_of_isChain
  · simpa using Nat.ne_of_gt positive
  · apply List.isChain_replicate_of_rel
    rfl

/-- Code between two marks, if no backtick is at its ends. -/
theorem pieces_marked {count : Nat} (positive : 0 < count) {code : List Char} (visible : code ≠ [])
    (starts : code.head? ≠ some '`') (ends : code.getLast? ≠ some '`') :
    pieces (backticks count ++ (code ++ backticks count)) =
      backticks count :: (pieces code ++ [backticks count]) := by
  have closing : pieces (code ++ backticks count) = pieces code ++ [backticks count] := by
    rw [← pieces_backticks positive]
    apply List.splitBy_append
    intro c hc d hd
    have other : c ≠ '`' := by
      rintro rfl
      exact ends hc
    obtain rfl : '`' = d := Option.some.inj ((head?_backticks positive).symm.trans hd)
    simpa using other
  rw [← closing, ← List.singleton_append, ← pieces_backticks positive]
  apply List.splitBy_append
  intro c hc d hd
  obtain rfl : '`' = c := Option.some.inj ((getLast?_backticks positive).symm.trans hc)
  have other : d ≠ '`' := by
    rintro rfl
    rw [List.head?_append_of_ne_nil _ visible] at hd
    exact starts hd
  simpa using other

/-! ## Spans -/

theorem readSpan_of_pieces {text run : List Char} {inside left : List (List Char)}
    (split : pieces text = run :: (inside ++ run :: left)) (tick : run.head? = some '`')
    (first : run ∉ inside) : readSpan text = some (inside.flatten, left.flatten) := by
  have others : ∀ p ∈ inside, (p != run) = true := by
    intro p hp
    have other : p ≠ run := by
      rintro rfl
      exact first hp
    simpa using other
  simp [readSpan, split, tick, List.takeWhile_append_of_pos others,
    List.dropWhile_append_of_pos others]

theorem pieces_of_readSpan {text code left : List Char} (read : readSpan text = some (code, left)) :
    ∃ run inside rest, pieces text = run :: (inside ++ run :: rest) ∧ run.head? = some '`' ∧
      run ∉ inside ∧ code = inside.flatten ∧ left = rest.flatten := by
  cases split : pieces text with
  | nil => simp [readSpan, split] at read
  | cons run rest =>
    by_cases closed : run.head? = some '`' ∧ run ∈ rest
    · obtain ⟨inside, later, rfl, first⟩ := List.eq_append_cons_of_mem closed.2
      rw [readSpan_of_pieces split closed.1 first] at read
      obtain ⟨rfl, rfl⟩ := Prod.mk.inj (Option.some.inj read)
      exact ⟨run, inside, later, rfl, closed.1, first, rfl, rfl⟩
    · simp [readSpan, split, closed] at read

/-- No backtick is at an end of the code, and no run of backticks in it is as long as the mark. -/
structure Fits (count : Nat) (code : List Char) : Prop where
  starts : code.head? ≠ some '`'
  ends : code.getLast? ≠ some '`'
  free : backticks count ∉ pieces code

section
variable {count : Nat} (positive : 0 < count) {code run : List Char} {inside : List (List Char)}
include positive

/-- Code that is found whole between two marks was written so. -/
theorem fits_of_pieces
    (split : pieces (backticks count ++ (code ++ backticks count)) = run :: (inside ++ [run]))
    (tick : run.head? = some '`') (first : run ∉ inside) (whole : code = inside.flatten) :
    code ≠ [] ∧ Fits count code := by
  -- The marks that are read are as long together as those that were written.
  obtain rfl : run = backticks count := by
    have mark := eq_backticks_of_mem_pieces (split ▸ List.mem_cons_self) tick
    have length := congrArg List.length
      (flatten_pieces (backticks count ++ (code ++ backticks count)))
    simp only [split, List.flatten_cons, List.flatten_append, ← whole, List.flatten_nil,
      List.append_nil, List.length_append, List.length_replicate] at length
    rw [mark]
    congr 1
    omega
  have starts : (code ++ backticks count).head? ≠ some '`' := by
    intro head
    have back : (inside ++ [backticks count]).flatten = code ++ backticks count := by simp [whole]
    have last : [backticks count].flatten.getLast? = some '`' := by
      simpa using getLast?_backticks positive
    exact cut_of_pieces [backticks count] (inside ++ [backticks count]) split last (back ▸ head) rfl
  have ends : (backticks count ++ code).getLast? ≠ some '`' := by
    intro tail
    have front : (backticks count :: inside).flatten = backticks count ++ code := by simp [whole]
    have head : [backticks count].flatten.head? = some '`' := by simpa using head?_backticks positive
    exact cut_of_pieces (backticks count :: inside) [backticks count] split (front ▸ tail) head rfl
  have visible : code ≠ [] := by
    rintro rfl
    exact starts tick
  rw [List.head?_append_of_ne_nil _ visible] at starts
  rw [List.getLast?_append_of_ne_nil _ visible] at ends
  rw [pieces_marked positive visible starts ends] at split
  have same : pieces code = inside := by simpa using split
  exact ⟨visible, starts, ends, same ▸ first⟩

theorem readSpan_marked_iff :
    readSpan (backticks count ++ (code ++ backticks count)) = some (code, []) ↔
      code ≠ [] ∧ Fits count code := by
  constructor
  · intro read
    obtain ⟨run, inside, rest, split, tick, first, whole, none⟩ := pieces_of_readSpan read
    cases rest with
    | nil => exact fits_of_pieces positive split tick first whole
    | cons p rest =>
      have empty : p = [] := (List.append_eq_nil_iff.1 none.symm).1
      have among : p ∈ pieces (backticks count ++ (code ++ backticks count)) := by simp [split]
      exact absurd (empty ▸ among) (nil_not_mem_pieces _)
  · rintro ⟨visible, starts, ends, free⟩
    have split := pieces_marked positive visible starts ends
    rw [readSpan_of_pieces split (head?_backticks positive) free, flatten_pieces]
    rfl

end

theorem fits_of_free {code : List Char} (free : '`' ∉ code) (count : Nat) (positive : 0 < count) :
    Fits count code where
  starts head := free (List.mem_of_head? head)
  ends tail := free (List.mem_of_getLast? tail)
  free among := by
    have tick : '`' ∈ (pieces code).flatten :=
      List.mem_flatten.2 ⟨_, among, by simp [Nat.ne_of_gt positive]⟩
    exact free (flatten_pieces code ▸ tick)

/-- The number of backticks that code is written between. -/
def markLength (code : List Char) : Nat := if '`' ∈ code then 2 else 1

theorem toList_codeSpan (s : String) : (codeSpan s).toList =
    backticks (markLength s.toList) ++ (s.toList ++ backticks (markLength s.toList)) := by
  by_cases tick : '`' ∈ s.toList
  · simp [codeSpan, enclosed, markLength, tick, List.replicate_succ]
  · simp [codeSpan, enclosed, markLength, tick]

/-- **Code in a line is read back exactly if it holds no backtick, or no run of two and none at its
ends**; empty code never is. It always stands between two equal marks. -/
theorem code_reads_back_iff (o : MarkdownOptions) (context : Context) (key : Nat) (s : String)
    (fragments : List String) :
    ∃ text, (convert o context ⟨key, .code s⟩ fragments).result = .ok text ∧
      (∃ count ∈ [1, 2], text.toList = backticks count ++ (s.toList ++ backticks count)) ∧
      (readSpan text.toList = some (s.toList, []) ↔
        s ≠ "" ∧ ('`' ∉ s.toList ∨ Fits 2 s.toList)) := by
  refine ⟨codeSpan s, rfl, ⟨markLength s.toList, ?_, toList_codeSpan s⟩, ?_⟩
  · rw [markLength]
    split <;> simp
  have marked : 0 < markLength s.toList := by
    rw [markLength]
    split <;> decide
  have visible : s.toList ≠ [] ↔ s ≠ "" := by simp
  rw [toList_codeSpan, readSpan_marked_iff marked, visible]
  apply and_congr_right
  intro _
  by_cases tick : '`' ∈ s.toList
  · simp [markLength, tick]
  · simp [tick, fits_of_free tick _ marked]

/-- A run of two backticks closes the code before its end. -/
theorem code_closed_early :
    ¬ ∀ (o : MarkdownOptions) (context : Context) (key : Nat) (s : String)
      (fragments : List String) (text : String), s ≠ "" →
      (convert o context ⟨key, .code s⟩ fragments).result = .ok text →
        readSpan text.toList = some (s.toList, []) := by
  intro whole
  have read : readSpan (codeSpan "a``b").toList = some (['a'], ['b', '`', '`']) := by decide
  have claimed := whole .standard (Context.of ⟨0, .document []⟩) 1 "a``b" [] _ (by decide) rfl
  rw [read] at claimed
  exact absurd claimed (by decide)

end Manuscript.Markdown
