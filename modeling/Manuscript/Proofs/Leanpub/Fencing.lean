import Manuscript.Proofs.Leanpub.Calls
import Manuscript.Proofs.Text.Indentation

/-!
# Fences of a book

Code and literal text stand between fences that are always the same. A reader takes the first line
that is a fence for the end of the block, and so gets back what stands before it:

* `readBlock`: the header, the text up to the closing fence, and what is left after it;
* `cutAt_append`: lines are cut at the first fence;
* `fencedUnder_readsBack`: what is read of a text between fences is all of it exactly if no line is
  a fence once the indentation is removed;
* `blocks_read_back`: this is so for all blocks of code and of literal text.
-/

namespace Manuscript.Leanpub

open Text

/-- What a reader finds in a block of lines. -/
structure Reading where
  header : List Char
  fence : List Char
  inside : List (List Char)
  left : List (List Char)
deriving DecidableEq

/-- Cuts lines at the first one that is the fence, which belongs to neither part. -/
def cutAt (fence : List Char) : List (List Char) → Option (List (List Char) × List (List Char))
  | [] => none
  | line :: lines =>
    if line = fence then some ([], lines)
    else (cutAt fence lines).map fun parts => (line :: parts.1, parts.2)

/-- Reads a block: a header, a fence, and everything up to the next line that is this fence. -/
def readBlock (block : String) : Option Reading :=
  match (Lines.ofChars block.toList).toList with
  | header :: fence :: lines =>
    (cutAt fence lines).map fun parts => ⟨header, fence, parts.1, parts.2⟩
  | _ => none

/-- The text that is read. -/
def Reading.text (reading : Reading) : List Char := joinEnded reading.inside

theorem cutAt_append {mark : List Char} {before after : List (List Char)} (first : mark ∉ before) :
    cutAt mark (before ++ mark :: after) = some (before, after) := by
  induction before with
  | nil => simp [cutAt]
  | cons line before ih =>
    have other : line ≠ mark := fun same => first (same ▸ List.mem_cons_self)
    have rest := ih fun among => first (List.mem_cons_of_mem line among)
    rw [List.cons_append, cutAt, if_neg other, rest]
    rfl

theorem readBlock_of_lines {block : String} {header mark : List Char}
    {before after : List (List Char)} (first : mark ∉ before)
    (lines : (Lines.ofChars block.toList).toList = header :: mark :: (before ++ mark :: after)) :
    readBlock block = some ⟨header, mark, before, after⟩ := by
  simp only [readBlock, lines, cutAt_append first, Option.map_some]

/-- A reading of a text that stands between fences under a header. -/
structure Reading.Of (reading : Reading) (header content : String) : Prop where
  header : reading.header = header.toList
  fence : reading.fence = Leanpub.fence.toList
  /-- The first fence among the lines of the text and the last fence closes the block. -/
  parts : endedLines (removeIndentation content) ++ [Leanpub.fence.toList] =
    reading.inside ++ Leanpub.fence.toList :: reading.left
  first : Leanpub.fence.toList ∉ reading.inside
  /-- It is the last line of the block exactly if no line of the text is a fence once the text is
  free of indentation. -/
  closed : reading.left = [] ↔ Leanpub.fence.toList ∉ (dedented content).toList
  complete : reading.text = (endLine (removeIndentation content)).toList ↔
    Leanpub.fence.toList ∉ (dedented content).toList

/-- A block that holds a text between fences under a header, and what is read of it. -/
structure ReadsBack (block header content : String) : Prop where
  lines : (Lines.ofChars block.toList).toList =
    header.toList :: fence.toList :: (endedLines (removeIndentation content) ++ [fence.toList])
  read : ∃ reading, readBlock block = some reading ∧ reading.Of header content

theorem fence_mem_endedLines_iff (content : String) :
    fence.toList ∈ endedLines (removeIndentation content) ↔
      fence.toList ∈ (dedented content).toList := by
  rw [mem_endedLines_iff (by decide), ofChars_removeIndentation]

variable {block header content : String}

/-- Such a block can always be read: as it ends with a fence, it has a first one. -/
theorem readsBack_of_lines (lines : (Lines.ofChars block.toList).toList =
    header.toList :: fence.toList :: (endedLines (removeIndentation content) ++ [fence.toList])) :
    ReadsBack block header content := by
  have dedents := fence_mem_endedLines_iff content
  have text := endLine_eq (removeIndentation content)
  have closes : fence.toList ∈ endedLines (removeIndentation content) ++ [fence.toList] := by simp
  obtain ⟨before, after, parts, first⟩ := List.eq_append_cons_of_mem closes
  have read := readBlock_of_lines first (parts ▸ lines)
  rcases List.eq_nil_or_concat' after with rfl | ⟨rest, last, rfl⟩
  · -- The first fence is the last one.
    have same : endedLines (removeIndentation content) = before := List.append_cancel_right parts
    have free : fence.toList ∉ (dedented content).toList := by rwa [← dedents, same]
    rw [same] at text
    exact ⟨lines, _, read, rfl, rfl, parts, first, iff_of_true rfl free, iff_of_true text.symm free⟩
  · have split : endedLines (removeIndentation content) = before ++ fence.toList :: rest := by
      rw [← List.cons_append, ← List.append_assoc] at parts
      exact List.append_inj_left' parts rfl
    have among : fence.toList ∈ (dedented content).toList := by
      rw [← dedents, split]
      simp
    have shorter : joinEnded before ≠ (endLine (removeIndentation content)).toList := by
      rw [text, split]
      simp [joinEnded]
    have left : rest ++ [last] ≠ [] := by simp
    exact ⟨lines, _, read, rfl, rfl, parts, first, iff_of_false left (not_not.2 among),
      iff_of_false shorter (not_not.2 among)⟩

theorem lines_fencedUnder (whole : '\n' ∉ header.toList) (content : String) :
    (Lines.ofChars (fencedUnder header content).toList).toList =
      header.toList :: fence.toList ::
        (endedLines (removeIndentation content) ++ [fence.toList]) := by
  have fenceWhole : '\n' ∉ fence.toList := by decide
  have split : (fencedUnder header content).toList =
      joinEnded (header.toList :: fence.toList :: endedLines (removeIndentation content)) ++
        fence.toList := by
    simp [fencedUnder, joinEnded, endLine_eq]
  rw [split, ofChars_joinEnded, Lines.ofChars_of_not_mem fenceWhole]
  · rfl
  · intro line hl
    rcases List.mem_cons.1 hl with rfl | hl
    · exact whole
    rcases List.mem_cons.1 hl with rfl | hl
    · exact fenceWhole
    · exact newline_not_mem_endedLines _ line hl

theorem fencedUnder_readsBack (whole : '\n' ∉ header.toList) (content : String) :
    ReadsBack (fencedUnder header content) header content :=
  readsBack_of_lines (lines_fencedUnder whole content)

/-- The header of a block of code. -/
def languageHeader (language : String) : String := "\x7blang=\"" ++ language ++ "\"\x7d"

theorem newline_not_mem_languageHeader {language : String} (unbroken : '\n' ∉ language.toList) :
    '\n' ∉ (languageHeader language).toList := by
  simp [languageHeader, unbroken]

namespace Export

variable {x : Export}

/-- A node without children is written as its rule says. -/
theorem transcode_childless {n : Node} (childless : n.children = []) :
    ∃ renderCaption, (x.transcode n).result =
      (x.apply renderCaption ((x.rules.find? n.kind).getD .generic) n []).result := by
  refine ⟨renderNodes (x.transcodeWithin x.context.parents.entries.length), ?_⟩
  rw [transcode, captionDepth, transcodeWithin, Node.fold_eq, childless, List.mapM_nil,
    Outcome.bind_result_of_ok rfl, convert_result]

theorem transcode_codeBlock (ruled : x.rules = .leanpub) (key : Nat) (language : Option String)
    (code : String) : (x.transcode ⟨key, .codeBlock language code⟩).result =
      .ok (codeBlock (language.getD "") code) := by
  obtain ⟨_, written⟩ := x.transcode_childless (n := ⟨key, .codeBlock language code⟩) rfl
  rw [written, ruled]
  rfl

theorem transcode_literalBlock (ruled : x.rules = .leanpub) (key : Nat) (kind : LiteralKind)
    (literal : String) : (x.transcode ⟨key, .literalBlock kind literal⟩).result =
      .ok (literalBlock literal) := by
  obtain ⟨_, written⟩ := x.transcode_childless (n := ⟨key, .literalBlock kind literal⟩) rfl
  rw [written, ruled]
  rfl

/-- **What is read of a block is its whole text exactly if no line of that is a fence.** For literal
text, the mark of the aside is taken off every line first. -/
theorem blocks_read_back (ruled : x.rules = .leanpub) (key : Nat) (language : Option String)
    (unbroken : '\n' ∉ (language.getD "").toList) (kind : LiteralKind) (content : String) :
    (∃ block, (x.transcode ⟨key, .codeBlock language content⟩).result = .ok block ∧
      ReadsBack block (languageHeader (language.getD "")) content) ∧
    ∃ block, (x.transcode ⟨key, .literalBlock kind content⟩).result = .ok block ∧
      (∀ line ∈ (Lines.ofChars block.toList).toList, "A> ".toList <+: line) ∧
      ReadsBack (onLines (.map (List.drop 3)) block) "\x7blinenos=off\x7d" content := by
  constructor
  · refine ⟨_, transcode_codeBlock ruled key language content, ?_⟩
    exact fencedUnder_readsBack (newline_not_mem_languageHeader unbroken) content
  · refine ⟨_, transcode_literalBlock ruled key kind content, ?_, ?_⟩
    · exact prefix_of_mem_prefixLines (by decide) _
    · have mark : '\n' ∉ "A> ".toList := by decide
      have inner := unprefixed_prefixLines mark (fencedUnder "\x7blinenos=off\x7d" content)
      have read : ReadsBack (fencedUnder "\x7blinenos=off\x7d" content) "\x7blinenos=off\x7d"
          content := fencedUnder_readsBack (by decide) content
      rwa [← inner] at read

/-- Code that ends in the middle for a reader. -/
theorem listing_reads_back :
    let x : Export := ⟨.standard, .leanpub, ⟨"/home", "/"⟩, Context.of ⟨0, .document []⟩⟩
    x.rules = .leanpub ∧ '\n' ∉ ((some "sh").getD "").toList ∧
    (∃ block, (x.transcode ⟨1, .codeBlock (some "sh") "  ls\n  ~~~~~~~~\n"⟩).result = .ok block ∧
      ReadsBack block (languageHeader "sh") "  ls\n  ~~~~~~~~\n") ∧
    ∃ block, (x.transcode ⟨1, .literalBlock .example "  ls\n  ~~~~~~~~\n"⟩).result = .ok block ∧
      (∀ line ∈ (Lines.ofChars block.toList).toList, "A> ".toList <+: line) ∧
      ReadsBack (onLines (.map (List.drop 3)) block) "\x7blinenos=off\x7d" "  ls\n  ~~~~~~~~\n" :=
  ⟨rfl, by decide, blocks_read_back rfl 1 (some "sh") (by decide) .example "  ls\n  ~~~~~~~~\n"⟩

/-- A line of eight tildes closes the block before its end. -/
theorem closed_by_line_of_text :
    ¬ ∀ (x : Export), x.rules = .leanpub → ∀ key language content block reading,
      '\n' ∉ (language.getD "").toList →
      (x.transcode ⟨key, .codeBlock language content⟩).result = .ok block →
      readBlock block = some reading →
      reading.left = [] ∧ reading.text = (endLine (removeIndentation content)).toList := by
  intro closes
  have among : fence.toList ∈ (dedented "a\n~~~~~~~~\nb\n").toList := by decide
  have unbroken : '\n' ∉ "".toList := by decide
  have block := fencedUnder_readsBack (newline_not_mem_languageHeader unbroken) "a\n~~~~~~~~\nb\n"
  obtain ⟨reading, read, of⟩ := block.read
  let x : Export := ⟨.standard, .leanpub, ⟨"/home", "/"⟩, Context.of ⟨0, .document []⟩⟩
  have rendered := transcode_codeBlock (x := x) rfl 0 none "a\n~~~~~~~~\nb\n"
  obtain ⟨last, -⟩ := closes x rfl 0 none _ _ reading (by decide) rendered read
  exact of.closed.1 last among

end Export

end Manuscript.Leanpub
