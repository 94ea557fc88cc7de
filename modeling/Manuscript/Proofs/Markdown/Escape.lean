import Manuscript.Markdown.Convert

/-!
# Reading escaped text back

A reader of Markdown takes a character behind a backslash as it is. The text may hold backslashes of
its own, before any character and in runs of any length, and still comes back as it was:

* `readGlyphs`: the characters that a text is read as, each with or without a backslash before it;
* `readGlyphs_escapeAfter`: what is read of an escaped text is its characters as they were meant;
* `escaped_of_split`: whether a character needs a backslash is seen from its two neighbours;
* `text_reads_back`: so text is written, and no character that means something is left bare.
-/

namespace Manuscript.Markdown

open Text

/-- A character as it is read. -/
structure Glyph where
  char : Char
  escaped : Bool
deriving DecidableEq

/-- Reads a text from left to right. The flag says whether a backslash stands before the text; a
backslash with nothing behind it cannot be read. -/
def readGlyphs (escaped : Bool) : List Char → Option (List Glyph)
  | [] => if escaped then none else some []
  | c :: cs =>
    if escaped then (readGlyphs false cs).map (⟨c, true⟩ :: ·)
    else if c = '\\' then readGlyphs true cs
    else (readGlyphs false cs).map (⟨c, false⟩ :: ·)

/-- The characters of a text that `before` stands before, as they are meant to be read. -/
def meantAfter (before : Option Char) : List Char → List Glyph
  | [] => []
  | c :: cs => ⟨c, needsEscape before c cs.head?⟩ :: meantAfter (some c) cs

theorem needsEscape_of_mem {c : Char} (special : c ∈ alwaysEscaped) (before after : Option Char) :
    needsEscape before c after = true := by
  simp [needsEscape, special]

theorem needsEscape_eq_false {c : Char}
    (plain : c ∉ ['\\', '`', '*', '{', '}', '[', ']', '#', '_']) (before after : Option Char) :
    needsEscape before c after = false := by
  have other : c ∉ alwaysEscaped ∧ c ≠ '#' ∧ c ≠ '_' := by
    simpa [alwaysEscaped, and_assoc] using plain
  simp [needsEscape, other]

theorem readGlyphs_escapeAfter (before : Option Char) (cs : List Char) :
    readGlyphs false (escapeAfter before cs) = some (meantAfter before cs) := by
  induction cs generalizing before with
  | nil => rfl
  | cons c cs ih =>
    rw [escapeAfter, meantAfter]
    by_cases need : needsEscape before c cs.head? = true
    · simp [need, readGlyphs, ih]
    · have other : c ≠ '\\' := by
        intro backslash
        apply need
        exact needsEscape_of_mem (by simp [backslash, alwaysEscaped]) before _
      simp [need, readGlyphs, other, ih]

theorem chars_meantAfter (before : Option Char) (cs : List Char) :
    (meantAfter before cs).map Glyph.char = cs := by
  induction cs generalizing before with
  | nil => rfl
  | cons c cs ih => simp [meantAfter, ih]

/-- A character is read with a backslash exactly if it needs one between its neighbours. -/
theorem escaped_of_split {before : Option Char} {cs : List Char} {front back : List Glyph}
    {g : Glyph} (split : meantAfter before cs = front ++ g :: back) :
    g.escaped = needsEscape ((front.map Glyph.char).getLast?.or before) g.char
      (back.map Glyph.char).head? := by
  induction cs generalizing before front with
  | nil => simp [meantAfter] at split
  | cons c cs ih =>
    rw [meantAfter] at split
    cases front with
    | nil =>
      obtain ⟨rfl, rfl⟩ := List.cons.inj split
      rw [chars_meantAfter]
      rfl
    | cons f front =>
      obtain ⟨rfl, rest⟩ := List.cons.inj split
      rw [ih rest]
      cases front <;> simp [List.getLast?_cons]

/-- What is read of an escaped text: the text, and the backslashes that it needs. The neighbours of
a character are those that it has in the text. -/
structure Escapes (text : List Char) (glyphs : List Glyph) : Prop where
  chars : glyphs.map Glyph.char = text
  special : ∀ g ∈ glyphs, g.char ∈ ['\\', '`', '*', '{', '}', '[', ']'] → g.escaped = true
  numberSign : ∀ front g back, glyphs = front ++ g :: back → g.char = '#' →
    (g.escaped = true ↔ front = [])
  underscore : ∀ front g back, glyphs = front ++ g :: back → g.char = '_' →
    (g.escaped = false ↔
      (∃ c, (front.map Glyph.char).getLast? = some c ∧ isAlphanumeric c = true) ∧
        ∃ c, (back.map Glyph.char).head? = some c ∧ isAlphanumeric c = true)
  /-- No other character has a backslash before it. -/
  plain : ∀ g ∈ glyphs, g.char ∉ ['\\', '`', '*', '{', '}', '[', ']', '#', '_'] →
    g.escaped = false

theorem escapes_meantAfter (cs : List Char) : Escapes cs (meantAfter none cs) where
  chars := chars_meantAfter none cs
  special := by
    intro g hg special
    obtain ⟨front, back, split⟩ := List.append_of_mem hg
    rw [escaped_of_split split]
    exact needsEscape_of_mem special _ _
  numberSign := by
    intro front g back split sign
    rw [escaped_of_split split, sign]
    cases front <;> simp [needsEscape, alwaysEscaped, List.getLast?_cons]
  underscore := by
    intro front g back split sign
    rw [escaped_of_split split, sign]
    simp [needsEscape, alwaysEscaped, Option.any_eq_true]
  plain := by
    intro g hg other
    obtain ⟨front, back, split⟩ := List.append_of_mem hg
    rw [escaped_of_split split]
    exact needsEscape_eq_false other _ _

/-- **What is read of an escaped text is the text**, and every character of it that could mean
something else has a backslash before it. -/
theorem text_reads_back {o : MarkdownOptions} (on : o.escapeSpecial = true) (context : Context)
    (key : Nat) (s : String) (fragments : List String) :
    (convert o context ⟨key, .text s⟩ fragments).result = .ok (escape s) ∧
      ∃ glyphs, readGlyphs false (escape s).toList = some glyphs ∧ Escapes s.toList glyphs := by
  constructor
  · simp only [convert, Node.body, on, if_true]
    rfl
  · refine ⟨meantAfter none s.toList, ?_, escapes_meantAfter s.toList⟩
    rw [escape, String.toList_ofList, readGlyphs_escapeAfter]

/-- A text with a name in it, a backslash before an asterisk and one at its end. -/
theorem name_reads_back :
    MarkdownOptions.standard.escapeSpecial = true ∧
    (convert .standard (Context.of ⟨0, .document []⟩) ⟨1, .text "#_a_b_\\*#\\"⟩ []).result =
      .ok "\\#\\_a_b\\_\\\\\\*#\\\\" ∧
    ∃ glyphs, readGlyphs false "\\#\\_a_b\\_\\\\\\*#\\\\".toList = some glyphs ∧
      Escapes "#_a_b_\\*#\\".toList glyphs := by
  have written : escape "#_a_b_\\*#\\" = "\\#\\_a_b\\_\\\\\\*#\\\\" := by decide +kernel
  rw [← written]
  exact ⟨rfl, text_reads_back rfl _ 1 "#_a_b_\\*#\\" []⟩

/-- No two texts are escaped alike. -/
theorem escape_injective : Function.Injective escape := by
  intro s t same
  have read := congrArg (fun u => (readGlyphs false u.toList).map (List.map Glyph.char)) same
  simp only [escape, String.toList_ofList, readGlyphs_escapeAfter, Option.map_some,
    chars_meantAfter] at read
  exact String.toList_inj.1 (Option.some.inj read)

end Manuscript.Markdown
