import Mathlib
import Manuscript.Proofs.Footnote.Accounting
import Manuscript.Proofs.Text.Hanging

/-!
# Reading the definitions of footnotes back

The definitions of all footnotes are one text, and their bodies are any texts at all: with empty
lines, with lines that look like the head of a definition, with newlines at the end. Yet the text
tells where each of them begins and ends:

* `readDefinitions`: the markers and the bodies that a text defines;
* `Legible`: reading the text gives the entries with their bodies;
* `renderDefinitions_legible`: what is rendered for the entries of an index is legible.
-/

namespace Manuscript.Footnote

open Text

/-- How far the lines of a definition are indented below its head. -/
def indentation : Nat := 4

/-- The lines of a text that are neither empty nor indented. -/
def headLines (text : String) : List String :=
  ((Lines.ofChars text.toList).toList.filter (begins indentation)).map String.ofList

/-- The marker and the body of a definition: the marker goes on to the first bracket, and the body
begins behind that bracket, a colon and a space. -/
def readDefinition (definition : Lines) : String × String :=
  let marker := (definition.first.drop 2).takeWhile (· != ']')
  let body : Lines :=
    ⟨definition.first.drop (marker.length + 5), definition.rest.map (List.drop indentation)⟩
  (String.ofList marker, String.ofList body.toChars)

/-- The markers and the bodies of the definitions in a text. -/
def readDefinitions (text : String) : List (String × String) :=
  (unspaced (items indentation (Lines.ofChars text.toList).toList)).map readDefinition

def firstLine (body : String) : String := String.ofList (Lines.ofChars body.toList).first

/-- The head of a definition up to its body. -/
def head (marker : String) : String := "[^" ++ marker ++ "]: "

theorem head_toList (marker : String) :
    (head marker).toList = '[' :: '^' :: (marker.toList ++ [']', ':', ' ']) := by
  simp [head]

/-- A definition as the item that hangs from its head. -/
def hungDefinition (marker body : String) : Lines := hung (head marker).toList indentation body

section
variable {marker : String}

theorem lines_footnoteDefinition (whole : '\n' ∉ marker.toList) (body : String) :
    Lines.ofChars (Markdown.footnoteDefinition marker body).toList =
      hungDefinition marker body := by
  have front : '\n' ∉ (head marker).toList := by simp [head_toList, whole]
  rw [Markdown.footnoteDefinition, String.toList_append]
  exact indentContinuation_lines front 4 body

theorem hangs_hungDefinition (marker body : String) :
    Hangs indentation (hungDefinition marker body) := by
  rw [hungDefinition, head_toList]
  exact hangs_hung (by decide) (by decide) (Nat.le_refl _) body

theorem readDefinition_hung (closed : ']' ∉ marker.toList) (body : String) :
    readDefinition (hungDefinition marker body) = (marker, body) := by
  have bracket : ((hungDefinition marker body).first.drop 2).takeWhile (· != ']') =
      marker.toList := by
    have inside : ∀ c ∈ marker.toList, (c != ']') = true := by
      intro c hc
      simpa using fun same : c = ']' => closed (same ▸ hc)
    simp [hungDefinition, hung, head_toList, List.takeWhile_append_of_pos inside]
  have wide : (head marker).toList.length = marker.toList.length + 5 := by simp [head_toList]
  have restored := toChars_hung (head marker).toList indentation body
  rw [readDefinition, bracket, ← wide, hungDefinition, restored, String.ofList_toList,
    String.ofList_toList]

theorem first_hung (marker body : String) :
    String.ofList (hungDefinition marker body).first = head marker ++ firstLine body := by
  rw [hungDefinition, hung, String.ofList_append, String.ofList_toList]
  rfl

end

namespace Index

variable {ε : Type} {render : Node → Outcome ε String} {index : Index}

/-- The text can be read back as the entries with these bodies. -/
structure Legible (index : Index) (bodies : List String) (text : String) : Prop where
  /-- The lines at the margin are the heads of the definitions. -/
  heads : headLines text =
    List.zipWith (fun entry body => head entry.marker ++ firstLine body) index.entries bodies
  /-- The lines below them belong to the bodies. -/
  read : readDefinitions text = List.zip (index.entries.map Entry.marker) bodies

/-- The definitions of the entries as the items of the text. -/
def hungDefinitions (entries : List Entry) (bodies : List String) : List Lines :=
  List.zipWith (fun entry => hungDefinition entry.marker) entries bodies

theorem lines_definitions {entries : List Entry}
    (whole : ∀ entry ∈ entries, '\n' ∉ entry.marker.toList) (bodies : List String) :
    ((List.zipWith (fun entry => Markdown.footnoteDefinition entry.marker) entries bodies).map
      String.toList).map Lines.ofChars = hungDefinitions entries bodies := by
  unfold hungDefinitions
  induction entries generalizing bodies with
  | nil => rfl
  | cons entry entries ih =>
    cases bodies with
    | nil => rfl
    | cons body bodies =>
      have first := lines_footnoteDefinition (whole entry List.mem_cons_self) body
      have rest := ih (fun other ho => whole other (List.mem_cons_of_mem entry ho)) bodies
      rw [List.zipWith_cons_cons, List.map_cons, List.map_cons, first, rest,
        List.zipWith_cons_cons]

theorem hangs_definitions {entries : List Entry} {bodies : List String} :
    ∀ item ∈ hungDefinitions entries bodies, Hangs indentation item := by
  intro item hi
  obtain ⟨i, place, rfl⟩ := List.getElem_of_mem hi
  simp only [hungDefinitions, List.getElem_zipWith]
  exact hangs_hungDefinition _ _

theorem map_readDefinition {entries : List Entry}
    (closed : ∀ entry ∈ entries, ']' ∉ entry.marker.toList) (bodies : List String) :
    (hungDefinitions entries bodies).map readDefinition =
      List.zip (entries.map Entry.marker) bodies := by
  refine List.ext_getElem (by simp [hungDefinitions]) fun i place _ => ?_
  simp only [hungDefinitions, List.getElem_map, List.getElem_zipWith, List.getElem_zip]
  exact readDefinition_hung (closed _ (List.getElem_mem _)) _

theorem unspaced_definitions (whole : ∀ entry ∈ index.entries, '\n' ∉ entry.marker.toList)
    (bodies : List String) :
    unspaced (items indentation (Lines.ofChars ("\n\n".intercalate (List.zipWith
      (fun entry => Markdown.footnoteDefinition entry.marker) index.entries bodies)).toList).toList)
      = hungDefinitions index.entries bodies := by
  have lines := items_intercalate indentation ((List.zipWith
    (fun entry => Markdown.footnoteDefinition entry.marker) index.entries bodies).map String.toList)
  rw [lines_definitions whole] at lines
  rw [String.toList_intercalate]
  exact (congrArg unspaced lines).trans (unspaced_items hangs_definitions)

theorem legible_of_bodies (plain : ∀ entry ∈ index.entries,
    '\n' ∉ entry.marker.toList ∧ ']' ∉ entry.marker.toList) (bodies : List String) :
    index.Legible bodies ("\n\n".intercalate (List.zipWith
      (fun entry => Markdown.footnoteDefinition entry.marker) index.entries bodies)) := by
  have here := unspaced_definitions (fun entry he => (plain entry he).1) bodies
  constructor
  case heads =>
    rw [headLines, ← first_items, ← first_unspaced, here, hungDefinitions, List.map_zipWith,
      List.map_zipWith]
    simp only [first_hung]
  case read =>
    rw [readDefinitions, here, map_readDefinition fun entry he => (plain entry he).2]

/-- **The definitions of footnotes can be read back, whatever their bodies are.** -/
theorem renderDefinitions_legible (render : Node → Outcome ε String) (index : Index)
    (plain : ∀ entry ∈ index.entries, '\n' ∉ entry.marker.toList ∧ ']' ∉ entry.marker.toList) :
    (∀ text, (index.renderDefinitions render).result = .ok text →
      ∃ bodies, index.Bodies render bodies ∧ index.Legible bodies text) ∧
    ∀ bodies, index.Bodies render bodies →
      ∃ text, (index.renderDefinitions render).result = .ok text ∧ index.Legible bodies text := by
  constructor
  · intro text h
    obtain ⟨bodies, each, rfl⟩ := renderDefinitions_result_eq_ok_iff.1 h
    exact ⟨bodies, each, legible_of_bodies plain bodies⟩
  · intro bodies each
    exact ⟨_, renderDefinitions_result_eq_ok_iff.2 ⟨bodies, each, rfl⟩,
      legible_of_bodies plain bodies⟩

/-- A footnote with a paragraph and code that looks like another definition, and one after it. -/
def glossed : Node :=
  ⟨0, .document
    [⟨1, .paragraph
        [⟨2, .footnoteReference (some "a") none⟩,
          ⟨3, .footnoteReference none (some [⟨4, .text "aside"⟩])⟩] []⟩,
      ⟨5, .footnoteDefinition "a"
        [⟨6, .paragraph [⟨7, .text "see"⟩] []⟩, ⟨8, .codeBlock none "[^b]: x\n\n"⟩]⟩]⟩

def glossing : Leanpub.Export := ⟨.standard, .leanpub, ⟨"", ""⟩, Context.of glossed⟩

theorem glossed_legible :
    (∀ entry ∈ (ofRoot glossed).entries,
      '\n' ∉ entry.marker.toList ∧ ']' ∉ entry.marker.toList) ∧
    ∃ text, ((ofRoot glossed).renderDefinitions glossing.transcode).result = .ok text ∧
      (ofRoot glossed).Legible
        ["see\n\n\x7blang=\"\"\x7d\n~~~~~~~~\n[^b]: x\n\n~~~~~~~~", "aside"] text := by
  have entries : (ofRoot glossed).entries =
      [⟨1, some "a", [⟨6, .paragraph [⟨7, .text "see"⟩] []⟩, ⟨8, .codeBlock none "[^b]: x\n\n"⟩]⟩,
        ⟨2, none, [⟨4, .text "aside"⟩]⟩] := by
    cbv
  have plain : ∀ entry ∈ (ofRoot glossed).entries,
      '\n' ∉ entry.marker.toList ∧ ']' ∉ entry.marker.toList := by
    rw [entries]
    decide
  refine ⟨plain, (renderDefinitions_legible glossing.transcode (ofRoot glossed) plain).2 _ ?_⟩
  unfold Bodies
  rw [entries]
  exact .cons (by cbv) (.cons (by cbv) .nil)

end Index

end Manuscript.Footnote
