import Mathlib.Data.List.DropRight
import Manuscript.Markdown.Convert
import Manuscript.Proofs.Outcome
import Manuscript.Proofs.Text.Indentation
import Manuscript.Text.Capacity

/-!
# Layers around a text

Quotes and asides put a mark before every line of a text; the items of lists and the definitions of
footnotes put a head before its first line and move the others to the right, except empty ones. One
within another they add up, line by line, and nothing of the text is lost:

* `Indents`, `Marks`: what moving lines to the right twice comes to, and marking them twice;
* `Layer`, `nest`: what is put around a text, and any number of such layers around each other;
* `ofChars_around`, `ofChars_nest`: the lines that come of one layer, and of many;
* `Stacked`: blocks that stand within one another and are written in such layers;
* `layers_add_up`: how the layers add up, for all texts.
-/

namespace Manuscript

/-! ## Moved and marked lines -/

namespace Text

/-- The number of lines of a text, which is one more than the newlines in it. -/
def lineCount (s : String) : Nat := (Lines.ofChars s.toList).toList.length

theorem Lines.mapRest_mapRest (f g : List Char → List Char) (lines : Lines) :
    (lines.mapRest f).mapRest g = lines.mapRest (g ∘ f) := by
  simp only [mapRest, List.map_map]

theorem ofChars_indentContinuation (width : Int) (s : String) :
    Lines.ofChars (indentContinuation width s).toList =
      (Lines.ofChars s.toList).mapRest (pad width.toNat) := by
  have headless : '\n' ∉ ([] : List Char) := List.not_mem_nil
  have lines := indentContinuation_lines headless width s
  rw [List.nil_append] at lines
  exact lines

theorem lineCount_indentContinuation (width : Int) (s : String) :
    lineCount (indentContinuation width s) = lineCount s := by
  simp [lineCount, ofChars_indentContinuation, Lines.mapRest, Lines.toList]

theorem lineCount_prefixLines {mark : String} (whole : '\n' ∉ mark.toList) (s : String) :
    lineCount (prefixLines mark s) = lineCount s := by
  rw [lineCount, ofChars_prefixLines whole, Lines.toList_map, List.length_map, lineCount]

theorem pad_pad (width further : Nat) (line : List Char) :
    pad further (pad width line) = pad (width + further) line := by
  cases line with
  | nil => rfl
  | cons c cs =>
    simp [pad, ← List.append_assoc, List.replicate_append_replicate, Nat.add_comm further]

/-- A text comes back when its lines are moved to the left again. -/
theorem indentContinuation_injective (width : Int) :
    Function.Injective (indentContinuation width) := by
  intro s t same
  have lines := ofChars_indentContinuation width s
  rw [same, ofChars_indentContinuation] at lines
  have restored : List.drop width.toNat ∘ pad width.toNat = id := funext (drop_pad width.toNat)
  have back := congrArg (Lines.mapRest (List.drop width.toNat)) lines
  rw [Lines.mapRest_mapRest, Lines.mapRest_mapRest, restored] at back
  apply eq_of_lines_eq
  simpa [Lines.mapRest] using congrArg Lines.toList back.symm

/-- Moving the lines of a text to the right, by one width and then by another one. -/
structure Indents (width further : Int) : Prop where
  count : ∀ s, lineCount (indentContinuation width s) = lineCount s
  twice : ∀ s, indentContinuation further (indentContinuation width s) =
    indentContinuation (width + further) s
  apart : Function.Injective (indentContinuation width)
  /-- Where a text may be as wide as that, nothing is refused. -/
  fits : checkLength (width + further) = .ok () → ∀ s,
    indentContinuation? width s = .ok (indentContinuation width s) ∧
    (indentContinuation? width s >>= indentContinuation? further) =
      indentContinuation? (width + further) s

theorem indentContinuation?_of_fits {width : Int} (fits : checkLength width = .ok ())
    (s : String) : indentContinuation? width s = .ok (indentContinuation width s) := by
  rw [indentContinuation?, fits]
  rfl

theorem indents {width further : Int} (right : 0 ≤ width) (right' : 0 ≤ further) :
    Indents width further := by
  have twice : ∀ s, indentContinuation further (indentContinuation width s) =
      indentContinuation (width + further) s := by
    intro s
    have pads : pad further.toNat ∘ pad width.toNat = pad (width + further).toNat := by
      rw [Int.toNat_add right right']
      exact funext (pad_pad width.toNat further.toNat)
    apply eq_of_lines_eq
    rw [ofChars_indentContinuation, ofChars_indentContinuation, ofChars_indentContinuation,
      Lines.mapRest_mapRest, pads]
  refine ⟨lineCount_indentContinuation width, twice, indentContinuation_injective width, ?_⟩
  intro fits s
  have bounds := isCountable_iff.1 (checkLength_eq_ok_iff.1 fits)
  have first : checkLength width = .ok () :=
    checkLength_eq_ok_iff.2 (isCountable_iff.2 (by omega))
  have second : checkLength further = .ok () :=
    checkLength_eq_ok_iff.2 (isCountable_iff.2 (by omega))
  refine ⟨indentContinuation?_of_fits first s, ?_⟩
  calc indentContinuation? width s >>= indentContinuation? further
      = indentContinuation? further (indentContinuation width s) := by
        rw [indentContinuation?_of_fits first]
        rfl
    _ = .ok (indentContinuation (width + further) s) := by
        rw [indentContinuation?_of_fits second, twice]
    _ = indentContinuation? (width + further) s := (indentContinuation?_of_fits fits s).symm

/-- Putting a mark before every line of a text, and then another one before that. -/
structure Marks (mark outer : String) : Prop where
  count : ∀ s, lineCount (prefixLines mark s) = lineCount s
  twice : ∀ s, prefixLines outer (prefixLines mark s) = prefixLines (outer ++ mark) s
  apart : Function.Injective (prefixLines mark)

theorem marks {mark outer : String} (whole : '\n' ∉ mark.toList) (whole' : '\n' ∉ outer.toList) :
    Marks mark outer where
  count := lineCount_prefixLines whole
  twice s := by
    have both : '\n' ∉ (outer ++ mark).toList := by
      rw [String.toList_append]
      exact List.not_mem_append whole' whole
    apply eq_of_lines_eq
    rw [ofChars_prefixLines whole', ofChars_prefixLines whole, ofChars_prefixLines both,
      Lines.map_map, String.toList_append]
    simp only [Function.comp_def, List.append_assoc]
  apart := Function.LeftInverse.injective (unprefixed_prefixLines whole)

end Text

/-! ## Layers -/

namespace Markdown

open Text

/-- What is put around a text. -/
inductive Layer where
  /-- A quote or an aside, by the mark before every line. -/
  | marked (mark : String)
  /-- An item of a list, by its marker. -/
  | item (marker : String)
  /-- A definition of a footnote, by its label. -/
  | footnote (label : String)

namespace Layer

def around : Layer → String → String
  | marked mark, s => prefixLines mark s
  | item marker, s => markedItem marker s
  | footnote label, s => footnoteDefinition label s

/-- What stands before the first line. -/
def head : Layer → List Char
  | marked mark => mark.toList
  | item marker => marker.toList
  | footnote label => ("[^" ++ label ++ "]: ").toList

/-- What stands before the other lines. -/
def margin : Layer → List Char
  | marked mark => mark.toList
  | item marker => List.replicate marker.length ' '
  | footnote _ => List.replicate 4 ' '

/-- Something stands before empty lines, too. -/
def showsEmpty : Layer → Bool
  | marked mark => !mark.isEmpty
  | _ => false

/-- A line that is not the first one. -/
def beside (layer : Layer) (line : List Char) : List Char :=
  if line.isEmpty && !layer.showsEmpty then line else layer.margin ++ line

variable {layer : Layer} {line : List Char}

theorem beside_of_ne_nil (visible : line ≠ []) (layer : Layer) :
    layer.beside line = layer.margin ++ line := by
  simp [beside, visible]

theorem beside_marked (mark : String) (line : List Char) :
    (marked mark).beside line = mark.toList ++ line := by
  by_cases shows : mark = "" <;> simp [beside, showsEmpty, margin, shows]

theorem beside_item (marker : String) : (item marker).beside = pad marker.length := by
  funext line
  simp [beside, showsEmpty, margin, pad]

theorem beside_footnote (label : String) : (footnote label).beside = pad 4 := by
  funext line
  simp [beside, showsEmpty, margin, pad]

/-- A line comes back when its margin is taken away. -/
theorem drop_beside (layer : Layer) (line : List Char) :
    (layer.beside line).drop layer.margin.length = line := by
  unfold beside
  split
  next empty =>
    rw [Bool.and_eq_true, List.isEmpty_iff] at empty
    rw [empty.1, List.drop_nil]
  next => exact List.drop_left

/-- A layer goes around a text line by line. -/
theorem ofChars_around (whole : '\n' ∉ layer.head) (s : String) :
    Lines.ofChars (layer.around s).toList =
      ⟨layer.head ++ (Lines.ofChars s.toList).first,
        (Lines.ofChars s.toList).rest.map layer.beside⟩ := by
  cases layer with
  | marked mark =>
    rw [around, ofChars_prefixLines whole, funext (beside_marked mark)]
    rfl
  | item marker =>
    rw [around, markedItem, String.toList_append, beside_item]
    exact indentContinuation_lines whole marker.length s
  | footnote label =>
    rw [around, footnoteDefinition, String.toList_append, beside_footnote]
    exact indentContinuation_lines whole 4 s

end Layer

/-- Layers around a text, the outermost first. -/
def nest (layers : List Layer) (s : String) : String := layers.foldr Layer.around s

variable {layers : List Layer}

theorem ofChars_nest (whole : ∀ layer ∈ layers, '\n' ∉ layer.head) (s : String) :
    Lines.ofChars (nest layers s).toList =
      ⟨layers.flatMap Layer.head ++ (Lines.ofChars s.toList).first,
        (Lines.ofChars s.toList).rest.map fun line => layers.foldr Layer.beside line⟩ := by
  induction layers with
  | nil => simp [nest]
  | cons layer layers ih =>
    have inner := ih fun other ho => whole other (List.mem_cons_of_mem layer ho)
    have outer := Layer.ofChars_around (whole layer List.mem_cons_self) (nest layers s)
    rw [inner, List.map_map, ← List.append_assoc] at outer
    exact outer

/-- Before a line that is not empty, the margins follow each other. -/
theorem foldr_beside_of_ne_nil (layers : List Layer) {line : List Char} (visible : line ≠ []) :
    layers.foldr Layer.beside line = layers.flatMap Layer.margin ++ line := by
  induction layers with
  | nil => rfl
  | cons layer layers ih =>
    have inside : layers.flatMap Layer.margin ++ line ≠ [] :=
      List.append_ne_nil_of_right_ne_nil _ visible
    rw [List.foldr_cons, ih, Layer.beside_of_ne_nil inside, List.flatMap_cons, List.append_assoc]

/-- The layers inside the innermost one that shows empty lines leave them empty, and all others
put their margins before that one's. -/
theorem foldr_beside_nil (layers : List Layer) :
    layers.foldr Layer.beside [] =
      (layers.rdropWhile fun layer => !layer.showsEmpty).flatMap Layer.margin := by
  induction layers using List.reverseRecOn with
  | nil => rfl
  | append_singleton layers layer ih =>
    rw [List.foldr_append, List.foldr_cons, List.foldr_nil, List.rdropWhile_concat]
    cases shows : layer.showsEmpty with
    | false =>
      have stays : layer.beside [] = [] := by simp [Layer.beside, shows]
      rw [stays, ih]
      rfl
    | true =>
      have shown : layer.beside [] = layer.margin := by simp [Layer.beside, shows]
      have visible : layer.margin ≠ [] := by
        cases layer with
        | marked mark => simpa [Layer.margin, Layer.showsEmpty] using shows
        | item | footnote => cases shows
      rw [shown, foldr_beside_of_ne_nil layers visible]
      simp

theorem foldr_beside_injective (layers : List Layer) :
    Function.Injective fun line => layers.foldr Layer.beside line := by
  induction layers with
  | nil => exact Function.injective_id
  | cons layer layers ih =>
    exact (Function.LeftInverse.injective layer.drop_beside).comp ih

theorem nest_injective (whole : ∀ layer ∈ layers, '\n' ∉ layer.head) :
    Function.Injective (nest layers) := by
  intro s t same
  have lines := ofChars_nest whole s
  rw [same, ofChars_nest whole, Lines.mk.injEq] at lines
  obtain ⟨first, rest⟩ := lines
  apply eq_of_lines_eq
  rw [Lines.toList, Lines.toList, List.append_cancel_left first,
    List.map_injective_iff.2 (foldr_beside_injective layers) rest]

/-! ## Nested blocks -/

/-- Blocks that stand within one another, each of them alone in the one around it, and the layers
that they put around the innermost one. -/
inductive Stacked (o : MarkdownOptions) (context : Context) (inner : Node) :
    List Layer → Node → Prop where
  | inner : Stacked o context inner [] inner
  | quote {layers : List Layer} {n c : Node} (body : n.body = .blockQuote [c])
      (h : Stacked o context inner layers c) : Stacked o context inner (.marked "> " :: layers) n
  | item {layers : List Layer} {n i c : Node} {marking : Marking} {tight : Bool}
      (body : n.body = .list marking tight [i]) (single : i.body = .listItem none [c])
      (h : Stacked o context inner layers c) :
      Stacked o context inner
        (.item (marker o (context.parents.listDepth n) marking 0) :: layers) n
  | footnote {layers : List Layer} {n c : Node} {label : String}
      (body : n.body = .footnoteDefinition label [c])
      (h : Stacked o context inner layers c) :
      Stacked o context inner (.footnote label :: layers) n

section
variable {o : MarkdownOptions} {context : Context} {n c : Node} {text : String}

/-- A node with a single child is written from what is written for that child. -/
theorem transcode_of_child (only : n.children = [c])
    (written : (transcode o context c).result = .ok text) :
    (transcode o context n).result = (convert o context n [text]).result := by
  have children : (n.children.mapM (Node.fold (convert o context))).result = .ok [text] := by
    rw [only]
    exact Outcome.mapM_result_eq_ok_iff.2 (.cons written .nil)
  rw [transcode, Node.fold_eq, Outcome.bind_result_of_ok children]

theorem joinNonempty_singleton (separator text : String) :
    joinNonempty separator [text] = text := by
  by_cases empty : text = "" <;> simp [joinNonempty, empty]

theorem listing_singleton (depth : Nat) (marking : Marking) (tight : Bool) (item : String) :
    listing o depth marking tight [item] = markedItem (marker o depth marking 0) item := by
  simp [listing]

theorem transcode_stacked {inner : Node} (h : Stacked o context inner layers n)
    (written : (transcode o context inner).result = .ok text) :
    (transcode o context n).result = .ok (nest layers text) := by
  induction h with
  | inner => exact written
  | @quote layers n c body _ ih =>
    have only : n.children = [c] := by rw [Node.children, body]; rfl
    rw [transcode_of_child only ih]
    simp only [convert, body, joinBlocks, joinNonempty_singleton]
    rfl
  | @item layers n i c marking tight body single _ ih =>
    have only : n.children = [i] := by rw [Node.children, body]; rfl
    have only' : i.children = [c] := by rw [Node.children, single]; rfl
    have item : (transcode o context i).result = .ok (nest layers text) := by
      rw [transcode_of_child only' ih]
      simp only [convert, single, listItem, joinNonempty_singleton]
      rfl
    rw [transcode_of_child only item]
    simp only [convert, body, listing_singleton]
    rfl
  | @footnote layers n c label body _ ih =>
    have only : n.children = [c] := by rw [Node.children, body]; rfl
    rw [transcode_of_child only ih]
    simp only [convert, body, joinBlocks, joinNonempty_singleton]
    rfl

end

/-! ## All layers -/

/-- Layers that are put around a text. -/
structure Nested (layers : List Layer) : Prop where
  count : ∀ s, lineCount (nest layers s) = lineCount s
  first : ∀ s, (Lines.ofChars (nest layers s).toList).first =
    layers.flatMap Layer.head ++ (Lines.ofChars s.toList).first
  /-- Each of the other lines stands behind all margins; an empty one only behind those of the
  innermost layer that shows empty lines and of the layers around it. -/
  others : ∀ s, (Lines.ofChars (nest layers s).toList).rest =
    (Lines.ofChars s.toList).rest.map fun line =>
      if line = [] then
        (layers.rdropWhile fun layer => !layer.showsEmpty).flatMap Layer.margin
      else layers.flatMap Layer.margin ++ line
  apart : Function.Injective (nest layers)
  /-- This is what is written for blocks that stand within one another. -/
  written : ∀ o context inner n text, Stacked o context inner layers n →
    (transcode o context inner).result = .ok text →
    (transcode o context n).result = .ok (nest layers text)

theorem nested (whole : ∀ layer ∈ layers, '\n' ∉ layer.head) : Nested layers where
  count s := by simp [lineCount, ofChars_nest whole, Lines.toList]
  first s := by rw [ofChars_nest whole]
  others s := by
    rw [ofChars_nest whole]
    refine List.map_congr_left fun line _ => ?_
    split
    next empty => rw [empty, foldr_beside_nil]
    next visible => exact foldr_beside_of_ne_nil layers visible
  apart := nest_injective whole
  written _ _ _ _ _ := transcode_stacked

/-- **Layers around a text add up**, line by line, and no two texts are alike behind them. -/
theorem layers_add_up {width further : Int} (right : 0 ≤ width) (right' : 0 ≤ further)
    {mark outer : String} (whole : '\n' ∉ mark.toList) (whole' : '\n' ∉ outer.toList)
    {layers : List Layer} (unbroken : ∀ layer ∈ layers, '\n' ∉ layer.head) :
    Indents width further ∧ Marks mark outer ∧ Nested layers :=
  ⟨indents right right', marks whole whole', nested unbroken⟩

/-- A list in a quote, with a footnote in it. -/
theorem quoted_list_adds_up :
    (0 : Int) ≤ 3 ∧ (0 : Int) ≤ 4 ∧ '\n' ∉ "> ".toList ∧ '\n' ∉ "A> ".toList ∧
    (∀ layer ∈ [Layer.marked "> ", .item "1. ", .footnote "note"], '\n' ∉ layer.head) ∧
    Indents 3 4 ∧ Marks "> " "A> " ∧
      Nested [Layer.marked "> ", .item "1. ", .footnote "note"] := by
  have unbroken : ∀ layer ∈ [Layer.marked "> ", .item "1. ", .footnote "note"],
      '\n' ∉ layer.head := by
    simp [Layer.head]
  exact ⟨by decide, by decide, by decide, by decide, unbroken,
    layers_add_up (by decide) (by decide) (by decide) (by decide) unbroken⟩

/-- An empty line gets the mark of the quote around it and nothing else. -/
example : nest [.marked "> ", .item "1. "] "a\n\nb" = "> 1. a\n> \n>    b" := by cbv

end Markdown

end Manuscript
