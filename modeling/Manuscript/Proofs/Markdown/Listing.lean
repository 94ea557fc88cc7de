import Mathlib.Data.List.Basic
import Manuscript.Markdown.Convert
import Manuscript.Proofs.Outcome
import Manuscript.Proofs.Text.Hanging

/-!
# Reading lists back

The items of a list are any texts at all: with empty lines, with lines that look like the marker of
an item, with newlines at the end. Yet the text of the list tells where each of them begins and
ends, and how far its lines are indented:

* `readListing`: the markers and the items that a text lists;
* `IsMarker`: what it takes for a marker to be told from the item behind it;
* `isMarker_marker`: numbers of any length are such markers, and so are bullets that can be seen;
* `list_reads_back`: what is read of a list is its items.
-/

namespace Manuscript

/-- Numbers mark the items. -/
def Marking.isNumbered : Marking → Bool
  | .bullets => false
  | .numbers _ => true

namespace Markdown

open Text

/-- How wide the marker is that a line begins with: a number goes on to its dot, and a bullet is a
single character; a space follows either. -/
def markerWidth (numbered : Bool) (line : List Char) : Nat :=
  if numbered then (line.takeWhile (· != '.')).length + 2 else 2

/-- A line without so many spaces before it. An empty line stays as it is. -/
def unpad? (width : Nat) (line : List Char) : Option (List Char) :=
  if line.isEmpty then some line
  else if (List.replicate width ' ').isPrefixOf line then some (line.drop width)
  else none

/-- The marker and the text of an item, if its other lines are indented as far as its own marker is
wide. -/
def readItem (numbered : Bool) (item : Lines) : Option (String × String) := do
  let width := markerWidth numbered item.first
  let rest ← item.rest.mapM (unpad? width)
  let body : Lines := ⟨item.first.drop width, rest⟩
  return (String.ofList (item.first.take width), String.ofList body.toChars)

/-- The items in the lines of a list, which the lines at the margin begin. Loose ones are set apart
by a blank line. -/
def listedItems (tight : Bool) (text : String) : List Lines :=
  let found := items 1 (Lines.ofChars text.toList).toList
  if tight then found else unspaced found

theorem first_listedItems (tight : Bool) (text : String) :
    (listedItems tight text).map Lines.first = (Lines.ofChars text.toList).toList.filter
      fun line => !line.isEmpty && line.head? != some ' ' := by
  have heads : (items 1 (Lines.ofChars text.toList).toList).map Lines.first =
      (Lines.ofChars text.toList).toList.filter fun line =>
        !line.isEmpty && line.head? != some ' ' := by
    rw [first_items, funext begins_one]
  cases tight with
  | true => exact heads
  | false => exact (first_unspaced _).trans heads

/-- The markers and the texts of the items of a list. -/
def readListing (numbered tight : Bool) (text : String) : Option (List (String × String)) :=
  (listedItems tight text).mapM (readItem numbered)

/-! ## Markers -/

/-- A marker that can be told from the item behind it. -/
structure IsMarker (numbered : Bool) (marker : String) : Prop where
  unbroken : '\n' ∉ marker.toList
  visible : ∃ c rest, marker.toList = c :: rest ∧ c ≠ ' '
  wide : ∀ line, markerWidth numbered (marker.toList ++ line) = marker.length

theorem isDigit_of_mem_repr {n : Nat} {c : Char} (h : c ∈ n.repr.toList) : c.isDigit = true := by
  rw [Nat.toList_repr] at h
  exact Nat.isDigit_of_mem_toDigits (by decide) (by decide) h

/-- A whole number is written with digits, behind a minus sign if it is below zero. -/
theorem eq_or_isDigit_of_mem_toString {n : Int} {c : Char} (h : c ∈ (toString n).toList) :
    c = '-' ∨ c.isDigit = true := by
  rw [Int.toString_eq_repr] at h
  cases n with
  | ofNat n => exact .inr (isDigit_of_mem_repr h)
  | negSucc n =>
    rw [Int.repr, String.toList_append] at h
    rcases List.mem_append.1 h with sign | digits
    · exact .inl (List.mem_singleton.1 sign)
    · exact .inr (isDigit_of_mem_repr digits)

theorem isMarker_number (n : Int) : IsMarker true (toString n ++ ". ") := by
  have digits : ∀ c ∈ (toString n).toList, c ≠ '\n' ∧ c ≠ ' ' ∧ c ≠ '.' := by
    intro c hc
    rcases eq_or_isDigit_of_mem_toString hc with rfl | digit
    · decide
    · refine ⟨?_, ?_, ?_⟩ <;> rintro rfl <;> exact absurd digit (by decide)
  have split : (toString n ++ ". ").toList = (toString n).toList ++ ['.', ' '] := by simp
  refine ⟨?_, ?_, fun line => ?_⟩
  · rw [split]
    exact List.not_mem_append (fun newline => (digits _ newline).1 rfl) (by decide)
  · rw [split]
    cases front : (toString n).toList with
    | nil => exact ⟨'.', [' '], rfl, by decide⟩
    | cons c rest =>
      rw [front] at digits
      exact ⟨c, rest ++ ['.', ' '], rfl, (digits c List.mem_cons_self).2.1⟩
  · have number : ((toString n).toList ++ '.' :: ' ' :: line).takeWhile (· != '.') =
        (toString n).toList := by
      rw [List.takeWhile_append_of_pos fun c hc => by simpa using (digits c hc).2.2]
      simp
    rw [markerWidth, if_pos rfl, split, List.append_assoc, ← String.length_toList, split,
      List.length_append]
    exact congrArg (fun cs => cs.length + 2) number

theorem isMarker_bullet {c : Char} (visible : isBlank c = false) :
    IsMarker false (String.singleton c ++ " ") := by
  have split : (String.singleton c ++ " ").toList = [c, ' '] := by simp
  have seen : ∀ d, isBlank d = true → c ≠ d := by
    rintro _ blank rfl
    rw [visible] at blank
    cases blank
  refine ⟨?_, ?_, fun line => ?_⟩
  · rw [split]
    simpa using (seen '\n' (by decide)).symm
  · exact ⟨c, [' '], split, seen ' ' (by decide)⟩
  · rw [← String.length_toList, split]
    rfl

/-- The markers of a list can be told from its items, unless they are bullets that cannot be
seen. -/
theorem isMarker_marker {o : MarkdownOptions} {depth : Nat} {marking : Marking}
    (visible : marking = .bullets → isBlank (o.bullet depth) = false) (position : Nat) :
    IsMarker marking.isNumbered (marker o depth marking position) := by
  cases marking with
  | bullets => exact isMarker_bullet (visible rfl)
  | numbers start => exact isMarker_number (start + position)

/-! ## Items -/

/-- A line comes back when its indentation is taken away. -/
theorem unpad?_pad (width : Nat) (line : List Char) :
    unpad? width (pad width line) = some line := by
  unfold pad
  split
  next empty => rw [unpad?, if_pos empty]
  next visible =>
    have visible : ¬ (List.replicate width ' ' ++ line).isEmpty = true := by
      simpa using fun _ => visible
    have indented : List.replicate width ' ' <+: List.replicate width ' ' ++ line :=
      List.prefix_append _ line
    rw [unpad?, if_neg visible, if_pos (List.isPrefixOf_iff_prefix.2 indented),
      List.drop_left' (List.length_replicate ..)]

theorem mapM_unpad?_pad (width : Nat) (lines : List (List Char)) :
    (lines.map (pad width)).mapM (unpad? width) = some lines := by
  rw [mapM_map_eq_some (unpad?_pad width), List.map_id']

section
variable {numbered : Bool} {marker : String} (isMarker : IsMarker numbered marker) (item : String)
include isMarker

theorem lines_markedItem :
    Lines.ofChars (markedItem marker item).toList = hung marker.toList marker.length item := by
  rw [markedItem, String.toList_append]
  exact indentContinuation_lines isMarker.unbroken marker.length item

theorem hangs_markedItem : Hangs 1 (hung marker.toList marker.length item) := by
  obtain ⟨c, rest, split, visible⟩ := isMarker.visible
  have wide : 1 ≤ marker.length := by
    rw [← String.length_toList, split]
    exact Nat.succ_le_succ (Nat.zero_le _)
  rw [split]
  exact hangs_hung visible Nat.one_pos wide item

theorem readItem_hung :
    readItem numbered (hung marker.toList marker.length item) = some (marker, item) := by
  have wide : markerWidth numbered (hung marker.toList marker.length item).first =
      marker.toList.length := by
    rw [hung, isMarker.wide, String.length_toList]
  have below : (hung marker.toList marker.length item).rest.mapM (unpad? marker.toList.length) =
      some (Lines.ofChars item.toList).rest := by
    rw [String.length_toList]
    exact mapM_unpad?_pad marker.length _
  have whole : Lines.toChars ⟨(Lines.ofChars item.toList).first, (Lines.ofChars item.toList).rest⟩ =
      item.toList := Lines.toChars_ofChars item.toList
  simp only [readItem, wide, below]
  simp [hung, whole]

end

/-! ## Lists -/

/-- A text that is read as a list of these items. -/
structure Lists (numbered tight : Bool) (marker : Nat → String) (items : List String)
    (text : String) : Prop where
  /-- The lines that are neither empty nor indented are the first lines of the items, each behind
  its marker. -/
  heads : (Lines.ofChars text.toList).toList.filter
      (fun line => !line.isEmpty && line.head? != some ' ') =
    items.mapIdx fun position item =>
      (marker position).toList ++ (Lines.ofChars item.toList).first
  /-- The other lines belong to the items above them. -/
  read : readListing numbered tight text =
    some (items.mapIdx fun position item => (marker position, item))

section
variable {numbered tight : Bool} {marker : Nat → String}

/-- The items of a list as they hang from their markers. -/
def hungItems (marker : Nat → String) (items : List String) : List Lines :=
  items.mapIdx fun position item => hung (marker position).toList (marker position).length item

theorem map_mapIdx {α β γ : Type} (f : Nat → α → β) (g : β → γ) (xs : List α) :
    (xs.mapIdx f).map g = xs.mapIdx fun i x => g (f i x) := by
  rw [List.mapIdx_eq_zipIdx_map, List.mapIdx_eq_zipIdx_map, List.map_map]
  rfl

theorem mapM_mapIdx {α β γ : Type} {f : Nat → α → β} {g : β → Option γ} {h : Nat → α → γ}
    (each : ∀ i x, g (f i x) = some (h i x)) (xs : List α) :
    (xs.mapIdx f).mapM g = some (xs.mapIdx h) := by
  rw [List.mapIdx_eq_zipIdx_map, List.mapIdx_eq_zipIdx_map]
  exact mapM_map_eq_some (fun (x, i) => each i x) _

variable (isMarker : ∀ position, IsMarker numbered (marker position)) (items : List String)
include isMarker

theorem map_lines_markedItem :
    (((items.mapIdx fun position item => markedItem (marker position) item).map String.toList).map
      Lines.ofChars) = hungItems marker items := by
  rw [map_mapIdx, map_mapIdx, hungItems]
  simp only [lines_markedItem (isMarker _)]

theorem hangs_hungItems : ∀ item ∈ hungItems marker items, Hangs 1 item := by
  intro item hi
  obtain ⟨position, place, rfl⟩ := List.mem_mapIdx.1 hi
  exact hangs_markedItem (isMarker position) _

/-- The items of a list are found, whether it is tight or loose. -/
theorem listedItems_intercalate :
    listedItems tight ((if tight then "\n" else "\n\n").intercalate
      (items.mapIdx fun position item => markedItem (marker position) item)) =
      hungItems marker items := by
  have lines := map_lines_markedItem isMarker items
  have hang := hangs_hungItems isMarker items
  rw [listedItems, String.toList_intercalate]
  cases tight with
  | false =>
    have found := items_intercalate 1
      ((items.mapIdx fun position item => markedItem (marker position) item).map String.toList)
    rw [lines] at found
    exact (congrArg unspaced found).trans (unspaced_items hang)
  | true =>
    have found := items_intercalate_newline 1
      ((items.mapIdx fun position item => markedItem (marker position) item).map String.toList)
    rw [lines] at found
    exact found.trans (items_flatMap hang)

theorem lists_intercalate :
    Lists numbered tight marker items ((if tight then "\n" else "\n\n").intercalate
      (items.mapIdx fun position item => markedItem (marker position) item)) := by
  have found : listedItems tight _ = hungItems marker items :=
    listedItems_intercalate isMarker items
  constructor
  case heads =>
    have first : (hungItems marker items).map Lines.first = items.mapIdx fun position item =>
        (marker position).toList ++ (Lines.ofChars item.toList).first := map_mapIdx _ _ items
    rw [← first, ← found, first_listedItems]
  case read =>
    rw [readListing, found]
    exact mapM_mapIdx (fun position item => readItem_hung (isMarker position) item) items

end

/-- The markers of a list: its numbers, counted from the first one, before a dot and a space, or the
one bullet before a space. -/
def markerText (bullet : Char) : Marking → Nat → String
  | .numbers start, position => toString (start + position) ++ ". "
  | .bullets, _ => String.singleton bullet ++ " "

theorem marker_eq (o : MarkdownOptions) (depth : Nat) (marking : Marking) :
    marker o depth marking = markerText (o.bullet depth) marking := by
  cases marking <;> rfl

/-- **What is read of a list is its items, whatever they are.** -/
theorem list_reads_back {o : MarkdownOptions} {context : Context} {key : Nat} {marking : Marking}
    {tight : Bool} {nodes : List Node}
    (visible : marking = .bullets →
      isBlank (o.bullet (context.parents.listDepth ⟨key, .list marking tight nodes⟩)) = false)
    (items : List String) :
    ∃ text, (convert o context ⟨key, .list marking tight nodes⟩ items).result = .ok text ∧
      Lists marking.isNumbered tight
        (markerText (o.bullet (context.parents.listDepth ⟨key, .list marking tight nodes⟩)) marking)
        items text := by
  rw [← marker_eq]
  exact ⟨_, rfl, lists_intercalate (isMarker_marker visible) items⟩

/-- Items that look like two of them, like none, and like the marker of a number. -/
theorem errands_read_back :
    let context := Context.of ⟨0, .list .bullets false []⟩
    isBlank (MarkdownOptions.standard.bullet
      (context.parents.listDepth ⟨0, .list .bullets false []⟩)) = false ∧
    ∃ text, (convert .standard context ⟨0, .list .bullets false []⟩
        ["a\n* b\n\n", "", "9. c"]).result = .ok text ∧
      Lists false false (markerText (MarkdownOptions.standard.bullet
        (context.parents.listDepth ⟨0, .list .bullets false []⟩)) .bullets)
        ["a\n* b\n\n", "", "9. c"] text := by
  have visible : isBlank (MarkdownOptions.standard.bullet
      ((Context.of ⟨0, .list .bullets false []⟩).parents.listDepth
        ⟨0, .list .bullets false []⟩)) = false := by cbv
  exact ⟨visible, list_reads_back (fun _ => visible) ["a\n* b\n\n", "", "9. c"]⟩

end Markdown

end Manuscript
