import Manuscript.Text.Lines

/-!
# Items that hang from the margin

An item of a text begins at the margin, and its other lines are indented or empty. Items that
follow each other, with a blank line between them or none, can be told from each other again:

* `indentContinuation_lines`: the lines of a text that was hung behind a head;
* `items`, `unspaced`: lines cut into items, and the blank lines between these taken away;
* `unspaced_items`: nothing of an item is lost, and nothing is taken for an item that is none;
* `items_flatMap`: so it is if no blank line sets the items apart;
* `first_items`: the lines that begin items are those at the margin.
-/

namespace Manuscript.Text

/-- The line begins an item: it is not empty and not indented as far as the margin. -/
def begins (margin : Nat) (line : List Char) : Bool :=
  !line.isEmpty && !(List.replicate margin ' ').isPrefixOf line

/-- Lines cut into items, each with the lines up to the next one. -/
def items (margin : Nat) : List (List Char) → List Lines
  | [] => []
  | line :: lines =>
    if begins margin line then
      ⟨line, lines.takeWhile fun other => !begins margin other⟩ :: items margin lines
    else items margin lines

/-- Takes away a blank line at the end. -/
def Lines.dropBlank (lines : Lines) : Lines :=
  if lines.rest.getLast? = some [] then ⟨lines.first, lines.rest.dropLast⟩ else lines

/-- Takes away the blank line before each item but the first one. -/
def unspaced : List Lines → List Lines
  | [] => []
  | [item] => [item]
  | item :: next :: later => item.dropBlank :: unspaced (next :: later)

/-- The lines of items that are set apart by a blank line. -/
def spaced (items : List Lines) : List (List Char) :=
  [[]].intercalate (items.map Lines.toList)

/-- An item with its first line at the margin and no other one. -/
structure Hangs (margin : Nat) (item : Lines) : Prop where
  head : begins margin item.first = true
  below : ∀ line ∈ item.rest, begins margin line = false

variable {margin width : Nat} {line : List Char} {lines : List (List Char)} {item : Lines}
  {list : List Lines}

/-! ## Lines under a head -/

theorem begins_pad (far : margin ≤ width) (line : List Char) :
    begins margin (pad width line) = false := by
  unfold pad
  split
  next empty => simp [begins, empty]
  next =>
    have longer : List.replicate margin ' ' <+: List.replicate width ' ' ++ line := by
      refine List.IsPrefix.trans ?_ (List.prefix_append _ line)
      exact ⟨List.replicate (width - margin) ' ', by rw [List.replicate_append_replicate,
        Nat.add_sub_cancel' far]⟩
    simp [begins, List.isPrefixOf_iff_prefix.2 longer]

/-- A line comes back when its indentation is taken away. -/
theorem drop_pad (width : Nat) (line : List Char) : (pad width line).drop width = line := by
  unfold pad
  split
  next empty => rw [List.isEmpty_iff.1 empty, List.drop_nil]
  next => exact List.drop_left' (List.length_replicate ..)

theorem newline_not_mem_pad (whole : '\n' ∉ line) (width : Nat) : '\n' ∉ pad width line := by
  unfold pad
  split
  next => exact whole
  next =>
    intro among
    rcases List.mem_append.1 among with spaces | inside
    · exact absurd (List.eq_of_mem_replicate spaces) (by decide)
    · exact whole inside

/-- A text whose other lines are indented, behind a head for its first one. -/
def hung (head : List Char) (width : Nat) (s : String) : Lines :=
  ⟨head ++ (Lines.ofChars s.toList).first, (Lines.ofChars s.toList).rest.map (pad width)⟩

theorem indentContinuation_lines {head : List Char} (whole : '\n' ∉ head) (width : Int)
    (s : String) :
    Lines.ofChars (head ++ (indentContinuation width s).toList) = hung head width.toNat s := by
  have joined : head ++ (indentContinuation width s).toList = (hung head width.toNat s).toChars := by
    rw [indentContinuation, onLines, String.toList_ofList, Lines.toChars, Lines.toChars,
      ← List.append_assoc]
    rfl
  rw [joined]
  refine Lines.ofChars_toChars fun line hl => ?_
  have inside : ∀ {other}, other ∈ (Lines.ofChars s.toList).toList → '\n' ∉ other :=
    Lines.newline_not_mem_of_mem
  rcases List.mem_cons.1 hl with rfl | hl
  · intro among
    rcases List.mem_append.1 among with front | first
    · exact whole front
    · exact inside List.mem_cons_self first
  · obtain ⟨other, ho, rfl⟩ := List.mem_map.1 hl
    exact newline_not_mem_pad (inside (List.mem_cons_of_mem _ ho)) width.toNat

theorem begins_cons {c : Char} (visible : c ≠ ' ') (positive : 0 < margin) (rest : List Char) :
    begins margin (c :: rest) = true := by
  obtain ⟨before, rfl⟩ := Nat.exists_eq_add_one_of_ne_zero (Nat.ne_of_gt positive)
  simp [begins, List.replicate_succ, List.isPrefixOf, visible.symm]

/-- With a margin of one space, items begin with the lines that are neither empty nor indented. -/
theorem begins_one (line : List Char) :
    begins 1 line = (!line.isEmpty && line.head? != some ' ') := by
  cases line with
  | nil => rfl
  | cons c rest =>
    by_cases space : c = ' '
    · subst space
      rfl
    · rw [begins_cons space Nat.one_pos]
      simp [space]

theorem hangs_hung {c : Char} {head : List Char} (visible : c ≠ ' ') (positive : 0 < margin)
    (far : margin ≤ width) (s : String) : Hangs margin (hung (c :: head) width s) where
  head := begins_cons visible positive _
  below line hl := by
    obtain ⟨other, -, rfl⟩ := List.mem_map.1 hl
    exact begins_pad far other

/-- The text comes back when the indentation and the head are taken away. -/
theorem toChars_hung (head : List Char) (width : Nat) (s : String) :
    Lines.toChars ⟨(hung head width s).first.drop head.length,
      (hung head width s).rest.map (List.drop width)⟩ = s.toList := by
  have restored : (hung head width s).rest.map (List.drop width) =
      (Lines.ofChars s.toList).rest := by
    rw [hung, List.map_map]
    exact List.map_id'' (drop_pad width) _
  rw [restored, hung, List.drop_left]
  exact Lines.toChars_ofChars s.toList

/-! ## Lines of several items -/

theorem toList_ofChars_newline (cs ds : List Char) :
    (Lines.ofChars (cs ++ '\n' :: ds)).toList =
      (Lines.ofChars cs).toList ++ (Lines.ofChars ds).toList := by
  induction cs with
  | nil => rw [List.nil_append, Lines.ofChars_newline]; rfl
  | cons c cs ih =>
    by_cases newline : c = '\n'
    · subst newline
      rw [List.cons_append, Lines.ofChars_newline, Lines.ofChars_newline, ih]
      rfl
    · rw [List.cons_append, Lines.ofChars_cons newline, Lines.ofChars_cons newline]
      exact congrArg (List.modifyHead (c :: ·)) ih

/-- Texts that are set apart by a blank line, as lines. -/
theorem toList_ofChars_intercalate {chunks : List (List Char)} (some : chunks ≠ []) :
    (Lines.ofChars (['\n', '\n'].intercalate chunks)).toList =
      spaced (chunks.map Lines.ofChars) := by
  induction chunks with
  | nil => exact absurd rfl some
  | cons chunk chunks ih =>
    cases chunks with
    | nil => simp [spaced]
    | cons next later =>
      have rest := ih (List.cons_ne_nil next later)
      rw [List.intercalate_cons_cons, List.append_assoc, List.cons_append, toList_ofChars_newline,
        List.singleton_append, Lines.ofChars_newline]
      rw [spaced] at rest ⊢
      rw [List.map_cons, List.map_cons, List.map_cons, List.map_cons, List.intercalate_cons_cons]
      simp only [List.map_cons] at rest
      rw [← rest]
      simp [Lines.toList]

/-- Texts each of which begins on a line of its own, as lines. -/
theorem toList_ofChars_intercalate_newline {chunks : List (List Char)} (some : chunks ≠ []) :
    (Lines.ofChars (['\n'].intercalate chunks)).toList =
      (chunks.map Lines.ofChars).flatMap Lines.toList := by
  induction chunks with
  | nil => exact absurd rfl some
  | cons chunk chunks ih =>
    cases chunks with
    | nil => simp
    | cons next later =>
      have rest := ih (List.cons_ne_nil next later)
      rw [List.intercalate_cons_cons, List.append_assoc, List.singleton_append,
        toList_ofChars_newline, rest]
      rfl

theorem items_of_indented {below : List (List Char)}
    (indented : ∀ line ∈ below, begins margin line = false) (lines : List (List Char)) :
    items margin (below ++ lines) = items margin lines := by
  induction below with
  | nil => rfl
  | cons line below ih =>
    have rest := ih fun other ho => indented other (List.mem_cons_of_mem line ho)
    rw [List.cons_append, items, indented line List.mem_cons_self]
    exact rest

/-- An item is cut off whole if what follows begins another one. -/
theorem items_append (hangs : Hangs margin item)
    (next : ∀ line ∈ lines.head?, begins margin line = true) :
    items margin (item.toList ++ lines) = item :: items margin lines := by
  have stops : lines.takeWhile (fun line => !begins margin line) = [] := by
    cases lines with
    | nil => rfl
    | cons line lines => simp [next line rfl]
  have below : (item.rest ++ lines).takeWhile (fun line => !begins margin line) = item.rest := by
    rw [List.takeWhile_append_of_pos (by simpa using hangs.below), stops, List.append_nil]
  rw [Lines.toList, List.cons_append, items, if_pos hangs.head, below,
    items_of_indented hangs.below]

/-- Items that follow each other line by line can be told from each other. -/
theorem items_flatMap (hang : ∀ item ∈ list, Hangs margin item) :
    items margin (list.flatMap Lines.toList) = list := by
  induction list with
  | nil => rfl
  | cons item list ih =>
    have first := hang item List.mem_cons_self
    have rest := ih fun other ho => hang other (List.mem_cons_of_mem item ho)
    have next : ∀ line ∈ (list.flatMap Lines.toList).head?, begins margin line = true := by
      cases list with
      | nil => simp
      | cons other later =>
        rintro _ ⟨rfl⟩
        exact (hang other (by simp)).head
    rw [List.flatMap_cons, items_append first next, rest]

theorem Hangs.append_blank (hangs : Hangs margin item) :
    Hangs margin ⟨item.first, item.rest ++ [[]]⟩ where
  head := hangs.head
  below line hl := by
    rcases List.mem_append.1 hl with here | blank
    · exact hangs.below line here
    · rw [List.mem_singleton.1 blank]
      rfl

theorem dropBlank_append_blank (item : Lines) :
    Lines.dropBlank ⟨item.first, item.rest ++ [[]]⟩ = item := by
  simp [Lines.dropBlank]

theorem items_spaced_cons (hangs : Hangs margin item) {next : Lines}
    (also : Hangs margin next) (later : List Lines) :
    items margin (spaced (item :: next :: later)) =
      ⟨item.first, item.rest ++ [[]]⟩ :: items margin (spaced (next :: later)) := by
  have joined : spaced (item :: next :: later) =
      Lines.toList ⟨item.first, item.rest ++ [[]]⟩ ++ spaced (next :: later) := by
    simp [spaced, Lines.toList]
  rw [joined]
  refine items_append hangs.append_blank fun line hl => ?_
  have first : (spaced (next :: later)).head? = some next.first := by
    cases later <;> simp [spaced, Lines.toList]
  rw [first] at hl
  cases hl
  exact also.head

/-- Cut into items, texts that are set apart by a blank line are what their lines are. -/
theorem items_intercalate (margin : Nat) (chunks : List (List Char)) :
    items margin (Lines.ofChars (['\n', '\n'].intercalate chunks)).toList =
      items margin (spaced (chunks.map Lines.ofChars)) := by
  cases chunks with
  | nil => rfl
  | cons chunk chunks => rw [toList_ofChars_intercalate (List.cons_ne_nil chunk chunks)]

theorem items_intercalate_newline (margin : Nat) (chunks : List (List Char)) :
    items margin (Lines.ofChars (['\n'].intercalate chunks)).toList =
      items margin ((chunks.map Lines.ofChars).flatMap Lines.toList) := by
  cases chunks with
  | nil => rfl
  | cons chunk chunks => rw [toList_ofChars_intercalate_newline (List.cons_ne_nil chunk chunks)]

/-- **Items can be told from each other.** -/
theorem unspaced_items (hang : ∀ item ∈ list, Hangs margin item) :
    unspaced (items margin (spaced list)) = list := by
  induction list with
  | nil => rfl
  | cons item list ih =>
    have first := hang item List.mem_cons_self
    have rest := ih fun other ho => hang other (List.mem_cons_of_mem item ho)
    cases list with
    | nil =>
      have alone : items margin (item.toList ++ []) = [item] := items_append first (by simp)
      rw [List.append_nil] at alone
      simp [spaced, alone, unspaced]
    | cons next later =>
      have second := hang next (List.mem_cons_of_mem item List.mem_cons_self)
      rw [items_spaced_cons first second]
      -- There is an item after the blank line, so that it is taken away.
      cases cut : items margin (spaced (next :: later)) with
      | nil =>
        rw [cut] at rest
        cases rest
      | cons other others =>
        rw [unspaced, dropBlank_append_blank, ← cut, rest]

/-- Items begin with the lines at the margin. -/
theorem first_items (margin : Nat) (lines : List (List Char)) :
    (items margin lines).map Lines.first = lines.filter (begins margin) := by
  induction lines with
  | nil => rfl
  | cons line lines ih =>
    cases head : begins margin line with
    | true => rw [items, if_pos head, List.map_cons, ih, List.filter_cons_of_pos head]
    | false => rw [items, head, List.filter_cons_of_neg (by simp [head])]; exact ih

theorem first_dropBlank (item : Lines) : item.dropBlank.first = item.first := by
  unfold Lines.dropBlank
  split <;> rfl

theorem first_unspaced (list : List Lines) :
    (unspaced list).map Lines.first = list.map Lines.first := by
  fun_induction unspaced list with
  | case1 => rfl
  | case2 => rfl
  | case3 item next later ih => rw [List.map_cons, List.map_cons, first_dropBlank, ih]

end Manuscript.Text
