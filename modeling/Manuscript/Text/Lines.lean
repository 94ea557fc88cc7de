/-!
# Lines

A text is cut into lines at the newline character and nowhere else, so there is always a first
line, which may be empty. `toChars_ofChars` and `ofChars_toChars` say that nothing is lost by
cutting, and that lines free of newlines come back as they were. The operations on whole texts
(`prefixLines`, `indentContinuation`, `endLine`) work line by line.
-/

namespace Manuscript.Text

/-- The lines of a text: the first one and those that follow a newline. -/
structure Lines where
  first : List Char
  rest : List (List Char)
deriving DecidableEq, Repr

namespace Lines

/-- Cuts a text at its newlines. -/
def ofChars : List Char → Lines
  | [] => ⟨[], []⟩
  | c :: cs =>
    let after := ofChars cs
    if c = '\n' then ⟨[], after.first :: after.rest⟩ else ⟨c :: after.first, after.rest⟩

/-- Joins lines with newlines. -/
def toChars (lines : Lines) : List Char := lines.first ++ lines.rest.flatMap ('\n' :: ·)

/-- All lines in order. -/
def toList (lines : Lines) : List (List Char) := lines.first :: lines.rest

/-- The same change made to every line. -/
def map (f : List Char → List Char) (lines : Lines) : Lines := ⟨f lines.first, lines.rest.map f⟩

/-- One change for the first line, another for all others. -/
def mapRest (f : List Char → List Char) (lines : Lines) : Lines :=
  ⟨lines.first, lines.rest.map f⟩

@[simp] theorem ofChars_nil : ofChars [] = ⟨[], []⟩ := rfl

@[simp] theorem ofChars_newline (cs : List Char) :
    ofChars ('\n' :: cs) = ⟨[], (ofChars cs).toList⟩ := by
  simp [ofChars, toList]

theorem ofChars_cons {c : Char} (h : c ≠ '\n') (cs : List Char) :
    ofChars (c :: cs) = ⟨c :: (ofChars cs).first, (ofChars cs).rest⟩ := by
  simp [ofChars, h]

@[simp] theorem toChars_ofChars (cs : List Char) : (ofChars cs).toChars = cs := by
  induction cs with
  | nil => rfl
  | cons c cs ih =>
    by_cases h : c = '\n'
    · subst h
      simpa [toChars, toList] using ih
    · simpa [toChars, ofChars_cons h] using ih

/-- A line without newlines is cut off whole. -/
theorem ofChars_append_newline {line : List Char} (h : '\n' ∉ line) (cs : List Char) :
    ofChars (line ++ '\n' :: cs) = ⟨line, (ofChars cs).toList⟩ := by
  induction line with
  | nil => simp
  | cons c line ih =>
    have hc : c ≠ '\n' := fun e => h (e ▸ List.mem_cons_self ..)
    have hl : '\n' ∉ line := fun m => h (List.mem_cons_of_mem _ m)
    rw [List.cons_append, ofChars_cons hc, ih hl]

theorem ofChars_of_not_mem {line : List Char} (h : '\n' ∉ line) : ofChars line = ⟨line, []⟩ := by
  induction line with
  | nil => rfl
  | cons c line ih =>
    have hc : c ≠ '\n' := fun e => h (e ▸ List.mem_cons_self ..)
    have hl : '\n' ∉ line := fun m => h (List.mem_cons_of_mem _ m)
    rw [ofChars_cons hc, ih hl]

theorem ofChars_toChars {lines : Lines} (h : ∀ line ∈ lines.toList, '\n' ∉ line) :
    ofChars lines.toChars = lines := by
  obtain ⟨first, rest⟩ := lines
  induction rest generalizing first with
  | nil => simpa [toChars] using ofChars_of_not_mem (h first (by simp [toList]))
  | cons line rest ih =>
    have ih' := ih line (fun l hl => h l (by
      simp only [toList] at hl ⊢
      exact List.mem_cons_of_mem _ hl))
    simp only [toChars, List.flatMap_cons, List.cons_append] at ih' ⊢
    rw [ofChars_append_newline (h first (by simp [toList])), ih']
    rfl

/-- No line holds a newline. -/
theorem newline_not_mem_of_mem {cs line : List Char} (h : line ∈ (ofChars cs).toList) :
    '\n' ∉ line := by
  induction cs generalizing line with
  | nil =>
    simp only [ofChars_nil, toList, List.mem_singleton] at h
    simp [h]
  | cons c cs ih =>
    by_cases hc : c = '\n'
    · subst hc
      simp only [ofChars_newline, toList, List.mem_cons] at h
      rcases h with rfl | h
      · simp
      · exact ih (by simpa [toList] using h)
    · simp only [ofChars_cons hc, toList, List.mem_cons] at h
      rcases h with rfl | h
      · have : '\n' ∉ (ofChars cs).first := ih (by simp [toList])
        simp [this, Ne.symm hc]
      · exact ih (by simp [toList, h])

end Lines

/-- A text changed as lines. -/
def onLines (f : Lines → Lines) (s : String) : String :=
  String.ofList (f (.ofChars s.toList)).toChars

/-- Puts a mark at the start of every line, blank lines included. -/
def prefixLines (mark s : String) : String := onLines (.map (mark.toList ++ ·)) s

/-- Moves a line to the right; an empty line stays empty. -/
def pad (width : Nat) (line : List Char) : List Char :=
  if line.isEmpty then line else List.replicate width ' ' ++ line

/-- Moves every line but the first to the right. A width below zero moves nothing. -/
def indentContinuation (width : Int) (s : String) : String := onLines (.mapRest (pad width.toNat)) s

/-- Ends the last line of a text with a newline. An empty text has no line to end. -/
def endLine (s : String) : String :=
  if s.isEmpty || s.toList.getLast? = some '\n' then s else s ++ "\n"

end Manuscript.Text
