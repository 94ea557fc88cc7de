import Mathlib.Algebra.Ring.Parity
import Mathlib.Data.List.DropRight
import Manuscript.Proofs.Markdown.Escape

/-!
# Reading images back

The alternative text of an image stands between brackets, with a backslash before each bracket of
its own. Its backslashes are written as they are, and a reader takes each of them for the escape of
what follows, so that the text does not always come back:

* `readAlt`: the text that is read, and what stands behind the bracket that closes it;
* `readAlt_eq_some_iff`: that is the first closing bracket without a backslash before it;
* `endsOdd_iff_isOpen`: whether the next character is escaped is told by the number of backslashes
  before it;
* `readable_shielded_iff`: when the text is closed by the bracket that was written for it;
* `readsBack_shielded_iff`: when all of it is read back;
* `image_reads_back_iff`: so images are written.
-/

namespace Manuscript.Markdown

/-- Reads an alternative text from behind the bracket that opens it, up to the first bare bracket
that closes it, and what is left behind that. The flag says whether a backslash stands before. -/
def readAlt (escaped : Bool) : List Char → Option (List Glyph × List Char)
  | [] => none
  | c :: cs =>
    if escaped then (readAlt false cs).map (Prod.map (⟨c, true⟩ :: ·) id)
    else if c = '\\' then readAlt true cs
    else if c = ']' then some ([], cs)
    else (readAlt false cs).map (Prod.map (⟨c, false⟩ :: ·) id)

/-- A character that encloses an alternative text. -/
def IsBracket (c : Char) : Prop := c = '[' ∨ c = ']'

instance : DecidablePred IsBracket := fun c => inferInstanceAs (Decidable (c = '[' ∨ c = ']'))

/-- An odd number of backslashes stands at the end. -/
def EndsOdd (cs : List Char) : Prop := Odd (cs.rtakeWhile (· == '\\')).length

/-- The alternative text is read from behind its opening bracket: it ends before the rest, and no
bracket in it is bare. -/
def ReadsBack (alt inside rest : List Char) : Prop :=
  ∃ glyphs, readAlt false inside = some (glyphs, rest) ∧ glyphs.map Glyph.char = alt ∧
    ∀ g ∈ glyphs, IsBracket g.char → g.escaped = true

/-! ## What is read -/

/-- What a reader makes of a text, character by character. The flag says whether a backslash stands
before the text. -/
inductive Reads : Bool → List Char → List Glyph → Prop where
  | done : Reads false [] []
  | escaped (c : Char) {cs : List Char} {glyphs : List Glyph} (h : Reads false cs glyphs) :
      Reads true (c :: cs) (⟨c, true⟩ :: glyphs)
  | backslash {cs : List Char} {glyphs : List Glyph} (h : Reads true cs glyphs) :
      Reads false ('\\' :: cs) glyphs
  | plain {c : Char} (other : c ≠ '\\') {cs : List Char} {glyphs : List Glyph}
      (h : Reads false cs glyphs) : Reads false (c :: cs) (⟨c, false⟩ :: glyphs)

/-- No closing bracket among the characters is bare. -/
def Enclosed (glyphs : List Glyph) : Prop := ∀ g ∈ glyphs, g.char = ']' → g.escaped = true

variable {escaped : Bool} {c : Char} {cs rest : List Char} {glyphs : List Glyph}

theorem enclosed_nil : Enclosed [] := fun _ hg => nomatch hg

theorem enclosed_cons {g : Glyph} :
    Enclosed (g :: glyphs) ↔ (g.char = ']' → g.escaped = true) ∧ Enclosed glyphs :=
  List.forall_mem_cons

theorem readAlt_of_reads (h : Reads escaped cs glyphs) (enclosed : Enclosed glyphs)
    (rest : List Char) : readAlt escaped (cs ++ ']' :: rest) = some (glyphs, rest) := by
  induction h with
  | done => rfl
  | escaped c _ ih => simp [readAlt, ih (enclosed_cons.1 enclosed).2]
  | backslash _ ih => simp [readAlt, ih enclosed]
  | @plain c other cs glyphs _ ih =>
    obtain ⟨here, later⟩ := enclosed_cons.1 enclosed
    have open_ : c ≠ ']' := fun closing => absurd (here closing) Bool.false_ne_true
    simp [readAlt, other, open_, ih later]

theorem reads_of_readAlt (read : readAlt escaped cs = some (glyphs, rest)) :
    ∃ inside, cs = inside ++ ']' :: rest ∧ Reads escaped inside glyphs ∧ Enclosed glyphs := by
  induction cs generalizing escaped glyphs with
  | nil => cases read
  | cons c cs ih =>
    cases escaped with
    | true =>
      obtain ⟨⟨later, _⟩, found, same⟩ := Option.map_eq_some_iff.1 read
      cases same
      obtain ⟨inside, rfl, reads, enclosed⟩ := ih found
      exact ⟨c :: inside, rfl, .escaped c reads, enclosed_cons.2 ⟨fun _ => rfl, enclosed⟩⟩
    | false =>
      by_cases backslash : c = '\\'
      · subst backslash
        obtain ⟨inside, rfl, reads, enclosed⟩ := ih read
        exact ⟨'\\' :: inside, rfl, .backslash reads, enclosed⟩
      by_cases closing : c = ']'
      · subst closing
        obtain ⟨rfl, rfl⟩ : [] = glyphs ∧ cs = rest := by simpa [readAlt] using read
        exact ⟨[], rfl, .done, enclosed_nil⟩
      · rw [readAlt, if_neg Bool.false_ne_true, if_neg backslash, if_neg closing] at read
        obtain ⟨⟨later, _⟩, found, same⟩ := Option.map_eq_some_iff.1 read
        cases same
        obtain ⟨inside, rfl, reads, enclosed⟩ := ih found
        exact ⟨c :: inside, rfl, .plain backslash reads,
          enclosed_cons.2 ⟨(absurd · closing), enclosed⟩⟩

/-- What is read ends before the first closing bracket that is bare. -/
theorem readAlt_eq_some_iff :
    readAlt escaped cs = some (glyphs, rest) ↔
      ∃ inside, cs = inside ++ ']' :: rest ∧ Reads escaped inside glyphs ∧ Enclosed glyphs := by
  constructor
  · exact reads_of_readAlt
  · rintro ⟨inside, rfl, reads, enclosed⟩
    exact readAlt_of_reads reads enclosed rest

/-- A reader passes over one backslash for each character that is escaped. -/
theorem Reads.length (h : Reads escaped cs glyphs) :
    cs.length + escaped.toNat = glyphs.length + glyphs.countP Glyph.escaped := by
  induction h with
  | done => rfl
  | escaped c _ ih =>
    simp at ih ⊢
    omega
  | backslash _ ih =>
    simp at ih ⊢
    omega
  | plain _ _ ih =>
    simp at ih ⊢
    omega

/-- A backslash is only read behind another one. -/
theorem Reads.escaped_of_backslash (h : Reads escaped cs glyphs) :
    ∀ g ∈ glyphs, g.char = '\\' → g.escaped = true := by
  induction h with
  | done => exact fun _ hg => nomatch hg
  | escaped c _ ih => exact List.forall_mem_cons.2 ⟨fun _ => rfl, ih⟩
  | backslash _ ih => exact ih
  | plain other _ ih => exact List.forall_mem_cons.2 ⟨fun same => absurd same other, ih⟩

/-- A text can be read as a whole and has no bare closing bracket. -/
def Readable (escaped : Bool) (cs : List Char) : Prop :=
  ∃ glyphs, Reads escaped cs glyphs ∧ Enclosed glyphs

theorem readable_nil : Readable escaped [] ↔ escaped = false := by
  constructor
  · rintro ⟨_, reads, -⟩
    cases reads
    rfl
  · rintro rfl
    exact ⟨[], .done, enclosed_nil⟩

theorem readable_escaped : Readable true (c :: cs) ↔ Readable false cs := by
  constructor
  · rintro ⟨_, reads, enclosed⟩
    cases reads with
    | escaped _ later => exact ⟨_, later, (enclosed_cons.1 enclosed).2⟩
  · rintro ⟨glyphs, reads, enclosed⟩
    exact ⟨_, .escaped c reads, enclosed_cons.2 ⟨fun _ => rfl, enclosed⟩⟩

theorem readable_backslash : Readable false ('\\' :: cs) ↔ Readable true cs := by
  constructor
  · rintro ⟨glyphs, reads, enclosed⟩
    cases reads with
    | backslash later => exact ⟨glyphs, later, enclosed⟩
    | plain other _ => exact absurd rfl other
  · rintro ⟨glyphs, reads, enclosed⟩
    exact ⟨glyphs, .backslash reads, enclosed⟩

theorem readable_plain (other : c ≠ '\\') :
    Readable false (c :: cs) ↔ c ≠ ']' ∧ Readable false cs := by
  constructor
  · rintro ⟨_, reads, enclosed⟩
    cases reads with
    | backslash _ => exact absurd rfl other
    | plain _ later =>
      obtain ⟨here, enclosed⟩ := enclosed_cons.1 enclosed
      exact ⟨fun closing => absurd (here closing) Bool.false_ne_true, _, later, enclosed⟩
  · rintro ⟨open_, glyphs, reads, enclosed⟩
    exact ⟨_, .plain other reads, enclosed_cons.2 ⟨(absurd · open_), enclosed⟩⟩

/-! ## Backslashes at the end -/

/-- A reader that has come to the end takes the next character as it is. -/
def isOpen (escaped : Bool) (cs : List Char) : Bool :=
  cs.foldl (fun escaped c => !escaped && c == '\\') escaped

theorem isOpen_cons (escaped : Bool) (c : Char) (cs : List Char) :
    isOpen escaped (c :: cs) = isOpen (!escaped && c == '\\') cs := rfl

theorem isOpen_concat (escaped : Bool) (cs : List Char) (c : Char) :
    isOpen escaped (cs ++ [c]) = (!isOpen escaped cs && c == '\\') := List.foldl_concat ..

theorem endsOdd_iff_isOpen (cs : List Char) : EndsOdd cs ↔ isOpen false cs = true := by
  induction cs using List.reverseRecOn with
  | nil => simp [EndsOdd, isOpen]
  | append_singleton cs c ih =>
    rw [isOpen_concat]
    by_cases backslash : c = '\\'
    · subst backslash
      have longer : EndsOdd (cs ++ ['\\']) ↔ ¬ EndsOdd cs := by
        rw [EndsOdd, List.rtakeWhile_concat_pos _ _ _ (by simp), List.length_append,
          List.length_singleton, Nat.odd_add_one]
        rfl
      simp [longer, ih]
    · have none : ¬ EndsOdd (cs ++ [c]) := by
        rw [EndsOdd, List.rtakeWhile_concat_neg _ _ _ (by simpa using backslash)]
        simp
      simp [none, backslash]

/-! ## Brackets of the text -/

/-- A text with a backslash before every bracket. -/
def shielded (cs : List Char) : List Char :=
  cs.flatMap fun c => if ['[', ']'].contains c then ['\\', c] else [c]

theorem toList_escapeOnly_brackets (s : String) :
    (escapeOnly ['[', ']'] s).toList = shielded s.toList := String.toList_ofList

theorem shielded_bracket (bracket : IsBracket c) (cs : List Char) :
    shielded (c :: cs) = '\\' :: c :: shielded cs := by
  rw [shielded, List.flatMap_cons, if_pos (by simpa [IsBracket] using bracket)]
  rfl

theorem shielded_cons (other : ¬ IsBracket c) (cs : List Char) :
    shielded (c :: cs) = c :: shielded cs := by
  rw [shielded, List.flatMap_cons, if_neg (by simpa [IsBracket] using other)]
  rfl

theorem shielded_append (cs ds : List Char) : shielded (cs ++ ds) = shielded cs ++ shielded ds :=
  List.flatMap_append

theorem length_shielded (cs : List Char) :
    (shielded cs).length = cs.length + cs.countP (fun c => decide (IsBracket c)) := by
  induction cs with
  | nil => rfl
  | cons c cs ih =>
    by_cases bracket : IsBracket c
    · rw [shielded_bracket bracket]
      simp [bracket, ih]
      omega
    · rw [shielded_cons bracket]
      simp [bracket, ih]
      omega

theorem IsBracket.ne_backslash (bracket : IsBracket c) : c ≠ '\\' := by
  rintro rfl
  exact absurd bracket (by decide)

theorem isOpen_shielded (escaped : Bool) (cs : List Char) :
    isOpen escaped (shielded cs) = isOpen escaped cs := by
  induction cs generalizing escaped with
  | nil => rfl
  | cons c cs ih =>
    by_cases bracket : IsBracket c
    · have other : (c == '\\') = false := by simpa using bracket.ne_backslash
      rw [shielded_bracket bracket, isOpen_cons, isOpen_cons, isOpen_cons, ih]
      simp [other]
    · rw [shielded_cons bracket, isOpen_cons, isOpen_cons, ih]

/-- A bracket of the text is escaped unless a backslash stands before it that is not. -/
theorem endsOdd_shielded_iff (front : List Char) :
    EndsOdd (shielded front ++ ['\\']) ↔ ¬ EndsOdd front := by
  rw [endsOdd_iff_isOpen, endsOdd_iff_isOpen, isOpen_concat, isOpen_shielded]
  simp

/-- No backslash takes a closing bracket for itself, neither at the end of the text nor before a
closing bracket in it. -/
def ClosesFrom (escaped : Bool) (cs : List Char) : Prop :=
  ∀ front back, cs = front ++ back → (back = [] ∨ back.head? = some ']') →
    isOpen escaped front = false

theorem closesFrom_nil : ClosesFrom escaped [] ↔ escaped = false := by
  constructor
  · intro closes
    exact closes [] [] rfl (.inl rfl)
  · rintro rfl front back split -
    rw [(List.append_eq_nil_iff.1 split.symm).1]
    rfl

theorem closesFrom_cons :
    ClosesFrom escaped (c :: cs) ↔
      (c = ']' → escaped = false) ∧ ClosesFrom (!escaped && c == '\\') cs := by
  constructor
  · intro closes
    constructor
    · rintro rfl
      exact closes [] (']' :: cs) rfl (.inr rfl)
    · intro front back split next
      exact closes (c :: front) back (by rw [split, List.cons_append]) next
  · rintro ⟨here, later⟩ front back split next
    cases front with
    | nil =>
      obtain rfl : c :: cs = back := split
      have closing : c = ']' := by simpa using next
      exact here closing
    | cons d front =>
      obtain ⟨rfl, rest⟩ := List.cons.inj split
      exact later front back rest next

/-- When the text is closed by the bracket that was written for it. -/
theorem readable_shielded_iff (escaped : Bool) (cs : List Char) :
    Readable escaped (shielded cs) ↔ ClosesFrom escaped cs := by
  induction cs generalizing escaped with
  | nil => exact readable_nil.trans closesFrom_nil.symm
  | cons c cs ih =>
    rw [closesFrom_cons, ← ih]
    by_cases bracket : IsBracket c
    · have other : (c == '\\') = false := by simpa using bracket.ne_backslash
      rw [shielded_bracket bracket, other, Bool.and_false]
      cases escaped with
      | true =>
        -- The backslash that was written is read as one, and the bracket is bare.
        rw [readable_escaped, readable_plain bracket.ne_backslash]
        simp
      | false =>
        rw [readable_backslash, readable_escaped]
        simp
    · have open_ : c ≠ ']' := fun closing => bracket (.inr closing)
      rw [shielded_cons bracket]
      cases escaped with
      | true =>
        rw [readable_escaped]
        simp [open_]
      | false =>
        by_cases backslash : c = '\\'
        · subst backslash
          rw [readable_backslash]
          simp
        · have plain : (c == '\\') = false := by simpa using backslash
          rw [readable_plain backslash, plain]
          simp [open_]

/-! ## The whole text -/

/-- If brackets and backslashes are all escaped, at least as many characters are escaped as there
are of both. -/
theorem countP_escaped_ge
    (special : ∀ g ∈ glyphs, IsBracket g.char ∨ g.char = '\\' → g.escaped = true) :
    glyphs.countP (fun g => decide (IsBracket g.char)) + (glyphs.map Glyph.char).count '\\' ≤
      glyphs.countP Glyph.escaped := by
  induction glyphs with
  | nil => simp
  | cons g glyphs ih =>
    have rest := ih fun h hh => special h (List.mem_cons_of_mem g hh)
    have here := special g List.mem_cons_self
    by_cases bracket : IsBracket g.char
    · simp [bracket, bracket.ne_backslash, here (.inl bracket)]
      omega
    by_cases backslash : g.char = '\\'
    · have other : ¬ IsBracket '\\' := by decide
      simp [backslash, other, here (.inr backslash)]
      omega
    · simp [bracket, backslash, List.countP_cons]
      omega

theorem reads_shielded (free : '\\' ∉ cs) :
    Reads false (shielded cs) (cs.map fun c => ⟨c, decide (IsBracket c)⟩) := by
  induction cs with
  | nil => exact .done
  | cons c cs ih =>
    have rest := ih fun among => free (List.mem_cons_of_mem c among)
    by_cases bracket : IsBracket c
    · rw [shielded_bracket bracket, List.map_cons, decide_eq_true bracket]
      exact .backslash (.escaped c rest)
    · have other : c ≠ '\\' := fun same => free (same ▸ List.mem_cons_self)
      rw [shielded_cons bracket, List.map_cons, decide_eq_false bracket]
      exact .plain other rest

/-- Behind the text, the first bare closing bracket is the one that was written for it. -/
theorem readAlt_shielded_iff :
    readAlt false (shielded cs ++ ']' :: rest) = some (glyphs, rest) ↔
      Reads false (shielded cs) glyphs ∧ Enclosed glyphs := by
  rw [readAlt_eq_some_iff]
  constructor
  · rintro ⟨inside, split, reads, enclosed⟩
    rw [List.append_cancel_right split]
    exact ⟨reads, enclosed⟩
  · rintro ⟨reads, enclosed⟩
    exact ⟨shielded cs, rfl, reads, enclosed⟩

/-- The whole text is read back exactly if it holds no backslash. -/
theorem readsBack_shielded_iff :
    ReadsBack cs (shielded cs ++ ']' :: rest) rest ↔ '\\' ∉ cs := by
  constructor
  · rintro ⟨glyphs, read, whole, brackets⟩
    have reads := (readAlt_shielded_iff.1 read).1
    -- No more characters are escaped than there are brackets, so that no backslash is.
    have length := reads.length
    have special := countP_escaped_ge fun g (hg : g ∈ glyphs) kind =>
      kind.elim (brackets g hg) (reads.escaped_of_backslash g hg)
    have same : glyphs.length = cs.length := by rw [← whole, List.length_map]
    have count : glyphs.countP (fun g => decide (IsBracket g.char)) =
        cs.countP fun c => decide (IsBracket c) := by
      rw [← whole, List.countP_map]
      rfl
    rw [length_shielded, Bool.toNat_false] at length
    rw [whole] at special
    apply List.count_eq_zero.1
    omega
  · intro free
    have enclosed : Enclosed (cs.map fun c => ⟨c, decide (IsBracket c)⟩) := by
      intro g hg closing
      obtain ⟨c, -, rfl⟩ := List.mem_map.1 hg
      exact decide_eq_true (.inr closing)
    refine ⟨_, readAlt_shielded_iff.2 ⟨reads_shielded free, enclosed⟩, ?_, ?_⟩
    · rw [List.map_map]
      exact List.map_id cs
    · intro g hg bracket
      obtain ⟨c, -, rfl⟩ := List.mem_map.1 hg
      exact decide_eq_true bracket

/-! ## Images -/

/-- What comes of an alternative text. -/
structure AltText (alt inside rest : List Char) : Prop where
  /-- It is closed by the bracket that was written for it exactly if an even number of backslashes
  stands at its end and before each closing bracket of its own. -/
  closes : (∃ glyphs, readAlt false inside = some (glyphs, rest)) ↔
    ∀ front back, alt = front ++ back → (back = [] ∨ back.head? = some ']') → ¬ EndsOdd front
  /-- A bracket of the text is written bare exactly if an odd number of backslashes stands before
  it. -/
  brackets : ∀ front c back, alt = front ++ c :: back → IsBracket c →
    ∃ before, inside = before ++ c :: (shielded back ++ ']' :: rest) ∧
      (¬ EndsOdd before ↔ EndsOdd front)
  whole : ReadsBack alt inside rest ↔ '\\' ∉ alt

theorem altText_shielded (alt rest : List Char) :
    AltText alt (shielded alt ++ ']' :: rest) rest := by
  constructor
  case closes =>
    have closes := readable_shielded_iff false alt
    simp only [ClosesFrom, ← Bool.not_eq_true, ← endsOdd_iff_isOpen] at closes
    simp only [readAlt_shielded_iff]
    exact closes
  case brackets =>
    intro front c back split bracket
    refine ⟨shielded front ++ ['\\'], ?_, ?_⟩
    · rw [split, shielded_append, shielded_bracket bracket]
      simp
    · rw [endsOdd_shielded_iff, not_not]
  case whole => exact readsBack_shielded_iff

/-- **The alternative text of an image is read back exactly if it holds no backslash.** -/
theorem image_reads_back_iff (o : MarkdownOptions) (context : Context) (key : Nat)
    (url alt : String) (title : Option String) (fragments : List String) :
    ∃ text inside, (convert o context ⟨key, .image url alt title⟩ fragments).result = .ok text ∧
      text.toList = '!' :: '[' :: inside ∧ (addressed url title).toList.head? = some '(' ∧
      AltText alt.toList inside (addressed url title).toList := by
  refine ⟨image url alt title, shielded alt.toList ++ ']' :: (addressed url title).toList, rfl,
    ?_, ?_, altText_shielded _ _⟩
  · simp [image, toList_escapeOnly_brackets]
  · unfold addressed
    split <;> simp

/-- A backslash at the end of the text takes the bracket that should close it. -/
theorem bracket_taken :
    ¬ ∀ (o : MarkdownOptions) (context : Context) (key : Nat) (url alt : String)
      (title : Option String) (fragments : List String) (text : String),
      (convert o context ⟨key, .image url alt title⟩ fragments).result = .ok text →
        ∃ inside, text.toList = '!' :: '[' :: inside ∧
          ReadsBack alt.toList inside (addressed url title).toList := by
  intro whole
  obtain ⟨inside, split, glyphs, read, -⟩ :=
    whole .standard (Context.of ⟨0, .document []⟩) 1 "u" "a\\" none [] _ rfl
  have text : (image "u" "a\\" none).toList = '!' :: '[' :: "a\\](u)".toList := by decide
  obtain rfl : inside = "a\\](u)".toList := by
    simpa using split.symm.trans text
  have unread : readAlt false "a\\](u)".toList = none := by decide
  rw [unread] at read
  cases read

end Manuscript.Markdown
