import Mathlib.Data.List.Forall2
import Manuscript.Markdown.Escape
import Manuscript.Markdown.Tidy
import Manuscript.Text.Join
import Manuscript.Text.Lines

/-!
# Texts carried by a text

What a renderer writes holds texts of the document between marks of its own:

* `Carries`: texts stand in another one whole and in order, with anything between them;
* `carries_flatten`, `carries_intercalate`, `carries_joinNonempty`: what fragments carry is carried
  by the fragments put together;
* `Respelled`: one text is another one with some characters spelled otherwise;
* `Carries.respelled`: texts that have no such character are carried still;
* `Carries.trimEnd`: trimming takes none of them away that ends in something that can be seen.
-/

namespace Manuscript.Text

/-- The texts stand in a text one after the other, each behind a gap and the last one before a
rest. -/
inductive Carries : List (List Char) → List Char → Prop where
  | nil (rest : List Char) : Carries [] rest
  | cons (gap text : List Char) {texts : List (List Char)} {rest : List Char}
      (h : Carries texts rest) : Carries (text :: texts) (gap ++ text ++ rest)

/-- The texts stand in a text one after the other: each one behind a gap, and a rest after them. -/
def InOrder (texts : List String) (s : String) : Prop :=
  ∃ gaps : List String, ∃ rest : String, gaps.length = texts.length ∧
    s = String.join (List.zipWith (· ++ ·) gaps texts) ++ rest

section
variable {texts others : List (List Char)} {cs ds : List Char}

theorem Carries.behind (gap : List Char) (h : Carries texts cs) : Carries texts (gap ++ cs) := by
  cases h with
  | nil rest => exact .nil _
  | cons before text h =>
    have carried := Carries.cons (gap ++ before) text h
    simpa only [List.append_assoc] using carried

theorem Carries.append (h : Carries texts cs) (h' : Carries others ds) :
    Carries (texts ++ others) (cs ++ ds) := by
  induction h with
  | nil rest => exact h'.behind rest
  | cons gap text _ ih =>
    have carried := Carries.cons gap text ih
    simpa only [List.append_assoc, List.cons_append] using carried

theorem Carries.before (h : Carries texts cs) (rest : List Char) : Carries texts (cs ++ rest) := by
  have carried := h.append (.nil rest)
  rwa [List.append_nil] at carried

theorem Carries.between {texts : List (List Char)} {s : String} (h : Carries texts s.toList)
    (opening closing : String) : Carries texts (opening ++ s ++ closing).toList := by
  have carried := (h.behind opening.toList).before closing.toList
  rwa [← String.toList_append, ← String.toList_append] at carried

/-- What an empty text carries is carried by every text. -/
theorem Carries.of_empty (h : Carries texts []) (cs : List Char) : Carries texts cs := h.before cs

theorem Carries.sublist (h : Carries texts cs) (fewer : others.Sublist texts) :
    Carries others cs := by
  induction h generalizing others with
  | nil rest =>
    rw [List.sublist_nil.1 fewer]
    exact .nil rest
  | cons gap text _ ih =>
    cases fewer with
    | cons _ fewer => exact (ih fewer).behind (gap ++ text)
    | cons_cons _ fewer => exact .cons gap text (ih fewer)

/-- A text carries itself. -/
theorem carries_self (text : List Char) : Carries [text] text := by
  have carried := Carries.cons [] text (.nil [])
  rwa [List.nil_append, List.append_nil] at carried

theorem Carries.infix_of_mem (h : Carries texts cs) {text : List Char} (ht : text ∈ texts) :
    text <:+: cs := by
  have alone : Carries [text] cs := h.sublist (List.singleton_sublist.2 ht)
  cases alone with
  | cons gap _ h => exact ⟨gap, _, rfl⟩

theorem Carries.inOrder {texts : List String} {s : String}
    (h : Carries (texts.map String.toList) s.toList) : InOrder texts s := by
  generalize carried : texts.map String.toList = lists at h
  generalize whole : s.toList = cs at h
  induction h generalizing texts s with
  | nil rest =>
    obtain rfl := List.map_eq_nil_iff.1 carried
    exact ⟨[], s, rfl, by simp⟩
  | @cons gap text lists rest _ ih =>
    obtain ⟨t, ts, rfl, rfl, later⟩ := List.map_eq_cons_iff.1 carried
    obtain ⟨gaps, last, same, split⟩ := ih later (String.toList_ofList (l := rest))
    refine ⟨String.ofList gap :: gaps, last, by simp [same], ?_⟩
    rw [← String.toList_inj, whole, List.zipWith_cons_cons]
    have end_eq : rest = (String.join (List.zipWith (· ++ ·) gaps ts) ++ last).toList := by
      rw [← split, String.toList_ofList]
    rw [end_eq]
    simp

end

/-! ## Fragments put together -/

section
variable {texts : List (List (List Char))} {fragments : List (List Char)}

theorem carries_flatten (each : List.Forall₂ Carries texts fragments) :
    Carries texts.flatten fragments.flatten := by
  induction each with
  | nil => exact .nil _
  | cons first _ ih => exact first.append ih

theorem carries_intercalate_cons {first : List (List Char)} {fragment : List Char}
    {later : List (List Char)} (separator : List Char) (h : Carries first fragment)
    (h' : Carries later (separator.intercalate fragments)) :
    Carries (first ++ later) (separator.intercalate (fragment :: fragments)) := by
  cases fragments with
  | nil =>
    have carried := h.append h'
    simpa using carried
  | cons next fragments =>
    have carried := h.append (h'.behind separator)
    simpa using carried

theorem carries_intercalate (separator : List Char) (each : List.Forall₂ Carries texts fragments) :
    Carries texts.flatten (separator.intercalate fragments) := by
  induction each with
  | nil => exact .nil _
  | cons first _ ih => exact carries_intercalate_cons separator first ih

end

section
variable {α : Type} {marks : α → List (List Char)} {items : List α} {fragments : List String}

/-- The fragments carry the texts that go with the items, one fragment for each item. -/
abbrev Carrying (marks : α → List (List Char)) : List α → List String → Prop :=
  List.Forall₂ fun item fragment => Carries (marks item) fragment.toList

theorem Carrying.forall₂ (each : Carrying marks items fragments) :
    List.Forall₂ Carries (items.map marks) (fragments.map String.toList) :=
  List.forall₂_map_left_iff.2 (List.forall₂_map_right_iff.2 each)

theorem carrying_mapIdx (each : Carrying marks items fragments) {f : Nat → String → String}
    (keeps : ∀ item ∈ items, ∀ position fragment, Carries (marks item) fragment.toList →
      Carries (marks item) (f position fragment).toList) :
    Carrying marks items (fragments.mapIdx f) := by
  induction each generalizing f with
  | nil => exact .nil
  | @cons item fragment items fragments first _ ih =>
    rw [List.mapIdx_cons]
    refine .cons (keeps item List.mem_cons_self 0 fragment first) (ih fun other ho position => ?_)
    exact keeps other (List.mem_cons_of_mem item ho) (position + 1)

theorem carries_join (each : Carrying marks items fragments) :
    Carries (items.flatMap marks) (String.join fragments).toList := by
  have carried := carries_flatten each.forall₂
  rwa [← List.flatMap_def, ← List.flatMap_def, ← String.toList_join] at carried

theorem carries_intercalate_fragments (separator : String) (each : Carrying marks items fragments) :
    Carries (items.flatMap marks) (separator.intercalate fragments).toList := by
  have carried := carries_intercalate separator.toList each.forall₂
  rwa [← List.flatMap_def, ← String.toList_intercalate] at carried

/-- Fragments that are left out because they are empty carry nothing that can be lost. -/
theorem carries_joinNonempty (separator : String) (each : Carrying marks items fragments) :
    Carries (items.flatMap marks) (joinNonempty separator fragments).toList := by
  unfold joinNonempty
  induction each with
  | nil => exact .nil _
  | @cons item fragment items fragments first _ ih =>
    rw [List.flatMap_cons]
    by_cases empty : fragment.isEmpty
    · have nothing : Carries (marks item) [] := by
        rw [String.isEmpty_iff.1 empty] at first
        exact first
      rw [List.filter_cons_of_neg (by simp [empty])]
      exact nothing.append ih
    · rw [List.filter_cons_of_pos (by simp [empty]), String.toList_intercalate, List.map_cons]
      rw [String.toList_intercalate] at ih
      exact carries_intercalate_cons separator.toList first ih

end

/-! ## Spelling -/

/-- The second text is the first one with the characters that are free spelled in any way and all
others as they were. -/
inductive Respelled (free : Char → Prop) : List Char → List Char → Prop where
  | nil : Respelled free [] []
  | keep (c : Char) {cs ds : List Char} (h : Respelled free cs ds) :
      Respelled free (c :: cs) (c :: ds)
  | spell {c : Char} (hc : free c) (spelling : List Char) {cs ds : List Char}
      (h : Respelled free cs ds) : Respelled free (c :: cs) (spelling ++ ds)

section
variable {free : Char → Prop} {cs cs' ds ds' : List Char}

theorem Respelled.refl (cs : List Char) : Respelled free cs cs := by
  induction cs with
  | nil => exact .nil
  | cons c cs ih => exact .keep c ih

theorem Respelled.append (h : Respelled free cs ds) (h' : Respelled free cs' ds') :
    Respelled free (cs ++ cs') (ds ++ ds') := by
  induction h with
  | nil => exact h'
  | keep c _ ih => exact .keep c ih
  | spell hc spelling _ ih =>
    rw [List.cons_append, List.append_assoc]
    exact .spell hc spelling ih

/-- The parts of a text are spelled one after the other. -/
theorem Respelled.exists_split (h : Respelled free (cs ++ cs') ds) :
    ∃ first second, ds = first ++ second ∧ Respelled free cs first ∧ Respelled free cs' second := by
  induction cs generalizing ds with
  | nil => exact ⟨[], ds, rfl, .nil, h⟩
  | cons c cs ih =>
    cases h with
    | keep _ h =>
      obtain ⟨first, second, rfl, hf, hs⟩ := ih h
      exact ⟨c :: first, second, rfl, .keep c hf, hs⟩
    | spell hc spelling h =>
      obtain ⟨first, second, rfl, hf, hs⟩ := ih h
      exact ⟨spelling ++ first, second, by rw [List.append_assoc], .spell hc spelling hf, hs⟩

theorem Respelled.eq_of_bound (h : Respelled free cs ds) (bound : ∀ c ∈ cs, ¬ free c) :
    ds = cs := by
  induction h with
  | nil => rfl
  | keep c _ ih => rw [ih fun d hd => bound d (List.mem_cons_of_mem c hd)]
  | spell hc spelling _ _ => exact absurd hc (bound _ List.mem_cons_self)

/-- Texts without free characters are carried whatever the others are spelled like. -/
theorem Carries.respelled {texts : List (List Char)} (h : Carries texts cs)
    (spelled : Respelled free cs ds) (bound : ∀ text ∈ texts, ∀ c ∈ text, ¬ free c) :
    Carries texts ds := by
  induction h generalizing ds with
  | nil rest => exact .nil ds
  | @cons gap text texts rest _ ih =>
    obtain ⟨front, rest', rfl, spelled, later⟩ := spelled.exists_split
    obtain ⟨gap', text', rfl, -, spelled⟩ := spelled.exists_split
    obtain rfl : text' = text := spelled.eq_of_bound (bound text List.mem_cons_self)
    exact .cons gap' text' (ih later fun t ht => bound t (List.mem_cons_of_mem _ ht))

theorem respelled_flatMap {f : Char → List Char} (same : ∀ c, ¬ free c → f c = [c])
    (cs : List Char) : Respelled free cs (cs.flatMap f) := by
  induction cs with
  | nil => exact .nil
  | cons c cs ih =>
    rw [List.flatMap_cons]
    by_cases hc : free c
    · exact .spell hc (f c) ih
    · rw [same c hc]
      exact .keep c ih

end

/-- A change that puts something before each line but the first spells the newlines otherwise. -/
theorem respelled_mapRest {f : List Char → List Char} (widens : ∀ line, ∃ gap, f line = gap ++ line)
    (lines : Lines) : Respelled (· = '\n') lines.toChars (lines.mapRest f).toChars := by
  obtain ⟨first, rest⟩ := lines
  refine .append (.refl first) ?_
  show Respelled _ (rest.flatMap ('\n' :: ·)) ((rest.map f).flatMap ('\n' :: ·))
  induction rest with
  | nil => exact .nil
  | cons line rest ih =>
    obtain ⟨gap, wider⟩ := widens line
    rw [List.map_cons, List.flatMap_cons, List.flatMap_cons, wider]
    have spelled : Respelled (· = '\n') ('\n' :: line) ('\n' :: gap ++ line) :=
      @Respelled.spell (· = '\n') '\n' rfl ('\n' :: gap) line line (.refl line)
    exact spelled.append ih

theorem respelled_indentContinuation (width : Int) (s : String) :
    Respelled (· = '\n') s.toList (indentContinuation width s).toList := by
  have widens : ∀ line, ∃ gap, pad width.toNat line = gap ++ line := by
    intro line
    unfold pad
    split
    · exact ⟨[], rfl⟩
    · exact ⟨_, rfl⟩
  have spelled := respelled_mapRest widens (Lines.ofChars s.toList)
  rw [Lines.toChars_ofChars] at spelled
  rwa [indentContinuation, onLines, String.toList_ofList]

/-- The first line gets the mark, too. -/
theorem prefixLines_eq (mark s : String) :
    (prefixLines mark s).toList =
      mark.toList ++ ((Lines.ofChars s.toList).mapRest (mark.toList ++ ·)).toChars := by
  rw [prefixLines, onLines, String.toList_ofList, Lines.map, Lines.mapRest, Lines.toChars,
    Lines.toChars, List.append_assoc]

section
variable {texts : List (List Char)} {s : String}

theorem Carries.prefixLines (h : Carries texts s.toList) (mark : String)
    (whole : ∀ text ∈ texts, '\n' ∉ text) : Carries texts (prefixLines mark s).toList := by
  have spelled := respelled_mapRest (fun line => ⟨mark.toList, rfl⟩) (Lines.ofChars s.toList)
  rw [Lines.toChars_ofChars] at spelled
  rw [prefixLines_eq]
  refine Carries.behind mark.toList (h.respelled spelled fun text ht c hc same => ?_)
  exact whole text ht (same ▸ hc)

theorem Carries.indentContinuation (h : Carries texts s.toList) (width : Int)
    (whole : ∀ text ∈ texts, '\n' ∉ text) : Carries texts (indentContinuation width s).toList := by
  refine h.respelled (respelled_indentContinuation width s) fun text ht c hc same => ?_
  exact whole text ht (same ▸ hc)

theorem Carries.escapeOnly (h : Carries texts s.toList) (chars : List Char)
    (whole : ∀ text ∈ texts, ∀ c ∈ text, c ∉ chars) :
    Carries texts (Markdown.escapeOnly chars s).toList := by
  have kept : ∀ c, c ∉ chars → (if chars.contains c then ['\\', c] else [c]) = [c] := by
    intro c hc
    rw [if_neg (by simpa using hc)]
  have spelled := respelled_flatMap kept s.toList
  rw [Markdown.escapeOnly, String.toList_ofList]
  exact h.respelled spelled whole

end

/-! ## Tidy text -/

theorem respelled_unifyNewlines (cs : List Char) :
    Respelled (fun c => c = '\n' ∨ c = '\r') cs (Markdown.unifyNewlines cs) := by
  fun_induction Markdown.unifyNewlines cs with
  | case1 => exact .nil
  | case2 cs ih => exact .spell (.inr rfl) [] (.keep '\n' ih)
  | case3 cs _ ih => exact .spell (.inr rfl) ['\n'] ih
  | case4 c cs _ _ ih => exact .keep c ih

theorem respelled_collapseNewlines (seen : Nat) (cs : List Char) :
    Respelled (fun c => c = '\n' ∨ c = '\r') cs (Markdown.collapseNewlines seen cs) := by
  fun_induction Markdown.collapseNewlines seen cs with
  | case1 => exact .nil
  | case2 seen cs _ ih => exact .keep '\n' ih
  | case3 seen cs _ ih => exact .spell (.inl rfl) [] ih
  | case4 seen c cs _ ih => exact .keep c ih

/-- White space at the end holds no text that ends in something else. -/
theorem Carries.of_append_blank {texts : List (List Char)} {cs tail : List Char}
    (h : Carries texts (cs ++ tail)) (blank : ∀ c ∈ tail, isBlank c = true)
    (seen : ∀ text ∈ texts, ∃ front c, text = front ++ [c] ∧ isBlank c = false) :
    Carries texts cs := by
  generalize whole : cs ++ tail = all at h
  induction h generalizing cs with
  | nil rest => exact .nil cs
  | @cons gap text texts rest _ ih =>
    rcases List.append_eq_append_iff.1 whole with ⟨middle, split, rfl⟩ | ⟨middle, rfl, rfl⟩
    · -- The text would end within the white space, unless it ends where that begins.
      obtain ⟨front, c, rfl, visible⟩ := seen text List.mem_cons_self
      have none : middle = [] := by
        by_contra some
        have last : middle.getLast some = c := by
          have ends := congrArg List.getLast? split
          simpa [List.getLast?_append, List.getLast?_eq_some_getLast some] using ends.symm
        have white := blank c (List.mem_append_left _ (last ▸ List.getLast_mem some))
        rw [visible] at white
        cases white
      subst none
      have later : Carries texts []  :=
        ih (fun t ht => seen t (List.mem_cons_of_mem _ ht)) rfl
      rw [List.append_nil] at split
      have carried := Carries.cons gap (front ++ [c]) later
      rwa [List.append_nil, split] at carried
    · exact .cons gap text (ih (fun t ht => seen t (List.mem_cons_of_mem _ ht)) rfl)

theorem Carries.trimEnd {texts : List (List Char)} {cs : List Char} (h : Carries texts cs)
    (seen : ∀ text ∈ texts, ∃ front c, text = front ++ [c] ∧ isBlank c = false) :
    Carries texts (trimEnd cs) := by
  obtain ⟨tail, split, blank⟩ := exists_eq_trimEnd_append cs
  rw [split] at h
  exact h.of_append_blank blank seen

theorem Carries.tidy {texts : List (List Char)} {s : String} (h : Carries texts s.toList)
    (o : MarkdownOptions) (whole : ∀ text ∈ texts, '\n' ∉ text ∧ '\r' ∉ text)
    (seen : ∀ text ∈ texts, ∃ front c, text = front ++ [c] ∧ isBlank c = false) :
    Carries texts (Markdown.tidy o s).toList := by
  have bound : ∀ text ∈ texts, ∀ c ∈ text, ¬ (c = '\n' ∨ c = '\r') := by
    rintro text ht c hc (rfl | rfl)
    · exact (whole text ht).1 hc
    · exact (whole text ht).2 hc
  have unified := h.respelled (respelled_unifyNewlines s.toList) bound
  rw [Markdown.tidy, String.toList_ofList, Markdown.tidyChars]
  refine Carries.trimEnd ?_ seen
  split
  · exact unified.respelled (respelled_collapseNewlines 0 _) bound
  · exact unified

end Manuscript.Text
