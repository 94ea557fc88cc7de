import Mathlib
import Manuscript.Proofs.Document.Shown
import Manuscript.Proofs.Leanpub.Calls
import Manuscript.Proofs.Markdown.Carried

/-!
# What can be read in a book

A book shows the texts of its document, but for what is below tables, footnote definitions, images
and links that are left out:

* `visibleTexts`: the texts that are shown, in document order;
* `convert_carries_texts`: by the rules of a book a node carries the texts of its children, and its
  own if it is a text;
* `transcode_shows_texts`: the body of a book has all of them, whole and in order.
-/

namespace Manuscript.Leanpub

open Text

/-- What is below the node is not shown in a book. -/
def hides (o : LeanpubOptions) (n : Node) : Bool :=
  match n.body with
  | .table .. | .footnoteDefinition .. => true
  | .link target _ _ => linkUse o target == .image || linkUse o target == .nothing
  | _ => false

/-- The texts that a book shows of a node, in document order. -/
def visibleTexts (o : LeanpubOptions) (n : Node) : List String :=
  (n.shown (hides o)).filterMap Node.text?

abbrev visible (o : LeanpubOptions) (n : Node) : List (List Char) :=
  n.shownTexts (hides o) (Node.picked Node.text?)

section
variable {target : Target} {texts : List (List Char)} {description : String}

theorem carries_crossReference (target : Target) (h : Carries texts description.toList) :
    Carries texts (crossReference target description).toList := by
  unfold crossReference
  split
  next empty =>
    rw [String.isEmpty_iff.1 empty] at h
    exact h.of_empty _
  next =>
    have carried := h.between "[" ("](#" ++ target.path ++ ")")
    simpa only [String.append_assoc] using carried

theorem carries_externalLink (target : Target) (h : Carries texts description.toList) :
    Carries texts (externalLink target description).toList := by
  unfold externalLink
  split
  next empty =>
    rw [String.isEmpty_iff.1 empty] at h
    exact h.of_empty _
  next =>
    have carried := h.between "[" ("](" ++ target.uri ++ ")")
    simpa only [String.append_assoc] using carried

theorem carries_anchored (identifier : Option String) {heading : String}
    (h : Carries texts heading.toList) : Carries texts (anchored identifier heading).toList := by
  unfold anchored
  split
  next identifier _ =>
    have carried := h.behind ("\x7b#" ++ identifier ++ "\x7d\n").toList
    rwa [← String.toList_append] at carried
  next => exact h

end

namespace Export

variable {x : Export} {renderCaption : List Node → Outcome RenderError String}
  {marks : Node → List (List Char)} {n : Node} {fragments : List String} {text : String}

theorem carries_link {target : Target} {texts : List (List Char)} {description : String}
    (image : linkUse x.options target ≠ .image) (nothing : linkUse x.options target ≠ .nothing)
    (carried : Carries texts description.toList)
    (h : (x.link renderCaption n target description).result = .ok text) :
    Carries texts text.toList := by
  unfold link at h
  cases use : linkUse x.options target with
  | crossReference =>
    rw [use] at h
    cases h
    exact carries_crossReference target carried
  | image => exact absurd use image
  | external =>
    rw [use] at h
    cases h
    exact carries_externalLink target carried
  | description =>
    rw [use] at h
    cases h
    exact carried
  | nothing => exact absurd use nothing

theorem generic_carries (h : (x.generic n fragments).result = .ok text)
    (each : Carrying marks n.children fragments)
    (whole : ∀ c ∈ n.children, ∀ t ∈ marks c, Unbroken t) :
    Carries (n.children.flatMap marks) text.toList :=
  (Markdown.convert_carries h each whole).sublist (List.sublist_append_right ..)

/-- A node of a book carries what the fragments of its children do, and what it shows itself. -/
theorem convert_carries_texts (rules : x.rules = .leanpub)
    (h : (x.convert renderCaption n fragments).result = .ok text)
    (whole : ∀ t ∈ visible x.options n, Unbroken t)
    (each : hides x.options n = false → Carrying (visible x.options) n.children fragments) :
    Carries (visible x.options n) text.toList := by
  rw [convert_result, rules] at h
  have below : hides x.options n = false →
      ∀ c ∈ n.children, ∀ t ∈ visible x.options c, Unbroken t :=
    fun shows c hc t ht => whole t (Node.mem_shownTexts_of_child shows hc ht)
  rw [visible, Node.shownTexts_eq]
  obtain ⟨key, body⟩ := n
  cases body with
  | text s => cases h; exact carries_self text.toList
  | table header rows alignments => exact .nil _
  | footnoteDefinition label content => exact .nil _
  | link target content title =>
    by_cases hidden : hides x.options ⟨key, .link target content title⟩
    · rw [if_pos hidden]
      exact .nil _
    · rw [if_neg hidden]
      have shows := Bool.eq_false_iff.2 hidden
      have uses : ¬ (linkUse x.options target = .image ∨ linkUse x.options target = .nothing) := by
        simpa [hides, Node.body] using hidden
      exact carries_link (mt .inl uses) (mt .inr uses) (carries_join (each shows)) h
  | heading level content identifier =>
    obtain ⟨written, here, rest⟩ := Outcome.bind_result_eq_ok_iff.1 h
    cases rest
    exact carries_anchored identifier (generic_carries here (each rfl) (below rfl))
  | styled style content =>
    have here : (x.generic ⟨key, .styled style content⟩ fragments).result = .ok text := by
      cases style <;> exact h
    exact generic_carries here (each rfl) (below rfl)
  | document | paragraph | blockQuote | list | listItem | tableRow | tableCell =>
    exact generic_carries h (each rfl) (below rfl)
  | _ => exact .nil _

theorem transcodeWithin_carries_texts (rules : x.rules = .leanpub) (depth : Nat)
    (h : (x.transcodeWithin depth n).result = .ok text)
    (whole : ∀ t ∈ visible x.options n, Unbroken t) :
    Carries (visible x.options n) text.toList := by
  cases depth with
  | zero => exact fold_carries (fun _ _ _ => convert_carries_texts rules) n h whole
  | succ depth => exact fold_carries (fun _ _ _ => convert_carries_texts rules) n h whole

/-- **No text that is shown is lost, altered or moved.** -/
theorem transcode_shows_texts (options : LeanpubOptions) (environment : Environment) (root : Node)
    {body : String}
    (written : (transcode ⟨options, .leanpub, environment, Context.of root⟩ root).result = .ok body)
    (plain : ∀ t ∈ visibleTexts options root, '\n' ∉ t.toList ∧ '|' ∉ t.toList) :
    InOrder (visibleTexts options root) body := by
  have whole : ∀ t ∈ visible options root, Unbroken t := by
    intro t ht
    rw [visible, Node.shownTexts_picked] at ht
    obtain ⟨s, hs, rfl⟩ := List.mem_map.1 ht
    exact plain s hs
  have carried := transcodeWithin_carries_texts rfl _ written whole
  rw [visible, Node.shownTexts_picked] at carried
  exact carried.inOrder

/-- Texts in a quoted list item and astray in a table cell, and one in a link that is left out. -/
def medley : Node :=
  ⟨0, .document
    [⟨1, .blockQuote
        [⟨2, .list (.numbers 9) true
          [⟨3, .listItem none
            [⟨4, .paragraph [⟨5, .text "go"⟩] []⟩, ⟨6, .paragraph [⟨7, .text "on"⟩] []⟩]⟩]⟩]⟩,
      ⟨8, .tableCell
        [⟨9, .code "a|b"⟩, ⟨10, .text "stray"⟩,
          ⟨11, .link ⟨"fuzzy", "x"⟩ [⟨12, .text "lost"⟩] none⟩]⟩]⟩

theorem medley_visibleTexts : visibleTexts .standard medley = ["go", "on", "stray"] := by
  cbv

theorem medley_shows_texts :
    (∀ t ∈ visibleTexts .standard medley, '\n' ∉ t.toList ∧ '|' ∉ t.toList) ∧
      InOrder ["go", "on", "stray"] "> 9. go\n>    on\n\n`a\\|b`stray" := by
  have transcoded :
      (transcode ⟨.standard, .leanpub, ⟨"/home", "/"⟩, Context.of medley⟩ medley).result =
        .ok "> 9. go\n>    on\n\n`a\\|b`stray" := by
    cbv
  have plain : ∀ t ∈ visibleTexts .standard medley, '\n' ∉ t.toList ∧ '|' ∉ t.toList := by
    rw [medley_visibleTexts]
    decide
  have shown := transcode_shows_texts .standard ⟨"/home", "/"⟩ medley transcoded plain
  rw [medley_visibleTexts] at shown
  exact ⟨plain, shown⟩

end Export

end Manuscript.Leanpub
