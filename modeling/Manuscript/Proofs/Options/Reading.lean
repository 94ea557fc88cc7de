import Manuscript.Proofs.Document.Refilled
import Manuscript.Proofs.Options.Checks

/-!
# Choices of the types that are meant

Admitted choices that have the types of their fields are the values of options:

* `Annotated`, `Valid`: the values have these types, and then the ranges that are meant;
* `Shows`, `shows_of_options?`: what is read from choices shows the same values;
* `exists_options?`: choices that are admitted and have these types can be read.
-/

namespace Manuscript

/-- A value is of the type that is meant. -/
def Annotation.Fits : Annotation → Setting → Prop
  | truth, value => ∃ b, value = .bool b
  | whole, value => ∃ n, value.int? = some n
  | text, value => ∃ s, value = .text s
  | texts, value => ∃ ss : List String, value = .tuple (ss.map .text)

/-- Every value has the type of its field. -/
def Annotated (o : Choices) : Prop :=
  ∀ field ∈ o.optionsClass.fields, field.2.Fits (o.value field.1)

/-- The values that are meant for generic Markdown. -/
structure ValidMarkdown (o : Choices) : Prop extends AdmittedMarkdown o where
  someBullets : ∃ s, s ≠ "" ∧ o.value "bullet_symbols" = .text s
  leastFence : ∃ n, 3 ≤ n ∧ o.value "code_fence_min" = .int n

/-- The values that are meant for a book. -/
structure ValidLeanpub (o : Choices) : Prop extends ValidMarkdown o where
  links : ∃ s ∈ ["drop", "text"], o.value "unsupported_link_mode" = .text s
  extensions : ∃ es : List String, (∀ e ∈ es, e ≠ "" ∧ e.toList.head? ≠ some '.') ∧
    o.value "image_extensions" = .tuple (es.map .text)

/-- The values that are meant for the options of a class. -/
def Valid (o : Choices) : Prop :=
  match o.optionsClass with
  | .base => True
  | .markdown => ValidMarkdown o
  | .leanpub => ValidLeanpub o

/-- The first value shows what is made of the second one: a truth value counts as one or zero where
a number is asked for. -/
def Setting.Same (a b : Setting) : Prop := a = b ∨ ∃ n, a = .int n ∧ b.int? = some n

/-- A field is shown with what is chosen for it. -/
def ShownAs (shown chosen : String × Setting) : Prop :=
  shown.1 = chosen.1 ∧ shown.2.Same chosen.2

/-- Options have the values that are chosen. -/
def Shows (t : Options) (o : Choices) : Prop := List.Forall₂ ShownAs t.settings o.settings

/-! ## Single values -/

section
variable {value : Setting}

theorem Setting.int?_eq_some_iff {n : Int} (enough : 3 ≤ n) :
    value.int? = some n ↔ value = .int n := by
  constructor
  · intro h
    cases value with
    | int m => exact congrArg Setting.int (Option.some.inj h)
    | bool b =>
      cases Option.some.inj h
      cases b <;> exact absurd enough (by decide)
    | _ => cases h
  · rintro rfl
    rfl

theorem Setting.same_text_iff {s : String} : (Setting.text s).Same value ↔ value = .text s := by
  simp [Setting.Same, eq_comm]

theorem Setting.same_int_iff {n : Int} (enough : 3 ≤ n) :
    (Setting.int n).Same value ↔ value = .int n := by
  rw [← Setting.int?_eq_some_iff enough]
  constructor
  · rintro (rfl | ⟨m, same, number⟩)
    · rfl
    · cases same
      exact number
  · exact fun number => .inr ⟨n, rfl, number⟩

theorem Setting.bool?_eq_some_iff {b : Bool} : value.bool? = some b ↔ value = .bool b := by
  cases value <;> simp [Setting.bool?]

theorem Setting.text?_eq_some_iff {s : String} : value.text? = some s ↔ value = .text s := by
  cases value <;> simp [Setting.text?]

theorem Setting.mapM_text?_eq_some_iff {items : List Setting} {texts : List String} :
    items.mapM Setting.text? = some texts ↔ items = texts.map .text := by
  induction items generalizing texts with
  | nil => cases texts <;> simp
  | cons item items ih =>
    rw [List.mapM_cons]
    cases texts <;> simp [Option.bind_eq_some_iff, ih, Setting.text?_eq_some_iff]

theorem Setting.texts?_eq_some_iff {texts : List String} :
    value.texts? = some texts ↔ value = .tuple (texts.map .text) := by
  cases value <;> simp [Setting.texts?, Setting.mapM_text?_eq_some_iff]

section
variable {α : Type} {marks : List α} {name : α → String}

theorem Setting.mark?_eq_some {mark : α} (h : value.mark? marks name = some mark) :
    value = .text (name mark) := by
  cases value with
  | text s =>
    have named : (name mark == s) = true := List.find?_some (p := fun mark => name mark == s) h
    rw [eq_of_beq named]
  | _ => cases h

theorem Setting.exists_mark? (h : ∃ s ∈ marks.map name, value = .text s) :
    ∃ mark, value.mark? marks name = some mark := by
  obtain ⟨s, among, rfl⟩ := h
  obtain ⟨mark, marked, rfl⟩ := List.mem_map.1 among
  exact Option.isSome_iff_exists.1 (List.find?_isSome.2 ⟨mark, marked, beq_self_eq_true _⟩)

end

theorem readBullets?_eq_some_iff {bullets : { cs : List Char // cs ≠ [] }} :
    readBullets? value = some bullets ↔ value = .text (String.ofList bullets.1) := by
  obtain ⟨cs, some⟩ := bullets
  constructor
  · intro h
    obtain ⟨s, text, h⟩ := Option.bind_eq_some_iff.1 h
    split at h
    · cases h
      rw [Setting.text?_eq_some_iff.1 text, String.ofList_toList]
    · cases h
  · rintro rfl
    simp [readBullets?, Setting.text?, some]

theorem readFenceMin?_eq_some_iff {least : { n : Nat // 3 ≤ n }} :
    readFenceMin? value = some least ↔ value = .int least.1 := by
  obtain ⟨least, enough⟩ := least
  rw [← Setting.int?_eq_some_iff (by exact_mod_cast enough)]
  constructor
  · intro h
    obtain ⟨n, number, h⟩ := Option.bind_eq_some_iff.1 h
    split at h
    next =>
      cases h
      rw [number, Int.toNat_of_nonneg (by omega)]
    next => cases h
  · intro number
    simp [readFenceMin?, number, enough]

theorem readExtensions?_eq_some_iff {extensions : { es : List String // ∀ e ∈ es, IsExtension e }} :
    readExtensions? value = some extensions ↔ value = .tuple (extensions.1.map .text) := by
  obtain ⟨es, valid⟩ := extensions
  constructor
  · intro h
    obtain ⟨read, texts, h⟩ := Option.bind_eq_some_iff.1 h
    split at h
    · cases h
      exact Setting.texts?_eq_some_iff.1 texts
    · cases h
  · intro shown
    rw [readExtensions?, Setting.texts?_eq_some_iff.2 shown]
    exact dif_pos valid

theorem EmphasisMark.exists_read? (h : ∃ s ∈ ["*", "_"], value = .text s) :
    ∃ mark, read? value = some mark :=
  @Setting.exists_mark? value _ [asterisk, underscore] text h

theorem FenceMark.exists_read? (h : ∃ s ∈ ["`", "~"], value = .text s) :
    ∃ mark, read? value = some mark :=
  @Setting.exists_mark? value _ [backtick, tilde] (fun mark => String.singleton mark.char) h

theorem FenceMark.eq_text_of_read? {mark : FenceMark} (h : read? value = some mark) :
    value = .text (String.singleton mark.char) :=
  @Setting.mark?_eq_some value _ [backtick, tilde] (fun mark => String.singleton mark.char) mark h

theorem InlineMode.exists_read? (h : ∃ s ∈ ["html", "markdown", "ignore"], value = .text s) :
    ∃ mode, read? value = some mode :=
  @Setting.exists_mark? value _ [html, markdown, ignore] name h

theorem LinkMode.exists_read? (h : ∃ s ∈ ["drop", "text"], value = .text s) :
    ∃ mode, read? value = some mode :=
  @Setting.exists_mark? value _ [drop, text] name h

theorem exists_readBullets? {s : String} (filled : s ≠ "") :
    ∃ bullets, readBullets? (.text s) = some bullets := by
  have some : s.toList ≠ [] := mt String.toList_eq_nil_iff.1 filled
  exact ⟨⟨s.toList, some⟩, readBullets?_eq_some_iff.2 (by rw [String.ofList_toList])⟩

theorem exists_readFenceMin? {n : Int} (enough : 3 ≤ n) :
    ∃ least, readFenceMin? (.int n) = some least := by
  refine ⟨⟨n.toNat, by omega⟩, readFenceMin?_eq_some_iff.2 ?_⟩
  rw [Int.toNat_of_nonneg (by omega)]

end

/-! ## All values of a class -/

/-- A list that gives every name once is what is found in it under its names. -/
theorem eq_map_lookup {values : Settings} (distinct : (values.map Prod.fst).Nodup) :
    values = (values.map Prod.fst).map fun name => (name, (values.lookup name).getD .none) := by
  induction values with
  | nil => rfl
  | cons field values ih =>
    obtain ⟨name, value⟩ := field
    rw [List.map_cons, List.nodup_cons] at distinct
    obtain ⟨fresh, distinct⟩ := distinct
    rw [List.map_cons, List.map_cons, List.lookup_cons_self, Option.getD_some]
    congr 1
    refine (ih distinct).trans (List.map_congr_left fun other among => ?_)
    have apart : (other == name) = false := by
      rw [beq_eq_false_iff_ne]
      rintro rfl
      exact fresh among
    rw [List.lookup_cons, apart]

namespace Choices

variable {o : Choices}

theorem settings_eq (o : Choices) :
    o.settings = o.optionsClass.names.map fun name => (name, o.value name) := by
  rw [← o.names_eq]
  refine eq_map_lookup ?_
  rw [o.names_eq]
  cases o.optionsClass <;> decide

theorem lookup_eq_some_value {name : String} (known : name ∈ o.optionsClass.names) :
    o.settings.lookup name = some (o.value name) := by
  cases found : o.settings.lookup name with
  | some chosen => rw [value, found, Option.getD_some]
  | none =>
    rw [← o.names_eq, List.mem_map] at known
    obtain ⟨field, among, rfl⟩ := known
    have := List.lookup_eq_none_iff.1 found field among
    simp at this

/-- What is chosen for some of the fields. -/
def chosen (o : Choices) (fields : List (String × Annotation)) : Settings :=
  fields.map fun field => (field.1, o.value field.1)

theorem settings_eq_chosen (o : Choices) : o.settings = o.chosen o.optionsClass.fields := by
  rw [settings_eq, OptionsClass.names, List.map_map]
  rfl

theorem same_of_shown {shown values : Settings} (each : List.Forall₂ ShownAs shown values)
    {name : String} {a b : Setting} (first : shown.lookup name = some a)
    (second : values.lookup name = some b) : a.Same b := by
  have related := lookup_rel_labelled (R := fun _ => Setting.Same) each name
  rw [first, second] at related
  cases related with
  | some same => exact same

theorem base?_shown {t : BaseOptions} (h : o.base? = some t) :
    List.Forall₂ ShownAs t.settings (o.chosen BaseOptions.fields) := by
  obtain ⟨failOnDropped, read, h⟩ := Option.bind_eq_some_iff.1 h
  cases h
  exact .cons ⟨rfl, .inl (Setting.bool?_eq_some_iff.1 read).symm⟩ .nil

theorem markdown?_shown {t : MarkdownOptions} (h : o.markdown? = some t) :
    List.Forall₂ ShownAs t.settings (o.chosen MarkdownOptions.fields) := by
  obtain ⟨_, base, h⟩ := Option.bind_eq_some_iff.1 h
  obtain ⟨_, escapeSpecial, h⟩ := Option.bind_eq_some_iff.1 h
  obtain ⟨_, emphasis, h⟩ := Option.bind_eq_some_iff.1 h
  obtain ⟨⟨_, _⟩, bullets, h⟩ := Option.bind_eq_some_iff.1 h
  obtain ⟨_, fence, h⟩ := Option.bind_eq_some_iff.1 h
  obtain ⟨⟨_, _⟩, fenceMin, h⟩ := Option.bind_eq_some_iff.1 h
  obtain ⟨_, underline, h⟩ := Option.bind_eq_some_iff.1 h
  obtain ⟨_, superscript, h⟩ := Option.bind_eq_some_iff.1 h
  obtain ⟨_, subscript, h⟩ := Option.bind_eq_some_iff.1 h
  obtain ⟨_, collapseBlankLines, h⟩ := Option.bind_eq_some_iff.1 h
  obtain ⟨_, levelOffset, h⟩ := Option.bind_eq_some_iff.1 h
  cases h
  rw [MarkdownOptions.settings, MarkdownOptions.fields, chosen, List.map_append]
  refine List.rel_append (base?_shown base) ?_
  exact .cons ⟨rfl, .inl (Setting.bool?_eq_some_iff.1 escapeSpecial).symm⟩ <|
    .cons ⟨rfl, .inl (Setting.mark?_eq_some emphasis).symm⟩ <|
    .cons ⟨rfl, .inl (readBullets?_eq_some_iff.1 bullets).symm⟩ <|
    .cons ⟨rfl, .inl (Setting.mark?_eq_some fence).symm⟩ <|
    .cons ⟨rfl, .inl (readFenceMin?_eq_some_iff.1 fenceMin).symm⟩ <|
    .cons ⟨rfl, .inl (Setting.mark?_eq_some underline).symm⟩ <|
    .cons ⟨rfl, .inl (Setting.mark?_eq_some superscript).symm⟩ <|
    .cons ⟨rfl, .inl (Setting.mark?_eq_some subscript).symm⟩ <|
    .cons ⟨rfl, .inl (Setting.bool?_eq_some_iff.1 collapseBlankLines).symm⟩ <|
    .cons ⟨rfl, .inr ⟨_, rfl, levelOffset⟩⟩ .nil

theorem leanpub?_shown {t : LeanpubOptions} (h : o.leanpub? = some t) :
    List.Forall₂ ShownAs t.settings (o.chosen LeanpubOptions.fields) := by
  obtain ⟨_, markdown, h⟩ := Option.bind_eq_some_iff.1 h
  obtain ⟨⟨_, _⟩, imageExtensions, h⟩ := Option.bind_eq_some_iff.1 h
  obtain ⟨_, imageSchemes, h⟩ := Option.bind_eq_some_iff.1 h
  obtain ⟨_, externalSchemes, h⟩ := Option.bind_eq_some_iff.1 h
  obtain ⟨_, unsupportedLinks, h⟩ := Option.bind_eq_some_iff.1 h
  cases h
  rw [LeanpubOptions.settings, LeanpubOptions.fields, chosen, List.map_append]
  refine List.rel_append (markdown?_shown markdown) ?_
  exact .cons ⟨rfl, .inl (readExtensions?_eq_some_iff.1 imageExtensions).symm⟩ <|
    .cons ⟨rfl, .inl (Setting.texts?_eq_some_iff.1 imageSchemes).symm⟩ <|
    .cons ⟨rfl, .inl (Setting.texts?_eq_some_iff.1 externalSchemes).symm⟩ <|
    .cons ⟨rfl, .inl (Setting.mark?_eq_some unsupportedLinks).symm⟩ .nil

/-- What is read has the values that are chosen. -/
theorem shows_of_options? {t : Options} (h : o.options? = some t) : Shows t o := by
  rw [Shows, settings_eq_chosen]
  obtain ⟨cls, settings, names⟩ := o
  cases cls with
  | base =>
    obtain ⟨base, read, rfl⟩ := Option.map_eq_some_iff.1 h
    exact base?_shown read
  | markdown =>
    obtain ⟨markdown, read, rfl⟩ := Option.map_eq_some_iff.1 h
    exact markdown?_shown read
  | leanpub =>
    obtain ⟨leanpub, read, rfl⟩ := Option.map_eq_some_iff.1 h
    exact leanpub?_shown read

/-- Choices that are admitted and have the types that are meant are valid. -/
theorem validMarkdown_of_annotated
    (annotated : ∀ field ∈ MarkdownOptions.fields, field.2.Fits (o.value field.1))
    (admitted : AdmittedMarkdown o) : ValidMarkdown o where
  toAdmittedMarkdown := admitted
  someBullets := by
    obtain ⟨s, chosen⟩ := annotated ("bullet_symbols", .text) (by decide)
    refine ⟨s, ?_, chosen⟩
    rintro rfl
    have something := admitted.bullets
    rw [chosen] at something
    cases something
  leastFence := by
    obtain ⟨n, number⟩ := annotated ("code_fence_min", .whole) (by decide)
    have least := admitted.fenceMin
    generalize o.value "code_fence_min" = value at number least
    cases least with
    | whole number enough => exact ⟨_, enough, (Setting.int?_eq_some_iff enough).1 number⟩
    | finite | infinite | undefined => cases number

theorem validLeanpub_of_annotated
    (annotated : ∀ field ∈ LeanpubOptions.fields, field.2.Fits (o.value field.1))
    (admitted : AdmittedLeanpub o) : ValidLeanpub o where
  toValidMarkdown := validMarkdown_of_annotated
    (fun field among => annotated field (List.mem_append_left _ among)) admitted.toAdmittedMarkdown
  links := admitted.links
  extensions := by
    obtain ⟨es, chosen⟩ := annotated ("image_extensions", .texts) (by decide)
    refine ⟨es, fun e among => ?_, chosen⟩
    obtain ⟨items, has, each⟩ := admitted.extensions
    rw [chosen] at has
    cases has
    obtain ⟨_, ⟨⟩, some, undotted⟩ := each (.text e) (List.mem_map_of_mem among)
    exact ⟨mt String.toList_eq_nil_iff.2 some, undotted⟩

theorem valid_of_annotated (annotated : Annotated o) (admitted : Admitted o) : Valid o := by
  obtain ⟨cls, settings, names⟩ := o
  cases cls with
  | base => exact trivial
  | markdown => exact validMarkdown_of_annotated annotated admitted
  | leanpub => exact validLeanpub_of_annotated annotated admitted

theorem exists_base? (annotated : ∀ field ∈ BaseOptions.fields, field.2.Fits (o.value field.1)) :
    ∃ t, o.base? = some t := by
  obtain ⟨failOnDropped, chosen⟩ := annotated ("fail_on_dropped_content", .truth) (by decide)
  rw [base?, Setting.bool?_eq_some_iff.2 chosen]
  exact ⟨_, rfl⟩

theorem exists_markdown?
    (annotated : ∀ field ∈ MarkdownOptions.fields, field.2.Fits (o.value field.1))
    (valid : ValidMarkdown o) : ∃ t, o.markdown? = some t := by
  obtain ⟨base, readBase⟩ :=
    exists_base? fun field among => annotated field (List.mem_append_left _ among)
  obtain ⟨_, escapeSpecial⟩ := annotated ("escape_special", .truth) (by decide)
  obtain ⟨_, collapseBlankLines⟩ := annotated ("collapse_blank_lines", .truth) (by decide)
  obtain ⟨_, levelOffset⟩ := annotated ("heading_level_offset", .whole) (by decide)
  obtain ⟨_, emphasis⟩ := EmphasisMark.exists_read? valid.emphasis
  obtain ⟨_, fence⟩ := FenceMark.exists_read? valid.fence
  obtain ⟨_, underline⟩ := InlineMode.exists_read? (valid.modes "underline_mode" (by decide))
  obtain ⟨_, superscript⟩ := InlineMode.exists_read? (valid.modes "superscript_mode" (by decide))
  obtain ⟨_, subscript⟩ := InlineMode.exists_read? (valid.modes "subscript_mode" (by decide))
  obtain ⟨s, filled, bullets⟩ := valid.someBullets
  obtain ⟨_, readBullets⟩ := exists_readBullets? filled
  obtain ⟨n, enough, fenceMin⟩ := valid.leastFence
  obtain ⟨_, readFenceMin⟩ := exists_readFenceMin? enough
  rw [markdown?, readBase, Setting.bool?_eq_some_iff.2 escapeSpecial, emphasis, bullets,
    readBullets, fence, fenceMin, readFenceMin, underline, superscript, subscript,
    Setting.bool?_eq_some_iff.2 collapseBlankLines, levelOffset]
  exact ⟨_, rfl⟩

theorem exists_leanpub?
    (annotated : ∀ field ∈ LeanpubOptions.fields, field.2.Fits (o.value field.1))
    (valid : ValidLeanpub o) : ∃ t, o.leanpub? = some t := by
  obtain ⟨markdown, readMarkdown⟩ := exists_markdown?
    (fun field among => annotated field (List.mem_append_left _ among)) valid.toValidMarkdown
  obtain ⟨_, imageSchemes⟩ := annotated ("image_link_types", .texts) (by decide)
  obtain ⟨_, externalSchemes⟩ := annotated ("external_link_schemes", .texts) (by decide)
  obtain ⟨_, links⟩ := LinkMode.exists_read? valid.links
  obtain ⟨es, each, extensions⟩ := valid.extensions
  have readExtensions : readExtensions? (.tuple (es.map .text)) = some ⟨es, fun e among =>
      ⟨mt String.toList_eq_nil_iff.1 (each e among).1, (each e among).2⟩⟩ :=
    readExtensions?_eq_some_iff.2 rfl
  rw [leanpub?, readMarkdown, extensions, readExtensions,
    Setting.texts?_eq_some_iff.2 imageSchemes, Setting.texts?_eq_some_iff.2 externalSchemes, links]
  exact ⟨_, rfl⟩

/-- Choices that are valid and have the types that are meant make options. -/
theorem exists_options? (annotated : Annotated o) (valid : Valid o) :
    ∃ t, o.options? = some t := by
  obtain ⟨cls, settings, names⟩ := o
  cases cls with
  | base =>
    obtain ⟨t, read⟩ := exists_base? annotated
    exact ⟨.base t, Option.map_eq_some_iff.2 ⟨t, read, rfl⟩⟩
  | markdown =>
    obtain ⟨t, read⟩ := exists_markdown? annotated valid
    exact ⟨.markdown t, Option.map_eq_some_iff.2 ⟨t, read, rfl⟩⟩
  | leanpub =>
    obtain ⟨t, read⟩ := exists_leanpub? annotated valid
    exact ⟨.leanpub t, Option.map_eq_some_iff.2 ⟨t, read, rfl⟩⟩

end Choices

end Manuscript
