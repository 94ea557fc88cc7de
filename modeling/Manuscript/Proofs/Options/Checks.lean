import Manuscript.Options.Reading
import Manuscript.Proofs.Outcome

/-!
# What checks admit

A check asks what it needs of a value and not what type it has. `Admitted` says which values there
can be after all checks of a class, and `check_eq_ok_iff` that these are the ones that pass them.
-/

namespace Manuscript

/-- The values that are not below three. One that is undefined is among them. -/
inductive AtLeastThree : Setting → Prop where
  | whole {value : Setting} {n : Int} (number : value.int? = some n) (enough : 3 ≤ n) :
      AtLeastThree value
  | finite {shown : String} {q : Rat} (enough : 3 ≤ q) : AtLeastThree (.float shown (.finite q))
  | infinite {shown : String} : AtLeastThree (.float shown (.infinite false))
  | undefined {shown : String} : AtLeastThree (.float shown .undefined)

/-- A value is a file extension. -/
def Setting.Extends (value : Setting) : Prop := ∃ e, value = .text e ∧ IsExtension e

/-- What is chosen for generic Markdown. -/
structure AdmittedMarkdown (o : Choices) : Prop where
  emphasis : ∃ s ∈ ["*", "_"], o.value "emphasis_symbol" = .text s
  bullets : (o.value "bullet_symbols").isNothing = false
  fence : ∃ s ∈ ["`", "~"], o.value "code_fence_char" = .text s
  fenceMin : AtLeastThree (o.value "code_fence_min")
  modes : ∀ name ∈ ["underline_mode", "superscript_mode", "subscript_mode"],
    ∃ s ∈ ["html", "markdown", "ignore"], o.value name = .text s

/-- What is chosen for a book. -/
structure AdmittedLeanpub (o : Choices) : Prop extends AdmittedMarkdown o where
  links : ∃ s ∈ ["drop", "text"], o.value "unsupported_link_mode" = .text s
  extensions : ∃ items, (o.value "image_extensions").items? = some items ∧
    ∀ item ∈ items, item.Extends

/-- What is chosen for the options of a class; for those of every renderer it can be anything. -/
def Admitted (o : Choices) : Prop :=
  match o.optionsClass with
  | .base => True
  | .markdown => AdmittedMarkdown o
  | .leanpub => AdmittedLeanpub o

namespace Setting

variable {value : Setting}

theorem isAmong_iff {texts : List String} :
    value.isAmong texts = true ↔ ∃ s ∈ texts, value = .text s := by
  cases value <;> simp [isAmong]

theorem checkEmphasis_eq_ok_iff :
    value.checkEmphasis = .ok () ↔ ∃ s ∈ ["*", "_"], value = .text s := by
  rw [checkEmphasis, require_eq_ok_iff, isAmong_iff]

theorem checkFence_eq_ok_iff :
    value.checkFence = .ok () ↔ ∃ s ∈ ["`", "~"], value = .text s := by
  rw [checkFence, require_eq_ok_iff, isAmong_iff]

theorem checkInlineMode_eq_ok_iff {name : String} :
    value.checkInlineMode name = .ok () ↔
      ∃ s ∈ ["html", "markdown", "ignore"], value = .text s := by
  rw [checkInlineMode, require_eq_ok_iff, isAmong_iff]

theorem checkLinkMode_eq_ok_iff :
    value.checkLinkMode = .ok () ↔ ∃ s ∈ ["drop", "text"], value = .text s := by
  rw [checkLinkMode, require_eq_ok_iff, isAmong_iff]

theorem checkBullets_eq_ok_iff : value.checkBullets = .ok () ↔ value.isNothing = false := by
  rw [checkBullets, require_eq_ok_iff, Bool.not_eq_true']

theorem isBelow?_three_iff : value.isBelow? 3 = some false ↔ AtLeastThree value := by
  constructor
  · intro h
    cases value with
    | float shown size =>
      cases size with
      | finite q => exact .finite (by simpa [isBelow?, Size.isBelow, Rat.not_lt] using h)
      | infinite negative =>
        cases negative
        · exact .infinite
        · cases h
      | undefined => exact .undefined
    | int n => exact .whole rfl (by simpa [isBelow?, int?] using h)
    | bool b => cases b <;> simp [isBelow?, int?] at h
    | _ => simp [isBelow?, int?] at h
  · intro h
    cases h with
    | whole number enough => cases value <;> simp_all [isBelow?, int?]
    | finite enough => simpa [isBelow?, Size.isBelow, Rat.not_lt] using enough
    | infinite => rfl
    | undefined => rfl

theorem checkFenceMin_eq_ok_iff : value.checkFenceMin = .ok () ↔ AtLeastThree value := by
  rw [← isBelow?_three_iff, checkFenceMin]
  cases value.isBelow? 3 with
  | none => exact ⟨nofun, nofun⟩
  | some below => rw [require_eq_ok_iff, Bool.not_eq_true', Option.some.injEq]

theorem checkExtension_eq_ok_iff : value.checkExtension = .ok () ↔ value.Extends := by
  unfold checkExtension Extends
  split
  next nothing =>
    refine ⟨nofun, ?_⟩
    rintro ⟨e, rfl, some, -⟩
    rw [isNothing, String.isEmpty_iff] at nothing
    exact absurd (String.toList_eq_nil_iff.2 nothing) some
  next something =>
    split
    next s =>
      rw [require_eq_ok_iff, bne_iff_ne]
      have filled : s.toList ≠ [] := fun empty => something <| by
        rw [isNothing, String.isEmpty_iff, ← String.toList_eq_nil_iff, empty]
      exact ⟨fun undotted => ⟨s, rfl, filled, undotted⟩, by
        rintro ⟨_, ⟨⟩, _, undotted⟩
        exact undotted⟩
    next other =>
      refine ⟨fun h => ?_, ?_⟩
      · split at h <;> cases h
      · rintro ⟨e, rfl, -⟩
        exact absurd rfl (other e)

theorem checkExtensions_eq_ok_iff : value.checkExtensions = .ok () ↔
    ∃ items, value.items? = some items ∧ ∀ item ∈ items, item.Extends := by
  unfold checkExtensions
  cases value.items? with
  | none => exact ⟨nofun, nofun⟩
  | some items => simp [except_forM_eq_ok_iff, checkExtension_eq_ok_iff]

theorem length?_pos {n : Nat} (something : value.isNothing = false)
    (counted : value.length? = some n) : 0 < n := by
  obtain ⟨items, has, rfl⟩ := Option.map_eq_some_iff.1 counted
  rw [List.length_pos_iff]
  rintro rfl
  cases value <;> simp_all [items?, isNothing]

end Setting

namespace Choices

variable {o : Choices}

theorem checkMarkdown_eq_ok_iff : o.checkMarkdown = .ok () ↔ AdmittedMarkdown o := by
  simp only [checkMarkdown, except_bind_eq_ok_iff, except_forM_eq_ok_iff,
    Setting.checkEmphasis_eq_ok_iff, Setting.checkBullets_eq_ok_iff, Setting.checkFence_eq_ok_iff,
    Setting.checkFenceMin_eq_ok_iff, Setting.checkInlineMode_eq_ok_iff]
  exact ⟨fun ⟨emphasis, bullets, fence, fenceMin, modes⟩ =>
      ⟨emphasis, bullets, fence, fenceMin, modes⟩,
    fun ⟨emphasis, bullets, fence, fenceMin, modes⟩ =>
      ⟨emphasis, bullets, fence, fenceMin, modes⟩⟩

theorem checkLeanpub_eq_ok_iff : o.checkLeanpub = .ok () ↔ AdmittedLeanpub o := by
  simp only [checkLeanpub, except_bind_eq_ok_iff, checkMarkdown_eq_ok_iff,
    Setting.checkLinkMode_eq_ok_iff, Setting.checkExtensions_eq_ok_iff]
  exact ⟨fun ⟨markdown, links, extensions⟩ => ⟨markdown, links, extensions⟩,
    fun ⟨markdown, links, extensions⟩ => ⟨markdown, links, extensions⟩⟩

/-- The checks pass exactly what is admitted. -/
theorem check_eq_ok_iff (o : Choices) : o.check = .ok () ↔ Admitted o := by
  obtain ⟨cls, settings, names⟩ := o
  cases cls with
  | base => exact ⟨fun _ => trivial, fun _ => rfl⟩
  | markdown => exact checkMarkdown_eq_ok_iff
  | leanpub => exact checkLeanpub_eq_ok_iff

theorem admittedMarkdown_of_admitted (h : Admitted o) (further : o.optionsClass ≠ .base) :
    AdmittedMarkdown o := by
  obtain ⟨cls, settings, names⟩ := o
  cases cls with
  | base => exact absurd rfl further
  | markdown => exact h
  | leanpub => exact h.toAdmittedMarkdown

end Choices

end Manuscript
