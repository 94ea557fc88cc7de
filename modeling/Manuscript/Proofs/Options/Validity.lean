import Mathlib.Data.Rat.Cast.Order
import Manuscript.Markdown.Fence
import Manuscript.Markdown.Listing
import Manuscript.Proofs.Options.Reading

/-!
# Valid options

Choices pass the checks of their class from the moment they are made, and stay so through all
updates:

* `Updated`, `exists_update_iff`: what an accepted update does, and when one is accepted;
* `Step`, `current`: updates one after the other, where a refused one changes nothing;
* `InUse`: what can be relied on. Values of the types that are meant are in the ranges that are
  meant, and there is a bullet to choose and a fence of three characters. Of other values less is
  known: bullets need not be a text, nor the least length a number of characters. But nothing is
  divided by zero, and no fence is shorter;
* `options_stay_valid`: this holds of all choices that are made in this way.
-/

namespace Manuscript

/-- The greater of a value and a whole number, if it is whole. The value stands unless the number is
above it. -/
def Setting.greater? (value : Setting) (n : Int) : Option Int :=
  match value with
  | .float _ size => if size.isBelow n then some n else Option.none
  | _ => value.int?.map fun m => max m n

theorem Setting.greater?_int (m n : Int) : (int m).greater? n = some (max m n) := rfl

theorem AtLeastThree.le_greater? {value : Setting} (least : AtLeastThree value) {n length : Int}
    (greater : value.greater? n = some length) : 3 ≤ length := by
  cases least with
  | @whole value m number enough =>
    obtain rfl := (Setting.int?_eq_some_iff enough).1 number
    cases greater
    exact le_trans enough (le_max_left m n)
  | @finite shown q enough =>
    obtain ⟨below, rfl⟩ : q < n ∧ n = length := by
      simpa [Setting.greater?, Size.isBelow] using greater
    have above : ((3 : Int) : Rat) < (n : Rat) := lt_of_le_of_lt enough below
    exact le_of_lt (by exact_mod_cast above)
  | infinite | undefined => simp [Setting.greater?, Size.isBelow] at greater

namespace Choices

variable {o o' : Choices} {given : Settings}

/-! ## One update -/

/-- What an update did: the class is the same, all names are options of it, the named fields have
the values given, and all other fields have those they had. -/
structure Updated (o : Choices) (given : Settings) (o' : Choices) : Prop where
  sameClass : o'.optionsClass = o.optionsClass
  known : ∀ entry ∈ given, entry.1 ∈ o.optionsClass.names
  named : ∀ name value, given.lookup name = some value → o'.settings.lookup name = some value
  others : ∀ name, given.lookup name = none → o'.settings.lookup name = o.settings.lookup name

theorem lookup_replace (values given : Settings) (name : String) :
    (values.replace given).lookup name =
      (values.lookup name).map fun old => (given.lookup name).getD old := by
  induction values with
  | nil => rfl
  | cons field values ih =>
    rw [Settings.replace, List.map_cons, List.lookup_cons, List.lookup_cons]
    split
    next here => rw [eq_of_beq here, Option.map_some]
    next => exact ih

theorem checkNames_eq_ok_iff {cls : OptionsClass} :
    given.checkNames cls = .ok () ↔ ∀ entry ∈ given, entry.1 ∈ cls.names := by
  unfold Settings.checkNames
  split
  next entry found =>
    refine ⟨nofun, fun known => ?_⟩
    have foreign := List.find?_some found
    simp [known entry (List.mem_of_find?_eq_some found)] at foreign
  next unfound =>
    refine ⟨fun _ entry among => ?_, fun _ => rfl⟩
    simpa using List.find?_eq_none.1 unfound entry among

theorem update_eq_ok_iff : o.update given = .ok o' ↔
    (∀ entry ∈ given, entry.1 ∈ o.optionsClass.names) ∧ Admitted (o.replace given) ∧
      o' = o.replace given := by
  rw [← checkNames_eq_ok_iff, ← check_eq_ok_iff, update]
  constructor
  · intro h
    obtain ⟨⟨⟩, names, h⟩ := except_bind_eq_ok h
    obtain ⟨⟨⟩, checked, h⟩ := except_bind_eq_ok h
    cases h
    exact ⟨names, checked, rfl⟩
  · rintro ⟨names, checked, rfl⟩
    rw [names, checked]
    rfl

/-- An update is accepted if all names are known and what comes of it is admitted. -/
theorem exists_update_iff (o : Choices) (given : Settings) :
    (∃ next, o.update given = .ok next) ↔
      (∀ entry ∈ given, entry.1 ∈ o.optionsClass.names) ∧ Admitted (o.replace given) := by
  simp [update_eq_ok_iff]

theorem updated_of_update (h : o.update given = .ok o') : Updated o given o' := by
  obtain ⟨known, -, rfl⟩ := update_eq_ok_iff.1 h
  refine ⟨rfl, known, fun name value named => ?_, fun name unnamed => ?_⟩
  · obtain ⟨_, _, split, -⟩ := List.lookup_eq_some_iff.1 named
    have field : name ∈ o.optionsClass.names := known (name, value) (by simp [split])
    rw [replace, lookup_replace, lookup_eq_some_value field, named]
    rfl
  · rw [replace, lookup_replace, unnamed]
    exact Option.map_id'

theorem admitted_of_update (h : o.update given = .ok o') : Admitted o' := by
  obtain ⟨-, admitted, rfl⟩ := update_eq_ok_iff.1 h
  exact admitted

/-! ## Updates one after the other -/

/-- The choices that are in force after some updates; those that are refused change nothing. -/
def current (o : Choices) : List Settings → Choices
  | [] => o
  | given :: rest =>
    match o.update given with
    | .ok next => next.current rest
    | .error _ => o.current rest

/-- One update: other choices come of it, or it is refused and they stay. -/
inductive Step (o : Choices) (given : Settings) : Choices → Prop where
  | accepted {o' : Choices} (h : o.update given = .ok o') (updated : Updated o given o') :
      Step o given o'
  | refused {e : OptionsError} (h : o.update given = .error e) : Step o given o

theorem step_current (o : Choices) (given : Settings) : Step o given (o.current [given]) := by
  rw [current]
  split
  next next h => exact .accepted h (updated_of_update h)
  next h => exact .refused h

theorem current_cons (o : Choices) (given : Settings) (rest : List Settings) :
    o.current (given :: rest) = (o.current [given]).current rest := by
  rw [current, current]
  split <;> rfl

theorem current_append (o : Choices) (before after : List Settings) :
    o.current (before ++ after) = (o.current before).current after := by
  induction before generalizing o with
  | nil => rfl
  | cons given before ih => rw [List.cons_append, current_cons, ih, current_cons o given before]

theorem updateAll_cons (o : Choices) (given : Settings) (rest : List Settings) :
    o.updateAll (given :: rest) = o.update given :: (o.current [given]).updateAll rest := by
  rw [updateAll, current]
  cases o.update given <;> rfl

/-- Each update is answered by what it makes of the choices in force before it. -/
theorem updateAll_append (o : Choices) (before after : List Settings) :
    o.updateAll (before ++ after) = o.updateAll before ++ (o.current before).updateAll after := by
  induction before generalizing o with
  | nil => rfl
  | cons given before ih =>
    rw [List.cons_append, updateAll_cons, updateAll_cons, ih, current_cons o given before,
      List.cons_append]

/-- What a class and its checks promise. -/
structure Sound (cls : OptionsClass) (o : Choices) : Prop where
  ofClass : o.optionsClass = cls
  admitted : Admitted o

theorem sound_of_update {cls : OptionsClass} (ofClass : o.optionsClass = cls)
    (h : o.update given = .ok o') : Sound cls o' :=
  ⟨(updated_of_update h).sameClass.trans ofClass, admitted_of_update h⟩

theorem Step.sound {cls : OptionsClass} (h : Step o given o') (sound : Sound cls o) :
    Sound cls o' := by
  cases h with
  | accepted h => exact sound_of_update sound.ofClass h
  | refused h => exact sound

theorem Sound.current {cls : OptionsClass} (sound : Sound cls o) (updates : List Settings) :
    Sound cls (o.current updates) := by
  induction updates generalizing o with
  | nil => exact sound
  | cons given rest ih =>
    rw [current_cons]
    exact ih ((step_current o given).sound sound)

theorem Sound.of_mem_updateAll {cls : OptionsClass} (sound : Sound cls o)
    {updates : List Settings} (h : .ok o' ∈ o.updateAll updates) : Sound cls o' := by
  induction updates generalizing o with
  | nil => cases h
  | cons given rest ih =>
    rw [updateAll_cons] at h
    rcases List.mem_cons.1 h with made | later
    · exact sound_of_update sound.ofClass made.symm
    · exact ih (sound.current [given]) later

/-! ## What can be relied on -/

/-- Options that are read from choices, as generic Markdown relies on them. -/
structure Relied (o : Choices) (t : Options) : Prop where
  shows : Shows t o
  /-- There is a bullet at the place that the depth of a list has among them. -/
  bullets : ∀ m, t.markdown? = some m →
    ∃ s, o.value "bullet_symbols" = .text s ∧ 0 < s.length ∧
      ∀ depth position, ∃ c, s.toList[depth % s.length]? = some c ∧
        Markdown.marker m depth .bullets position = String.singleton c ++ " "
  /-- A fence is at least three characters long, and not shorter than is asked for. -/
  fences : ∀ m, t.markdown? = some m →
    ∃ c n, o.value "code_fence_char" = .text (String.singleton c) ∧
      o.value "code_fence_min" = .int n ∧
      ∀ content, ∃ length : Nat, 3 ≤ length ∧ n ≤ length ∧
        (o.value "code_fence_min").greater? (Markdown.longestRun c content.toList + 1) =
          some (length : Int) ∧
        (Markdown.fenceFor m content).toList = List.replicate length c

theorem markdown?_of_options? {t : Options} (h : o.options? = some t) {m : MarkdownOptions}
    (markdown : t.markdown? = some m) : o.markdown? = some m := by
  obtain ⟨cls, settings, names⟩ := o
  cases cls with
  | base =>
    obtain ⟨base, -, rfl⟩ := Option.map_eq_some_iff.1 h
    cases markdown
  | markdown =>
    obtain ⟨_, read, rfl⟩ := Option.map_eq_some_iff.1 h
    cases markdown
    exact read
  | leanpub =>
    obtain ⟨leanpub, read, rfl⟩ := Option.map_eq_some_iff.1 h
    cases markdown
    obtain ⟨_, readMarkdown, read⟩ := Option.bind_eq_some_iff.1 read
    obtain ⟨⟨_, _⟩, -, read⟩ := Option.bind_eq_some_iff.1 read
    obtain ⟨_, -, read⟩ := Option.bind_eq_some_iff.1 read
    obtain ⟨_, -, read⟩ := Option.bind_eq_some_iff.1 read
    obtain ⟨_, -, read⟩ := Option.bind_eq_some_iff.1 read
    cases read
    exact readMarkdown

/-- The values that bullets and fences are made of. -/
theorem value_of_markdown? {m : MarkdownOptions} (h : o.markdown? = some m) :
    o.value "bullet_symbols" = .text (String.ofList m.bullets) ∧
      o.value "code_fence_char" = .text (String.singleton m.fence.char) ∧
      o.value "code_fence_min" = .int m.fenceMin := by
  have same (name : String) {a b : Setting} := @same_of_shown _ _ (markdown?_shown h) name a b
  have least : (3 : Int) ≤ m.fenceMin := by exact_mod_cast m.three_le_fenceMin
  exact ⟨Setting.same_text_iff.1 (same "bullet_symbols" rfl rfl),
    Setting.same_text_iff.1 (same "code_fence_char" rfl rfl),
    (Setting.same_int_iff least).1 (same "code_fence_min" rfl rfl)⟩

theorem marker_bullets (m : MarkdownOptions) (depth position : Nat) :
    ∃ c, m.bullets[depth % m.bullets.length]? = some c ∧
      Markdown.marker m depth .bullets position = String.singleton c ++ " " :=
  ⟨m.bullet depth, List.getElem?_eq_getElem _, rfl⟩

theorem relied_of_options? {t : Options} (h : o.options? = some t) : Relied o t where
  shows := shows_of_options? h
  bullets m markdown := by
    obtain ⟨bullets, -, -⟩ := value_of_markdown? (markdown?_of_options? h markdown)
    refine ⟨String.ofList m.bullets, bullets, ?_, ?_⟩
    · simpa using List.length_pos_iff.2 m.bullets_ne_nil
    · simpa using marker_bullets m
  fences m markdown := by
    obtain ⟨-, fence, fenceMin⟩ := value_of_markdown? (markdown?_of_options? h markdown)
    refine ⟨m.fence.char, m.fenceMin, fence, fenceMin, fun content => ?_⟩
    have least := m.three_le_fenceMin
    have long : m.fenceMin ≤ Markdown.fenceLength m content := Nat.le_max_left _ _
    refine ⟨Markdown.fenceLength m content, by omega, by exact_mod_cast long, ?_,
      String.toList_ofList⟩
    rw [fenceMin, Markdown.fenceLength, Setting.greater?_int]
    exact congrArg some (by omega)

/-- What can be relied on where choices for a class are used. -/
structure InUse (cls : OptionsClass) (o : Choices) : Prop where
  ofClass : o.optionsClass = cls
  admitted : Admitted o
  /-- The depth of a list is not divided by zero to choose its bullet. -/
  divisor : cls ≠ .base → ∀ n, (o.value "bullet_symbols").length? = some n → 0 < n
  /-- A fence has three characters if there is a whole number of them. -/
  fences : cls ≠ .base → ∃ c, o.value "code_fence_char" = .text (String.singleton c) ∧
    ∀ (content : String) (length : Int), (o.value "code_fence_min").greater?
      (Markdown.longestRun c content.toList + 1) = some length → 3 ≤ length
  /-- Values of the types that are meant are valid and make the options of a renderer. -/
  annotated : Annotated o → Valid o ∧ ∃ t, o.options? = some t ∧ Relied o t

theorem Sound.inUse {cls : OptionsClass} (sound : Sound cls o) : InUse cls o := by
  obtain ⟨rfl, admitted⟩ := sound
  refine ⟨rfl, admitted, fun further n counted => ?_, fun further => ?_, fun annotated => ?_⟩
  · exact Setting.length?_pos (admittedMarkdown_of_admitted admitted further).bullets counted
  · have markdown := admittedMarkdown_of_admitted admitted further
    obtain ⟨mark, read⟩ := FenceMark.exists_read? markdown.fence
    exact ⟨mark.char, FenceMark.eq_text_of_read? read, fun content length greater =>
      markdown.fenceMin.le_greater? greater⟩
  · have valid := valid_of_annotated annotated admitted
    obtain ⟨t, read⟩ := exists_options? annotated valid
    exact ⟨valid, t, read, relied_of_options? read⟩

/-- Choices that are made and then updated can be relied on at all times. -/
structure StayValid (cls : OptionsClass) (given : Settings) (o : Choices) : Prop where
  made : Updated (default cls) given o
  /-- Every update is answered by what it makes of the choices then in force. -/
  answers : ∀ before given after, o.updateAll (before ++ given :: after) =
    o.updateAll before ++ (o.current before).update given ::
      (o.current (before ++ [given])).updateAll after
  steps : ∀ before given, Step (o.current before) given (o.current (before ++ [given]))
  accepts : ∀ before given, (∃ next, (o.current before).update given = .ok next) ↔
    (∀ entry ∈ given, entry.1 ∈ cls.names) ∧ Admitted ((o.current before).replace given)
  inForce : ∀ updates, InUse cls (o.current updates)
  obtained : ∀ updates next, .ok next ∈ o.updateAll updates → InUse cls next

/-- **Options are valid when they are made and after every update.** -/
theorem options_stay_valid (cls : OptionsClass) (given : Settings) (o : Choices)
    (created : create cls given = .ok o) : StayValid cls given o := by
  have ofDefault : (default cls).optionsClass = cls := by cases cls <;> rfl
  have sound : Sound cls o := sound_of_update ofDefault created
  refine ⟨updated_of_update created, fun before given after => ?_, fun before given => ?_,
    fun before given => ?_, fun updates => (sound.current updates).inUse,
    fun updates next h => (sound.of_mem_updateAll h).inUse⟩
  · rw [updateAll_append, updateAll_cons, current_append]
  · rw [current_append]
    exact step_current _ _
  · rw [exists_update_iff, (sound.current before).ofClass]

theorem five_tildes_stay_valid :
    ∃ o, create .leanpub [("code_fence_char", .text "~"), ("code_fence_min", .int 5),
        ("escape_special", .none)] = .ok o ∧
      o.value "code_fence_min" = .int 5 ∧
      StayValid .leanpub [("code_fence_char", .text "~"), ("code_fence_min", .int 5),
        ("escape_special", .none)] o :=
  ⟨_, rfl, rfl, options_stay_valid _ _ _ rfl⟩

/-- Five passes for bullets, though there is none to choose, and what is no number for the least
length of a fence, though no fence is as long. -/
theorem accepted_without_range :
    (∃ o, create .markdown [("bullet_symbols", .int 5)] = .ok o ∧
      (o.value "bullet_symbols").length? = none ∧ ¬ Valid o) ∧
    ∃ o, create .markdown [("code_fence_min", .float "nan" .undefined)] = .ok o ∧
      (∀ n, (o.value "code_fence_min").greater? n = none) ∧ ¬ Valid o := by
  refine ⟨⟨_, rfl, rfl, fun valid => ?_⟩, ⟨_, rfl, fun n => rfl, fun valid => ?_⟩⟩
  · obtain ⟨s, -, text⟩ := ValidMarkdown.someBullets valid
    cases text
  · obtain ⟨n, -, whole⟩ := ValidMarkdown.leastFence valid
    cases whole

end Choices

end Manuscript
