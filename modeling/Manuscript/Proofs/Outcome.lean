import Mathlib.Data.List.Forall2
import Manuscript.Document.Fold

/-!
# Results of several steps

When a row of steps gives a result and when it fails:

* `bind_result_eq_error_iff`: two steps fail when one of them does;
* `mapM_result_eq_error`, `mapM_result_eq_ok_iff`: a failure of a row is that of a member, and a row
  gives results exactly if each of its members gives its own;
* `mapM_map_result_eq_ok_iff`: so it is if something is made of each member's result;
* `exists_first_error`, `mem_log_mapM_iff`: which member a failure or a report comes from;
* `mapM_map_eq_some`: readers of a row give results if each of them does;
* `mapM_congr`, `renderNodes_congr`: a row depends on its members alone;
* `EndsLike`: one run ends like another one, whatever the two report; a run of several steps does so
  if its steps do.
-/

namespace Manuscript

theorem except_bind_eq_ok {ε α β : Type} {x : Except ε α} {f : α → Except ε β} {b : β}
    (h : x >>= f = .ok b) : ∃ a, x = .ok a ∧ f a = .ok b := by
  cases x with
  | error e => cases h
  | ok a => exact ⟨a, rfl, h⟩

theorem bind_of_eq_ok {ε α β : Type} {x : Except ε α} {f : α → Except ε β} {a : α} {b : β}
    (first : x = .ok a) (second : f a = .ok b) : x >>= f = .ok b := by
  rw [first]
  exact second

theorem except_bind_eq_error {ε α β : Type} {x : Except ε α} {f : α → Except ε β} {e : ε}
    (h : x >>= f = .error e) : x = .error e ∨ ∃ a, x = .ok a ∧ f a = .error e := by
  cases x with
  | error e' =>
    cases h
    exact .inl rfl
  | ok a => exact .inr ⟨a, rfl, h⟩

theorem except_map_eq_error {ε α β : Type} {f : α → β} {x : Except ε α} {e : ε}
    (h : x.map f = .error e) : x = .error e := by
  cases x with
  | error e' =>
    cases h
    rfl
  | ok a => cases h

theorem except_bind_eq_ok_iff {ε : Type} {x y : Except ε Unit} :
    (x >>= fun _ => y) = .ok () ↔ x = .ok () ∧ y = .ok () := by
  cases x with
  | error e => exact ⟨nofun, nofun⟩
  | ok a => exact ⟨fun h => ⟨rfl, h⟩, And.right⟩

theorem except_forM_eq_ok_iff {ε α : Type} {xs : List α} {f : α → Except ε Unit} :
    forM xs f = .ok () ↔ ∀ x ∈ xs, f x = .ok () := by
  induction xs with
  | nil => exact ⟨nofun, fun _ => rfl⟩
  | cons x xs ih => rw [List.forM_cons, except_bind_eq_ok_iff, ih, List.forall_mem_cons]

theorem require_eq_ok_iff {ε : Type} {condition : Bool} {e : ε} :
    require condition e = .ok () ↔ condition = true := by
  cases condition <;> simp [require]

theorem eq_of_require_eq_error {ε : Type} {condition : Bool} {e e' : ε}
    (h : require condition e = .error e') : e' = e := by
  cases condition with
  | true => cases h
  | false => exact (Except.error.inj h).symm

theorem except_mapError_eq_error_iff {ε ε' α : Type} {f : ε → ε'} {x : Except ε α} {e' : ε'} :
    x.mapError f = .error e' ↔ ∃ e, x = .error e ∧ f e = e' := by
  cases x <;> simp [Except.mapError]

theorem except_mapError_eq_ok_iff {ε ε' α : Type} {f : ε → ε'} {x : Except ε α} {a : α} :
    x.mapError f = .ok a ↔ x = .ok a := by
  cases x <;> simp [Except.mapError]

namespace Outcome

variable {ε α β : Type}

theorem bind_result_eq_error_iff {x : Outcome ε α} {f : α → Outcome ε β} {e : ε} :
    (x >>= f).result = .error e ↔
      x.result = .error e ∨ ∃ a, x.result = .ok a ∧ (f a).result = .error e := by
  obtain ⟨log, _ | a⟩ := x
  · simp [bind_error]
  · simp [bind_ok]

theorem bind_result_of_ok {x : Outcome ε α} {a : α} (h : x.result = .ok a) (f : α → Outcome ε β) :
    (x >>= f).result = (f a).result := by
  obtain ⟨log, result⟩ := x
  cases h
  rfl

theorem bind_result_map {x : Outcome ε α} {f : α → Outcome ε β} {g : α → β}
    (each : ∀ a, (f a).result = .ok (g a)) : (x >>= f).result = x.result.map g := by
  obtain ⟨log, _ | a⟩ := x
  · rfl
  · exact each a

theorem bind_pure_result (x : Outcome ε α) (f : α → β) :
    (x >>= fun a => pure (f a)).result = x.result.map f := bind_result_map fun _ => rfl

theorem map_result (f : α → β) (x : Outcome ε α) : (f <$> x).result = x.result.map f :=
  bind_pure_result x f

theorem map_log (f : α → β) (x : Outcome ε α) : (f <$> x).log = x.log := by
  obtain ⟨log, _ | a⟩ := x
  · rfl
  · exact List.append_nil log

theorem mapM_cons_result_of_ok {f : α → Outcome ε β} {x : α} {xs : List α} {y : β} {ys : List β}
    (first : (f x).result = .ok y) (rest : (xs.mapM f).result = .ok ys) :
    ((x :: xs).mapM f).result = .ok (y :: ys) := by
  rw [List.mapM_cons, bind_result_of_ok first, bind_result_of_ok rest]
  rfl

theorem mapM_result_eq_ok_iff {f : α → Outcome ε β} {xs : List α} {ys : List β} :
    (xs.mapM f).result = .ok ys ↔ List.Forall₂ (fun x y => (f x).result = .ok y) xs ys := by
  induction xs generalizing ys with
  | nil =>
    constructor
    · intro h
      cases h
      exact .nil
    · rintro ⟨⟩
      rfl
  | cons x xs ih =>
    constructor
    · intro h
      rw [List.mapM_cons] at h
      obtain ⟨y, first, h⟩ := bind_result_eq_ok_iff.1 h
      obtain ⟨later, rest, h⟩ := bind_result_eq_ok_iff.1 h
      cases h
      exact .cons first (ih.1 rest)
    · rintro (_ | ⟨first, rest⟩)
      exact mapM_cons_result_of_ok first (ih.2 rest)

/-- A row of steps fails with the first member that fails. -/
theorem exists_first_error {f : α → Outcome ε β} {xs : List α} {e : ε}
    (h : (xs.mapM f).result = .error e) :
    ∃ before x after, xs = before ++ x :: after ∧ (∃ ys, (before.mapM f).result = .ok ys) ∧
      (f x).result = .error e := by
  induction xs with
  | nil => cases h
  | cons x xs ih =>
    rw [List.mapM_cons] at h
    rcases bind_result_eq_error_iff.1 h with first | ⟨y, first, h⟩
    · exact ⟨[], x, xs, rfl, ⟨[], rfl⟩, first⟩
    · rcases bind_result_eq_error_iff.1 h with rest | ⟨_, -, h⟩
      · obtain ⟨before, z, after, rfl, ⟨ys, earlier⟩, fails⟩ := ih rest
        exact ⟨x :: before, z, after, rfl, ⟨y :: ys, mapM_cons_result_of_ok first earlier⟩, fails⟩
      · cases h

theorem mapM_result_eq_error {f : α → Outcome ε β} {xs : List α} {e : ε}
    (h : (xs.mapM f).result = .error e) : ∃ x ∈ xs, (f x).result = .error e := by
  obtain ⟨before, x, after, rfl, -, fails⟩ := exists_first_error h
  exact ⟨x, by simp, fails⟩

theorem mem_log_bind_iff {x : Outcome ε α} {f : α → Outcome ε β} {event : Event} :
    event ∈ (x >>= f).log ↔ event ∈ x.log ∨ ∃ a, x.result = .ok a ∧ event ∈ (f a).log := by
  obtain ⟨log, _ | a⟩ := x
  · simp [bind_error]
  · simp [bind_ok]

/-- What a row of steps reports is reported by a member, and all members before it have results. -/
theorem mem_log_mapM_iff {f : α → Outcome ε β} {xs : List α} {event : Event} :
    event ∈ (xs.mapM f).log ↔ ∃ before x after, xs = before ++ x :: after ∧
      (∃ ys, (before.mapM f).result = .ok ys) ∧ event ∈ (f x).log := by
  induction xs with
  | nil => simp [pure_def]
  | cons x xs ih =>
    rw [List.mapM_cons, mem_log_bind_iff]
    constructor
    · rintro (first | ⟨y, here, later⟩)
      · exact ⟨[], x, xs, rfl, ⟨[], rfl⟩, first⟩
      · rcases mem_log_bind_iff.1 later with rest | ⟨_, -, none⟩
        · obtain ⟨before, z, after, rfl, ⟨ys, earlier⟩, reported⟩ := ih.1 rest
          have both := mapM_cons_result_of_ok here earlier
          exact ⟨x :: before, z, after, rfl, ⟨y :: ys, both⟩, reported⟩
        · cases none
    · rintro ⟨before, z, after, split, ⟨ys, earlier⟩, reported⟩
      cases before with
      | nil =>
        obtain ⟨rfl, -⟩ := List.cons.inj split
        exact .inl reported
      | cons first before =>
        obtain ⟨rfl, rest⟩ := List.cons.inj split
        cases mapM_result_eq_ok_iff.1 earlier with
        | cons here between =>
          refine .inr ⟨_, here, mem_log_bind_iff.2 (.inl ?_)⟩
          exact ih.2 ⟨before, z, after, rest, ⟨_, mapM_result_eq_ok_iff.2 between⟩, reported⟩

theorem mapM_result_eq_ok {f : α → Outcome ε β} {xs : List α} {ys : List β}
    (h : (xs.mapM f).result = .ok ys) : ∀ x ∈ xs, ∃ y, (f x).result = .ok y := by
  intro x hx
  obtain ⟨i, place, rfl⟩ := List.getElem_of_mem hx
  have each := mapM_result_eq_ok_iff.1 h
  have place' : i < ys.length := each.length_eq ▸ place
  exact ⟨ys[i], each.get place place'⟩

theorem mapM_map_result_eq_ok_iff {γ : Type} {f : α → Outcome ε γ} {g : α → γ → β} {xs : List α}
    {ys : List β} :
    (xs.mapM fun x => f x >>= fun z => pure (g x z)).result = .ok ys ↔
      ∃ zs, List.Forall₂ (fun x z => (f x).result = .ok z) xs zs ∧ ys = List.zipWith g xs zs := by
  rw [mapM_result_eq_ok_iff]
  constructor
  · intro each
    induction each with
    | nil => exact ⟨[], .nil, rfl⟩
    | cons first _ ih =>
      obtain ⟨z, here, made⟩ := bind_result_eq_ok_iff.1 first
      obtain ⟨zs, rest, rfl⟩ := ih
      cases made
      exact ⟨z :: zs, .cons here rest, rfl⟩
  · rintro ⟨zs, each, rfl⟩
    induction each with
    | nil => exact .nil
    | cons first _ ih => exact .cons (bind_result_of_ok first _) ih

theorem mapM_result_of_ok {f : α → Outcome ε β} {g : α → β} {xs : List α}
    (each : ∀ x ∈ xs, (f x).result = .ok (g x)) : (xs.mapM f).result = .ok (xs.map g) := by
  induction xs with
  | nil => rfl
  | cons x xs ih =>
    have rest := ih fun y hy => each y (List.mem_cons_of_mem x hy)
    exact mapM_cons_result_of_ok (each x List.mem_cons_self) rest

/-- The text of a run that gives one. -/
def textOf (run : Outcome ε String) : String := run.result.toOption.getD ""

theorem textOf_of_ok {run : Outcome ε String} {text : String} (h : run.result = .ok text) :
    textOf run = text := by
  rw [textOf, h]
  rfl

theorem mapM_result_textOf {f : α → Outcome ε String} {xs : List α}
    (written : ∀ x ∈ xs, ∃ text, (f x).result = .ok text) :
    (xs.mapM f).result = .ok (xs.map fun x => textOf (f x)) := by
  refine mapM_result_of_ok fun x hx => ?_
  obtain ⟨text, h⟩ := written x hx
  rw [textOf_of_ok h, h]

theorem mapM_congr {f g : α → Outcome ε β} {xs : List α} (same : ∀ x ∈ xs, f x = g x) :
    xs.mapM f = xs.mapM g := by
  induction xs with
  | nil => rfl
  | cons x xs ih =>
    have first : f x = g x := same x List.mem_cons_self
    have rest : xs.mapM f = xs.mapM g := ih fun y hy => same y (List.mem_cons_of_mem _ hy)
    rw [List.mapM_cons, List.mapM_cons, first, rest]

/-- The second run ends like the first one: with the same result, or with the same failure seen in
another way. -/
def EndsLike {ε' : Type} (see : ε → ε') (x : Outcome ε α) (y : Outcome ε' α) : Prop :=
  y.result = x.result.mapError see

section
variable {ε' α' : Type} {see : ε → ε'}

theorem endsLike_id {x y : Outcome ε α} : EndsLike id x y ↔ y.result = x.result := by
  rw [EndsLike]
  cases x.result <;> rfl

theorem EndsLike.of_ok {x : Outcome ε α} {y : Outcome ε' α} {a : α} (h : x.result = .ok a)
    (h' : y.result = .ok a) : EndsLike see x y := by
  rw [EndsLike, h, h']
  rfl

theorem EndsLike.pure (a : α) :
    EndsLike see (Pure.pure a : Outcome ε α) (Pure.pure a : Outcome ε' α) :=
  .of_ok rfl rfl

theorem EndsLike.bind {x : Outcome ε α} {y : Outcome ε' α} {f : α → Outcome ε β}
    {g : α → Outcome ε' β} (first : EndsLike see x y) (next : ∀ a, EndsLike see (f a) (g a)) :
    EndsLike see (x >>= f) (y >>= g) := by
  obtain ⟨log, result⟩ := x
  obtain ⟨log', result'⟩ := y
  obtain rfl : result' = result.mapError see := first
  cases result with
  | error e => rfl
  | ok a => exact next a

/-- Two rows of steps end alike if each step ends like its counterpart. -/
theorem EndsLike.mapM {f : α → Outcome ε β} {g : α' → Outcome ε' β} {xs : List α} {ys : List α'}
    (each : List.Forall₂ (fun x y => EndsLike see (f x) (g y)) xs ys) :
    EndsLike see (xs.mapM f) (ys.mapM g) := by
  induction each with
  | nil => exact .pure []
  | cons first _ ih =>
    rw [List.mapM_cons, List.mapM_cons]
    exact .bind first fun b => .bind ih fun bs => .pure (b :: bs)

end

end Outcome

/-- What was made of each of several values is read back if it is read back from each. -/
theorem mapM_map_eq_some {α β γ : Type} {make : α → β} {read : β → Option γ} {value : α → γ}
    (each : ∀ x, read (make x) = some (value x)) (xs : List α) :
    (xs.map make).mapM read = some (xs.map value) := by
  have pointwise : read ∘ make = fun x => pure (value x) := funext each
  rw [List.mapM_map, pointwise, List.mapM_pure]
  rfl

variable {ε : Type}

theorem all_isInline_eq {nodes others : List Node}
    (same : List.Forall₂ (fun n m : Node => m.isInline = n.isInline) nodes others) :
    others.all Node.isInline = nodes.all Node.isInline := by
  induction same with
  | nil => rfl
  | cons first _ ih => rw [List.all_cons, List.all_cons, first, ih]

theorem renderNodes_endsLike {ε' : Type} {see : ε → ε'} {render : Node → Outcome ε String}
    {render' : Node → Outcome ε' String} {nodes others : List Node}
    (inline : List.Forall₂ (fun n m : Node => m.isInline = n.isInline) nodes others)
    (each : List.Forall₂ (fun n m => Outcome.EndsLike see (render n) (render' m)) nodes others) :
    Outcome.EndsLike see (renderNodes render nodes) (renderNodes render' others) := by
  unfold renderNodes
  rw [all_isInline_eq inline]
  exact .bind (.mapM each) fun _ => .pure _

theorem fold_endsLike {ε' : Type} {see : ε → ε'} {step : Node → List String → Outcome ε String}
    {step' : Node → List String → Outcome ε' String}
    (each : ∀ n fragments, Outcome.EndsLike see (step n fragments) (step' n fragments)) (n : Node) :
    Outcome.EndsLike see (n.fold step) (n.fold step') := by
  induction n using Node.induction with
  | step n ih =>
    rw [Node.fold_eq, Node.fold_eq]
    refine .bind (.mapM ?_) (each n)
    exact List.forall₂_same.2 fun c hc => ih c (Node.mem_parts_of_mem_children hc)

theorem renderNodes_congr {render render' : Node → Outcome ε String} {nodes : List Node}
    (same : ∀ n ∈ nodes, render n = render' n) :
    renderNodes render nodes = renderNodes render' nodes := by
  rw [renderNodes, renderNodes, Outcome.mapM_congr same]

theorem renderNodes_result_eq_error {render : Node → Outcome ε String} {nodes : List Node} {e : ε}
    (h : (renderNodes render nodes).result = .error e) :
    ∃ n ∈ nodes, (render n).result = .error e := by
  rcases Outcome.bind_result_eq_error_iff.1 h with fails | ⟨_, -, h⟩
  · exact Outcome.mapM_result_eq_error fails
  · cases h

theorem renderNodes_result_eq_ok {render : Node → Outcome ε String} {nodes : List Node}
    {text : String} (h : (renderNodes render nodes).result = .ok text) :
    ∀ n ∈ nodes, ∃ fragment, (render n).result = .ok fragment := by
  obtain ⟨_, rendered, -⟩ := Outcome.bind_result_eq_ok_iff.1 h
  exact Outcome.mapM_result_eq_ok rendered

end Manuscript
