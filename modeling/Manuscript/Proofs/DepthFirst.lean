import Mathlib.Data.List.Nodup

/-!
# Depth-first preorder

The order in which a graph is met when every point is followed by whatever is first met from it,
before the search goes on. It is given as a relation, with no account of how a search is run:

* `DepthFirst`: a search through a list of points, from what was met before to what is met after;
* `DepthFirst.unique`: a search has one result;
* `depthFirst_append`: a search through two lists is one through the first and then the second;
* `DepthFirst.mem` and `DepthFirst.nodup`: every point that is listed is met, and nothing is met
  twice;
* `DepthFirst.closed` and `DepthFirst.forall_mem`: what follows a point that is met is met, and what
  the listed points pass on holds of everything that is met;
* `DepthFirst.map`: a search does not depend on how points are named;
* `depthFirst_eraseDups`: it does not matter whether points are listed again.
-/

namespace Manuscript

variable {α : Type} {next : α → List α}

/-- `DepthFirst next points met order`: when the points `met` were met before, a search through
`points` ends with those of `order` met. A point that was met is passed over; a new one counts as
met from then on, and what follows it is searched before the rest. -/
inductive DepthFirst (next : α → List α) : List α → List α → List α → Prop where
  | done (met : List α) : DepthFirst next [] met met
  | skip {a : α} {rest met order : List α} (old : a ∈ met) (tail : DepthFirst next rest met order) :
      DepthFirst next (a :: rest) met order
  | visit {a : α} {rest met middle order : List α} (new : a ∉ met)
      (below : DepthFirst next (next a) (met ++ [a]) middle)
      (tail : DepthFirst next rest middle order) : DepthFirst next (a :: rest) met order

theorem depthFirst_nil {met order : List α} : DepthFirst next [] met order ↔ order = met := by
  constructor
  · intro h; cases h; rfl
  · rintro rfl; exact .done _

theorem depthFirst_cons_of_mem {a : α} {rest met order : List α} (old : a ∈ met) :
    DepthFirst next (a :: rest) met order ↔ DepthFirst next rest met order := by
  constructor
  · intro h
    cases h with
    | skip _ tail => exact tail
    | visit new _ _ => exact absurd old new
  · exact .skip old

theorem depthFirst_cons_of_not_mem {a : α} {rest met order : List α} (new : a ∉ met) :
    DepthFirst next (a :: rest) met order ↔
      ∃ middle, DepthFirst next (next a) (met ++ [a]) middle ∧
        DepthFirst next rest middle order := by
  constructor
  · intro h
    cases h with
    | skip old _ => exact absurd old new
    | visit _ below tail => exact ⟨_, below, tail⟩
  · rintro ⟨middle, below, tail⟩
    exact .visit new below tail

theorem DepthFirst.unique {points met order other : List α} (h : DepthFirst next points met order)
    (h' : DepthFirst next points met other) : order = other := by
  induction h generalizing other with
  | done => exact (depthFirst_nil.1 h').symm
  | skip old _ ih => exact ih ((depthFirst_cons_of_mem old).1 h')
  | visit new _ _ ihb iht =>
    obtain ⟨middle, below, tail⟩ := (depthFirst_cons_of_not_mem new).1 h'
    obtain rfl := ihb below
    exact iht tail

theorem depthFirst_append {points others met order : List α} :
    DepthFirst next (points ++ others) met order ↔
      ∃ middle, DepthFirst next points met middle ∧ DepthFirst next others middle order := by
  constructor
  · intro h
    induction points generalizing met with
    | nil => exact ⟨met, .done met, h⟩
    | cons a rest ih =>
      cases h with
      | skip old tail =>
        obtain ⟨middle, first, second⟩ := ih tail
        exact ⟨middle, .skip old first, second⟩
      | visit new below tail =>
        obtain ⟨middle, first, second⟩ := ih tail
        exact ⟨middle, .visit new below first, second⟩
  · rintro ⟨middle, first, second⟩
    induction first with
    | done => exact second
    | skip old _ ih => exact .skip old (ih second)
    | visit new below _ _ ih => exact .visit new below (ih second)

/-- What was met stays met, in its order. -/
theorem DepthFirst.grows {points met order : List α} (h : DepthFirst next points met order) :
    met <+: order := by
  induction h with
  | done met => exact List.prefix_refl met
  | skip _ _ ih => exact ih
  | visit _ _ _ ihb iht => exact ((List.prefix_append ..).trans ihb).trans iht

theorem DepthFirst.mem {a : α} {points met order : List α} (h : DepthFirst next points met order)
    (ha : a ∈ points) : a ∈ order := by
  induction h with
  | done => cases ha
  | skip old tail ih =>
    rcases List.mem_cons.1 ha with rfl | ha
    · exact tail.grows.subset old
    · exact ih ha
  | visit _ below tail _ ih =>
    rcases List.mem_cons.1 ha with rfl | ha
    · exact (below.grows.trans tail.grows).subset (by simp)
    · exact ih ha

theorem DepthFirst.nodup {points met order : List α} (h : DepthFirst next points met order)
    (distinct : met.Nodup) : order.Nodup := by
  induction h with
  | done => exact distinct
  | skip _ _ ih => exact ih distinct
  | @visit a _ met _ _ new _ _ ihb iht =>
    have extended : (met ++ [a]).Nodup := by simpa using List.Nodup.concat new distinct
    exact iht (ihb extended)

theorem DepthFirst.closed {points met order : List α} (h : DepthFirst next points met order)
    {a b : α} (ha : a ∈ order) (new : a ∉ met) (hb : b ∈ next a) : b ∈ order := by
  induction h with
  | done => exact absurd ha new
  | skip _ _ ih => exact ih ha new
  | @visit c _ met middle _ _ below tail ihb iht =>
    by_cases inside : a ∈ middle
    · apply tail.grows.subset
      by_cases old : a ∈ met ++ [c]
      · obtain rfl : a = c := by simpa [new] using old
        exact below.mem hb
      · exact ihb inside old
    · exact iht ha inside

/-- What holds of the points that are listed, and passes on to what follows a point, holds of all
that is met. -/
theorem DepthFirst.forall_mem {points met order : List α} (h : DepthFirst next points met order)
    {motive : α → Prop} (listed : ∀ a ∈ points, motive a) (old : ∀ a ∈ met, motive a)
    (step : ∀ a, motive a → ∀ b ∈ next a, motive b) : ∀ a ∈ order, motive a := by
  induction h with
  | done => exact old
  | skip _ _ ih => exact ih (fun a ha => listed a (List.mem_cons_of_mem _ ha)) old
  | @visit c _ met _ _ _ _ _ ihb iht =>
    have here : motive c := listed c List.mem_cons_self
    have extended : ∀ a ∈ met ++ [c], motive a := by
      intro a ha
      rcases List.mem_append.1 ha with ha | ha
      · exact old a ha
      · exact List.mem_singleton.1 ha ▸ here
    exact iht (fun a ha => listed a (List.mem_cons_of_mem _ ha)) (ihb (step c here) extended)

/-- A search runs in the same way through points that go by other names. -/
theorem DepthFirst.map {β : Type} {f : α → β} (injective : Function.Injective f)
    {next' : β → List β} (same : ∀ a, next' (f a) = (next a).map f) {points met order : List α}
    (h : DepthFirst next points met order) :
    DepthFirst next' (points.map f) (met.map f) (order.map f) := by
  induction h with
  | done => exact .done _
  | skip old _ ih => exact .skip (List.mem_map_of_mem old) ih
  | @visit a rest met middle order new _ _ ihb iht =>
    rw [List.map_append] at ihb
    exact .visit (mt (List.mem_map_of_injective injective).1 new) (same a ▸ ihb) iht

section
variable [DecidableEq α]

/-- A point that was met may be left out wherever it is listed. -/
theorem depthFirst_filter_ne {a : α} {points met order : List α} (old : a ∈ met) :
    DepthFirst next (points.filter fun b => !b == a) met order ↔
      DepthFirst next points met order := by
  induction points generalizing met with
  | nil => rfl
  | cons b rest ih =>
    by_cases same : b = a
    · rw [List.filter_cons_of_neg (by simp [same]), ih old, same, depthFirst_cons_of_mem old]
    · rw [List.filter_cons_of_pos (by simp [same])]
      by_cases seen : b ∈ met
      · rw [depthFirst_cons_of_mem seen, depthFirst_cons_of_mem seen, ih old]
      · rw [depthFirst_cons_of_not_mem seen, depthFirst_cons_of_not_mem seen]
        refine exists_congr fun middle => and_congr_right fun below => ?_
        exact ih (below.grows.subset (List.mem_append_left _ old))

theorem depthFirst_eraseDups {points met order : List α} :
    DepthFirst next points.eraseDups met order ↔ DepthFirst next points met order := by
  -- The tail of `eraseDups` is no tail of the list, so the induction is on the length.
  induction hn : points.length using Nat.strongRecOn generalizing points met with
  | ind n ih =>
    subst hn
    cases points with
    | nil => rw [List.eraseDups_nil]
    | cons a rest =>
      have shorter : (rest.filter fun b => !b == a).length < (a :: rest).length :=
        Nat.lt_succ_of_le (List.length_filter_le ..)
      rw [List.eraseDups_cons]
      by_cases seen : a ∈ met
      · rw [depthFirst_cons_of_mem seen, depthFirst_cons_of_mem seen, ih _ shorter rfl,
          depthFirst_filter_ne seen]
      · rw [depthFirst_cons_of_not_mem seen, depthFirst_cons_of_not_mem seen]
        refine exists_congr fun middle => and_congr_right fun below => ?_
        rw [ih _ shorter rfl]
        exact depthFirst_filter_ne (below.grows.subset (by simp))

end

end Manuscript
