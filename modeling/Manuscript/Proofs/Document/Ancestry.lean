import Mathlib.Data.List.Nodup
import Manuscript.Document.Parents
import Manuscript.Proofs.Document.Identity

/-!
# Ancestry

What the parents of a document say of the tree that they were read off:

* `of?_sound`: the parent of a node is a node that it is directly below;
* `of?_eq_some`: where nodes are not shared it is the only one;
* `climb_eq`: a climb comes to an end, after no more steps than there are entries;
* `ancestors_of_some`, `enclosingBlock?_of_some`: one step of a climb;
* `leadsUp_of_mem`, `LeadsUp.ancestors`: from every node of a document, also one that is shared, the
  parents lead up to the root;
* `size_le_entries`: where nodes are not shared there is an entry for all nodes but the root.
-/

namespace Manuscript.Parents

variable {root : Node} {parents : Parents}

/-- Every entry names a parent in the document and the key of a node directly below it. -/
def Sound (root : Node) (parents : Parents) : Prop :=
  ∀ e ∈ parents.entries, e.2 ∈ root.preorder ∧ ∃ c ∈ e.2.parts, c.key = e.1

theorem Sound.adopt (h : Sound root parents) {p c : Node} (hp : p ∈ root.preorder)
    (hc : c ∈ p.parts) : Sound root (adopt p parents c) := by
  unfold Parents.adopt
  split
  next =>
    intro e he
    rcases List.mem_append.1 he with he | he
    · exact h e he
    · obtain rfl := List.mem_singleton.1 he
      exact ⟨hp, c, hc, rfl⟩
  next => split <;> exact h

theorem ofRoot_sound (root : Node) : Sound root (ofRoot root) := by
  refine List.foldlRecOn root.places _ (fun e he => by cases he) fun _ sound p hp => ?_
  rw [Node.places_eq_preorder] at hp
  exact List.foldlRecOn p.parts _ sound fun _ sound _ hc => sound.adopt hp hc

theorem mem_entries_of_of? {n p : Node} (h : parents.of? n = some p) :
    (n.key, p) ∈ parents.entries := by
  obtain ⟨before, after, same, -⟩ := List.lookup_eq_some_iff.1 h
  rw [same]
  simp

theorem of?_sound (coherent : root.Coherent) {n p : Node} (hn : n ∈ root.preorder)
    (h : (ofRoot root).of? n = some p) : p ∈ root.preorder ∧ n ∈ p.parts := by
  obtain ⟨hp, c, hc, same⟩ := ofRoot_sound root _ (mem_entries_of_of? h)
  have hcr : c ∈ root.preorder := Node.mem_preorder_of_mem_parts hp hc
  exact ⟨hp, coherent c hcr n hn same ▸ hc⟩

theorem adopt_of?_self (parents : Parents) (p c : Node) :
    ∃ q, (adopt p parents c).of? c = some q := by
  unfold adopt
  split
  next h =>
    have absent : parents.entries.lookup c.key = none := h
    exact ⟨p, by simp [of?, List.lookup_append, absent]⟩
  next q h => split <;> exact ⟨q, h⟩

/-- A node that has a parent keeps it. -/
theorem adopt_of?_of_some {n q : Node} (h : parents.of? n = some q) (p c : Node) :
    (adopt p parents c).of? n = some q := by
  unfold adopt
  split
  next =>
    have found : parents.entries.lookup n.key = some q := h
    simp [of?, List.lookup_append, found]
  next => split <;> exact h

theorem adoptAll_of?_of_some {n q : Node} (h : parents.of? n = some q) (p : Node) :
    (adoptAll parents p).of? n = some q :=
  List.foldlRecOn (motive := fun made : Parents => made.of? n = some q) p.parts _ h
    fun _ kept c _ => adopt_of?_of_some kept p c

theorem adoptAll_of? (parents : Parents) {p c : Node} (hc : c ∈ p.parts) :
    ∃ q, (adoptAll parents p).of? c = some q := by
  obtain ⟨before, after, same⟩ := List.append_of_mem hc
  obtain ⟨q, entered⟩ := adopt_of?_self (before.foldl (adopt p) parents) p c
  refine ⟨q, ?_⟩
  rw [adoptAll, same, List.foldl_append, List.foldl_cons]
  exact List.foldlRecOn (motive := fun made : Parents => made.of? c = some q) after _ entered
    fun _ kept d _ => adopt_of?_of_some kept p d

theorem exists_of? {p c : Node} (hp : p ∈ root.preorder) (hc : c ∈ p.parts) :
    ∃ q, (ofRoot root).of? c = some q := by
  rw [← Node.places_eq_preorder] at hp
  obtain ⟨before, after, same⟩ := List.append_of_mem hp
  obtain ⟨q, entered⟩ := adoptAll_of? (before.foldl adoptAll empty) hc
  refine ⟨q, ?_⟩
  rw [ofRoot, same, List.foldl_append, List.foldl_cons]
  exact List.foldlRecOn (motive := fun made : Parents => made.of? c = some q) after _ entered
    fun _ kept d _ => adoptAll_of?_of_some kept d

theorem of?_eq_some (unshared : root.Unshared) {p c : Node} (hp : p ∈ root.preorder)
    (hc : c ∈ p.parts) : (ofRoot root).of? c = some p := by
  obtain ⟨q, h⟩ := exists_of? hp hc
  obtain ⟨hq, hcq⟩ := of?_sound unshared.coherent (Node.mem_preorder_of_mem_parts hp hc) h
  rw [h, unshared.parent_unique hq hp hcq hc]

/-- How many entries have a parent larger than a node. Every step up from the node needs one of its
own. -/
def room (parents : Parents) (n : Node) : Nat :=
  parents.entries.countP fun e => n.size < e.2.size

theorem room_le (parents : Parents) (n : Node) : parents.room n ≤ parents.entries.length :=
  List.countP_le_length

theorem room_lt {n p : Node} (h : parents.of? n = some p) (larger : n.size < p.size) :
    parents.room p < parents.room n := by
  obtain ⟨before, after, same⟩ := List.append_of_mem (mem_entries_of_of? h)
  have fewer : ∀ entries : List (Nat × Node), entries.countP (fun e => p.size < e.2.size) ≤
      entries.countP (fun e => n.size < e.2.size) := by
    intro entries
    refine List.countP_mono_left fun e _ above => ?_
    rw [decide_eq_true_iff] at above ⊢
    exact Nat.lt_trans larger above
  have hb := fewer before
  have ha := fewer after
  simp only [room, same, List.countP_append, List.countP_cons, larger, Nat.lt_irrefl, decide_true,
    decide_false, Bool.false_eq_true, if_true, if_false]
  omega

/-- The parent of a node is in the document, is larger and leaves less room. -/
theorem step_up (coherent : root.Coherent) {n p : Node} (hn : n ∈ root.preorder)
    (h : (ofRoot root).of? n = some p) :
    p ∈ root.preorder ∧ n.size < p.size ∧ (ofRoot root).room p < (ofRoot root).room n := by
  obtain ⟨hp, below⟩ := of?_sound coherent hn h
  have larger := Node.size_lt_of_mem_parts below
  exact ⟨hp, larger, room_lt h larger⟩

theorem climb_of_none {n : Node} (h : parents.of? n = none) (steps : Nat) :
    parents.climb steps n = [] := by
  cases steps <;> simp [climb, h]

/-- A climb with room enough comes to an end, so that more steps lead no further. -/
theorem climb_eq (coherent : root.Coherent) {n : Node} (hn : n ∈ root.preorder) {steps more : Nat}
    (enough : (ofRoot root).room n ≤ steps) (enough' : (ofRoot root).room n ≤ more) :
    (ofRoot root).climb steps n = (ofRoot root).climb more n := by
  induction steps generalizing n more with
  | zero =>
    cases h : (ofRoot root).of? n with
    | none => rw [climb_of_none h, climb_of_none h]
    | some p =>
      have := (step_up coherent hn h).2.2
      omega
  | succ steps ih =>
    cases h : (ofRoot root).of? n with
    | none => rw [climb_of_none h, climb_of_none h]
    | some p =>
      obtain ⟨hp, -, less⟩ := step_up coherent hn h
      obtain ⟨more, rfl⟩ : ∃ k, more = k + 1 := ⟨more - 1, by omega⟩
      have rest : (ofRoot root).climb steps p = (ofRoot root).climb more p :=
        ih hp (by omega) (by omega)
      simp only [climb, h, rest]

theorem ancestors_of_some (coherent : root.Coherent) {n p : Node} (hn : n ∈ root.preorder)
    (h : (ofRoot root).of? n = some p) :
    (ofRoot root).ancestors n = p :: (ofRoot root).ancestors p := by
  obtain ⟨hp, -, less⟩ := step_up coherent hn h
  have enough := (ofRoot root).room_le n
  obtain ⟨steps, same⟩ : ∃ k, (ofRoot root).entries.length = k + 1 :=
    ⟨(ofRoot root).entries.length - 1, by omega⟩
  unfold ancestors
  conv_lhs => rw [same, climb, h]
  exact congrArg (p :: ·) (climb_eq coherent hp (by omega) (by omega))

theorem climb_larger (coherent : root.Coherent) {n : Node} (hn : n ∈ root.preorder) (steps : Nat) :
    ∀ a ∈ (ofRoot root).climb steps n, a ∈ root.preorder ∧ n.size < a.size := by
  induction steps generalizing n with
  | zero => simp [climb]
  | succ steps ih =>
    intro a ha
    cases h : (ofRoot root).of? n with
    | none => simp [climb, h] at ha
    | some p =>
      obtain ⟨hp, larger, -⟩ := step_up coherent hn h
      simp only [climb, h] at ha
      rcases List.mem_cons.1 ha with rfl | ha
      · exact ⟨hp, larger⟩
      · obtain ⟨har, above⟩ := ih hp a ha
        exact ⟨har, Nat.lt_trans larger above⟩

/-- What is directly below a block is enclosed by it; what is directly below an inline node is
enclosed by what encloses that. -/
theorem enclosingBlock?_of_some (coherent : root.Coherent) {n p : Node} (hn : n ∈ root.preorder)
    (h : (ofRoot root).of? n = some p) :
    (ofRoot root).enclosingBlock? n =
      if p.isInline then (ofRoot root).enclosingBlock? p else some p := by
  rw [enclosingBlock?, ancestors_of_some coherent hn h, List.find?_cons]
  cases p.isInline <;> simp [enclosingBlock?]

/-- The block around a node is larger than the node. -/
theorem enclosingBlock?_larger (coherent : root.Coherent) {n b : Node} (hn : n ∈ root.preorder)
    (h : (ofRoot root).enclosingBlock? n = some b) :
    b ∈ root.preorder ∧ n.size < b.size ∧ b.isInline = false := by
  obtain ⟨hb, larger⟩ := climb_larger coherent hn _ b (List.mem_of_find?_eq_some h)
  exact ⟨hb, larger, by simpa using List.find?_some h⟩

/-- Going from parent to parent leads from a node up to the root, every time to a node that the one
before is directly below. -/
inductive LeadsUp (parents : Parents) (root : Node) : Node → Prop where
  | root (top : parents.of? root = none) : LeadsUp parents root root
  | step {n p : Node} (h : parents.of? n = some p) (below : n ∈ p.parts)
      (above : LeadsUp parents root p) : LeadsUp parents root n

/-- A node of a document without a parent is its root. -/
theorem eq_root_of_of?_eq_none {n : Node} (hn : n ∈ root.preorder)
    (h : (ofRoot root).of? n = none) : n = root := by
  rcases Node.exists_parent_of_mem_preorder hn with same | ⟨p, hp, below⟩
  · exact same
  · obtain ⟨q, found⟩ := exists_of? hp below
    rw [found] at h
    cases h

theorem leadsUp_of_mem (coherent : root.Coherent) {n : Node} (hn : n ∈ root.preorder) :
    (ofRoot root).LeadsUp root n := by
  induction room : (ofRoot root).room n using Nat.strongRecOn generalizing n with
  | _ k ih =>
    subst room
    cases h : (ofRoot root).of? n with
    | none =>
      obtain rfl := eq_root_of_of?_eq_none hn h
      exact .root h
    | some p =>
      obtain ⟨hp, -, less⟩ := step_up coherent hn h
      exact .step h (of?_sound coherent hn h).2 (ih _ less hp rfl)

/-- The ancestors of a node are the nodes on that way, the root the last of them. -/
theorem LeadsUp.ancestors (coherent : root.Coherent) {n : Node} (hn : n ∈ root.preorder)
    (h : (ofRoot root).LeadsUp root n) :
    List.IsChain (fun c p => (ofRoot root).of? c = some p ∧ c ∈ p.parts)
        (n :: (ofRoot root).ancestors n) ∧
      (n :: (ofRoot root).ancestors n).getLast? = some root := by
  induction h with
  | root top =>
    rw [Parents.ancestors, climb_of_none top]
    exact ⟨.singleton _, rfl⟩
  | step h below _ ih =>
    obtain ⟨chain, last⟩ := ih (of?_sound coherent hn h).1
    rw [ancestors_of_some coherent hn h]
    refine ⟨List.isChain_cons_cons.2 ⟨⟨h, below⟩, chain⟩, ?_⟩
    rw [List.getLast?_cons_cons]
    exact last

theorem size_le_entries (unshared : root.Unshared) :
    root.size ≤ (ofRoot root).entries.length + 1 := by
  have nodup : ((root.parts.flatMap Node.preorder).map Node.key).Nodup := by
    rw [Node.Unshared, Node.preorder_eq, List.map_cons] at unshared
    exact (List.nodup_cons.1 unshared).2
  have entered : (root.parts.flatMap Node.preorder).map Node.key ⊆
      (ofRoot root).entries.map Prod.fst := by
    intro key hkey
    obtain ⟨n, hn, rfl⟩ := List.mem_map.1 hkey
    obtain ⟨c, hc, inside⟩ := List.mem_flatMap.1 hn
    obtain ⟨p, hp, below⟩ : ∃ p ∈ root.preorder, n ∈ p.parts := by
      rcases Node.exists_parent_of_mem_preorder inside with rfl | ⟨p, hp, below⟩
      · exact ⟨root, root.self_mem_preorder, hc⟩
      · exact ⟨p, Node.mem_preorder_iff.2 (.inr ⟨c, hc, hp⟩), below⟩
    obtain ⟨q, h⟩ := exists_of? hp below
    exact List.mem_map.2 ⟨_, mem_entries_of_of? h, rfl⟩
  have fits := (List.subperm_of_subset nodup entered).length_le
  rw [Node.size_eq, weight_eq_length]
  simp only [List.length_map] at fits
  omega

end Manuscript.Parents
