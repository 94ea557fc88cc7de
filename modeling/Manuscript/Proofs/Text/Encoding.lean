import Manuscript.Text.Encoding

/-!
# Texts and their bytes

* `Encodes`: the bytes of a text, from which it can be read again;
* `Expresses`, `encode_of_expresses`: a text without lone surrogates has such bytes;
* `FirstLone`, `encode_of_not_expresses`: for any other text the first one is reported.
-/

namespace Manuscript

/-- The bytes of a text are those of its characters one after the other, and the text is read from
them again. -/
structure Encodes (bytes : ByteArray) (s : String) : Prop where
  encoded : bytes = (s.toList.flatMap String.utf8EncodeChar).toByteArray
  decoded : bytes.utf8Decode? = some s.toList.toArray

theorem encodes_toUTF8 (s : String) : Encodes s.toUTF8 s := by
  have encoded : s.toUTF8 = s.toList.utf8Encode := String.utf8Encode_toList.symm
  constructor
  case encoded => exact encoded
  case decoded =>
    rw [encoded]
    exact List.utf8Decode?_utf8Encode

namespace Encoding

/-- A text has no lone surrogates. -/
def Expresses (encoding : Encoding) (s : String) : Prop := ∀ c ∈ s.toList, encoding.lone? c = none

/-- An error names the first lone surrogate of some characters that start at a position, and counts
those that follow it at once. -/
inductive FirstLone (encoding : Encoding) (start : Nat) (cs : List Char) : EncodeError → Prop where
  | intro (before after : List Char) (c : Char) {surrogate : Surrogate}
      (split : cs = before ++ c :: after) (plain : ∀ b ∈ before, encoding.lone? b = none)
      (lone : encoding.lone? c = some surrogate) :
      FirstLone encoding start cs ⟨surrogate, start + before.length,
        (after.takeWhile fun c => (encoding.lone? c).isSome).length⟩

variable {encoding : Encoding} {s : String}

theorem FirstLone.not_expresses {e : EncodeError} (h : FirstLone encoding 0 s.toList e) :
    ¬ encoding.Expresses s := by
  obtain ⟨before, after, c, split, plain, lone⟩ := h
  intro expresses
  have among : c ∈ s.toList := by simp [split]
  rw [expresses c among] at lone
  cases lone

theorem encodeFrom_of_plain {escape : Surrogate → Option UInt8} {cs : List Char}
    (plain : ∀ c ∈ cs, encoding.lone? c = none) (position : Nat) :
    encoding.encodeFrom escape position cs = .ok (cs.flatMap String.utf8EncodeChar) := by
  induction cs generalizing position with
  | nil => rfl
  | cons c cs ih =>
    obtain ⟨first, plain⟩ := List.forall_mem_cons.1 plain
    rw [encodeFrom, first, ih plain]
    rfl

theorem FirstLone.cons {start : Nat} {c : Char} {cs : List Char} {e : EncodeError}
    (first : encoding.lone? c = none) (h : FirstLone encoding (start + 1) cs e) :
    FirstLone encoding start (c :: cs) e := by
  obtain ⟨before, after, lonely, split, plain, lone⟩ := h
  have position : start + 1 + before.length = start + (c :: before).length := by
    rw [List.length_cons]
    omega
  rw [position]
  exact .intro (c :: before) after lonely (by rw [split, List.cons_append])
    (List.forall_mem_cons.2 ⟨first, plain⟩) lone

theorem encodeFrom_of_not_plain {cs : List Char}
    (unplain : ¬ ∀ c ∈ cs, encoding.lone? c = none) (position : Nat) :
    ∃ e, encoding.encodeFrom (fun _ => none) position cs = .error e ∧
      FirstLone encoding position cs e := by
  induction cs generalizing position with
  | nil => exact absurd nofun unplain
  | cons c cs ih =>
    rw [encodeFrom]
    cases lone : encoding.lone? c with
    | some surrogate => exact ⟨_, rfl, .intro [] cs c rfl nofun lone⟩
    | none =>
      have later : ¬ ∀ c ∈ cs, encoding.lone? c = none := fun plain =>
        unplain (List.forall_mem_cons.2 ⟨lone, plain⟩)
      obtain ⟨e, fails, found⟩ := ih later (position + 1)
      exact ⟨e, by rw [fails]; rfl, found.cons lone⟩

/-- A text without lone surrogates has its bytes. -/
theorem encode_of_expresses (h : encoding.Expresses s) : encoding.encode s = .ok s.toUTF8 := by
  rw [encode, encodeFrom_of_plain h, (encodes_toUTF8 s).encoded]
  rfl

/-- A text with lone surrogates has none, and the first one is reported. -/
theorem encode_of_not_expresses (h : ¬ encoding.Expresses s) :
    ∃ e, encoding.encode s = .error e ∧ FirstLone encoding 0 s.toList e := by
  obtain ⟨e, fails, found⟩ := encodeFrom_of_not_plain h 0
  exact ⟨e, by rw [encode, fails]; rfl, found⟩

end Encoding

end Manuscript
