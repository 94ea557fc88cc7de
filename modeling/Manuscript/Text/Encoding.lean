import Manuscript.Text.Quoted

/-!
# UTF-8

A text may hold lone surrogates: code points that are kept for the halves of a pair, and have no
bytes of their own. No character is one of them, so a text that holds some has other characters in
their place, and an `Encoding` says which. Encoding such a text fails, unless it is the name of a
file: there some surrogates stand for bytes that are not UTF-8.
-/

namespace Manuscript

/-- A code point that is kept for one half of a pair. -/
structure Surrogate where
  code : Nat
  isSurrogate : 0xD800 ≤ code ∧ code ≤ 0xDFFF := by decide
deriving DecidableEq, Repr

/-- The byte that a surrogate stands for in the name of a file. -/
def Surrogate.byte? (s : Surrogate) : Option UInt8 :=
  if 0xDC80 ≤ s.code ∧ s.code ≤ 0xDCFF then some (UInt8.ofNat (s.code - 0xDC00)) else none

/-- Why a text has no encoding: its first surrogate that has no bytes, at some position, and how
many other surrogates follow right after. -/
structure EncodeError where
  surrogate : Surrogate
  position : Nat
  following : Nat
deriving DecidableEq, Repr

def EncodeError.message (e : EncodeError) : String :=
  let found :=
    if e.following = 0 then
      "character '\\u" ++ String.ofList (Text.hexDigits 4 e.surrogate.code) ++ "' in position " ++
        toString e.position
    else
      "characters in position " ++ toString e.position ++ "-" ++
        toString (e.position + e.following)
  "'utf-8' codec can't encode " ++ found ++ ": surrogates not allowed"

/-- UTF-8 for texts in which some characters stand for lone surrogates. -/
structure Encoding where
  lone? : Char → Option Surrogate

namespace Encoding

/-- UTF-8 for texts without lone surrogates. -/
def plain : Encoding := ⟨fun _ => none⟩

/-- The bytes of characters from a position on. A surrogate has one byte if it is escaped as
such. -/
def encodeFrom (encoding : Encoding) (escape : Surrogate → Option UInt8) (position : Nat) :
    List Char → Except EncodeError (List UInt8)
  | [] => .ok []
  | c :: cs =>
    match encoding.lone? c with
    | none => (String.utf8EncodeChar c ++ ·) <$> encodeFrom encoding escape (position + 1) cs
    | some surrogate =>
      match escape surrogate with
      | some byte => (byte :: ·) <$> encodeFrom encoding escape (position + 1) cs
      | none =>
        let following := cs.takeWhile fun c => (encoding.lone? c).isSome
        .error ⟨surrogate, position, following.length⟩

/-- The bytes of a text. -/
def encode (encoding : Encoding) (s : String) : Except EncodeError ByteArray :=
  List.toByteArray <$> encoding.encodeFrom (fun _ => none) 0 s.toList

/-- The bytes of the name of a file. -/
def encodeName (encoding : Encoding) (name : String) : Except EncodeError (List UInt8) :=
  encoding.encodeFrom Surrogate.byte? 0 name.toList

end Encoding

end Manuscript
