/-!
Texts that may hold halves of surrogate pairs. Such texts come out of JSON documents, where an
escape can name one half without the other; they have no encoding in UTF-8.
-/
namespace ClusterAgent

/-- A code point: a character, or one of the 2048 surrogates. -/
inductive CodePoint
  | char (c : Char)
  | surrogate (i : Fin 0x800)
  deriving Repr, DecidableEq

namespace CodePoint

/-- The surrogates are numbered from `0xD800`. -/
def toNat : CodePoint → Nat
  | char c => c.toNat
  | surrogate i => 0xD800 + i.val

/-- The code point with number `n`, of which all below `0x110000` exist. -/
def ofNat? (n : Nat) : Option CodePoint :=
  if 0xD800 ≤ n ∧ n < 0xE000 then some (surrogate (Fin.ofNat 0x800 (n - 0xD800)))
  else if n < 0x110000 then some (char (Char.ofNat n))
  else none

def toChar? : CodePoint → Option Char
  | char c => some c
  | surrogate _ => none

end CodePoint

/-- A sequence of code points. -/
abbrev WideText := List CodePoint

namespace WideText

def ofChars (cs : List Char) : WideText := cs.map .char

def ofString (s : String) : WideText := ofChars s.toList

/-- The characters of a text without surrogates. -/
def toChars? (t : WideText) : Option (List Char) := t.mapM CodePoint.toChar?

/-- The text as a string; there is none when it holds a surrogate. -/
def toString? (t : WideText) : Option String := (toChars? t).map String.ofList

/-- The order of texts by the numbers of their code points. -/
def precedes : WideText → WideText → Bool
  | [], _ => true
  | _ :: _, [] => false
  | p :: ps, q :: qs => if p = q then precedes ps qs else p.toNat < q.toNat

end WideText

/-- The string `s` is the text `t`. -/
instance : Coe String WideText := ⟨WideText.ofString⟩

end ClusterAgent
