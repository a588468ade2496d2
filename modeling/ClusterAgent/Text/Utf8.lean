import ClusterAgent.Text.Quoted

/-!
UTF-8 over lists of bytes: writing, strict reading, and reading that puts U+FFFD in place of each
maximal ill-formed part. The reader can be told to take encoded surrogates as code points.
-/
namespace ClusterAgent.Utf8

/-- The bytes of the code point with number `n < 0x110000`. -/
def encodeNat (n : Nat) : List UInt8 :=
  if n < 0x80 then [n.toUInt8]
  else if n < 0x800 then [(0xC0 + n / 0x40).toUInt8, (0x80 + n % 0x40).toUInt8]
  else if n < 0x10000 then
    [(0xE0 + n / 0x1000).toUInt8, (0x80 + n / 0x40 % 0x40).toUInt8, (0x80 + n % 0x40).toUInt8]
  else
    [(0xF0 + n / 0x40000).toUInt8, (0x80 + n / 0x1000 % 0x40).toUInt8,
      (0x80 + n / 0x40 % 0x40).toUInt8, (0x80 + n % 0x40).toUInt8]

def encodeChar (c : Char) : List UInt8 := encodeNat c.toNat

def encodeChars (cs : List Char) : List UInt8 := cs.flatMap encodeChar

def encode (s : String) : List UInt8 := encodeChars s.toList

/-- Surrogates have no encoding. -/
def encodeWide? (t : WideText) : Option (List UInt8) := (WideText.toChars? t).map encodeChars

/-- Why a text with surrogates has no encoding: where the first run of them stands. -/
def surrogateMessage (t : WideText) : String :=
  let isSurrogate (p : CodePoint) : Bool := p.toChar?.isNone
  let first := (t.takeWhile fun p => !isSurrogate p).length
  let run := (t.drop first).takeWhile isSurrogate
  let what := match run with
    | [p] => "character '\\u" ++ String.ofList (Text.hexDigits 4 p.toNat) ++
      s!"' in position {first}"
    | _ => s!"characters in position {first}-{first + run.length - 1}"
  s!"'utf-8' codec can't encode {what}: surrogates not allowed"

/-- What stands at the head of a list of bytes. -/
inductive Head
  | point (p : CodePoint) (rest : List UInt8)
  /-- An ill-formed part, as long as it could still have become a code point. -/
  | illFormed (rest : List UInt8)
  | done

def isTail (b : UInt8) : Bool := 0x80 ≤ b && b ≤ 0xBF

/-- The six low bits that a continuation byte carries. -/
def payload (b : UInt8) : Nat := b.toNat % 0x40

/-- The permitted second bytes after a lead byte: they keep out overlong forms, numbers past the
last code point and, unless `surrogates` are let in, encoded surrogates. -/
def isSecond (surrogates : Bool) (lead second : UInt8) : Bool :=
  if lead = 0xE0 then 0xA0 ≤ second && second ≤ 0xBF
  else if lead = 0xED && !surrogates then 0x80 ≤ second && second ≤ 0x9F
  else if lead = 0xF0 then 0x90 ≤ second && second ≤ 0xBF
  else if lead = 0xF4 then 0x80 ≤ second && second ≤ 0x8F
  else isTail second

/-- How many bytes have to follow a lead byte of several; other bytes lead nothing. -/
def tailLength (lead : UInt8) : Nat :=
  if 0xC2 ≤ lead && lead ≤ 0xDF then 1
  else if 0xE0 ≤ lead && lead ≤ 0xEF then 2
  else if 0xF0 ≤ lead && lead ≤ 0xF4 then 3
  else 0

/-- The bytes after a lead byte that belong to it, as far as they are well-formed. -/
def tail (surrogates : Bool) (lead : UInt8) (rest : List UInt8) : List UInt8 :=
  match rest.take (tailLength lead) with
  | [] => []
  | second :: more =>
    if isSecond surrogates lead second then second :: more.takeWhile isTail else []

/-- The number that a lead byte and its tail stand for. -/
def number (lead : UInt8) (tail : List UInt8) : Nat :=
  tail.foldl (fun n b => n * 0x40 + payload b) (lead.toNat % (0x40 >>> tail.length))

/-- The code point with number `n`, or an ill-formed part when there is none. -/
def Head.ofNat (n : Nat) (rest : List UInt8) : Head :=
  match CodePoint.ofNat? n with
  | some p => .point p rest
  | none => .illFormed rest

def head (surrogates : Bool) : List UInt8 → Head
  | [] => .done
  | lead :: rest =>
    if lead < 0x80 then .ofNat lead.toNat rest
    else
      let tail := tail surrogates lead rest
      if tail.length = tailLength lead && !tail.isEmpty then
        .ofNat (number lead tail) (rest.drop tail.length)
      else .illFormed (rest.drop tail.length)

def Head.rest : Head → List UInt8
  | .point _ r => r
  | .illFormed r => r
  | .done => []

@[simp] theorem Head.rest_illFormed (r : List UInt8) : (Head.illFormed r).rest = r := rfl

@[simp] theorem Head.rest_ofNat (n : Nat) (r : List UInt8) : (Head.ofNat n r).rest = r := by
  unfold Head.ofNat; split <;> rfl

theorem head_rest_length (s : Bool) (a : UInt8) (r : List UInt8) :
    (head s (a :: r)).rest.length ≤ r.length := by
  simp only [head]
  split
  · simp
  · split <;> simp

/-- Reads a whole list of bytes; none when some part is ill-formed. -/
def decodeWide? (surrogates : Bool) : List UInt8 → Option WideText
  | [] => some []
  | a :: r =>
    match _h : head surrogates (a :: r) with
    | .point p rest => (decodeWide? surrogates rest).map (p :: ·)
    | _ => none
  termination_by bs => bs.length
  decreasing_by
    have := head_rest_length surrogates a r
    rw [_h] at this; simp only [Head.rest] at this; simp; omega

def decode? (bs : List UInt8) : Option String := (decodeWide? false bs).bind WideText.toString?

/-- Reads a whole list of bytes with U+FFFD for each maximal ill-formed part. -/
def decodeReplacing : List UInt8 → List Char
  | [] => []
  | a :: r =>
    match _h : head false (a :: r) with
    | .point p rest => (p.toChar?.getD '\uFFFD') :: decodeReplacing rest
    | .illFormed rest => '\uFFFD' :: decodeReplacing rest
    | .done => []
  termination_by bs => bs.length
  decreasing_by
    all_goals
      have := head_rest_length false a r
      rw [_h] at this; simp only [Head.rest] at this; simp; omega

end ClusterAgent.Utf8
