import ClusterAgent.Text.Utf8

/-!
Why bytes are no text: where the first ill-formed part stands, and what is wrong with it.
-/
namespace ClusterAgent

inductive DecodeReason
  | invalidStart
  | invalidContinuation
  | unexpectedEnd
  /-- The last code unit is not complete. -/
  | truncated
  | outOfRange
  deriving Repr, DecidableEq

def DecodeReason.text : DecodeReason → String
  | invalidStart => "invalid start byte"
  | invalidContinuation => "invalid continuation byte"
  | unexpectedEnd => "unexpected end of data"
  | truncated => "truncated data"
  | outOfRange => "code point not in range(0x110000)"

structure DecodeError where
  encoding : String
  /-- Where the ill-formed part starts. -/
  position : Nat
  part : List UInt8
  reason : DecodeReason
  deriving Repr, DecidableEq

def DecodeError.message (e : DecodeError) : String :=
  let what := match e.part with
    | [b] => "byte 0x" ++ String.ofList (Text.hexDigits 2 b.toNat) ++ s!" in position {e.position}"
    | part => s!"bytes in position {e.position}-{e.position + part.length - 1}"
  s!"'{e.encoding}' codec can't decode {what}: {e.reason.text}"

namespace Utf8

/-- What is wrong at the head of a list of bytes. -/
def faultAt (position : Nat) (lead : UInt8) (rest : List UInt8) : DecodeError :=
  let fault := DecodeError.mk "utf-8" position
  if tailLength lead = 0 then fault [lead] .invalidStart
  else
    let tail := tail false lead rest
    fault (lead :: tail)
      (if tail.length = rest.length then .unexpectedEnd else .invalidContinuation)

/-- The first ill-formed part. -/
def firstFault (surrogates : Bool) (position : Nat) : List UInt8 → DecodeError
  | [] => ⟨"utf-8", position, [], .unexpectedEnd⟩
  | a :: r =>
    match h : head surrogates (a :: r) with
    | .point _ rest => firstFault surrogates (position + (r.length + 1 - rest.length)) rest
    | _ => faultAt position a r
  termination_by bs => bs.length
  decreasing_by
    have := head_rest_length surrogates a r
    rw [h] at this; simp only [Head.rest] at this; simp; omega

/-- Reads a whole list of bytes. -/
def decodeWide (surrogates : Bool) (bs : List UInt8) : Except DecodeError WideText :=
  match decodeWide? surrogates bs with
  | some t => .ok t
  | none => .error (firstFault surrogates 0 bs)

end Utf8
end ClusterAgent
