import ClusterAgent.MessagePack.Reader

/-! Three properties of readers that go through every sequence of readings: which bytes a reader
takes for a value, what holds of all values that it gives, and how it continues on longer input. -/
namespace ClusterAgent.MessagePack

variable {α β : Type}

/-- An error that may go away when more bytes follow. -/
def ReadError.isShortage : ReadError → Bool
  | incomplete | arrayTooLong .. | mapTooLong .. => true
  | _ => false

namespace Reader

theorem bind_of_ok {r : Reader α} {input rest : List UInt8} {a : α} (h : r input = .ok (a, rest))
    (f : α → Reader β) : (r >>= f) input = f a rest := by
  change (r input >>= fun p => f p.1 p.2) = f a rest
  rw [h]
  rfl

theorem bind_of_error {r : Reader α} {input : List UInt8} {e : ReadError}
    (h : r input = .error e) (f : α → Reader β) : (r >>= f) input = .error e := by
  change (r input >>= fun p => f p.1 p.2) = .error e
  rw [h]
  rfl

/-- The reader takes the bytes for the value, whatever follows them. -/
def Takes (r : Reader α) (bytes : List UInt8) (a : α) : Prop :=
  ∀ rest, r (bytes ++ rest) = .ok (a, rest)

/-- Every value that the reader gives has the property. -/
def Yields (r : Reader α) (P : α → Prop) : Prop :=
  ∀ input a rest, r input = .ok (a, rest) → P a

/-- The second reader continues the first: on longer input it does the same, unless the first one
ran short of input. -/
structure Extends (r wide : Reader α) : Prop where
  ok : ∀ input a rest, r input = .ok (a, rest) →
    ∀ more, wide (input ++ more) = .ok (a, rest ++ more)
  error : ∀ input e, r input = .error e → e.isShortage = false →
    ∀ more, wide (input ++ more) = .error e

theorem Takes.pure (a : α) : Takes (Pure.pure a) [] a := fun _ => rfl

theorem Takes.bind {r : Reader α} {f : α → Reader β} {bs cs : List UInt8} {a : α} {b : β}
    (hr : r.Takes bs a) (hf : (f a).Takes cs b) : Takes (r >>= f) (bs ++ cs) b := by
  intro rest
  rw [List.append_assoc, bind_of_ok (hr (cs ++ rest))]
  exact hf rest

/-- The second reader takes nothing off the bytes. -/
theorem Takes.bind_nil {r : Reader α} {f : α → Reader β} {bs : List UInt8} {a : α} {b : β}
    (hr : r.Takes bs a) (hf : (f a).Takes [] b) : Takes (r >>= f) bs b := by
  have := hr.bind hf
  rwa [List.append_nil] at this

theorem Takes.bind_pure {r : Reader α} {bs : List UInt8} {a : α} (hr : r.Takes bs a) (g : α → β) :
    Takes (r >>= fun a => Pure.pure (g a)) bs (g a) :=
  hr.bind_nil (.pure (g a))

theorem Yields.pure {P : α → Prop} {a : α} (h : P a) : Yields (Pure.pure a) P := by
  intro input b rest hb
  obtain ⟨rfl, -⟩ : a = b ∧ input = rest := by simpa using Except.ok.inj hb
  exact h

theorem Yields.throw {P : α → Prop} (e : ReadError) : Yields (MonadExcept.throw e) P := by
  intro input b rest hb
  cases hb

theorem Yields.bind {r : Reader α} {f : α → Reader β} {P : α → Prop} {Q : β → Prop}
    (hr : r.Yields P) (hf : ∀ a, P a → (f a).Yields Q) : Yields (r >>= f) Q := by
  intro input b rest h
  cases hread : r input with
  | error e =>
    rw [bind_of_error hread] at h
    cases h
  | ok p =>
    rw [bind_of_ok hread] at h
    exact hf p.1 (hr _ _ _ hread) _ _ _ h

theorem Yields.mono {r : Reader α} {P Q : α → Prop} (hr : r.Yields P) (h : ∀ a, P a → Q a) :
    r.Yields Q := fun _ _ _ hread => h _ (hr _ _ _ hread)

/-- A reader without a property of its own to show. -/
theorem Yields.trivial (r : Reader α) : r.Yields fun _ => True := fun _ _ _ _ => True.intro

theorem Extends.pure (a : α) : Extends (Pure.pure a) (Pure.pure a) where
  ok input b rest h more := by
    obtain ⟨rfl, rfl⟩ : a = b ∧ input = rest := by simpa using Except.ok.inj h
    rfl
  error input e h := by cases h

theorem Extends.throw (e : ReadError) :
    Extends (MonadExcept.throw e : Reader α) (MonadExcept.throw e) where
  ok input b rest h := by cases h
  error input e' h _ more := by
    cases h
    rfl

/-- What a reader does that ran short is left open. -/
theorem Extends.shortage {e : ReadError} (h : e.isShortage = true) (wide : Reader α) :
    Extends (MonadExcept.throw e) wide where
  ok input b rest h := by cases h
  error input e' he hs := by
    cases he
    rw [h] at hs
    cases hs

theorem Extends.bind_of_yields {r wide : Reader α} {f g : α → Reader β} {P : α → Prop}
    (hr : r.Extends wide) (hp : r.Yields P) (hf : ∀ a, P a → (f a).Extends (g a)) :
    Extends (r >>= f) (wide >>= g) where
  ok input b rest h more := by
    cases hread : r input with
    | error e =>
      rw [bind_of_error hread] at h
      cases h
    | ok p =>
      rw [bind_of_ok hread] at h
      rw [bind_of_ok (hr.ok _ _ _ hread more)]
      exact (hf p.1 (hp _ _ _ hread)).ok _ _ _ h more
  error input e h hs more := by
    cases hread : r input with
    | error e' =>
      rw [bind_of_error hread] at h
      obtain rfl := Except.error.inj h
      rw [bind_of_error (hr.error _ _ hread hs more)]
    | ok p =>
      rw [bind_of_ok hread] at h
      rw [bind_of_ok (hr.ok _ _ _ hread more)]
      exact (hf p.1 (hp _ _ _ hread)).error _ _ h hs more

theorem Extends.bind {r wide : Reader α} {f g : α → Reader β} (hr : r.Extends wide)
    (hf : ∀ a, (f a).Extends (g a)) : Extends (r >>= f) (wide >>= g) :=
  hr.bind_of_yields (.trivial r) fun a _ => hf a

end Reader

open Reader

theorem nextByte_takes (b : UInt8) : nextByte.Takes [b] b := fun _ => rfl

theorem nextByte_extends : nextByte.Extends nextByte where
  ok input b rest h more := by
    cases input with
    | nil => cases h
    | cons c input =>
      cases h
      rfl
  error input e h hs := by
    cases input with
    | nil =>
      cases h
      cases hs
    | cons c input => cases h

theorem takeBytes_takes (bs : List UInt8) : (takeBytes bs.length).Takes bs bs := by
  induction bs with
  | nil => exact .pure []
  | cons b bs ih => exact (nextByte_takes b).bind (ih.bind_pure _)

theorem takeBytes_extends (n : Nat) : (takeBytes n).Extends (takeBytes n) := by
  induction n with
  | zero => exact .pure []
  | succ n ih => exact nextByte_extends.bind fun b => ih.bind fun bs => .pure (b :: bs)

theorem takeBytes_yields (n : Nat) : (takeBytes n).Yields fun bs => bs.length = n := by
  induction n with
  | zero => exact .pure rfl
  | succ n ih =>
    refine Yields.bind (.trivial nextByte) fun b _ => ih.bind fun bs hbs => .pure ?_
    rw [List.length_cons, hbs]

end ClusterAgent.MessagePack
