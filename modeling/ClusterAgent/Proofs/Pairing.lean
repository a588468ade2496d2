import ClusterAgent.Proofs.World
import Mathlib.Data.List.Forall2

/-! Two runs side by side: what two actions do in two worlds is related, step by step, as their
arguments and worlds are. -/
namespace ClusterAgent

/-- Two results of one kind: failures that are related, or values that are. -/
inductive Matched {ε α : Type} (E : ε → ε → Prop) (V : α → α → Prop) :
    Except ε α → Except ε α → Prop
  | error {e f : ε} (h : E e f) : Matched E V (.error e) (.error f)
  | ok {x y : α} (h : V x y) : Matched E V (.ok x) (.ok y)

namespace Matched

variable {ε ε' α β : Type} {E : ε → ε → Prop} {E' : ε' → ε' → Prop} {V : α → α → Prop}

theorem of_eq (hE : ∀ e, E e e) (hV : ∀ x, V x x) (r : Except ε α) : Matched E V r r := by
  cases r with
  | error e => exact .error (hE e)
  | ok x => exact .ok (hV x)

theorem eq_of_eq {r s : Except ε α} (h : Matched Eq Eq r s) : r = s := by
  cases h with
  | error h => rw [h]
  | ok h => rw [h]

theorem mapError [Std.Refl E'] {r s : Except ε α} (h : Matched Eq V r s) (f : ε → ε') :
    Matched E' V (r.mapError f) (s.mapError f) := by
  cases h with
  | error h => exact .error (h ▸ refl _)
  | ok h => exact .ok h

end Matched

namespace Action

variable {ε ε' α β : Type} {P Q R : World → World → Prop} {E : ε → ε → Prop} {E' : ε' → ε' → Prop}
  {V : α → α → Prop} {U : β → β → Prop}

/-- Runs an action, and hands over what comes of it. -/
def attempt (a : Action ε α) : Action ε' (Except ε α) := fun w => (.ok (a.run w).1, (a.run w).2)

/-- From two worlds of which `P` holds, the actions come to related results, and to worlds of which
`Q` holds. -/
def Paired (P Q : World → World → Prop) (E : ε → ε → Prop) (V : α → α → Prop)
    (a b : Action ε α) : Prop :=
  ∀ w v, P w v → Matched E V (a.run w).1 (b.run v).1 ∧ Q (a.run w).2 (b.run v).2

namespace Paired

theorem pure {x y : α} (h : V x y) : Paired P P E V (pure x) (pure y) :=
  fun _ _ hwv => ⟨.ok h, hwv⟩

theorem throw {e f : ε} (h : E e f) : Paired P P E V (throw e) (throw f) :=
  fun _ _ hwv => ⟨.error h, hwv⟩

theorem liftM {r s : Except ε α} (h : Matched E V r s) : Paired P P E V (liftM r) (liftM s) := by
  intro w v hwv
  rw [run_liftM, run_liftM]
  exact ⟨h, hwv⟩

theorem modify {f g : World → World} (h : ∀ w v, P w v → Q (f w) (g v)) :
    Paired P Q E Eq (modify f : Action ε PUnit) (modify g) :=
  fun w v hwv => ⟨.ok rfl, h w v hwv⟩

/-- The second step may count on more than the first one's failures are held to. -/
theorem bind_imp {a b : Action ε α} (hab : Paired P Q E V a b) (hQ : ∀ w v, Q w v → R w v)
    {f g : α → Action ε β} (hfg : ∀ x y, V x y → Paired Q R E U (f x) (g y)) :
    Paired P R E U (a >>= f) (b >>= g) := by
  intro w v hwv
  obtain ⟨hresult, hworlds⟩ := hab w v hwv
  cases ha : a.run w with
  | mk r w' =>
    cases hb : b.run v with
    | mk s v' =>
      rw [ha, hb] at hresult hworlds
      cases hresult with
      | error h =>
        rw [run_bind_of_error ha, run_bind_of_error hb]
        exact ⟨.error h, hQ _ _ hworlds⟩
      | ok h =>
        rw [run_bind_of_ok ha, run_bind_of_ok hb]
        exact hfg _ _ h _ _ hworlds

theorem bind {a b : Action ε α} (hab : Paired P Q E V a b) {f g : α → Action ε β}
    (hfg : ∀ x y, V x y → Paired Q Q E U (f x) (g y)) : Paired P Q E U (a >>= f) (b >>= g) :=
  hab.bind_imp (fun _ _ => id) hfg

theorem bind_eq {a b : Action ε α} (hab : Paired P Q E Eq a b) {f g : α → Action ε β}
    (hfg : ∀ x, Paired Q Q E U (f x) (g x)) : Paired P Q E U (a >>= f) (b >>= g) :=
  hab.bind fun x _ hxy => hxy ▸ hfg x

theorem get_bind {f g : World → Action ε α} (h : ∀ w v, P w v → Paired P Q E V (f w) (g v)) :
    Paired P Q E V (get >>= f) (get >>= g) := by
  intro w v hwv
  rw [run_bind_of_ok (run_get w), run_bind_of_ok (run_get v)]
  exact h w v hwv w v hwv

theorem mapFailure [Std.Refl E'] {a b : Action ε α} (h : Paired P Q Eq V a b) (f : ε → ε') :
    Paired P Q E' V (a.mapFailure f) (b.mapFailure f) :=
  fun w v hwv => ⟨(h w v hwv).1.mapError f, (h w v hwv).2⟩

theorem attempt {a b : Action ε α} (h : Paired P Q E V a b) :
    Paired P Q E' (Matched E V) a.attempt b.attempt :=
  fun w v hwv => ⟨.ok (h w v hwv).1, (h w v hwv).2⟩

theorem mapM {f g : α → Action ε β} {xs ys : List α} (h : List.Forall₂ V xs ys)
    (hfg : ∀ x y, V x y → Paired P P E U (f x) (g y)) :
    Paired P P E (List.Forall₂ U) (xs.mapM f) (ys.mapM g) := by
  induction h with
  | nil => exact .pure .nil
  | cons hxy _ ih =>
    rw [List.mapM_cons, List.mapM_cons]
    refine (hfg _ _ hxy).bind fun _ _ hfirst => ?_
    exact ih.bind fun _ _ hrest => .pure (.cons hfirst hrest)

end Paired

/-! ### What does not depend on sessions -/

/-- The action neither asks for sessions nor depends on what would be answered. -/
def IgnoresSessions (a : Action ε α) : Prop :=
  ∀ (w : World) answer, a.run { w with sessionAnswer := answer } =
    ((a.run w).1, { (a.run w).2 with sessionAnswer := answer })

namespace IgnoresSessions

theorem pure (x : α) : IgnoresSessions (pure x : Action ε α) := fun _ _ => rfl

theorem throw (e : ε) : IgnoresSessions (throw e : Action ε α) := fun _ _ => rfl

theorem liftM (r : Except ε α) : IgnoresSessions (liftM r : Action ε α) := by
  intro w answer
  rw [run_liftM, run_liftM]

theorem modify {f : World → World}
    (h : ∀ w answer, f { w with sessionAnswer := answer } = { f w with sessionAnswer := answer }) :
    IgnoresSessions (modify f : Action ε PUnit) := by
  intro w answer
  rw [run_modify, run_modify, h]

theorem get_bind {f : World → Action ε α} (hf : ∀ w, (f w).IgnoresSessions)
    (h : ∀ w answer, f { w with sessionAnswer := answer } = f w) :
    IgnoresSessions (get >>= f) := by
  intro w answer
  rw [run_bind_of_ok (run_get w), run_bind_of_ok (run_get _), h, hf w w answer]

theorem bind {a : Action ε α} (ha : a.IgnoresSessions) {f : α → Action ε β}
    (hf : ∀ x, (f x).IgnoresSessions) : (a >>= f).IgnoresSessions := by
  intro w answer
  have hfirst := ha w answer
  cases hrun : a.run w with
  | mk r w' =>
    rw [hrun] at hfirst
    cases r with
    | error e => rw [run_bind_of_error hrun, run_bind_of_error hfirst]
    | ok x => rw [run_bind_of_ok hrun, run_bind_of_ok hfirst, hf x w' answer]

theorem tryCatch {a : Action ε α} (ha : a.IgnoresSessions) {handle : ε → Action ε α}
    (hhandle : ∀ e, (handle e).IgnoresSessions) : (tryCatch a handle).IgnoresSessions := by
  intro w answer
  have hfirst := ha w answer
  cases hrun : a.run w with
  | mk r w' =>
    rw [hrun] at hfirst
    cases r with
    | error e =>
      rw [run_tryCatch_of_error hrun, run_tryCatch_of_error hfirst, hhandle e w' answer]
    | ok x => rw [run_tryCatch_of_ok hrun, run_tryCatch_of_ok hfirst]

theorem mapFailure {a : Action ε α} (ha : a.IgnoresSessions) (f : ε → ε') :
    (a.mapFailure f).IgnoresSessions := by
  intro w answer
  rw [run_mapFailure, run_mapFailure, ha w answer]

theorem mapM {f : α → Action ε β} (hf : ∀ x, (f x).IgnoresSessions) (xs : List α) :
    IgnoresSessions (xs.mapM f) := by
  induction xs with
  | nil => exact pure []
  | cons x xs ih =>
    rw [List.mapM_cons]
    exact (hf x).bind fun _ => ih.bind fun _ => pure _

theorem note (event : Event) : IgnoresSessions (note event : Action ε Unit) := fun _ _ => rfl

theorem logEntry (level : LogLevel) (message : String) :
    IgnoresSessions (logEntry level message : Action ε Unit) := fun _ _ => rfl

theorem sessionAnswer_eq {a : Action ε α} (ha : a.IgnoresSessions) (w : World) :
    (a.run w).2.sessionAnswer = w.sessionAnswer := by
  have hsame := ha w w.sessionAnswer
  exact (congrArg (fun r => r.2.sessionAnswer) hsame :)

end IgnoresSessions
end Action
end ClusterAgent
