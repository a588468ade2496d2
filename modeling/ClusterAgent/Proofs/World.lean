import ClusterAgent.World

/-! Running actions on a world, step by step. -/
namespace ClusterAgent

/-- A world without files, objects and peers, whose session service refuses every request. -/
def World.bare : World where
  workingDirectory := ⟨.root, []⟩
  home := "/"
  user := "user"
  sessionAnswer _ := .error (.internal "")
  boundPort _ := 0
  clock := .whole 0
  randomNumber n := n

namespace Action

variable {ε α β : Type}

theorem run_bind_of_ok {a : Action ε α} {w w' : World} {x : α} (h : a.run w = (.ok x, w'))
    (f : α → Action ε β) : (a >>= f).run w = (f x).run w' := by
  change (ExceptT.bindCont f (a.run w).1 : StateM World (Except ε β)) (a.run w).2 = _
  rw [h]
  rfl

theorem run_bind_of_error {a : Action ε α} {w w' : World} {e : ε} (h : a.run w = (.error e, w'))
    (f : α → Action ε β) : (a >>= f).run w = (.error e, w') := by
  change (ExceptT.bindCont f (a.run w).1 : StateM World (Except ε β)) (a.run w).2 = _
  rw [h]
  rfl

@[simp] theorem run_pure (x : α) (w : World) : (pure x : Action ε α).run w = (.ok x, w) := rfl

@[simp] theorem run_throw (e : ε) (w : World) : (throw e : Action ε α).run w = (.error e, w) := rfl

@[simp] theorem run_liftM (r : Except ε α) (w : World) :
    (liftM r : Action ε α).run w = (r, w) := by
  cases r <;> rfl

@[simp] theorem run_get (w : World) : (get : Action ε World).run w = (.ok w, w) := rfl

@[simp] theorem run_modify (f : World → World) (w : World) :
    (modify f : Action ε PUnit).run w = (.ok ⟨⟩, f w) := rfl

@[simp] theorem run_note (event : Event) (w : World) :
    (note event : Action ε Unit).run w = (.ok (), { w with journal := w.journal ++ [event] }) := rfl

@[simp] theorem run_logInfo (message : String) (w : World) :
    (logInfo message : Action ε Unit).run w =
      (.ok (), { w with log := w.log ++ [⟨.info, message⟩] }) := rfl

@[simp] theorem run_logDebug (message : String) (w : World) :
    (logDebug message : Action ε Unit).run w =
      (.ok (), { w with log := w.log ++ [⟨.debug, message⟩] }) := rfl

@[simp] theorem run_mapFailure {ε' : Type} (f : ε → ε') (a : Action ε α) (w : World) :
    (a.mapFailure f).run w = ((a.run w).1.mapError f, (a.run w).2) := rfl

theorem run_tryCatch_of_ok {a : Action ε α} {w w' : World} {x : α} (h : a.run w = (.ok x, w'))
    (handle : ε → Action ε α) : (tryCatch a handle).run w = (.ok x, w') := by
  change ((match (a.run w).1 with
    | .ok x => pure (.ok x)
    | .error e => handle e : StateM World (Except ε α)) (a.run w).2) = _
  rw [h]
  rfl

theorem run_tryCatch_of_error {a : Action ε α} {w w' : World} {e : ε}
    (h : a.run w = (.error e, w')) (handle : ε → Action ε α) :
    (tryCatch a handle).run w = (handle e).run w' := by
  change ((match (a.run w).1 with
    | .ok x => pure (.ok x)
    | .error e => handle e : StateM World (Except ε α)) (a.run w).2) = _
  rw [h]
  rfl

/-- An action in two steps succeeds when both of them do. -/
theorem run_bind_eq_ok {a : Action ε α} {f : α → Action ε β} {w w'' : World} {y : β} :
    (a >>= f).run w = (.ok y, w'') ↔
      ∃ x w', a.run w = (.ok x, w') ∧ (f x).run w' = (.ok y, w'') := by
  constructor
  · intro h
    cases hfirst : a.run w with
    | mk result w' =>
      cases result with
      | error e =>
        rw [run_bind_of_error hfirst] at h
        cases h
      | ok x =>
        rw [run_bind_of_ok hfirst] at h
        exact ⟨x, w', rfl, h⟩
  · rintro ⟨x, w', hfirst, h⟩
    rw [run_bind_of_ok hfirst, h]

/-- An action in two steps fails when one of them does, the second after the first succeeded. -/
theorem run_bind_eq_error {a : Action ε α} {f : α → Action ε β} {w w'' : World} {e : ε} :
    (a >>= f).run w = (.error e, w'') ↔ a.run w = (.error e, w'') ∨
      ∃ x w', a.run w = (.ok x, w') ∧ (f x).run w' = (.error e, w'') := by
  cases hfirst : a.run w with
  | mk result w' =>
    cases result with
    | error e' =>
      rw [run_bind_of_error hfirst]
      constructor
      · intro h
        cases h
        exact Or.inl rfl
      · rintro (h | ⟨x, w₁, h, -⟩)
        · cases h
          rfl
        · cases h
    | ok x =>
      rw [run_bind_of_ok hfirst]
      constructor
      · intro h
        exact Or.inr ⟨x, w', rfl, h⟩
      · rintro (h | ⟨x', w₁, h, hrest⟩)
        · cases h
        · cases h
          exact hrest

theorem run_pure_eq_ok {x y : α} {w w' : World} :
    (pure x : Action ε α).run w = (.ok y, w') ↔ y = x ∧ w' = w := by
  rw [run_pure]
  constructor
  · intro h
    cases h
    exact ⟨rfl, rfl⟩
  · rintro ⟨rfl, rfl⟩
    rfl

theorem run_liftM_eq_ok {r : Except ε α} {w w' : World} {x : α} :
    (liftM r : Action ε α).run w = (.ok x, w') ↔ r = .ok x ∧ w' = w := by
  rw [run_liftM]
  constructor
  · intro h
    cases h
    exact ⟨rfl, rfl⟩
  · rintro ⟨rfl, rfl⟩
    rfl

theorem run_liftM_mapError_eq_ok {ε' : Type} {f : ε → ε'} {r : Except ε α} {w w' : World} {x : α} :
    (liftM (r.mapError f) : Action ε' α).run w = (.ok x, w') ↔ r = .ok x ∧ w' = w := by
  rw [run_liftM_eq_ok]
  cases r with
  | error e => exact and_congr_left' (iff_of_false nofun nofun)
  | ok y =>
    have hvalue : (.ok y : Except ε' α) = .ok x ↔ (.ok y : Except ε α) = .ok x := by
      rw [Except.ok.injEq, Except.ok.injEq]
    exact and_congr_left' hvalue

theorem run_liftM_mapError_of_error {ε' : Type} {r : Except ε α} {e : ε} (h : r = .error e)
    (f : ε → ε') (w : World) :
    (liftM (r.mapError f) : Action ε' α).run w = (.error (f e), w) := by
  rw [run_liftM, h]
  rfl

theorem run_mapFailure_eq_ok {ε' : Type} {f : ε → ε'} {a : Action ε α} {w w' : World} {x : α} :
    (a.mapFailure f).run w = (.ok x, w') ↔ a.run w = (.ok x, w') := by
  rw [run_mapFailure]
  constructor
  · intro h
    cases hrun : a.run w with
    | mk result w'' =>
      rw [hrun] at h
      cases result with
      | error e => cases h
      | ok y =>
        cases h
        rfl
  · intro h
    rw [h]
    rfl

theorem run_mapFailure_of_error {ε' : Type} {a : Action ε α} {w w' : World} {e : ε}
    (h : a.run w = (.error e, w')) (f : ε → ε') : (a.mapFailure f).run w = (.error (f e), w') := by
  rw [run_mapFailure, h]
  rfl

theorem run_eq_of_toOption {a : Action ε α} {w : World} {x : α}
    (h : (a.run w).1.toOption = some x) : a.run w = (.ok x, (a.run w).2) := by
  cases hrun : a.run w with
  | mk result w' =>
    rw [hrun] at h
    cases result with
    | error e => cases h
    | ok y =>
      cases h
      rfl

theorem run_eq_of_toOption_eq_none {a : Action ε α} {w : World}
    (h : (a.run w).1.toOption = none) : ∃ e, a.run w = (.error e, (a.run w).2) := by
  cases hrun : a.run w with
  | mk result w' =>
    rw [hrun] at h
    cases result with
    | error e => exact ⟨e, rfl⟩
    | ok y => cases h

/-- Every action of a list succeeds, one after the other. -/
inductive Runs (f : α → Action ε β) : World → List α → List β → World → Prop
  | nil (w : World) : Runs f w [] [] w
  | cons {w w' w'' : World} {a : α} {b : β} {as : List α} {bs : List β}
      (first : (f a).run w = (.ok b, w')) (rest : Runs f w' as bs w'') :
      Runs f w (a :: as) (b :: bs) w''

theorem run_mapM_eq_ok {f : α → Action ε β} {as : List α} {bs : List β} {w w' : World} :
    (as.mapM f).run w = (.ok bs, w') ↔ Runs f w as bs w' := by
  induction as generalizing bs w with
  | nil =>
    rw [List.mapM_nil, run_pure]
    constructor
    · intro h
      cases h
      exact .nil _
    · intro h
      cases h
      rfl
  | cons a as ih =>
    rw [List.mapM_cons, run_bind_eq_ok]
    constructor
    · rintro ⟨b, w₁, first, h⟩
      obtain ⟨bs', w₂, rest, h⟩ := run_bind_eq_ok.mp h
      cases h
      exact .cons first (ih.mp rest)
    · intro h
      cases h with
      | cons first rest =>
        refine ⟨_, _, first, ?_⟩
        rw [run_bind_of_ok (ih.mpr rest), run_pure]

/-- The first failure ends a list of actions. Those before it have been carried out. -/
theorem Runs.run_mapM_of_error {f : α → Action ε β} {before : List α} {bs : List β}
    {w w₁ w₂ : World} (h : Runs f w before bs w₁) {a : α} {e : ε}
    (hfails : (f a).run w₁ = (.error e, w₂)) (after : List α) :
    ((before ++ a :: after).mapM f).run w = (.error e, w₂) := by
  induction h with
  | nil =>
    rw [List.nil_append, List.mapM_cons, run_bind_of_error hfails]
  | cons first rest ih =>
    rw [List.cons_append, List.mapM_cons, run_bind_of_ok first, run_bind_of_error (ih hfails)]

theorem Runs.exists_of_mem {f : α → Action ε β} {as : List α} {bs : List β} {w w' : World}
    (h : Runs f w as bs w') {b : β} (hb : b ∈ bs) :
    ∃ a ∈ as, ∃ w₁ w₂, (f a).run w₁ = (.ok b, w₂) := by
  induction h with
  | nil => cases hb
  | cons first rest ih =>
    rcases List.mem_cons.mp hb with rfl | hb
    · exact ⟨_, List.mem_cons_self, _, _, first⟩
    · obtain ⟨a, ha, hrun⟩ := ih hb
      exact ⟨a, List.mem_cons_of_mem _ ha, hrun⟩

theorem Runs.length_eq {f : α → Action ε β} {as : List α} {bs : List β} {w w' : World}
    (h : Runs f w as bs w') : bs.length = as.length := by
  induction h with
  | nil => rfl
  | cons first rest ih => rw [List.length_cons, List.length_cons, ih]

/-! ### What actions leave as it is -/

/-- Whether or not it succeeds, an action leaves a view of the world as it is. -/
def Keeps {γ : Type} (view : World → γ) (a : Action ε α) : Prop := ∀ w, view (a.run w).2 = view w

variable {γ : Type} {v : World → γ}

theorem Keeps.eq {a : Action ε α} (h : a.Keeps v) {w w' : World} {r : Except ε α}
    (hrun : a.run w = (r, w')) : v w' = v w := by
  have hw := h w
  rwa [hrun] at hw

theorem keeps_of_eq {a : Action ε α} {r : World → Except ε α} (h : ∀ w, a.run w = (r w, w)) :
    a.Keeps v := by
  intro w
  rw [h]

theorem keeps_pure (x : α) : Keeps v (pure x : Action ε α) := fun _ => rfl

theorem keeps_throw (e : ε) : Keeps v (throw e : Action ε α) := fun _ => rfl

theorem keeps_liftM (r : Except ε α) : Keeps v (liftM r : Action ε α) :=
  keeps_of_eq (run_liftM r)

theorem keeps_get : Keeps v (get : Action ε World) := fun _ => rfl

theorem keeps_modify {f : World → World} (h : ∀ w, v (f w) = v w) :
    Keeps v (modify f : Action ε PUnit) := h

theorem Keeps.bind {a : Action ε α} {f : α → Action ε β} (ha : a.Keeps v)
    (hf : ∀ x, (f x).Keeps v) : (a >>= f).Keeps v := by
  intro w
  cases hrun : a.run w with
  | mk result w' =>
    have hfirst := ha.eq hrun
    cases result with
    | error e => rw [run_bind_of_error hrun, hfirst]
    | ok x => rw [run_bind_of_ok hrun, hf x w', hfirst]

theorem Keeps.mapFailure {ε' : Type} {a : Action ε α} (h : a.Keeps v) (f : ε → ε') :
    (a.mapFailure f).Keeps v := h

theorem Keeps.mapM {f : α → Action ε β} {as : List α} (hf : ∀ a ∈ as, (f a).Keeps v) :
    Keeps v (as.mapM f) := by
  induction as with
  | nil => exact keeps_pure _
  | cons a as ih =>
    rw [List.forall_mem_cons] at hf
    rw [List.mapM_cons]
    exact hf.1.bind fun _ => (ih hf.2).bind fun _ => keeps_pure _

theorem Runs.keeps {f : α → Action ε β} (hf : ∀ a, (f a).Keeps v) {as : List α} {bs : List β}
    {w w' : World} (h : Runs f w as bs w') : v w' = v w :=
  (Keeps.mapM fun a _ => hf a).eq (run_mapM_eq_ok.mpr h)

/-- What one action of a list made, and where it started: in a world that looks like the first. -/
theorem Runs.exists_run {f : α → Action ε β} (hf : ∀ a, (f a).Keeps v) {as : List α} {bs : List β}
    {w w' : World} (h : Runs f w as bs w') {i : Nat} {b : β} (hb : bs[i]? = some b) :
    ∃ a w₁ w₂, as[i]? = some a ∧ (f a).run w₁ = (.ok b, w₂) ∧ v w₁ = v w := by
  induction h generalizing i with
  | nil => cases hb
  | @cons w w₁ w₂ a b' as bs first rest ih =>
    cases i with
    | zero =>
      obtain rfl := Option.some.inj hb
      exact ⟨a, w, w₁, rfl, first, rfl⟩
    | succ i =>
      obtain ⟨a', w₃, w₄, ha', hrun, hview⟩ := ih hb
      exact ⟨a', w₃, w₄, ha', hrun, hview.trans ((hf a).eq first)⟩

/-! ### What actions depend on -/

/-- An action leaves the world as it is, and its result depends on a view of the world alone. -/
def Reads {γ : Type} (view : World → γ) (a : Action ε α) : Prop :=
  ∀ w w₂, view w₂ = view w → ∃ r, a.run w = (r, w) ∧ a.run w₂ = (r, w₂)

theorem Reads.congr {a : Action ε α} (h : a.Reads v) {w w₂ : World} (hview : v w₂ = v w) :
    (a.run w₂).1 = (a.run w).1 := by
  obtain ⟨r, hrun, hrun₂⟩ := h w w₂ hview
  rw [hrun, hrun₂]

theorem reads_pure (x : α) : Reads v (pure x : Action ε α) := fun _ _ _ => ⟨.ok x, rfl, rfl⟩

theorem Reads.bind {a : Action ε α} {f : α → Action ε β} (ha : a.Reads v)
    (hf : ∀ x, (f x).Reads v) : (a >>= f).Reads v := by
  intro w w₂ hview
  obtain ⟨r, hrun, hrun₂⟩ := ha w w₂ hview
  cases r with
  | error e => exact ⟨.error e, run_bind_of_error hrun f, run_bind_of_error hrun₂ f⟩
  | ok x =>
    obtain ⟨r', hrest, hrest₂⟩ := hf x w w₂ hview
    exact ⟨r', by rw [run_bind_of_ok hrun, hrest], by rw [run_bind_of_ok hrun₂, hrest₂]⟩

end Action

/-- What the operations of storage leave as it is: everything but files, objects and the log. -/
def World.setting (w : World) : World := { w with files := [], objects := [], log := [] }

/-- What token services leave as it is: everything but the log and the journal. -/
def World.unrecorded (w : World) : World := { w with log := [], journal := [] }

theorem Action.keeps_note {ε : Type} (event : Event) :
    (note event : Action ε Unit).Keeps World.unrecorded := fun _ => rfl

theorem Action.keeps_logInfo {ε : Type} (message : String) :
    (logInfo message : Action ε Unit).Keeps World.unrecorded := fun _ => rfl

theorem World.exists_of_setting_eq {w w' : World} (h : w'.setting = w.setting) :
    ∃ files objects log, w' = { w with files, objects, log } := by
  refine ⟨w'.files, w'.objects, w'.log, ?_⟩
  change { w'.setting with files := w'.files, objects := w'.objects, log := w'.log } = _
  rw [h]
  rfl

end ClusterAgent
