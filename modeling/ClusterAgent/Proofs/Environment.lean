import ClusterAgent.Environment
import ClusterAgent.Proofs.Table
import Mathlib.Logic.Relation

/-! Composed environments: an appended variable joins its present value with the new ones in turn,
and every other variable stays as it is. -/
namespace ClusterAgent.Environment

variable {base env : Environment} {name separator : String} {appends : List (String × String)}

/-! ### One append -/

theorem append_eq_insert (env : Environment) (name value separator : String) :
    ∃ joined, append env name value separator = Table.insert env name joined ∧
      joined = separator.intercalate ((Table.get? env name).toList ++ [value]) := by
  unfold append
  cases hget : Table.get? env name with
  | none => exact ⟨value, rfl, by simp⟩
  | some current => exact ⟨_, rfl, by simp⟩

/-- The value that is present comes first, also when it is empty. -/
theorem get?_append (env : Environment) (name value separator name' : String) :
    Table.get? (append env name value separator) name' =
      if name = name' then
        some (separator.intercalate ((Table.get? env name).toList ++ [value]))
      else Table.get? env name' := by
  obtain ⟨joined, happend, rfl⟩ := append_eq_insert env name value separator
  rw [happend, Table.get?_insert]
  simp only [beq_iff_eq]

theorem keys_append (env : Environment) (name value separator : String) :
    Table.keys (append env name value separator) =
      if name ∈ Table.keys env then Table.keys env else Table.keys env ++ [name] := by
  obtain ⟨joined, happend, -⟩ := append_eq_insert env name value separator
  rw [happend, Table.keys_insert]

theorem distinct_append (h : Table.Distinct env) (name value separator : String) :
    Table.Distinct (append env name value separator) := by
  obtain ⟨joined, happend, -⟩ := append_eq_insert env name value separator
  rw [happend]
  exact h.insert name joined

/-! ### Appends in turn -/

/-- The values that are appended to a variable, in their order. -/
def valuesFor (name : String) (appends : List (String × String)) : List String :=
  (appends.filter (·.1 = name)).map (·.2)

theorem valuesFor_append (name : String) (xs ys : List (String × String)) :
    valuesFor name (xs ++ ys) = valuesFor name xs ++ valuesFor name ys := by
  simp [valuesFor]

theorem valuesFor_singleton (name : String) (p : String × String) :
    valuesFor name [p] = if p.1 = name then [p.2] else [] := by
  unfold valuesFor
  split <;> simp [*]

theorem compose_append (base : Environment) (xs ys : List (String × String)) (separator : String) :
    compose base (xs ++ ys) separator = compose (compose base xs separator) ys separator :=
  List.foldl_append

theorem compose_concat (base : Environment) (xs : List (String × String)) (p : String × String)
    (separator : String) :
    compose base (xs ++ [p]) separator = append (compose base xs separator) p.1 p.2 separator :=
  compose_append base xs [p] separator

/-- The join of some values; there is none of no values. -/
def join? (separator : String) : List String → Option String
  | [] => none
  | v :: vs => some (separator.intercalate (v :: vs))

theorem join?_concat (separator : String) (values : List String) (value : String) :
    some (separator.intercalate ((join? separator values).toList ++ [value])) =
      join? separator (values ++ [value]) := by
  cases values with
  | nil => rfl
  | cons v vs =>
    have hjoin : separator.intercalate (v :: vs ++ [value]) =
        separator.intercalate (v :: vs) ++ separator ++ separator.intercalate [value] :=
      String.intercalate_append_of_ne_nil (List.cons_ne_nil v vs) (List.cons_ne_nil value [])
    rw [List.cons_append] at hjoin
    simp [join?, hjoin]

theorem join?_toList (separator : String) (value : Option String) :
    join? separator value.toList = value := by
  cases value <;> simp [join?]

/-- A variable joins its value in the base with all that is appended to it. -/
theorem get?_compose (base : Environment) (appends : List (String × String))
    (separator name : String) :
    Table.get? (compose base appends separator) name =
      join? separator ((Table.get? base name).toList ++ valuesFor name appends) := by
  induction appends using List.reverseRecOn with
  | nil => exact (by simp [valuesFor, join?_toList, compose])
  | append_singleton xs p ih =>
    rw [compose_concat, get?_append, valuesFor_append, valuesFor_singleton]
    split
    · next hname =>
      subst hname
      rw [ih, join?_concat, List.append_assoc]
    · rw [ih, List.append_nil]

/-- New variables stand behind those of the base, in the order of their first append. -/
theorem keys_compose (base : Environment) (appends : List (String × String)) (separator : String) :
    Table.keys (compose base appends separator) = Table.keys base ++
      (appends.map (·.1)).eraseDups.filter (· ∉ Table.keys base) := by
  induction appends using List.reverseRecOn with
  | nil => simp [compose]
  | append_singleton xs p ih =>
    rw [compose_concat, keys_append, ih, List.map_append, List.eraseDups_append]
    by_cases hbase : p.1 ∈ Table.keys base
    · simp [hbase, List.removeAll]
    · by_cases hfound : p.1 ∈ xs.map (·.1)
      · have hnone : [p.1].removeAll (xs.map (·.1)) = [] := by simp [List.removeAll, hfound]
        simp [hbase, hfound, hnone]
      · have hone : [p.1].removeAll (xs.map (·.1)) = [p.1] := by simp [List.removeAll, hfound]
        simp [hbase, hfound, hone, List.eraseDups_cons]

theorem distinct_compose (h : Table.Distinct base) (appends : List (String × String))
    (separator : String) : Table.Distinct (compose base appends separator) := by
  induction appends using List.reverseRecOn with
  | nil => exact h
  | append_singleton xs p ih =>
    rw [compose_concat]
    exact distinct_append ih p.1 p.2 separator

/-! ### Results -/

/-- What comes of a base when these values are appended to its variables. -/
structure Joins (base : Environment) (appends : List (String × String)) (separator : String)
    (env : Environment) : Prop where
  appended : ∀ name v vs, valuesFor name appends = v :: vs → Table.get? env name =
    some (separator.intercalate ((Table.get? base name).toList ++ v :: vs))
  others : ∀ name, valuesFor name appends = [] → Table.get? env name = Table.get? base name
  keys : Table.keys env =
    Table.keys base ++ (appends.map (·.1)).eraseDups.filter (· ∉ Table.keys base)
  distinct : Table.Distinct env

theorem joins_compose (h : Table.Distinct base) (appends : List (String × String))
    (separator : String) : Joins base appends separator (compose base appends separator) where
  appended name v vs hvalues := by
    rw [get?_compose, hvalues]
    cases Table.get? base name <;> rfl
  others name hvalues := by rw [get?_compose, hvalues, List.append_nil, join?_toList]
  keys := keys_compose base appends separator
  distinct := distinct_compose h appends separator

/-- Two appends in a row, to different variables, change places. -/
inductive Swapped : List (String × String) → List (String × String) → Prop
  | neighbours (before after : List (String × String)) {p q : String × String} (h : p.1 ≠ q.1) :
      Swapped (before ++ p :: q :: after) (before ++ q :: p :: after)

theorem Swapped.valuesFor_eq {xs ys : List (String × String)} (h : Swapped xs ys)
    (name : String) : valuesFor name xs = valuesFor name ys := by
  cases h with
  | @neighbours before after p q hne =>
    have hpair : valuesFor name [p, q] = valuesFor name [q, p] := by
      unfold valuesFor
      by_cases hp : p.1 = name
      · have hq : q.1 ≠ name := fun hq => hne (hp.trans hq.symm)
        simp [hp, hq]
      · simp [List.filter_cons, hp]
    change valuesFor name (before ++ ([p, q] ++ after)) =
      valuesFor name (before ++ ([q, p] ++ after))
    rw [valuesFor_append, valuesFor_append, valuesFor_append, valuesFor_append, hpair]

theorem get?_compose_of_swapped {xs ys : List (String × String)}
    (h : Relation.ReflTransGen Swapped xs ys) (base : Environment) (separator name : String) :
    Table.get? (compose base xs separator) name = Table.get? (compose base ys separator) name := by
  have hvalues : valuesFor name xs = valuesFor name ys := by
    induction h with
    | refl => rfl
    | tail _ hstep ih => exact ih.trans (hstep.valuesFor_eq name)
  rw [get?_compose, get?_compose, hvalues]

theorem valuesFor_classpathAppends (classpath : List String) :
    valuesFor classpathVariable (classpathAppends classpath) =
      workingDirectoryEntries :: classpath.map Text.trim := by
  have hall : ∀ p ∈ classpathAppends classpath, decide (p.1 = classpathVariable) = true := by
    simp [classpathAppends]
  unfold valuesFor
  rw [List.filter_eq_self.mpr hall]
  simp [classpathAppends]

/-- A composed environment joins each variable with what is appended to it and has no other
variables. It comes of its appends one after the other, and those to different variables need not
keep their order. A class path leads with the working directory. -/
theorem compose_joins (h : Table.Distinct base) (separator : String) :
    (∀ appends, Joins base appends separator (compose base appends separator)) ∧
    (∀ xs ys, compose base (xs ++ ys) separator =
      compose (compose base xs separator) ys separator) ∧
    (∀ xs ys, Relation.ReflTransGen Swapped xs ys → ∀ name,
      Table.get? (compose base xs separator) name =
        Table.get? (compose base ys separator) name) ∧
    ∀ classpath, Joins base (classpathAppends classpath) separator
        (withClasspath classpath base separator) ∧
      Table.get? (withClasspath classpath base separator) "CLASSPATH" =
        some (separator.intercalate ((Table.get? base "CLASSPATH").toList ++
          "$PWD/*" :: classpath.map Text.trim)) := by
  refine ⟨fun appends => joins_compose h appends separator,
    fun xs ys => compose_append base xs ys separator,
    fun xs ys hswapped => get?_compose_of_swapped hswapped base separator, ?_⟩
  intro classpath
  have hjoins := joins_compose h (classpathAppends classpath) separator
  exact ⟨hjoins, hjoins.appended _ _ _ (valuesFor_classpathAppends classpath)⟩

/-- An empty class path that is present, and a variable that is not. -/
theorem compose_joins_emptyClasspath :
    Table.Distinct [("CLASSPATH", ""), ("HOME", "/h")] ∧
    Relation.ReflTransGen Swapped [("PATH", "a"), ("HOME", "b"), ("PATH", "a")]
      [("HOME", "b"), ("PATH", "a"), ("PATH", "a")] ∧
    Table.get? (compose [("CLASSPATH", ""), ("HOME", "/h")]
      [("PATH", "a"), ("HOME", "b"), ("PATH", "a")] ":") "PATH" = some "a:a" ∧
    Table.get? (compose [("CLASSPATH", ""), ("HOME", "/h")]
      [("HOME", "b"), ("PATH", "a"), ("PATH", "a")] ":") "PATH" = some "a:a" ∧
    Table.get? (withClasspath [" x "] [("CLASSPATH", ""), ("HOME", "/h")] ":") "CLASSPATH" =
      some ":$PWD/*:x" := by
  have hdistinct : Table.Distinct [("CLASSPATH", ""), ("HOME", "/h")] := by decide
  have hswapped : Relation.ReflTransGen Swapped [("PATH", "a"), ("HOME", "b"), ("PATH", "a")]
      [("HOME", "b"), ("PATH", "a"), ("PATH", "a")] :=
    .single (.neighbours [] [("PATH", "a")] (by decide))
  obtain ⟨hjoins, -, hreordered, hclasspath⟩ := compose_joins hdistinct ":"
  have hpath := (hjoins [("PATH", "a"), ("HOME", "b"), ("PATH", "a")]).appended "PATH" "a" ["a"]
    (by decide)
  refine ⟨hdistinct, hswapped, hpath, ?_, (hclasspath [" x "]).2.trans (by decide +kernel)⟩
  rw [← hreordered _ _ hswapped, hpath]
  decide +kernel

end ClusterAgent.Environment
