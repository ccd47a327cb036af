import CollectionSql.Engine
import CollectionSql.Proofs.Growth
import CollectionSql.Proofs.Lowering

/-!
# A batch is its variable sets, one by one

A request with several variable sets is compiled into one plan for each of them, and the plans are
run together. Here is what that means for a list of sets that is put together from two lists: the
plans are those of the first list and then those of the second, and so are the row sets. No set has
a say in the plan of another, and all plans of a batch have the same text.

Plans are run together, on an executor that may have effects (`Request.executeIn`). All that is
known of running operations together is that it returns all of their results, in order, or one of
their errors (`Gathered`). The laws hold for every answer that an engine may then give
(`Engine.MayAnswer`), and `Engine.execute` gives one of them.

Results:
* `Request.compile_append`: the plans of two lists of sets.
* `Request.sql_eq_of_mem_compile`: all plans of a batch have the same text.
* `Engine.mayAnswer_append`: the row sets of two lists of sets.
* `Request.executeIn_of_compile_eq_error`: a batch that does not compile runs nothing.
* `Request.compiles_and_runs_set_by_set`: these laws together.
-/

namespace CollectionSql

/-! ## Compiling a batch -/

namespace Request

/-- The values that a set of a request gives to variables. -/
def bindings (set : Dict Json) : VariableSet := .ofPairs (set.map fun e => (e.1, .ofJson e.2))

/-- The request with the given variable sets. -/
def withSets (r : Request) (sets : List (Dict Json)) : Request :=
  { r with variableSets := some sets }

/-- The request without variable sets. -/
def withoutSets (r : Request) : Request := { r with variableSets := none }

/-- A statement has the sets of its request, and nothing else in it depends on them. -/
theorem ofRequest_withSets (r : Request) (sets : List (Dict Json)) :
    Statement.ofRequest (r.withSets sets) = (Statement.ofRequest r.withoutSets).map fun s =>
      { s with variableSets := some (sets.map bindings) } := by
  simp only [Statement.ofRequest, withSets, withoutSets]
  cases Statement.queryOf (Statement.relationshipsOf r.relationships) r.query with
  | error e => rfl
  | ok query => rfl

/-- The plan for a set does not depend on the other sets. -/
theorem compile_withSets (schema : Schema) (r : Request) (sets : List (Dict Json)) :
    (r.withSets sets).compile schema = (do
      let s ← Statement.ofRequest r.withoutSets
      sets.mapM fun set => Plan.compile schema s (bindings set)) := by
  rw [compile, ofRequest_withSets]
  cases Statement.ofRequest r.withoutSets with
  | error e => rfl
  | ok s => exact List.mapM_map

/-- The plans of two lists of sets are those of the first and then those of the second. An error of
the first list comes before one of the second. -/
theorem compile_append (schema : Schema) (r : Request) (xs ys : List (Dict Json)) :
    (r.withSets (xs ++ ys)).compile schema = (do
      let ps ← (r.withSets xs).compile schema
      let qs ← (r.withSets ys).compile schema
      return ps ++ qs) := by
  simp only [compile_withSets]
  cases Statement.ofRequest r.withoutSets with
  | error e => rfl
  | ok s => exact List.mapM_append

theorem compile_eq_ok_iff {schema : Schema} {r : Request} {sets : List (Dict Json)}
    {ps : List Plan} :
    (r.withSets sets).compile schema = .ok ps ↔ ∃ s, Statement.ofRequest (r.withSets sets) = .ok s ∧
      List.Forall₂ (fun set p => Plan.compile schema s (bindings set) = .ok p) sets ps := by
  rw [compile_withSets, Result.bind_eq_ok]
  simp only [ofRequest_withSets, Result.map_eq_ok, Result.mapM_eq_ok]
  constructor
  · rintro ⟨s, hs, hps⟩
    exact ⟨_, ⟨s, hs, rfl⟩, hps⟩
  · rintro ⟨_, ⟨s, hs, rfl⟩, hps⟩
    exact ⟨s, hs, hps⟩

/-- All plans of a batch have the same text. -/
theorem sql_eq_of_mem_compile {schema : Schema} {r : Request} {sets : List (Dict Json)}
    {ps : List Plan} (h : (r.withSets sets).compile schema = .ok ps) {p p' : Plan} (hp : p ∈ ps)
    (hp' : p' ∈ ps) : p.sql = p'.sql := by
  rw [compile_withSets, Result.bind_eq_ok] at h
  obtain ⟨s, -, hps⟩ := h
  obtain ⟨set, -, hset⟩ := Result.exists_of_mem_mapM hps hp
  obtain ⟨set', -, hset'⟩ := Result.exists_of_mem_mapM hps hp'
  exact Plan.sql_eq_of_compile hset hset'

/-- Having no sets is having one set without variables. -/
theorem compile_withoutSets (schema : Schema) (r : Request) :
    r.withoutSets.compile schema = (r.withSets [[]]).compile schema := by
  rw [compile_withSets, compile]
  cases h : Statement.ofRequest r.withoutSets with
  | error e => rfl
  | ok s =>
    obtain ⟨query, -, rfl⟩ := Statement.ofRequest_eq_ok_iff.mp h
    rfl

/-- One set that does not compile is enough for the batch not to compile. -/
theorem compile_eq_error_of_mem {schema : Schema} {r : Request} {sets : List (Dict Json)}
    {s : Statement} (hs : Statement.ofRequest (r.withSets sets) = .ok s) {set : Dict Json}
    (hset : set ∈ sets) {e : Error} (he : Plan.compile schema s (bindings set) = .error e) :
    ∃ e', (r.withSets sets).compile schema = .error e' := by
  cases h : (r.withSets sets).compile schema with
  | error e' => exact ⟨e', rfl⟩
  | ok ps =>
    obtain ⟨s', hs', hps⟩ := compile_eq_ok_iff.mp h
    rw [hs] at hs'
    cases hs'
    obtain ⟨p, hp⟩ := Result.mapM_succeeds_iff.mp ⟨ps, Result.mapM_eq_ok.mpr hps⟩ set hset
    rw [he] at hp
    cases hp

end Request

/-! ## Running a batch -/

/-- What operations that run together may return: all of their results, in order, or one of their
errors. -/
inductive Gathered {α : Type} : List (Result α) → Result (List α) → Prop
  | all (values : List α) : Gathered (values.map .ok) (.ok values)
  | failed {results : List (Result α)} {e : Error} (h : .error e ∈ results) :
      Gathered results (.error e)

theorem Gathered.eq_ok_iff {α : Type} {results : List (Result α)} {answer : Result (List α)}
    (h : Gathered results answer) {values : List α} :
    answer = .ok values ↔ results = values.map .ok := by
  cases h with
  | all values' =>
    rw [Except.ok.injEq]
    have hinj : Function.Injective (Except.ok : α → Result α) := fun _ _ => Except.ok.inj
    exact hinj.list_map.eq_iff.symm
  | failed herror =>
    refine ⟨nofun, ?_⟩
    rintro rfl
    obtain ⟨value, -, hvalue⟩ := List.mem_map.mp herror
    cases hvalue

/-- Looking at the results from left to right, up to the first error, gives one of the answers. -/
theorem Gathered.leftToRight {α : Type} (results : List (Result α)) :
    Gathered results (results.mapM id) := by
  cases h : results.mapM id with
  | ok values =>
    have hmap : values.map .ok = results.map id :=
      Result.map_of_mapM_eq_ok (fun x y hxy => hxy.symm) h
    rw [List.map_id] at hmap
    rw [← hmap]
    exact .all values
  | error e =>
    have hfrom : Result.FailsWith (fun e => .error e ∈ results) (results.mapM id) := by
      refine Result.failsWith_mapM fun result hresult e he => ?_
      rw [id] at he
      rwa [he] at hresult
    exact .failed (hfrom e h)

/-- The row sets of the plans for a request, on an executor that may have effects, given how
operations are run together. -/
def Request.executeIn {m : Type → Type} [Monad m] (schema : Schema)
    (executor : Nat → Plan → m (Result Response))
    (together : List (m (Result RowSet)) → m (Result (List RowSet))) (r : Request) :
    m (Result (List RowSet)) :=
  match r.compile schema with
  | .error e => return .error e
  | .ok plans => together (plans.zipIdx.map fun (p, index) => do
      let response ← executor index p
      return response >>= Response.toRowSet)

theorem Request.executeIn_of_compile_eq_error {m : Type → Type} [Monad m] {schema : Schema}
    {r : Request} {e : Error} (h : r.compile schema = .error e)
    (executor : Nat → Plan → m (Result Response))
    (together : List (m (Result RowSet)) → m (Result (List RowSet))) :
    r.executeIn schema executor together = pure (.error e) := by
  rw [executeIn, h]

/-- The executor that looks at the text and the arguments of a plan only. -/
def Executor.of (answer : String → List Value → Result Response) : Executor :=
  fun _ p => answer p.sql p.args

namespace Engine

/-- An answer that an engine may give to a request, as its plans are run together in one way or
another. -/
def MayAnswer (e : Engine) (r : Request) (answer : Result (List RowSet)) : Prop :=
  ∃ together : List (Result RowSet) → Result (List RowSet),
    (∀ results, Gathered results (together results)) ∧
      answer = Id.run (r.executeIn (m := Id) e.schema e.executor together)

/-- `Engine.execute` gives one of the answers that an engine may give. -/
theorem mayAnswer_execute (e : Engine) (r : Request) : e.MayAnswer r (e.execute r) := by
  refine ⟨fun results => results.mapM id, Gathered.leftToRight, ?_⟩
  unfold Request.executeIn execute compile
  cases r.compile e.schema with
  | error err => rfl
  | ok plans =>
    show plans.zipIdx.mapM _ = (plans.zipIdx.map fun (p, index) => e.runPlan index p).mapM id
    rw [List.mapM_map]
    rfl

theorem MayAnswer.eq_ok_iff {e : Engine} {r : Request} {answer : Result (List RowSet)}
    (h : e.MayAnswer r answer) {rows : List RowSet} :
    answer = .ok rows ↔ ∃ plans, r.compile e.schema = .ok plans ∧
      (plans.zipIdx.map fun (p, index) => e.runPlan index p) = rows.map .ok := by
  obtain ⟨together, hgathered, rfl⟩ := h
  unfold Request.executeIn
  cases r.compile e.schema with
  | error err =>
    refine ⟨nofun, ?_⟩
    rintro ⟨_, hplans, -⟩
    cases hplans
  | ok plans =>
    have hrun := hgathered (plans.zipIdx.map fun (p, index) => e.runPlan index p)
    constructor
    · intro hanswer
      exact ⟨plans, rfl, hrun.eq_ok_iff.mp hanswer⟩
    · rintro ⟨_, ⟨⟩, hrows⟩
      exact hrun.eq_ok_iff.mpr hrows

section

variable {schema : Schema} {answer : String → List Value → Result Response}

theorem map_runPlan (plans : List Plan) :
    (plans.zipIdx.map fun (p, index) => runPlan ⟨schema, .of answer⟩ index p) =
      plans.map (runPlan ⟨schema, .of answer⟩ 0) := by
  have hindex : (fun (p, index) => runPlan ⟨schema, .of answer⟩ index p) =
      runPlan ⟨schema, .of answer⟩ 0 ∘ Prod.fst := rfl
  rw [hindex, ← List.map_map, List.zipIdx_map_fst]

/-- An engine answers two lists of sets if it answers each of them, and then with the row sets of
the first and then those of the second. -/
theorem mayAnswer_append {r : Request} {xs ys : List (Dict Json)}
    {a a₁ a₂ : Result (List RowSet)}
    (h : MayAnswer ⟨schema, .of answer⟩ (r.withSets (xs ++ ys)) a)
    (h₁ : MayAnswer ⟨schema, .of answer⟩ (r.withSets xs) a₁)
    (h₂ : MayAnswer ⟨schema, .of answer⟩ (r.withSets ys) a₂) {rows : List RowSet} :
    a = .ok rows ↔ ∃ rows₁ rows₂, a₁ = .ok rows₁ ∧ a₂ = .ok rows₂ ∧ rows = rows₁ ++ rows₂ := by
  simp only [h.eq_ok_iff, h₁.eq_ok_iff, h₂.eq_ok_iff, map_runPlan, Request.compile_append,
    Result.bind_eq_ok, Result.pure_eq_ok]
  constructor
  · rintro ⟨_, ⟨ps, hps, qs, hqs, rfl⟩, hrun⟩
    rw [List.map_append] at hrun
    obtain ⟨rows₁, rows₂, rfl, hrows₁, hrows₂⟩ := List.map_eq_append_iff.mp hrun.symm
    exact ⟨rows₁, rows₂, ⟨ps, hps, hrows₁.symm⟩, ⟨qs, hqs, hrows₂.symm⟩, rfl⟩
  · rintro ⟨rows₁, rows₂, ⟨ps, hps, hrun₁⟩, ⟨qs, hqs, hrun₂⟩, rfl⟩
    refine ⟨ps ++ qs, ⟨ps, hps, qs, hqs, rfl⟩, ?_⟩
    rw [List.map_append, List.map_append, hrun₁, hrun₂]

end

end Engine

/-! ## The laws of batches -/

namespace Request

/-- What holds of the plans of a request for whatever variable sets. -/
structure CompilesSetBySet (schema : Schema) (r : Request) : Prop where
  /-- The plans of two lists of sets are those of the first and then those of the second. -/
  append_ok : ∀ (xs ys : List (Dict Json)) (ps : List Plan),
    (r.withSets (xs ++ ys)).compile schema = .ok ps ↔
      ∃ p₁ p₂, (r.withSets xs).compile schema = .ok p₁ ∧ (r.withSets ys).compile schema = .ok p₂ ∧
        ps = p₁ ++ p₂
  /-- The error of two lists of sets is that of the first if it fails, and otherwise that of the
  second. -/
  append_error : ∀ (xs ys : List (Dict Json)) (e : Error),
    (r.withSets (xs ++ ys)).compile schema = .error e ↔
      (r.withSets xs).compile schema = .error e ∨
        (∃ p₁, (r.withSets xs).compile schema = .ok p₁) ∧
          (r.withSets ys).compile schema = .error e
  /-- There are as many plans as sets, and each is that of the set at its position. -/
  each : ∀ (sets : List (Dict Json)) (ps : List Plan),
    (r.withSets sets).compile schema = .ok ps ↔
      ∃ s, Statement.ofRequest (r.withSets sets) = .ok s ∧
        List.Forall₂ (fun set p => Plan.compile schema s (bindings set) = .ok p) sets ps
  /-- All plans have the same text. -/
  sameText : ∀ (sets : List (Dict Json)) (ps : List Plan),
    (r.withSets sets).compile schema = .ok ps → ∀ p ∈ ps, ∀ p' ∈ ps, p.sql = p'.sql
  /-- Having no sets is having one set without variables. -/
  absent : r.withoutSets.compile schema = (r.withSets [[]]).compile schema

/-- What holds of the answers that an engine may give to a request, for whatever variable sets. -/
structure RunsSetBySet (e : Engine) (r : Request) : Prop where
  /-- `Engine.execute` gives one of the answers. -/
  execute : ∀ sets, e.MayAnswer (r.withSets sets) (e.execute (r.withSets sets))
  /-- The engine succeeds on two lists of sets if it does on each of them, and then with the row
  sets of the first and then those of the second. -/
  append_ok : ∀ (xs ys : List (Dict Json)) (a a₁ a₂ : Result (List RowSet)),
    e.MayAnswer (r.withSets (xs ++ ys)) a → e.MayAnswer (r.withSets xs) a₁ →
      e.MayAnswer (r.withSets ys) a₂ → ∀ rows,
        a = .ok rows ↔ ∃ rows₁ rows₂, a₁ = .ok rows₁ ∧ a₂ = .ok rows₂ ∧ rows = rows₁ ++ rows₂
  /-- Without sets it gives the answers for one set without variables. -/
  absent : ∀ a, e.MayAnswer r.withoutSets a ↔ e.MayAnswer (r.withSets [[]]) a

/-- What holds of a request for whatever variable sets if running a plan may have effects. -/
structure RunsOnlyIfCompiled (schema : Schema) (r : Request) : Prop where
  /-- One set that does not compile is enough for the batch not to compile. -/
  failing : ∀ (sets : List (Dict Json)) (s : Statement),
    Statement.ofRequest (r.withSets sets) = .ok s → ∀ set ∈ sets, ∀ e,
      Plan.compile schema s (bindings set) = .error e →
        ∃ e', (r.withSets sets).compile schema = .error e'
  /-- On a batch that does not compile the executor is never called, whatever a call would do. -/
  notCalled : ∀ (sets : List (Dict Json)) (e : Error),
    (r.withSets sets).compile schema = .error e →
      ∀ (m : Type → Type) [Monad m] (executor : Nat → Plan → m (Result Response))
        (together : List (m (Result RowSet)) → m (Result (List RowSet))),
        (r.withSets sets).executeIn schema executor together = pure (.error e)

theorem compilesSetBySet (schema : Schema) (r : Request) : r.CompilesSetBySet schema where
  append_ok xs ys ps := by
    simp only [compile_append, Result.bind_eq_ok, Result.pure_eq_ok]
    constructor
    · rintro ⟨p₁, h₁, p₂, h₂, rfl⟩
      exact ⟨p₁, p₂, h₁, h₂, rfl⟩
    · rintro ⟨p₁, p₂, h₁, h₂, rfl⟩
      exact ⟨p₁, h₁, p₂, h₂, rfl⟩
  append_error xs ys e := by
    rw [compile_append]
    cases (r.withSets xs).compile schema with
    | error e₁ => simp [bind, Except.bind]
    | ok p₁ =>
      cases (r.withSets ys).compile schema with
      | error e₂ => simp [bind, Except.bind]
      | ok p₂ => simp [bind, Except.bind, pure, Except.pure]
  each _ _ := compile_eq_ok_iff
  sameText _ _ h _ hp _ hp' := sql_eq_of_mem_compile h hp hp'
  absent := compile_withoutSets schema r

/-- **Main theorem.** A batch is its variable sets, one by one. Its plans are the plans of the sets
in order, with one text. Its row sets are the row sets of the plans in order, for every executor
that looks at the text and the arguments of a plan only. Nothing runs unless all sets compile. -/
theorem compiles_and_runs_set_by_set (schema : Schema) (r : Request) :
    r.CompilesSetBySet schema ∧ (∀ answer, r.RunsSetBySet ⟨schema, .of answer⟩) ∧
      r.RunsOnlyIfCompiled schema := by
  refine ⟨compilesSetBySet schema r, fun answer => ⟨?_, ?_, ?_⟩, ?_, ?_⟩
  · intro sets
    exact Engine.mayAnswer_execute _ _
  · intro xs ys a a₁ a₂ h h₁ h₂ rows
    exact Engine.mayAnswer_append h h₁ h₂
  · intro a
    simp only [Engine.MayAnswer, executeIn, compile_withoutSets]
  · intro sets s hs set hset e he
    exact compile_eq_error_of_mem hs hset he
  · intro sets e he m _ executor together
    exact executeIn_of_compile_eq_error he executor together

end Request

end CollectionSql
