import CollectionSql.Proofs.JsonReading
import CollectionSql.Request.Reader
import CollectionSql.Request.Writer

/-!
# Requests survive their text

A request is read again from the text that it is written as: the same request, with every map in the
same order. What text cannot keep is named in `Request.Regular`: a key that a map has twice, a
number that is no integer of 64 bits, a limit that 32 bits do not hold. No condition is put on
strings, nor on the shape of the request, but that its text opens no more containers than a document
may.

Conditions hold conditions, and so do the paths of their columns; their readers count down from the
nesting limit. A part is inside at least one container more than the whole, so a reader that starts
at the depth of the text, or above, never runs out (`carriesUpTo`).

Results:
* `carriesUpTo`: conditions and their parts are read back, whichever of them is inside which.
* `carriesQueriesUpTo`: queries and fields are read back.
* `carried`: the form of a request is read as the request.
* `parse_text_of_regular`: a request is read again from its own text.
-/

namespace CollectionSql.Request

open Json (Reader Record Carries carries_string carries_bool carries_nat32 carries_choice
  carries_null carries_json carries_jsonDict carries_list carries_dict carries_record
  carries_variant depth_lt_array depth_lt_object)

/-! ## Requests that text keeps -/

/-- Arguments that text keeps. -/
def Arguments.Regular (arguments : Arguments) : Prop := (Json.object arguments).Regular

/-- Text keeps the arguments of where an existence check looks. -/
def ExistsIn.Regular : ExistsIn → Prop
  | .related _ arguments | .unrelated _ arguments => arguments.Regular

mutual

/-- Text keeps all values in a condition. -/
inductive Expression.Regular : Expression → Prop where
  | and {operands : List Expression} (hoperands : ∀ e ∈ operands, e.Regular) :
    Expression.Regular (.and operands)
  | or {operands : List Expression} (hoperands : ∀ e ∈ operands, e.Regular) :
    Expression.Regular (.or operands)
  | not {operand : Expression} (hoperand : operand.Regular) : Expression.Regular (.not operand)
  | isNull {column : ComparisonTarget} (hcolumn : column.Regular) :
    Expression.Regular (.isNull column)
  | compare {column : ComparisonTarget} {operator : String} {value : ComparisonValue}
    (hcolumn : column.Regular) (hvalue : value.Regular) :
    Expression.Regular (.compare column operator value)
  | existsIn {collection : ExistsIn} {predicate : Option Expression}
    (hcollection : collection.Regular) (hpredicate : ∀ e, predicate = some e → e.Regular) :
    Expression.Regular (.existsIn collection predicate)

/-- Text keeps all values in an element of a path. -/
inductive PathElement.Regular : PathElement → Prop where
  | mk {relationship : String} {arguments : Arguments} {predicate : Option Expression}
    (harguments : arguments.Regular)
    (hpredicate : ∀ e, predicate = some e → Expression.Regular e) :
    PathElement.Regular ⟨relationship, arguments, predicate⟩

/-- Text keeps all values in the column of a comparison. -/
inductive ComparisonTarget.Regular : ComparisonTarget → Prop where
  | column {name : String} {path : List PathElement} (hpath : ∀ e ∈ path, PathElement.Regular e) :
    ComparisonTarget.Regular (.column name path)
  | rootColumn {name : String} : ComparisonTarget.Regular (.rootColumn name)

/-- Text keeps all values in the other side of a comparison. -/
inductive ComparisonValue.Regular : ComparisonValue → Prop where
  | column {column : ComparisonTarget} (hcolumn : ComparisonTarget.Regular column) :
    ComparisonValue.Regular (.column column)
  | scalar {value : Json} (hvalue : value.Regular) : ComparisonValue.Regular (.scalar value)
  | var {name : String} : ComparisonValue.Regular (.var name)

end

/-- Text keeps all values in what rows are ordered by. -/
def OrderByTarget.Regular : OrderByTarget → Prop
  | .column _ path | .singleColumnAggregate _ _ path | .starCountAggregate path =>
    ∀ e ∈ path, e.Regular

mutual

/-- Text keeps all values in a query: its maps have one value for each key, and 32 bits hold its
limit and its offset. -/
inductive Query.Regular : Query → Prop where
  | mk {q : Query}
    (haggregates : ∀ aggregates, q.aggregates = some aggregates → (Dict.keys aggregates).Nodup)
    (hnames : ∀ fields, q.fields = some fields → (Dict.keys fields).Nodup)
    (hfields : ∀ fields, q.fields = some fields → ∀ f ∈ fields, Field.Regular f.2)
    (hlimit : ∀ n, q.limit = some n → n < 0x100000000)
    (hoffset : ∀ n, q.offset = some n → n < 0x100000000)
    (horderBy : ∀ elements, q.orderBy = some elements → ∀ e ∈ elements, e.target.Regular)
    (hpredicate : ∀ e, q.predicate = some e → e.Regular) : Query.Regular q

/-- Text keeps all values in a field. -/
inductive Field.Regular : Field → Prop where
  | column {name : String} : Field.Regular (.column name)
  | relationship {query : Query} {name : String} {arguments : Arguments}
    (hquery : Query.Regular query) (harguments : arguments.Regular) :
    Field.Regular (.relationship query name arguments)

end

/-- Text keeps all values in a relationship. -/
structure Relationship.Regular (r : Relationship) : Prop where
  columnMapping : r.columnMapping.keys.Nodup
  arguments : r.arguments.Regular

/-- Text keeps all values in a request: numbers are integers that 64 bits hold, limits and offsets
are held by 32 bits, and no map has a key twice. -/
structure Regular (r : Request) : Prop where
  query : r.query.Regular
  arguments : r.arguments.Regular
  relationshipNames : r.relationships.keys.Nodup
  relationships : ∀ e ∈ r.relationships, e.2.Regular
  variableSets : ∀ sets, r.variableSets = some sets → ∀ s ∈ sets, (Json.object s).Regular

/-! ## Parts without conditions -/

theorem Arguments.carried {arguments : Arguments} (h : arguments.Regular) :
    Carries Arguments.reader (.object arguments) arguments :=
  carries_jsonDict h

theorem ExistsIn.carried {e : ExistsIn} (h : e.Regular) : Carries ExistsIn.reader e.toJson e := by
  cases e with
  | related relationship arguments =>
    have hname := carries_string relationship
    have harguments := Arguments.carried h
    refine carries_variant (by decide) (by decide)
      (List.Sublist.refl ["relationship", "arguments"]) ?_ fun body r hbody hr => ?_
    · simp [hname.regular, harguments.regular]
    · simp [hbody, hr.required "relationship" rfl hname, hr.withDefault "arguments" rfl harguments]
  | unrelated collection arguments =>
    have hname := carries_string collection
    have harguments := Arguments.carried h
    refine carries_variant (by decide) (by decide)
      (List.Sublist.refl ["collection", "arguments"]) ?_ fun body r hbody hr => ?_
    · simp [hname.regular, harguments.regular]
    · simp [hbody, hr.required "collection" rfl hname, hr.withDefault "arguments" rfl harguments]

theorem Aggregate.carried (a : Aggregate) : Carries Aggregate.reader a.toJson a := by
  cases a with
  | columnCount column distinct =>
    have hcolumn := carries_string column
    have hdistinct := carries_bool distinct
    refine carries_variant (by decide) (by decide)
      (List.Sublist.refl ["column", "distinct"]) ?_ fun body r hbody hr => ?_
    · simp [hcolumn.regular, hdistinct.regular]
    · simp [hbody, hr.required "column" rfl hcolumn, hr.withDefault "distinct" rfl hdistinct]
  | singleColumn column function =>
    have hcolumn := carries_string column
    have hfunction := carries_string function
    refine carries_variant (by decide) (by decide)
      (List.Sublist.refl ["column", "function"]) ?_ fun body r hbody hr => ?_
    · simp [hcolumn.regular, hfunction.regular]
    · simp [hbody, hr.required "column" rfl hcolumn, hr.required "function" rfl hfunction]
  | starCount =>
    refine carries_variant (by decide) (by decide) (List.Sublist.refl []) (List.forall_mem_nil _) ?_
    intro body r hbody hr
    simp [hbody]

/-! ## Members -/

theorem depth_tagged_le {tag : String} {members : List (String × Json)} {n : Nat} :
    (tagged tag members).depth ≤ n + 1 ↔ ∀ m ∈ members, m.2.depth ≤ n := by
  rw [tagged, Json.depth_object_le, List.forall_mem_cons]
  exact and_iff_right (Nat.zero_le n)

theorem get?_optionalMember (key key' : String) (o : Option Json) :
    Dict.get? (optionalMember key o) key' = if key = key' then o else none := by
  cases o <;> simp [optionalMember, Dict.get?]

theorem keys_optionalMember_sublist (key : String) (o : Option Json) :
    (Dict.keys (optionalMember key o)).Sublist [key] := by
  cases o with
  | none => exact List.nil_sublist _
  | some j => exact List.Sublist.refl _

theorem forall_mem_optionalMember {α : Type} {P : String × Json → Prop} {key : String}
    {o : Option α} {f : α → Json} :
    (∀ m ∈ optionalMember key (o.map f), P m) ↔ ∀ x, o = some x → P (key, f x) := by
  cases o <;> simp [optionalMember]

theorem keys_append_sublist {members members' : List (String × Json)} {names names' : List String}
    (h : (Dict.keys members).Sublist names) (h' : (Dict.keys members').Sublist names') :
    (Dict.keys (members ++ members')).Sublist (names ++ names') := by
  rw [Dict.keys, List.map_append]
  exact h.append h'

/-! ## Conditions -/

theorem Expression.listToJson_eq (es : List Expression) :
    Expression.listToJson es = es.map Expression.toJson := by
  induction es with
  | nil => rfl
  | cons e es ih => rw [Expression.listToJson, ih, List.map_cons]

theorem Expression.toJson_ne_null (e : Expression) : e.toJson ≠ .null := by
  cases e <;> simp [Expression.toJson, tagged]

theorem PathElement.listToJson_eq (es : List PathElement) :
    PathElement.listToJson es = es.map PathElement.toJson := by
  induction es with
  | nil => rfl
  | cons e es ih => rw [PathElement.listToJson, ih, List.map_cons]

theorem Expression.optionToJson_eq (e : Option Expression) :
    Expression.optionToJson e = e.map Expression.toJson := by
  cases e <;> rfl

/-- Readers that count down from `n` read all conditions and their parts that are no deeper. -/
structure CarriesUpTo (n : Nat) : Prop where
  expression : ∀ e : Expression, e.Regular → e.toJson.depth ≤ n →
    Carries (Expression.readerUpTo n) e.toJson e
  element : ∀ e : PathElement, e.Regular → e.toJson.depth ≤ n →
    Carries (PathElement.readerUpTo n) e.toJson e
  target : ∀ t : ComparisonTarget, t.Regular → t.toJson.depth ≤ n →
    Carries (ComparisonTarget.readerUpTo n) t.toJson t
  value : ∀ v : ComparisonValue, v.Regular → v.toJson.depth ≤ n →
    Carries (ComparisonValue.readerUpTo n) v.toJson v

section

variable {n : Nat}

theorem CarriesUpTo.expressions (h : CarriesUpTo n) {es : List Expression}
    (hes : ∀ e ∈ es, e.Regular) (hdepth : (Json.array (Expression.listToJson es)).depth ≤ n) :
    Carries (.list (Expression.readerUpTo n)) (.array (Expression.listToJson es)) es := by
  rw [Expression.listToJson_eq] at hdepth ⊢
  refine carries_list fun e he => h.expression e (hes e he) ?_
  exact (depth_lt_array (List.mem_map_of_mem he)).le.trans hdepth

theorem CarriesUpTo.elements (h : CarriesUpTo n) {es : List PathElement}
    (hes : ∀ e ∈ es, e.Regular) (hdepth : (Json.array (PathElement.listToJson es)).depth ≤ n) :
    Carries (.list (PathElement.readerUpTo n)) (.array (PathElement.listToJson es)) es := by
  rw [PathElement.listToJson_eq] at hdepth ⊢
  refine carries_list fun e he => h.element e (hes e he) ?_
  exact (depth_lt_array (List.mem_map_of_mem he)).le.trans hdepth

theorem Expression.carried_succ (h : CarriesUpTo n) {e : Expression} (he : e.Regular)
    (hdepth : e.toJson.depth ≤ n + 1) : Carries (Expression.readerUpTo (n + 1)) e.toJson e := by
  rw [Expression.readerUpTo]
  cases he with
  | and hoperands =>
    obtain ⟨hlist, -⟩ := List.forall_mem_cons.mp (depth_tagged_le.mp hdepth)
    have hlist := h.expressions hoperands hlist
    refine carries_variant (by decide) (by decide) (List.Sublist.refl ["expressions"]) ?_
      fun body r hbody hr => ?_
    · simp [hlist.regular]
    · simp [hbody, hr.required "expressions" rfl hlist]
  | or hoperands =>
    obtain ⟨hlist, -⟩ := List.forall_mem_cons.mp (depth_tagged_le.mp hdepth)
    have hlist := h.expressions hoperands hlist
    refine carries_variant (by decide) (by decide) (List.Sublist.refl ["expressions"]) ?_
      fun body r hbody hr => ?_
    · simp [hlist.regular]
    · simp [hbody, hr.required "expressions" rfl hlist]
  | not hoperand =>
    obtain ⟨hnot, -⟩ := List.forall_mem_cons.mp (depth_tagged_le.mp hdepth)
    have hnot := h.expression _ hoperand hnot
    refine carries_variant (by decide) (by decide) (List.Sublist.refl ["expression"]) ?_
      fun body r hbody hr => ?_
    · simp [hnot.regular]
    · simp [hbody, hr.required "expression" rfl hnot]
  | isNull hcolumn =>
    obtain ⟨htarget, -⟩ := List.forall_mem_cons.mp (depth_tagged_le.mp hdepth)
    have htarget := h.target _ hcolumn htarget
    have hcheck : Carries nullCheck (.string "is_null") () := carries_choice rfl
    refine carries_variant (by decide) (by decide) (List.Sublist.refl ["column", "operator"]) ?_
      fun body r hbody hr => ?_
    · simp [htarget.regular, hcheck.regular]
    · simp [hbody, hr.required "column" rfl htarget, hr.required "operator" rfl hcheck]
  | @compare _ operator _ hcolumn hvalue =>
    obtain ⟨htarget, -, hother, -⟩ :=
      (List.forall_mem_cons.mp (depth_tagged_le.mp hdepth)).imp_right
        fun hrest => (List.forall_mem_cons.mp hrest).imp_right List.forall_mem_cons.mp
    have htarget := h.target _ hcolumn htarget
    have hoperator := carries_string operator
    have hother := h.value _ hvalue hother
    refine carries_variant (by decide) (by decide)
      (List.Sublist.refl ["column", "operator", "value"]) ?_ fun body r hbody hr => ?_
    · simp [htarget.regular, hoperator.regular, hother.regular]
    · simp [hbody, hr.required "column" rfl htarget, hr.required "operator" rfl hoperator,
        hr.required "value" rfl hother]
  | @existsIn collection predicate hcollection hpredicate =>
    rw [Expression.toJson, Expression.optionToJson_eq] at hdepth ⊢
    obtain ⟨-, hoption⟩ := List.forall_mem_cons.mp (depth_tagged_le.mp hdepth)
    have hin := ExistsIn.carried hcollection
    have hoption : ∀ e, predicate = some e → Carries (Expression.readerUpTo n) e.toJson e :=
      fun e he => h.expression e (hpredicate e he) (forall_mem_optionalMember.mp hoption e he)
    refine carries_variant (by decide) (by decide)
      ((keys_optionalMember_sublist "predicate" _).cons_cons "in_collection") ?_
      fun body r hbody hr => ?_
    · exact List.forall_mem_cons.mpr ⟨hin.regular,
        forall_mem_optionalMember.mpr fun e he => (hoption e he).regular⟩
    · simp [hbody, hr.required "in_collection" rfl hin,
        hr.optional "predicate" (by simp [Dict.get?, get?_optionalMember])
          Expression.toJson_ne_null hoption]

theorem PathElement.carried_succ (h : CarriesUpTo n) {e : PathElement} (he : e.Regular)
    (hdepth : e.toJson.depth ≤ n + 1) : Carries (PathElement.readerUpTo (n + 1)) e.toJson e := by
  cases he with
  | @mk relationship arguments predicate harguments hpredicate =>
    rw [PathElement.toJson, Expression.optionToJson_eq] at hdepth ⊢
    rw [PathElement.readerUpTo]
    obtain ⟨-, hoption⟩ := List.forall_mem_append.mp (Json.depth_object_le.mp hdepth)
    have hname := carries_string relationship
    have harguments := Arguments.carried harguments
    have hoption : ∀ e, predicate = some e → Carries (Expression.readerUpTo n) e.toJson e :=
      fun e he => h.expression e (hpredicate e he) (forall_mem_optionalMember.mp hoption e he)
    refine carries_record (by decide) (((keys_optionalMember_sublist "predicate" _).cons_cons
      "arguments").cons_cons "relationship") ?_ fun r hr => ?_
    · refine List.forall_mem_append.mpr ⟨?_, ?_⟩
      · simp [hname.regular, harguments.regular]
      · exact forall_mem_optionalMember.mpr fun e he => (hoption e he).regular
    · simp [hr.required "relationship" rfl hname, hr.withDefault "arguments" rfl harguments,
        hr.optional "predicate" (by simp [Dict.get?, get?_optionalMember])
          Expression.toJson_ne_null hoption]

theorem ComparisonTarget.carried_succ (h : CarriesUpTo n) {t : ComparisonTarget} (ht : t.Regular)
    (hdepth : t.toJson.depth ≤ n + 1) :
    Carries (ComparisonTarget.readerUpTo (n + 1)) t.toJson t := by
  rw [ComparisonTarget.readerUpTo]
  cases ht with
  | @column name path hpath =>
    obtain ⟨-, hrest⟩ := List.forall_mem_cons.mp (depth_tagged_le.mp hdepth)
    have hname := carries_string name
    have helements := h.elements hpath (List.forall_mem_cons.mp hrest).1
    refine carries_variant (by decide) (by decide) (List.Sublist.refl ["name", "path"]) ?_
      fun body r hbody hr => ?_
    · simp [hname.regular, helements.regular]
    · simp [hbody, hr.required "name" rfl hname, hr.withDefault "path" rfl helements]
  | @rootColumn name =>
    have hname := carries_string name
    refine carries_variant (by decide) (by decide) (List.Sublist.refl ["name"]) ?_
      fun body r hbody hr => ?_
    · simp [hname.regular]
    · simp [hbody, hr.required "name" rfl hname]

theorem ComparisonValue.carried_succ (h : CarriesUpTo n) {v : ComparisonValue} (hv : v.Regular)
    (hdepth : v.toJson.depth ≤ n + 1) :
    Carries (ComparisonValue.readerUpTo (n + 1)) v.toJson v := by
  rw [ComparisonValue.readerUpTo]
  cases hv with
  | column hcolumn =>
    obtain ⟨htarget, -⟩ := List.forall_mem_cons.mp (depth_tagged_le.mp hdepth)
    have htarget := h.target _ hcolumn htarget
    refine carries_variant (by decide) (by decide) (List.Sublist.refl ["column"]) ?_
      fun body r hbody hr => ?_
    · simp [htarget.regular]
    · simp [hbody, hr.required "column" rfl htarget]
  | scalar hvalue =>
    have hjson := carries_json hvalue
    refine carries_variant (by decide) (by decide) (List.Sublist.refl ["value"]) ?_
      fun body r hbody hr => ?_
    · simp [hvalue]
    · simp [hbody, hr.required "value" rfl hjson]
  | @var name =>
    have hname := carries_string name
    refine carries_variant (by decide) (by decide) (List.Sublist.refl ["name"]) ?_
      fun body r hbody hr => ?_
    · simp [hname.regular]
    · simp [hbody, hr.required "name" rfl hname]

end

/-- Conditions and their parts are read by readers that count down from their depth or more. -/
theorem carriesUpTo (n : Nat) : CarriesUpTo n := by
  -- Every part is an object, so none has depth zero.
  induction n with
  | zero =>
    refine ⟨fun e _ h => ?_, fun e _ h => ?_, fun t _ h => ?_, fun v _ h => ?_⟩
    · cases e <;> exact absurd h (Nat.not_le.mpr (Json.depth_object_pos _))
    · obtain ⟨relationship, arguments, predicate⟩ := e
      exact absurd h (Nat.not_le.mpr (Json.depth_object_pos _))
    · cases t <;> exact absurd h (Nat.not_le.mpr (Json.depth_object_pos _))
    · cases v <;> exact absurd h (Nat.not_le.mpr (Json.depth_object_pos _))
  | succ n ih =>
    exact ⟨fun _ => Expression.carried_succ ih, fun _ => PathElement.carried_succ ih,
      fun _ => ComparisonTarget.carried_succ ih, fun _ => ComparisonValue.carried_succ ih⟩

/-! ## Orderings -/

theorem depth_le_of_tagged {tag : String} {members : List (String × Json)} {n : Nat}
    (h : (tagged tag members).depth ≤ n) : ∀ m ∈ members, m.2.depth ≤ n :=
  fun _ hm => (depth_lt_object (List.mem_cons_of_mem _ hm)).le.trans h

theorem OrderByTarget.carried {t : OrderByTarget} (ht : t.Regular)
    (hdepth : t.toJson.depth ≤ Json.nestingLimit) : Carries OrderByTarget.reader t.toJson t := by
  have hpaths : ∀ path : List PathElement, (∀ e ∈ path, e.Regular) →
      (Json.array (PathElement.listToJson path)).depth ≤ Json.nestingLimit →
      Carries (.list PathElement.reader) (.array (PathElement.listToJson path)) path :=
    fun path => (carriesUpTo Json.nestingLimit).elements
  cases t with
  | column name path =>
    have hname := carries_string name
    have hpath := hpaths path ht (depth_le_of_tagged hdepth ("path", _) (by simp))
    refine carries_variant (by decide) (by decide) (List.Sublist.refl ["name", "path"]) ?_
      fun body r hbody hr => ?_
    · simp [hname.regular, hpath.regular]
    · simp [hbody, hr.required "name" rfl hname, hr.withDefault "path" rfl hpath]
  | singleColumnAggregate column function path =>
    have hcolumn := carries_string column
    have hfunction := carries_string function
    have hpath := hpaths path ht (depth_le_of_tagged hdepth ("path", _) (by simp))
    refine carries_variant (by decide) (by decide)
      (List.Sublist.refl ["column", "function", "path"]) ?_ fun body r hbody hr => ?_
    · simp [hcolumn.regular, hfunction.regular, hpath.regular]
    · simp [hbody, hr.required "column" rfl hcolumn, hr.required "function" rfl hfunction,
        hr.withDefault "path" rfl hpath]
  | starCountAggregate path =>
    have hpath := hpaths path ht (depth_le_of_tagged hdepth ("path", _) (by simp))
    refine carries_variant (by decide) (by decide) (List.Sublist.refl ["path"]) ?_
      fun body r hbody hr => ?_
    · simp [hpath.regular]
    · simp [hbody, hr.withDefault "path" rfl hpath]

theorem OrderByElement.carried {e : OrderByElement} (he : e.target.Regular)
    (hdepth : e.toJson.depth ≤ Json.nestingLimit) : Carries OrderByElement.reader e.toJson e := by
  obtain ⟨word, hword, hform⟩ : ∃ word,
      Dict.get? [("asc", Direction.asc), ("desc", .desc)] word = some e.direction ∧
      e.toJson = .object [("order_direction", .string word), ("target", e.target.toJson)] := by
    obtain ⟨direction, target⟩ := e
    cases direction with
    | asc => exact ⟨"asc", rfl, rfl⟩
    | desc => exact ⟨"desc", rfl, rfl⟩
  rw [hform] at hdepth ⊢
  have hdirection := carries_choice hword
  have htarget := OrderByTarget.carried he
    ((depth_lt_object (m := ("target", e.target.toJson)) (by simp)).le.trans hdepth)
  refine carries_record (by decide) (List.Sublist.refl ["order_direction", "target"]) ?_
    fun r hr => ?_
  · simp [hdirection.regular, htarget.regular]
  · simp [hr.required "order_direction" rfl hdirection, hr.required "target" rfl htarget]

/-- The form of an ordering. -/
theorem orderBy_carried {elements : List OrderByElement} (h : ∀ e ∈ elements, e.target.Regular)
    (hdepth : (Json.object [("elements", .array (elements.map OrderByElement.toJson))]).depth ≤
      Json.nestingLimit) :
    Carries orderByReader (.object [("elements", .array (elements.map OrderByElement.toJson))])
      elements := by
  have hinner := (depth_lt_object (List.mem_singleton.mpr rfl)).le.trans hdepth
  have helements := carries_list fun e he => OrderByElement.carried (h e he)
    ((depth_lt_array (List.mem_map_of_mem he)).le.trans hinner)
  refine carries_record (by decide) (List.Sublist.refl ["elements"]) ?_ fun r hr => ?_
  · simp [helements.regular]
  · simp [hr.required "elements" rfl helements]

/-! ## Queries -/

theorem Field.listToJson_eq (fields : List (String × Field)) :
    Field.listToJson fields = fields.map fun f => (f.1, f.2.toJson) := by
  induction fields with
  | nil => rfl
  | cons f fields ih => rw [Field.listToJson, ih, List.map_cons]

theorem Query.fieldsToJson_eq (fields : Option (List (String × Field))) :
    Query.fieldsToJson fields =
      fields.map fun fs => .object (fs.map fun f => (f.1, f.2.toJson)) := by
  cases fields with
  | none => rfl
  | some fs => rw [Query.fieldsToJson, Field.listToJson_eq, Option.map_some]

/-- Readers that count down from `n` read all queries and fields that are no deeper. -/
structure CarriesQueriesUpTo (n : Nat) : Prop where
  query : ∀ q : Query, q.Regular → q.toJson.depth ≤ n → Carries (Query.readerUpTo n) q.toJson q
  field : ∀ f : Field, f.Regular → f.toJson.depth ≤ n → Carries (Field.readerUpTo n) f.toJson f

section

variable {n : Nat}

theorem Query.carried_succ (hn : n < Json.nestingLimit) (h : CarriesQueriesUpTo n) {q : Query}
    (hq : q.Regular) (hdepth : q.toJson.depth ≤ n + 1) :
    Carries (Query.readerUpTo (n + 1)) q.toJson q := by
  cases hq with
  | mk haggregates hnames hfields hlimit hoffset horderBy hpredicate =>
  obtain ⟨aggregates, fields, limit, offset, orderBy, predicate⟩ := q
  rw [Query.toJson, Query.fieldsToJson_eq] at hdepth ⊢
  rw [Query.readerUpTo]
  have hparts := Json.depth_object_le.mp hdepth
  simp only [List.forall_mem_append, forall_mem_optionalMember] at hparts
  obtain ⟨⟨⟨⟨⟨-, hinner⟩, -⟩, -⟩, hordered⟩, hfilter⟩ := hparts
  have haggregates : ∀ as, aggregates = some as →
      Carries (.dict Aggregate.reader) (.object (as.map fun a => (a.1, a.2.toJson))) as :=
    fun as has => carries_dict (haggregates as has) fun a _ => a.2.carried
  have hfields : ∀ fs, fields = some fs →
      Carries (.dict (Field.readerUpTo n)) (.object (fs.map fun f => (f.1, f.2.toJson))) fs :=
    fun fs hfs => carries_dict (hnames fs hfs) fun f hf => h.field f.2 (hfields fs hfs f hf)
      ((depth_lt_object (List.mem_map_of_mem hf)).le.trans (hinner fs hfs))
  have hlimit : ∀ m, limit = some m → Carries .nat32 (natToJson m) m :=
    fun m hm => carries_nat32 (hlimit m hm)
  have hoffset : ∀ m, offset = some m → Carries .nat32 (natToJson m) m :=
    fun m hm => carries_nat32 (hoffset m hm)
  have horderBy : ∀ es, orderBy = some es → Carries orderByReader
      (.object [("elements", .array (es.map OrderByElement.toJson))]) es :=
    fun es hes => orderBy_carried (horderBy es hes) ((hordered es hes).trans hn.le)
  have hpredicate : ∀ e, predicate = some e → Carries Expression.reader e.toJson e :=
    fun e he => (carriesUpTo Json.nestingLimit).expression e (hpredicate e he)
      ((hfilter e he).trans hn.le)
  refine carries_record (by decide)
    (keys_append_sublist (keys_append_sublist (keys_append_sublist (keys_append_sublist
      (keys_append_sublist (keys_optionalMember_sublist "aggregates" _)
        (keys_optionalMember_sublist "fields" _)) (keys_optionalMember_sublist "limit" _))
        (keys_optionalMember_sublist "offset" _)) (keys_optionalMember_sublist "order_by" _))
        (keys_optionalMember_sublist "predicate" _)) ?_ fun r hr => ?_
  · simp only [List.forall_mem_append, forall_mem_optionalMember]
    exact ⟨⟨⟨⟨⟨fun x hx => (haggregates x hx).regular, fun x hx => (hfields x hx).regular⟩,
      fun x hx => (hlimit x hx).regular⟩, fun x hx => (hoffset x hx).regular⟩,
      fun x hx => (horderBy x hx).regular⟩, fun x hx => (hpredicate x hx).regular⟩
  · simp [hr.optional "aggregates" (by simp [Dict.get?_append, get?_optionalMember])
        (fun _ => Json.noConfusion) haggregates,
      hr.optional "fields" (by simp [Dict.get?_append, get?_optionalMember])
        (fun _ => Json.noConfusion) hfields,
      hr.optional "limit" (by simp [Dict.get?_append, get?_optionalMember])
        (fun _ => Json.noConfusion) hlimit,
      hr.optional "offset" (by simp [Dict.get?_append, get?_optionalMember])
        (fun _ => Json.noConfusion) hoffset,
      hr.optional "order_by" (by simp [Dict.get?_append, get?_optionalMember])
        (fun _ => Json.noConfusion) horderBy,
      hr.optional "predicate" (by simp [Dict.get?_append, get?_optionalMember])
        Expression.toJson_ne_null hpredicate]

theorem Field.carried_succ (h : CarriesQueriesUpTo n) {f : Field} (hf : f.Regular)
    (hdepth : f.toJson.depth ≤ n + 1) : Carries (Field.readerUpTo (n + 1)) f.toJson f := by
  rw [Field.readerUpTo]
  cases hf with
  | @column name =>
    have hname := carries_string name
    refine carries_variant (by decide) (by decide) (List.Sublist.refl ["column"]) ?_
      fun body r hbody hr => ?_
    · simp [hname.regular]
    · simp [hbody, hr.required "column" rfl hname]
  | @relationship query name arguments hquery harguments =>
    obtain ⟨hnested, -⟩ := List.forall_mem_cons.mp (depth_tagged_le.mp hdepth)
    have hnested := h.query query hquery hnested
    have hname := carries_string name
    have harguments := Arguments.carried harguments
    refine carries_variant (by decide) (by decide)
      (List.Sublist.refl ["query", "relationship", "arguments"]) ?_ fun body r hbody hr => ?_
    · simp [hnested.regular, hname.regular, harguments.regular]
    · simp [hbody, hr.required "query" rfl hnested, hr.required "relationship" rfl hname,
        hr.withDefault "arguments" rfl harguments]

end

theorem carriesQueriesUpTo {n : Nat} (hn : n ≤ Json.nestingLimit) : CarriesQueriesUpTo n := by
  induction n with
  | zero =>
    refine ⟨fun q _ h => ?_, fun f _ h => ?_⟩
    · obtain ⟨aggregates, fields, limit, offset, orderBy, predicate⟩ := q
      exact absurd h (Nat.not_le.mpr (Json.depth_object_pos _))
    · cases f <;> exact absurd h (Nat.not_le.mpr (Json.depth_object_pos _))
  | succ n ih =>
    have ih := ih (Nat.le_of_succ_le hn)
    exact ⟨fun _ => Query.carried_succ hn ih, fun _ => Field.carried_succ ih⟩

/-! ## Requests -/

theorem Relationship.carried {r : Relationship} (h : r.Regular) :
    Carries Relationship.reader r.toJson r := by
  obtain ⟨word, hword, hform⟩ : ∃ word,
      Dict.get? [("object", Cardinality.object), ("array", .array)] word = some r.cardinality ∧
      r.toJson = .object [
        ("column_mapping", .object (r.columnMapping.map fun e => (e.1, .string e.2))),
        ("relationship_type", .string word), ("target_collection", .string r.targetCollection),
        ("arguments", .object r.arguments)] := by
    obtain ⟨columnMapping, cardinality, targetCollection, arguments⟩ := r
    cases cardinality with
    | object => exact ⟨"object", rfl, rfl⟩
    | array => exact ⟨"array", rfl, rfl⟩
  rw [hform]
  have hmapping := carries_dict h.columnMapping fun e _ => carries_string e.2
  have hcardinality := carries_choice hword
  have htarget := carries_string r.targetCollection
  have harguments := Arguments.carried h.arguments
  refine carries_record (by decide) (List.Sublist.refl ["column_mapping", "relationship_type",
    "target_collection", "arguments"]) ?_ fun record hr => ?_
  · simp [hmapping.regular, hcardinality.regular, htarget.regular, harguments.regular]
  · simp [hr.required "column_mapping" rfl hmapping,
      hr.required "relationship_type" rfl hcardinality,
      hr.required "target_collection" rfl htarget, hr.withDefault "arguments" rfl harguments]

/-- The form of a request is read as the request. -/
theorem carried {r : Request} (h : r.Regular) (hdepth : r.toJson.depth ≤ Json.nestingLimit) :
    Carries Request.reader r.toJson r := by
  obtain ⟨sets, hsets, hform⟩ : ∃ sets,
      Carries (.option (.list (.dict .json))) sets r.variableSets ∧
      r.toJson = .object [("collection", .string r.collection), ("query", r.query.toJson),
        ("arguments", .object r.arguments),
        ("collection_relationships", .object (r.relationships.map fun e => (e.1, e.2.toJson))),
        ("variables", sets)] := by
    have hsets := h.variableSets
    obtain ⟨collection, query, arguments, relationships, variableSets⟩ := r
    cases variableSets with
    | none => exact ⟨.null, carries_null _, rfl⟩
    | some list =>
      have hlist := carries_list fun s hs => carries_jsonDict (hsets list rfl s hs)
      exact ⟨.array (list.map .object), hlist.option Json.noConfusion, rfl⟩
  rw [hform] at hdepth ⊢
  have hcollection := carries_string r.collection
  have hquery : Carries Query.reader r.query.toJson r.query :=
    (carriesQueriesUpTo le_rfl).query r.query h.query
      ((depth_lt_object (m := ("query", r.query.toJson)) (by simp)).le.trans hdepth)
  have harguments := Arguments.carried h.arguments
  have hrelationships := carries_dict h.relationshipNames
    fun e he => Relationship.carried (h.relationships e he)
  refine carries_record (by decide) (List.Sublist.refl ["collection", "query", "arguments",
    "collection_relationships", "variables"]) ?_ fun record hr => ?_
  · simp [hcollection.regular, hquery.regular, harguments.regular, hrelationships.regular,
      hsets.regular]
  · simp [hr.required "collection" rfl hcollection, hr.required "query" rfl hquery,
      hr.withDefault "arguments" rfl harguments,
      hr.withDefault "collection_relationships" rfl hrelationships,
      hr.optional_of_written "variables" rfl hsets]

/-- **Main theorem.** A request is read again from its own text, unless the text nests more
containers than a document may. -/
theorem parse_text_of_regular {r : Request} (h : r.Regular)
    (hdepth : r.toJson.depth ≤ Json.nestingLimit) : Request.parse r.text = .ok r := by
  rw [Request.parse, Request.text, (Reader.parse?_text (carried h hdepth) hdepth).1]

/-- Users with their late orders, under a condition that compares with a value of many parts, in the
order of an aggregate over filtered orders, for two sets of variables. -/
def lateOrders : Request where
  collection := "users"
  query := {
    aggregates := some [("all", .starCount), ("names", .columnCount "name" true)]
    fields := some [
      ("late", .relationship {
        aggregates := none
        fields := some []
        limit := some 0xffffffff
        offset := none
        orderBy := none
        predicate := some (.compare (.rootColumn "id") "_lt" (.var "day")) } "orders" []),
      ("id", .column "id")]
    limit := none
    offset := some 0
    orderBy := some [⟨.desc, .singleColumnAggregate "total" "max"
      [⟨"orders", [], some (.isNull (.column "paid" []))⟩]⟩]
    predicate := some (.or [
      .not (.existsIn (.unrelated "orgs" [("deep", .array [.null, .object []])]) none),
      .compare (.column "name" []) "_eq" (.scalar
        (.object [("\"b\\", .bool true), ("a", .number (.integer (-5)))]))]) }
  arguments := []
  relationships := [("orders", ⟨[("id", "user_id")], .array, "orders", []⟩)]
  variableSets := some [[("day", .string "\n")], []]

theorem lateOrders_regular : lateOrders.Regular := by
  have hnone : Arguments.Regular [] := Json.regular_object.mpr (by simp [Dict.keys])
  have hdeep : Arguments.Regular [("deep", .array [.null, .object []])] :=
    ⟨by simp [Json.Integral, Json.parts, Json.partsOfItems, Json.partsOfMembers],
      by simp [Json.Distinct, Json.parts, Json.partsOfItems, Json.partsOfMembers, Dict.keys]⟩
  have hscalar : Json.Regular
      (.object [("\"b\\", .bool true), ("a", .number (.integer (-5)))]) :=
    ⟨by simp [Json.Integral, Json.parts, Json.partsOfMembers, Number.IsInteger64],
      by simp [Json.Distinct, Json.parts, Json.partsOfMembers, Dict.keys]⟩
  have hunpaid : PathElement.Regular ⟨"orders", [], some (.isNull (.column "paid" []))⟩ := by
    refine .mk hnone fun e he => ?_
    cases he
    exact .isNull (.column (List.forall_mem_nil _))
  have hnested : Query.Regular ⟨none, some [], some 0xffffffff, none, none,
      some (.compare (.rootColumn "id") "_lt" (.var "day"))⟩ := by
    refine .mk ?_ ?_ ?_ ?_ ?_ ?_ ?_
    all_goals rintro _ ⟨⟩
    · simp [Dict.keys]
    · exact List.forall_mem_nil _
    · decide
    · exact .compare .rootColumn .var
  refine ⟨.mk ?_ ?_ ?_ ?_ ?_ ?_ ?_, hnone, by decide, ?_, ?_⟩
  · rintro _ ⟨⟩
    simp [Dict.keys]
  · rintro _ ⟨⟩
    simp [Dict.keys]
  · rintro _ ⟨⟩
    simp [Field.Regular.relationship hnested hnone, Field.Regular.column]
  · rintro _ ⟨⟩
  · rintro _ ⟨⟩
    decide
  · rintro _ ⟨⟩
    simp [OrderByTarget.Regular, hunpaid]
  · rintro _ ⟨⟩
    refine .or (List.forall_mem_cons.mpr ⟨.not (.existsIn hdeep ?_), ?_⟩)
    · rintro _ ⟨⟩
    · exact List.forall_mem_singleton.mpr
        (.compare (.column (List.forall_mem_nil _)) (.scalar hscalar))
  · exact List.forall_mem_singleton.mpr ⟨by decide, hnone⟩
  · rintro _ ⟨⟩
    refine List.forall_mem_cons.mpr ⟨?_, List.forall_mem_singleton.mpr hnone⟩
    exact ⟨by simp [Json.Integral, Json.parts, Json.partsOfMembers],
      by simp [Json.Distinct, Json.parts, Json.partsOfMembers, Dict.keys]⟩

theorem lateOrders_parse_text :
    lateOrders.toJson.depth = 11 ∧ Request.parse lateOrders.text = .ok lateOrders := by
  have hdepth : lateOrders.toJson.depth = 11 := by decide
  exact ⟨hdepth, parse_text_of_regular lateOrders_regular (hdepth ▸ by decide)⟩

end CollectionSql.Request
