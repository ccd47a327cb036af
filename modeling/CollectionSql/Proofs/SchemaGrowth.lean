import CollectionSql.Proofs.Growth
import CollectionSql.Proofs.KeyChoice

/-!
# More collections leave plans as they are

Compilation looks collections up by name, and foreign keys between two collections that it has
already found. To find the keys of the target of a hop it goes through all collections of the
schema, but it keeps those of the target only. So a collection that is added to a schema, whatever
its foreign keys point at, is not seen by a statement that compiled without it, and the order of
the collections does not matter either.

Results:
* `Schema.Includes`: a schema with all collections of another, as they are.
* `chooseKey_eq_of_includes`: hops between collections of both schemas are joined on the same key.
* `Plan.compile_of_includes`: a statement that compiles has the same plan under a larger schema.
-/

namespace CollectionSql

/-- `s'` has every collection of `s` as it is, in whatever order and with whatever others. -/
def Schema.Includes (s' s : Schema) : Prop :=
  ∀ c ∈ s.collections.values, c ∈ s'.collections.values

section

variable {s s' : Schema}

theorem Schema.Includes.get? (h : s'.Includes s) (hs : s.Keyed) (hs' : s'.Keyed) {name : String}
    {c : Collection} (hc : s.collections.get? name = some c) :
    s'.collections.get? name = some c := by
  rw [← hs.name_of_get? hc]
  exact hs'.get?_name (h c (Schema.mem_values_of_get? hc))

namespace Selection

/-- Hops between collections of both schemas are joined on the same key. Keys of other collections
are passed over, although they may point at the current one. -/
theorem chooseKey_eq_of_includes (h : s'.Includes s) (hs : s.Keyed) (hs' : s'.Keyed)
    (r : Relationship) (current : Collection) {target : Collection}
    (htarget : target ∈ s.collections.values) :
    chooseKey s' r current target = chooseKey s r current target := by
  have hkeys : hopKeys s' current target = hopKeys s current target := by
    rw [hopKeys_eq hs current htarget, hopKeys_eq hs' current (h target htarget)]
  rw [chooseKey, chooseKey, hkeys]

/-- The environment under the larger schema knows all that the one under the smaller knows. -/
theorem extends_of_includes (h : s'.Includes s) (hs : s.Keyed) (hs' : s'.Keyed)
    (table : Relationships) (bindings : VariableSet) (root : Collection) :
    Env.Extends ⟨s', table, bindings, root⟩ ⟨s, table, bindings, root⟩ where
  relationships := rfl
  root := rfl
  collection := h.get? hs hs'
  key htarget r current :=
    chooseKey_eq_of_includes h hs hs' r current (Schema.mem_values_of_get? htarget)
  value := id

end Selection

/-- **Main theorem.** Plans are stable under growth of the schema. A statement that compiles has the
same plan, text and arguments alike, under every schema that has all collections as they were. -/
theorem Plan.compile_of_includes (hs : s.Keyed) (hs' : s'.Keyed) (h : s'.Includes s)
    {statement : Statement} {bindings : VariableSet} {plan : Plan}
    (hplan : Plan.compile s statement bindings = .ok plan) :
    Plan.compile s' statement bindings = .ok plan := by
  simp only [Plan.compile, Result.bind_eq_ok, Result.pure_eq_ok] at hplan ⊢
  obtain ⟨select, hselect, rfl⟩ := hplan
  refine ⟨select, ?_, rfl⟩
  rw [Selection.compile_eq_ok_iff] at hselect ⊢
  obtain ⟨root, rows, hroot, hrows, rfl⟩ := hselect
  have hextends := Selection.extends_of_includes h hs hs' statement.relationships bindings root
  exact ⟨root, rows, h.get? hs hs' hroot, Selection.level_extends hextends statement.query hrows,
    rfl⟩

end

/-! ## A shop with reviews -/

/-- The collections of `shopDocument` in another order, with reviews that users write of orders
before them. -/
def reviewedShopDocument : Document where
  config := some {
    collectionNames := ["reviews", "orders", "users", "orgs"]
    objectTypes := []
    objectFields := [
      ("orgs", ⟨["id", "name"], [("id", "Int"), ("name", "String")], ["id"], [], [], []⟩),
      ("users", ⟨["id", "org_id"], [("id", "Int"), ("org_id", "Int")], ["id"], [], [],
        [("org_id", ⟨"orgs", "id"⟩)]⟩),
      ("orders", ⟨["id", "user_id", "org_id"],
        [("id", "Int"), ("user_id", "Int"), ("org_id", "Int")], ["id"], [], [],
        [("user_id", ⟨"users", "id"⟩), ("org_id", ⟨"orgs", "id"⟩)]⟩),
      ("reviews", ⟨["user_id", "order_id"], [("user_id", "Int"), ("order_id", "Int")], [], [], [],
        [("user_id", ⟨"users", "id"⟩), ("order_id", ⟨"orders", "id"⟩)]⟩)] }

/-- The schema of `reviewedShopDocument`. -/
def reviewedShop : Schema where
  collections :=
    ("reviews", ⟨"reviews", [("user_id", ⟨"user_id", .int, false⟩),
      ("order_id", ⟨"order_id", .int, false⟩)], [], [],
      [("user_id", ⟨"users", "id"⟩), ("order_id", ⟨"orders", "id"⟩)]⟩) :: shop.collections.reverse

theorem ofDocument_reviewedShopDocument :
    Schema.ofDocument reviewedShopDocument = .ok reviewedShop := rfl

theorem reviewedShop_includes : reviewedShop.Includes shop := by
  intro c hc
  obtain ⟨entry, hentry, rfl⟩ := List.mem_map.mp hc
  exact List.mem_map_of_mem (List.mem_cons_of_mem _ (List.mem_reverse.mpr hentry))

/-- Users in the order of the numbers of their orders. The path goes against a foreign key, so it
repeats users and the rows are grouped. -/
def usersByOrderNumber : Statement where
  collection := "users"
  query := {
    fields := [("id", .column "id")]
    aggregates := []
    filter := none
    orderBy := [⟨.column ⟨"id", [⟨0⟩], .current⟩, .asc⟩]
    limit := none
    offset := none }
  relationships := ⟨[("orders", ⟨"orders", "orders", [("id", "user_id")], .array⟩)]⟩
  variableSets := none

/-- The reviews refer to users like the orders do and come first, and the plan is the same. -/
theorem usersByOrderNumber_same_plan :
    ∃ plan, Plan.compile shop usersByOrderNumber .empty = .ok plan ∧
      Plan.compile reviewedShop usersByOrderNumber .empty = .ok plan := by
  have hshop := Schema.consistent_of_ofDocument ofDocument_shopDocument
  have hlarger := Schema.consistent_of_ofDocument ofDocument_reviewedShopDocument
  refine ⟨_, rfl, ?_⟩
  exact Plan.compile_of_includes hshop.toKeyed hlarger.toKeyed reviewedShop_includes rfl

end CollectionSql
