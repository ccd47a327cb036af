import CollectionSql.Proofs.Correctness
import CollectionSql.Proofs.Joining
import CollectionSql.Proofs.KeyChoice

/-!
# The rows that a relationship relates

The pairs of a column mapping say together which rows a relationship relates. It is followed in two
ways. A nested selection and an existence check take the rows that agree on all pairs. A hop of a
path joins rows on a single foreign key, so it takes those that agree on the columns of that key.

**Deviation of hops over several pairs.** Where every pair of the mapping is a key, a hop is joined
on one of the pairs and leaves the others out (`hop_relates_mapped_pair`). It finds all rows that a
nested selection shows, but no others only if the mapping has no other pair. A path over a
relationship with a second pair reaches rows that the relationship does not relate
(`local_buyer_hop_relates_other_rows`).

Results:
* `chooseKey_of_mapsKeys`: a hop over mapped keys is joined on one of them.
* `relates_over`, `relates_tieExpr`: which rows the two ways relate.
* `agreeOn_iff_agreeOn_singleton`: when agreement on one pair is agreement on all.
* `hop_relates_mapped_pair`: what a hop and a nested selection have in common.
-/

namespace CollectionSql.Sql

/-! ## Agreement of rows -/

/-- Equality of values as databases have it: its sides can be swapped, and it tells some values
apart. -/
structure Dialect.LawfulEq (d : Dialect) : Prop where
  symm : ∀ a b, d.holds .eq a b = d.holds .eq b a
  apart : ∃ a b, d.compare .eq a a = .yes ∧ d.compare .eq a b ≠ .yes

theorem Dialect.LawfulEq.compare_comm {d : Dialect} (hd : d.LawfulEq) (a b : Value) :
    d.compare .eq a b = d.compare .eq b a := by
  rw [Dialect.compare, Dialect.compare, Bool.or_comm, hd.symm]

/-- Two rows have equal values in each pair of columns. -/
def AgreeOn (d : Dialect) (pairs : List (String × String)) (here there : TableRow) : Prop :=
  ∀ pair ∈ pairs, d.compare .eq (here pair.1) (there pair.2) = .yes

theorem agreeOn_cons {d : Dialect} {pair : String × String} {pairs : List (String × String)}
    {here there : TableRow} : AgreeOn d (pair :: pairs) here there ↔
      d.compare .eq (here pair.1) (there pair.2) = .yes ∧ AgreeOn d pairs here there :=
  List.forall_mem_cons

theorem agreeOn_singleton {d : Dialect} {pair : String × String} {here there : TableRow} :
    AgreeOn d [pair] here there ↔ d.compare .eq (here pair.1) (there pair.2) = .yes := by
  simp [AgreeOn]

theorem AgreeOn.singleton {d : Dialect} {pairs : List (String × String)} {here there : TableRow}
    (h : AgreeOn d pairs here there) {pair : String × String} (hpair : pair ∈ pairs) :
    AgreeOn d [pair] here there :=
  agreeOn_singleton.mpr (h pair hpair)

/-- Agreement on different pairs is different. -/
theorem eq_of_agreeOn_imp {d : Dialect} (hd : d.LawfulEq) {pair other : String × String}
    (h : ∀ here there, AgreeOn d [pair] here there → AgreeOn d [other] here there) :
    other = pair := by
  simp only [agreeOn_singleton] at h
  obtain ⟨a, b, hself, hapart⟩ := hd.apart
  -- a row has `b` in the column of one side only if the other pair has another column there
  apply Prod.ext
  · by_contra hne
    have hother := h (fun column => if column = other.1 then b else a) (fun _ => a)
      (by rw [if_neg (Ne.symm hne)]; exact hself)
    rw [if_pos rfl, hd.compare_comm] at hother
    exact hapart hother
  · by_contra hne
    have hother := h (fun _ => a) (fun column => if column = other.2 then b else a)
      (by rw [if_neg (Ne.symm hne)]; exact hself)
    rw [if_pos rfl] at hother
    exact hapart hother

/-- Rows that agree on one pair of many agree on all of them, whatever the rows are, iff there is no
other pair. -/
theorem agreeOn_iff_agreeOn_singleton {d : Dialect} (hd : d.LawfulEq)
    {pairs : List (String × String)} {pair : String × String} (hpair : pair ∈ pairs) :
    (∀ here there, AgreeOn d [pair] here there ↔ AgreeOn d pairs here there) ↔
      ∀ other ∈ pairs, other = pair := by
  constructor
  · intro h other hother
    apply eq_of_agreeOn_imp hd
    intro here there hagree
    exact ((h here there).mp hagree).singleton hother
  · intro h here there
    constructor
    · intro hagree other hother
      rw [h other hother]
      exact agreeOn_singleton.mp hagree
    · intro hagree
      exact hagree.singleton hpair

/-! ## Conditions between two rows -/

/-- Two rows are in scope, each under its label. -/
structure Frame.Binds (frames : List Frame) (a b : String) (here there : TableRow) : Prop where
  here : Frame.row? frames a = some here
  there : Frame.row? frames b = some there

/-- Wherever two rows are in scope, a join condition has a truth value, and it is true iff the rows
are related. -/
def Join.Relates (d : Dialect) (j : Join) (a b : String) (R : TableRow → TableRow → Prop) : Prop :=
  ∀ frames here there, Frame.Binds frames a b here there →
    ∃ t, j.truth? d frames = some t ∧ (t = .yes ↔ R here there)

/-- Wherever two rows are in scope, conditions have truth values, and all are true iff the rows are
related. -/
def Expr.Relates (d : Dialect) (db : Database) (es : List Expr) (a b : String)
    (R : TableRow → TableRow → Prop) : Prop :=
  ∀ group outer here there, Frame.Binds (Frame.seen group outer) a b here there →
    ∃ ts, Expr.evalTruths d db es group outer = some ts ∧ ((∀ t ∈ ts, t = .yes) ↔ R here there)

end CollectionSql.Sql

namespace CollectionSql.Selection

open Sql (AgreeOn Database Dialect Frame)

/-! ## The two ways to follow a relationship -/

/-- Each pair of the column mapping is a foreign key, and all of them belong to one side. -/
def MapsKeys (r : Relationship) (current target : Collection) : Prop :=
  (∀ pair ∈ r.columnMapping, (pair.1, ⟨target.name, pair.2⟩) ∈ current.foreignKeys) ∨
    ∀ pair ∈ r.columnMapping, (pair.2, ⟨current.name, pair.1⟩) ∈ target.foreignKeys

instance (r : Relationship) (current target : Collection) :
    Decidable (MapsKeys r current target) :=
  inferInstanceAs (Decidable (_ ∨ _))

/-- Foreign keys of a consistent schema are fields on both sides. -/
theorem MapsKeys.ties {schema : Schema} (hs : schema.Consistent) {r : Relationship}
    {current target : Collection} (hcurrent : current ∈ schema.collections.values)
    (htarget : target ∈ schema.collections.values) (h : MapsKeys r current target) :
    Ties r current target := by
  intro pair hpair
  rcases h with h | h
  · have hmem : .forward pair.1 ⟨target.name, pair.2⟩ ∈ keysBetween current target :=
      mem_keysBetween_iff.mpr ⟨h pair hpair, rfl⟩
    exact mem_fieldNames_of_mem_keysBetween hs hcurrent htarget hmem
  · have hmem : .reverse pair.2 ⟨current.name, pair.1⟩ ∈ keysBetween current target :=
      mem_keysBetween_iff.mpr ⟨h pair hpair, rfl⟩
    exact (mem_fieldNames_of_mem_keysBetween hs hcurrent htarget hmem).symm

/-- A hop over mapped keys is joined on one of them. -/
theorem chooseKey_of_mapsKeys {schema : Schema} (hs : schema.Consistent) {r : Relationship}
    {current target : Collection} (hcurrent : current ∈ schema.collections.values)
    (htarget : target ∈ schema.collections.values) (hmaps : MapsKeys r current target)
    (hmapping : r.columnMapping ≠ []) :
    ∃ key, chooseKey schema r current target = some key ∧
      IsKeyOf r.columnMapping current target key ∧ key.pair ∈ r.columnMapping := by
  obtain ⟨pair, hpair⟩ := List.exists_mem_of_ne_nil _ hmapping
  obtain ⟨mapped, hmem, hmapped⟩ : ∃ k ∈ keysBetween current target, k.pair ∈ r.columnMapping := by
    rcases hmaps with h | h
    · exact ⟨.forward pair.1 ⟨target.name, pair.2⟩, mem_keysBetween_iff.mpr ⟨h pair hpair, rfl⟩,
        hpair⟩
    · exact ⟨.reverse pair.2 ⟨current.name, pair.1⟩, mem_keysBetween_iff.mpr ⟨h pair hpair, rfl⟩,
        hpair⟩
  obtain ⟨key, hkey⟩ : ∃ key, chooseKey schema r current target = some key := by
    rw [← Option.ne_none_iff_exists', chooseKey_eq_argmin hs.toKeyed r current htarget]
    intro hnone
    rw [List.argmin_eq_none.mp hnone] at hmem
    cases hmem
  have hisKey := (chooseKey_eq_some_iff hs hcurrent htarget).mp hkey
  refine ⟨key, hkey, hisKey, ?_⟩
  by_contra hnot
  exact hisKey.best mapped hmem (.inl ⟨hmapped, hnot⟩)

/-- The join of a hop relates the rows that agree on the pair of its key. -/
theorem relates_over {d : Dialect} (hd : d.LawfulEq) (o : Occurrence) (r : Relationship)
    (target : Collection) (key : HopKey) :
    (Hop.over o r target key).join.Relates d o.label (joinLabel o.label r.name)
      (AgreeOn d [key.pair]) := by
  intro frames here there hbinds
  simp only [Sql.agreeOn_singleton]
  cases key with
  | forward field k =>
    refine ⟨d.compare .eq (here field) (there k.column), ?_, Iff.rfl⟩
    simp [Sql.Join.truth?, Hop.over, HopKey.columns, Frame.value?, hbinds.here, hbinds.there]
  | reverse field k =>
    refine ⟨d.compare .eq (there field) (here k.column), ?_, ?_⟩
    · simp [Sql.Join.truth?, Hop.over, HopKey.columns, Frame.value?, hbinds.here, hbinds.there]
    · rw [hd.compare_comm]
      rfl

/-- The conditions of a column mapping relate the rows that agree on all of its pairs. -/
theorem relates_tieExpr (d : Dialect) (db : Database) (mapping : List (String × String))
    (parent child : String) :
    Sql.Expr.Relates d db (mapping.map (tieExpr parent child)) parent child
      (AgreeOn d mapping) := by
  intro group outer here there hbinds
  induction mapping with
  | nil => exact ⟨[], rfl, by simp [AgreeOn]⟩
  | cons pair rest ih =>
    obtain ⟨ts, hts, hiff⟩ := ih
    refine ⟨d.compare .eq (here pair.1) (there pair.2) :: ts, ?_, ?_⟩
    · rw [List.map_cons, Sql.Expr.evalTruths, tieExpr, Sql.Expr.eval, Sql.Expr.eval_col hbinds.here,
        Sql.Expr.eval_col hbinds.there, hts]
      simp [Sql.Datum.value]
    · rw [List.forall_mem_cons, hiff, Sql.agreeOn_cons]

/-- **Main theorem.** Let the pairs of a column mapping be foreign keys of one side. Then both ways
to follow the relationship succeed. The hop relates the rows that agree on the pair of its key,
which is a pair of the mapping; a nested selection or an existence check, under any label, relates
those that agree on all pairs. So all rows that the second relates are related by the first, and the
two relate the same rows iff the mapping has no other pair. -/
theorem hop_relates_mapped_pair {doc : Document} {env : Env} {o : Occurrence}
    {id : RelationshipId} {r : Relationship} {target : Collection}
    (hschema : Schema.ofDocument doc = .ok env.schema)
    (ho : o.collection ∈ env.schema.collections.values) (hleads : LeadsTo env id r target)
    (hmapping : r.columnMapping ≠ []) (hmaps : MapsKeys r o.collection target) (label : String) :
    ∃ key j fansOut ties, IsKeyOf r.columnMapping o.collection target key ∧
      key.pair ∈ r.columnMapping ∧
      (∀ js, hop env o id js = .ok (⟨target, joinLabel o.label r.name⟩, js.insert j fansOut)) ∧
      correlation r o ⟨target, label⟩ = .ok ties ∧
      ∀ (d : Dialect) (db : Database), d.LawfulEq →
        j.Relates d o.label (joinLabel o.label r.name) (AgreeOn d [key.pair]) ∧
        Sql.Expr.Relates d db ties o.label label (AgreeOn d r.columnMapping) ∧
        (∀ here there, AgreeOn d r.columnMapping here there → AgreeOn d [key.pair] here there) ∧
        ((∀ here there, AgreeOn d [key.pair] here there ↔ AgreeOn d r.columnMapping here there) ↔
          ∀ pair ∈ r.columnMapping, pair = key.pair) := by
  have hs := Schema.consistent_of_ofDocument hschema
  have htarget := Schema.mem_values_of_get? hleads.2
  obtain ⟨key, hkey, hisKey, hpair⟩ := chooseKey_of_mapsKeys hs ho htarget hmaps hmapping
  have hhop : hop? env o id = some (.over o r target key) :=
    hop?_eq_some_iff.mpr ⟨r, target, key, hleads.1, hleads.2, hkey, rfl⟩
  refine ⟨key, _, _, _, hisKey, hpair, fun js => hop_eq_ok_iff.mpr ⟨_, hhop, rfl, rfl⟩,
    correlation_eq_ok_iff.mpr ⟨hmaps.ties hs ho htarget, rfl⟩, ?_⟩
  intro d db hd
  exact ⟨relates_over hd o r target key, relates_tieExpr d db _ _ _,
    fun here there h => h.singleton hpair, Sql.agreeOn_iff_agreeOn_singleton hd hpair⟩

/-! ## Buyers and buyers of the same region -/

theorem lawfulEq_plainDialect : plainDialect.LawfulEq where
  symm a b := by simp [plainDialect, eq_comm]
  apart := ⟨.int 0, .int 1, by decide, by decide⟩

/-- The buyer of a sale, and the buyer if they live in the region of the sale. -/
def buyers : Relationships where
  entries := [
    ("buyer", ⟨"buyer", "people", [("buyer_id", "id")], .object⟩),
    ("local_buyer", ⟨"local_buyer", "people", [("buyer_id", "id"), ("region", "region")],
      .object⟩)]

/-- Compiling a statement about sales. -/
def salesEnv : Env := ⟨market, buyers, .empty, sales⟩

/-- The path to the buyer of a sale relates the same rows as a nested selection of the buyer. -/
theorem buyer_hop_relates_mapped_rows :
    ∃ j fansOut ties, hop salesEnv ⟨sales, "sales"⟩ ⟨0⟩ .empty =
        .ok (⟨people, "sales_buyer"⟩, Joins.empty.insert j fansOut) ∧
      correlation ⟨"buyer", "people", [("buyer_id", "id")], .object⟩ ⟨sales, "sales"⟩
        ⟨people, "sales_customer"⟩ = .ok ties ∧
      ∀ db, j.Relates plainDialect "sales" "sales_buyer"
          (AgreeOn plainDialect [("buyer_id", "id")]) ∧
        Sql.Expr.Relates plainDialect db ties "sales" "sales_customer"
          (AgreeOn plainDialect [("buyer_id", "id")]) := by
  have hleads : LeadsTo salesEnv ⟨0⟩ ⟨"buyer", "people", [("buyer_id", "id")], .object⟩ people :=
    ⟨rfl, rfl⟩
  have hsales : (⟨sales, "sales"⟩ : Occurrence).collection ∈ salesEnv.schema.collections.values :=
    by decide
  obtain ⟨key, j, fansOut, ties, -, hpair, hhop, hties, hrelates⟩ :=
    hop_relates_mapped_pair ofDocument_marketDocument hsales hleads (by decide) (by decide)
      "sales_customer"
  rw [List.mem_singleton.mp hpair] at hrelates
  refine ⟨j, fansOut, ties, hhop .empty, hties, fun db => ?_⟩
  obtain ⟨hjoin, hnested, -⟩ := hrelates plainDialect db lawfulEq_plainDialect
  exact ⟨hjoin, hnested⟩

/-- The path to the buyer in the region of a sale relates rows that no nested selection relates: the
buyer of the sale, who lives elsewhere. -/
theorem local_buyer_hop_relates_other_rows :
    Schema.ofDocument marketDocument = .ok salesEnv.schema ∧ ∃ r, LeadsTo salesEnv ⟨1⟩ r people ∧
      r.columnMapping ≠ [] ∧ MapsKeys r sales people ∧ ∃ j fansOut ties,
        hop salesEnv ⟨sales, "sales"⟩ ⟨1⟩ .empty =
          .ok (⟨people, "sales_local_buyer"⟩, Joins.empty.insert j fansOut) ∧
        correlation r ⟨sales, "sales"⟩ ⟨people, "sales_exists"⟩ = .ok ties ∧
        j.truth? plainDialect [
          .ofRow "sales_local_buyer" (rowOf [("id", .int 5), ("region", .int 2)]),
          .ofRow "sales" (rowOf [("buyer_id", .int 5), ("region", .int 1)])] = some .yes ∧
        Sql.Expr.evalTruths plainDialect (fun _ => []) ties
          [.ofRow "sales_exists" (rowOf [("id", .int 5), ("region", .int 2)])]
          [.ofRow "sales" (rowOf [("buyer_id", .int 5), ("region", .int 1)])] =
            some [.yes, .no] := by
  refine ⟨ofDocument_marketDocument, _, ⟨rfl, rfl⟩, by decide, by decide, ?_⟩
  exact ⟨⟨"people", "sales_local_buyer", ⟨"sales", "buyer_id"⟩, ⟨"sales_local_buyer", "id"⟩⟩,
    false, _, rfl, rfl, rfl, rfl⟩

end CollectionSql.Selection
