import CollectionSql.Json.Reader
import CollectionSql.Proofs.Dictionaries
import CollectionSql.Proofs.JsonText
import CollectionSql.Proofs.Results

/-!
# Reading what was written

When a reader gives back what a writer wrote. A value is carried (`Carries`) if its text can be read
at all and the reader gives the value in every mode that leaves room for it; then reading its text,
in either layout, gives the value (`Reader.parse?_text`). Each reader has its law here: what it asks
of the parts for the whole to be carried.

Room is counted in open containers (`depth`). A container leaves one less for its parts, and the
parts of a tagged union need none, since the union was read whole.

Results:
* `Tree.toJson?_ofJson`: the tree of a value with distinct keys stands for that value.
* `carries_list`, `carries_dict`, `carries_record`, `carries_variant`: containers carry what their
  parts carry.
* `Record.Holds.required`, `Record.Holds.optional`: the fields of a record that was written.
* `Reader.parse?_text`: what is carried is read back from its text.
-/

namespace CollectionSql

namespace Json

/-- All that text keeps of a value: its numbers are integers that 64 bits hold, and no object has a
key twice. -/
structure Regular (j : Json) : Prop where
  integral : j.Integral
  distinct : j.Distinct

theorem regular_object {members : List (String × Json)} :
    (object members).Regular ↔ (Dict.keys members).Nodup ∧ ∀ m ∈ members, m.2.Regular := by
  constructor
  · rintro ⟨hintegral, hdistinct⟩
    obtain ⟨hkeys, hparts⟩ := distinct_object.mp hdistinct
    exact ⟨hkeys, fun m hm => ⟨integral_object.mp hintegral m hm, hparts m hm⟩⟩
  · rintro ⟨hkeys, hparts⟩
    exact ⟨integral_object.mpr fun m hm => (hparts m hm).integral,
      distinct_object.mpr ⟨hkeys, fun m hm => (hparts m hm).distinct⟩⟩

/-! ## Depth -/

/-- The number of containers that are open at the deepest point of a value. -/
def depth (j : Json) : Nat := (Tree.ofJson j).height

theorem Tree.heightOfItems_le {ts : List Tree} {n : Nat} :
    heightOfItems ts ≤ n ↔ ∀ t ∈ ts, t.height ≤ n := by
  induction ts with
  | nil => simp [heightOfItems]
  | cons t ts ih => rw [heightOfItems, Nat.max_le, ih, List.forall_mem_cons]

theorem Tree.heightOfMembers_le {ms : List (Option String × Tree)} {n : Nat} :
    heightOfMembers ms ≤ n ↔ ∀ m ∈ ms, m.2.height ≤ n := by
  induction ms with
  | nil => simp [heightOfMembers]
  | cons m ms ih =>
    obtain ⟨k, t⟩ := m
    rw [heightOfMembers, Nat.max_le, ih, List.forall_mem_cons]

theorem depth_array_le {items : List Json} {n : Nat} :
    (array items).depth ≤ n + 1 ↔ ∀ j ∈ items, j.depth ≤ n := by
  rw [depth, Tree.ofJson, Tree.height, Nat.add_le_add_iff_right, Tree.heightOfItems_le,
    Tree.ofItems_eq, List.forall_mem_map]
  rfl

theorem depth_object_le {members : List (String × Json)} {n : Nat} :
    (object members).depth ≤ n + 1 ↔ ∀ m ∈ members, m.2.depth ≤ n := by
  rw [depth, Tree.ofJson, Tree.height, Nat.add_le_add_iff_right, Tree.heightOfMembers_le,
    Tree.ofMembers_eq, List.forall_mem_map]
  rfl

theorem depth_lt_array {items : List Json} {j : Json} (hj : j ∈ items) :
    j.depth < (array items).depth :=
  Nat.lt_succ_of_le (depth_array_le.mp le_rfl j hj)

theorem depth_lt_object {members : List (String × Json)} {m : String × Json} (hm : m ∈ members) :
    m.2.depth < (object members).depth :=
  Nat.lt_succ_of_le (depth_object_le.mp le_rfl m hm)

theorem depth_array_pos (items : List Json) : 0 < (array items).depth := Nat.succ_pos _

theorem depth_object_pos (members : List (String × Json)) : 0 < (object members).depth :=
  Nat.succ_pos _

/-- The mode leaves room for a value. -/
def Mode.Fits : Mode → Json → Prop
  | .direct levels, j => j.depth ≤ levels
  | .buffered, _ => True

theorem Mode.Fits.enter_array {mode : Mode} {items : List Json} (h : mode.Fits (.array items)) :
    ∃ inner, mode.enter = some inner ∧ ∀ j ∈ items, inner.Fits j := by
  cases mode with
  | buffered => exact ⟨.buffered, rfl, fun _ _ => trivial⟩
  | direct levels =>
    cases levels with
    | zero => exact absurd h (Nat.not_le.mpr (depth_array_pos items))
    | succ levels => exact ⟨.direct levels, rfl, depth_array_le.mp h⟩

theorem Mode.Fits.enter_object {mode : Mode} {members : List (String × Json)}
    (h : mode.Fits (.object members)) :
    ∃ inner, mode.enter = some inner ∧ ∀ m ∈ members, inner.Fits m.2 := by
  cases mode with
  | buffered => exact ⟨.buffered, rfl, fun _ _ => trivial⟩
  | direct levels =>
    cases levels with
    | zero => exact absurd h (Nat.not_le.mpr (depth_object_pos members))
    | succ levels => exact ⟨.direct levels, rfl, depth_object_le.mp h⟩

/-! ## The value of a written tree -/

theorem Tree.itemsToJson?_ofItems {items : List Json}
    (h : ∀ j ∈ items, (ofJson j).toJson? = some j) :
    itemsToJson? (ofItems items) = some items := by
  induction items with
  | nil => rfl
  | cons j js ih =>
    obtain ⟨hj, hjs⟩ := List.forall_mem_cons.mp h
    rw [ofItems, itemsToJson?, hj, ih hjs]
    rfl

theorem Tree.membersToJson?_ofMembers {members : List (String × Json)}
    (h : ∀ m ∈ members, (ofJson m.2).toJson? = some m.2) :
    membersToJson? (ofMembers members) = some members := by
  induction members with
  | nil => rfl
  | cons m ms ih =>
    obtain ⟨hm, hms⟩ := List.forall_mem_cons.mp h
    rw [ofMembers, membersToJson?, hm, ih hms]
    rfl

/-- The tree of a value with distinct keys stands for that value. -/
theorem Tree.toJson?_ofJson {j : Json} (hj : j.Distinct) : (ofJson j).toJson? = some j := by
  induction j using Json.induction with
  | null | bool | number | string => rfl
  | array items ih =>
    have hitems : ∀ j ∈ items, (ofJson j).toJson? = some j :=
      fun j hmem => ih j hmem (distinct_array.mp hj j hmem)
    rw [ofJson, toJson?, itemsToJson?_ofItems hitems, Option.map_some]
  | object members ih =>
    obtain ⟨hkeys, hparts⟩ := distinct_object.mp hj
    have hmembers : ∀ m ∈ members, (ofJson m.2).toJson? = some m.2 :=
      fun m hmem => ih m hmem (hparts m hmem)
    rw [ofJson, toJson?, membersToJson?_ofMembers hmembers, Option.map_some,
      Dict.ofPairs_of_nodup hkeys]

theorem Mode.admits_ofJson {mode : Mode} {j : Json} (hmode : mode.Fits j) (hj : j.Distinct) :
    mode.admits (Tree.ofJson j) = true := by
  cases mode with
  | buffered => rfl
  | direct levels =>
    rw [admits, Tree.toJson?_ofJson hj, Option.isSome_some, Bool.and_true]
    exact decide_eq_true hmode

/-! ## Carried values -/

/-- A value of a type is carried by its form: text keeps the form, and the reader gives the value
wherever there is room for the form. -/
structure Carries {α : Type} (value : Reader α) (j : Json) (x : α) : Prop where
  regular : j.Regular
  read : ∀ mode : Mode, mode.Fits j → value mode (Tree.ofJson j) = some x

section

variable {α : Type}

theorem carries_string (s : String) : Carries .string (.string s) s where
  regular := ⟨by simp [Integral, parts], by simp [Distinct, parts]⟩
  read _ _ := rfl

theorem carries_bool (b : Bool) : Carries .bool (.bool b) b where
  regular := ⟨by simp [Integral, parts], by simp [Distinct, parts]⟩
  read _ _ := rfl

theorem carries_nat32 {n : Nat} (hn : n < 0x100000000) :
    Carries .nat32 (.number (.integer n)) n where
  regular := by
    refine ⟨integral_number.mpr ⟨?_, ?_⟩, by simp [Distinct, parts]⟩ <;> omega
  read mode _ := by
    have hbounds : 0 ≤ (n : Int) ∧ (n : Int) < 0x100000000 := by omega
    rw [Tree.ofJson, Reader.nat32, if_pos hbounds, Int.toNat_natCast]

theorem carries_json {j : Json} (hj : j.Regular) : Carries .json j j where
  regular := hj
  read mode hmode := by
    rw [Reader.json, Mode.admits_ofJson hmode hj.distinct, if_pos rfl,
      Tree.toJson?_ofJson hj.distinct]

theorem carries_choice {words : List (String × α)} {word : String} {x : α}
    (h : Dict.get? words word = some x) : Carries (.choice words) (.string word) x where
  regular := (carries_string word).regular
  read _ _ := h

theorem carries_null (value : Reader α) : Carries (.option value) .null none where
  regular := ⟨by simp [Integral, parts], by simp [Distinct, parts]⟩
  read _ _ := rfl

theorem Carries.option {value : Reader α} {j : Json} {x : α} (h : Carries value j x)
    (hj : j ≠ .null) : Carries (.option value) j (some x) where
  regular := h.regular
  read mode hmode := by
    have hread := h.read mode hmode
    cases j with
    | null => exact absurd rfl hj
    | _ => exact congrArg (Option.map some) hread

theorem carries_list {item : Reader α} {f : α → Json} {xs : List α}
    (h : ∀ x ∈ xs, Carries item (f x) x) : Carries (.list item) (.array (xs.map f)) xs where
  regular := by
    refine ⟨integral_array.mpr ?_, distinct_array.mpr ?_⟩
    all_goals
      intro j hj
      obtain ⟨x, hx, rfl⟩ := List.mem_map.mp hj
    · exact (h x hx).regular.integral
    · exact (h x hx).regular.distinct
  read mode hmode := by
    obtain ⟨inner, henter, hfits⟩ := hmode.enter_array
    have hitems : (Tree.ofItems (xs.map f)).mapM (item inner) = some (xs.map id) := by
      rw [Tree.ofItems_eq, List.map_map, List.mapM_map]
      apply mapM_eq_some_map
      intro x hx
      exact (h x hx).read inner (hfits _ (List.mem_map_of_mem hx))
    rw [Tree.ofJson, Reader.list]
    simp only [henter, Option.bind_eq_bind, Option.bind_some, hitems, List.map_id]

theorem Reader.members_ofMembers (members : List (String × Json)) :
    Reader.members (Tree.ofMembers members) =
      some (members.map fun m => (m.1, Tree.ofJson m.2)) := by
  induction members with
  | nil => rfl
  | cons m ms ih =>
    rw [Tree.ofMembers, Reader.members, ih]
    rfl

theorem carries_dict {value : Reader α} {f : α → Json} {d : Dict α} (hkeys : d.keys.Nodup)
    (h : ∀ e ∈ d, Carries value (f e.2) e.2) :
    Carries (.dict value) (.object (d.map fun e => (e.1, f e.2))) d where
  regular := by
    refine regular_object.mpr ⟨?_, fun m hm => ?_⟩
    · rw [Dict.keys, List.map_map]
      exact hkeys
    · obtain ⟨e, he, rfl⟩ := List.mem_map.mp hm
      exact (h e he).regular
  read mode hmode := by
    obtain ⟨inner, henter, hfits⟩ := hmode.enter_object
    have hentries : ((d.map fun e => (e.1, f e.2)).map fun m => (m.1, Tree.ofJson m.2)).mapM
        (fun m => (value inner m.2).map (m.1, ·)) = some (d.map id) := by
      rw [List.map_map, List.mapM_map]
      apply mapM_eq_some_map
      intro e he
      have hread := (h e he).read inner (hfits _ (List.mem_map_of_mem he))
      simp [hread]
    rw [Tree.ofJson, Reader.dict]
    simp only [henter, Option.bind_eq_bind, Option.bind_some, Reader.members_ofMembers, hentries,
      List.map_id, Dict.ofPairs_of_nodup hkeys, Option.pure_def]

theorem carries_jsonDict {d : Dict Json} (h : (object d).Regular) :
    Carries (.dict .json) (.object d) d := by
  obtain ⟨hkeys, hvalues⟩ := regular_object.mp h
  have hdict := carries_dict (f := id) hkeys fun e he => carries_json (hvalues e he)
  rwa [show d.map (fun e => (e.1, id e.2)) = d from List.map_id d] at hdict

/-! ## Records -/

/-- A record holds the members of an object, each with room for it. -/
structure Record.Holds (r : Record) (members : List (String × Json)) : Prop where
  given : r.given = members.map fun m => (m.1, Tree.ofJson m.2)
  fits : ∀ m ∈ members, r.mode.Fits m.2

namespace Record

variable {r : Record} {members : List (String × Json)} {value : Reader α} {x : α}

theorem Holds.get? (h : r.Holds members) (name : String) :
    r.given.get? name = (Dict.get? members name).map Tree.ofJson := by
  rw [h.given]
  clear h
  induction members with
  | nil => rfl
  | cons m ms ih =>
    rw [List.map_cons, Dict.get?, Dict.get?, ih]
    split <;> rfl

theorem Holds.read (h : r.Holds members) {name : String} {j : Json}
    (hj : Dict.get? members name = some j)
    (hx : Carries value j x) : value r.mode (Tree.ofJson j) = some x :=
  hx.read r.mode (h.fits _ (Dict.mem_of_get?_eq_some hj))

theorem Holds.required (h : r.Holds members) (name : String) {j : Json}
    (hj : Dict.get? members name = some j) (hx : Carries value j x) :
    r.required name value = some x := by
  rw [Record.required, h.get?, hj]
  exact h.read hj hx

theorem Holds.withDefault (h : r.Holds members) (name : String) {j : Json}
    (hj : Dict.get? members name = some j) (hx : Carries value j x) (default : α) :
    r.withDefault name value default = some x := by
  rw [Record.withDefault, h.get?, hj]
  exact h.read hj hx

theorem Holds.withDefault_none (h : r.Holds members) (name : String)
    (hj : Dict.get? members name = none) (default : α) :
    r.withDefault name value default = some default := by
  rw [Record.withDefault, h.get?, hj]
  rfl

theorem Holds.optional_of_written (h : r.Holds members) (name : String) {j : Json} {o : Option α}
    (hj : Dict.get? members name = some j) (hx : Carries (.option value) j o) :
    r.optional name value = some o := by
  rw [Record.optional, h.get?, hj]
  exact h.read hj hx

/-- A field that may be missing is read as what it holds, and as nothing if it is missing. -/
theorem Holds.optional (h : r.Holds members) (name : String) {o : Option α} {f : α → Json}
    (hj : Dict.get? members name = o.map f) (hnull : ∀ x, f x ≠ .null)
    (hx : ∀ x, o = some x → Carries value (f x) x) : r.optional name value = some o := by
  cases o with
  | none =>
    rw [Record.optional, h.get?, hj]
    rfl
  | some x => exact h.optional_of_written name hj ((hx x rfl).option (hnull x))

/-- Reading an object of known members, none of them twice, gives a record that holds them. -/
theorem holds_reader {names : List String} (hnames : names.Nodup)
    (hmembers : (Dict.keys members).Sublist names) {mode : Mode}
    (hmode : mode.Fits (.object members)) :
    ∃ r, Record.reader names mode (Tree.ofJson (.object members)) = some r ∧ r.Holds members := by
  obtain ⟨inner, henter, hfits⟩ := hmode.enter_object
  have hkeys : (members.map fun m => (m.1, Tree.ofJson m.2)).map Prod.fst = Dict.keys members := by
    rw [List.map_map]
    rfl
  have hknown : (members.map fun m => (m.1, Tree.ofJson m.2)).filter
      (fun m => names.contains m.1) = members.map fun m => (m.1, Tree.ofJson m.2) := by
    rw [List.filter_eq_self]
    intro m hm
    have hkey : m.1 ∈ Dict.keys members := hkeys ▸ List.mem_map_of_mem hm
    exact List.contains_iff_mem.mpr (hmembers.subset hkey)
  refine ⟨⟨inner, members.map fun m => (m.1, Tree.ofJson m.2)⟩, ?_, rfl, hfits⟩
  rw [Record.reader, henter, Tree.ofJson]
  simp only [Option.bind_eq_bind, Option.bind_some, Reader.members_ofMembers, hknown, hkeys,
    if_pos (hnames.sublist hmembers)]

end Record

section

variable {members : List (String × Json)} {names : List String} {x : α}

theorem carries_record {build : Record → Option α} (hnames : names.Nodup)
    (hmembers : (Dict.keys members).Sublist names) (hregular : ∀ m ∈ members, m.2.Regular)
    (hbuild : ∀ r : Record, r.Holds members → build r = some x) :
    Carries (fun mode t => (Record.reader names mode t).bind build) (.object members) x where
  regular := regular_object.mpr ⟨hnames.sublist hmembers, hregular⟩
  read mode hmode := by
    obtain ⟨r, hr, hholds⟩ := Record.holds_reader hnames hmembers hmode
    rw [hr]
    exact hbuild r hholds

/-! ## Tagged unions -/

theorem Reader.variant_ofJson {tags : List String} {tag : String} (htag : tag ∈ tags)
    (hmembers : tagKey ∉ Dict.keys members)
    (hdistinct : (object ((tagKey, .string tag) :: members)).Distinct) {mode : Mode}
    (hmode : mode.Fits (.object ((tagKey, .string tag) :: members))) :
    Reader.variant tags mode (Tree.ofJson (.object ((tagKey, .string tag) :: members))) =
      some (tag, .object (Tree.ofMembers members)) := by
  have hrest : ∀ m ∈ Tree.ofMembers members, m.1 ≠ some tagKey := by
    intro m hm h
    rw [Tree.ofMembers_eq] at hm
    obtain ⟨m', hm', rfl⟩ := List.mem_map.mp hm
    exact hmembers (List.mem_map.mpr ⟨m', hm', Option.some.inj h⟩)
  have hpartition : ((some tagKey, Tree.string (some tag)) :: Tree.ofMembers members).partition
      (fun m => m.1 = some tagKey) =
      ([(some tagKey, Tree.string (some tag))], Tree.ofMembers members) := by
    rw [List.partition_eq_filter_filter, List.filter_cons_of_pos (by simp),
      List.filter_cons_of_neg (by simp), List.filter_eq_nil_iff.mpr (by simpa using hrest),
      List.filter_eq_self.mpr (by simpa using hrest)]
  have htagOf : tagOf tags mode (Tree.string (some tag)) = some tag := by
    cases mode <;> simp [tagOf, htag]
  unfold Reader.variant
  rw [if_pos (Mode.admits_ofJson hmode hdistinct)]
  simp only [Tree.ofJson, Tree.ofMembers, hpartition, htagOf, Option.map_some]

theorem carries_variant {tags : List String} {tag : String} {build : String × Tree → Option α}
    (htag : tag ∈ tags) (hnames : (tagKey :: names).Nodup)
    (hmembers : (Dict.keys members).Sublist names) (hregular : ∀ m ∈ members, m.2.Regular)
    (hbuild : ∀ body r, Record.ofVariant names body = some r → r.Holds members →
      build (tag, body) = some x) :
    Carries (fun mode t => (Reader.variant tags mode t).bind build)
      (.object ((tagKey, .string tag) :: members)) x := by
  obtain ⟨htagKey, hnodup⟩ := List.nodup_cons.mp hnames
  have hapart : tagKey ∉ Dict.keys members := fun h => htagKey (hmembers.subset h)
  have hwhole : (object ((tagKey, .string tag) :: members)).Regular := by
    refine regular_object.mpr ⟨List.nodup_cons.mpr ⟨hapart, hnodup.sublist hmembers⟩, ?_⟩
    exact List.forall_mem_cons.mpr ⟨(carries_string tag).regular, hregular⟩
  refine ⟨hwhole, fun mode hmode => ?_⟩
  have hbuffered : Mode.buffered.Fits (.object members) := trivial
  obtain ⟨r, hr, hholds⟩ := Record.holds_reader hnodup hmembers hbuffered
  rw [Reader.variant_ofJson htag hapart hwhole.distinct hmode]
  exact hbuild _ r hr hholds

end

/-! ## Texts -/

/-- What is carried is read back from its text, in either layout. -/
theorem Reader.parse?_text {value : Reader α} {j : Json} {x : α} (h : Carries value j x)
    (hdepth : j.depth ≤ nestingLimit) :
    value.parse? j.compact = some x ∧ value.parse? j.pretty = some x := by
  have hread : value (.direct nestingLimit) (Tree.ofJson j) = some x := h.read _ hdepth
  constructor
  · rw [Reader.parse?, compact, Tree.parse?_render compactLayout_addsBlanks h.regular.integral]
    exact hread
  · rw [Reader.parse?, pretty, Tree.parse?_render prettyLayout_addsBlanks h.regular.integral]
    exact hread

end

end Json

end CollectionSql
