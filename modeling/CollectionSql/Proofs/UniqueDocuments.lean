import CollectionSql.Proofs.ShortestDecimals
import CollectionSql.Schema.Document

/-!
# Different documents have different texts

The text of a value belongs to no other value, so a file that holds the text of a document says
which document was written. The nesting limit plays no part, and neither does the range of integers:
this is about writing, not about reading. Only an infinity or a NaN is excluded (`Finite`), which
JSON writes as `null`.

A part of a text is told apart together with what follows it. Strings and containers have ends of
their own. A number ends where the first character comes that no number has (`EndsNumber`), and
after a value there is always such a character or nothing at all. The first character of a value
shows its kind.

Results:
* `Number.text_injective`, `stringText_append_inj`: leaves.
* `render_append_inj`: values, before anything that may follow a value.
* `Document.text_injective`: different documents have different texts.
-/

namespace CollectionSql

/-! ## Numbers -/

/-- A number that has a text of its own: an integer, or neither an infinity nor a NaN. -/
def Number.IsFinite : Number → Prop
  | .integer _ => True
  | .float x => x.isFinite = true

namespace Json

/-- A character of a number. -/
def isNumeric (c : Char) : Bool := c.isDigit || c ∈ ['-', '+', '.', 'e']

theorem isNumeric_of_isDigit {c : Char} (h : c.isDigit) : isNumeric c := by
  rw [isNumeric, h, Bool.true_or]

theorem isNumeric_of_mem_digitsOf {n : Nat} {c : Char} (h : c ∈ digitsOf n) : isNumeric c :=
  isNumeric_of_isDigit (isDigit_of_mem_digitsOf h)

end Json

namespace Binary64

open Json (isNumeric isNumeric_of_mem_digitsOf)

theorem isNumeric_of_mem_plainText {ds : List Char} (hds : ∀ c ∈ ds, isNumeric c) (point : Int) :
    ∀ c ∈ plainText ds point, isNumeric c := by
  have hzeros : ∀ n, ∀ c ∈ List.replicate n '0', isNumeric c := by
    intro n c hc
    rw [List.eq_of_mem_replicate hc]
    rfl
  have hpoint : isNumeric '.' := rfl
  have hzero : isNumeric '0' := rfl
  intro c hc
  unfold plainText at hc
  simp only at hc
  split at hc
  · simp only [List.mem_cons, List.mem_append] at hc
    rcases hc with rfl | rfl | hc | hc
    · exact hzero
    · exact hpoint
    · exact hzeros _ c hc
    · exact hds c hc
  split at hc
  · simp only [List.mem_cons, List.mem_append] at hc
    rcases hc with hc | rfl | hc
    · exact hds c (List.mem_of_mem_take hc)
    · exact hpoint
    · exact hds c (List.mem_of_mem_drop hc)
  · simp only [List.mem_cons, List.mem_append, List.not_mem_nil, or_false] at hc
    rcases hc with (hc | hc) | rfl | rfl
    · exact hds c hc
    · exact hzeros _ c hc
    · exact hpoint
    · exact hzero

theorem isNumeric_of_mem_scientificText {ds : List Char} (hds : ∀ c ∈ ds, isNumeric c) (e : Int) :
    ∀ c ∈ scientificText ds e, isNumeric c := by
  have hsign : isNumeric (if e < 0 then '-' else '+') := by split <;> rfl
  have hexponent : ∀ c ∈ 'e' :: (if e < 0 then '-' else '+') :: digitsOf e.natAbs, isNumeric c :=
    List.forall_mem_cons.mpr ⟨rfl,
      List.forall_mem_cons.mpr ⟨hsign, fun c hc => isNumeric_of_mem_digitsOf hc⟩⟩
  refine List.forall_mem_append.mpr ⟨?_, hexponent⟩
  split
  · exact List.forall_mem_nil _
  · exact hds
  · obtain ⟨hd, hrest⟩ := List.forall_mem_cons.mp hds
    exact List.forall_mem_cons.mpr ⟨hd, List.forall_mem_cons.mpr ⟨rfl, hrest⟩⟩

theorem isNumeric_of_mem_text (x : Binary64) : ∀ c ∈ x.text, isNumeric c := by
  obtain ⟨magnitude, hwritten, htext⟩ := x.exists_written
  have hmagnitude : ∀ c ∈ magnitude, isNumeric c := by
    cases hwritten with
    | zero => exact List.all_eq_true.mp rfl
    | plain => exact isNumeric_of_mem_plainText (fun c hc => isNumeric_of_mem_digitsOf hc) _
    | scientific =>
      exact isNumeric_of_mem_scientificText (fun c hc => isNumeric_of_mem_digitsOf hc) _
  rw [htext]
  split
  · exact List.forall_mem_cons.mpr ⟨rfl, hmagnitude⟩
  · exact hmagnitude

end Binary64

theorem mem_integerText {n : Int} {c : Char} (hc : c ∈ integerText n) : c = '-' ∨ c.isDigit := by
  unfold integerText at hc
  split at hc
  · rcases List.mem_cons.mp hc with rfl | hc
    · exact .inl rfl
    · exact .inr (isDigit_of_mem_digitsOf hc)
  · exact .inr (isDigit_of_mem_digitsOf hc)

theorem integerText_injective {n n' : Int} (h : integerText n = integerText n') : n = n' := by
  have hfirst : ∀ {k : Nat} {cs : List Char}, digitsOf k ≠ '-' :: cs := by
    intro k cs hk
    have hdigit := isDigit_of_mem_digitsOf (hk ▸ List.mem_cons_self : '-' ∈ digitsOf k)
    cases hdigit
  have hdigits : ∀ {k k' : Nat}, digitsOf k = digitsOf k' → k = k' := by
    intro k k' hk
    rw [← Json.natOfDigits_digitsOf k, hk, Json.natOfDigits_digitsOf]
  unfold integerText at h
  split at h <;> split at h
  · have habs := hdigits (List.cons.inj h).2
    omega
  · exact absurd h.symm hfirst
  · exact absurd h hfirst
  · have habs := hdigits h
    omega

theorem integerText_ne_text (n : Int) (x : Binary64) : integerText n ≠ x.text := by
  intro h
  have hmem := x.point_or_exponent_mem_text
  rw [← h] at hmem
  rcases hmem with hmem | hmem <;> rcases mem_integerText hmem with hc | hc <;> cases hc

theorem Number.text_float {x : Binary64} (hx : (Number.float x).IsFinite) :
    (Number.float x).text = x.text := if_pos hx

/-- Different numbers have different texts. -/
theorem Number.text_injective {n n' : Number} (hn : n.IsFinite) (hn' : n'.IsFinite)
    (h : n.text = n'.text) : n = n' := by
  cases n with
  | integer i =>
    cases n' with
    | integer i' => exact congrArg Number.integer (integerText_injective h)
    | float x' =>
      rw [text_float hn'] at h
      exact absurd h (integerText_ne_text i x')
  | float x =>
    cases n' with
    | integer i' =>
      rw [text_float hn] at h
      exact absurd h.symm (integerText_ne_text i' x)
    | float x' =>
      rw [text_float hn, text_float hn'] at h
      exact congrArg Number.float (Binary64.text_injective hn hn' h)

theorem Number.isNumeric_of_mem_text {n : Number} (hn : n.IsFinite) :
    ∀ c ∈ n.text, Json.isNumeric c := by
  cases n with
  | integer i =>
    intro c hc
    rcases mem_integerText hc with rfl | hdigit
    · rfl
    · exact Json.isNumeric_of_isDigit hdigit
  | float x =>
    rw [text_float hn]
    exact x.isNumeric_of_mem_text

theorem Number.text_ne_nil {n : Number} (hn : n.IsFinite) : n.text ≠ [] := by
  cases n with
  | integer i =>
    rw [text, integerText]
    split
    · exact List.cons_ne_nil _ _
    · exact Nat.toDigits_ne_nil
  | float x =>
    rw [text_float hn]
    intro hnil
    have hmem := x.point_or_exponent_mem_text
    rw [hnil] at hmem
    rcases hmem with hmem | hmem <;> cases hmem

namespace Json

/-- All numbers of a value have texts of their own. -/
def Finite (j : Json) : Prop := ∀ n, .number n ∈ j.parts → n.IsFinite

theorem finite_number {n : Number} : (number n).Finite ↔ n.IsFinite := by
  simp [Finite, parts]

theorem finite_array {items : List Json} : (array items).Finite ↔ ∀ j ∈ items, j.Finite :=
  forall_number_array

theorem finite_object {members : List (String × Json)} :
    (object members).Finite ↔ ∀ m ∈ members, m.2.Finite :=
  forall_number_object

/-- A text that does not go on with a character of a number. -/
def EndsNumber (rest : List Char) : Prop := ∀ c, rest.head? = some c → isNumeric c = false

theorem endsNumber_nil : EndsNumber [] := fun _ h => nomatch h

theorem endsNumber_cons {c : Char} (hc : isNumeric c = false) (rest : List Char) :
    EndsNumber (c :: rest) := by
  intro d hd
  cases hd
  exact hc

theorem takeWhile_isNumeric {ds rest : List Char} (hds : ∀ c ∈ ds, isNumeric c)
    (hrest : EndsNumber rest) : (ds ++ rest).takeWhile isNumeric = ds := by
  have hstop : rest.takeWhile isNumeric = [] := by
    cases rest with
    | nil => rfl
    | cons c cs => rw [List.takeWhile_cons, hrest c rfl, if_neg Bool.false_ne_true]
  rw [List.takeWhile_append_of_pos hds, hstop, List.append_nil]

theorem number_append_inj {n n' : Number} (hn : n.IsFinite) (hn' : n'.IsFinite)
    {rest rest' : List Char} (hrest : EndsNumber rest) (hrest' : EndsNumber rest')
    (h : n.text ++ rest = n'.text ++ rest') : n = n' ∧ rest = rest' := by
  have htext : n.text = n'.text := by
    rw [← takeWhile_isNumeric (Number.isNumeric_of_mem_text hn) hrest, h,
      takeWhile_isNumeric (Number.isNumeric_of_mem_text hn') hrest']
  rw [htext] at h
  exact ⟨Number.text_injective hn hn' htext, List.append_cancel_left h⟩

/-! ## Strings -/

theorem stringText_append_inj {s s' : String} {rest rest' : List Char}
    (h : stringText s ++ rest = stringText s' ++ rest') : s = s' ∧ rest = rest' := by
  have hscan : ∀ (t : String) cs, stringText t ++ cs =
      '"' :: (t.toList.flatMap escaped ++ '"' :: cs) := by
    intro t cs
    simp [stringText]
  rw [hscan, hscan] at h
  have hread := congrArg scanString (List.cons.inj h).2
  rw [scanString_flatMap, scanString_flatMap] at hread
  obtain ⟨hunits, hrest⟩ := Prod.mk.inj (Option.some.inj hread)
  have hchars := congrArg charsOfUnits hunits
  rw [charsOfUnits_map, charsOfUnits_map] at hchars
  exact ⟨String.toList_injective (Option.some.inj hchars), hrest⟩

/-! ## Values -/

/-- The kind of a value, as its first character shows it. -/
inductive Kind where
  | null
  | bool (value : Bool)
  | number
  | string
  | array
  | object

/-- The kind of a value. -/
def kind : Json → Kind
  | .null => .null
  | .bool b => .bool b
  | .number _ => .number
  | .string _ => .string
  | .array _ => .array
  | .object _ => .object

/-- The kind of value that begins with a character. -/
def Kind.ofChar? (c : Char) : Option Kind :=
  if c = 'n' then some .null
  else if c = 't' then some (.bool true)
  else if c = 'f' then some (.bool false)
  else if c = '"' then some .string
  else if c = '[' then some .array
  else if c = '{' then some .object
  else if isNumeric c then some .number
  else none

theorem Kind.ofChar?_of_isNumeric {c : Char} (hc : isNumeric c) :
    Kind.ofChar? c = some .number := by
  have hne : ∀ d, isNumeric d = false → c ≠ d := by
    rintro d hd rfl
    rw [hd] at hc
    cases hc
  rw [ofChar?, if_neg (hne 'n' rfl), if_neg (hne 't' rfl), if_neg (hne 'f' rfl),
    if_neg (hne '"' rfl), if_neg (hne '[' rfl), if_neg (hne '{' rfl), if_pos hc]

section

variable {l : Layout}

/-- The first character of a value shows its kind. -/
theorem exists_render_eq_cons (depth : Nat) {j : Json} (hj : j.Finite) :
    ∃ c cs, render l depth j = c :: cs ∧ Kind.ofChar? c = some j.kind := by
  cases j with
  | null => exact ⟨_, _, rfl, rfl⟩
  | bool b => cases b <;> exact ⟨_, _, rfl, rfl⟩
  | number n =>
    have hn := finite_number.mp hj
    obtain ⟨c, cs, hcs⟩ := List.exists_cons_of_ne_nil (Number.text_ne_nil hn)
    refine ⟨c, cs, hcs, Kind.ofChar?_of_isNumeric ?_⟩
    exact Number.isNumeric_of_mem_text hn c (hcs ▸ List.mem_cons_self)
  | string s => exact ⟨_, _, rfl, rfl⟩
  | array items => cases items <;> exact ⟨_, _, rfl, rfl⟩
  | object members =>
    match members with
    | [] => exact ⟨_, _, rfl, rfl⟩
    | (_, _) :: _ => exact ⟨_, _, rfl, rfl⟩

theorem kind_eq_of_append_eq {depth : Nat} {j j' : Json} (hj : j.Finite) (hj' : j'.Finite)
    {rest rest' : List Char} (h : render l depth j ++ rest = render l depth j' ++ rest') :
    j.kind = j'.kind := by
  obtain ⟨c, cs, hcs, hc⟩ := exists_render_eq_cons (l := l) depth hj
  obtain ⟨c', cs', hcs', hc'⟩ := exists_render_eq_cons (l := l) depth hj'
  rw [hcs, hcs'] at h
  rw [(List.cons.inj h).1, hc'] at hc
  exact (Option.some.inj hc).symm

/-- A text of blanks before a character does not begin with another one. -/
theorem blanks_append_ne {bs : List Char} (hbs : IsBlankText bs) {c d : Char} (hcd : c ≠ d)
    (hd : isBlank d = false) (cs ds : List Char) : bs ++ c :: cs ≠ d :: ds := by
  intro h
  cases bs with
  | nil => exact hcd (List.cons.inj h).1
  | cons b bs =>
    have hb := (List.forall_mem_cons.mp hbs).1
    rw [(List.cons.inj h).1, hd] at hb
    cases hb

/-- What may follow the items of a container: no comma, and nothing that goes on a number. -/
structure EndsItems (rest : List Char) : Prop where
  number : EndsNumber rest
  comma : ∀ cs, rest ≠ ',' :: cs

/-- The end of a container, on a line of its own or not. -/
theorem endsItems_blanks {bs : List Char} (hbs : IsBlankText bs) {c : Char}
    (hc : isNumeric c = false) (hcomma : c ≠ ',') (rest : List Char) :
    EndsItems (bs ++ c :: rest) := by
  refine ⟨?_, blanks_append_ne hbs hcomma rfl rest⟩
  cases bs with
  | nil => exact endsNumber_cons hc rest
  | cons b bs =>
    have hb := (List.forall_mem_cons.mp hbs).1
    simp only [isBlank, Bool.or_eq_true, beq_iff_eq] at hb
    rcases hb with ((rfl | rfl) | rfl) | rfl <;> exact endsNumber_cons rfl _

theorem endsNumber_renderItems (depth : Nat) (xs : List Json) {rest : List Char}
    (hrest : EndsNumber rest) : EndsNumber (renderItems l depth xs ++ rest) := by
  cases xs with
  | nil => exact hrest
  | cons x xs => exact endsNumber_cons rfl _

theorem endsNumber_renderMembers (depth : Nat) (ms : List (String × Json)) {rest : List Char}
    (hrest : EndsNumber rest) : EndsNumber (renderMembers l depth ms ++ rest) := by
  cases ms with
  | nil => exact hrest
  | cons m ms => exact endsNumber_cons rfl _

/-- A value whose text tells it from every other value, at any depth and before anything that may
follow. -/
def ToldApart (l : Layout) (j : Json) : Prop :=
  ∀ j' : Json, j'.Finite → ∀ depth rest rest', EndsNumber rest → EndsNumber rest' →
    render l depth j ++ rest = render l depth j' ++ rest' → j = j' ∧ rest = rest'

theorem renderItems_append_inj {xs : List Json} (hxs : ∀ j ∈ xs, ToldApart l j) {ys : List Json}
    (hys : ∀ j ∈ ys, j.Finite) {depth : Nat} {rest rest' : List Char} (hrest : EndsItems rest)
    (hrest' : EndsItems rest')
    (h : renderItems l depth xs ++ rest = renderItems l depth ys ++ rest') :
    xs = ys ∧ rest = rest' := by
  induction xs generalizing ys with
  | nil =>
    cases ys with
    | nil => exact ⟨rfl, h⟩
    | cons y ys => exact absurd h (hrest.comma _)
  | cons x xs ih =>
    cases ys with
    | nil => exact absurd h.symm (hrest'.comma _)
    | cons y ys =>
      obtain ⟨hx, hxs⟩ := List.forall_mem_cons.mp hxs
      obtain ⟨hy, hys⟩ := List.forall_mem_cons.mp hys
      simp only [renderItems, List.cons_append, List.append_assoc, List.cons.injEq, true_and] at h
      obtain ⟨hxy, hnext⟩ := hx y hy depth _ _ (endsNumber_renderItems depth xs hrest.number)
        (endsNumber_renderItems depth ys hrest'.number) (List.append_cancel_left h)
      obtain ⟨hitems, hrests⟩ := ih hxs hys hnext
      exact ⟨by rw [hxy, hitems], hrests⟩

/-- A key, its colon and its value. -/
theorem member_append_inj {v v' : Json} (hv : ToldApart l v) (hv' : v'.Finite) {k k' : String}
    {depth : Nat} {rest rest' : List Char} (hrest : EndsNumber rest) (hrest' : EndsNumber rest')
    (h : stringText k ++ ':' :: (l.afterColon ++ (render l depth v ++ rest)) =
      stringText k' ++ ':' :: (l.afterColon ++ (render l depth v' ++ rest'))) :
    (k, v) = (k', v') ∧ rest = rest' := by
  obtain ⟨hkey, hcolon⟩ := stringText_append_inj h
  obtain ⟨hvalue, hrests⟩ :=
    hv v' hv' depth _ _ hrest hrest' (List.append_cancel_left (List.cons.inj hcolon).2)
  exact ⟨by rw [hkey, hvalue], hrests⟩

theorem renderMembers_append_inj {ms : List (String × Json)} (hms : ∀ m ∈ ms, ToldApart l m.2)
    {ns : List (String × Json)} (hns : ∀ m ∈ ns, m.2.Finite) {depth : Nat}
    {rest rest' : List Char} (hrest : EndsItems rest) (hrest' : EndsItems rest')
    (h : renderMembers l depth ms ++ rest = renderMembers l depth ns ++ rest') :
    ms = ns ∧ rest = rest' := by
  induction ms generalizing ns with
  | nil =>
    cases ns with
    | nil => exact ⟨rfl, h⟩
    | cons n ns => exact absurd h (hrest.comma _)
  | cons m ms ih =>
    cases ns with
    | nil => exact absurd h.symm (hrest'.comma _)
    | cons n ns =>
      obtain ⟨k, v⟩ := m
      obtain ⟨k', v'⟩ := n
      obtain ⟨hm, hms⟩ := List.forall_mem_cons.mp hms
      obtain ⟨hn, hns⟩ := List.forall_mem_cons.mp hns
      simp only [renderMembers, List.cons_append, List.append_assoc, List.cons.injEq, true_and] at h
      obtain ⟨hmember, hnext⟩ := member_append_inj hm hn
        (endsNumber_renderMembers depth ms hrest.number)
        (endsNumber_renderMembers depth ns hrest'.number) (List.append_cancel_left h)
      obtain ⟨hmembers, hrests⟩ := ih hms hns hnext
      exact ⟨by rw [hmember, hmembers], hrests⟩

/-- Arrays, from their items. -/
theorem array_append_inj (hl : l.AddsBlanks) {items items' : List Json}
    (htold : ∀ x ∈ items, ToldApart l x) (hitems : ∀ x ∈ items, x.Finite)
    (hitems' : ∀ x ∈ items', x.Finite) {depth : Nat} {rest rest' : List Char}
    (h : render l depth (.array items) ++ rest = render l depth (.array items') ++ rest') :
    items = items' ∧ rest = rest' := by
  have hclose := fun cs => endsItems_blanks (hl.lineStart depth) (c := ']') rfl (by decide) cs
  -- an item does not begin with the end of the array
  have hopen : ∀ (x : Json) cs ds, x.Finite →
      l.lineStart (depth + 1) ++ (render l (depth + 1) x ++ cs) ≠ ']' :: ds := by
    intro x cs ds hx
    obtain ⟨c, tail, htail, hc⟩ := exists_render_eq_cons (l := l) (depth + 1) hx
    rw [htail]
    refine blanks_append_ne (hl.lineStart _) ?_ rfl _ ds
    rintro rfl
    cases hc
  match items, items' with
  | [], [] => exact ⟨rfl, List.append_cancel_left h⟩
  | [], y :: ys =>
    simp only [render, List.cons_append, List.append_assoc, List.nil_append, List.cons.injEq,
      true_and] at h
    exact absurd h.symm (hopen y _ _ (hitems' y List.mem_cons_self))
  | x :: xs, [] =>
    simp only [render, List.cons_append, List.append_assoc, List.nil_append, List.cons.injEq,
      true_and] at h
    exact absurd h (hopen x _ _ (hitems x List.mem_cons_self))
  | x :: xs, y :: ys =>
    obtain ⟨hx, hxs⟩ := List.forall_mem_cons.mp htold
    obtain ⟨hy, hys⟩ := List.forall_mem_cons.mp hitems'
    simp only [render, List.cons_append, List.append_assoc, List.nil_append, List.cons.injEq,
      true_and] at h
    obtain ⟨hxy, hnext⟩ := hx y hy _ _ _ (endsNumber_renderItems _ xs (hclose rest).number)
      (endsNumber_renderItems _ ys (hclose rest').number) (List.append_cancel_left h)
    obtain ⟨htail, hend⟩ := renderItems_append_inj hxs hys (hclose rest) (hclose rest') hnext
    exact ⟨by rw [hxy, htail], (List.cons.inj (List.append_cancel_left hend)).2⟩

/-- Objects, from their members. -/
theorem object_append_inj (hl : l.AddsBlanks) {members members' : List (String × Json)}
    (htold : ∀ m ∈ members, ToldApart l m.2) (hmembers' : ∀ m ∈ members', m.2.Finite)
    {depth : Nat} {rest rest' : List Char}
    (h : render l depth (.object members) ++ rest = render l depth (.object members') ++ rest') :
    members = members' ∧ rest = rest' := by
  have hclose := fun cs => endsItems_blanks (hl.lineStart depth) (c := '}') rfl (by decide) cs
  -- a member begins with the quote of its key
  have hopen : ∀ (k : String) cs ds,
      l.lineStart (depth + 1) ++ (stringText k ++ cs) ≠ '}' :: ds :=
    fun k cs ds => blanks_append_ne (hl.lineStart _) (by decide) rfl _ ds
  match members, members' with
  | [], [] => exact ⟨rfl, List.append_cancel_left h⟩
  | [], (k', v') :: ns =>
    simp only [render, List.cons_append, List.append_assoc, List.nil_append, List.cons.injEq,
      true_and] at h
    exact absurd h.symm (hopen k' _ _)
  | (k, v) :: ms, [] =>
    simp only [render, List.cons_append, List.append_assoc, List.nil_append, List.cons.injEq,
      true_and] at h
    exact absurd h (hopen k _ _)
  | (k, v) :: ms, (k', v') :: ns =>
    obtain ⟨hm, hms⟩ := List.forall_mem_cons.mp htold
    obtain ⟨hn, hns⟩ := List.forall_mem_cons.mp hmembers'
    simp only [render, List.cons_append, List.append_assoc, List.nil_append, List.cons.injEq,
      true_and] at h
    obtain ⟨hmember, hnext⟩ := member_append_inj hm hn
      (endsNumber_renderMembers _ ms (hclose rest).number)
      (endsNumber_renderMembers _ ns (hclose rest').number) (List.append_cancel_left h)
    obtain ⟨htail, hend⟩ := renderMembers_append_inj hms hns (hclose rest) (hclose rest') hnext
    exact ⟨by rw [hmember, htail], (List.cons.inj (List.append_cancel_left hend)).2⟩

/-- A printed value is told apart from every other. -/
theorem render_append_inj (hl : l.AddsBlanks) {j : Json} (hj : j.Finite) : ToldApart l j := by
  induction j using Json.induction with
  | null | bool =>
    intro j' hj' depth rest rest' hrest hrest' h
    have hkind := kind_eq_of_append_eq hj hj' h
    cases j' <;> cases hkind
    exact ⟨rfl, List.append_cancel_left h⟩
  | number n =>
    intro j' hj' depth rest rest' hrest hrest' h
    have hkind := kind_eq_of_append_eq hj hj' h
    cases j' <;> cases hkind
    have hnumber := number_append_inj (finite_number.mp hj) (finite_number.mp hj') hrest hrest' h
    exact ⟨congrArg Json.number hnumber.1, hnumber.2⟩
  | string s =>
    intro j' hj' depth rest rest' hrest hrest' h
    have hkind := kind_eq_of_append_eq hj hj' h
    cases j' <;> cases hkind
    have hstring := stringText_append_inj h
    exact ⟨congrArg Json.string hstring.1, hstring.2⟩
  | array items ih =>
    intro j' hj' depth rest rest' hrest hrest' h
    have hkind := kind_eq_of_append_eq hj hj' h
    cases j' <;> cases hkind
    have hitems := finite_array.mp hj
    have harray := array_append_inj hl (fun x hx => ih x hx (hitems x hx)) hitems
      (finite_array.mp hj') h
    exact ⟨congrArg Json.array harray.1, harray.2⟩
  | object members ih =>
    intro j' hj' depth rest rest' hrest hrest' h
    have hkind := kind_eq_of_append_eq hj hj' h
    cases j' <;> cases hkind
    have hmembers := finite_object.mp hj
    have hobject := object_append_inj hl (fun m hm => ih m hm (hmembers m hm))
      (finite_object.mp hj') h
    exact ⟨congrArg Json.object hobject.1, hobject.2⟩

end

/-- Different values have different texts. -/
theorem pretty_injective {j j' : Json} (hj : j.Finite) (hj' : j'.Finite)
    (h : j.pretty = j'.pretty) : j = j' := by
  have hrender : render prettyLayout 0 j ++ [] = render prettyLayout 0 j' ++ [] := by
    rw [List.append_nil, List.append_nil]
    exact String.ofList_injective h
  exact (render_append_inj prettyLayout_addsBlanks hj j' hj' 0 [] [] endsNumber_nil endsNumber_nil
    hrender).1

/-! ## Documents -/

theorem ofStrings_injective : Function.Injective ofStrings := by
  intro xs ys h
  exact List.map_injective_iff.mpr (fun _ _ => Json.string.inj) (Json.array.inj h)

/-- Dictionaries are told apart by their forms if their values are. -/
theorem entries_injective {α : Type} {f : α → Json} (hf : Function.Injective f) :
    Function.Injective fun d : Dict α => Json.object (d.map fun e => (e.1, f e.2)) := by
  intro d d' h
  refine List.map_injective_iff.mpr ?_ (Json.object.inj h)
  rintro ⟨k, x⟩ ⟨k', x'⟩ he
  obtain ⟨hk, hx⟩ := Prod.mk.inj he
  exact Prod.ext hk (hf hx)

end Json

open Json (ofStrings_injective entries_injective)

theorem ForeignKeyDetails.toJson_injective : Function.Injective ForeignKeyDetails.toJson := by
  rintro ⟨table, column⟩ ⟨table', column'⟩ h
  simp only [toJson, Json.object.injEq, List.cons.injEq, Prod.mk.injEq, true_and, and_true,
    Json.string.injEq] at h
  obtain ⟨rfl, rfl⟩ := h
  rfl

theorem FieldDetails.toJson_injective : Function.Injective FieldDetails.toJson := by
  rintro ⟨names, types, primary, unique, nullable, foreign⟩
    ⟨names', types', primary', unique', nullable', foreign'⟩ h
  simp only [toJson, Json.object.injEq, List.cons.injEq, Prod.mk.injEq, true_and, and_true] at h
  obtain ⟨hnames, htypes, hprimary, hunique, hnullable, hforeign⟩ := h
  have htypes := entries_injective (fun _ _ => Json.string.inj) htypes
  have hforeign :=
    entries_injective ForeignKeyDetails.toJson_injective (congrArg Json.object hforeign)
  rw [ofStrings_injective hnames, htypes, ofStrings_injective hprimary,
    ofStrings_injective hunique, ofStrings_injective hnullable, hforeign]

theorem Configuration.toJson_injective : Function.Injective Configuration.toJson := by
  rintro ⟨names, types, fields⟩ ⟨names', types', fields'⟩ h
  -- object types are left out when there are none, which the number of members shows
  have hparts : Json.ofStrings names = Json.ofStrings names' ∧ types = types' ∧
      fields.map (fun e => (e.1, e.2.toJson)) = fields'.map (fun e => (e.1, e.2.toJson)) := by
    by_cases htypes : types = [] <;> by_cases htypes' : types' = [] <;>
      simp_all [toJson]
  obtain ⟨hnames, htypes, hfields⟩ := hparts
  have hfields := entries_injective FieldDetails.toJson_injective (congrArg Json.object hfields)
  rw [ofStrings_injective hnames, htypes, hfields]

theorem Document.toJson_injective : Function.Injective Document.toJson := by
  rintro ⟨config⟩ ⟨config'⟩ h
  cases config with
  | none =>
    cases config' with
    | none => rfl
    | some c' => cases h
  | some c =>
    cases config' with
    | none => cases h
    | some c' =>
      simp only [toJson, Json.object.injEq, List.cons.injEq, Prod.mk.injEq, true_and,
        and_true] at h
      rw [Configuration.toJson_injective h]

/-- Different documents have different texts. -/
theorem Document.text_injective {d d' : Document} (hd : d.toJson.Finite) (hd' : d'.toJson.Finite)
    (h : d.text = d'.text) : d = d' :=
  Document.toJson_injective (Json.pretty_injective hd hd' h)

end CollectionSql
