import CollectionSql.Proofs.Printing

/-!
# Telling printed parts apart

A part of a statement can be read off a text that begins with it, if what follows it cannot be taken
for more of the part: no quote follows a name, no digit a number, and no separator a list. Each
lemma here says so of two texts that begin with a printed part each: if the texts are equal, then so
are the parts, and so is the rest.

Results:
* `separated_append_inj`: lists, from their items.
* `Column.append_inj`, `Join.append_inj`, `joins_append_inj`: columns and joins.
* `Limit.append_inj`, `listClause_append_inj`: the clauses after the filter.
-/

namespace CollectionSql.Sql

/-! ## What follows a part -/

/-- A text that does not go on an identifier before it. -/
def Apart (t : List Char) : Prop := t.head? ≠ some identifierQuote

/-- A word that does not begin with a quote. -/
def Bare (q : Char) (v : String) : Prop := v.toList ≠ [] ∧ v.toList.head? ≠ some q

instance (q : Char) (v : String) : Decidable (Bare q v) := inferInstanceAs (Decidable (_ ∧ _))

theorem Bare.head?_append_ne {q : Char} {v : String} (hv : Bare q v) (u : List Char) :
    (v.toList ++ u).head? ≠ some q := by
  rw [List.head?_append_of_ne_nil _ hv.1]
  exact hv.2

/-- Two parts that their texts tell apart: where texts that begin with them are equal, the parts are
equal in what `g` keeps of them, and the rests are equal. -/
def ToldApart {α β : Type} (item : α → List Piece) (g : α → β) (x x' : α) : Prop :=
  ∀ t t', Apart t → Apart t' → render (item x) ++ t = render (item x') ++ t' → g x = g x' ∧ t = t'

/-- A text that begins with one of the words. -/
def Begins (words : List String) (t : List Char) : Prop := ∃ v ∈ words, v.toList <+: t

theorem begins_append {words : List String} {v : String} (hv : v ∈ words) (t : List Char) :
    Begins words (v.toList ++ t) := ⟨v, hv, List.prefix_append _ _⟩

theorem Begins.mono {words more : List String} (hsub : words ⊆ more) {t : List Char}
    (h : Begins words t) : Begins more t := by
  obtain ⟨v, hv, hprefix⟩ := h
  exact ⟨v, hsub hv, hprefix⟩

/-- A text does not begin with a word that none of its possible beginnings agrees with. -/
theorem Begins.append_ne {words : List String} {t : List Char} (h : Begins words t) {w : String}
    (hw : ∀ v ∈ words, ¬v.toList <+: w.toList ∧ ¬w.toList <+: v.toList) (u : List Char) :
    w.toList ++ u ≠ t := by
  rintro rfl
  obtain ⟨v, hv, hprefix⟩ := h
  rcases List.prefix_or_prefix_of_prefix hprefix (List.prefix_append _ _) with h | h
  · exact (hw v hv).1 h
  · exact (hw v hv).2 h

theorem Begins.head?_eq {words : List String} {t : List Char} (h : Begins words t)
    (hne : ∀ v ∈ words, v.toList ≠ []) : ∃ v ∈ words, t.head? = v.toList.head? := by
  obtain ⟨v, hv, u, rfl⟩ := h
  exact ⟨v, hv, List.head?_append_of_ne_nil _ (hne v hv)⟩

theorem Begins.apart {words : List String} {t : List Char} (h : Begins words t)
    (hwords : ∀ v ∈ words, Bare identifierQuote v) : Apart t := by
  obtain ⟨v, hv, hhead⟩ := h.head?_eq fun v hv => (hwords v hv).1
  rw [Apart, hhead]
  exact (hwords v hv).2

/-- The words that can follow the limit of a SELECT that stands between parentheses. -/
def afterLimit : List String := [")"]

/-- The words that can follow its ordering. -/
def afterOrders : List String := " LIMIT " :: afterLimit

/-- The words that can follow its grouping keys. -/
def afterKeys : List String := " ORDER BY " :: afterOrders

/-- The words that can follow its filter. -/
def afterFilter : List String := " GROUP BY " :: afterKeys

/-- The words that can follow its joins. -/
def afterJoins : List String := " WHERE " :: afterFilter

/-- The words between the items of lists. -/
def separators : List String := [", ", " AND ", " OR "]

/-! ## Lists -/

section Lists

variable {α β : Type} {g : α → β} {t t' : List Char}

theorem apart_flatMap {item : α → List Piece} (hnext : ∀ x u, Apart (render (item x) ++ u))
    (xs : List α) (ht : Apart t) : Apart (render (xs.flatMap item) ++ t) := by
  cases xs with
  | nil => exact ht
  | cons x xs =>
    rw [List.flatMap_cons, render_append, List.append_assoc]
    exact hnext x _

/-- Items one after the other are told apart if each item is, and the text after them is not taken
for another item. -/
theorem flatMap_append_inj {item : α → List Piece} {xs xs' : List α}
    (hitem : ∀ x ∈ xs, ∀ x' ∈ xs', ToldApart item g x x')
    (hnext : ∀ x u, Apart (render (item x) ++ u)) (ht : Apart t) (ht' : Apart t')
    (hend : ∀ x u, render (item x) ++ u ≠ t) (hend' : ∀ x u, render (item x) ++ u ≠ t')
    (h : render (xs.flatMap item) ++ t = render (xs'.flatMap item) ++ t') :
    xs.map g = xs'.map g ∧ t = t' := by
  induction xs generalizing xs' with
  | nil =>
    cases xs' with
    | nil => exact ⟨rfl, h⟩
    | cons x' xs' =>
      rw [List.flatMap_cons, render_append, List.append_assoc] at h
      exact absurd h.symm (hend x' _)
  | cons x xs ih =>
    cases xs' with
    | nil =>
      rw [List.flatMap_cons, render_append, List.append_assoc] at h
      exact absurd h (hend' x _)
    | cons x' xs' =>
      simp only [List.flatMap_cons, render_append, List.append_assoc] at h
      obtain ⟨hx, h⟩ := hitem x List.mem_cons_self x' List.mem_cons_self _ _
        (apart_flatMap hnext xs ht) (apart_flatMap hnext xs' ht') h
      obtain ⟨hxs, htt⟩ := ih (fun y hy y' hy' => hitem y (List.mem_cons_of_mem _ hy) y'
        (List.mem_cons_of_mem _ hy')) h
      rw [List.map_cons, List.map_cons, hx, hxs]
      exact ⟨rfl, htt⟩

theorem separator_eq {separator separator' : String} (hsep : separator ∈ separators)
    (hsep' : separator' ∈ separators) {u u' : List Char}
    (h : separator.toList ++ u = separator'.toList ++ u') : separator = separator' := by
  have hdiffer : ∀ v ∈ separators, ∀ w ∈ separators, v ≠ w →
      ¬v.toList <+: w.toList ∧ ¬w.toList <+: v.toList := by decide
  by_contra hne
  have hbegins : Begins [separator'] (separator'.toList ++ u') :=
    begins_append List.mem_cons_self u'
  refine hbegins.append_ne ?_ u h
  intro v hv
  rw [List.mem_singleton.mp hv]
  exact hdiffer separator' hsep' separator hsep (Ne.symm hne)

/-- Items with separators between them are told apart if each item is. Separators are told apart if
there are at least two items. -/
theorem separated_append_inj {separator separator' : String} (hsep : separator ∈ separators)
    (hsep' : separator' ∈ separators) {item : α → List Piece} {x x' : α} {xs xs' : List α}
    (hitem : ∀ y ∈ x :: xs, ∀ y' ∈ x' :: xs', ToldApart item g y y')
    (ht : Begins afterJoins t) (ht' : Begins afterJoins t')
    (h : render (separated separator item (x :: xs)) ++ t =
      render (separated separator' item (x' :: xs')) ++ t') :
    (x :: xs).map g = (x' :: xs').map g ∧ t = t' ∧ (xs ≠ [] → separator = separator') := by
  have hnext : ∀ {v : String}, v ∈ separators → ∀ y u,
      Apart (render (.word v :: item y) ++ u) := by
    intro v hv y u
    rw [render_cons, List.append_assoc]
    exact (begins_append hv _).apart (by decide)
  have hend : ∀ {v : String}, v ∈ separators → ∀ {w}, Begins afterJoins w →
      ∀ y u, render (.word v :: item y) ++ u ≠ w := by
    intro v hv w hw y u
    have hdiffer : ∀ v ∈ separators, ∀ w ∈ afterJoins,
        ¬w.toList <+: v.toList ∧ ¬v.toList <+: w.toList := by decide
    rw [render_cons, List.append_assoc]
    exact hw.append_ne (hdiffer v hv) _
  have htapart := ht.apart (by decide)
  have htapart' := ht'.apart (by decide)
  simp only [separated, render_append, List.append_assoc] at h
  obtain ⟨hx, h⟩ := hitem x List.mem_cons_self x' List.mem_cons_self _ _
    (apart_flatMap (hnext hsep) xs htapart) (apart_flatMap (hnext hsep') xs' htapart') h
  rw [List.map_cons, List.map_cons, hx]
  cases xs with
  | nil =>
    cases xs' with
    | nil => exact ⟨rfl, h, fun hne => absurd rfl hne⟩
    | cons y' ys' =>
      rw [List.flatMap_cons, render_append, List.append_assoc] at h
      exact absurd h.symm (hend hsep' ht y' _)
  | cons y ys =>
    cases xs' with
    | nil =>
      rw [List.flatMap_cons, render_append, List.append_assoc] at h
      exact absurd h (hend hsep ht' y _)
    | cons y' ys' =>
      have hsame : separator = separator' := by
        have hfirst := h
        simp only [List.flatMap_cons, List.cons_append, render_cons, Piece.text,
          List.append_assoc] at hfirst
        exact separator_eq hsep hsep' hfirst
      subst hsame
      have hrest := flatMap_append_inj (g := g) ?_ (hnext hsep) htapart htapart' (hend hsep ht)
        (hend hsep ht') h
      · rw [hrest.1]
        exact ⟨rfl, hrest.2, fun _ => rfl⟩
      · intro z hz z' hz' u u' hu hu' heq
        rw [render_cons, render_cons, List.append_assoc, List.append_assoc] at heq
        exact hitem z (List.mem_cons_of_mem _ hz) z' (List.mem_cons_of_mem _ hz') u u' hu hu'
          (List.append_cancel_left heq)

end Lists

/-! ## Columns and joins -/

section Parts

variable {t t' : List Char}

theorem name_append_inj {q : Char} {v : String} (hv : Bare q v) {name name' : String}
    (h : quoted q name ++ (v.toList ++ t) = quoted q name' ++ (v.toList ++ t')) :
    name = name' ∧ t = t' := by
  obtain ⟨hname, h⟩ := quoted_append_inj (hv.head?_append_ne t) (hv.head?_append_ne t') h
  exact ⟨hname, List.append_cancel_left h⟩

theorem Column.append_inj {c c' : Column} (ht : Apart t) (ht' : Apart t')
    (h : render c.pieces ++ t = render c'.pieces ++ t') : c = c' ∧ t = t' := by
  obtain ⟨table, column⟩ := c
  obtain ⟨table', column'⟩ := c'
  simp only [Column.pieces, render_cons, render_nil, Piece.text, List.append_assoc,
    List.nil_append] at h
  obtain ⟨htable, h⟩ := name_append_inj (by decide) h
  obtain ⟨hcolumn, h⟩ := quoted_append_inj ht ht' h
  rw [htable, hcolumn]
  exact ⟨rfl, h⟩

theorem Join.append_inj {j j' : Join} (ht : Apart t) (ht' : Apart t')
    (h : render j.pieces ++ t = render j'.pieces ++ t') : j = j' ∧ t = t' := by
  obtain ⟨table, label, lhs, rhs⟩ := j
  obtain ⟨table', label', lhs', rhs'⟩ := j'
  have hword : Bare identifierQuote " = " := by decide
  simp only [Join.pieces, render_append, render_cons, render_nil, Piece.text, List.append_assoc,
    List.nil_append] at h
  obtain ⟨htable, h⟩ := name_append_inj (by decide) (List.append_cancel_left h)
  obtain ⟨hlabel, h⟩ := name_append_inj (by decide) h
  obtain ⟨hlhs, h⟩ := Column.append_inj (hword.head?_append_ne _) (hword.head?_append_ne _) h
  obtain ⟨hrhs, h⟩ := Column.append_inj ht ht' (List.append_cancel_left h)
  rw [htable, hlabel, hlhs, hrhs]
  exact ⟨rfl, h⟩

theorem Join.render_pieces (j : Join) : ∃ u, render j.pieces = " JOIN ".toList ++ u := by
  simp only [Join.pieces, render_append, render_cons, Piece.text, List.append_assoc]
  exact ⟨_, rfl⟩

theorem begins_joins (joins : List Join) (ht : Begins afterJoins t) :
    Begins (" JOIN " :: afterJoins) (render (joins.flatMap Join.pieces) ++ t) := by
  cases joins with
  | nil => exact ht.mono (List.subset_cons_self _ _)
  | cons j joins =>
    obtain ⟨u, hu⟩ := j.render_pieces
    rw [List.flatMap_cons, render_append, hu, List.append_assoc, List.append_assoc]
    exact begins_append List.mem_cons_self _

theorem joins_append_inj {joins joins' : List Join} (ht : Begins afterJoins t)
    (ht' : Begins afterJoins t')
    (h : render (joins.flatMap Join.pieces) ++ t = render (joins'.flatMap Join.pieces) ++ t') :
    joins = joins' ∧ t = t' := by
  have hend : ∀ {w}, Begins afterJoins w → ∀ (j : Join) (u : List Char),
      render j.pieces ++ u ≠ w := by
    intro w hw j u
    obtain ⟨u', hu'⟩ := j.render_pieces
    rw [hu', List.append_assoc]
    exact hw.append_ne (by decide) _
  have hnext : ∀ (j : Join) (u : List Char), Apart (render j.pieces ++ u) := by
    intro j u
    obtain ⟨u', hu'⟩ := j.render_pieces
    rw [hu', List.append_assoc]
    exact Bare.head?_append_ne (by decide) _
  obtain ⟨hjoins, htt⟩ := flatMap_append_inj (g := id)
    (fun j _ j' _ _ _ hu hu' heq => Join.append_inj hu hu' heq) hnext
    (ht.apart (by decide)) (ht'.apart (by decide)) (hend ht) (hend ht') h
  rw [List.map_id, List.map_id] at hjoins
  exact ⟨hjoins, htt⟩

/-! ## Numbers and the last clauses -/

/-- A run of characters of a class is told apart from a text that does not go on with one. -/
theorem run_append_inj {p : Char → Bool} {run run' : List Char} (hrun : ∀ c ∈ run, p c)
    (hrun' : ∀ c ∈ run', p c) (ht : ∀ c ∈ t.head?, ¬p c) (ht' : ∀ c ∈ t'.head?, ¬p c)
    (h : run ++ t = run' ++ t') : run = run' ∧ t = t' := by
  have htake : ∀ {r u : List Char}, (∀ c ∈ r, p c) → (∀ c ∈ u.head?, ¬p c) →
      (r ++ u).takeWhile p = r := by
    intro r u hr hu
    rw [List.takeWhile_append_of_pos hr]
    cases u with
    | nil => simp
    | cons c cs => rw [List.takeWhile_cons_of_neg (hu c rfl), List.append_nil]
  have heq : run = run' := by rw [← htake hrun ht, h, htake hrun' ht']
  rw [heq] at h
  exact ⟨heq, List.append_cancel_left h⟩

theorem digitsOf_append_inj {n n' : Nat} (ht : ∀ c ∈ t.head?, ¬c.isDigit)
    (ht' : ∀ c ∈ t'.head?, ¬c.isDigit) (h : digitsOf n ++ t = digitsOf n' ++ t') :
    n = n' ∧ t = t' := by
  have hvalue : ∀ m : Nat, Nat.ofDigitChars 10 (digitsOf m) 0 = m := fun m =>
    Nat.ofDigitChars_toDigits (by decide) (by decide)
  obtain ⟨hdigits, htt⟩ := run_append_inj (fun _ hc => isDigit_of_mem_digitsOf hc)
    (fun _ hc => isDigit_of_mem_digitsOf hc) ht ht' h
  refine ⟨?_, htt⟩
  rw [← hvalue n, hdigits, hvalue]

theorem numberPiece_text (n : Nat) : (numberPiece n).text = digitsOf n := by
  rw [numberPiece, Piece.text, String.toList_ofList, integerText, if_neg (by omega),
    Int.natAbs_natCast]

/-- An offset that may be absent. -/
def offsetPieces : Option Nat → List Piece
  | none => []
  | some n => [.word " OFFSET ", numberPiece n]

theorem render_offsetPieces (n : Nat) :
    render (offsetPieces (some n)) = " OFFSET ".toList ++ digitsOf n := by
  rw [offsetPieces, render_cons, render_cons, render_nil, List.append_nil, numberPiece_text,
    Piece.text]

theorem Limit.render_pieces (count : Nat) (offset : Option Nat) :
    render (Limit.piecesOf? (some ⟨count, offset⟩)) =
      " LIMIT ".toList ++ (digitsOf count ++ render (offsetPieces offset)) := by
  have hpieces : Limit.piecesOf? (some ⟨count, offset⟩) =
      [.word " LIMIT ", numberPiece count] ++ offsetPieces offset := by
    cases offset <;> rfl
  rw [hpieces, render_append, render_cons, render_cons, render_nil, List.append_nil,
    numberPiece_text, Piece.text, List.append_assoc]

theorem Begins.not_isDigit {words : List String} {t : List Char} (h : Begins words t)
    (hwords : ∀ v ∈ words, v.toList.head?.any (!·.isDigit)) : ∀ c ∈ t.head?, ¬c.isDigit := by
  intro c hc
  have hne : ∀ v ∈ words, v.toList ≠ [] := by
    intro v hv hnil
    have hfirst := hwords v hv
    rw [hnil] at hfirst
    exact absurd hfirst (by decide)
  obtain ⟨v, hv, hhead⟩ := h.head?_eq hne
  have hfirst := hwords v hv
  rw [← hhead, hc] at hfirst
  simpa using hfirst

theorem offset_append_inj {offset offset' : Option Nat} (ht : Begins afterLimit t)
    (ht' : Begins afterLimit t')
    (h : render (offsetPieces offset) ++ t = render (offsetPieces offset') ++ t') :
    offset = offset' ∧ t = t' := by
  cases offset with
  | none =>
    cases offset' with
    | none => exact ⟨rfl, List.append_cancel_left h⟩
    | some n' =>
      rw [render_offsetPieces, List.append_assoc] at h
      exact absurd h.symm (ht.append_ne (by decide) _)
  | some n =>
    cases offset' with
    | none =>
      rw [render_offsetPieces, List.append_assoc] at h
      exact absurd h (ht'.append_ne (by decide) _)
    | some n' =>
      rw [render_offsetPieces, render_offsetPieces, List.append_assoc, List.append_assoc] at h
      obtain ⟨hn, htt⟩ := digitsOf_append_inj (ht.not_isDigit (by decide))
        (ht'.not_isDigit (by decide)) (List.append_cancel_left h)
      rw [hn]
      exact ⟨rfl, htt⟩

theorem Limit.append_inj {limit limit' : Option Limit} (ht : Begins afterLimit t)
    (ht' : Begins afterLimit t')
    (h : render (Limit.piecesOf? limit) ++ t = render (Limit.piecesOf? limit') ++ t') :
    limit = limit' ∧ t = t' := by
  have hdigit : ∀ (offset : Option Nat) {u : List Char}, Begins afterLimit u →
      ∀ c ∈ (render (offsetPieces offset) ++ u).head?, ¬c.isDigit := by
    intro offset u hu
    have hbegins : Begins (" OFFSET " :: afterLimit) (render (offsetPieces offset) ++ u) := by
      cases offset with
      | none => exact hu.mono (List.subset_cons_self _ _)
      | some n =>
        rw [render_offsetPieces, List.append_assoc]
        exact begins_append List.mem_cons_self _
    exact hbegins.not_isDigit (by decide)
  rcases limit with _ | ⟨count, offset⟩ <;> rcases limit' with _ | ⟨count', offset'⟩
  · exact ⟨rfl, h⟩
  · rw [Limit.render_pieces, List.append_assoc] at h
    exact absurd h.symm (ht.append_ne (by decide) _)
  · rw [Limit.render_pieces, List.append_assoc] at h
    exact absurd h (ht'.append_ne (by decide) _)
  · simp only [Limit.render_pieces, List.append_assoc] at h
    obtain ⟨hcount, h⟩ := digitsOf_append_inj (hdigit offset ht) (hdigit offset' ht')
      (List.append_cancel_left h)
    obtain ⟨hoffset, htt⟩ := offset_append_inj ht ht' h
    rw [hcount, hoffset]
    exact ⟨rfl, htt⟩

theorem begins_limit (limit : Option Limit) (ht : Begins afterLimit t) :
    Begins afterOrders (render (Limit.piecesOf? limit) ++ t) := by
  rcases limit with _ | ⟨count, offset⟩
  · exact ht.mono (List.subset_cons_self _ _)
  · rw [Limit.render_pieces, List.append_assoc]
    exact begins_append List.mem_cons_self _

/-- A bare column. -/
def IsColumn (e : Expr) : Prop := ∃ c, e = .column c

theorem IsColumn.append_inj {e e' : Expr} (he : IsColumn e) (he' : IsColumn e') (ht : Apart t)
    (ht' : Apart t') (h : render e.pieces ++ t = render e'.pieces ++ t') : e = e' ∧ t = t' := by
  obtain ⟨c, rfl⟩ := he
  obtain ⟨c', rfl⟩ := he'
  rw [Expr.pieces, Expr.pieces] at h
  obtain ⟨hc, htt⟩ := Column.append_inj ht ht' h
  rw [hc]
  exact ⟨rfl, htt⟩

theorem directionPiece_append_inj {d d' : Direction}
    (h : (directionPiece d).text ++ t = (directionPiece d').text ++ t') : d = d' ∧ t = t' := by
  cases d <;> cases d' <;> simp_all [directionPiece, Piece.text]

theorem criterion_append_inj {item item' : Expr × Direction} (he : IsColumn item.1)
    (he' : IsColumn item'.1)
    (h : render (criterionPieces item) ++ t = render (criterionPieces item') ++ t') :
    item = item' ∧ t = t' := by
  have hapart : ∀ (d : Direction) (u : List Char), Apart ((directionPiece d).text ++ u) := by
    intro d u
    cases d with
    | asc => exact Bare.head?_append_ne (by decide) u
    | desc => exact Bare.head?_append_ne (by decide) u
  simp only [criterionPieces, render_append, render_cons, render_nil, List.append_nil,
    List.append_assoc] at h
  obtain ⟨hexpr, h⟩ := he.append_inj he' (hapart _ _) (hapart _ _) h
  obtain ⟨hdirection, htt⟩ := directionPiece_append_inj h
  exact ⟨Prod.ext hexpr hdirection, htt⟩

/-- A clause that is a word before a list is told apart from what can follow it. -/
theorem listClause_append_inj {α : Type} {word : String} {item : α → List Piece} {xs xs' : List α}
    {words : List String}
    (hword : ∀ v ∈ words, ¬v.toList <+: word.toList ∧ ¬word.toList <+: v.toList)
    (hwords : words ⊆ afterJoins)
    (hitem : ∀ x ∈ xs, ∀ x' ∈ xs', ToldApart item id x x')
    (ht : Begins words t) (ht' : Begins words t')
    (h : render (listClause word item xs) ++ t = render (listClause word item xs') ++ t') :
    xs = xs' ∧ t = t' := by
  cases xs with
  | nil =>
    cases xs' with
    | nil => exact ⟨rfl, List.append_cancel_left h⟩
    | cons x' xs' =>
      rw [listClause, listClause, render_cons, List.append_assoc] at h
      exact absurd h.symm (ht.append_ne hword _)
  | cons x xs =>
    cases xs' with
    | nil =>
      rw [listClause, listClause, render_cons, List.append_assoc] at h
      exact absurd h (ht'.append_ne hword _)
    | cons x' xs' =>
      rw [listClause, listClause, render_cons, render_cons, List.append_assoc,
        List.append_assoc] at h
      obtain ⟨hall, htt, -⟩ := separated_append_inj (g := id) (by decide) (by decide) hitem
        (ht.mono hwords) (ht'.mono hwords) (List.append_cancel_left h)
      rw [List.map_id, List.map_id] at hall
      exact ⟨hall, htt⟩

theorem begins_listClause {α : Type} {word : String} (item : α → List Piece) (xs : List α)
    {words : List String} (ht : Begins words t) :
    Begins (word :: words) (render (listClause word item xs) ++ t) := by
  cases xs with
  | nil => exact ht.mono (List.subset_cons_self _ _)
  | cons x xs =>
    rw [listClause, render_cons, List.append_assoc]
    exact begins_append List.mem_cons_self _

end Parts

end CollectionSql.Sql
