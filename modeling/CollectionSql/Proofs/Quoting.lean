import CollectionSql.Sql.Quoted

/-!
# Quoted names in a text

A scanner that reads a text from left to right is outside of quotes, or in a span that a quote has
opened. What it sees outside is left when the quoted spans are deleted. A quoted name brings the
scanner back to where it was, whatever the name holds, because a quote inside the name is doubled:
it closes the span and opens it again.

A reader of names knows better: it takes a doubled quote for one quote, and ends at a single one.

Results:
* `placeholdersFrom_eq_count`: the placeholders of a text are the question marks outside of quotes.
* `after_quoted`, `unquotedFrom_quoted`: a quoted name is a closed span, and nothing of it is seen.
* `readQuoted_append`: reading a quoted name gives the name and the text after it.
* `quoted_append_inj`: hence texts that start with quoted names are equal only if the names are.
* `eq_of_readQuoted`: conversely, whatever is read as a quoted name is that name in quotes.
* `readQuoted_iff_and_scan_quoted`: what a reader and a scanner make of a quoted name.
-/

namespace CollectionSql.Sql

/-! ## What stands outside of quotes -/

/-- Whether a character stands outside of quotes and is no quote itself. -/
def Span.sees (s : Span) (c : Char) : Bool := s.isNone && (s.next c).isNone

/-- What is left of a text that starts in the given span when its quoted spans are deleted, with
their quotes. -/
def unquotedFrom (s : Span) : List Char → List Char
  | [] => []
  | c :: cs => if s.sees c then c :: unquotedFrom (s.next c) cs else unquotedFrom (s.next c) cs

/-- What is left of a text when its quoted spans are deleted. -/
def unquoted (text : String) : List Char := unquotedFrom none text.toList

theorem Span.after_append (s : Span) (cs ds : List Char) :
    s.after (cs ++ ds) = (s.after cs).after ds := List.foldl_append

theorem unquotedFrom_append (s : Span) (cs ds : List Char) :
    unquotedFrom s (cs ++ ds) = unquotedFrom s cs ++ unquotedFrom (s.after cs) ds := by
  induction cs generalizing s with
  | nil => rfl
  | cons c cs ih =>
    simp only [List.cons_append, unquotedFrom, ih, Span.after, List.foldl_cons]
    split <;> rfl

theorem Span.isPlaceholder_eq (s : Span) (c : Char) :
    s.isPlaceholder c = (s.sees c && c == '?') := by
  cases s with
  | some q => rfl
  | none =>
    by_cases hc : c = '?'
    · subst hc
      rfl
    · simp [isPlaceholder, hc]

/-- The placeholders of a text are the question marks that stand outside of quotes. -/
theorem placeholdersFrom_eq_count (s : Span) (cs : List Char) :
    placeholdersFrom s cs = (unquotedFrom s cs).count '?' := by
  induction cs generalizing s with
  | nil => rfl
  | cons c cs ih =>
    rw [placeholdersFrom, unquotedFrom, ih, Span.isPlaceholder_eq]
    by_cases hsees : s.sees c
    · rw [if_pos hsees, List.count_cons, hsees, Bool.true_and, Nat.add_comm]
    · simp [hsees]

/-- A text without quotes is seen as it is. -/
theorem unquotedFrom_of_no_quotes {cs : List Char}
    (h : ∀ c ∈ cs, c ≠ stringQuote ∧ c ≠ identifierQuote) :
    Span.after none cs = none ∧ unquotedFrom none cs = cs := by
  induction cs with
  | nil => exact ⟨rfl, rfl⟩
  | cons c cs ih =>
    obtain ⟨hc, hcs⟩ := List.forall_mem_cons.mp h
    have hnext : Span.next none c = none := by simp [Span.next, hc]
    have hsees : Span.sees none c = true := by simp [Span.sees, hnext]
    obtain ⟨hafter, hrest⟩ := ih hcs
    constructor
    · rw [Span.after, List.foldl_cons, hnext]
      exact hafter
    · rw [unquotedFrom, if_pos hsees, hnext, hrest]

/-! ## Quoted names are closed spans -/

/-- One of the two quotes. -/
def IsQuote (q : Char) : Prop := q = stringQuote ∨ q = identifierQuote

theorem Span.next_none {q : Char} (hq : IsQuote q) : Span.next none q = some q := if_pos hq

theorem Span.next_self (q : Char) : Span.next (some q) q = none := if_pos rfl

theorem Span.next_other {q c : Char} (h : c ≠ q) : Span.next (some q) c = some q := if_neg h

/-- A doubled quote leaves the span and enters it again. -/
theorem after_doubled {q : Char} (hq : IsQuote q) (cs : List Char) :
    Span.after (some q) (doubled q cs) = some q := by
  induction cs with
  | nil => rfl
  | cons c cs ih =>
    rw [doubled]
    split
    · next h =>
      subst h
      simpa only [Span.after, List.foldl_cons, Span.next_self, Span.next_none hq] using ih
    · next h => simpa only [Span.after, List.foldl_cons, Span.next_other h] using ih

theorem unquotedFrom_doubled {q : Char} (hq : IsQuote q) (cs : List Char) :
    unquotedFrom (some q) (doubled q cs) = [] := by
  induction cs with
  | nil => rfl
  | cons c cs ih =>
    rw [doubled]
    split
    · next h =>
      subst h
      simp [unquotedFrom, Span.sees, Span.next_self, Span.next_none hq, ih]
    · next h => simp [unquotedFrom, Span.sees, Span.next_other h, ih]

theorem after_quoted {q : Char} (hq : IsQuote q) (name : String) :
    Span.after none (quoted q name) = none := by
  have hspan : Span.after none (quoted q name) =
      (Span.after (Span.next none q) (doubled q name.toList)).after [q] := by
    rw [← Span.after_append]
    rfl
  rw [hspan, Span.next_none hq, after_doubled hq]
  exact Span.next_self q

theorem unquotedFrom_quoted {q : Char} (hq : IsQuote q) (name : String) :
    unquotedFrom none (quoted q name) = [] := by
  have hopen : Span.sees none q = false := by simp [Span.sees, Span.next_none hq]
  rw [quoted, unquotedFrom, hopen, Span.next_none hq, unquotedFrom_append, after_doubled hq,
    unquotedFrom_doubled hq]
  simp [unquotedFrom, Span.sees]

/-! ## Reading quoted names -/

/-- Reads a name up to the quote that ends it, and leaves the text after that quote. -/
def readName (q : Char) : List Char → Option (List Char × List Char)
  | [] => none
  | [c] => if c = q then some ([], []) else none
  | c :: d :: cs =>
    if c = q then
      if d = q then (readName q cs).map fun read => (q :: read.1, read.2) else some ([], d :: cs)
    else (readName q (d :: cs)).map fun read => (c :: read.1, read.2)

/-- Reads a quoted name, and leaves the text after it. -/
def readQuoted (q : Char) : List Char → Option (String × List Char)
  | [] => none
  | c :: cs =>
    if c = q then (readName q cs).map fun read => (String.ofList read.1, read.2) else none

theorem readName_doubled {q : Char} (name : List Char) {rest : List Char}
    (hrest : rest.head? ≠ some q) :
    readName q (doubled q name ++ q :: rest) = some (name, rest) := by
  induction name with
  | nil =>
    cases rest with
    | nil => simp [doubled, readName]
    | cons d ds =>
      have hd : d ≠ q := fun h => hrest (by rw [h]; rfl)
      simp [doubled, readName, hd]
  | cons c cs ih =>
    by_cases hc : c = q
    · subst hc
      simp [doubled, readName, ih]
    · -- what comes next is a character of the name or the closing quote
      obtain ⟨d, ds, hnext⟩ := List.exists_cons_of_ne_nil
        (l := doubled q cs ++ q :: rest) (by simp)
      rw [doubled, if_neg hc, List.cons_append, hnext, readName, if_neg hc, ← hnext, ih]
      rfl

/-- Reading a quoted name gives the name and the text after it, if no further quote follows. -/
theorem readQuoted_append {q : Char} (name : String) {rest : List Char}
    (hrest : rest.head? ≠ some q) : readQuoted q (quoted q name ++ rest) = some (name, rest) := by
  rw [quoted, List.cons_append, readQuoted, if_pos rfl, List.append_assoc, List.singleton_append,
    readName_doubled _ hrest]
  simp

theorem quoted_append_inj {q : Char} {name name' : String} {rest rest' : List Char}
    (hrest : rest.head? ≠ some q) (hrest' : rest'.head? ≠ some q)
    (h : quoted q name ++ rest = quoted q name' ++ rest') : name = name' ∧ rest = rest' := by
  have hread := congrArg (readQuoted q) h
  rw [readQuoted_append name hrest, readQuoted_append name' hrest'] at hread
  simpa using hread

/-- A name has one written form: what is read up to the closing quote is the name with every quote
doubled, and the text that is left does not begin with a quote, which would go on with the name. -/
theorem eq_of_readName {q : Char} {text name rest : List Char}
    (h : readName q text = some (name, rest)) :
    text = doubled q name ++ q :: rest ∧ rest.head? ≠ some q := by
  fun_induction readName q text generalizing name rest with
  | case1 => cases h
  | case2 =>
    cases h
    exact ⟨rfl, nofun⟩
  | case3 => cases h
  | case4 cs ih =>
    -- a doubled quote stands for one of the name
    obtain ⟨⟨read, left⟩, hread, heq⟩ := Option.map_eq_some_iff.mp h
    cases heq
    obtain ⟨rfl, hrest⟩ := ih hread
    exact ⟨by rw [doubled, if_pos rfl]; rfl, hrest⟩
  | case5 d cs hd =>
    -- a single quote ends the name, and what follows it is no quote
    cases h
    exact ⟨rfl, fun heq => hd (Option.some.inj heq)⟩
  | case6 c d cs hc ih =>
    obtain ⟨⟨read, left⟩, hread, heq⟩ := Option.map_eq_some_iff.mp h
    cases heq
    obtain ⟨htext, hrest⟩ := ih hread
    exact ⟨by rw [doubled, if_neg hc, htext]; rfl, hrest⟩

/-- Whatever is read as a quoted name is that name in quotes. -/
theorem eq_of_readQuoted {q : Char} {text rest : List Char} {name : String}
    (h : readQuoted q text = some (name, rest)) :
    text = quoted q name ++ rest ∧ rest.head? ≠ some q := by
  cases text with
  | nil => cases h
  | cons c cs =>
    rw [readQuoted] at h
    split at h
    · next hc =>
      obtain ⟨⟨read, left⟩, hread, heq⟩ := Option.map_eq_some_iff.mp h
      cases heq
      obtain ⟨rfl, hrest⟩ := eq_of_readName hread
      exact ⟨by rw [hc, quoted, String.toList_ofList]; simp, hrest⟩
    · cases h

/-- **Main theorem.** A reader finds a name, and a text left after it, in exactly one text: the name
in quotes followed by the text that is left, which must not begin with the same quote. A scanner
finds no placeholder in the name in quotes, and is outside of quotes after it. -/
theorem readQuoted_iff_and_scan_quoted {q : Char} (hq : IsQuote q) (name : String) :
    (∀ text rest, readQuoted q text = some (name, rest) ↔
      text = quoted q name ++ rest ∧ rest.head? ≠ some q) ∧
    placeholdersFrom none (quoted q name) = 0 ∧ Span.after none (quoted q name) = none := by
  refine ⟨fun text rest => ⟨eq_of_readQuoted, ?_⟩, ?_, after_quoted hq name⟩
  · rintro ⟨rfl, hrest⟩
    exact readQuoted_append name hrest
  · rw [placeholdersFrom_eq_count, unquotedFrom_quoted hq]
    rfl

/-- A name that begins and ends with quotes and has a question mark between more of them, before a
text that goes on with the other quote. -/
theorem readQuoted_nameOfQuotes :
    IsQuote stringQuote ∧ "\"?".toList.head? ≠ some stringQuote ∧
    readQuoted stringQuote ("'''''?''\"'''".toList ++ "\"?".toList) =
      some ("''?'\"'", "\"?".toList) ∧
    placeholdersFrom none "'''''?''\"'''".toList = 0 ∧
    Span.after none "'''''?''\"'''".toList = none := by
  have hq : IsQuote stringQuote := .inl rfl
  have hrest : "\"?".toList.head? ≠ some stringQuote := by decide
  have hquoted : "'''''?''\"'''".toList = quoted stringQuote "''?'\"'" := by decide
  obtain ⟨hread, hscan⟩ := readQuoted_iff_and_scan_quoted hq "''?'\"'"
  rw [hquoted]
  exact ⟨hq, hrest, (hread _ _).mpr ⟨rfl, hrest⟩, hscan⟩

end CollectionSql.Sql
