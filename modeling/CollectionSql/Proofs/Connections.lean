import Mathlib.Data.List.Basic
import CollectionSql.CommandLine.Run
import CollectionSql.Proofs.FileSystems

/-!
# Databases given by URL

A database is given by path or by URL. The URL of a path is the path after the scheme, and it opens
the file with that path, as the path alone does, if the URL keeps the path letter for letter
(`Kept`): no character of it is one that a URL encodes, and no segment of it is one that a URL takes
for a directory. What follows a question mark or a number sign is cut off.

**Deviation from paths.** A URL is not read as a path is. Two slashes open an authority, and a path
that starts with two must be written after an empty one. A query and a fragment belong to no file
name, though a file name may hold their marks. And the path of a URL is used as it stands there: a
character that was encoded, such as a space, is not decoded again, so the file that is opened has
the encoded name (`connect_astray`).

Results:
* `joinSegments_pieces`: the segments of a path, joined, are the path.
* `segmentPath_of_kept`: a path that is kept is the path of its URL.
* `connect_keptPath`: a URL with a kept path opens what the path opens.
-/

namespace CollectionSql

/-! ## Paths that a URL keeps -/

namespace Url

/-- A character that a URL keeps in a path. -/
def isKept (c : Char) : Bool := c.toNat < 0x80 && !isPathEncoded c

/-- An absolute path that a URL keeps: its characters are not encoded, and none of its segments, in
whichever spelling, means a directory. -/
structure Kept (path : String) : Prop where
  absolute : path.toList.head? = some '/'
  chars : ∀ c ∈ path.toList, isKept c
  segments : ∀ s ∈ Text.pieces '/' path.toList, isSingleDot s = false ∧ isDoubleDot s = false

/-- What may follow a path in a URL: nothing, or a query or a fragment. -/
def CutOff (suffix : String) : Prop := ∀ c, suffix.toList.head? = some c → opensQuery c

/-- What stands before a path in a URL: the scheme, and an empty authority, which a path that starts
with two slashes cannot do without. -/
def Leads (lead path : String) : Prop :=
  lead = "sqlite://" ∨ lead = "sqlite:" ∧ ¬['/', '/'] <+: path.toList

theorem isKept_iff {c : Char} : isKept c ↔ c.toNat < 0x80 ∧ isPathEncoded c = false := by
  simp [isKept]

theorem opensQuery_eq_false_of_isKept {c : Char} (hc : isKept c) : opensQuery c = false := by
  rw [Bool.eq_false_iff]
  intro hopens
  rw [opensQuery, Bool.or_eq_true, beq_iff_eq, beq_iff_eq] at hopens
  rcases hopens with rfl | rfl <;> cases hc

/-- A kept character is no blank and no control. -/
theorem lt_toNat_of_isKept {c : Char} (hc : isKept c) : 0x20 < c.toNat := by
  have hencoded := (isKept_iff.mp hc).2
  by_contra hle
  have hcases : c.toNat < 0x20 ∨ c.toNat = 0x20 := by omega
  rcases hcases with hlt | heq
  · simp [isPathEncoded, isControl, hlt] at hencoded
  · have hspace : c = ' ' := Char.toNat_inj.mp heq
    subst hspace
    cases hencoded

/-! ## Blanks around a URL -/

theorem dropWhile_append_cons {α : Type} {p : α → Bool} {y : α} (hy : p y = false)
    (xs ys : List α) : (xs ++ y :: ys).dropWhile p = xs.dropWhile p ++ y :: ys := by
  induction xs with
  | nil => simp [hy]
  | cons x xs ih =>
    rw [List.cons_append, List.dropWhile_cons, List.dropWhile_cons]
    split
    · exact ih
    · rfl

/-- Cleaning keeps what has no blanks and controls, and the beginning of what follows it. -/
theorem cleaned_append {cs suffix : List Char} (hne : cs ≠ []) (hcs : ∀ c ∈ cs, 0x20 < c.toNat)
    (hsuffix : ∀ c, suffix.head? = some c → 0x20 < c.toNat) :
    ∃ rest, cleaned (cs ++ suffix) = cs ++ rest ∧ rest.head? = suffix.head? := by
  have houter : ∀ c : Char, 0x20 < c.toNat → decide (c.toNat ≤ 0x20) = false := by
    intro c hc
    exact decide_eq_false (by omega)
  have hdrop : ∀ c : Char, 0x20 < c.toNat → ∀ xs ys : List Char,
      (xs ++ c :: ys).dropWhile (fun c => decide (c.toNat ≤ 0x20)) =
        xs.dropWhile (fun c => decide (c.toNat ≤ 0x20)) ++ c :: ys :=
    fun c hc => dropWhile_append_cons (houter c hc)
  have hkept : ∀ c : Char, 0x20 < c.toNat →
      (!(c == '\t' || c == '\n' || c == '\r')) = true := by
    intro c hc
    have hne : ∀ d : Char, d.toNat ≤ 0x20 → (c == d) = false := by
      rintro d hd
      rw [beq_eq_false_iff_ne]
      rintro rfl
      omega
    rw [hne '\t' (by decide), hne '\n' (by decide), hne '\r' (by decide)]
    rfl
  -- nothing is dropped in front, and behind not more than the suffix
  have hfront : (cs ++ suffix).dropWhile (fun c => decide (c.toNat ≤ 0x20)) = cs ++ suffix := by
    obtain ⟨c, tail, rfl⟩ := List.exists_cons_of_ne_nil hne
    rw [List.cons_append, List.dropWhile_cons, houter c (hcs c List.mem_cons_self)]
    rfl
  have hback : (cs ++ suffix).reverse.dropWhile (fun c => decide (c.toNat ≤ 0x20)) =
      suffix.reverse.dropWhile (fun c => decide (c.toNat ≤ 0x20)) ++ cs.reverse := by
    obtain ⟨c, tail, htail⟩ := List.exists_cons_of_ne_nil (List.reverse_ne_nil_iff.mpr hne)
    have hc : c ∈ cs := List.mem_reverse.mp (htail ▸ List.mem_cons_self)
    rw [List.reverse_append, htail, hdrop c (hcs c hc)]
  refine ⟨(suffix.reverse.dropWhile (fun c => decide (c.toNat ≤ 0x20))).reverse.filter
    fun c => !(c == '\t' || c == '\n' || c == '\r'), ?_, ?_⟩
  · unfold cleaned
    simp only
    rw [hfront, hback, List.reverse_append, List.reverse_reverse, List.filter_append,
      List.filter_eq_self.mpr fun c hc => hkept c (hcs c hc)]
  · cases suffix with
    | nil => rfl
    | cons c tail =>
      have hc := hsuffix c rfl
      rw [List.reverse_cons, hdrop c hc, List.reverse_append,
        List.reverse_singleton, List.singleton_append, List.filter_cons, if_pos (hkept c hc)]
      rfl

/-! ## The path of a URL -/

theorem mem_of_mem_pieces {cs s : List Char} (hs : s ∈ Text.pieces '/' cs) {c : Char}
    (hc : c ∈ s) : c ∈ cs := by
  induction cs generalizing s with
  | nil =>
    cases List.mem_singleton.mp hs
    exact hc
  | cons d cs ih =>
    rw [Text.pieces] at hs
    split at hs
    · rcases List.mem_cons.mp hs with rfl | hs
      · cases hc
      · exact List.mem_cons_of_mem d (ih hs hc)
    · split at hs
      · cases List.mem_singleton.mp hs
        exact List.mem_cons.mpr (.inl (List.mem_singleton.mp hc))
      · next first rest hpieces =>
        rw [hpieces] at ih
        rcases List.mem_cons.mp hs with rfl | hs
        · rcases List.mem_cons.mp hc with rfl | hc
          · exact List.mem_cons_self
          · exact List.mem_cons_of_mem d (ih List.mem_cons_self hc)
        · exact List.mem_cons_of_mem d (ih (List.mem_cons_of_mem _ hs) hc)

/-- The segments of a path, joined, are the path. -/
theorem joinSegments_pieces (cs : List Char) : joinSegments (Text.pieces '/' cs) = '/' :: cs := by
  induction cs with
  | nil => rfl
  | cons c cs ih =>
    rw [Text.pieces]
    split
    · next hc =>
      rw [joinSegments, List.flatMap_cons, ← joinSegments, ih, hc]
      rfl
    · split
      · next hnil => exact absurd hnil (Text.pieces_ne_nil '/' cs)
      · next first rest hpieces =>
        rw [hpieces, joinSegments, List.flatMap_cons, List.cons_append, List.cons.injEq] at ih
        rw [joinSegments, List.flatMap_cons, List.cons_append, List.cons_append, ih.2]

/-- Segments that mean no directories stay. -/
theorem resolveDots_eq {segments : List (List Char)}
    (h : ∀ s ∈ segments, isSingleDot s = false ∧ isDoubleDot s = false)
    (before : List (List Char)) : resolveDots before segments = before.reverse ++ segments := by
  induction segments generalizing before with
  | nil => rw [resolveDots, List.append_nil]
  | cons s rest ih =>
    obtain ⟨⟨hsingle, hdouble⟩, hrest⟩ := List.forall_mem_cons.mp h
    cases rest with
    | nil => simp [resolveDots, hsingle, hdouble]
    | cons s' rest =>
      rw [resolveDots, hsingle, hdouble]
      · simp only [Bool.false_eq_true, if_false]
        rw [ih hrest, List.reverse_cons, List.append_assoc, List.singleton_append]
      · exact fun h => nomatch h

theorem encode_of_kept {cs : List Char} (h : ∀ c ∈ cs, isKept c) :
    encode isPathEncoded cs = cs := by
  induction cs with
  | nil => rfl
  | cons c cs ih =>
    obtain ⟨hc, hcs⟩ := List.forall_mem_cons.mp h
    have hchar : encodeChar isPathEncoded c = [c] := if_pos hc
    rw [encode, List.flatMap_cons, hchar, ← encode, ih hcs]
    rfl

/-- A path that is kept is the path of its URL. -/
theorem segmentPath_of_kept {cs rest : List Char} (hchars : ∀ c ∈ cs, isKept c)
    (hsegments : ∀ s ∈ Text.pieces '/' cs, isSingleDot s = false ∧ isDoubleDot s = false)
    (hrest : ∀ c, rest.head? = some c → opensQuery c) :
    segmentPath .other (cs ++ rest) = '/' :: cs := by
  have hcut : (cs ++ rest).takeWhile (fun c => !opensQuery c) = cs := by
    have hstop : rest.takeWhile (fun c => !opensQuery c) = [] := by
      cases rest with
      | nil => rfl
      | cons c tail => simp [hrest c rfl]
    rw [List.takeWhile_append_of_pos fun c hc => by
      rw [opensQuery_eq_false_of_isKept (hchars c hc)]; rfl, hstop, List.append_nil]
  have hencode : (Text.pieces '/' cs).map (encode isPathEncoded) = Text.pieces '/' cs := by
    refine (List.map_congr_left fun s hs => ?_).trans (List.map_id _)
    exact encode_of_kept fun c hc => hchars c (mem_of_mem_pieces hs hc)
  unfold segmentPath
  simp only [SchemeKind.isSpecial, Bool.false_eq_true, if_false]
  rw [hcut, hencode, resolveDots_eq hsegments, List.reverse_nil, List.nil_append,
    joinSegments_pieces]

theorem exists_toList_eq_cons {path : String} (h : path.toList.head? = some '/') :
    ∃ cs, path.toList = '/' :: cs := by
  cases hpath : path.toList with
  | nil =>
    rw [hpath] at h
    cases h
  | cons c cs =>
    rw [hpath] at h
    cases h
    exact ⟨cs, rfl⟩

/-- An empty authority ends at the first slash. -/
theorem scanAuthority_slash (cs : List Char) :
    scanAuthority .other ('/' :: cs) = .ok ('/' :: cs) := by
  simp [scanAuthority, endsAuthority, splitUserinfo, splitPort, checkHostOf, checkHost]

/-- What follows the scheme: a path, or an empty authority and a path. -/
theorem scanPath_of_leads {lead path : String} (hlead : Leads lead path) (hkept : Kept path)
    {rest : List Char} (hrest : ∀ c, rest.head? = some c → opensQuery c) :
    ∃ slashes, lead.toList = "sqlite:".toList ++ slashes ∧
      scanPath .other (slashes ++ path.toList ++ rest) = .ok path.toList := by
  obtain ⟨cs, hcs⟩ := exists_toList_eq_cons hkept.absolute
  have hsegment : segmentPath .other (cs ++ rest) = '/' :: cs := by
    have hchars := hkept.chars
    have hsegments := hkept.segments
    rw [hcs] at hchars hsegments
    refine segmentPath_of_kept (fun c hc => hchars c (List.mem_cons_of_mem _ hc))
      (fun s hs => hsegments s ?_) hrest
    rw [Text.pieces, if_pos rfl]
    exact List.mem_cons_of_mem _ hs
  rcases hlead with rfl | ⟨rfl, hsingle⟩
  · refine ⟨['/', '/'], rfl, ?_⟩
    rw [hcs]
    simp only [List.cons_append, List.nil_append, scanPath, scanAuthority_slash]
    rw [Except.map, pathAfterAuthority, hsegment]
  · refine ⟨[], rfl, ?_⟩
    rw [hcs] at hsingle ⊢
    have hnext : ∀ tail, cs ++ rest ≠ '/' :: tail := by
      intro tail htail
      cases cs with
      | nil =>
        have hopens := hrest '/' (by rw [← List.nil_append rest, htail]; rfl)
        cases hopens
      | cons c cs =>
        obtain ⟨rfl, -⟩ := List.cons.inj htail
        exact hsingle ⟨cs, rfl⟩
    have hscan : scanPath .other ('/' :: (cs ++ rest)) = .ok (segmentPath .other (cs ++ rest)) :=
      scanPath.eq_4 _ hnext
    rw [List.nil_append, List.cons_append, hscan, hsegment]

/-- The URL of a path that is kept. -/
theorem parse_of_leads {lead path suffix : String} (hlead : Leads lead path) (hkept : Kept path)
    (hsuffix : CutOff suffix) : parse (lead ++ path ++ suffix) = .ok ⟨"sqlite", path⟩ := by
  have hopens : ∀ c, opensQuery c → 0x20 < c.toNat := by
    intro c hc
    rw [opensQuery, Bool.or_eq_true, beq_iff_eq, beq_iff_eq] at hc
    rcases hc with rfl | rfl <;> decide
  have hlong : ∀ c ∈ (lead ++ path).toList, 0x20 < c.toNat := by
    intro c hc
    rw [String.toList_append] at hc
    rcases List.mem_append.mp hc with hc | hc
    · have hletters : ∀ c ∈ "sqlite://".toList, 0x20 < c.toNat := by simp
      rcases hlead with rfl | ⟨rfl, -⟩
      · exact hletters c hc
      · exact hletters c (List.mem_append_left ['/', '/'] hc)
    · exact lt_toNat_of_isKept (hkept.chars c hc)
  have hne : (lead ++ path).toList ≠ [] := by
    obtain ⟨cs, hcs⟩ := exists_toList_eq_cons hkept.absolute
    rw [String.toList_append, hcs]
    simp
  obtain ⟨rest, hclean, hhead⟩ := cleaned_append hne hlong fun c hc => hopens c (hsuffix c hc)
  have hrest : ∀ c, rest.head? = some c → opensQuery c := by
    rw [hhead]
    exact hsuffix
  obtain ⟨slashes, hslashes, hscan⟩ := scanPath_of_leads hlead hkept hrest
  have hscheme : scanScheme (cleaned (lead ++ path ++ suffix).toList) =
      some ("sqlite".toList, slashes ++ path.toList ++ rest) := by
    rw [String.toList_append, hclean, String.toList_append, hslashes, List.append_assoc,
      List.append_assoc, List.append_assoc]
    rfl
  have hkind : SchemeKind.of (String.ofList "sqlite".toList) = .other := by decide
  rw [parse, hscheme]
  simp only [hkind, hscan]
  show Except.ok (Url.mk (String.ofList "sqlite".toList) (String.ofList path.toList)) = _
  rw [String.ofList_toList, String.ofList_toList]

end Url

namespace Sqlite

variable {m : Type → Type} [Monad m] [FileAccess m]

/-- A connection opens the path of its URL. -/
theorem connect_of_parse {url path : String} (h : Url.parse url = .ok ⟨scheme, path⟩) :
    (connect url : m _) = openNamed path := by
  have hurl : connectionUrl url = .ok ⟨scheme, path⟩ := by
    rw [connectionUrl, h]
    rfl
  rw [connect, hurl]
  exact if_pos rfl

/-- An absolute path is the name of a file, which is made if it is not there. -/
theorem Location.ofName_of_absolute {path : String} (h : path.toList.head? = some '/') :
    Location.ofName path = .ok (.file path .create) := by
  obtain ⟨cs, hcs⟩ := Url.exists_toList_eq_cons h
  have huri : uriStart.isPrefixOf path.toList = false := by
    rw [hcs]
    rfl
  have hne : ∀ name : String, name.toList.head? ≠ some '/' → path ≠ name := by
    rintro name hname rfl
    exact hname h
  have hplace : ¬(path = "" ∨ path = memoryName) := by
    rintro (hempty | hmemory)
    · exact hne "" (by decide) hempty
    · exact hne memoryName (by decide) hmemory
  rw [ofName, huri, ofPath, if_neg hplace]
  rfl

end Sqlite

namespace CommandLine

variable {m : Type → Type} [Monad m] [LawfulMonad m] [FileAccess m]

/-- The engine for a URL is the engine for its path. -/
theorem engineFor_of_parse (b : Builder) {url path : String}
    (h : Url.parse url = .ok ⟨Sqlite.scheme, path⟩) (hurl : isUrl url = true)
    (hpath : isUrl path = false) : (engineFor b url : Attempt m _) = engineFor b path := by
  have hconnection : connectionUrl url = .ok ⟨Sqlite.scheme, path⟩ := by
    rw [connectionUrl, h]
    rfl
  have hconnect : (b.connect url : m _) =
      (do return (← Sqlite.openNamed path).bind fun database => b.build database.executor) := by
    rw [Builder.connect, hconnection]
    simp only [if_true, Sqlite.connect_of_parse h]
  rw [engineFor, if_pos hurl, engineFor, hpath, hconnect]
  simp only [Bool.false_eq_true, if_false]
  apply ExceptT.ext
  simp only [attempt, settled, ExceptT.run_bind, ExceptT.run_mk, bind_pure_comp, Functor.map_map,
    bind_map_left]
  rw [map_eq_pure_bind]
  refine bind_congr fun opened => ?_
  cases opened with
  | error e => rfl
  | ok database => exact (map_pure _ _).symm

end CommandLine

/-! ## Connections by URL and by path -/

/-- **Main theorem.** A path that a URL keeps names a file, and a URL with that path opens this
file, whatever query or fragment follows: a connection does what opening the path does, and so does
the command line with either spelling. -/
theorem connect_keptPath {m : Type → Type} [Monad m] [LawfulMonad m] [FileAccess m]
    {lead path suffix : String} (hlead : Url.Leads lead path) (hkept : Url.Kept path)
    (hsuffix : Url.CutOff suffix) (b : Builder) :
    Sqlite.Location.ofName path = .ok (.file path .create) ∧
      (Sqlite.connect (lead ++ path ++ suffix) : m _) = Sqlite.openNamed path ∧
      (CommandLine.engineFor b (lead ++ path ++ suffix) : CommandLine.Attempt m _) =
        CommandLine.engineFor b path := by
  have hparse : Url.parse (lead ++ path ++ suffix) = .ok ⟨Sqlite.scheme, path⟩ :=
    Url.parse_of_leads hlead hkept hsuffix
  have hurl : CommandLine.isUrl (lead ++ path ++ suffix) = true := by
    rw [CommandLine.isUrl, List.isPrefixOf_iff_prefix, String.toList_append, String.toList_append,
      List.append_assoc]
    rcases hlead with rfl | ⟨rfl, -⟩
    · exact ⟨_, List.append_assoc "sqlite:".toList ['/', '/'] _⟩
    · exact List.prefix_append _ _
  have hpath : CommandLine.isUrl path = false := by
    obtain ⟨cs, hcs⟩ := Url.exists_toList_eq_cons hkept.absolute
    rw [CommandLine.isUrl, hcs]
    rfl
  exact ⟨Sqlite.Location.ofName_of_absolute hkept.absolute, Sqlite.connect_of_parse hparse,
    CommandLine.engineFor_of_parse b hparse hurl hpath⟩

/-- A path with a percent sign and a colon, after the scheme alone and before a query. -/
theorem connect_shopPath : Url.Leads "sqlite:" "/data/shop:50%.db" ∧
    Url.Kept "/data/shop:50%.db" ∧ Url.CutOff "?mode=ro" ∧
    (Sqlite.connect "sqlite:/data/shop:50%.db?mode=ro" : StateM FileSystem _) =
      Sqlite.openNamed "/data/shop:50%.db" := by
  have hlead : Url.Leads "sqlite:" "/data/shop:50%.db" := .inr ⟨rfl, by decide⟩
  have hkept : Url.Kept "/data/shop:50%.db" := ⟨rfl, List.all_eq_true.mp rfl, by decide⟩
  have hsuffix : Url.CutOff "?mode=ro" := by
    rintro c ⟨⟩
    rfl
  exact ⟨hlead, hkept, hsuffix, (connect_keptPath hlead hkept hsuffix .empty).2.1⟩

/-- An absolute path without NULs, tabs and line ends, none of whose segments is a point or two. -/
def IsDirect (path : String) : Prop :=
  path.toList.head? = some '/' ∧ (∀ c ∈ path.toList, c ∉ ['\x00', '\t', '\n', '\r']) ∧
    ∀ s ∈ Text.pieces '/' path.toList, s ∉ [['.'], ['.', '.']]

/-- Three paths that a URL does not keep. The path alone makes the file; the URL makes another, or
none at all. -/
theorem connect_astray :
    (IsDirect "/my data.db" ∧
      ((Sqlite.openNamed "/my data.db" : StateM FileSystem _).run .empty).2.node?
        ["my data.db"] = some (.file (.text "")) ∧
      ((Sqlite.connect "sqlite:/my data.db" : StateM FileSystem _).run .empty).2.node?
        ["my data.db"] = none) ∧
    (IsDirect "/a?b.db" ∧
      ((Sqlite.openNamed "/a?b.db" : StateM FileSystem _).run .empty).2.node?
        ["a?b.db"] = some (.file (.text "")) ∧
      ((Sqlite.connect "sqlite:/a?b.db" : StateM FileSystem _).run .empty).2.node?
        ["a?b.db"] = none) ∧
    (IsDirect "//a.db" ∧
      ((Sqlite.openNamed "//a.db" : StateM FileSystem _).run .empty).2.node?
        ["a.db"] = some (.file (.text "")) ∧
      ((Sqlite.connect "sqlite://a.db" : StateM FileSystem _).run .empty).2.node?
        ["a.db"] = none) := by
  refine ⟨⟨?_, rfl, rfl⟩, ⟨?_, rfl, rfl⟩, ⟨?_, rfl, rfl⟩⟩ <;> exact ⟨rfl, by simp, by decide⟩

end CollectionSql
