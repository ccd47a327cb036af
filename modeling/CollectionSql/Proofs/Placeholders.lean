import CollectionSql.Plan
import CollectionSql.Proofs.Printing

/-!
# Placeholders and arguments

A printed statement binds its arguments by position: the placeholders of its text, as a scanner that
knows about quotes finds them, are exactly those that were written for bound values, in the order of
the arguments. A question mark in a name is never one of them, since names stand in closed quoted
spans.

Results:
* `intercalate_segments`: the text is what stands between the placeholders, put together with them.
* `placeholdersFrom_render`: as many placeholders are found as values were bound.
* `placeholders_bind_arguments`: both together, and the placeholder written for each value is the
  one at the position of that value.
-/

namespace CollectionSql.Sql

/-! ## The text between placeholders -/

/-- The text of pieces up to each of their bound values, and after the last. -/
def segments : List Piece → List (List Char)
  | [] => [[]]
  | .argument _ :: ps => [] :: segments ps
  | p :: ps => (segments ps).modifyHead (p.text ++ ·)

/-- The values that pieces bind, in order. -/
def boundValues (ps : List Piece) : List Value := ps.filterMap Piece.value?

theorem segments_cons_argument (v : Value) (ps : List Piece) :
    segments (.argument v :: ps) = [] :: segments ps := rfl

theorem segments_cons_of_value?_eq_none {p : Piece} (h : p.value? = none) (ps : List Piece) :
    segments (p :: ps) = (segments ps).modifyHead (p.text ++ ·) := by
  cases p with
  | argument v => cases h
  | word w => rfl
  | identifier name => rfl
  | literal name => rfl

theorem Piece.eq_argument_of_value? {p : Piece} {v : Value} (h : p.value? = some v) :
    p = .argument v := by
  cases p with
  | argument w =>
    cases h
    rfl
  | word w => cases h
  | identifier name => cases h
  | literal name => cases h

/-- There is always a segment, so the text of a piece can be put before the first one. -/
theorem exists_segments (ps : List Piece) : ∃ first rest, segments ps = first :: rest := by
  induction ps with
  | nil => exact ⟨[], [], rfl⟩
  | cons p ps ih =>
    obtain ⟨first, rest, hsegments⟩ := ih
    rcases h : p.value? with _ | v
    · exact ⟨p.text ++ first, rest, by
        rw [segments_cons_of_value?_eq_none h, hsegments, List.modifyHead_cons]⟩
    · rw [Piece.eq_argument_of_value? h]
      exact ⟨[], segments ps, rfl⟩

theorem length_segments (ps : List Piece) :
    (segments ps).length = (boundValues ps).length + 1 := by
  induction ps with
  | nil => rfl
  | cons p ps ih =>
    rcases h : p.value? with _ | v
    · rw [segments_cons_of_value?_eq_none h, List.length_modifyHead, ih, boundValues, boundValues,
        List.filterMap_cons_none h]
    · rw [boundValues, List.filterMap_cons_some h, Piece.eq_argument_of_value? h,
        segments_cons_argument, List.length_cons, List.length_cons, ih, boundValues]

theorem intercalate_modifyHead (sep cs first : List Char) (rest : List (List Char)) :
    sep.intercalate ((first :: rest).modifyHead (cs ++ ·)) =
      cs ++ sep.intercalate (first :: rest) := by
  cases rest with
  | nil => simp
  | cons next rest => simp [List.intercalate_cons_cons]

/-- The text is what stands between the placeholders, put together with them. -/
theorem intercalate_segments (ps : List Piece) :
    ['?'].intercalate (segments ps) = render ps := by
  induction ps with
  | nil => rfl
  | cons p ps ih =>
    obtain ⟨first, rest, hsegments⟩ := exists_segments ps
    rcases h : p.value? with _ | v
    · rw [segments_cons_of_value?_eq_none h, hsegments, intercalate_modifyHead, ← hsegments, ih,
        render_cons]
    · rw [Piece.eq_argument_of_value? h, segments_cons_argument, hsegments,
        List.intercalate_cons_cons, ← hsegments, ih]
      rfl

/-! ## What a scanner finds -/

theorem Piece.count_outside {p : Piece} (h : p.Harmless) :
    p.outside.count '?' = (boundValues [p]).length := by
  cases p with
  | word w => exact List.count_eq_zero.mpr h.2
  | identifier name => rfl
  | literal name => rfl
  | argument v => rfl

/-- A scanner finds as many placeholders in harmless pieces as they bind values. -/
theorem placeholdersFrom_render {ps : List Piece} (h : AllHarmless ps) :
    placeholdersFrom none (render ps) = (boundValues ps).length := by
  rw [placeholdersFrom_eq_count, unquotedFrom_render h]
  induction ps with
  | nil => rfl
  | cons p ps ih =>
    obtain ⟨hp, hps⟩ := allHarmless_cons.mp h
    rw [List.flatMap_cons, List.count_append, Piece.count_outside hp, ih hps]
    have happend : boundValues (p :: ps) = boundValues [p] ++ boundValues ps :=
      List.filterMap_append (l := [p])
    rw [happend, List.length_append]

/-- A text without placeholders, after which a scanner is outside of quotes. -/
def Inert (cs : List Char) : Prop := placeholdersFrom none cs = 0 ∧ Span.after none cs = none

theorem Inert.append {cs ds : List Char} (hcs : Inert cs) (hds : Inert ds) :
    Inert (cs ++ ds) := by
  obtain ⟨hcs, hafter⟩ := hcs
  rw [placeholdersFrom_eq_count] at hcs
  constructor
  · rw [placeholdersFrom_eq_count, unquotedFrom_append, hafter, List.count_append, hcs,
      ← placeholdersFrom_eq_count, hds.1]
  · rw [Span.after_append, hafter, hds.2]

theorem inert_segments {ps : List Piece} (h : AllHarmless ps) : ∀ seg ∈ segments ps, Inert seg := by
  induction ps with
  | nil =>
    intro seg hseg
    rw [List.mem_singleton.mp hseg]
    exact ⟨rfl, rfl⟩
  | cons p ps ih =>
    obtain ⟨hp, hps⟩ := allHarmless_cons.mp h
    obtain ⟨first, rest, hsegments⟩ := exists_segments ps
    rcases hvalue : p.value? with _ | v
    · have hfirst := ih hps
      rw [hsegments, List.forall_mem_cons] at hfirst
      have hpiece : Inert p.text := by
        refine ⟨?_, (Piece.scan hp).1⟩
        rw [placeholdersFrom_eq_count, (Piece.scan hp).2, Piece.count_outside hp, boundValues,
          List.filterMap_cons_none hvalue]
        rfl
      rw [segments_cons_of_value?_eq_none hvalue, hsegments, List.modifyHead_cons,
        List.forall_mem_cons]
      exact ⟨hpiece.append hfirst.1, hfirst.2⟩
    · rw [Piece.eq_argument_of_value? hvalue, segments_cons_argument, List.forall_mem_cons]
      exact ⟨⟨rfl, rfl⟩, ih hps⟩

/-! ## Binding by position -/

/-- **Main theorem.** The text of any plan is made of one more segment than it has arguments, with a
placeholder between neighbours, and no segment has a placeholder of its own or leaves a quoted span
open. The placeholder that was written for a bound value is the one at the position of that value
among the arguments. Hence a plan has as many placeholders as arguments. -/
theorem placeholders_bind_arguments (plan : Plan) :
    (∃ segs : List (List Char), segs.length = plan.args.length + 1 ∧
      plan.sql.toList = ['?'].intercalate segs ∧
      ∀ seg ∈ segs, placeholdersFrom none seg = 0 ∧ Span.after none seg = none) ∧
    (∀ before v after, plan.select.pieces = before ++ .argument v :: after →
      plan.sql.toList = render before ++ '?' :: render after ∧
      Span.after none (render before) = none ∧
      plan.args[placeholdersFrom none (render before)]? = some v) ∧
    plan.placeholders = plan.args.length := by
  have hall := plan.select.allHarmless
  have htext : plan.sql.toList = render plan.select.pieces := plan.select.toList_text
  refine ⟨⟨segments plan.select.pieces, ?_, ?_, inert_segments hall⟩, ?_, ?_⟩
  · exact length_segments plan.select.pieces
  · rw [htext, intercalate_segments]
  · intro before v after hpieces
    rw [hpieces] at hall
    obtain ⟨hbefore, -⟩ := allHarmless_append.mp hall
    refine ⟨?_, after_render hbefore, ?_⟩
    · rw [htext, hpieces, render_append, render_cons]
      rfl
    · rw [placeholdersFrom_render hbefore, Plan.args, Select.arguments, hpieces,
        List.filterMap_append, ← boundValues, List.getElem?_append_right (Nat.le_refl _),
        Nat.sub_self]
      rfl
  · rw [Plan.placeholders, placeholders, htext, placeholdersFrom_render hall]
    rfl

/-- A plan whose names are made of quotes and question marks. -/
def riddle : Plan where
  select := {
    projection := [(.jsonObject [("it's a ?", .value (.string "?"))], some "\"?")]
    source := some (.table "?" "'?\"")
    joins := []
    filter := some (.binary .ne (.col "'?\"" "why?") (.value (.int 2)))
    groupBy := []
    orderBy := []
    limit := none }

theorem riddle_binds : ∃ before,
    riddle.select.pieces = before ++ .argument (.int 2) :: [] ∧
      placeholdersFrom none (render before) = 1 ∧ riddle.args[1]? = some (.int 2) := by
  have hpieces : riddle.select.pieces =
      riddle.select.pieces.dropLast ++ .argument (.int 2) :: [] := by decide
  have hcount : placeholdersFrom none (render riddle.select.pieces.dropLast) = 1 := by decide
  obtain ⟨-, hbinds, -⟩ := placeholders_bind_arguments riddle
  obtain ⟨-, -, hvalue⟩ := hbinds _ _ _ hpieces
  exact ⟨_, hpieces, hcount, by rw [hcount] at hvalue; exact hvalue⟩

end CollectionSql.Sql
