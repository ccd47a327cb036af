import Mathlib.Data.List.Basic
import CollectionSql.FileSystem.Basic

/-!
# What file systems keep

Making directories and writing files only adds to a file system: a directory stays a directory, and
what has a node keeps one (`GrowsTo`). A walk through directories therefore ends at the same name
afterwards, and what was made or written once can be made or written again.

Results:
* `walk_of_growsTo`: a walk ends where it ended before the file system grew.
* `createDirectories_growsTo`, `writeFile_growsTo`: both operations only add.
* `createDirectories_again`: directories that were made are there.
* `readText_writeFile`: a text that was written is read back.
* `writeFile_again`: a file that was written can be written again.
-/

namespace CollectionSql.FileSystem

/-- A file system with nothing in it. -/
def empty : FileSystem := ⟨.directory [], []⟩

/-! ## Growing -/

/-- All directories of a file system are directories of the other, and whatever has a node in it has
one in the other. -/
structure GrowsTo (fs fs' : FileSystem) : Prop where
  workingDirectory : fs'.workingDirectory = fs.workingDirectory
  directories : ∀ name, fs.node? name = some .directory → fs'.node? name = some .directory
  nodes : ∀ name, (fs.node? name).isSome → (fs'.node? name).isSome

theorem GrowsTo.refl (fs : FileSystem) : fs.GrowsTo fs :=
  ⟨rfl, fun _ h => h, fun _ h => h⟩

theorem GrowsTo.trans {fs₁ fs₂ fs₃ : FileSystem} (h : fs₁.GrowsTo fs₂) (h' : fs₂.GrowsTo fs₃) :
    fs₁.GrowsTo fs₃ :=
  ⟨h'.workingDirectory.trans h.workingDirectory,
    fun name hname => h'.directories name (h.directories name hname),
    fun name hname => h'.nodes name (h.nodes name hname)⟩

theorem GrowsTo.startOf {fs fs' : FileSystem} (h : fs.GrowsTo fs') (path : String) :
    fs'.startOf path = fs.startOf path := by
  unfold FileSystem.startOf
  rw [h.workingDirectory]

/-- What may be stored under a name: its directory exists, and it is no directory itself. -/
structure Free (fs : FileSystem) (name : FileName) : Prop where
  ne_nil : name ≠ []
  parent : fs.node? name.dropLast = some .directory
  notDirectory : fs.node? name ≠ some .directory

theorem Free.growsTo_put {fs : FileSystem} {name : FileName} (h : fs.Free name) (node : FileNode) :
    fs.GrowsTo (fs.put name node) := by
  refine ⟨rfl, fun other hother => ?_, fun other hother => ?_⟩
  · have hne : other ≠ name := by
      rintro rfl
      exact h.notDirectory hother
    rw [node?_put _ _ _ _ h.ne_nil h.parent h.notDirectory, if_neg hne]
    exact hother
  · rw [node?_put _ _ _ _ h.ne_nil h.parent h.notDirectory]
    split
    · rfl
    · exact hother

theorem Free.node?_put_self {fs : FileSystem} {name : FileName} (h : fs.Free name)
    (node : FileNode) : (fs.put name node).node? name = some node := by
  rw [node?_put _ _ _ _ h.ne_nil h.parent h.notDirectory, if_pos rfl]

theorem free_of_not_isSome {fs : FileSystem} {here : FileName} {name : String}
    (hdir : fs.node? here = some .directory) (hnone : ¬(fs.node? (here ++ [name])).isSome) :
    fs.Free (here ++ [name]) := by
  refine ⟨by simp, by rwa [List.dropLast_concat], fun h => ?_⟩
  rw [h] at hnone
  exact hnone rfl

/-! ## Walks -/

theorem bind_eq_ok {α β : Type} {x : Except FileFault α} {f : α → Except FileFault β} {b : β} :
    (x >>= f) = .ok b ↔ ∃ a, x = .ok a ∧ f a = .ok b := by
  cases x <;> simp [bind, Except.bind]

theorem pure_eq_ok {α : Type} {a b : α} : (pure a : Except FileFault α) = .ok b ↔ b = a :=
  ⟨fun h => (Except.ok.inj h).symm, fun h => congrArg Except.ok h.symm⟩

/-- A check that fails, before what is done if it does not. -/
theorem check_eq_ok_iff {α : Type} {p : Prop} [Decidable p] {fault : FileFault}
    {f : PUnit → Except FileFault α} {x : Except FileFault α} {a : α} :
    (if p then (throw fault : Except FileFault PUnit) >>= f else x) = .ok a ↔ ¬p ∧ x = .ok a := by
  by_cases h : p
  · simp [h, throw, throwThe, MonadExceptOf.throw, bind, Except.bind]
  · simp [h]

/-- A step of a walk: it starts in a directory, and stays, goes up, or goes down to a node. -/
theorem walk_cons_eq_ok_iff {fs : FileSystem} {here there : FileName} {name : String}
    {names : List String} :
    fs.walk here (name :: names) = .ok there ↔ fs.node? here = some .directory ∧
      (isHere name = true ∧ fs.walk here names = .ok there ∨
        isHere name = false ∧ name = ".." ∧ fs.walk here.dropLast names = .ok there ∨
        isHere name = false ∧ name ≠ ".." ∧ name.utf8ByteSize ≤ maxNameLength ∧
          (fs.node? (here ++ [name])).isSome ∧ fs.walk (here ++ [name]) names = .ok there) := by
  rw [walk]
  cases hdir : fs.node? here with
  | none => simp
  | some node =>
    cases node with
    | file content => simp
    | directory =>
      simp only [true_and]
      cases hhere : isHere name with
      | true => simp
      | false =>
        by_cases hup : name = ".."
        · simp [hup]
        · by_cases hlong : maxNameLength < name.utf8ByteSize
          · have hnot : ¬name.utf8ByteSize ≤ maxNameLength := by omega
            simp [hup, hlong, hnot]
          · have hshort : name.utf8ByteSize ≤ maxNameLength := by omega
            by_cases hsome : (fs.node? (here ++ [name])).isSome
            · simp [hup, hlong, hshort, hsome]
            · simp [hup, hlong, hsome]

theorem walk_of_growsTo {fs fs' : FileSystem} (h : fs.GrowsTo fs') {here there : FileName}
    {names : List String} (hwalk : fs.walk here names = .ok there) :
    fs'.walk here names = .ok there := by
  induction names generalizing here with
  | nil => exact hwalk
  | cons name names ih =>
    rw [walk_cons_eq_ok_iff] at hwalk ⊢
    obtain ⟨hdir, hstep⟩ := hwalk
    refine ⟨h.directories here hdir, ?_⟩
    rcases hstep with ⟨hhere, hrest⟩ | ⟨hhere, hup, hrest⟩ | ⟨hhere, hup, hshort, hsome, hrest⟩
    · exact .inl ⟨hhere, ih hrest⟩
    · exact .inr (.inl ⟨hhere, hup, ih hrest⟩)
    · exact .inr (.inr ⟨hhere, hup, hshort, h.nodes _ hsome, ih hrest⟩)

theorem walk_append {fs : FileSystem} {here there : FileName} {names rest : List String} :
    fs.walk here (names ++ rest) = .ok there ↔
      ∃ mid, fs.walk here names = .ok mid ∧ fs.walk mid rest = .ok there := by
  induction names generalizing here with
  | nil => simp [walk]
  | cons name names ih =>
    simp only [List.cons_append, walk_cons_eq_ok_iff, ih]
    constructor
    · rintro ⟨hdir, ⟨hhere, mid, hmid, hrest⟩ | ⟨hhere, hup, mid, hmid, hrest⟩ |
        ⟨hhere, hup, hshort, hsome, mid, hmid, hrest⟩⟩
      · exact ⟨mid, ⟨hdir, .inl ⟨hhere, hmid⟩⟩, hrest⟩
      · exact ⟨mid, ⟨hdir, .inr (.inl ⟨hhere, hup, hmid⟩)⟩, hrest⟩
      · exact ⟨mid, ⟨hdir, .inr (.inr ⟨hhere, hup, hshort, hsome, hmid⟩)⟩, hrest⟩
    · rintro ⟨mid, ⟨hdir, ⟨hhere, hmid⟩ | ⟨hhere, hup, hmid⟩ | ⟨hhere, hup, hshort, hsome, hmid⟩⟩,
        hrest⟩
      · exact ⟨hdir, .inl ⟨hhere, mid, hmid, hrest⟩⟩
      · exact ⟨hdir, .inr (.inl ⟨hhere, hup, mid, hmid, hrest⟩)⟩
      · exact ⟨hdir, .inr (.inr ⟨hhere, hup, hshort, hsome, mid, hmid, hrest⟩)⟩

/-! ## Making directories -/

theorem makeWalk_growsTo (fs : FileSystem) (here : FileName) (names : List String) :
    fs.GrowsTo (fs.makeWalk here names).1 := by
  induction names generalizing fs here with
  | nil =>
    rw [makeWalk]
    split <;> exact .refl fs
  | cons name names ih =>
    rw [makeWalk]
    split
    · next hdir =>
      split
      · exact ih fs here
      split
      · exact ih fs here.dropLast
      split
      · exact .refl fs
      split
      · exact ih fs (here ++ [name])
      · next hnone =>
        exact ((free_of_not_isSome hdir hnone).growsTo_put _).trans (ih _ (here ++ [name]))
    · exact .refl fs

/-- A walk that made its directories ends in a directory and makes nothing the next time. -/
theorem makeWalk_again {fs made fs' : FileSystem} {here : FileName} {names : List String}
    (hmade : fs.makeWalk here names = (made, .ok ())) (h : made.GrowsTo fs') :
    fs'.makeWalk here names = (fs', .ok ()) := by
  induction names generalizing fs here with
  | nil =>
    rw [makeWalk] at hmade
    split at hmade
    · next hdir =>
      cases hmade
      rw [makeWalk, h.directories here hdir]
    · cases hmade
  | cons name names ih =>
    have hgrows := makeWalk_growsTo fs here (name :: names)
    rw [hmade] at hgrows
    rw [makeWalk] at hmade
    split at hmade
    · next hdir =>
      have hdir' : fs'.node? here = some .directory :=
        h.directories here (hgrows.directories here hdir)
      rw [makeWalk, hdir']
      simp only
      split at hmade
      · next hhere =>
        rw [if_pos hhere]
        exact ih hmade
      next hhere =>
      rw [if_neg hhere]
      split at hmade
      · next hup =>
        rw [if_pos hup]
        exact ih hmade
      next hup =>
      rw [if_neg hup]
      split at hmade
      · cases hmade
      next hshort =>
      rw [if_neg hshort]
      split at hmade
      · next hsome =>
        rw [if_pos (h.nodes _ (hgrows.nodes _ hsome))]
        exact ih hmade
      · next hnone =>
        -- the directory that was made is there now
        have hput := makeWalk_growsTo (fs.put (here ++ [name]) .directory) (here ++ [name]) names
        rw [hmade] at hput
        have hself := (free_of_not_isSome hdir hnone).node?_put_self .directory
        have hsome : (fs'.node? (here ++ [name])).isSome := by
          rw [h.directories _ (hput.directories _ hself)]
          rfl
        rw [if_pos hsome]
        exact ih hmade
    · cases hmade

/-- Directories are made by one walk. If the path ends in a point, another walk must reach it. -/
theorem createDirectories_eq_ok_iff {fs made : FileSystem} {path : String} :
    fs.createDirectories path = (made, .ok ()) ↔ path = "" ∧ fs = made ∨
      path ≠ "" ∧ checkPath path = .ok () ∧
        if (writtenNames path).getLast? = some "." then
          fs.makeWalk (fs.startOf path) ((writtenNames path).filter (· ≠ ".")).dropLast =
            (made, .ok ()) ∧ ∃ there, made.walk (fs.startOf path) (writtenNames path) = .ok there
        else fs.makeWalk (fs.startOf path) (writtenNames path) = (made, .ok ()) := by
  unfold createDirectories
  by_cases hempty : path = ""
  · simp [hempty]
  cases hcheck : checkPath path with
  | error fault => simp [hempty]
  | ok u =>
    by_cases hdot : (writtenNames path).getLast? = some "."
    · rcases hwalk : fs.makeWalk (fs.startOf path)
        ((writtenNames path).filter (· ≠ ".")).dropLast with ⟨walked, result⟩
      cases result with
      | error fault =>
        simp only [hempty, hdot, hwalk, if_true, if_false, false_and, false_or, ne_eq,
          not_false_eq_true, Prod.mk.injEq, reduceCtorEq, and_false]
      | ok u =>
        simp only [hempty, hdot, hwalk, if_true, if_false, false_and, false_or, ne_eq,
          not_false_eq_true, true_and, Prod.mk.injEq, and_true]
        refine and_congr_right fun hmade => ?_
        subst hmade
        cases walked.walk (fs.startOf path) (writtenNames path) <;> simp [Except.map]
    · simp [hempty, hdot]

theorem createDirectories_growsTo {fs made : FileSystem} {path : String}
    (h : fs.createDirectories path = (made, .ok ())) : fs.GrowsTo made := by
  rcases createDirectories_eq_ok_iff.mp h with ⟨-, rfl⟩ | ⟨-, -, hmade⟩
  · exact .refl fs
  · split at hmade
    · have hgrows := makeWalk_growsTo fs (fs.startOf path)
        ((writtenNames path).filter (· ≠ ".")).dropLast
      rwa [hmade.1] at hgrows
    · have hgrows := makeWalk_growsTo fs (fs.startOf path) (writtenNames path)
      rwa [hmade] at hgrows

/-- Directories that were made are there. -/
theorem createDirectories_again {fs made fs' : FileSystem} {path : String}
    (hmade : fs.createDirectories path = (made, .ok ())) (h : made.GrowsTo fs') :
    fs'.createDirectories path = (fs', .ok ()) := by
  have hstart := ((createDirectories_growsTo hmade).trans h).startOf path
  rw [createDirectories_eq_ok_iff] at hmade ⊢
  rcases hmade with ⟨hempty, -⟩ | ⟨hempty, hcheck, hmade⟩
  · exact .inl ⟨hempty, rfl⟩
  refine .inr ⟨hempty, hcheck, ?_⟩
  rw [hstart]
  split at hmade
  · next hdot =>
    obtain ⟨hwalk, there, hthere⟩ := hmade
    rw [if_pos hdot]
    exact ⟨makeWalk_again hwalk h, there, walk_of_growsTo h hthere⟩
  · next hdot =>
    rw [if_neg hdot]
    exact makeWalk_again hmade h

/-! ## Writing files -/

/-- The name of a file that is written: a walk through the directory of the path, and the last name
in it. -/
theorem resolveNew_eq_ok_iff {fs : FileSystem} {path : String} {name : FileName} :
    fs.resolveNew path = .ok name ↔ checkPath path = .ok () ∧ ∃ directory,
      fs.walk (fs.startOf path) (namesOf path).dropLast = .ok directory ∧
      fs.node? directory = some .directory ∧
      (namesOf path).getLastD "" ∉ ["", ".", ".."] ∧
      ((namesOf path).getLastD "").utf8ByteSize ≤ maxNameLength ∧
      name = directory ++ [(namesOf path).getLastD ""] := by
  unfold resolveNew
  simp only [bind_eq_ok, check_eq_ok_iff, pure_eq_ok, List.contains_iff_mem, Nat.not_lt, ne_eq,
    not_not]
  constructor
  · rintro ⟨u, hcheck, directory, hwalk, hrest⟩
    exact ⟨hcheck, directory, hwalk, hrest⟩
  · rintro ⟨hcheck, directory, hwalk, hrest⟩
    exact ⟨(), hcheck, directory, hwalk, hrest⟩

theorem writeFile_eq_ok_iff {fs fs' : FileSystem} {path : String} {content : FileContent} :
    fs.writeFile path content = .ok fs' ↔ ∃ name, fs.resolveNew path = .ok name ∧
      fs.node? name ≠ some .directory ∧ fs' = fs.put name (.file content) := by
  unfold writeFile
  simp only [bind_eq_ok, check_eq_ok_iff, pure_eq_ok]

theorem free_of_resolveNew {fs : FileSystem} {path : String} {name : FileName}
    (h : fs.resolveNew path = .ok name) (hnew : fs.node? name ≠ some .directory) :
    fs.Free name := by
  obtain ⟨-, directory, -, hdir, -, -, rfl⟩ := resolveNew_eq_ok_iff.mp h
  exact ⟨by simp, by rwa [List.dropLast_concat], hnew⟩

theorem resolveNew_of_growsTo {fs fs' : FileSystem} (h : fs.GrowsTo fs') {path : String}
    {name : FileName} (hname : fs.resolveNew path = .ok name) : fs'.resolveNew path = .ok name := by
  obtain ⟨hcheck, directory, hwalk, hdir, hlast, hshort, rfl⟩ := resolveNew_eq_ok_iff.mp hname
  refine resolveNew_eq_ok_iff.mpr
    ⟨hcheck, directory, ?_, h.directories directory hdir, hlast, hshort, rfl⟩
  rw [h.startOf]
  exact walk_of_growsTo h hwalk

/-- A path leads to the file that would be written under it, if there is one. -/
theorem resolve_of_resolveNew {fs : FileSystem} {path : String} {name : FileName}
    (h : fs.resolveNew path = .ok name) (hsome : (fs.node? name).isSome) :
    fs.resolve path = .ok name := by
  obtain ⟨hcheck, directory, hwalk, hdir, hlast, hshort, rfl⟩ := resolveNew_eq_ok_iff.mp h
  have hne : namesOf path ≠ [] := by
    simpa [namesOf] using Text.pieces_ne_nil '/' path.toList
  have hnames : namesOf path = (namesOf path).dropLast ++ [(namesOf path).getLastD ""] := by
    rw [List.getLastD_eq_getLast?, List.getLast?_eq_some_getLast hne, Option.getD_some,
      List.dropLast_concat_getLast]
  simp only [List.mem_cons, List.not_mem_nil, or_false, not_or] at hlast
  obtain ⟨hempty, hdot, hup⟩ := hlast
  have hhere : isHere ((namesOf path).getLastD "") = false := by
    simp only [isHere, Bool.or_eq_false_iff, beq_eq_false_iff_ne, ne_eq]
    exact ⟨hempty, hdot⟩
  have hlastStep : fs.walk directory [(namesOf path).getLastD ""] =
      .ok (directory ++ [(namesOf path).getLastD ""]) :=
    walk_cons_eq_ok_iff.mpr ⟨hdir, .inr (.inr ⟨hhere, hup, hshort, hsome, rfl⟩)⟩
  have hwhole := walk_append.mpr ⟨directory, hwalk, hlastStep⟩
  rw [← hnames] at hwhole
  exact bind_eq_ok.mpr ⟨(), hcheck, hwhole⟩

section

variable {fs fs' : FileSystem} {path : String} {content : FileContent}

theorem writeFile_growsTo (h : fs.writeFile path content = .ok fs') : fs.GrowsTo fs' := by
  obtain ⟨name, hname, hnew, rfl⟩ := writeFile_eq_ok_iff.mp h
  exact (free_of_resolveNew hname hnew).growsTo_put _

/-- A text that was written is read back. -/
theorem readText_writeFile {text : String} (h : fs.writeFile path (.text text) = .ok fs') :
    fs'.readText path = .ok text := by
  have hgrows := writeFile_growsTo h
  obtain ⟨name, hname, hnew, rfl⟩ := writeFile_eq_ok_iff.mp h
  have hnode := (free_of_resolveNew hname hnew).node?_put_self (.file (.text text))
  have hresolve := resolve_of_resolveNew (resolveNew_of_growsTo hgrows hname) (by rw [hnode]; rfl)
  refine bind_eq_ok.mpr ⟨name, hresolve, ?_⟩
  rw [hnode]
  rfl

/-- A file that was written can be written again, with any content. -/
theorem writeFile_again (h : fs.writeFile path content = .ok fs') (other : FileContent) :
    ∃ fs'', fs'.writeFile path other = .ok fs'' := by
  have hgrows := writeFile_growsTo h
  obtain ⟨name, hname, hnew, rfl⟩ := writeFile_eq_ok_iff.mp h
  have hnode := (free_of_resolveNew hname hnew).node?_put_self (.file content)
  refine ⟨_, writeFile_eq_ok_iff.mpr ⟨name, resolveNew_of_growsTo hgrows hname, ?_, rfl⟩⟩
  rw [hnode]
  exact nofun

end

end CollectionSql.FileSystem
