import Mathlib.Data.List.Chain
import CollectionSql.ConfigFile
import CollectionSql.Proofs.DocumentText
import CollectionSql.Proofs.FileSystems
import CollectionSql.Proofs.UniqueDocuments

/-!
# Writing configuration files again and again

Documents are written into one directory, one call after the other. A call reads the file, compares
and writes: what it reports is read off the text that it found, and what it leaves is the text of
its document. So the report of a call tells what the calls before it wrote, and it tells it rightly
because no two documents have the same text.

A run is the list of its calls (`calls`), each with the file system before and after it. What the
file system must be able to do is asked of the first state only (`Storable`): unless the file is
there and cannot be read, the directory can be made and the file can be written. A call keeps this.

Results:
* `run_write`: what a call does, by what it reads.
* `Call.report`: what a call reports and what it leaves, in a state that can store.
* `storable_after`: a call leaves a state that can store.
* `calls_report`: every call of a run, and every two successive ones.
-/

namespace CollectionSql.ConfigFile

/-- A call that writes a document, with what it starts from and what it leads to. -/
structure Call (directory : String) where
  before : FileSystem
  document : Document
  result : Except Fault Outcome
  after : FileSystem
  run_eq : (write directory document : StateM FileSystem _).run before = (result, after)

/-- The call that starts from a file system. -/
def call (directory : String) (fs : FileSystem) (d : Document) : Call directory where
  before := fs
  document := d
  result := ((write directory d : StateM FileSystem _).run fs).1
  after := ((write directory d : StateM FileSystem _).run fs).2
  run_eq := rfl

/-- The calls that write documents one after the other. -/
def calls (directory : String) (fs : FileSystem) : List Document → List (Call directory)
  | [] => []
  | d :: ds => call directory fs d :: calls directory (call directory fs d).after ds

/-- The file is there and cannot be read, or it can be written after its directory is made. -/
def Storable (directory : String) (fs : FileSystem) : Prop :=
  (∀ fault, fs.readText (path directory) = .error fault → fault = .notFound) →
    ∃ made, fs.createDirectories directory = (made, .ok ()) ∧
      ∀ text, ∃ fs', made.writeFile (path directory) (.text text) = .ok fs'

/-- A document that reading gives back: no key is repeated in it, its object types hold no numbers
but integers of 64 bits, and it does not nest too deep. -/
structure ReadsBack (d : Document) : Prop where
  keys : d.DistinctKeys
  types : ∀ c, d.config = some c → ∀ e ∈ c.objectTypes, e.2.Regular
  depth : d.toJson.depth ≤ Json.nestingLimit

/-- What a call reports, by the text that it found, and what it leaves. -/
structure Call.Report {directory : String} (c : Call directory) : Prop where
  created : c.result = .ok .created ↔ c.before.readText (path directory) = .error .notFound
  unchanged : c.result = .ok .unchanged ↔
    c.before.readText (path directory) = .ok c.document.text
  updated : c.result = .ok .updated ↔
    ∃ text, c.before.readText (path directory) = .ok text ∧ text ≠ c.document.text
  refused : ∀ fault, c.result = .error fault ↔ ∃ cause, cause ≠ .notFound ∧
    c.before.readText (path directory) = .error cause ∧ fault = .read (path directory) cause
  /-- A call that has nothing to write or cannot read leaves everything as it was. -/
  untouched : (c.result = .ok .unchanged ∨ ∃ fault, c.result = .error fault) → c.after = c.before
  /-- A call that succeeds leaves the text of its document. -/
  stored : ∀ outcome, c.result = .ok outcome →
    c.after.readText (path directory) = .ok c.document.text

variable {directory : String}

/-! ## One call -/

theorem run_bind {α β : Type} {x : StateM FileSystem α} {f : α → StateM FileSystem β} {a : α}
    {fs fs' : FileSystem} (h : x.run fs = (a, fs')) : (x >>= f).run fs = (f a).run fs' := by
  rw [StateT.run_bind, h]
  rfl

theorem run_store {fs made fs' : FileSystem} {text : String} (outcome : Outcome)
    (hmade : fs.createDirectories directory = (made, .ok ()))
    (hwrite : made.writeFile (path directory) (.text text) = .ok fs') :
    (store directory text outcome : StateM FileSystem _).run fs = (.ok outcome, fs') := by
  have hmake : (FileAccess.createDirectories directory : StateM FileSystem _).run fs =
      (.ok (), made) := by
    show ((fs.createDirectories directory).2, (fs.createDirectories directory).1) = _
    rw [hmade]
  have hput : (FileAccess.writeText (path directory) text : StateM FileSystem _).run made =
      (.ok (), fs') := by
    simp only [FileAccess.writeText, StateT.run_bind, StateT.run_get, pure_bind, hwrite]
    rfl
  rw [store, run_bind hmake]
  show (FileAccess.writeText (path directory) text >>= _ : StateM FileSystem _).run made = _
  rw [run_bind hput]
  rfl

/-- A call, by what it reads. -/
theorem run_write (fs : FileSystem) (d : Document) :
    (write directory d : StateM FileSystem _).run fs =
      match fs.readText (path directory) with
      | .ok text =>
        if text = d.text then (.ok .unchanged, fs)
        else (store directory d.text .updated : StateM FileSystem _).run fs
      | .error .notFound => (store directory d.text .created : StateM FileSystem _).run fs
      | .error fault => (.error (.read (path directory) fault), fs) := by
  have hread : (FileAccess.readText (path directory) : StateM FileSystem _).run fs =
      (fs.readText (path directory), fs) := rfl
  rw [write, run_bind hread]
  cases fs.readText (path directory) with
  | ok text =>
    simp only
    split <;> rfl
  | error fault => cases fault <;> rfl

/-- What a call can do in a state that can store: it finds the text of its document, or cannot read
the file, or writes the file after making its directory. -/
inductive Step (c : Call directory) : Prop where
  | unchanged (hread : c.before.readText (path directory) = .ok c.document.text)
    (hresult : c.result = .ok .unchanged) (hafter : c.after = c.before)
  | refused {cause : FileFault} (hcause : cause ≠ .notFound)
    (hread : c.before.readText (path directory) = .error cause)
    (hresult : c.result = .error (.read (path directory) cause)) (hafter : c.after = c.before)
  | stored {made : FileSystem} {outcome : Outcome}
    (hread : outcome = .created ∧ c.before.readText (path directory) = .error .notFound ∨
      outcome = .updated ∧
        ∃ text, c.before.readText (path directory) = .ok text ∧ text ≠ c.document.text)
    (hresult : c.result = .ok outcome)
    (hmade : c.before.createDirectories directory = (made, .ok ()))
    (hwrite : made.writeFile (path directory) (.text c.document.text) = .ok c.after)

theorem step {c : Call directory} (h : Storable directory c.before) : Step c := by
  have hrun := c.run_eq
  rw [run_write] at hrun
  -- the three ways to go on from what was read
  have hstore : ∀ {outcome : Outcome},
      (outcome = .created ∧ c.before.readText (path directory) = .error .notFound ∨
        outcome = .updated ∧
          ∃ text, c.before.readText (path directory) = .ok text ∧ text ≠ c.document.text) →
      (store directory c.document.text outcome : StateM FileSystem _).run c.before =
        (c.result, c.after) → Step c := by
    intro outcome hread hrun
    obtain ⟨made, hmade, hwrite⟩ := h (by
      intro fault hfault
      rcases hread with ⟨-, hread⟩ | ⟨-, text, hread, -⟩ <;> rw [hread] at hfault <;> cases hfault
      rfl)
    obtain ⟨fs', hfs'⟩ := hwrite c.document.text
    rw [run_store outcome hmade hfs'] at hrun
    obtain ⟨hresult, hafter⟩ := Prod.mk.inj hrun
    exact .stored hread hresult.symm hmade (hafter ▸ hfs')
  cases hread : c.before.readText (path directory) with
  | ok text =>
    rw [hread] at hrun
    simp only at hrun
    split at hrun
    · next htext =>
      obtain ⟨hresult, hafter⟩ := Prod.mk.inj hrun
      exact .unchanged (htext ▸ hread) hresult.symm hafter.symm
    · next htext => exact hstore (.inr ⟨rfl, text, hread, htext⟩) hrun
  | error cause =>
    rw [hread] at hrun
    by_cases hcause : cause = .notFound
    · subst hcause
      exact hstore (.inl ⟨rfl, hread⟩) hrun
    · have hfault : (c.result, c.after) =
          (.error (.read (path directory) cause), c.before) := by
        rw [← hrun]
        cases cause <;> first | rfl | exact absurd rfl hcause
      obtain ⟨hresult, hafter⟩ := Prod.mk.inj hfault
      exact .refused hcause hread hresult hafter

/-- A call leaves a state that can store. -/
theorem storable_after {c : Call directory} (h : Storable directory c.before) :
    Storable directory c.after := by
  cases step h with
  | unchanged _ _ hafter => rwa [hafter]
  | refused _ _ _ hafter => rwa [hafter]
  | stored _ _ hmade hwrite =>
    intro _
    have hgrows := FileSystem.writeFile_growsTo hwrite
    exact ⟨c.after, FileSystem.createDirectories_again hmade hgrows,
      fun text => FileSystem.writeFile_again hwrite (.text text)⟩

/-- What a call reports and leaves, in a state that can store. -/
theorem Call.report {c : Call directory} (h : Storable directory c.before) : c.Report := by
  cases step h with
  | unchanged hread hresult hafter =>
    refine ⟨?_, ?_, ?_, ?_, fun _ => hafter, ?_⟩
    · simp [hread, hresult]
    · simp [hread, hresult]
    · simp [hread, hresult]
    · simp [hread, hresult]
    · intro outcome _
      rw [hafter]
      exact hread
  | refused hcause hread hresult hafter =>
    refine ⟨?_, ?_, ?_, ?_, fun _ => hafter, ?_⟩
    · simp [hread, hresult, hcause]
    · simp [hread, hresult]
    · simp [hread, hresult]
    · intro fault
      simp [hread, hresult, hcause, eq_comm]
    · intro outcome houtcome
      rw [hresult] at houtcome
      cases houtcome
  | stored hread hresult hmade hwrite =>
    have hstored := FileSystem.readText_writeFile hwrite
    rcases hread with ⟨rfl, hread⟩ | ⟨rfl, text, hread, hne⟩
    · exact ⟨by simp [hread, hresult], by simp [hread, hresult], by simp [hread, hresult],
        by simp [hread, hresult], by simp [hresult], fun _ _ => hstored⟩
    · exact ⟨by simp [hread, hresult], by simp [hread, hresult, hne],
        by simp [hread, hresult, hne], by simp [hread, hresult], by simp [hresult],
        fun _ _ => hstored⟩

/-- A call that follows a success with the same document finds its text. -/
theorem Call.Report.again {c : Call directory} (h : c.Report) {outcome : Outcome}
    (hresult : c.result = .ok outcome) :
    (write directory c.document : StateM FileSystem _).run c.after = (.ok .unchanged, c.after) := by
  rw [run_write, h.stored outcome hresult]
  simp only [if_true]

/-- A call that finds the text of a document reports it unchanged exactly if it is its own. -/
theorem Call.Report.unchanged_iff {c : Call directory} (h : c.Report)
    (hdocument : c.document.toJson.Finite) {d : Document} (hd : d.toJson.Finite)
    (hread : c.before.readText (path directory) = .ok d.text) :
    c.result = .ok .unchanged ↔ c.document = d := by
  rw [h.unchanged, hread, Except.ok.injEq]
  constructor
  · intro htext
    exact Document.text_injective hdocument hd htext.symm
  · rintro rfl
    rfl

theorem parse_text_of_readsBack {d : Document} (h : ReadsBack d) :
    Document.parse d.text = .ok d := by
  have hcarried := Document.carried h.keys h.types
  rw [Document.parse, Document.text, (Json.Reader.parse?_text hcarried h.depth).2]

/-! ## Runs -/

theorem calls_isChain (fs : FileSystem) (docs : List Document) :
    (calls directory fs docs).IsChain fun c c' => c'.before = c.after := by
  induction docs generalizing fs with
  | nil => exact .nil
  | cons d ds ih =>
    refine (ih _).cons fun c hc => ?_
    cases ds with
    | nil => cases hc
    | cons d' ds =>
      cases hc
      rfl

theorem storable_of_mem_calls {fs : FileSystem} (h : Storable directory fs) {docs : List Document}
    {c : Call directory} (hc : c ∈ calls directory fs docs) : Storable directory c.before := by
  induction docs generalizing fs with
  | nil => cases hc
  | cons d ds ih =>
    rcases List.mem_cons.mp hc with rfl | hc
    · exact h
    · exact ih (storable_after (c := call directory fs d) h) hc

theorem document_of_mem_calls {fs : FileSystem} {docs : List Document} {c : Call directory}
    (hc : c ∈ calls directory fs docs) : c.document ∈ docs := by
  induction docs generalizing fs with
  | nil => cases hc
  | cons d ds ih =>
    rcases List.mem_cons.mp hc with rfl | hc
    · exact List.mem_cons_self
    · exact List.mem_cons_of_mem d (ih hc)

/-- The calls are those of writing all documents in one go. -/
theorem run_mapM_write (fs : FileSystem) (docs : List Document) :
    ((docs.mapM (write directory) : StateM FileSystem _).run fs).1 =
      (calls directory fs docs).map Call.result := by
  induction docs generalizing fs with
  | nil => rfl
  | cons d ds ih =>
    have hcall : (write directory d : StateM FileSystem _).run fs =
        ((call directory fs d).result, (call directory fs d).after) := rfl
    rw [List.mapM_cons, run_bind hcall, calls, List.map_cons, ← ih]
    rfl

/-- **Main theorem.** In a run from a state that can store, every call reports what it found: the
file created if it was not there, unchanged if it held the text of the document, and updated if it
held another text. A call that finds nothing to do or cannot read leaves everything as it was. A
call that succeeds leaves the text of its document, which the next call with the same document
reports unchanged, and from which the document is read back. No call reports unchanged where the
file held the text of another document, and so no second of two successive calls with different
documents does. An infinity or a NaN is no number of a document. -/
theorem calls_report {fs : FileSystem} (hfs : Storable directory fs) {docs : List Document}
    (hdocs : ∀ d ∈ docs, d.toJson.Finite) :
    ((docs.mapM (write directory) : StateM FileSystem _).run fs).1 =
        (calls directory fs docs).map Call.result ∧
      (∀ c ∈ calls directory fs docs, c.Report ∧
        (∀ d : Document, d.toJson.Finite → c.before.readText (path directory) = .ok d.text →
          (c.result = .ok .unchanged ↔ c.document = d)) ∧
        ∀ outcome, c.result = .ok outcome →
          (write directory c.document : StateM FileSystem _).run c.after =
              (.ok .unchanged, c.after) ∧
            (ReadsBack c.document → ∃ text, c.after.readText (path directory) = .ok text ∧
              Document.parse text = .ok c.document)) ∧
      (calls directory fs docs).IsChain fun c c' => c'.before = c.after ∧
        ∀ outcome, c.result = .ok outcome →
          (c'.result = .ok .unchanged ↔ c'.document = c.document) := by
  have hreport : ∀ c ∈ calls directory fs docs, c.Report :=
    fun c hc => Call.report (storable_of_mem_calls hfs hc)
  have hfinite : ∀ c ∈ calls directory fs docs, c.document.toJson.Finite :=
    fun c hc => hdocs _ (document_of_mem_calls hc)
  refine ⟨run_mapM_write fs docs, fun c hc => ⟨hreport c hc, ?_, fun outcome hresult => ?_⟩, ?_⟩
  · exact fun d hd hread => (hreport c hc).unchanged_iff (hfinite c hc) hd hread
  · refine ⟨(hreport c hc).again hresult, fun hback => ?_⟩
    exact ⟨_, (hreport c hc).stored outcome hresult, parse_text_of_readsBack hback⟩
  · refine (calls_isChain fs docs).imp_of_mem_imp fun c c' hc hc' hbefore => ⟨hbefore, ?_⟩
    intro outcome hresult
    refine (hreport c' hc').unchanged_iff (hfinite c' hc') (hfinite c hc) ?_
    rw [hbefore]
    exact (hreport c hc).stored outcome hresult

/-- A document with one collection and one object type. -/
def sampleDocument (value : Json) : Document where
  config := some {
    collectionNames := ["users"]
    objectTypes := [("sample", value)]
    objectFields := [("users", ⟨["id"], [("id", "int")], ["id"], [], [], []⟩)] }

/-- The least integer of 64 bits. -/
def leastDocument : Document := sampleDocument (.number (.integer (-0x8000000000000000)))

/-- A tenth, which has no exact binary form. -/
def tenthDocument : Document := sampleDocument (.number (.float ⟨0x3FB999999999999A⟩))

theorem storable_empty : Storable "conf" .empty := by
  intro _
  exact ⟨_, rfl, fun text => ⟨_, rfl⟩⟩

theorem finite_sampleDocument {n : Number} (hn : n.IsFinite) :
    (sampleDocument (.number n)).toJson.Finite := by
  simp [sampleDocument, Document.toJson, Configuration.toJson, FieldDetails.toJson,
    Json.ofStrings, Json.ofStringDict, Json.Finite, Json.parts, Json.partsOfItems,
    Json.partsOfMembers, hn]

theorem leastDocument_readsBack : ReadsBack leastDocument := by
  have htypes : ∀ c, leastDocument.config = some c →
      ∀ e ∈ c.objectTypes, e.2.Regular ∧ e.2.depth ≤ 124 := by
    rintro c ⟨⟩ e he
    cases List.mem_singleton.mp he
    refine ⟨⟨?_, ?_⟩, Nat.zero_le _⟩
    · simp [Json.Integral, Json.parts, Number.IsInteger64]
    · simp [Json.Distinct, Json.parts]
  refine ⟨?_, fun c hc e he => (htypes c hc e he).1,
    Document.depth_toJson_le fun c hc e he => (htypes c hc e he).2⟩
  rintro c ⟨⟩
  refine ⟨by decide, by decide, fun entry hentry => ?_⟩
  cases List.mem_singleton.mp hentry
  exact ⟨by decide, by decide⟩

theorem calls_sampleDocuments : Storable "conf" .empty ∧ ReadsBack leastDocument ∧
    (calls "conf" .empty [leastDocument, leastDocument, tenthDocument]).map Call.result =
      [.ok .created, .ok .unchanged, .ok .updated] := by
  have hfinite : ∀ d ∈ [leastDocument, leastDocument, tenthDocument], d.toJson.Finite := by
    have hleast := finite_sampleDocument (n := .integer (-0x8000000000000000)) trivial
    have htenth := finite_sampleDocument (n := .float ⟨0x3FB999999999999A⟩)
      (show Binary64.isFinite _ = true by decide)
    simp only [List.forall_mem_cons, List.not_mem_nil, false_imp_iff, implies_true, and_true]
    exact ⟨hleast, hleast, htenth⟩
  refine ⟨storable_empty, leastDocument_readsBack, ?_⟩
  obtain ⟨-, hcalls, hchain⟩ := calls_report storable_empty hfinite
  simp only [calls, List.forall_mem_cons, List.isChain_cons_cons] at hcalls hchain
  obtain ⟨⟨hfirst, -⟩, ⟨hsecond, -⟩, ⟨hthird, -⟩, -⟩ := hcalls
  obtain ⟨⟨-, hsame⟩, ⟨hbefore, hother⟩, -⟩ := hchain
  -- nothing is there at first, then the same document comes, then another
  have hcreated := hfirst.created.mpr rfl
  have hunchanged := (hsame _ hcreated).mpr rfl
  have hread := hsecond.stored _ hunchanged
  rw [← hbefore] at hread
  have hne : leastDocument.text ≠ tenthDocument.text := by
    intro htext
    have hdocument := (hother _ hunchanged).mp (hthird.unchanged.mpr (htext ▸ hread))
    simp [call, leastDocument, tenthDocument, sampleDocument] at hdocument
  have hupdated := hthird.updated.mpr ⟨_, hread, hne⟩
  simp only [calls, List.map_cons, List.map_nil, hcreated, hunchanged, hupdated]

end CollectionSql.ConfigFile
