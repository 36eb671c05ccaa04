import Mathlib.Data.List.Induction
import Mathlib.Data.List.NodupEquivFin
import SourceMetrics.Command.Run
import SourceMetrics.Proofs.Report.Coherence
import SourceMetrics.Proofs.Tool.Admission

/-!
# Batches of inputs

The inputs of an analysis may be worked off in any order, and each report is kept in the place of
its input. Files do not notice: reading them changes nothing. The standard input does: whoever reads
it first gets all of it, and whoever comes later finds it empty. So an input named twice with the
path of the standard input is reported in two ways, and which of the two places gets the report on
the text is a matter of the order.

`Batch` is the state in which a batch can be, `Tool.process` is what happens when one more input is
taken, and `Tool.reportIn` says what each input gets in a given order. One step of the invariant is
`processAll_concat`; the rest is a search for the first reader of the standard input.

Main results:

* `Tool.processAll_eq` — what becomes of a batch, in every order.
* `Tool.analyzeInputs_eq` — the analysis of a command is the batch in the order of the inputs.
* `Tool.batch_independent_iff` — each input is reported as if it were alone, and the order does not
  matter, exactly if at most one input is the standard input or there is only blank text in it.
-/

namespace SourceMetrics

open Files

/-- A batch of `n` inputs: the reports so far, each in the place of its input, and the world. -/
structure Batch (n : Nat) where
  reports : Fin n → Option InputReport
  world : World

/-- The reports of a batch in the order of the inputs. -/
def Batch.results {n : Nat} (b : Batch n) : List (Option InputReport) := List.ofFn b.reports

/-- The report on a standard input that has been used up. -/
def exhaustedReport : InputReport := ⟨inputLabel standardInput, .error Tool.emptyInput⟩

/-- The world when the standard input has been used up. -/
def World.exhausted (w : World) : World := { w with input := .empty }

/-- The standard input holds nothing but blank text. -/
def World.HasBlankInput (w : World) : Prop :=
  ∃ text, FileSystem.decode w.input = .ok text ∧ Text.allBlank text.toList = true

namespace Tool

variable (t : Tool)

/-- The report on an input that is analysed alone. -/
def reportAlone (w : World) (path : String) : InputReport := (t.analyzeInput path w).1

/-! ## One input -/

/-- Reading a file has no effect. -/
theorem analyzeInput_file {path : String} (h : path ≠ standardInput) (w : World) :
    t.analyzeInput path w = (t.reportAlone w path, w) := by
  simp [reportAlone, analyzeInput, World.readSource, h]

/-- Reading the standard input takes all of it. -/
theorem analyzeInput_standardInput (w : World) :
    t.analyzeInput standardInput w = (t.reportAlone w standardInput, w.exhausted) := by
  simp [reportAlone, analyzeInput, World.readSource, World.readInput, World.exhausted]

/-- The text of the standard input is reported on as it is analysed. -/
theorem reportAlone_standardInput {w : World} {text : String}
    (h : FileSystem.decode w.input = .ok text) :
    t.reportAlone w standardInput = ⟨inputLabel standardInput, t.analyzeCode text⟩ := by
  simp [reportAlone, analyzeInput, World.readSource, World.readInput, h, Except.mapError]

/-- What is reported of an input depends on the text that its path leads to and on the standard
input, and on nothing else. -/
theorem reportAlone_congr {w w' : World} {path : String} (hinput : w'.input = w.input)
    (hfile : w'.files.readText path = w.files.readText path) :
    t.reportAlone w' path = t.reportAlone w path := by
  by_cases h : path = standardInput
  · simp [reportAlone, analyzeInput, World.readSource, World.readInput, h, hinput]
  · simp [reportAlone, analyzeInput, World.readSource, h, hfile]

theorem reportAlone_file {w w' : World} {path : String} (h : path ≠ standardInput)
    (hfiles : w'.files = w.files) : t.reportAlone w' path = t.reportAlone w path := by
  simp [reportAlone, analyzeInput, World.readSource, h, hfiles]

theorem reportAlone_exhausted (w : World) :
    t.reportAlone w.exhausted standardInput = exhaustedReport := by
  have hdecode : FileSystem.decode w.exhausted.input = .ok "" := by rfl
  rw [t.reportAlone_standardInput hdecode, t.analyzeCode_of_blank (by rfl), exhaustedReport]

theorem unreadableInput_ne_emptyInput (e : FileError) : unreadableInput e ≠ emptyInput := by
  intro h
  -- the one starts with `f`, the other with `e`
  have hhead : (unreadableInput e).toList.head? = some 'f' := by
    unfold unreadableInput
    rw [String.toList_append, List.head?_append]
    simp
  rw [h] at hhead
  simp [emptyInput] at hhead

/-- The two reports on a standard input are the same only if its text is blank. -/
theorem reportAlone_eq_exhaustedReport_iff (w : World) :
    t.reportAlone w standardInput = exhaustedReport ↔ w.HasBlankInput := by
  cases hdecode : FileSystem.decode w.input with
  -- text that cannot be read is reported with another error than blank text
  | error e =>
    have houtcome : (t.reportAlone w standardInput).outcome = .error (unreadableInput e) := by
      simp [reportAlone, analyzeInput, World.readSource, World.readInput, hdecode, Except.mapError]
    constructor
    · intro h
      have hmessage : unreadableInput e = emptyInput := by
        simpa [h, exhaustedReport] using houtcome.symm
      exact absurd hmessage (unreadableInput_ne_emptyInput e)
    · rintro ⟨text, htext, -⟩
      rw [hdecode] at htext
      cases htext
  | ok text =>
    rw [t.reportAlone_standardInput hdecode, exhaustedReport, InputReport.mk.injEq]
    constructor
    · rintro ⟨-, h⟩
      have hblank := (t.judges_analyzeCode text).empty.mp h
      exact ⟨text, hdecode, List.all_eq_true.mpr hblank⟩
    · rintro ⟨text', htext', hblank⟩
      rw [hdecode] at htext'
      cases htext'
      exact ⟨rfl, t.analyzeCode_of_blank hblank⟩

/-! ## One more input of a batch -/

variable (inputs : List String)

/-- Takes one input of a batch, and keeps its report in its place. An input is read in one go:
nobody else can read the standard input in between. -/
def process (b : Batch inputs.length) (i : Fin inputs.length) : Batch inputs.length :=
  let (r, w) := t.analyzeInput (inputs.get i) b.world
  ⟨Function.update b.reports i (some r), w⟩

/-- Takes the inputs of a batch in an order. -/
def processAll (order : List (Fin inputs.length)) (w : World) : Batch inputs.length :=
  order.foldl (t.process inputs) ⟨fun _ => none, w⟩

/-- The input that is the first in an order to read the standard input. -/
def firstReader? (order : List (Fin inputs.length)) : Option (Fin inputs.length) :=
  order.find? fun i => inputs.get i = standardInput

/-- The report that an input gets in an order: the one that it gets alone, unless the standard input
has been used up before. -/
def reportIn (order : List (Fin inputs.length)) (w : World) (i : Fin inputs.length) : InputReport :=
  if inputs.get i = standardInput ∧ firstReader? inputs order ≠ some i then exhaustedReport
  else t.reportAlone w (inputs.get i)

/-- The world when some inputs have been taken in an order. -/
def worldAfter (order : List (Fin inputs.length)) (w : World) : World :=
  if (firstReader? inputs order).isSome then w.exhausted else w

variable {inputs}

theorem path_reportIn (order : List (Fin inputs.length)) (w : World) (i : Fin inputs.length) :
    (t.reportIn inputs order w i).path = inputLabel (inputs.get i) := by
  unfold reportIn
  split
  · rename_i h
    rw [h.1]
    rfl
  · rfl

theorem isSome_firstReader?_iff {order : List (Fin inputs.length)} (hmem : ∀ i, i ∈ order) :
    (firstReader? inputs order).isSome = true ↔ standardInput ∈ inputs := by
  rw [firstReader?, List.find?_isSome, List.mem_iff_get]
  constructor
  · rintro ⟨i, -, hi⟩
    exact ⟨i, by simpa using hi⟩
  · rintro ⟨i, hi⟩
    exact ⟨i, hmem i, by simpa using hi⟩

theorem firstReader?_concat (order : List (Fin inputs.length)) (i : Fin inputs.length) :
    firstReader? inputs (order ++ [i]) =
      (firstReader? inputs order).or (if inputs.get i = standardInput then some i else none) := by
  simp [firstReader?, List.find?_append, List.find?_singleton]

/-- What an input gets is not changed by those that are taken after it. -/
theorem reportIn_append_of_mem {order : List (Fin inputs.length)} {i : Fin inputs.length}
    (later : List (Fin inputs.length)) (w : World) (h : i ∈ order) :
    t.reportIn inputs (order ++ later) w i = t.reportIn inputs order w i := by
  unfold reportIn
  by_cases hi : inputs.get i = standardInput
  · -- somebody has read the standard input already: `i` itself or one before it
    have hsome : (firstReader? inputs order).isSome := by
      rw [firstReader?, List.find?_isSome]
      exact ⟨i, h, by simpa using hi⟩
    obtain ⟨first, hfirst⟩ := Option.isSome_iff_exists.1 hsome
    have hsame : firstReader? inputs (order ++ later) = some first := by
      rw [firstReader?, List.find?_append, ← firstReader?, hfirst, Option.some_or]
    rw [hfirst, hsame]
  · simp only [hi, false_and, if_false]

/-- The next input of a batch gets its report, and leaves the world as it should be. -/
theorem analyzeInput_worldAfter {order : List (Fin inputs.length)} {i : Fin inputs.length}
    (w : World) (h : i ∉ order) :
    t.analyzeInput (inputs.get i) (worldAfter inputs order w) =
      (t.reportIn inputs (order ++ [i]) w i, worldAfter inputs (order ++ [i]) w) := by
  unfold worldAfter reportIn
  rw [firstReader?_concat]
  by_cases hi : inputs.get i = standardInput
  · simp only [hi, if_true, true_and, t.analyzeInput_standardInput]
    cases hfirst : firstReader? inputs order with
    -- the standard input has been used up if somebody has read it, and else it is whole
    | none => simp
    | some first =>
      have hne : first ≠ i := by
        rintro rfl
        exact h (List.mem_of_find?_eq_some hfirst)
      have hreport := t.reportAlone_exhausted w
      simp only [Option.isSome_some, if_true, Option.some_or, Option.some.injEq, ne_eq, hne,
        not_false_eq_true]
      rw [hreport]
      rfl
  · simp only [hi, if_false, false_and, Option.or_none]
    -- a file is read as it is, whatever has become of the standard input
    rw [t.analyzeInput_file hi]
    congr 1
    apply t.reportAlone_file hi
    split <;> rfl

/-! ## Whole batches -/

/-- **What becomes of a batch, in every order.** The inputs that have been taken have the reports
that `reportIn` says, the others have none. -/
theorem processAll_eq (w : World) {order : List (Fin inputs.length)} (h : order.Nodup) :
    t.processAll inputs order w =
      ⟨fun i => if i ∈ order then some (t.reportIn inputs order w i) else none,
        worldAfter inputs order w⟩ := by
  induction order using List.reverseRecOn with
  | nil => rfl
  | append_singleton order i ih =>
    obtain ⟨horder, -, hi⟩ := List.nodup_append.1 h
    have hnot : i ∉ order := fun hmem => hi i hmem i (List.mem_singleton_self i) rfl
    -- the last input is taken in the world that the others have left
    rw [processAll, List.foldl_concat, ← processAll, ih horder, process,
      t.analyzeInput_worldAfter w hnot]
    refine congrArg (Batch.mk · _) (funext fun j => ?_)
    by_cases hj : j = i
    · subst hj
      simp
    · rw [Function.update_of_ne hj]
      by_cases hmem : j ∈ order
      · simp [hmem, t.reportIn_append_of_mem [i] w hmem]
      · simp [hmem, hj]

/-- The inputs that are left are reported as `reportIn` says, when some have been taken before. -/
theorem analyzeInputs_worldAfter (w : World) (rest : List (Fin inputs.length)) :
    ∀ taken : List (Fin inputs.length), (taken ++ rest).Nodup →
      t.analyzeInputs (rest.map inputs.get) (worldAfter inputs taken w) =
        (rest.map (t.reportIn inputs (taken ++ rest) w), worldAfter inputs (taken ++ rest) w) := by
  induction rest with
  | nil =>
    intro taken _
    simp [analyzeInputs]
  | cons i rest ih =>
    intro taken h
    have hsplit : taken ++ i :: rest = (taken ++ [i]) ++ rest := by simp
    have hnot : i ∉ taken := fun hmem => by
      obtain ⟨-, -, hne⟩ := List.nodup_append.1 h
      exact hne i hmem i List.mem_cons_self rfl
    have hreport : t.reportIn inputs (taken ++ [i]) w i =
        t.reportIn inputs (taken ++ i :: rest) w i := by
      rw [hsplit]
      exact (t.reportIn_append_of_mem rest w (by simp)).symm
    rw [List.map_cons, analyzeInputs, t.analyzeInput_worldAfter w hnot]
    show (_ :: (t.analyzeInputs _ _).1, (t.analyzeInputs _ _).2) = _
    rw [ih _ (hsplit ▸ h), hreport, ← hsplit]
    rfl

/-- A command takes the inputs in their order. -/
theorem analyzeInputs_eq (w : World) :
    t.analyzeInputs inputs w =
      ((List.finRange inputs.length).map (t.reportIn inputs (List.finRange _) w),
        worldAfter inputs (List.finRange _) w) := by
  have h := t.analyzeInputs_worldAfter w (List.finRange inputs.length) [] (by
    simpa using List.nodup_finRange inputs.length)
  rwa [List.map_get_finRange] at h

theorem results_processAll (w : World) {order : List (Fin inputs.length)}
    (h : order.Perm (List.finRange inputs.length)) :
    (t.processAll inputs order w).results =
      List.ofFn fun i => some (t.reportIn inputs order w i) := by
  have hmem : ∀ i, i ∈ order := fun i => h.mem_iff.2 (List.mem_finRange i)
  rw [t.processAll_eq w (h.nodup_iff.2 (List.nodup_finRange _)), Batch.results]
  simp [hmem]

/-! ## Independence -/

/-- The standard input is read more than once if two places of the batch name it. -/
theorem not_count_le_one_iff : ¬ inputs.count standardInput ≤ 1 ↔
    ∃ i j : Fin inputs.length, i ≠ j ∧ inputs.get i = standardInput ∧
      inputs.get j = standardInput := by
  have hduplicate : ¬ inputs.count standardInput ≤ 1 ↔ inputs.Duplicate standardInput := by
    rw [List.duplicate_iff_two_le_count]
    omega
  rw [hduplicate, List.duplicate_iff_exists_distinct_get]
  constructor
  · rintro ⟨i, j, hlt, hi, hj⟩
    exact ⟨i, j, Fin.ne_of_lt hlt, hi.symm, hj.symm⟩
  · rintro ⟨i, j, hne, hi, hj⟩
    rcases lt_or_gt_of_ne hne with hlt | hlt
    · exact ⟨i, j, hlt, hi.symm, hj.symm⟩
    · exact ⟨j, i, hlt, hj.symm, hi.symm⟩

theorem cons_erase_perm_finRange {n : Nat} (i : Fin n) :
    (i :: (List.finRange n).erase i).Perm (List.finRange n) :=
  (List.perm_cons_erase (List.mem_finRange i)).symm

/-- Every input gets what it gets alone, if the standard input is read once only or it does not
matter whether it has been used up. -/
theorem reportIn_eq_reportAlone (w : World)
    (h : inputs.count standardInput ≤ 1 ∨ w.HasBlankInput) {order : List (Fin inputs.length)}
    (hmem : ∀ i, i ∈ order) (i : Fin inputs.length) :
    t.reportIn inputs order w i = t.reportAlone w (inputs.get i) := by
  unfold reportIn
  split
  · rename_i hlate
    obtain ⟨hi, hfirst⟩ := hlate
    rw [hi]
    rcases h with hcount | hblank
    · -- the first reader is another one, so there are two
      exfalso
      have hsome : (firstReader? inputs order).isSome := by
        rw [firstReader?, List.find?_isSome]
        exact ⟨i, hmem i, by simpa using hi⟩
      obtain ⟨first, hfound⟩ := Option.isSome_iff_exists.1 hsome
      have hreads : inputs.get first = standardInput := by
        simpa using List.find?_some hfound
      have hne : first ≠ i := fun heq => hfirst (heq ▸ hfound)
      exact not_count_le_one_iff.2 ⟨first, i, hne, hreads, hi⟩ hcount
    · exact ((t.reportAlone_eq_exhaustedReport_iff w).2 hblank).symm
  · rfl

/-- A late reader of the standard input gets another report than alone, unless its text is blank. -/
theorem hasBlankInput_of_late {w : World} {order : List (Fin inputs.length)}
    {i : Fin inputs.length} (hi : inputs.get i = standardInput)
    (hfirst : firstReader? inputs order ≠ some i)
    (h : t.reportIn inputs order w i = t.reportAlone w (inputs.get i)) : w.HasBlankInput := by
  rw [reportIn, if_pos ⟨hi, hfirst⟩, hi] at h
  exact (t.reportAlone_eq_exhaustedReport_iff w).1 h.symm

variable (inputs)

/-- Every order gives each input the report that it gets alone. -/
def Independent (w : World) : Prop :=
  ∀ order : List (Fin inputs.length), order.Perm (List.finRange inputs.length) →
    (t.processAll inputs order w).results = inputs.map fun path => some (t.reportAlone w path)

/-- Every two orders give the same reports. -/
def OrderIrrelevant (w : World) : Prop :=
  ∀ order order' : List (Fin inputs.length), order.Perm (List.finRange inputs.length) →
    order'.Perm (List.finRange inputs.length) →
      (t.processAll inputs order w).results = (t.processAll inputs order' w).results

variable {inputs}

theorem independent_of (w : World) (h : inputs.count standardInput ≤ 1 ∨ w.HasBlankInput) :
    t.Independent inputs w := by
  intro order horder
  have hmem : ∀ i, i ∈ order := fun i => horder.mem_iff.2 (List.mem_finRange i)
  rw [t.results_processAll w horder]
  simp only [t.reportIn_eq_reportAlone w h hmem]
  apply List.ext_get
  · simp
  · intro n hn hn'
    simp

theorem orderIrrelevant_of_independent {w : World} (h : t.Independent inputs w) :
    t.OrderIrrelevant inputs w := by
  intro order order' horder horder'
  rw [h order horder, h order' horder']

/-- If the order does not matter, the standard input is read once only, or its text is blank: of two
readers each can be the first. -/
theorem of_orderIrrelevant {w : World} (h : t.OrderIrrelevant inputs w) :
    inputs.count standardInput ≤ 1 ∨ w.HasBlankInput := by
  by_contra hneither
  obtain ⟨hcount, hblank⟩ := not_or.1 hneither
  obtain ⟨i, j, hne, hi, hj⟩ := not_count_le_one_iff.1 hcount
  have hresults := h _ _ (cons_erase_perm_finRange i) (cons_erase_perm_finRange j)
  rw [t.results_processAll w (cons_erase_perm_finRange i),
    t.results_processAll w (cons_erase_perm_finRange j), List.ofFn_inj] at hresults
  have hat := Option.some.inj (congrFun hresults i)
  -- taken first, the one reader gets what it gets alone
  have hfirst : t.reportIn inputs (i :: (List.finRange _).erase i) w i =
      t.reportAlone w (inputs.get i) := by
    rw [reportIn, if_neg]
    simp only [firstReader?, List.find?_cons, hi, decide_true, ne_eq, not_true_eq_false, and_false,
      not_false_eq_true]
  -- taken behind the other, it finds the input empty
  have hlate : firstReader? inputs (j :: (List.finRange _).erase j) ≠ some i := by
    simp only [firstReader?, List.find?_cons, hj, decide_true, ne_eq, Option.some.injEq]
    exact hne.symm
  exact hblank (t.hasBlankInput_of_late hi hlate (hat.symm.trans hfirst))

variable (inputs)

/-- **Each input is reported as if it were alone, and the order does not matter, exactly if at most
one input is the standard input or there is only blank text in it.** In any order there is one
report for each input, under its label. An input gets what it gets alone, except that all readers of
the standard input but the first find it empty. Files are not changed, and the standard input is
used up if it is read at all. What an input gets alone depends on nothing but its own text. -/
theorem batch_independent_iff (w : World) :
    (∀ order : List (Fin inputs.length), order.Perm (List.finRange inputs.length) →
      (t.processAll inputs order w).results =
          List.ofFn (fun i => some (t.reportIn inputs order w i)) ∧
        (∀ i, (t.reportIn inputs order w i).path = inputLabel (inputs.get i)) ∧
        (t.processAll inputs order w).world =
          if standardInput ∈ inputs then w.exhausted else w) ∧
    (t.analyzeInputs inputs w).1.map some =
      (t.processAll inputs (List.finRange inputs.length) w).results ∧
    (∀ (w' : World) (path : String), w'.input = w.input →
      w'.files.readText path = w.files.readText path →
        t.reportAlone w' path = t.reportAlone w path) ∧
    (t.Independent inputs w ↔ inputs.count standardInput ≤ 1 ∨ w.HasBlankInput) ∧
    (t.OrderIrrelevant inputs w ↔ inputs.count standardInput ≤ 1 ∨ w.HasBlankInput) := by
  refine ⟨fun order horder => ⟨t.results_processAll w horder, t.path_reportIn order w, ?_⟩, ?_,
    fun w' path hinput hfile => t.reportAlone_congr hinput hfile,
    ⟨fun h => t.of_orderIrrelevant (t.orderIrrelevant_of_independent h), t.independent_of w⟩,
    ⟨t.of_orderIrrelevant, fun h => t.orderIrrelevant_of_independent (t.independent_of w h)⟩⟩
  · rw [t.processAll_eq w (horder.nodup_iff.2 (List.nodup_finRange _))]
    show worldAfter inputs order w = _
    have hreads : (firstReader? inputs order).isSome = true ↔ standardInput ∈ inputs :=
      isSome_firstReader?_iff fun i => horder.mem_iff.2 (List.mem_finRange i)
    simp only [worldAfter, hreads]
  · rw [t.analyzeInputs_eq, t.results_processAll w (List.Perm.refl _), List.finRange, List.map_ofFn,
      List.map_ofFn]
    rfl

/-- A tool whose reader knows one tree. -/
def conditionTool : Tool := ⟨conditionReader, 100⟩

/-- A world without files, and with a text to be read. -/
def pipedWorld : World := ⟨⟨[], []⟩, "x = 1".toUTF8⟩

theorem not_hasBlankInput_pipedWorld : ¬ pipedWorld.HasBlankInput := by
  rintro ⟨text, htext, hblank⟩
  have hdecode : FileSystem.decode pipedWorld.input = .ok "x = 1" := by decide
  rw [hdecode] at htext
  cases htext
  exact absurd hblank (by decide)

/-- The standard input named twice is reported in two ways, and the order says which place gets the
text. -/
theorem not_independent_namedTwice :
    (conditionTool.analyzeInputs [standardInput, standardInput] pipedWorld).1 =
        [⟨"<stdin>", .result (conditionReader.analyze "x = 1")⟩,
          ⟨"<stdin>", .error "empty input"⟩] ∧
      ¬ conditionTool.Independent [standardInput, standardInput] pipedWorld ∧
      ¬ conditionTool.OrderIrrelevant [standardInput, standardInput] pipedWorld := by
  have hneither : ¬ ([standardInput, standardInput].count standardInput ≤ 1 ∨
      pipedWorld.HasBlankInput) := by
    rintro (hcount | hblank)
    · exact absurd hcount (by decide)
    · exact not_hasBlankInput_pipedWorld hblank
  refine ⟨by rfl, fun h => hneither ?_, fun h => hneither (of_orderIrrelevant _ h)⟩
  exact of_orderIrrelevant _ (orderIrrelevant_of_independent _ h)

/-- Taken after a file that is not there, the standard input is still read as if alone. -/
theorem results_missingFirst :
    [(1 : Fin 2), 0].Perm (List.finRange 2) ∧
      (conditionTool.processAll [standardInput, "a.py"] [1, 0] pipedWorld).results =
        [some ⟨"<stdin>", .result (conditionReader.analyze "x = 1")⟩,
          some ⟨"a.py", .error "failed to read a.py: No such file or directory (os error 2)"⟩] := by
  have hperm : [(1 : Fin 2), 0].Perm (List.finRange 2) := by decide
  obtain ⟨horder, -⟩ := conditionTool.batch_independent_iff [standardInput, "a.py"] pipedWorld
  refine ⟨hperm, ?_⟩
  rw [(horder [1, 0] hperm).1]
  rfl

end Tool
end SourceMetrics
