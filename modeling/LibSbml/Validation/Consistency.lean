import LibSbml.Document.State

namespace LibSbml

/-!
# Check passes — `checkConsistency`, `validateSBML`, `checkConsistencyWithStrictUnits`

A pass saves the log's severity override, disables it, runs the internal validator, every
plugin's checks and every ad hoc validator, logs what they report, and restores the override.
The validators themselves are not among the sources: each is a function of the document tree
(`SBMLDocument.tree`, everything but the log) returning the records it logs (spec §4.3).

* `logChecks` — the loops of a pass: each check's records appended in turn, counts added up;
* `checkConsistency_frame` (and its siblings) — a pass changes nothing but the log, and the log
  only by appending;
* `checkConsistencyWithStrictUnits_applicable` — except that the strict pass leaves the
  units-consistency bit of the applicable mask cleared;
* `runPass_baseChecks_twice` — two passes on an unchanged document report the same;
* `checkConsistencyWithStrictUnits_eq` — whether the strict unit validator runs is decided
  by the whole log, including records older than the call;
* `repeated_checks` — what repeated passes report, over any number of strict passes.
-/

/-- Modelled from the spec (§4.3, §6): the validators a document runs, each a function of the
    document tree giving the records it logs (its count is their number). -/
structure Validators where
  internal : SBMLDocument → List SBMLError
  internalInternal : SBMLDocument → List SBMLError
  plugin : SBasePlugin → SBMLDocument → List SBMLError
  adhoc : SBMLValidator → SBMLDocument → List SBMLError
  strictUnits : SBMLDocument → List SBMLError

variable (V : Validators)

namespace SBMLDocument

/-- `getErrorLog()->setSeverityOverride(o)`. -/
def setSeverityOverride (d : SBMLDocument) (o : XMLErrorSeverityOverride) : SBMLDocument :=
  { d with mErrorLog := d.mErrorLog.setSeverityOverride o }

/-- `getErrorLog()->add(records)`. -/
def addErrors (d : SBMLDocument) (es : List SBMLError) : SBMLDocument :=
  { d with mErrorLog := d.mErrorLog.addAll es }

/-- The loops of a pass: each check runs on the tree, its records are logged (an empty list
    logs nothing, as the `newErrors > 0` test has it) and its count added. -/
def logChecks (checks : List (SBMLDocument → List SBMLError)) (d : SBMLDocument) (n : Nat) :
    SBMLDocument × Nat :=
  checks.foldl (fun (d, n) c => (d.addErrors (c d.tree), n + (c d.tree).length)) (d, n)

/-- The checks of a pass, in order: the internal validator, each plugin's, each ad hoc
    validator. -/
def baseChecks (d : SBMLDocument) : List (SBMLDocument → List SBMLError) :=
  V.internal :: d.mPlugins.map V.plugin ++ d.mValidators.map V.adhoc

/-- A pass: save the override, disable it, run the checks the document gives, restore. -/
def runPass (checks : SBMLDocument → List (SBMLDocument → List SBMLError)) (d : SBMLDocument) :
    SBMLDocument × Nat :=
  let overrideStatus := d.mErrorLog.severityOverride
  let d := d.setSeverityOverride .disabled
  let (d, numErrors) := logChecks (checks d) d 0
  (d.setSeverityOverride overrideStatus, numErrors)

/-- `checkConsistency()`. -/
def checkConsistency (d : SBMLDocument) : SBMLDocument × Nat := runPass (baseChecks V) d

/-- `validateSBML()`: the same pass as `checkConsistency`. -/
def validateSBML (d : SBMLDocument) : SBMLDocument × Nat := runPass (baseChecks V) d

/-- `checkInternalConsistency()`. -/
def checkInternalConsistency (d : SBMLDocument) : SBMLDocument × Nat :=
  runPass (fun _ => [V.internalInternal]) d

/-- `checkConsistencyWithStrictUnits()`: the units checks are turned off, the base checks run,
    and only when the log then holds no fatal and no error record does the strict unit
    validator run, its records logged as errors. -/
def checkConsistencyWithStrictUnits (d : SBMLDocument) : SBMLDocument × Nat :=
  let overrideStatus := d.mErrorLog.severityOverride
  let d := d.setSeverityOverride .disabled
  let d := d.setConsistencyChecks .unitsConsistency false
  let (d, numErrors) := logChecks (baseChecks V d) d 0
  let seriousErrors := d.getNumErrors .fatal > 0 || d.getNumErrors .error > 0
  if seriousErrors then (d.setSeverityOverride overrideStatus, numErrors)
  else
    let d := d.setSeverityOverride .error
    let nerrors := (V.strictUnits d.tree).length
    let d := if nerrors > 0 then d.addErrors (V.strictUnits d.tree) else d
    (d.setSeverityOverride overrideStatus, numErrors + nerrors)

/-! ### What the loops do -/

/-- Unfolding lemma: `addErrors` leaves the tree. -/
@[simp] theorem tree_addErrors (d : SBMLDocument) (es : List SBMLError) :
    (d.addErrors es).tree = d.tree := rfl

/-- Unfolding lemma: `setSeverityOverride` leaves the tree. -/
@[simp] theorem tree_setSeverityOverride (d : SBMLDocument) (o : XMLErrorSeverityOverride) :
    (d.setSeverityOverride o).tree = d.tree := rfl

/-- Two appends are one. -/
theorem addErrors_addErrors (d : SBMLDocument) (es es' : List SBMLError) :
    (d.addErrors es).addErrors es' = d.addErrors (es ++ es') := by
  simp [addErrors, SBMLErrorLog.addAll_addAll]

/-- The records a list of checks gives on a tree, in order. -/
def checkRecords (checks : List (SBMLDocument → List SBMLError)) (t : SBMLDocument) :
    List SBMLError :=
  checks.flatMap (· t)

/-- The loops append the checks' records to the log, add their number to the count, and change
    nothing else. -/
theorem logChecks_eq (checks : List (SBMLDocument → List SBMLError)) (d : SBMLDocument)
    (n : Nat) :
    logChecks checks d n =
      (d.addErrors (checkRecords checks d.tree), n + (checkRecords checks d.tree).length) := by
  induction checks generalizing d n with
  | nil => simp [logChecks, checkRecords, addErrors]
  | cons c cs ih =>
    simp only [logChecks, List.foldl_cons] at ih ⊢
    rw [ih, tree_addErrors, addErrors_addErrors]
    simp [checkRecords, Nat.add_assoc]

/-- A pass appends the records its checks give on the tree (under no override), returns their
    number, and changes nothing else. -/
theorem runPass_eq (checks : SBMLDocument → List (SBMLDocument → List SBMLError))
    (d : SBMLDocument) :
    runPass checks d =
      ({ d with mErrorLog :=
          ⟨d.mErrorLog.errors ++ checkRecords (checks (d.setSeverityOverride .disabled)) d.tree,
            d.mErrorLog.severityOverride⟩ },
        (checkRecords (checks (d.setSeverityOverride .disabled)) d.tree).length) := by
  simp only [runPass, logChecks_eq, tree_setSeverityOverride, Nat.zero_add]
  simp only [setSeverityOverride, addErrors, SBMLErrorLog.addAll, SBMLErrorLog.setSeverityOverride,
    SBMLErrorLog.map_overridden_disabled]

/-- `d'` is `d` with its log extended by appending only: the frame of every check pass. -/
def PassFrame (d d' : SBMLDocument) : Prop := d'.tree = d.tree ∧ d.mErrorLog.Extends d'.mErrorLog

/-- A pass keeps the frame. -/
theorem runPass_frame (checks : SBMLDocument → List (SBMLDocument → List SBMLError))
    (d : SBMLDocument) : PassFrame d (runPass checks d).1 := by
  rw [runPass_eq]
  exact ⟨rfl, rfl, _, rfl⟩

/-- `checkConsistency` keeps the frame. -/
theorem checkConsistency_frame (d : SBMLDocument) : PassFrame d (d.checkConsistency V).1 :=
  runPass_frame _ d

/-- `validateSBML` keeps the frame. -/
theorem validateSBML_frame (d : SBMLDocument) : PassFrame d (d.validateSBML V).1 :=
  runPass_frame _ d

/-- `checkInternalConsistency` keeps the frame. -/
theorem checkInternalConsistency_frame (d : SBMLDocument) :
    PassFrame d (d.checkInternalConsistency V).1 :=
  runPass_frame _ d

/-- A pass over the base checks, run twice on an unchanged document, returns the same count and
    appends the same records. -/
theorem runPass_baseChecks_twice (d : SBMLDocument) :
    let r₁ := runPass (baseChecks V) d
    let r₂ := runPass (baseChecks V) r₁.1
    r₂.2 = r₁.2 ∧ ∃ es, r₁.1.mErrorLog.errors = d.mErrorLog.errors ++ es ∧
      r₂.1.mErrorLog.errors = r₁.1.mErrorLog.errors ++ es := by
  simp only [runPass_eq]
  exact ⟨rfl, _, rfl, rfl⟩

/-! ### The strict pass -/

/-- The test of `checkConsistencyWithStrictUnits`: the log holds a fatal or an error record. -/
def hasSeriousErrors (log : SBMLErrorLog) : Bool :=
  log.getNumFailsWithSeverity .fatal > 0 || log.getNumFailsWithSeverity .error > 0

/-- The tree the strict pass's validators see: the document with its units checks off. -/
def strictTree (d : SBMLDocument) : SBMLDocument :=
  (d.setConsistencyChecks .unitsConsistency false).tree

/-- Clearing the units bit twice is clearing it once, so the strict tree of a document the
    strict pass already visited is unchanged. -/
theorem strictTree_setConsistencyChecks (d : SBMLDocument) :
    strictTree (d.setConsistencyChecks .unitsConsistency false) = strictTree d := by
  simp only [strictTree, setConsistencyChecks, tree, setCheck_false_setCheck_false]

/-- The applicable mask is part of the tree. -/
theorem mApplicableValidators_of_tree {d d' : SBMLDocument} (h : d.tree = d'.tree) :
    d.mApplicableValidators = d'.mApplicableValidators :=
  (congrArg SBMLDocument.mApplicableValidators h :)

/-- The strict tree reads only the tree. -/
theorem strictTree_eq_of_tree {d d' : SBMLDocument} (h : d.tree = d'.tree) :
    strictTree d = strictTree d' := by
  calc strictTree d = (d.tree.setConsistencyChecks .unitsConsistency false).tree := rfl
    _ = (d'.tree.setConsistencyChecks .unitsConsistency false).tree := by rw [h]
    _ = strictTree d' := rfl

/-- One strict pass: the base checks' records `R` on the strict tree are appended, then — only
    if the log, old records included, holds no fatal and no error record — the strict unit
    validator's records, as errors; the units bit stays cleared. -/
theorem checkConsistencyWithStrictUnits_eq (d : SBMLDocument) :
    let t := strictTree d
    let R := checkRecords (baseChecks V t) t
    let log := { d.mErrorLog with errors := d.mErrorLog.errors ++ R }
    d.checkConsistencyWithStrictUnits V =
      if hasSeriousErrors log then
        ({ d.setConsistencyChecks .unitsConsistency false with mErrorLog := log }, R.length)
      else
        ({ d.setConsistencyChecks .unitsConsistency false with mErrorLog :=
            { log with
              errors := log.errors ++ (V.strictUnits t).map (SBMLErrorLog.overridden .error) } },
          R.length + (V.strictUnits t).length) := by
  intro t R log
  simp only [checkConsistencyWithStrictUnits, logChecks_eq, Nat.zero_add]
  -- the base checks see the strict tree
  have ht : ((d.setSeverityOverride .disabled).setConsistencyChecks .unitsConsistency
    false).tree = t := rfl
  have hb : baseChecks V ((d.setSeverityOverride .disabled).setConsistencyChecks
    .unitsConsistency false) = baseChecks V t := rfl
  rw [ht, hb]
  -- the seriousness test reads the whole log
  have hs : ((((d.setSeverityOverride .disabled).setConsistencyChecks .unitsConsistency
      false).addErrors R).getNumErrors .fatal > 0 || (((d.setSeverityOverride .disabled
      ).setConsistencyChecks .unitsConsistency false).addErrors R).getNumErrors .error > 0) =
      hasSeriousErrors log := by
    simp [hasSeriousErrors, getNumErrors, addErrors, setSeverityOverride, setConsistencyChecks,
      log, SBMLErrorLog.getNumFailsWithSeverity, SBMLErrorLog.addAll,
      SBMLErrorLog.setSeverityOverride]
  rw [hs]
  have ht' : ((((d.setSeverityOverride .disabled).setConsistencyChecks .unitsConsistency
      false).addErrors R).setSeverityOverride .error).tree = t := rfl
  simp only [ht']
  -- the three exits: serious records; unit records appended; no unit records to append
  split_ifs with hser hn <;>
    simp_all [List.length_pos, addErrors, setSeverityOverride, setConsistencyChecks, log,
      SBMLErrorLog.addAll, SBMLErrorLog.setSeverityOverride]

/-- The strict pass changes the log only by appending, and of the tree only the units bit of
    the applicable mask, which it leaves cleared. -/
theorem checkConsistencyWithStrictUnits_frame (d : SBMLDocument) :
    PassFrame (d.setConsistencyChecks .unitsConsistency false)
      (d.checkConsistencyWithStrictUnits V).1 := by
  rw [checkConsistencyWithStrictUnits_eq]
  split
  · exact ⟨rfl, rfl, _, rfl⟩
  · exact ⟨rfl, rfl, _, List.append_assoc _ _ _⟩

/-- The strict pass leaves the applicable mask with the units bit cleared. -/
theorem checkConsistencyWithStrictUnits_applicable (d : SBMLDocument) :
    (d.checkConsistencyWithStrictUnits V).1.mApplicableValidators =
      setCheck d.mApplicableValidators .unitsConsistency false :=
  mApplicableValidators_of_tree (checkConsistencyWithStrictUnits_frame V d).1

/-- A strict pass does not move the strict tree. -/
theorem strictTree_checkConsistencyWithStrictUnits (d : SBMLDocument) :
    strictTree (d.checkConsistencyWithStrictUnits V).1 = strictTree d :=
  (strictTree_eq_of_tree (checkConsistencyWithStrictUnits_frame V d).1).trans
    (strictTree_setConsistencyChecks d)

/-- Repeated strict passes all see the strict tree of the first document. -/
theorem strictTree_iterate (d : SBMLDocument) (k : Nat) :
    strictTree ((fun e => (e.checkConsistencyWithStrictUnits V).1)^[k] d) = strictTree d := by
  induction k with
  | zero => rfl
  | succ k ih =>
    rw [Function.iterate_succ_apply', strictTree_checkConsistencyWithStrictUnits, ih]

/-! ### Repeated passes -/

/-- Repeated passes on an unchanged document: `checkConsistency` and `validateSBML` repeat their
    count and their records; the `k`-th repeated strict pass appends the base records `R` of the
    first document's strict tree, and the strict unit validator's records only when the log —
    whatever earlier passes left in it — then holds no fatal and no error record. -/
theorem repeated_checks (d : SBMLDocument) :
    (let r₁ := d.checkConsistency V
     let r₂ := r₁.1.checkConsistency V
     r₂.2 = r₁.2 ∧ ∃ es, r₁.1.mErrorLog.errors = d.mErrorLog.errors ++ es ∧
       r₂.1.mErrorLog.errors = r₁.1.mErrorLog.errors ++ es) ∧
    (let r₁ := d.validateSBML V
     let r₂ := r₁.1.validateSBML V
     r₂.2 = r₁.2 ∧ ∃ es, r₁.1.mErrorLog.errors = d.mErrorLog.errors ++ es ∧
       r₂.1.mErrorLog.errors = r₁.1.mErrorLog.errors ++ es) ∧
    (let t := strictTree d
     let R := checkRecords (baseChecks V t) t
     ∀ k, let e := (fun e => (e.checkConsistencyWithStrictUnits V).1)^[k] d
       let log := { e.mErrorLog with errors := e.mErrorLog.errors ++ R }
       e.checkConsistencyWithStrictUnits V =
         if hasSeriousErrors log then
           ({ e.setConsistencyChecks .unitsConsistency false with mErrorLog := log }, R.length)
         else
           ({ e.setConsistencyChecks .unitsConsistency false with mErrorLog :=
               { log with errors := log.errors ++
                   (V.strictUnits t).map (SBMLErrorLog.overridden .error) } },
             R.length + (V.strictUnits t).length)) := by
  refine ⟨runPass_baseChecks_twice V d, runPass_baseChecks_twice V d, fun k => ?_⟩
  intro e log
  have h := checkConsistencyWithStrictUnits_eq V e
  rwa [show strictTree e = strictTree d from strictTree_iterate V d k] at h

end SBMLDocument

/-- Validators that report nothing. -/
def Validators.silent : Validators :=
  ⟨fun _ => [], fun _ => [], fun _ _ => [], fun _ _ => [], fun _ => []⟩

/-- Validators whose one report is a strict-units warning. -/
def Validators.oneStrictUnitsWarning : Validators :=
  { Validators.silent with strictUnits := fun _ => [⟨.other 10501, .warning, ""⟩] }

namespace SBMLDocument

/-- A second strict pass on an unchanged document skips the strict unit validator, because the
    first one logged its report as an error: the counts are `1` then `0`. -/
theorem strict_pass_not_repeatable :
    let r₁ := (blank 1 3 1).checkConsistencyWithStrictUnits .oneStrictUnitsWarning
    let r₂ := r₁.1.checkConsistencyWithStrictUnits .oneStrictUnitsWarning
    r₁.2 = 1 ∧ r₂.2 = 0 := by
  decide

/-- On a fresh document, where every check is on, a strict pass returns with the
    units-consistency check turned off. -/
theorem strict_pass_turns_off_units_checks :
    (blank 1 3 1).mApplicableValidators = 0x7f ∧
      ((blank 1 3 1).checkConsistencyWithStrictUnits .silent).1.mApplicableValidators = 0x6f := by
  decide

end SBMLDocument

end LibSbml
