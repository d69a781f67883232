import LibSbml.Validation.Consistency

namespace LibSbml

/-!
# Downgrade checks — `checkL1Compatibility` … `checkL3v2Compatibility`

The checks for Level 1 and for Level 2 Versions 1–3 share one body: the internal validator's
check for the target, then, outside a conversion, the unit validator, whose failures are
reduced to a single "strict units required" record when one of them would be an error. The
revision whose severity is looked up is each member's own constant: `(1, 2)` for L1, `(2, 1)`
for L2v1, and again `(1, 2)` for L2v2 and L2v3.

* `checkCompatibilityWithUnits` — the shared body, with the four members as instances;
* `checkCompatibilityWithUnits_eq` — what one call appends and returns;
* `checkL1Compatibility_spec`, `checkL2v1Compatibility_spec` — these two look up their target;
* `checkL2v2Compatibility_spec`, `checkL2v3Compatibility_spec` — these look up Level 1
  Version 2 instead;
* `checks_report_appended` — every consistency and downgrade check only appends to the log and
  returns the number of records it appended.
-/

/-- The revisions a document can be checked against for a downgrade. -/
inductive CompatibilityTarget where
  | l1 | l2v1 | l2v2 | l2v3 | l2v4 | l2v5 | l3v1 | l3v2
  deriving DecidableEq, Repr

/-- The revision of a target: Level 1 means Level 1 Version 2. -/
def CompatibilityTarget.revision : CompatibilityTarget → Nat × Nat
  | .l1 => (1, 2) | .l2v1 => (2, 1) | .l2v2 => (2, 2) | .l2v3 => (2, 3)
  | .l2v4 => (2, 4) | .l2v5 => (2, 5) | .l3v1 => (3, 1) | .l3v2 => (3, 2)

/-- Modelled from the spec (§4.4): the internal validator's downgrade check for each target
    and the unit-consistency validator, as functions of the document tree giving their records. -/
structure CompatibilityValidators where
  compat : CompatibilityTarget → SBMLDocument → List SBMLError
  units : SBMLDocument → List SBMLError

variable (C : CompatibilityValidators) (sev : SBMLErrorCode → Nat → Nat → Severity)

/-- `getLevelVersionSeverity(errorId, level, version)`: the severity the table gives the code at
    that revision. -/
def getLevelVersionSeverity (errorId : SBMLErrorCode) (level version : Nat) : Severity :=
  sev errorId level version

namespace SBMLDocument

/-- The body of `checkL1Compatibility` … `checkL2v3Compatibility`: the internal check for
    `target`; then, unless `inConversion`, the unit validator, whose failures log one `code`
    record and count `1` when some failure is an error at (`lookupLevel`, `lookupVersion`), and
    count `0` otherwise. -/
def checkCompatibilityWithUnits (target : CompatibilityTarget) (lookupLevel lookupVersion : Nat)
    (code : SBMLErrorCode) (d : SBMLDocument) (inConversion : Bool) : SBMLDocument × Nat :=
  let (d, nerrors) := logChecks [C.compat target] d 0
  if inConversion = false then
    let unitErrors := C.units d.tree
    if unitErrors.length > 0 then
      let logUnitError := unitErrors.any fun err =>
        getLevelVersionSeverity sev err.errorId lookupLevel lookupVersion == .error
      if logUnitError then (d.logError sev code "", nerrors + 1) else (d, nerrors + 0)
    else (d, nerrors)
  else (d, nerrors)

/-- `checkL1Compatibility(inConversion)`. -/
def checkL1Compatibility (d : SBMLDocument) (inConversion : Bool) : SBMLDocument × Nat :=
  checkCompatibilityWithUnits C sev .l1 1 2 .strictUnitsRequiredInL1 d inConversion

/-- `checkL2v1Compatibility(inConversion)`. -/
def checkL2v1Compatibility (d : SBMLDocument) (inConversion : Bool) : SBMLDocument × Nat :=
  checkCompatibilityWithUnits C sev .l2v1 2 1 .strictUnitsRequiredInL2v1 d inConversion

/-- `checkL2v2Compatibility(inConversion)`: its lookup is `getLevelVersionSeverity(…, 1, 2)`. -/
def checkL2v2Compatibility (d : SBMLDocument) (inConversion : Bool) : SBMLDocument × Nat :=
  checkCompatibilityWithUnits C sev .l2v2 1 2 .strictUnitsRequiredInL2v2 d inConversion

/-- `checkL2v3Compatibility(inConversion)`: its lookup is `getLevelVersionSeverity(…, 1, 2)`. -/
def checkL2v3Compatibility (d : SBMLDocument) (inConversion : Bool) : SBMLDocument × Nat :=
  checkCompatibilityWithUnits C sev .l2v3 1 2 .strictUnitsRequiredInL2v3 d inConversion

/-- `checkL2v4Compatibility()` … `checkL3v2Compatibility()`: the internal check alone. -/
def checkCompatibility (target : CompatibilityTarget) (d : SBMLDocument) : SBMLDocument × Nat :=
  logChecks [C.compat target] d 0

/-! ### What one call does -/

/-- One call appends the internal check's records `I`, and outside a conversion one `code`
    record exactly when some unit failure is an error at the looked-up revision; it returns
    `|I|`, plus one for that record. -/
theorem checkCompatibilityWithUnits_eq (target : CompatibilityTarget) (l v : Nat)
    (code : SBMLErrorCode) (d : SBMLDocument) :
    let I := C.compat target d.tree
    let logUnitError := (C.units d.tree).any fun err => sev err.errorId l v == .error
    d.checkCompatibilityWithUnits C sev target l v code false =
        (if logUnitError then ((d.addErrors I).logError sev code "", I.length + 1)
          else (d.addErrors I, I.length)) ∧
      d.checkCompatibilityWithUnits C sev target l v code true = (d.addErrors I, I.length) := by
  intro I logUnitError
  have hI : logChecks [C.compat target] d 0 = (d.addErrors I, I.length) := by
    simp [logChecks_eq, checkRecords, I]
  refine ⟨?_, by simp [checkCompatibilityWithUnits, hI]⟩
  simp only [checkCompatibilityWithUnits, hI, tree_addErrors, if_true, getLevelVersionSeverity]
  split_ifs with h₁ h₂ h₃ <;> try rfl
  -- no unit failure, so none is an error
  simp [List.eq_nil_of_length_eq_zero (Nat.eq_zero_of_not_pos h₁), logUnitError] at h₃

/-- The law of a unit-checking downgrade check whose severity lookup is at (`l`, `v`): outside
    a conversion, one `code` record and one more in the count exactly when a unit failure is an
    error at (`l`, `v`); nothing beyond the internal check otherwise, and nothing in a
    conversion. -/
def UnitSuppressionLaw (check : SBMLDocument → Bool → SBMLDocument × Nat)
    (target : CompatibilityTarget) (l v : Nat) (code : SBMLErrorCode) : Prop :=
  ∀ d : SBMLDocument,
    let I := C.compat target d.tree
    check d false =
        (if (C.units d.tree).any (fun err => sev err.errorId l v == .error) then
          ((d.addErrors I).logError sev code "", I.length + 1)
        else (d.addErrors I, I.length)) ∧
      check d true = (d.addErrors I, I.length)

/-- `checkL1Compatibility` looks the unit failures up at its target, Level 1 Version 2. -/
theorem checkL1Compatibility_spec :
    UnitSuppressionLaw C sev (checkL1Compatibility C sev) .l1 CompatibilityTarget.l1.revision.1
      CompatibilityTarget.l1.revision.2 .strictUnitsRequiredInL1 :=
  checkCompatibilityWithUnits_eq C sev .l1 1 2 _

/-- `checkL2v1Compatibility` looks the unit failures up at its target, Level 2 Version 1. -/
theorem checkL2v1Compatibility_spec :
    UnitSuppressionLaw C sev (checkL2v1Compatibility C sev) .l2v1
      CompatibilityTarget.l2v1.revision.1 CompatibilityTarget.l2v1.revision.2 .strictUnitsRequiredInL2v1 :=
  checkCompatibilityWithUnits_eq C sev .l2v1 2 1 _

/-- `checkL2v2Compatibility` looks the unit failures up at Level 1 Version 2, not at its
    target. -/
theorem checkL2v2Compatibility_spec :
    UnitSuppressionLaw C sev (checkL2v2Compatibility C sev) .l2v2 1 2 .strictUnitsRequiredInL2v2 :=
  checkCompatibilityWithUnits_eq C sev .l2v2 1 2 _

/-- `checkL2v3Compatibility` looks the unit failures up at Level 1 Version 2, not at its
    target. -/
theorem checkL2v3Compatibility_spec :
    UnitSuppressionLaw C sev (checkL2v3Compatibility C sev) .l2v3 1 2 .strictUnitsRequiredInL2v3 :=
  checkCompatibilityWithUnits_eq C sev .l2v3 1 2 _

/-- A downgrade check only appends to the log and leaves the tree. -/
theorem checkCompatibilityWithUnits_frame (target : CompatibilityTarget) (l v : Nat)
    (code : SBMLErrorCode) (d : SBMLDocument) (inConversion : Bool) :
    PassFrame d (d.checkCompatibilityWithUnits C sev target l v code inConversion).1 := by
  obtain ⟨h₁, h₂⟩ := checkCompatibilityWithUnits_eq C sev target l v code d
  cases inConversion
  · rw [h₁]
    split
    · exact ⟨rfl, rfl, _, List.append_assoc _ _ _⟩
    · exact ⟨rfl, rfl, _, rfl⟩
  · rw [h₂]
    exact ⟨rfl, rfl, _, rfl⟩

/-- The checks for Level 2 Version 4 onwards only append to the log and leave the tree. -/
theorem checkCompatibility_frame (target : CompatibilityTarget) (d : SBMLDocument) :
    PassFrame d (d.checkCompatibility C target).1 := by
  rw [checkCompatibility, logChecks_eq]
  exact ⟨rfl, rfl, _, rfl⟩

end SBMLDocument

/-- A severity table in which every code is an error at Level 2 Version 2 and a warning
    elsewhere. -/
def errorOnlyInL2v2 (_ : SBMLErrorCode) (l v : Nat) : Severity :=
  if l = 2 ∧ v = 2 then .error else .warning

/-- Validators whose one report is a unit failure. -/
def CompatibilityValidators.oneUnitFailure : CompatibilityValidators :=
  ⟨fun _ _ => [], fun _ => [⟨.other 10501, .warning, ""⟩]⟩

namespace SBMLDocument

/-- A unit failure that is an error in Level 2 Version 2 is suppressed by the Level 2 Version 2
    check: it returns `0` and logs nothing, where its target's severity calls for one
    `StrictUnitsRequiredInL2v2` record. -/
theorem checkL2v2Compatibility_misses_unit_error :
    errorOnlyInL2v2 (.other 10501) 2 2 = .error ∧
      (blank 1 3 1).checkL2v2Compatibility .oneUnitFailure errorOnlyInL2v2 false =
        (blank 1 3 1, 0) := by
  decide

/-! ### What every check returns -/

variable (V : Validators)

/-- A check's result reports what it appended: the log after it is the log before with records
    appended, as many as the number it returns. -/
def ReportsAppended (d : SBMLDocument) (r : SBMLDocument × Nat) : Prop :=
  ∃ es, r.1.mErrorLog.errors = d.mErrorLog.errors ++ es ∧ es.length = r.2

/-- Logging a list of records, and returning its length. -/
theorem reportsAppended_addErrors (d : SBMLDocument) (es : List SBMLError) :
    ReportsAppended d (d.addErrors es, es.length) :=
  ⟨_, rfl, List.length_map _ _⟩

/-- A pass of `checkConsistency`, `validateSBML` or `checkInternalConsistency`. -/
theorem reportsAppended_runPass (checks : SBMLDocument → List (SBMLDocument → List SBMLError))
    (d : SBMLDocument) : ReportsAppended d (runPass checks d) := by
  rw [runPass_eq]
  exact ⟨_, rfl, rfl⟩

/-- The strict pass, on both of its exits. -/
theorem reportsAppended_checkConsistencyWithStrictUnits (d : SBMLDocument) :
    ReportsAppended d (d.checkConsistencyWithStrictUnits V) := by
  rw [checkConsistencyWithStrictUnits_eq]
  split
  · exact ⟨_, rfl, rfl⟩
  · exact ⟨_, List.append_assoc _ _ _, by simp⟩

/-- The shared body of the unit-checking downgrade checks: the unit record, when logged, is the
    one more it counts. -/
theorem reportsAppended_checkCompatibilityWithUnits (target : CompatibilityTarget) (l v : Nat)
    (code : SBMLErrorCode) (d : SBMLDocument) (inConversion : Bool) :
    ReportsAppended d (d.checkCompatibilityWithUnits C sev target l v code inConversion) := by
  obtain ⟨h₁, h₂⟩ := checkCompatibilityWithUnits_eq C sev target l v code d
  cases inConversion
  · rw [h₁]
    split
    · exact ⟨_, List.append_assoc _ _ _, by simp⟩
    · exact reportsAppended_addErrors d _
  · rw [h₂]
    exact reportsAppended_addErrors d _

/-- **Every check returns what it logged.** Whatever the validators and the severity table, each
    of `checkConsistency`, `validateSBML`, `checkInternalConsistency`,
    `checkConsistencyWithStrictUnits`, `checkL1Compatibility` … `checkL2v3Compatibility` (in a
    conversion or not) and `checkL2v4Compatibility` … `checkL3v2Compatibility` only appends
    records to the log, and returns their number. -/
theorem checks_report_appended (d : SBMLDocument) :
    ReportsAppended d (d.checkConsistency V) ∧ ReportsAppended d (d.validateSBML V) ∧
      ReportsAppended d (d.checkInternalConsistency V) ∧
      ReportsAppended d (d.checkConsistencyWithStrictUnits V) ∧
      (∀ inConversion, ReportsAppended d (d.checkL1Compatibility C sev inConversion) ∧
        ReportsAppended d (d.checkL2v1Compatibility C sev inConversion) ∧
        ReportsAppended d (d.checkL2v2Compatibility C sev inConversion) ∧
        ReportsAppended d (d.checkL2v3Compatibility C sev inConversion)) ∧
      ∀ target, ReportsAppended d (d.checkCompatibility C target) :=
  ⟨reportsAppended_runPass _ d, reportsAppended_runPass _ d, reportsAppended_runPass _ d,
    reportsAppended_checkConsistencyWithStrictUnits V d,
    fun inConversion => ⟨reportsAppended_checkCompatibilityWithUnits C sev _ _ _ _ d inConversion,
      reportsAppended_checkCompatibilityWithUnits C sev _ _ _ _ d inConversion,
      reportsAppended_checkCompatibilityWithUnits C sev _ _ _ _ d inConversion,
      reportsAppended_checkCompatibilityWithUnits C sev _ _ _ _ d inConversion⟩,
    fun target => by
      rw [checkCompatibility, logChecks_eq, Nat.zero_add]
      exact reportsAppended_addErrors d _⟩

end SBMLDocument

end LibSbml
