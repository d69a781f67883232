import LibSbml.Document.Packages

namespace LibSbml

/-!
# Operations — `setModel`, `createModel`, `convert`, the ad hoc validators

The base class's `checkCompatibility`, the `Model` constructor and the converter registry are not
among the sources; each enters as a parameter, so the results hold for every behaviour they may
have.

* `setModel`, `createModel`, `convert` — as the source writes them; `setLevelAndVersion`,
  `expandFunctionDefinitions`, `expandInitialAssignments`, each `convertSucceeds` on its own
  properties;
* `setModel_failure`, `setPackageRequired_failure`, `enableDefaultNS_failure`,
  `convert_unavailable` — a reported failure leaves the document exactly as it was;
  `convertSucceeds_spec` — a conversion wrapper answers `true` exactly when a converter matched
  and succeeded;
* `createModel_failure` — a `NULL` result leaves the document as it was *without its model*:
  the old model is deleted before the constructor is tried;
* `getValidator_eq`, `getValidator_runValidatorCalls` — the lookup loop never advances its
  counter, so after any run of `addValidator` and `clearValidators` only index `0` finds a
  validator.
-/

/-- The `const Model*` given to `setModel`: `NULL`, the document's own model, or another
    model object. -/
inductive ModelPointer where
  | null
  | own
  | other (m : Model)

/-- What a converter is asked for (`ConversionProperties`): a target revision and named
    options. -/
structure ConversionProperties where
  targetLevel : Nat
  targetVersion : Nat
  options : List (String × Bool)

/-- Modelled from the spec (§4.4): a converter, bound to a document and the properties, either
    rewrites the document or fails; it need not be atomic. -/
structure SBMLConverter where
  convert : ConversionProperties → SBMLDocument → SBMLDocument × OperationReturnValue

/-- Modelled from the spec (§4.4): `SBMLConverterRegistry::getConverterFor`, `none` when no
    registered converter matches the properties. -/
structure SBMLConverterRegistry where
  getConverterFor : ConversionProperties → Option SBMLConverter

namespace SBMLDocument

variable (checkCompatibility : SBMLDocument → Option Model → OperationReturnValue)
  (newModel : SBMLNamespaces → Option Model)

/-- `setModel(m)`. A failed compatibility check on `NULL` deletes the model; any other failed
    check is returned untouched; the document's own model is kept; otherwise a copy of `m`
    (`new Model(*m)`) is connected and moved into the document's namespace. -/
def setModel (d : SBMLDocument) (p : ModelPointer) : SBMLDocument × OperationReturnValue :=
  let m : Option Model := match p with
    | .null => none
    | .own => d.mModel
    | .other m => some m
  let returnValue := checkCompatibility d m
  if returnValue = .operationFailed ∧ m = none then ({ d with mModel := none }, .operationSuccess)
  else if returnValue ≠ .operationSuccess then (d, returnValue)
  else
    match p, m with
    | .own, _ => (d, .operationSuccess)
    | _, none => if d.mModel = none then (d, .operationSuccess)
        else ({ d with mModel := none }, .operationSuccess)
    | _, some m =>
      let m := m.clone.connectToParent d.mSBML
      let m := if d.mURI ≠ m.mURI then { m with mURI := d.mURI } else m
      ({ d with mModel := some m }, .operationSuccess)

/-- `createModel(sid)`: deletes the current model, then tries `new Model(getSBMLNamespaces())`;
    when the constructor throws, `NULL` is returned. -/
def createModel (d : SBMLDocument) (sid : String) : SBMLDocument × Option Model :=
  let d := { d with mModel := none }
  match newModel d.mSBMLNamespaces with
  | none => (d, none)
  | some m =>
    let m := { m with mId := sid }.connectToParent d.mSBML
    ({ d with mModel := some m }, some m)

/-- `convert(props)`: `LIBSBML_CONV_CONVERSION_NOT_AVAILABLE` when no converter matches,
    otherwise whatever the converter does. -/
def convert (converters : SBMLConverterRegistry) (d : SBMLDocument) (props : ConversionProperties) :
    SBMLDocument × OperationReturnValue :=
  match converters.getConverterFor props with
  | none => (d, .convConversionNotAvailable)
  | some c => c.convert props d

/-- The body the conversion wrappers share: `convert(prop) == LIBSBML_OPERATION_SUCCESS`. -/
def convertSucceeds (converters : SBMLConverterRegistry) (d : SBMLDocument)
    (props : ConversionProperties) : SBMLDocument × Bool :=
  let (d, result) := d.convert converters props
  (d, result == .operationSuccess)

/-- `setLevelAndVersion(level, version, strict, ignorePackages)`: the properties name the target
    revision and the options `strict`, `setLevelAndVersion` and `ignorePackages`. -/
def setLevelAndVersion (converters : SBMLConverterRegistry) (d : SBMLDocument)
    (level version : Nat) (strict ignorePackages : Bool) : SBMLDocument × Bool :=
  d.convertSucceeds converters ⟨level, version,
    [("strict", strict), ("setLevelAndVersion", true), ("ignorePackages", ignorePackages)]⟩

/-- `expandFunctionDefinitions()`: the properties are at the document's own namespaces. -/
def expandFunctionDefinitions (converters : SBMLConverterRegistry) (d : SBMLDocument) :
    SBMLDocument × Bool :=
  d.convertSucceeds converters ⟨d.mSBMLNamespaces.level, d.mSBMLNamespaces.version,
    [("expandFunctionDefinitions", true)]⟩

/-- `expandInitialAssignments()`: the properties are at the document's own namespaces. -/
def expandInitialAssignments (converters : SBMLConverterRegistry) (d : SBMLDocument) :
    SBMLDocument × Bool :=
  d.convertSucceeds converters ⟨d.mSBMLNamespaces.level, d.mSBMLNamespaces.version,
    [("expandInitialAssignments", true)]⟩

/-! ### Failures -/

/-- A `setModel` that reports failure changes nothing. -/
theorem setModel_failure (d : SBMLDocument) (p : ModelPointer)
    (h : (d.setModel checkCompatibility p).2 ≠ .operationSuccess) :
    (d.setModel checkCompatibility p).1 = d := by
  dsimp only [setModel] at h ⊢
  -- only the branch returning the validator's code can report failure, and it returns `d`
  split_ifs at h ⊢
  all_goals first | exact absurd rfl h | rfl | (split at h <;> exact absurd rfl h)

/-- A `setPackageRequired` that reports failure changes nothing. -/
theorem setPackageRequired_failure (reg : SBMLExtensionRegistry) (d : SBMLDocument)
    (package : String) (flag : Bool)
    (h : (d.setPackageRequired reg package flag).2 ≠ .operationSuccess) :
    (d.setPackageRequired reg package flag).1 = d := by
  cases hp : setRequiredOfFirst reg package flag d.mPlugins with
  | some ps => simp [setPackageRequired, hp] at h
  | none =>
    simp only [setPackageRequired, hp] at h ⊢
    split_ifs at h ⊢ <;> simp_all

/-- An `enableDefaultNS` that reports failure changes nothing. -/
theorem enableDefaultNS_failure (reg : SBMLExtensionRegistry) (d : SBMLDocument)
    (package : String) (flag : Bool)
    (h : (d.enableDefaultNS reg package flag).2 ≠ .operationSuccess) :
    (d.enableDefaultNS reg package flag).1 = d := by
  dsimp only [enableDefaultNS] at h ⊢
  split_ifs at h ⊢
  · rfl
  · exact absurd rfl h

/-- With no converter for the properties, `convert` reports it and changes nothing. -/
theorem convert_unavailable (converters : SBMLConverterRegistry) (d : SBMLDocument)
    (props : ConversionProperties) (h : converters.getConverterFor props = none) :
    d.convert converters props = (d, .convConversionNotAvailable) := by
  simp [convert, h]

/-- A conversion wrapper answers `true` exactly when a converter matched its properties and
    reported success; with none matching it answers `false` and changes nothing. -/
theorem convertSucceeds_spec (converters : SBMLConverterRegistry) (d : SBMLDocument)
    (props : ConversionProperties) :
    ((d.convertSucceeds converters props).2 = true ↔ ∃ c, converters.getConverterFor props = some c ∧
        (c.convert props d).2 = .operationSuccess) ∧
      (converters.getConverterFor props = none → d.convertSucceeds converters props = (d, false)) := by
  unfold convertSucceeds convert
  cases converters.getConverterFor props <;> simp

/-- A `createModel` that returns `NULL` leaves the document without a model and otherwise as it
    was. -/
theorem createModel_failure (d : SBMLDocument) (sid : String)
    (h : (d.createModel newModel sid).2 = none) :
    (d.createModel newModel sid).1 = { d with mModel := none } := by
  cases hm : newModel { d with mModel := none }.mSBMLNamespaces with
  | none => simp only [createModel, hm]
  | some m => simp [createModel, hm] at h

/-- Failure atomicity as the code has it: a reported failure of `setModel`,
    `setPackageRequired`, `enableDefaultNS`, or of `convert` for want of a converter, leaves the
    document exactly as it was; a `NULL` from `createModel` leaves it as it was but without a
    model. -/
theorem failure_atomicity (reg : SBMLExtensionRegistry) (converters : SBMLConverterRegistry)
    (d : SBMLDocument) :
    (∀ p, (d.setModel checkCompatibility p).2 ≠ .operationSuccess →
      (d.setModel checkCompatibility p).1 = d) ∧
    (∀ package flag, (d.setPackageRequired reg package flag).2 ≠ .operationSuccess →
      (d.setPackageRequired reg package flag).1 = d) ∧
    (∀ package flag, (d.enableDefaultNS reg package flag).2 ≠ .operationSuccess →
      (d.enableDefaultNS reg package flag).1 = d) ∧
    (∀ props, converters.getConverterFor props = none →
      d.convert converters props = (d, .convConversionNotAvailable)) ∧
    (∀ sid, (d.createModel newModel sid).2 = none →
      (d.createModel newModel sid).1 = { d with mModel := none }) :=
  ⟨setModel_failure checkCompatibility d, setPackageRequired_failure reg d,
    enableDefaultNS_failure reg d, convert_unavailable converters d, createModel_failure newModel d⟩

/-- A model owned by the document at address `1`. -/
def someModel : Model := ⟨"m", "", sbmlL3v1, [], some 1, some 1⟩

/-- When the `Model` constructor rejects the namespaces, `createModel` returns `NULL` and the
    model the document had is gone. -/
theorem createModel_failure_loses_model :
    let d := { blank 1 3 1 with mModel := some someModel }
    (d.createModel (fun _ => none) "m").2 = none ∧
      (d.createModel (fun _ => none) "m").1.mModel ≠ d.mModel := by
  decide

end SBMLDocument

/-! ### Ad hoc validators -/

/-- Modelled from the spec: `SBMLValidator::clone()`, a new validator of the same kind. -/
def SBMLValidator.clone (v : SBMLValidator) : SBMLValidator := ⟨v.kind⟩

/-- A call on a document's list of ad hoc validators. -/
inductive ValidatorCall where
  | addValidator (v : SBMLValidator)
  | clearValidators

/-- The validator an `addValidator` call is given; `none` for `clearValidators`. -/
def ValidatorCall.added : ValidatorCall → Option SBMLValidator
  | .addValidator v => some v
  | .clearValidators => none

namespace SBMLDocument

/-- `getNumValidators()`. -/
def getNumValidators (d : SBMLDocument) : Nat := d.mValidators.length

/-- `clearValidators()`: deletes every validator and empties the list. -/
def clearValidators (d : SBMLDocument) : SBMLDocument × OperationReturnValue :=
  ({ d with mValidators := [] }, .operationSuccess)

/-- `addValidator(validator)`: appends a clone. -/
def addValidator (d : SBMLDocument) (validator : SBMLValidator) :
    SBMLDocument × OperationReturnValue :=
  ({ d with mValidators := d.mValidators ++ [validator.clone] }, .operationSuccess)

/-- The loop of `getValidator`: it returns the validator under the iterator when `count` equals
    `index`, and `count` is never incremented. -/
def getValidatorLoop (index count : Nat) : List SBMLValidator → Option SBMLValidator
  | [] => none
  | v :: vs => if count = index then some v else getValidatorLoop index count vs

/-- `getValidator(index)`: `NULL` past the end, otherwise the loop's answer. -/
def getValidator (d : SBMLDocument) (index : Nat) : Option SBMLValidator :=
  if index ≥ d.getNumValidators then none else getValidatorLoop index 0 d.mValidators

/-- Applies one call, dropping its return code (both always report success). -/
def runValidatorCall (d : SBMLDocument) : ValidatorCall → SBMLDocument
  | .addValidator v => (d.addValidator v).1
  | .clearValidators => d.clearValidators.1

/-- Applies a sequence of calls in order. -/
def runValidatorCalls (d : SBMLDocument) (cs : List ValidatorCall) : SBMLDocument :=
  cs.foldl runValidatorCall d

/-- The loop answers the first validator when `count = index`, and nothing otherwise. -/
theorem getValidatorLoop_eq (index count : Nat) (vs : List SBMLValidator) :
    getValidatorLoop index count vs = if count = index then vs.head? else none := by
  induction vs with
  | nil => split_ifs <;> rfl
  | cons v vs ih => by_cases h : count = index <;> simp [getValidatorLoop, h, ih]

/-- `getValidator` returns the first validator at index `0` and `NULL` at every other index. -/
theorem getValidator_eq (d : SBMLDocument) (k : Nat) :
    d.getValidator k = if k = 0 then d.mValidators.head? else none := by
  unfold getValidator getNumValidators
  rw [getValidatorLoop_eq]
  by_cases hk : k = 0
  · subst hk; cases d.mValidators <;> simp
  · simp [hk, Ne.symm hk]

/-- A call keeps the clone it adds, or empties the list. -/
theorem mValidators_runValidatorCall (d : SBMLDocument) (c : ValidatorCall) :
    (d.runValidatorCall c).mValidators =
      match c with
      | .addValidator v => d.mValidators ++ [v.clone]
      | .clearValidators => [] := by
  cases c <;> rfl

/-- A run that never clears appends the clones of the validators it adds, in order. -/
theorem mValidators_runValidatorCalls_of_no_clear (d : SBMLDocument) (cs : List ValidatorCall)
    (h : ValidatorCall.clearValidators ∉ cs) :
    (d.runValidatorCalls cs).mValidators =
      d.mValidators ++ (cs.filterMap ValidatorCall.added).map SBMLValidator.clone := by
  induction cs generalizing d with
  | nil => simp [runValidatorCalls]
  | cons c cs ih =>
    have hcs : ValidatorCall.clearValidators ∉ cs := fun hm => h (List.mem_cons_of_mem c hm)
    cases c with
    | clearValidators => exact absurd (List.mem_cons_self _ _) h
    | addValidator v =>
      simp only [runValidatorCalls, List.foldl_cons] at ih ⊢
      rw [ih _ hcs, mValidators_runValidatorCall]
      simp [ValidatorCall.added]

/-- After a run, the list holds the clones added since the run's last `clearValidators`. -/
theorem mValidators_runValidatorCalls_clear (d : SBMLDocument) (pre post : List ValidatorCall)
    (h : ValidatorCall.clearValidators ∉ post) :
    (d.runValidatorCalls (pre ++ .clearValidators :: post)).mValidators =
      (post.filterMap ValidatorCall.added).map SBMLValidator.clone := by
  have hrun : d.runValidatorCalls (pre ++ .clearValidators :: post) =
      ((d.runValidatorCalls pre).clearValidators.1).runValidatorCalls post := by
    simp only [runValidatorCalls, List.foldl_append, List.foldl_cons]; rfl
  rw [hrun, mValidators_runValidatorCalls_of_no_clear _ _ h]
  rfl

/-- After any run that clears, `getValidator k` is the first clone added since the last
    `clearValidators` when `k = 0`, and `NULL` for every other `k`, however many were added. -/
theorem getValidator_runValidatorCalls (d : SBMLDocument) (pre post : List ValidatorCall)
    (h : ValidatorCall.clearValidators ∉ post) (k : Nat) :
    (d.runValidatorCalls (pre ++ .clearValidators :: post)).getValidator k =
      if k = 0 then ((post.filterMap ValidatorCall.added).map SBMLValidator.clone).head?
      else none := by
  rw [getValidator_eq, mValidators_runValidatorCalls_clear d pre post h]

/-- A document without validators given two, of kinds `0` and `1`. -/
def twoValidatorsDocument : SBMLDocument :=
  (blank 1 3 2).runValidatorCalls [.addValidator ⟨0⟩, .addValidator ⟨1⟩]

/-- With two validators added there are two, the second clone is held at index `1`, and
    `getValidator(1)` returns `NULL`. -/
theorem getValidator_second_is_null :
    twoValidatorsDocument.getNumValidators = 2 ∧
      twoValidatorsDocument.mValidators[1]? = some ⟨1⟩ ∧
      twoValidatorsDocument.getValidator 1 = none := by
  decide

end SBMLDocument

end LibSbml
