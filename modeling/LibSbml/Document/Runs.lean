import LibSbml.Document.Operations
import LibSbml.Document.PackageLaws
import LibSbml.Validation.Compatibility

namespace LibSbml

/-!
# Runs of document methods — the address, the log and the model's owner

A document lives through a run of calls of its methods. `Step` is one call of a method the
sources define on the document in place, with what it takes from outside them (the registry,
the severity table, the validators, the `Model` constructor, the compatibility check) as a
parameter. Over every run the document keeps its address; its log only gains records at the end,
none removed, reordered or rewritten, and the override it had is back after each pass; and its
model, if any, is one a call connected to it or carries the back-references of the model it
started with, so a document whose model names it never holds a model that names another.

The copy constructor and `clone` build a new document and connect what they copy; `convert` is
whatever its converter does; `createObject` builds a model that its caller, the base class's
`read`, connects: none of them is a step.

* `Model.owner`, `ModelOwned` — a model's back-references, and the invariant that they name the
  document;
* `StepFrame` — what a call keeps, with `StepFrame.trans` and the frames of each method;
* `Step`, `Step.frame` — the calls, and what each keeps, one case per method;
* `runs_keep_document` — over any run the frame holds, no severity's error count drops, and an
  owned model stays owned.
-/

/-- The back-references of a model: its parent object and its document. -/
def Model.owner (m : Model) : Option Nat × Option Nat := (m.mParentSBMLObject, m.mSBML)

/-- Unfolding lemma: `connectToParent a` makes `a` both back-references. -/
@[simp] theorem Model.owner_connectToParent (m : Model) (a : Nat) :
    (m.connectToParent a).owner = (some a, some a) := rfl

namespace SBMLDocument

/-- The document's model, if it has one, names it as its parent and as its document. -/
def ModelOwned (d : SBMLDocument) : Prop :=
  ∀ m ∈ d.mModel, m.owner = (some d.mSBML, some d.mSBML)

/-- Whether the model names its document is decided by looking at it. -/
instance : DecidablePred ModelOwned := fun d =>
  inferInstanceAs (Decidable (∀ m ∈ d.mModel, m.owner = (some d.mSBML, some d.mSBML)))

/-! ### What a call keeps -/

/-- What a call keeps of the document `d` it turns into `d'`: the address; the log, which it only
    extends; and the model's owner: the model after the call is connected to the document or
    carries the back-references of the model before it. -/
structure StepFrame (d d' : SBMLDocument) : Prop where
  sbml : d'.mSBML = d.mSBML
  log : d.mErrorLog.Extends d'.mErrorLog
  owner : ∀ m' ∈ d'.mModel,
    m'.owner = (some d.mSBML, some d.mSBML) ∨ ∃ m ∈ d.mModel, m'.owner = m.owner

variable {d d' : SBMLDocument}

namespace StepFrame

/-- Doing nothing keeps the frame. -/
theorem refl (d : SBMLDocument) : StepFrame d d := ⟨rfl, .refl _, fun m hm => .inr ⟨m, hm, rfl⟩⟩

/-- Two calls in a row keep the frame: a model the second keeps is the first's, connected or
    carrying the back-references before both. -/
theorem trans {d₁ d₂ d₃ : SBMLDocument} (h₁ : StepFrame d₁ d₂) (h₂ : StepFrame d₂ d₃) :
    StepFrame d₁ d₃ where
  sbml := h₂.sbml.trans h₁.sbml
  log := h₁.log.trans h₂.log
  owner m'' hm'' := by
    rcases h₂.owner m'' hm'' with e | ⟨m', hm', e⟩
    · exact .inl (h₁.sbml ▸ e)
    · rcases h₁.owner m' hm' with e' | ⟨m, hm, e'⟩
      · exact .inl (e.trans e')
      · exact .inr ⟨m, hm, e.trans e'⟩

/-- A call that writes neither the address, the model nor the log. -/
theorem of_eq (hs : d'.mSBML = d.mSBML) (hm : d'.mModel = d.mModel)
    (hl : d'.mErrorLog = d.mErrorLog) : StepFrame d d' :=
  ⟨hs, hl ▸ .refl _, fun m hm' => .inr ⟨m, hm ▸ hm', rfl⟩⟩

/-- A call that gives the document a model connected to it, or none. -/
theorem setModelTo (d : SBMLDocument) {o : Option Model}
    (h : ∀ m ∈ o, m.owner = (some d.mSBML, some d.mSBML)) : StepFrame d { d with mModel := o } :=
  ⟨rfl, .refl _, fun m hm => .inl (h m hm)⟩

/-- A pass: the tree stays, the log is extended. -/
theorem of_passFrame (h : PassFrame d d') : StepFrame d d' :=
  ⟨congrArg (·.mSBML) h.1, h.2, fun m hm => .inr ⟨m, congrArg (·.mModel) h.1 ▸ hm, rfl⟩⟩

/-- `readAttributes`, on any exit. -/
theorem of_readFrame (h : ReadFrame d d') : StepFrame d d' :=
  ⟨h.sbml, h.log, fun m hm => .inr ⟨m, h.model ▸ hm, rfl⟩⟩

/-- `connectToChild` after a call that keeps the address and the log. -/
theorem connectToChild (hs : d'.mSBML = d.mSBML) (hl : d'.mErrorLog = d.mErrorLog) :
    StepFrame d d'.connectToChild := by
  refine ⟨hs, hl ▸ .refl _, fun m' hm' => .inl ?_⟩
  obtain ⟨m, -, rfl⟩ := Option.mem_map.1 hm'
  rw [Model.owner_connectToParent, hs]

/-- An owned model stays owned. -/
theorem modelOwned (h : StepFrame d d') (ho : ModelOwned d) : ModelOwned d' := fun m' hm' => by
  rw [h.sbml]
  rcases h.owner m' hm' with e | ⟨m, hm, e⟩
  · exact e
  · exact e.trans (ho m hm)

/-- No severity's error count drops. -/
theorem getNumErrors_le (h : StepFrame d d') (s : Severity) :
    d.getNumErrors s ≤ d'.getNumErrors s := by
  obtain ⟨-, es, hes⟩ := h.log
  simp only [getNumErrors, SBMLErrorLog.getNumFailsWithSeverity, hes, List.countP_append]
  omega

end StepFrame

/-! ### The frame of each method -/

/-- `operator=`: whichever branch, `connectToChild` connects the model. -/
theorem assign_frame (a rhs : SBMLDocument) : StepFrame a (a.assign rhs) := by
  unfold assign
  split_ifs <;> exact .connectToChild rfl rfl

/-- `setModel`: the model is kept, removed, or a copy connected to the document. -/
theorem setModel_frame (checkCompatibility : SBMLDocument → Option Model → OperationReturnValue)
    (d : SBMLDocument) (p : ModelPointer) : StepFrame d (d.setModel checkCompatibility p).1 := by
  have hnone := StepFrame.setModelTo d (o := none) fun _ h => nomatch h
  unfold setModel
  dsimp only
  split_ifs
  · exact hnone
  · exact .refl d
  -- the check passed: the pointer decides
  all_goals split
  all_goals first
    | exact .refl d
    | exact hnone
    | exact .setModelTo d fun m' hm' => by cases Option.some_injective _ hm'; split_ifs <;> rfl

/-- `createModel`: the model is removed, then the one built is connected. -/
theorem createModel_frame (newModel : SBMLNamespaces → Option Model) (d : SBMLDocument)
    (sid : String) : StepFrame d (d.createModel newModel sid).1 := by
  unfold createModel
  dsimp only
  split
  · exact .setModelTo d fun _ h => nomatch h
  · exact .setModelTo d fun _ h => by cases Option.some_injective _ h; rfl

/-- `setPackageRequired` writes a plugin's flag or the unknown-package table. -/
theorem setPackageRequired_frame (reg : SBMLExtensionRegistry) (d : SBMLDocument)
    (package : String) (flag : Bool) : StepFrame d (d.setPackageRequired reg package flag).1 := by
  unfold setPackageRequired
  split
  · exact .of_eq rfl rfl rfl
  · split_ifs <;> exact .of_eq rfl rfl rfl

/-- `enableDefaultNS` writes the default-namespace map. -/
theorem enableDefaultNS_frame (reg : SBMLExtensionRegistry) (d : SBMLDocument) (package : String)
    (flag : Bool) : StepFrame d (d.enableDefaultNS reg package flag).1 := by
  unfold enableDefaultNS
  dsimp only
  split_ifs <;> exact .of_eq rfl rfl rfl

/-- `enablePackageInternal` changes only the model's plugins. -/
theorem enablePackageInternal_frame (reg : SBMLExtensionRegistry) (d : SBMLDocument)
    (uri pfx : String) (flag : Bool) : StepFrame d (d.enablePackageInternal reg uri pfx flag) := by
  rw [enablePackageInternal_eq]
  refine ⟨rfl, .refl _, fun m' hm' => .inr ?_⟩
  obtain ⟨m, hm, rfl⟩ := Option.mem_map.1 hm'
  exact ⟨m, hm, rfl⟩

/-- The strict pass: the units bit, then a pass. -/
theorem checkConsistencyWithStrictUnits_stepFrame (V : Validators) (d : SBMLDocument) :
    StepFrame d (d.checkConsistencyWithStrictUnits V).1 :=
  (StepFrame.of_eq rfl rfl rfl : StepFrame d (d.setConsistencyChecks .unitsConsistency false)).trans
    (.of_passFrame (checkConsistencyWithStrictUnits_frame V d))

/-! ### Runs -/

/-- One call of a method on the document `d`, in place, giving `d'`: each constructor is a method
    of the sources with its arguments and what it takes from outside them. -/
inductive Step : SBMLDocument → SBMLDocument → Prop
  | readAttributes (d : SBMLDocument) (reg : SBMLExtensionRegistry)
      (sev : SBMLErrorCode → Nat → Nat → Severity) (attributes : XMLAttributes) :
      Step d (d.readAttributes reg sev attributes)
  | assign (d rhs : SBMLDocument) : Step d (d.assign rhs)
  | setModel (d : SBMLDocument)
      (checkCompatibility : SBMLDocument → Option Model → OperationReturnValue) (p : ModelPointer) :
      Step d (d.setModel checkCompatibility p).1
  | createModel (d : SBMLDocument) (newModel : SBMLNamespaces → Option Model) (sid : String) :
      Step d (d.createModel newModel sid).1
  | setConsistencyChecks (d : SBMLDocument) (c : SBMLErrorCategory) (apply : Bool) :
      Step d (d.setConsistencyChecks c apply)
  | setConsistencyChecksForConversion (d : SBMLDocument) (c : SBMLErrorCategory) (apply : Bool) :
      Step d (d.setConsistencyChecksForConversion c apply)
  | setApplicableValidators (d : SBMLDocument) (appl : UInt8) :
      Step d (d.setApplicableValidators appl)
  | setConversionValidators (d : SBMLDocument) (appl : UInt8) :
      Step d (d.setConversionValidators appl)
  | setLocationURI (d : SBMLDocument) (uri : String) : Step d (d.setLocationURI uri)
  | setInvalidLevel (d : SBMLDocument) : Step d d.setInvalidLevel
  | addValidator (d : SBMLDocument) (validator : SBMLValidator) :
      Step d (d.addValidator validator).1
  | clearValidators (d : SBMLDocument) : Step d d.clearValidators.1
  | checkConsistency (d : SBMLDocument) (V : Validators) : Step d (d.checkConsistency V).1
  | validateSBML (d : SBMLDocument) (V : Validators) : Step d (d.validateSBML V).1
  | checkInternalConsistency (d : SBMLDocument) (V : Validators) :
      Step d (d.checkInternalConsistency V).1
  | checkConsistencyWithStrictUnits (d : SBMLDocument) (V : Validators) :
      Step d (d.checkConsistencyWithStrictUnits V).1
  | checkCompatibilityWithUnits (d : SBMLDocument) (C : CompatibilityValidators)
      (sev : SBMLErrorCode → Nat → Nat → Severity) (target : CompatibilityTarget)
      (lookupLevel lookupVersion : Nat) (code : SBMLErrorCode) (inConversion : Bool) :
      Step d (d.checkCompatibilityWithUnits C sev target lookupLevel lookupVersion code
        inConversion).1
  | checkCompatibility (d : SBMLDocument) (C : CompatibilityValidators)
      (target : CompatibilityTarget) : Step d (d.checkCompatibility C target).1
  | addUnknownPackageRequired (d : SBMLDocument) (pkgURI pfx : String) (flag : Bool) :
      Step d (d.addUnknownPackageRequired pkgURI pfx flag).1
  | setPackageRequired (d : SBMLDocument) (reg : SBMLExtensionRegistry) (package : String)
      (flag : Bool) : Step d (d.setPackageRequired reg package flag).1
  | enablePackageInternal (d : SBMLDocument) (reg : SBMLExtensionRegistry)
      (pkgURI pkgPrefix : String) (flag : Bool) :
      Step d (d.enablePackageInternal reg pkgURI pkgPrefix flag)
  | enableDefaultNS (d : SBMLDocument) (reg : SBMLExtensionRegistry) (package : String)
      (flag : Bool) : Step d (d.enableDefaultNS reg package flag).1

/-- Every call keeps the frame. -/
theorem Step.frame (h : Step d d') : StepFrame d d' := by
  cases h with
  | readAttributes reg sev attributes =>
    exact .of_readFrame (readFrame_readAttributes reg sev attributes d)
  | assign rhs => exact assign_frame d rhs
  | setModel checkCompatibility p => exact setModel_frame checkCompatibility d p
  | createModel newModel sid => exact createModel_frame newModel d sid
  | setConsistencyChecks | setConsistencyChecksForConversion | setApplicableValidators
  | setConversionValidators | setLocationURI | setInvalidLevel => exact .of_eq rfl rfl rfl
  | addValidator => exact .of_eq rfl rfl rfl
  | clearValidators => exact .of_eq rfl rfl rfl
  | checkConsistency V => exact .of_passFrame (checkConsistency_frame V d)
  | validateSBML V => exact .of_passFrame (validateSBML_frame V d)
  | checkInternalConsistency V => exact .of_passFrame (checkInternalConsistency_frame V d)
  | checkConsistencyWithStrictUnits V => exact checkConsistencyWithStrictUnits_stepFrame V d
  | checkCompatibilityWithUnits C sev target l v code inConversion =>
    exact .of_passFrame (checkCompatibilityWithUnits_frame C sev target l v code d inConversion)
  | checkCompatibility C target => exact .of_passFrame (checkCompatibility_frame C target d)
  | addUnknownPackageRequired => exact .of_eq rfl rfl rfl
  | setPackageRequired reg package flag => exact setPackageRequired_frame reg d package flag
  | enablePackageInternal reg uri pfx flag => exact enablePackageInternal_frame reg d uri pfx flag
  | enableDefaultNS reg package flag => exact enableDefaultNS_frame reg d package flag

/-- **What every run keeps.** Over any run of the document's methods, the document keeps its
    address; its log only gains records at the end, with the override it had; no severity's
    error count drops; the model at the end is connected to the document or carries the
    back-references of the model at the start; and a model that named the document is followed
    only by models that name it. -/
theorem runs_keep_document (h : Relation.ReflTransGen Step d d') :
    StepFrame d d' ∧ (∀ s, d.getNumErrors s ≤ d'.getNumErrors s) ∧
      (ModelOwned d → ModelOwned d') := by
  have hf : StepFrame d d' := by
    induction h with
    | refl => exact .refl d
    | tail _ hs ih => exact ih.trans hs.frame
  exact ⟨hf, hf.getNumErrors_le, hf.modelOwned⟩

/-- Validators whose internal check reports one warning. -/
def oneWarningValidators : Validators :=
  ⟨fun _ => [⟨.other 1, .warning, ""⟩], fun _ => [], fun _ _ => [], fun _ _ => [], fun _ => []⟩

/-- A run on a fresh Level 3 Version 2 document: a model created, a consistency pass, then `foo`
    disabled. -/
theorem runs_keep_document_blank :
    let d := (((blank 1 3 2).createModel (fun _ => some someModel) "m").1.checkConsistency
      oneWarningValidators).1.enablePackageInternal .empty fooURI "foo" false
    Relation.ReflTransGen Step (blank 1 3 2) d ∧ StepFrame (blank 1 3 2) d ∧
      (∀ s, (blank 1 3 2).getNumErrors s ≤ d.getNumErrors s) ∧
      (ModelOwned (blank 1 3 2) → ModelOwned d) :=
  have h : Relation.ReflTransGen Step (blank 1 3 2) _ :=
    .tail (.tail (.single (.createModel _ _ _)) (.checkConsistency _ _))
      (.enablePackageInternal _ _ _ _ _)
  ⟨h, runs_keep_document h⟩

end SBMLDocument

end LibSbml
