import LibSbml.Document.Packages

namespace LibSbml

/-!
# Copying a document — the copy constructor, `clone` and `operator=`

* `SBMLDocument.copy` — `SBMLDocument(const SBMLDocument&)`: a fresh log, no ad hoc validators,
  an empty `mPkgUseDefaultNSMap`, a cloned model reconnected to the copy;
* `SBMLDocument.assign` — `operator=`: copies what the copy constructor copies, except that a
  model is copied only when the source has one, and the default-namespace map is left alone;
* `SBMLDocument.Agrees` — the observations the two share: revision, location, check masks and
  both unknown-package tables;
* `copy_agrees` / `assign_agrees` — each agrees with its source; the copy's flags are all unset
  (`copy_isEnabledDefaultNS`) while an assignment keeps the target's (`assign_flags`).
-/

variable (reg : SBMLExtensionRegistry)

namespace SBMLDocument

/-- `connectToChild()`: the model's back-references name the document. -/
def connectToChild (d : SBMLDocument) : SBMLDocument :=
  { d with mModel := d.mModel.map (·.connectToParent d.mSBML) }

/-- `SBMLDocument(const SBMLDocument& orig)` constructing at address `self`. The base class
    copies the namespaces, plugins and element namespace; the log and the ad hoc validators start
    empty, and so does `mPkgUseDefaultNSMap` (its initializer is `mPkgUseDefaultNSMap()`). -/
def copy (orig : SBMLDocument) (self : Nat) : SBMLDocument :=
  connectToChild
    { orig with
      mSBML := self
      mModel := orig.mModel.map (·.clone.setSBMLDocument self)
      mErrorLog := .empty
      mValidators := []
      mPkgUseDefaultNSMap := [] }

/-- `clone()`: `new SBMLDocument(*this)` at address `self`. -/
def clone (d : SBMLDocument) (self : Nat) : SBMLDocument := d.copy self

/-- `operator=(rhs)` on the document `a` (whose address is `a.mSBML`). Nothing is copied when
    `&rhs == this`; otherwise the base class, revision, location, internal validator and both
    tables are copied, and the model only when `rhs` has one. `connectToChild()` runs in both
    cases. -/
def assign (a rhs : SBMLDocument) : SBMLDocument :=
  connectToChild <|
    if rhs.mSBML ≠ a.mSBML then
      { a with
        mSBMLNamespaces := rhs.mSBMLNamespaces
        mPlugins := rhs.mPlugins
        mURI := rhs.mURI
        mLevel := rhs.mLevel
        mVersion := rhs.mVersion
        mLocationURI := rhs.mLocationURI
        mApplicableValidators := rhs.mApplicableValidators
        mConversionValidators := rhs.mConversionValidators
        mRequiredAttrOfUnknownPkg := rhs.mRequiredAttrOfUnknownPkg
        mRequiredAttrOfUnknownDisabledPkg := rhs.mRequiredAttrOfUnknownDisabledPkg
        mModel := match rhs.mModel with
          | some m => some (m.clone.setSBMLDocument a.mSBML)
          | none => a.mModel }
    else a

/-! ### What a copy shares with its source -/

/-- The observations a copy and an assignment both take from their source. -/
structure Agrees (x y : SBMLDocument) : Prop where
  level : x.mLevel = y.mLevel
  version : x.mVersion = y.mVersion
  locationURI : x.mLocationURI = y.mLocationURI
  applicable : x.mApplicableValidators = y.mApplicableValidators
  conversion : x.mConversionValidators = y.mConversionValidators
  unknown : x.mRequiredAttrOfUnknownPkg = y.mRequiredAttrOfUnknownPkg
  disabled : x.mRequiredAttrOfUnknownDisabledPkg = y.mRequiredAttrOfUnknownDisabledPkg

/-- `m'` is a copy of `m` owned by the document at `self`. -/
def OwnedCopy (self : Nat) (m' m : Model) : Prop :=
  m'.sameContent m ∧ m'.mParentSBMLObject = some self ∧ m'.mSBML = some self

/-- A cloned model reconnected to `self` is an owned copy. -/
theorem ownedCopy_clone (m : Model) (self : Nat) :
    OwnedCopy self ((m.clone.setSBMLDocument self).connectToParent self) m :=
  ⟨rfl, rfl, rfl⟩

/-- The copy constructor copies every shared observation. -/
theorem copy_agrees (d : SBMLDocument) (self : Nat) : (d.copy self).Agrees d :=
  ⟨rfl, rfl, rfl, rfl, rfl, rfl, rfl⟩

/-- The copy lives at `self` and holds a model exactly when `d` does: an owned copy of it. -/
theorem copy_model (d : SBMLDocument) (self : Nat) :
    (d.copy self).mSBML = self ∧
      Option.Rel (OwnedCopy self) (d.copy self).mModel d.mModel := by
  refine ⟨rfl, ?_⟩
  cases h : d.mModel with
  | none => simpa [copy, connectToChild, h] using Option.Rel.none
  | some m => simpa [copy, connectToChild, h] using Option.Rel.some (ownedCopy_clone m self)

/-- The copy has no default-namespace flag set, whatever `d` had. -/
theorem copy_isEnabledDefaultNS (d : SBMLDocument) (self : Nat) (package : String) :
    (d.copy self).isEnabledDefaultNS reg package = false := by
  simp [isEnabledDefaultNS, copy, connectToChild, flagLookup]

/-- An assignment from a document at another address copies every shared observation. -/
theorem assign_agrees (a b : SBMLDocument) (h : b.mSBML ≠ a.mSBML) : (a.assign b).Agrees b := by
  simp only [assign, h, ne_eq, not_false_eq_true, if_true, connectToChild]
  exact ⟨rfl, rfl, rfl, rfl, rfl, rfl, rfl⟩

/-- When `b` has a model, the assigned `a` holds an owned copy of it. -/
theorem assign_model (a b : SBMLDocument) (h : b.mSBML ≠ a.mSBML) (m : Model)
    (hm : b.mModel = some m) :
    ∃ m', (a.assign b).mModel = some m' ∧ OwnedCopy a.mSBML m' m := by
  simp only [assign, h, ne_eq, not_false_eq_true, if_true, connectToChild, hm]
  exact ⟨_, rfl, ownedCopy_clone m a.mSBML⟩

/-- An assignment leaves the target's default-namespace map as it was. -/
theorem assign_flags (a b : SBMLDocument) :
    (a.assign b).mPkgUseDefaultNSMap = a.mPkgUseDefaultNSMap := by
  unfold assign connectToChild
  split <;> rfl

/-! ### Copy fidelity -/

/-- The copy of `d` at `self` agrees with `d` on revision, location, masks and both tables,
    holds an owned copy of `d`'s model exactly when `d` has one, and has every
    default-namespace flag unset. -/
theorem copy_fidelity (d : SBMLDocument) (self : Nat) :
    (d.copy self).Agrees d ∧ (d.copy self).mSBML = self ∧
      Option.Rel (OwnedCopy self) (d.copy self).mModel d.mModel ∧
      ∀ package, (d.copy self).isEnabledDefaultNS reg package = false :=
  ⟨copy_agrees d self, (copy_model d self).1, (copy_model d self).2,
    copy_isEnabledDefaultNS reg d self⟩

/-- A copy of `fooDocument` no longer reports the default namespace of `foo`. -/
theorem copy_loses_defaultNS :
    fooDocument.isEnabledDefaultNS fooRegistry fooURI = true ∧
      (fooDocument.copy 2).isEnabledDefaultNS fooRegistry fooURI = false := by
  decide

/-! ### Assignment against copy construction -/

/-- After `a = b` (at different addresses) `a` agrees with `SBMLDocument(b)` built at `a`'s
    address on revision, location, masks and both tables, holds the same model as that copy
    whenever `b` has one, and keeps its own default-namespace map, where the copy starts with
    an empty one. -/
theorem assign_matches_copy (a b : SBMLDocument) (h : b.mSBML ≠ a.mSBML) :
    (a.assign b).Agrees (b.copy a.mSBML) ∧
      (b.mModel.isSome → (a.assign b).mModel = (b.copy a.mSBML).mModel) ∧
      (a.assign b).mPkgUseDefaultNSMap = a.mPkgUseDefaultNSMap ∧
      (b.copy a.mSBML).mPkgUseDefaultNSMap = [] := by
  refine ⟨?_, fun hm => ?_, assign_flags a b, rfl⟩
  · simp only [assign, h, ne_eq, not_false_eq_true, if_true, connectToChild]
    exact ⟨rfl, rfl, rfl, rfl, rfl, rfl, rfl⟩
  · obtain ⟨m, hm⟩ := Option.isSome_iff_exists.1 hm
    simp [assign, copy, h, connectToChild, hm]

/-- Assigning to `fooDocument` a document at address `2` that has a model. -/
theorem assign_matches_copy_withModel :
    let b := { fooDocument with mSBML := 2, mModel := some ⟨"m", "", "", [], some 2, some 2⟩ }
    b.mSBML ≠ fooDocument.mSBML ∧
      (fooDocument.assign b).Agrees (b.copy fooDocument.mSBML) ∧
      (b.mModel.isSome → (fooDocument.assign b).mModel = (b.copy fooDocument.mSBML).mModel) ∧
      (fooDocument.assign b).mPkgUseDefaultNSMap = fooDocument.mPkgUseDefaultNSMap ∧
      (b.copy fooDocument.mSBML).mPkgUseDefaultNSMap = [] :=
  have h : (2 : Nat) ≠ 1 := by decide
  ⟨h, assign_matches_copy fooDocument _ h⟩

/-- `fooDocument` assigned from a copy of itself without the flag keeps reporting the default
    namespace of `foo`, which the copy constructor's result does not. -/
theorem assign_differs_from_copy :
    let b := { fooDocument with mSBML := 2, mPkgUseDefaultNSMap := [] }
    b.mSBML ≠ fooDocument.mSBML ∧
      (fooDocument.assign b).isEnabledDefaultNS fooRegistry fooURI = true ∧
      (b.copy fooDocument.mSBML).isEnabledDefaultNS fooRegistry fooURI = false := by
  decide

end SBMLDocument

end LibSbml
