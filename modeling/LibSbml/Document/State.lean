import LibSbml.Xml.Namespaces
import LibSbml.Xml.ErrorLog

namespace LibSbml

/-!
# The document state

The state of an `SBMLDocument` as `SBMLDocument.cpp` reads and writes it, one field per data
member, with what the document reaches through its base class `SBase` (its plugins, its
`SBMLNamespaces`) and through its internal validator (the two check masks) flattened in.

* revisions: `validLevelVersion`, the canonical core URIs `getSBMLNamespaceURI`;
* the process-wide `SBMLExtensionRegistry`, read-only for every document operation;
* `Model` — the parts of the top-level model the document touches, with its two
  back-references; `Model.clone` drops them (spec §4.1);
* `SBMLDocument` and its constructor `SBMLDocument.new` (`SBMLDocument(level, version)`);
* the setters of the masks, the location and the revision (`setConsistencyChecks`,
  `setConsistencyChecksForConversion`, `setApplicableValidators`, `setConversionValidators`,
  `setLocationURI`, `setInvalidLevel`) and `logError`.

The classes behind the base class, the registry and the validator are not among the sources;
their parts here are modelled from the spec.
-/

/-! ### Revisions -/

/-- The (level, version) pairs of the format (spec §3: a fixed enumerated set). -/
def validLevelVersion : Nat → Nat → Bool
  | 1, 1 | 1, 2 | 2, 1 | 2, 2 | 2, 3 | 2, 4 | 2, 5 | 3, 1 | 3, 2 => true
  | _, _ => false

/-- A valid revision has a level from 1 to 3 and a version from 1 to 5. -/
theorem validLevelVersion_bounds {l v : Nat} (h : validLevelVersion l v = true) :
    0 < l ∧ l < 4 ∧ 0 < v ∧ v < 6 := by
  match l, v, h with
  | 1, 1, _ | 1, 2, _ | 2, 1, _ | 2, 2, _ | 2, 3, _ | 2, 4, _ | 2, 5, _ | 3, 1, _ | 3, 2, _ =>
    decide

/-! The namespace URIs of SBML core that `readAttributes` recognises. -/

def sbmlL1 : String := "http://www.sbml.org/sbml/level1"
def sbmlL2v1 : String := "http://www.sbml.org/sbml/level2"
def sbmlL2v2 : String := "http://www.sbml.org/sbml/level2/version2"
def sbmlL2v3 : String := "http://www.sbml.org/sbml/level2/version3"
def sbmlL2v4 : String := "http://www.sbml.org/sbml/level2/version4"
def sbmlL2v5 : String := "http://www.sbml.org/sbml/level2/version5"
def sbmlL3v1 : String := "http://www.sbml.org/sbml/level3/version1/core"
def sbmlL3v2 : String := "http://www.sbml.org/sbml/level3/version2/core"

/-- The namespace URIs of SBML core. -/
def sbmlCoreURIs : List String :=
  [sbmlL1, sbmlL2v1, sbmlL2v2, sbmlL2v3, sbmlL2v4, sbmlL2v5, sbmlL3v1, sbmlL3v2]

/-- Modelled from the spec: `SBMLNamespaces::getSBMLNamespaceURI(level, version)` (not in the
    sources), the canonical core namespace of a revision (spec §4.5). -/
def getSBMLNamespaceURI : Nat → Nat → String
  | 1, _ => sbmlL1
  | 2, 1 => sbmlL2v1
  | 2, 2 => sbmlL2v2
  | 2, 3 => sbmlL2v3
  | 2, 4 => sbmlL2v4
  | 2, 5 => sbmlL2v5
  | 3, 1 => sbmlL3v1
  | 3, 2 => sbmlL3v2
  | _, _ => ""

/-- The start every Level 3 namespace shares, the test `readAttributes` applies to an unknown
    namespace. -/
def sbmlL3Prefix : String := "http://www.sbml.org/sbml/level3/version"

/-- `uri.find(s) == 0`: `uri` begins with `s`. -/
def beginsWith (uri s : String) : Bool := s.data.isPrefixOf uri.data

/-- `SBML_DEFAULT_LEVEL` and `SBML_DEFAULT_VERSION` (macros not in the sources): the revision
    of a document created as (0, 0); the constructor throws unless it is a valid one. -/
structure DefaultRevision where
  level : Nat
  version : Nat
  valid : validLevelVersion level version = true

/-! ### The extension registry -/

/-- A registered package, modelled from the spec (§4.2, §6): its name, the namespace URIs it
    supports each with the SBML version it belongs to (none an SBML core namespace), whether it
    is enabled, whether it has a plugin creator for `<sbml>`, and its Level 2 namespaces, which
    never begin like a Level 3 namespace nor are SBML core namespaces. -/
structure SBMLExtension where
  name : String
  uris : List (String × Nat)
  uris_not_core : ∀ u ∈ uris, u.1 ∉ sbmlCoreURIs
  enabled : Bool
  documentPluginCreator : Bool
  l2Namespaces : List String
  l2_not_l3 : ∀ u ∈ l2Namespaces, beginsWith u sbmlL3Prefix = false
  l2_not_core : ∀ u ∈ l2Namespaces, u ∉ sbmlCoreURIs

/-- `getVersion(uri)`: the SBML version `uri` belongs to, `0` when unsupported. -/
def SBMLExtension.getVersion (e : SBMLExtension) (uri : String) : Nat :=
  ((e.uris.find? (·.1 == uri)).map (·.2)).getD 0

/-- Modelled from the spec: `SBMLExtensionRegistry` (not in the sources), the process-wide
    catalogue of packages (spec §5: populated once, read-only for document operations). -/
structure SBMLExtensionRegistry where
  extensions : List SBMLExtension

/-- `getExtensionInternal(uri)`: the package supporting `uri`, if any. -/
def SBMLExtensionRegistry.getExtensionInternal (reg : SBMLExtensionRegistry) (uri : String) :
    Option SBMLExtension :=
  reg.extensions.find? (fun e => e.uris.any (·.1 == uri))

/-- The registry with no package. -/
def SBMLExtensionRegistry.empty : SBMLExtensionRegistry := ⟨[]⟩

/-- `sbmlext && sbmlext->isEnabled()`: `uri` belongs to an enabled registered package. -/
def SBMLExtensionRegistry.isEnabledURI (reg : SBMLExtensionRegistry) (uri : String) : Bool :=
  ((reg.getExtensionInternal uri).map (·.enabled)).getD false

/-! ### Plugins, model, validators -/

/-- An `SBMLDocumentPlugin`: the package namespace it serves, its prefix and its `required`
    flag. -/
structure SBasePlugin where
  uri : String
  xmlPrefix : String
  required : Bool
  deriving DecidableEq, Repr

/-- `(uri == package) || (sbext && sbext->getName() == package)`: the test by which the package
    methods find the plugin of `package` (a URI or a package name). -/
def SBasePlugin.matches (reg : SBMLExtensionRegistry) (p : SBasePlugin) (package : String) :
    Bool :=
  p.uri == package || (reg.getExtensionInternal p.uri).map (·.name) == some package

/-- The top-level model as the document sees it: its identity attributes, element namespace and
    plugins, with the two back-references `mParentSBMLObject` and `mSBML` (addresses). -/
structure Model where
  mId : String
  mMetaId : String
  mURI : String
  mPlugins : List SBasePlugin
  mParentSBMLObject : Option Nat
  mSBML : Option Nat
  deriving DecidableEq, Repr

/-- Modelled from the spec: `Model::clone()` (not in the sources) — a deep copy whose
    back-references are not copied but rebuilt by the new owner (spec §4.1). -/
def Model.clone (m : Model) : Model := { m with mParentSBMLObject := none, mSBML := none }

/-- `connectToParent(parent)` from a document at address `a`: both back-references name it. -/
def Model.connectToParent (m : Model) (a : Nat) : Model :=
  { m with mParentSBMLObject := some a, mSBML := some a }

/-- `setSBMLDocument(d)`. -/
def Model.setSBMLDocument (m : Model) (a : Nat) : Model := { m with mSBML := some a }

/-- Content equality of two models: equal once the back-references are dropped. -/
def Model.sameContent (m m' : Model) : Prop := m.clone = m'.clone

/-- An ad hoc validator added by `addValidator`: which validator it is. -/
structure SBMLValidator where
  kind : Nat
  deriving DecidableEq, Repr

/-! ### The check masks -/

/-- Modelled from the spec: the check categories of §4.3 (`SBMLErrorCategory_t`), each one bit
    of the internal validator's masks (`IdCheckON` … `PracticeCheckON`). -/
inductive SBMLErrorCategory where
  | identifierConsistency | generalConsistency | sboConsistency | mathmlConsistency
  | unitsConsistency | overdeterminedModel | modelingPractice
  deriving DecidableEq, Repr

/-- The bit of a category in a check mask. -/
def SBMLErrorCategory.bit : SBMLErrorCategory → UInt8
  | .identifierConsistency => 0x01
  | .generalConsistency => 0x02
  | .sboConsistency => 0x04
  | .mathmlConsistency => 0x08
  | .unitsConsistency => 0x10
  | .overdeterminedModel => 0x20
  | .modelingPractice => 0x40

/-- `AllChecksON`. -/
def allChecksON : UInt8 := 0x7f

/-- `setConsistencyChecks(category, apply)` on a mask: sets or clears the category's bit. -/
def setCheck (mask : UInt8) (c : SBMLErrorCategory) (apply : Bool) : UInt8 :=
  if apply then mask ||| c.bit else mask &&& ~~~c.bit

/-- Clearing a bit twice is clearing it once. -/
theorem setCheck_false_setCheck_false (mask : UInt8) (c : SBMLErrorCategory) :
    setCheck (setCheck mask c false) c false = setCheck mask c false :=
  UInt8.eq_of_toBitVec_eq <| by
    show mask.toBitVec &&& (~~~c.bit).toBitVec &&& (~~~c.bit).toBitVec =
      mask.toBitVec &&& (~~~c.bit).toBitVec
    rw [BitVec.and_assoc, BitVec.and_self]

/-! ### The document -/

/-- The status codes the document's operations return (`OperationReturnValues_t`); a code that
    `SBMLDocument.cpp` does not name (a converter's own result, a mismatch reported by
    `checkCompatibility`) is `other`. -/
inductive OperationReturnValue where
  | operationSuccess | operationFailed | pkgUnknownVersion | convConversionNotAvailable
  | other (code : Int)
  deriving DecidableEq, Repr

/-- The `SBMLNamespaces` object of an element: its revision and its declarations (`NULL` when
    none were ever set). -/
structure SBMLNamespaces where
  level : Nat
  version : Nat
  namespaces : Option XMLNamespaces
  deriving DecidableEq

/-- The state of an `SBMLDocument`. `mSBML` is the address of the document itself (`mSBML =
    this`); the masks are those of `mInternalValidator`; `mPkgUseDefaultNSMap` is the
    `std::map<std::string, bool>` as a list of (URI, flag). -/
structure SBMLDocument where
  mSBML : Nat
  mLevel : Nat
  mVersion : Nat
  mModel : Option Model
  mLocationURI : String
  mApplicableValidators : UInt8
  mConversionValidators : UInt8
  mRequiredAttrOfUnknownPkg : XMLAttributes
  mRequiredAttrOfUnknownDisabledPkg : XMLAttributes
  mPkgUseDefaultNSMap : List (String × Bool)
  mPlugins : List SBasePlugin
  mSBMLNamespaces : SBMLNamespaces
  mURI : String
  mValidators : List SBMLValidator
  mErrorLog : SBMLErrorLog
  deriving DecidableEq

/-! ### `mPkgUseDefaultNSMap` -/

/-- `find(uri)`: the flag stored for `uri`. -/
def flagLookup (m : List (String × Bool)) (uri : String) : Option Bool :=
  (m.find? (·.1 == uri)).map (·.2)

/-- `find(uri)` then assign, or `insert`: stores `flag` for `uri`. -/
def flagSet (m : List (String × Bool)) (uri : String) (flag : Bool) : List (String × Bool) :=
  if m.any (·.1 == uri) then m.map (fun p => if p.1 == uri then (uri, flag) else p)
  else m ++ [(uri, flag)]

/-- `erase(uri)`. -/
def flagErase (m : List (String × Bool)) (uri : String) : List (String × Bool) :=
  m.filter (·.1 != uri)

/-- After `erase`, nothing is stored for the key. -/
@[simp] theorem flagLookup_flagErase (m : List (String × Bool)) (uri : String) :
    flagLookup (flagErase m uri) uri = none := by
  simp [flagLookup, flagErase, List.find?_filter]

/-! ### Construction -/

namespace SBMLDocument

/-- `SBMLDocument(level, version)` at address `self`, with `none` for the
    `SBMLConstructorException` it throws on an invalid revision. The (0, 0) request takes the
    default revision and declares its core namespace as the default namespace. -/
def new (dflt : DefaultRevision) (self level version : Nat) : Option SBMLDocument :=
  let (l, v) := if level = 0 ∧ version = 0 then (dflt.level, dflt.version) else (level, version)
  if validLevelVersion l v then
    some
      { mSBML := self, mLevel := l, mVersion := v, mModel := none, mLocationURI := ""
        mApplicableValidators := allChecksON, mConversionValidators := allChecksON
        mRequiredAttrOfUnknownPkg := .empty, mRequiredAttrOfUnknownDisabledPkg := .empty
        mPkgUseDefaultNSMap := [], mPlugins := []
        mSBMLNamespaces := ⟨l, v, some ((XMLNamespaces.empty).add (getSBMLNamespaceURI l v) "")⟩
        mURI := getSBMLNamespaceURI l v, mValidators := [], mErrorLog := .empty }
  else none

/-- A document at address `self` of revision (`l`, `v`) with nothing set: no model, no plugins,
    no declarations, empty tables and log, every check on. -/
def blank (self l v : Nat) : SBMLDocument :=
  { mSBML := self, mLevel := l, mVersion := v, mModel := none, mLocationURI := ""
    mApplicableValidators := allChecksON, mConversionValidators := allChecksON
    mRequiredAttrOfUnknownPkg := .empty, mRequiredAttrOfUnknownDisabledPkg := .empty
    mPkgUseDefaultNSMap := [], mPlugins := [], mSBMLNamespaces := ⟨l, v, none⟩
    mURI := getSBMLNamespaceURI l v, mValidators := [], mErrorLog := .empty }

/-- `getNamespaces()`. -/
def getNamespaces (d : SBMLDocument) : Option XMLNamespaces := d.mSBMLNamespaces.namespaces

/-- `setConsistencyChecks(category, apply)`. -/
def setConsistencyChecks (d : SBMLDocument) (c : SBMLErrorCategory) (apply : Bool) :
    SBMLDocument :=
  { d with mApplicableValidators := setCheck d.mApplicableValidators c apply }

/-- `setConsistencyChecksForConversion(category, apply)`. -/
def setConsistencyChecksForConversion (d : SBMLDocument) (c : SBMLErrorCategory) (apply : Bool) :
    SBMLDocument :=
  { d with mConversionValidators := setCheck d.mConversionValidators c apply }

/-- `setApplicableValidators(appl)`. -/
def setApplicableValidators (d : SBMLDocument) (appl : UInt8) : SBMLDocument :=
  { d with mApplicableValidators := appl }

/-- `setConversionValidators(appl)`. -/
def setConversionValidators (d : SBMLDocument) (appl : UInt8) : SBMLDocument :=
  { d with mConversionValidators := appl }

/-- `setLocationURI(uri)`. -/
def setLocationURI (d : SBMLDocument) (uri : String) : SBMLDocument := { d with mLocationURI := uri }

/-- `setInvalidLevel()`: level and version `0`, as the reader marks a document it found
    invalid. -/
def setInvalidLevel (d : SBMLDocument) : SBMLDocument := { d with mLevel := 0, mVersion := 0 }

/-- `getNumErrors(severity)`. -/
def getNumErrors (d : SBMLDocument) (s : Severity) : Nat := d.mErrorLog.getNumFailsWithSeverity s

/-- `logError(id, level, version, details)` under the severity table `sev`: the record takes the
    severity the table gives the code at the document's revision. -/
def logError (sev : SBMLErrorCode → Nat → Nat → Severity) (d : SBMLDocument)
    (code : SBMLErrorCode) (details : String) : SBMLDocument :=
  { d with mErrorLog := d.mErrorLog.add ⟨code, sev code d.mLevel d.mVersion, details⟩ }

/-- Everything but the error log: what validators read (spec §4.3, validators inspect the tree;
    the log is their output). -/
def tree (d : SBMLDocument) : SBMLDocument := { d with mErrorLog := .empty }

/-- Unfolding lemma: `logError` only appends to the log. -/
@[simp] theorem tree_logError (sev : SBMLErrorCode → Nat → Nat → Severity) (d : SBMLDocument)
    (code : SBMLErrorCode) (details : String) : (d.logError sev code details).tree = d.tree := rfl

end SBMLDocument

end LibSbml
