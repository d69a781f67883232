import LibSbml.Document.Packages

namespace LibSbml

/-!
# Reading `<sbml>` — `SBMLDocument::readAttributes`

The attributes of the root element give the level and the version; then every namespace
declaration is looked at in turn. A declaration of an enabled package attaches its plugin,
unless the package's Level 3 Version 1 namespace is used in a document of version 2 or more
while a Version 2 namespace exists, where the method logs `InvalidPackageLevelVersion` and
returns. Any other declaration that begins like a Level 3 namespace and carries a non-empty
`required` attribute is an *unknown package*: its entry is stored and one record logged. Last,
the revision is checked and the first SBML core namespace declared must agree with it.

* `readNamespace`, `readNamespaces`, `readAttributes` — as the source has them;
* `readNamespace_eq` — one declaration either stops the loop or takes `stepOk`;
* `foldlM_readNamespace` — the loop is the fold of `stepOk` over the declarations before the
  first stopping one (`processedDecls`), plus the rejection record when there is one;
* `stepOk_table_log`, `foldl_stepOk_table_log` — what those steps do to the unknown-package
  table and to the log, as a whole;
* `readAttributes_plugins` — every declaration of an enabled package the loop gets through
  attaches a plugin, whatever plugins the document already has.
-/

/-! ### Numerals -/

/-- The value of a numeral of decimal digits, read left to right onto `acc`. -/
def digitsValue (acc : Nat) (cs : List Char) : Nat :=
  cs.foldl (fun n c => n * 10 + (c.toNat - '0'.toNat)) acc

/-- Modelled from the spec: `XMLAttributes::readInto(name, unsigned int&)` (not in the
    sources) reads the first attribute called `name`, whatever its namespace, when its value is
    the decimal numeral of an `unsigned int`. The blanks and the leading `+` that `strtol` also
    accepts, and the type-mismatch record it logs for a bad value, are left out. -/
def XMLAttributes.readUnsigned (t : XMLAttributes) (name : String) : Option Nat :=
  match t.attrs.find? (·.name == name) with
  | none => none
  | some a =>
    if !a.value.data.isEmpty && a.value.data.all Char.isDigit &&
        decide (digitsValue 0 a.value.data < UInt32.size) then
      some (digitsValue 0 a.value.data)
    else none

/-- `uri.find(pat)` then `replace(pos, n, rep)` on characters: `none` when `pat` does not
    occur. -/
def replaceFirst (pat : List Char) (n : Nat) (rep : List Char) : List Char → Option (List Char)
  | [] => none
  | c :: cs =>
    if pat.isPrefixOf (c :: cs) then some (rep ++ (c :: cs).drop n)
    else (replaceFirst pat n rep cs).map (c :: ·)

/-- `dummyURI.replace(dummyURI.find("level3"), 15, "level3/version2")`: the Level 3 Version 2
    form of a package URI; `none` when `uri` has no `level3`. -/
def replaceLevel3 (uri : String) : Option String :=
  (replaceFirst "level3".data 15 "level3/version2".data uri.data).map String.mk

/-! ### Messages -/

/-- The message of `InvalidPackageLevelVersion`. -/
def invalidPackageLevelVersionMessage (pfx : String) : String :=
  "Package '" ++ pfx ++ "' has a L3V2V1 specification which must be used in an L3V2 document."

/-- The message of `RequiredPackagePresent`. -/
def requiredPackageMessage (pfx : String) : String :=
  "Package '" ++ pfx ++ "' is a required package and the model cannot be properly interpreted."

/-- The message of `UnrequiredPackagePresent`. -/
def unrequiredPackageMessage (pfx : String) : String :=
  "Package '" ++ pfx ++ "' is not a required package. The information relating to '" ++ pfx ++
    "' will be saved but cannot be interpreted."

/-! ### The core namespaces -/

/-- The SBML core namespaces of the `strcmp` chain, in its order, each with the level it
    demands and the versions it allows. -/
def coreNamespaces : List (String × Nat × List Nat) :=
  [(sbmlL1, 1, [1, 2]), (sbmlL2v1, 2, [1]), (sbmlL2v2, 2, [2]), (sbmlL2v3, 2, [3]),
    (sbmlL2v4, 2, [4]), (sbmlL2v5, 2, [5]), (sbmlL3v1, 3, [1]), (sbmlL3v2, 3, [2])]

/-- The branch of the `strcmp` chain a URI takes: its level and versions, `none` for a URI
    that is no SBML core namespace. -/
def coreNamespace (uri : String) : Option (Nat × List Nat) := coreNamespaces.lookup uri

variable (reg : SBMLExtensionRegistry) (sev : SBMLErrorCode → Nat → Nat → Severity)

namespace SBMLDocument

/-! ### The namespace loop -/

/-- `sbPluginCreator->createPlugin(uri, prefix, xmlns)` and `mPlugins.push_back(entity)`, when
    the package has a plugin creator for `<sbml>`. -/
def createDocumentPlugin (d : SBMLDocument) (ext : SBMLExtension) (n : XMLNamespace) :
    SBMLDocument :=
  if ext.documentPluginCreator then { d with mPlugins := d.mPlugins ++ [⟨n.uri, n.xmlPrefix, false⟩] }
  else d

/-- The `else` branch of the loop, for a declaration that is not an enabled package's: an
    unknown package's `required` attribute is stored and reported. -/
def readUnknownPackage (attributes : XMLAttributes) (d : SBMLDocument) (n : XMLNamespace) :
    SBMLDocument :=
  let requiredAttr := attributes.getValue "required" n.uri
  if beginsWith n.uri sbmlL3Prefix ∧ requiredAttr ≠ "" then
    let d := { d with mRequiredAttrOfUnknownPkg :=
      d.mRequiredAttrOfUnknownPkg.add "required" requiredAttr n.uri n.xmlPrefix }
    if requiredAttr = "true" then
      d.logError sev .requiredPackagePresent (requiredPackageMessage n.xmlPrefix)
    else d.logError sev .unrequiredPackagePresent (unrequiredPackageMessage n.xmlPrefix)
  else d

/-- One turn of the namespace loop; `.error` carries the document at the `return` after
    `InvalidPackageLevelVersion`. -/
def readNamespace (attributes : XMLAttributes) (d : SBMLDocument) (n : XMLNamespace) :
    Except SBMLDocument SBMLDocument :=
  match (reg.getExtensionInternal n.uri).filter (·.enabled) with
  | some ext =>
    if ext.getVersion n.uri < 2 ∧ d.mVersion > 1 then
      match replaceLevel3 n.uri with
      | some dummyURI =>
        if ext.getVersion dummyURI = 2 then
          .error (d.logError sev .invalidPackageLevelVersion
            (invalidPackageLevelVersionMessage n.xmlPrefix))
        else .ok (d.createDocumentPlugin ext n)
      | none => .ok (d.createDocumentPlugin ext n)
    else .ok (d.createDocumentPlugin ext n)
  | none => .ok (d.readUnknownPackage sev attributes n)

/-- The namespace loop over `getNamespaces()`; nothing when the document has none. -/
def readNamespaces (attributes : XMLAttributes) (d : SBMLDocument) :
    Except SBMLDocument SBMLDocument :=
  match d.getNamespaces with
  | none => .ok d
  | some xmlns => xmlns.decls.foldlM (readNamespace reg sev attributes) d

/-! ### The revision checks -/

/-- "check that the level and version are valid": `InvalidSBMLLevelVersion` for a version
    beyond its level's last one, and for a level other than 1, 2 and 3, where the source
    returns. -/
def checkLevelVersion (d : SBMLDocument) : Except SBMLDocument SBMLDocument :=
  match d.mLevel with
  | 1 => .ok (if d.mVersion > 2 then d.logError sev .invalidSBMLLevelVersion "" else d)
  | 2 => .ok (if d.mVersion > 5 then d.logError sev .invalidSBMLLevelVersion "" else d)
  | 3 => .ok (if d.mVersion > 2 then d.logError sev .invalidSBMLLevelVersion "" else d)
  | _ => .error (d.logError sev .invalidSBMLLevelVersion "")

/-- One branch of the `strcmp` chain: the level must be `level` and have been read, the
    version one of `versions` and have been read. -/
def checkCoreNamespace (d : SBMLDocument) (levelRead versionRead : Bool) (level : Nat)
    (versions : List Nat) : SBMLDocument :=
  let d := if d.mLevel ≠ level ∨ levelRead = false then
    d.logError sev .missingOrInconsistentLevel "" else d
  if d.mVersion ∉ versions ∨ versionRead = false then
    d.logError sev .missingOrInconsistentVersion "" else d

/-- "check that sbml namespace has been set": the first declaration of a core namespace is
    checked against the revision, which the `SBMLNamespaces` and the element namespace then
    take; `InvalidNamespaceOnSBML` when there is none. -/
def checkSBMLNamespace (d : SBMLDocument) (levelRead versionRead : Bool) : SBMLDocument :=
  match d.mSBMLNamespaces.namespaces with
  | none => d.logError sev .invalidNamespaceOnSBML ""
  | some ns =>
    match ns.decls.findSome? (coreNamespace ·.uri) with
    | none => d.logError sev .invalidNamespaceOnSBML ""
    | some (level, versions) =>
      let d := d.checkCoreNamespace sev levelRead versionRead level versions
      { d with
        mSBMLNamespaces := { d.mSBMLNamespaces with level := d.mLevel, version := d.mVersion }
        mURI := getSBMLNamespaceURI d.mLevel d.mVersion }

/-- `readAttributes(attributes, expectedAttributes)`. The base class's `readAttributes` and
    the registry's `enableL2NamespaceForDocument`, neither among the sources, are left out. -/
def readAttributes (attributes : XMLAttributes) (d : SBMLDocument) : SBMLDocument :=
  let levelRead := attributes.readUnsigned "level"
  let d := { d with mLevel := levelRead.getD d.mLevel }
  let versionRead := attributes.readUnsigned "version"
  let d := { d with mVersion := versionRead.getD d.mVersion }
  match d.readNamespaces reg sev attributes with
  | .error d => d
  | .ok d =>
    match d.checkLevelVersion sev with
    | .error d => d
    | .ok d => d.checkSBMLNamespace sev levelRead.isSome versionRead.isSome

/-! ### One turn of the loop -/

/-- The test on which the loop returns: an enabled package's URI of version below 2, in a
    document of version above 1, whose `level3/version2` form is a Version 2 URI of the
    package. -/
def rejectsNamespace (version : Nat) (n : XMLNamespace) : Bool :=
  match (reg.getExtensionInternal n.uri).filter (·.enabled) with
  | some ext => decide (ext.getVersion n.uri < 2 ∧ version > 1) &&
      (replaceLevel3 n.uri).any (ext.getVersion · == 2)
  | none => false

/-- A turn of the loop that does not return: the plugin of an enabled package, or the reading
    of any other declaration. -/
def stepOk (attributes : XMLAttributes) (d : SBMLDocument) (n : XMLNamespace) : SBMLDocument :=
  match (reg.getExtensionInternal n.uri).filter (·.enabled) with
  | some ext => d.createDocumentPlugin ext n
  | none => d.readUnknownPackage sev attributes n

/-- One turn either returns, logging `InvalidPackageLevelVersion`, or takes `stepOk`. -/
theorem readNamespace_eq (attributes : XMLAttributes) (d : SBMLDocument) (n : XMLNamespace) :
    d.readNamespace reg sev attributes n =
      if rejectsNamespace reg d.mVersion n then
        .error (d.logError sev .invalidPackageLevelVersion
          (invalidPackageLevelVersionMessage n.xmlPrefix))
      else .ok (d.stepOk reg sev attributes n) := by
  unfold readNamespace rejectsNamespace stepOk
  cases (reg.getExtensionInternal n.uri).filter (·.enabled) with
  | none => rfl
  | some ext =>
    by_cases hv : ext.getVersion n.uri < 2 ∧ d.mVersion > 1
    · cases replaceLevel3 n.uri with
      | none => simp [hv]
      | some u => by_cases h2 : ext.getVersion u = 2 <;> simp [hv, h2]
    · simp [hv]

/-- Unfolding lemma: a turn keeps the level. -/
@[simp] theorem mLevel_stepOk (attributes : XMLAttributes) (d : SBMLDocument) (n : XMLNamespace) :
    (d.stepOk reg sev attributes n).mLevel = d.mLevel := by
  unfold stepOk createDocumentPlugin readUnknownPackage
  dsimp only
  split <;> split_ifs <;> rfl

/-- Unfolding lemma: a turn keeps the version. -/
@[simp] theorem mVersion_stepOk (attributes : XMLAttributes) (d : SBMLDocument)
    (n : XMLNamespace) : (d.stepOk reg sev attributes n).mVersion = d.mVersion := by
  unfold stepOk createDocumentPlugin readUnknownPackage
  dsimp only
  split <;> split_ifs <;> rfl

/-- Unfolding lemma: a turn keeps the declarations. -/
@[simp] theorem mSBMLNamespaces_stepOk (attributes : XMLAttributes) (d : SBMLDocument)
    (n : XMLNamespace) : (d.stepOk reg sev attributes n).mSBMLNamespaces = d.mSBMLNamespaces := by
  unfold stepOk createDocumentPlugin readUnknownPackage
  dsimp only
  split <;> split_ifs <;> rfl

/-- The turns over a list of declarations keep the revision and the declarations. -/
theorem foldl_stepOk_revision (attributes : XMLAttributes) (ds : List XMLNamespace)
    (d : SBMLDocument) :
    let d' := ds.foldl (stepOk reg sev attributes) d
    d'.mLevel = d.mLevel ∧ d'.mVersion = d.mVersion ∧ d'.mSBMLNamespaces = d.mSBMLNamespaces := by
  induction ds generalizing d with
  | nil => exact ⟨rfl, rfl, rfl⟩
  | cons n ns ih =>
    obtain ⟨h₁, h₂, h₃⟩ := ih (d.stepOk reg sev attributes n)
    exact ⟨h₁.trans (mLevel_stepOk ..), h₂.trans (mVersion_stepOk ..),
      h₃.trans (mSBMLNamespaces_stepOk ..)⟩

/-- The plugin a turn of the loop attaches for a declaration: the document plugin of an enabled
    package with a plugin creator for `<sbml>`, whatever plugins the document already has. -/
def createdPlugin (n : XMLNamespace) : Option SBasePlugin :=
  match (reg.getExtensionInternal n.uri).filter (·.enabled) with
  | some ext => if ext.documentPluginCreator then some ⟨n.uri, n.xmlPrefix, false⟩ else none
  | none => none

/-- A turn appends the plugin it creates, and nothing else, to the plugins. -/
theorem mPlugins_stepOk (attributes : XMLAttributes) (d : SBMLDocument) (n : XMLNamespace) :
    (d.stepOk reg sev attributes n).mPlugins = d.mPlugins ++ (createdPlugin reg n).toList := by
  unfold stepOk createdPlugin
  split
  · unfold createDocumentPlugin
    split_ifs <;> simp
  · unfold readUnknownPackage
    dsimp only
    split_ifs <;> simp [logError]

/-- The turns over a list of declarations append the plugins they create, in order. -/
theorem foldl_stepOk_plugins (attributes : XMLAttributes) (ds : List XMLNamespace)
    (d : SBMLDocument) :
    (ds.foldl (stepOk reg sev attributes) d).mPlugins =
      d.mPlugins ++ ds.filterMap (createdPlugin reg) := by
  induction ds generalizing d with
  | nil => simp
  | cons n ns ih =>
    rw [List.foldl_cons, ih, mPlugins_stepOk, List.filterMap_cons]
    cases createdPlugin reg n <;> simp

/-- The declarations the loop gets through: those before the first on which it returns. -/
def processedDecls (version : Nat) (decls : List XMLNamespace) : List XMLNamespace :=
  decls.takeWhile (fun n => !rejectsNamespace reg version n)

/-- The loop is the fold of `stepOk` over the processed declarations, followed, when some
    declaration stops it, by the `InvalidPackageLevelVersion` record of the first such one. -/
theorem foldlM_readNamespace (attributes : XMLAttributes) (d : SBMLDocument)
    (decls : List XMLNamespace) :
    decls.foldlM (readNamespace reg sev attributes) d =
      match decls.find? (rejectsNamespace reg d.mVersion) with
      | none => .ok ((processedDecls reg d.mVersion decls).foldl (stepOk reg sev attributes) d)
      | some n => .error
          (((processedDecls reg d.mVersion decls).foldl (stepOk reg sev attributes) d).logError
            sev .invalidPackageLevelVersion (invalidPackageLevelVersionMessage n.xmlPrefix)) := by
  induction decls generalizing d with
  | nil => rfl
  | cons n ns ih =>
    rw [List.foldlM_cons, readNamespace_eq]
    by_cases hr : rejectsNamespace reg d.mVersion n
    · simp [hr, processedDecls]
      rfl
    · have hv := mVersion_stepOk reg sev attributes d n
      simp only [hr, if_false, Bool.false_eq_true, List.find?_cons, processedDecls,
        List.takeWhile_cons, Bool.not_false, List.foldl_cons]
      rw [show (Except.ok (d.stepOk reg sev attributes n) : Except SBMLDocument SBMLDocument) >>=
          (fun d => ns.foldlM (readNamespace reg sev attributes) d) =
          ns.foldlM (readNamespace reg sev attributes) (d.stepOk reg sev attributes n) from rfl,
        ih, hv]
      rfl

/-! ### What the turns do to the table and the log -/

/-- A declaration the loop reads as an unknown package's: not an enabled registered package's,
    beginning like a Level 3 namespace, and with a non-empty `required` attribute in it. -/
def isUnknownRequired (attributes : XMLAttributes) (n : XMLNamespace) : Bool :=
  !reg.isEnabledURI n.uri && beginsWith n.uri sbmlL3Prefix &&
    attributes.getValue "required" n.uri != ""

/-- The entry an unknown package's declaration stores: its `required` value under its URI and
    prefix, in place of any entry of that URI. -/
def addUnknownEntry (attributes : XMLAttributes) (t : XMLAttributes) (n : XMLNamespace) :
    XMLAttributes :=
  t.add "required" (attributes.getValue "required" n.uri) n.uri n.xmlPrefix

/-- The record an unknown package's declaration gets at revision (`level`, `version`):
    `RequiredPackagePresent` when the value is the string `true`, `UnrequiredPackagePresent`
    otherwise. -/
def unknownPackageRecord (attributes : XMLAttributes) (level version : Nat) (n : XMLNamespace) :
    SBMLError :=
  if attributes.getValue "required" n.uri = "true" then
    ⟨.requiredPackagePresent, sev .requiredPackagePresent level version,
      requiredPackageMessage n.xmlPrefix⟩
  else
    ⟨.unrequiredPackagePresent, sev .unrequiredPackagePresent level version,
      unrequiredPackageMessage n.xmlPrefix⟩

/-- An unknown package's record is `RequiredPackagePresent` or `UnrequiredPackagePresent`. -/
theorem unknownPackageRecord_errorId (attributes : XMLAttributes) (level version : Nat)
    (n : XMLNamespace) :
    (unknownPackageRecord sev attributes level version n).errorId = .requiredPackagePresent ∨
      (unknownPackageRecord sev attributes level version n).errorId =
        .unrequiredPackagePresent := by
  unfold unknownPackageRecord
  split_ifs
  · exact .inl rfl
  · exact .inr rfl

/-- The turn takes the `else` branch exactly when the package is not enabled. -/
theorem filter_enabled_eq_none {n : XMLNamespace} :
    (reg.getExtensionInternal n.uri).filter (·.enabled) = none ↔
      reg.isEnabledURI n.uri = false := by
  unfold SBMLExtensionRegistry.isEnabledURI
  cases reg.getExtensionInternal n.uri <;> simp [Option.filter]

/-- One turn stores an entry and logs one record exactly for an unknown package's
    declaration, and otherwise leaves both alone. -/
theorem stepOk_table_log (attributes : XMLAttributes) (d : SBMLDocument) (n : XMLNamespace) :
    let d' := d.stepOk reg sev attributes n
    d'.mRequiredAttrOfUnknownPkg = (if isUnknownRequired reg attributes n then
        addUnknownEntry attributes d.mRequiredAttrOfUnknownPkg n
      else d.mRequiredAttrOfUnknownPkg) ∧
    d'.mErrorLog = d.mErrorLog.addAll (if isUnknownRequired reg attributes n then
        [unknownPackageRecord sev attributes d.mLevel d.mVersion n] else []) := by
  unfold stepOk
  cases he : (reg.getExtensionInternal n.uri).filter (·.enabled) with
  | some ext =>
    have hen : reg.isEnabledURI n.uri = true := by
      by_contra h
      simp [(filter_enabled_eq_none reg).2 (Bool.eq_false_iff.2 h)] at he
    have hk : isUnknownRequired reg attributes n = false := by simp [isUnknownRequired, hen]
    simp only [hk, Bool.false_eq_true, if_false, SBMLErrorLog.addAll_nil]
    unfold createDocumentPlugin
    split_ifs <;> exact ⟨rfl, rfl⟩
  | none =>
    have hen := (filter_enabled_eq_none reg).1 he
    unfold readUnknownPackage
    dsimp only
    by_cases hu : beginsWith n.uri sbmlL3Prefix = true ∧
      attributes.getValue "required" n.uri ≠ ""
    · have hk : isUnknownRequired reg attributes n = true := by
        simp [isUnknownRequired, hen, hu.1, hu.2]
      simp only [if_pos hu, hk, if_true]
      by_cases ht : attributes.getValue "required" n.uri = "true" <;>
        simp [ht, unknownPackageRecord, logError, addUnknownEntry, SBMLErrorLog.add]
    · have hk : isUnknownRequired reg attributes n = false := by
        simpa [isUnknownRequired, hen, and_comm] using hu
      simp [hu, hk]

/-- The turns over a list of declarations store the entries and log the records of its
    unknown packages' declarations, in order, and nothing else. -/
theorem foldl_stepOk_table_log (attributes : XMLAttributes) (ds : List XMLNamespace)
    (d : SBMLDocument) :
    let d' := ds.foldl (stepOk reg sev attributes) d
    let unknown := ds.filter (isUnknownRequired reg attributes)
    d'.mRequiredAttrOfUnknownPkg =
        unknown.foldl (addUnknownEntry attributes) d.mRequiredAttrOfUnknownPkg ∧
      d'.mErrorLog = d.mErrorLog.addAll
        (unknown.map (unknownPackageRecord sev attributes d.mLevel d.mVersion)) := by
  induction ds generalizing d with
  | nil => exact ⟨rfl, (SBMLErrorLog.addAll_nil _).symm⟩
  | cons n ns ih =>
    obtain ⟨h₁, h₂⟩ := stepOk_table_log reg sev attributes d n
    obtain ⟨ih₁, ih₂⟩ := ih (d.stepOk reg sev attributes n)
    simp only [List.foldl_cons] at ih₁ ih₂ ⊢
    rw [ih₁, ih₂, h₁, h₂, mLevel_stepOk, mVersion_stepOk]
    cases hk : isUnknownRequired reg attributes n <;>
      simp [List.filter_cons, hk, SBMLErrorLog.addAll_addAll]

/-- The entry a run of unknown-package adds leaves for `uri`: that of the last declaration of
    `uri` among them, and the table's own when there is none. -/
theorem find_foldl_addUnknownEntry (attributes t : XMLAttributes) (L : List XMLNamespace)
    (uri : String) :
    (L.foldl (addUnknownEntry attributes) t).attrs.find? (·.key == ("required", uri)) =
      match (L.filter (·.uri == uri)).getLast? with
      | some n => some ⟨"required", uri, n.xmlPrefix, attributes.getValue "required" uri⟩
      | none => t.attrs.find? (·.key == ("required", uri)) := by
  induction L using List.reverseRecOn with
  | nil => rfl
  | append_singleton L n ih =>
    rw [List.foldl_append, List.foldl_cons, List.foldl_nil, List.filter_append]
    by_cases hn : n.uri = uri
    · subst hn
      simp only [addUnknownEntry, XMLAttributes.add_attrs]
      rw [show (("required", n.uri) : String × String) =
          XMLAttribute.key ⟨"required", n.uri, n.xmlPrefix,
            attributes.getValue "required" n.uri⟩ from rfl, find_addAttr_self]
      simp
    · have hk : XMLAttribute.key ⟨"required", n.uri, n.xmlPrefix,
          attributes.getValue "required" n.uri⟩ ≠ ("required", uri) := by
        simp [XMLAttribute.key, hn]
      simp only [addUnknownEntry, XMLAttributes.add_attrs]
      rw [find_addAttr_ne _ hk, ih]
      simp [hn]

/-- Unknown-package adds store only `required` attributes. -/
theorem name_foldl_addUnknownEntry (attributes t : XMLAttributes) (L : List XMLNamespace)
    (ht : ∀ a ∈ t.attrs, a.name = "required") :
    ∀ a ∈ (L.foldl (addUnknownEntry attributes) t).attrs, a.name = "required" := by
  induction L generalizing t with
  | nil => exact ht
  | cons n L ih =>
    refine ih _ fun a ha => ?_
    rcases XMLAttributes.mem_addAttr ha with ha | rfl
    · exact ht a ha
    · rfl

/-! ### After the loop -/

/-- The codes `readAttributes` logs outside the loop's unknown-package branch. -/
def readCheckCodes : List SBMLErrorCode :=
  [.invalidPackageLevelVersion, .invalidSBMLLevelVersion, .missingOrInconsistentLevel,
    .missingOrInconsistentVersion, .invalidNamespaceOnSBML]

/-- `d'` is `d` with records of `codes` appended, its unknown-package table and its plugins
    untouched. -/
structure AppendsOnly (codes : List SBMLErrorCode) (d d' : SBMLDocument) : Prop where
  table : d'.mRequiredAttrOfUnknownPkg = d.mRequiredAttrOfUnknownPkg
  plugins : d'.mPlugins = d.mPlugins
  log : ∃ es, d'.mErrorLog = d.mErrorLog.addAll es ∧ ∀ e ∈ es, e.errorId ∈ codes

theorem AppendsOnly.refl (codes : List SBMLErrorCode) (d : SBMLDocument) :
    AppendsOnly codes d d :=
  ⟨rfl, rfl, [], (SBMLErrorLog.addAll_nil _).symm, by simp⟩

theorem AppendsOnly.trans {codes : List SBMLErrorCode} {d₁ d₂ d₃ : SBMLDocument}
    (h₁ : AppendsOnly codes d₁ d₂) (h₂ : AppendsOnly codes d₂ d₃) : AppendsOnly codes d₁ d₃ := by
  obtain ⟨t₁, p₁, es₁, l₁, c₁⟩ := h₁
  obtain ⟨t₂, p₂, es₂, l₂, c₂⟩ := h₂
  refine ⟨t₂.trans t₁, p₂.trans p₁, es₁ ++ es₂, ?_, ?_⟩
  · rw [l₂, l₁, SBMLErrorLog.addAll_addAll]
  · simpa using fun e he => (List.mem_append.1 he).elim (c₁ e) (c₂ e)

/-- A record of one of the codes. -/
theorem appendsOnly_logError {codes : List SBMLErrorCode} {code : SBMLErrorCode}
    (h : code ∈ codes) (d : SBMLDocument) (msg : String) :
    AppendsOnly codes d (d.logError sev code msg) :=
  ⟨rfl, rfl, _, rfl, by simpa using h⟩

/-- The revision check, on either of its exits. -/
theorem appendsOnly_checkLevelVersion (d r : SBMLDocument)
    (h : d.checkLevelVersion sev = .ok r ∨ d.checkLevelVersion sev = .error r) :
    AppendsOnly readCheckCodes d r := by
  have hc : SBMLErrorCode.invalidSBMLLevelVersion ∈ readCheckCodes := by decide
  unfold checkLevelVersion at h
  split at h <;> simp only [Except.ok.injEq, Except.error.injEq, reduceCtorEq, or_false,
    false_or] at h <;> subst h <;> first
    | exact appendsOnly_logError sev hc d ""
    | split_ifs
      · exact appendsOnly_logError sev hc d ""
      · exact AppendsOnly.refl _ d

/-- The namespace check. -/
theorem appendsOnly_checkSBMLNamespace (d : SBMLDocument) (levelRead versionRead : Bool) :
    AppendsOnly readCheckCodes d (d.checkSBMLNamespace sev levelRead versionRead) := by
  have hn : SBMLErrorCode.invalidNamespaceOnSBML ∈ readCheckCodes := by decide
  have hl : SBMLErrorCode.missingOrInconsistentLevel ∈ readCheckCodes := by decide
  have hv : SBMLErrorCode.missingOrInconsistentVersion ∈ readCheckCodes := by decide
  unfold checkSBMLNamespace
  split
  · exact appendsOnly_logError sev hn d ""
  · split
    · exact appendsOnly_logError sev hn d ""
    · rename_i level versions _
      -- the two consistency records, then the namespace update
      have h₁ : AppendsOnly readCheckCodes d
          (d.checkCoreNamespace sev levelRead versionRead level versions) := by
        unfold checkCoreNamespace
        dsimp only
        split_ifs
        all_goals first
          | exact AppendsOnly.refl _ d
          | exact appendsOnly_logError sev hl d ""
          | exact appendsOnly_logError sev hv d ""
          | exact (appendsOnly_logError sev hl d "").trans (appendsOnly_logError sev hv _ "")
      exact ⟨h₁.table, h₁.plugins, h₁.log⟩

/-- Setting the revision keeps the declarations the loop runs over. -/
theorem readNamespaces_of_getNamespaces (attributes : XMLAttributes) (d : SBMLDocument)
    (xmlns : XMLNamespaces) (hns : d.getNamespaces = some xmlns) (level version : Nat) :
    ({ d with mLevel := level, mVersion := version } : SBMLDocument).readNamespaces reg sev
        attributes =
      xmlns.decls.foldlM (readNamespace reg sev attributes)
        { d with mLevel := level, mVersion := version } := by
  simp only [readNamespaces, getNamespaces] at hns ⊢
  rw [hns]

/-- When a declaration stops the loop, `readAttributes` returns the loop's document with the
    `InvalidPackageLevelVersion` record of the first such declaration: no revision check runs. -/
theorem readAttributes_of_stop (attributes : XMLAttributes) (d : SBMLDocument)
    (xmlns : XMLNamespaces) (hns : d.getNamespaces = some xmlns) (n : XMLNamespace)
    (hn : xmlns.decls.find?
      (rejectsNamespace reg ((attributes.readUnsigned "version").getD d.mVersion)) = some n) :
    let d₀ := { d with
      mLevel := (attributes.readUnsigned "level").getD d.mLevel
      mVersion := (attributes.readUnsigned "version").getD d.mVersion }
    d.readAttributes reg sev attributes =
      ((processedDecls reg d₀.mVersion xmlns.decls).foldl (stepOk reg sev attributes) d₀).logError
        sev .invalidPackageLevelVersion (invalidPackageLevelVersionMessage n.xmlPrefix) := by
  dsimp only [readAttributes]
  rw [readNamespaces_of_getNamespaces reg sev attributes d xmlns hns, foldlM_readNamespace, hn]

/-- After the loop, `readAttributes` only appends records of `readCheckCodes`, on every exit. -/
theorem readAttributes_after_loop (attributes : XMLAttributes) (d : SBMLDocument)
    (xmlns : XMLNamespaces) (hns : d.getNamespaces = some xmlns) :
    let d₀ := { d with
      mLevel := (attributes.readUnsigned "level").getD d.mLevel
      mVersion := (attributes.readUnsigned "version").getD d.mVersion }
    AppendsOnly readCheckCodes
      ((processedDecls reg d₀.mVersion xmlns.decls).foldl (stepOk reg sev attributes) d₀)
      (d.readAttributes reg sev attributes) := by
  have hp : SBMLErrorCode.invalidPackageLevelVersion ∈ readCheckCodes := by decide
  dsimp only [readAttributes]
  rw [readNamespaces_of_getNamespaces reg sev attributes d xmlns hns, foldlM_readNamespace]
  cases xmlns.decls.find? (rejectsNamespace reg _) with
  | none =>
    -- no declaration stops the loop: the revision checks run
    dsimp only
    split
    · rename_i r hc
      exact appendsOnly_checkLevelVersion sev _ r (.inr hc)
    · rename_i r hc
      exact (appendsOnly_checkLevelVersion sev _ r (.inl hc)).trans
        (appendsOnly_checkSBMLNamespace sev r _ _)
  | some n => exact appendsOnly_logError sev hp _ _

/-- After `readAttributes` the document has its old plugins and one more for every declaration
    the loop gets through of an enabled package with a creator for `<sbml>`: the loop never asks
    whether the package already has a plugin. -/
theorem readAttributes_plugins (attributes : XMLAttributes) (d : SBMLDocument)
    (xmlns : XMLNamespaces) (hns : d.getNamespaces = some xmlns) :
    (d.readAttributes reg sev attributes).mPlugins = d.mPlugins ++
      (processedDecls reg ((attributes.readUnsigned "version").getD d.mVersion)
        xmlns.decls).filterMap (createdPlugin reg) := by
  rw [(readAttributes_after_loop reg sev attributes d xmlns hns).plugins, foldl_stepOk_plugins]

/-- The branch of the namespace check for a consistent revision, read from the element, logs
    nothing. -/
theorem checkCoreNamespace_consistent (d : SBMLDocument) (level : Nat) (versions : List Nat)
    (hl : d.mLevel = level) (hv : d.mVersion ∈ versions) :
    d.checkCoreNamespace sev true true level versions = d := by
  simp [checkCoreNamespace, hl, hv]

/-- A valid revision passes the revision check unchanged. -/
theorem checkLevelVersion_of_valid (d : SBMLDocument)
    (h : validLevelVersion d.mLevel d.mVersion = true) : d.checkLevelVersion sev = .ok d := by
  unfold checkLevelVersion
  match d.mLevel, d.mVersion, h with
  | 1, 1, _ | 1, 2, _ | 2, 1, _ | 2, 2, _ | 2, 3, _ | 2, 4, _ | 2, 5, _ | 3, 1, _ | 3, 2, _ => rfl

/-- With no declared URI an enabled package's, the namespace loop never returns early: it is the
    fold of `stepOk` over every declaration. -/
theorem readNamespaces_of_not_enabled (attributes : XMLAttributes) (d : SBMLDocument)
    (xmlns : XMLNamespaces) (hns : d.getNamespaces = some xmlns)
    (hen : ∀ n ∈ xmlns.decls, reg.isEnabledURI n.uri = false) :
    d.readNamespaces reg sev attributes =
      .ok (xmlns.decls.foldl (stepOk reg sev attributes) d) := by
  have hrej : ∀ n ∈ xmlns.decls, rejectsNamespace reg d.mVersion n = false := fun n hn => by
    simp [rejectsNamespace, (filter_enabled_eq_none reg).2 (hen n hn)]
  have hnone : xmlns.decls.find? (rejectsNamespace reg d.mVersion) = none :=
    List.find?_eq_none.2 fun n hn => by simp [hrej n hn]
  have hall : processedDecls reg d.mVersion xmlns.decls = xmlns.decls :=
    List.takeWhile_eq_self_iff.2 fun n hn => by simp [hrej n hn]
  have hns' : d.mSBMLNamespaces.namespaces = some xmlns := hns
  simp only [readNamespaces, getNamespaces, hns', foldlM_readNamespace, hnone, hall]

/-- The path on which `readAttributes` accepts the element: the level and the version read
    are a valid revision, no declaration is an enabled package's, and the first core namespace
    declared allows the revision. Then it is the loop over every declaration followed by the
    namespace update, and logs nothing beyond the loop's records. -/
theorem readAttributes_accepted (attributes : XMLAttributes) (d : SBMLDocument)
    (xmlns : XMLNamespaces) (hns : d.getNamespaces = some xmlns) {level version : Nat}
    (hl : attributes.readUnsigned "level" = some level)
    (hv : attributes.readUnsigned "version" = some version)
    (hvalid : validLevelVersion level version = true)
    (hen : ∀ n ∈ xmlns.decls, reg.isEnabledURI n.uri = false)
    (hcore : ∃ vs, xmlns.decls.findSome? (coreNamespace ·.uri) = some (level, vs) ∧
      version ∈ vs) :
    let d₁ := xmlns.decls.foldl (stepOk reg sev attributes)
      { d with mLevel := level, mVersion := version }
    d.readAttributes reg sev attributes = { d₁ with
      mSBMLNamespaces := { d₁.mSBMLNamespaces with level := level, version := version }
      mURI := getSBMLNamespaceURI level version } := by
  intro d₁
  obtain ⟨vs, hfind, hvs⟩ := hcore
  obtain ⟨h₁, h₂, h₃⟩ : d₁.mLevel = level ∧ d₁.mVersion = version ∧
      d₁.mSBMLNamespaces = d.mSBMLNamespaces :=
    foldl_stepOk_revision reg sev attributes xmlns.decls _
  have hloop : { d with mLevel := level, mVersion := version }.readNamespaces reg sev attributes =
      .ok d₁ :=
    readNamespaces_of_not_enabled reg sev attributes { d with mLevel := level, mVersion := version }
      xmlns hns hen
  have hcheck : d₁.checkLevelVersion sev = .ok d₁ :=
    checkLevelVersion_of_valid sev d₁ (by rw [h₁, h₂]; exact hvalid)
  have hns₁ : d₁.mSBMLNamespaces.namespaces = some xmlns := by rw [h₃]; exact hns
  simp only [readAttributes, hl, hv, Option.getD_some, Option.isSome_some, hloop, hcheck]
  simp only [checkSBMLNamespace, hns₁, hfind]
  rw [checkCoreNamespace_consistent sev d₁ level vs h₁ (by rw [h₂]; exact hvs), h₁, h₂, hns₁]

/-- On the accepted path, `readAttributes` keeps the revision read, stores the entries and
    logs the records of the unknown packages' declarations, and nothing else. -/
theorem readAttributes_accepted_fields (attributes : XMLAttributes) (d : SBMLDocument)
    (xmlns : XMLNamespaces) (hns : d.getNamespaces = some xmlns) {level version : Nat}
    (hl : attributes.readUnsigned "level" = some level)
    (hv : attributes.readUnsigned "version" = some version)
    (hvalid : validLevelVersion level version = true)
    (hen : ∀ n ∈ xmlns.decls, reg.isEnabledURI n.uri = false)
    (hcore : ∃ vs, xmlns.decls.findSome? (coreNamespace ·.uri) = some (level, vs) ∧
      version ∈ vs) :
    let r := d.readAttributes reg sev attributes
    let unknown := xmlns.decls.filter (isUnknownRequired reg attributes)
    r.mLevel = level ∧ r.mVersion = version ∧
      r.mRequiredAttrOfUnknownPkg =
        unknown.foldl (addUnknownEntry attributes) d.mRequiredAttrOfUnknownPkg ∧
      r.mErrorLog = d.mErrorLog.addAll
        (unknown.map (unknownPackageRecord sev attributes level version)) := by
  intro r unknown
  have hr : r = _ := readAttributes_accepted reg sev attributes d xmlns hns hl hv hvalid hen hcore
  obtain ⟨h₁, h₂, -⟩ := foldl_stepOk_revision reg sev attributes xmlns.decls
    { d with mLevel := level, mVersion := version }
  obtain ⟨ht, hlog⟩ := foldl_stepOk_table_log reg sev attributes xmlns.decls
    { d with mLevel := level, mVersion := version }
  rw [hr]
  exact ⟨h₁, h₂, ht, hlog⟩

/-- With no plugin of the package, `getPackageRequired` reads whether the table's value is the
    string `true`. -/
theorem getPackageRequired_of_find (d : SBMLDocument) (uri pfx value : String)
    (hp : ∀ p ∈ d.mPlugins, p.matches reg uri = false)
    (hf : d.mRequiredAttrOfUnknownPkg.attrs.find? (·.key == ("required", uri)) =
      some ⟨"required", uri, pfx, value⟩) :
    d.getPackageRequired reg uri = (value == "true") := by
  have hn : d.mPlugins.find? (·.matches reg uri) = none :=
    List.find?_eq_none.2 fun p hm => by simp [hp p hm]
  simp only [getPackageRequired, hn, XMLAttributes.getValue, hf]
  rfl

/-! ### Unknown packages on reading -/

/-- What `readAttributes` makes of unknown packages. The declarations it gets through are those
    before the first one on which it returns (`processedDecls`, at the version just read). Of
    these, each unknown package's declaration (`isUnknownRequired`) logs one record, in order:
    `RequiredPackagePresent` when its `required` value is the string `true`, and
    `UnrequiredPackagePresent` for every other value; every later record has another code, and
    when a declaration stops the loop the one later record is its `InvalidPackageLevelVersion`.
    The table's entry of a URI is that of the last such declaration of the URI, with its prefix and
    value, and stays as it was for a URI with none; and with no plugin of the package,
    `getPackageRequired` gives whether the value is `true`. -/
theorem readAttributes_unknownPackages (attributes : XMLAttributes) (d : SBMLDocument)
    (xmlns : XMLNamespaces) (hns : d.getNamespaces = some xmlns) :
    let level := (attributes.readUnsigned "level").getD d.mLevel
    let version := (attributes.readUnsigned "version").getD d.mVersion
    let unknown := (processedDecls reg version xmlns.decls).filter (isUnknownRequired reg attributes)
    let r := d.readAttributes reg sev attributes
    (∀ uri, r.mRequiredAttrOfUnknownPkg.attrs.find? (·.key == ("required", uri)) =
      match (unknown.filter (·.uri == uri)).getLast? with
      | some n => some ⟨"required", uri, n.xmlPrefix, attributes.getValue "required" uri⟩
      | none => d.mRequiredAttrOfUnknownPkg.attrs.find? (·.key == ("required", uri))) ∧
    (∃ es, r.mErrorLog = (d.mErrorLog.addAll
        (unknown.map (unknownPackageRecord sev attributes level version))).addAll es ∧
      ∀ e ∈ es, e.errorId ≠ .requiredPackagePresent ∧ e.errorId ≠ .unrequiredPackagePresent) ∧
    (∀ n, xmlns.decls.find? (rejectsNamespace reg version) = some n →
      r.mErrorLog = (d.mErrorLog.addAll
          (unknown.map (unknownPackageRecord sev attributes level version))).add
        ⟨.invalidPackageLevelVersion, sev .invalidPackageLevelVersion level version,
          invalidPackageLevelVersionMessage n.xmlPrefix⟩) ∧
    ∀ n ∈ unknown, (∀ p ∈ r.mPlugins, p.matches reg n.uri = false) →
      r.getPackageRequired reg n.uri = (attributes.getValue "required" n.uri == "true") := by
  intro level version unknown r
  have hafter := readAttributes_after_loop reg sev attributes d xmlns hns
  obtain ⟨ht, hl⟩ := foldl_stepOk_table_log reg sev attributes
    (processedDecls reg version xmlns.decls)
    { d with mLevel := level, mVersion := version }
  -- the table after `readAttributes` is the loop's
  have htable : ∀ uri, r.mRequiredAttrOfUnknownPkg.attrs.find? (·.key == ("required", uri)) =
      match (unknown.filter (·.uri == uri)).getLast? with
      | some n => some ⟨"required", uri, n.xmlPrefix, attributes.getValue "required" uri⟩
      | none => d.mRequiredAttrOfUnknownPkg.attrs.find? (·.key == ("required", uri)) := by
    intro uri
    rw [hafter.table, ht]
    exact find_foldl_addUnknownEntry attributes _ _ uri
  refine ⟨htable, ?_, fun n hn => ?_, fun n hn hp => ?_⟩
  · obtain ⟨es, hes, hc⟩ := hafter.log
    refine ⟨es, by rw [hes, hl], fun e he => ?_⟩
    have := hc e he
    simp only [readCheckCodes, List.mem_cons, List.mem_singleton, List.not_mem_nil,
      or_false] at this
    rcases this with h | h | h | h | h <;> simp [h]
  · -- the loop returns at `n`, at the revision just read
    obtain ⟨h₁, h₂, -⟩ := foldl_stepOk_revision reg sev attributes
      (processedDecls reg version xmlns.decls) { d with mLevel := level, mVersion := version }
    rw [show r = _ from readAttributes_of_stop reg sev attributes d xmlns hns n hn]
    simp only [logError, hl, h₁, h₂]
  · -- the last declaration of the URI fixes the entry, and its value is the URI's
    obtain ⟨m, hm⟩ : ∃ m, (unknown.filter (·.uri == n.uri)).getLast? = some m :=
      Option.isSome_iff_exists.1 (List.getLast?_isSome.2 (List.ne_nil_of_mem
        (List.mem_filter.2 ⟨hn, by simp⟩)))
    have hf := htable n.uri
    rw [hm] at hf
    exact getPackageRequired_of_find reg r n.uri m.xmlPrefix _ hp hf

/-- The Level 3 Version 1 namespace of a package `bar`. -/
def barL3v1URI : String := "http://www.sbml.org/sbml/level3/version1/bar/version1"

/-- The Level 3 Version 2 namespace of `bar`. -/
def barL3v2URI : String := "http://www.sbml.org/sbml/level3/version2/bar/version1"

/-- A Level 3 namespace no registry knows. -/
def bazURI : String := "http://www.sbml.org/sbml/level3/version1/baz/version1"

/-- A registry with `bar` enabled, in both of its Level 3 versions. -/
def barRegistry : SBMLExtensionRegistry :=
  ⟨[{ name := "bar", uris := [(barL3v1URI, 1), (barL3v2URI, 2)], uris_not_core := by decide
      enabled := true, documentPluginCreator := true, l2Namespaces := [], l2_not_l3 := by simp
      l2_not_core := by simp }]⟩

/-- The declarations of an L3V2 `<sbml>`: core; the unknown `foo` under two prefixes; the L3V1
    namespace of `bar`; the unknown `baz`. -/
def packageNamespaces : XMLNamespaces :=
  ⟨[⟨"", sbmlL3v2⟩, ⟨"foo", fooURI⟩, ⟨"foo2", fooURI⟩, ⟨"bar", barL3v1URI⟩, ⟨"baz", bazURI⟩],
    by decide⟩

/-- Its attributes: Level 3 Version 2, `foo:required="1"` and `baz:required="true"`. -/
def packageAttributes : XMLAttributes :=
  ⟨[⟨"level", "", "", "3"⟩, ⟨"version", "", "", "2"⟩, ⟨"required", fooURI, "foo", "1"⟩,
    ⟨"required", bazURI, "baz", "true"⟩], by decide⟩

/-- A fresh document given those declarations. -/
def packageDocument : SBMLDocument :=
  { blank 1 3 2 with mSBMLNamespaces := ⟨3, 2, some packageNamespaces⟩ }

/-- `readAttributes_unknownPackages` on `packageDocument`. -/
theorem readAttributes_unknownPackages_packageDocument :
    packageDocument.getNamespaces = some packageNamespaces ∧
    let level := (packageAttributes.readUnsigned "level").getD packageDocument.mLevel
    let version := (packageAttributes.readUnsigned "version").getD packageDocument.mVersion
    let unknown := (processedDecls barRegistry version packageNamespaces.decls).filter
      (isUnknownRequired barRegistry packageAttributes)
    let r := packageDocument.readAttributes barRegistry (fun _ _ _ => .error) packageAttributes
    (∀ uri, r.mRequiredAttrOfUnknownPkg.attrs.find? (·.key == ("required", uri)) =
      match (unknown.filter (·.uri == uri)).getLast? with
      | some n => some ⟨"required", uri, n.xmlPrefix, packageAttributes.getValue "required" uri⟩
      | none => packageDocument.mRequiredAttrOfUnknownPkg.attrs.find?
          (·.key == ("required", uri))) ∧
    (∃ es, r.mErrorLog = (packageDocument.mErrorLog.addAll
        (unknown.map (unknownPackageRecord (fun _ _ _ => .error) packageAttributes level
          version))).addAll es ∧
      ∀ e ∈ es, e.errorId ≠ .requiredPackagePresent ∧ e.errorId ≠ .unrequiredPackagePresent) ∧
    (∀ n, packageNamespaces.decls.find? (rejectsNamespace barRegistry version) = some n →
      r.mErrorLog = (packageDocument.mErrorLog.addAll
          (unknown.map (unknownPackageRecord (fun _ _ _ => .error) packageAttributes level
            version))).add
        ⟨.invalidPackageLevelVersion, .error, invalidPackageLevelVersionMessage n.xmlPrefix⟩) ∧
    ∀ n ∈ unknown, (∀ p ∈ r.mPlugins, p.matches barRegistry n.uri = false) →
      r.getPackageRequired barRegistry n.uri =
        (packageAttributes.getValue "required" n.uri == "true") :=
  ⟨rfl, readAttributes_unknownPackages barRegistry _ packageAttributes packageDocument
    packageNamespaces rfl⟩

/-- Reading `packageDocument`: `foo`, declared twice with the value `1`, gets two
    `UnrequiredPackagePresent` records, an entry under its second prefix, and
    `getPackageRequired` false; `bar` stops the loop, so `baz` gets nothing. -/
theorem readAttributes_packageDocument :
    let r := packageDocument.readAttributes barRegistry (fun _ _ _ => .error) packageAttributes
    r.mErrorLog.errors.map (·.errorId) =
        [.unrequiredPackagePresent, .unrequiredPackagePresent, .invalidPackageLevelVersion] ∧
      r.mRequiredAttrOfUnknownPkg.attrs.find? (·.key == ("required", fooURI)) =
        some ⟨"required", fooURI, "foo2", "1"⟩ ∧
      r.getPackageRequired barRegistry fooURI = false ∧
      r.mRequiredAttrOfUnknownPkg.getValue "required" bazURI = "" := by
  decide

/-- The declarations of an L3V1 `<sbml>` naming the package `foo` under two prefixes. -/
def fooTwiceNamespaces : XMLNamespaces :=
  ⟨[⟨"", sbmlL3v1⟩, ⟨"foo", fooURI⟩, ⟨"foo2", fooURI⟩], by decide⟩

/-- A fresh L3V1 document, without plugins, given those declarations. -/
def fooTwiceDocument : SBMLDocument :=
  { blank 1 3 1 with mSBMLNamespaces := ⟨3, 1, some fooTwiceNamespaces⟩ }

/-- The attributes of an L3V1 `<sbml>`. -/
def l3v1Attributes : XMLAttributes :=
  ⟨[⟨"level", "", "", "3"⟩, ⟨"version", "", "", "1"⟩], by decide⟩

/-- Reading `fooTwiceDocument` with `foo` enabled attaches two plugins of `foo`, one per
    declaration, to a document that had none. -/
theorem readAttributes_two_plugins_of_one_package :
    fooTwiceDocument.mPlugins = [] ∧
      (fooTwiceDocument.readAttributes fooRegistry (fun _ _ _ => .error) l3v1Attributes).mPlugins =
        [⟨fooURI, "foo", false⟩, ⟨fooURI, "foo2", false⟩] := by
  decide

end SBMLDocument

end LibSbml
