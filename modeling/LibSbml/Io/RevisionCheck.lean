import LibSbml.Io.RoundTrip

namespace LibSbml

/-!
# Which `<sbml>` elements `readAttributes` accepts

After the namespace loop `readAttributes` checks the revision it read, then the first SBML core
namespace declared against it; four codes report a failure. When no declared URI is an enabled
package's, the loop never returns early and both checks always run. Each is characterised here
exactly, and together they accept exactly the nine valid revisions, each declared under its own
canonical namespace, whatever else the element holds.

* `LogsNoneOf` — the records a call appends carry none of a list of codes;
  `logsNoneOf_addAll`, `logsNoneOf_trans`;
* `coreNamespace_accepts_iff`, `firstCore_accepts_iff` — the branch of the `strcmp` chain a
  core namespace takes accepts a revision exactly when the revision is valid and the namespace
  is its canonical one;
* `logsNoneOf_checkCoreNamespace`, `logsNoneOf_checkSBMLNamespace`, `logsNoneOf_checkRevision`
  — each check after the loop, exactly;
* `readAttributes_accepts_iff` — the element passes the checks exactly when its level and
  version are both read, form a valid revision, and the first core namespace declared is that
  revision's;
* `ReadFrame`, `readFrame_readAttributes` — on every exit `readAttributes` keeps the document's
  address, its model and its disabled-package table, and only appends to its log.
-/

/-- The codes of the revision and namespace checks of `readAttributes`. -/
def revisionCheckCodes : List SBMLErrorCode :=
  [.invalidSBMLLevelVersion, .invalidNamespaceOnSBML, .missingOrInconsistentLevel,
    .missingOrInconsistentVersion]

/-! ### The branch a core namespace takes -/

/-- The branch a core namespace takes accepts `(l, v)` exactly when `(l, v)` is a valid
    revision and the namespace is its canonical one. -/
theorem coreNamespace_accepts_iff {u : String} {l v : Nat} :
    (∃ vs, coreNamespace u = some (l, vs) ∧ v ∈ vs) ↔
      validLevelVersion l v = true ∧ u = getSBMLNamespaceURI l v := by
  constructor
  · rintro ⟨vs, hu, hv⟩
    obtain ⟨l₁, l₂, htab, -⟩ := List.lookup_eq_some_iff.1 hu
    have hmem : (u, l, vs) ∈ coreNamespaces :=
      htab ▸ List.mem_append_right _ (List.mem_cons_self _ _)
    -- every branch of the chain allows only revisions whose canonical namespace it is
    have htable : ∀ p ∈ coreNamespaces, ∀ v ∈ p.2.2,
        validLevelVersion p.2.1 v = true ∧ p.1 = getSBMLNamespaceURI p.2.1 v := by
      decide
    exact htable _ hmem v hv
  · rintro ⟨h, rfl⟩
    exact (coreNamespace_getSBMLNamespaceURI h).2

/-- The namespace check's search finds the first core namespace declared. -/
theorem findSome?_coreNamespace (decls : List XMLNamespace) :
    decls.findSome? (coreNamespace ·.uri) =
      (decls.find? (·.uri ∈ sbmlCoreURIs)).bind (coreNamespace ·.uri) := by
  have hsearch : (fun n : XMLNamespace => (coreNamespace n.uri).isSome) =
      fun n => decide (n.uri ∈ sbmlCoreURIs) :=
    funext fun n => Bool.eq_iff_iff.2 ((coreNamespace_isSome n.uri).trans (by simp))
  rw [List.findSome?_eq_find?, hsearch]

/-- The namespace check accepts `(l, v)` exactly when it is valid and the first core namespace
    declared is its canonical one. -/
theorem firstCore_accepts_iff (decls : List XMLNamespace) (l v : Nat) :
    (∃ vs, decls.findSome? (coreNamespace ·.uri) = some (l, vs) ∧ v ∈ vs) ↔
      validLevelVersion l v = true ∧
        (decls.find? (·.uri ∈ sbmlCoreURIs)).map (·.uri) = some (getSBMLNamespaceURI l v) := by
  rw [findSome?_coreNamespace]
  cases decls.find? (·.uri ∈ sbmlCoreURIs) with
  | none => simp
  | some n => simpa using coreNamespace_accepts_iff

variable (reg : SBMLExtensionRegistry) (sev : SBMLErrorCode → Nat → Nat → Severity)

namespace SBMLDocument

/-! ### Records appended -/

/-- The records by which the log of `r` outgrows that of `d` carry none of `codes`. -/
def LogsNoneOf (codes : List SBMLErrorCode) (d r : SBMLDocument) : Prop :=
  ∀ e ∈ r.mErrorLog.errors.drop d.mErrorLog.errors.length, e.errorId ∉ codes

/-- Appending `es` logs none of `codes` exactly when no record of `es` has one. -/
theorem logsNoneOf_addAll {codes : List SBMLErrorCode} {d r : SBMLDocument}
    {es : List SBMLError} (h : r.mErrorLog = d.mErrorLog.addAll es) :
    LogsNoneOf codes d r ↔ ∀ e ∈ es, e.errorId ∉ codes := by
  simp [LogsNoneOf, h, SBMLErrorLog.overridden]

/-- Along two extensions of the log, the records appended are those of each part. -/
theorem logsNoneOf_trans {codes : List SBMLErrorCode} {d r s : SBMLDocument}
    (h₁ : d.mErrorLog.Extends r.mErrorLog) (h₂ : r.mErrorLog.Extends s.mErrorLog) :
    LogsNoneOf codes d s ↔ LogsNoneOf codes d r ∧ LogsNoneOf codes r s := by
  obtain ⟨-, es₁, h₁⟩ := h₁
  obtain ⟨-, es₂, h₂⟩ := h₂
  simp [LogsNoneOf, h₁, h₂, or_imp, forall_and]

/-- One record logs none of `codes` exactly when its code is not one of them. -/
theorem logsNoneOf_logError {codes : List SBMLErrorCode} (d : SBMLDocument)
    (code : SBMLErrorCode) (details : String) :
    LogsNoneOf codes d (d.logError sev code details) ↔ code ∉ codes :=
  (logsNoneOf_addAll rfl).trans (by simp)

/-- A call that only appends records extends the log. -/
theorem AppendsOnly.extends {codes : List SBMLErrorCode} {d d' : SBMLDocument}
    (h : AppendsOnly codes d d') : d.mErrorLog.Extends d'.mErrorLog := by
  obtain ⟨es, hes, -⟩ := h.log
  exact hes ▸ SBMLErrorLog.extends_addAll _ es

/-! ### The checks after the loop -/

/-- The checks `readAttributes` makes after the namespace loop: the revision, then, unless that
    check returns, the first core namespace. -/
def checkRevision (d : SBMLDocument) (levelRead versionRead : Bool) : SBMLDocument :=
  match d.checkLevelVersion sev with
  | .error d => d
  | .ok d => d.checkSBMLNamespace sev levelRead versionRead

/-- The branch of the namespace check logs no record exactly when the level is the branch's
    and was read, and the version is one it allows and was read. -/
theorem logsNoneOf_checkCoreNamespace (d : SBMLDocument) (levelRead versionRead : Bool)
    (level : Nat) (versions : List Nat) :
    LogsNoneOf revisionCheckCodes d
        (d.checkCoreNamespace sev levelRead versionRead level versions) ↔
      (d.mLevel = level ∧ levelRead = true) ∧ d.mVersion ∈ versions ∧ versionRead = true := by
  have hlog : (d.checkCoreNamespace sev levelRead versionRead level versions).mErrorLog =
      d.mErrorLog.addAll
        ((if d.mLevel ≠ level ∨ levelRead = false then
            [⟨.missingOrInconsistentLevel, sev .missingOrInconsistentLevel d.mLevel d.mVersion, ""⟩]
          else []) ++
        (if d.mVersion ∉ versions ∨ versionRead = false then
            [⟨.missingOrInconsistentVersion, sev .missingOrInconsistentVersion d.mLevel d.mVersion,
              ""⟩]
          else [])) := by
    unfold checkCoreNamespace
    by_cases h₁ : d.mLevel ≠ level ∨ levelRead = false <;>
      by_cases h₂ : d.mVersion ∉ versions ∨ versionRead = false <;>
      simp only [h₁, h₂, if_true, if_false] <;>
      simp [h₂, logError, SBMLErrorLog.add, SBMLErrorLog.addAll_addAll]
  rw [logsNoneOf_addAll hlog]
  simp [revisionCheckCodes, or_imp, forall_and, not_or]

/-- The namespace check logs no record exactly when the level and the version were read and the
    first core namespace declared takes a branch demanding that level and allowing that
    version. -/
theorem logsNoneOf_checkSBMLNamespace (d : SBMLDocument) (xmlns : XMLNamespaces)
    (hns : d.getNamespaces = some xmlns) (levelRead versionRead : Bool) :
    LogsNoneOf revisionCheckCodes d (d.checkSBMLNamespace sev levelRead versionRead) ↔
      levelRead = true ∧ versionRead = true ∧
        ∃ vs, xmlns.decls.findSome? (coreNamespace ·.uri) = some (d.mLevel, vs) ∧
          d.mVersion ∈ vs := by
  have hns' : d.mSBMLNamespaces.namespaces = some xmlns := hns
  unfold checkSBMLNamespace
  rw [hns']
  dsimp only
  cases hf : xmlns.decls.findSome? (coreNamespace ·.uri) with
  | none => simp [logsNoneOf_logError, revisionCheckCodes]
  | some p =>
    obtain ⟨level, versions⟩ := p
    -- the namespace update after the branch leaves the log alone
    show LogsNoneOf _ d (d.checkCoreNamespace sev levelRead versionRead level versions) ↔ _
    rw [logsNoneOf_checkCoreNamespace]
    constructor
    · rintro ⟨⟨rfl, hl⟩, hv, hr⟩
      exact ⟨hl, hr, versions, rfl, hv⟩
    · rintro ⟨hl, hr, vs, h, hv⟩
      cases h
      exact ⟨⟨rfl, hl⟩, hv, hr⟩

/-- The revision check either passes the document unchanged or logs `InvalidSBMLLevelVersion`,
    returning on a level it does not know. -/
theorem checkLevelVersion_cases (d : SBMLDocument) :
    d.checkLevelVersion sev = .ok d ∨
      d.checkLevelVersion sev = .ok (d.logError sev .invalidSBMLLevelVersion "") ∨
      d.checkLevelVersion sev = .error (d.logError sev .invalidSBMLLevelVersion "") := by
  unfold checkLevelVersion
  split <;> try split_ifs
  all_goals simp

/-- The checks after the loop log no record exactly when the level and the version were read
    and the first core namespace declared takes a branch demanding that level and allowing that
    version. -/
theorem logsNoneOf_checkRevision (d : SBMLDocument) (xmlns : XMLNamespaces)
    (hns : d.getNamespaces = some xmlns) (levelRead versionRead : Bool) :
    LogsNoneOf revisionCheckCodes d (d.checkRevision sev levelRead versionRead) ↔
      levelRead = true ∧ versionRead = true ∧
        ∃ vs, xmlns.decls.findSome? (coreNamespace ·.uri) = some (d.mLevel, vs) ∧
          d.mVersion ∈ vs := by
  have hinvalid : SBMLErrorCode.invalidSBMLLevelVersion ∈ revisionCheckCodes := by decide
  -- a core namespace accepting the revision makes it valid, so the revision check passes it
  have hpass : (∃ vs, xmlns.decls.findSome? (coreNamespace ·.uri) = some (d.mLevel, vs) ∧
      d.mVersion ∈ vs) → d.checkLevelVersion sev = .ok d := fun hc =>
    checkLevelVersion_of_valid sev d ((firstCore_accepts_iff _ _ _).1 hc).1
  have hlogged : d ≠ d.logError sev .invalidSBMLLevelVersion "" := fun e => by
    simpa [logError, SBMLErrorLog.add] using congrArg (·.mErrorLog.errors.length) e
  rcases checkLevelVersion_cases sev d with h | h | h <;> rw [checkRevision, h] <;> dsimp only
  · exact logsNoneOf_checkSBMLNamespace sev d xmlns hns levelRead versionRead
  · rw [logsNoneOf_trans (SBMLErrorLog.extends_addAll _ _)
      (appendsOnly_checkSBMLNamespace sev _ levelRead versionRead).extends, logsNoneOf_logError]
    exact iff_of_false (fun hl => hl.1 hinvalid) fun ⟨_, _, hc⟩ =>
      hlogged (Except.ok.inj ((hpass hc).symm.trans h))
  · rw [logsNoneOf_logError]
    exact iff_of_false (· hinvalid) fun ⟨_, _, hc⟩ => by cases (hpass hc).symm.trans h

/-- The checks after the loop only append records of `readCheckCodes`. -/
theorem appendsOnly_checkRevision (d : SBMLDocument) (levelRead versionRead : Bool) :
    AppendsOnly readCheckCodes d (d.checkRevision sev levelRead versionRead) := by
  unfold checkRevision
  split
  · rename_i r hc
    exact appendsOnly_checkLevelVersion sev d r (.inr hc)
  · rename_i r hc
    exact (appendsOnly_checkLevelVersion sev d r (.inl hc)).trans
      (appendsOnly_checkSBMLNamespace sev r levelRead versionRead)

/-! ### The whole element -/

/-- With no declared URI an enabled package's, `readAttributes` is the loop over every
    declaration, at the revision read, followed by the checks. -/
theorem readAttributes_eq_checkRevision (attributes : XMLAttributes) (d : SBMLDocument)
    (xmlns : XMLNamespaces) (hns : d.getNamespaces = some xmlns)
    (hen : ∀ n ∈ xmlns.decls, reg.isEnabledURI n.uri = false) :
    d.readAttributes reg sev attributes =
      (xmlns.decls.foldl (stepOk reg sev attributes) { d with
          mLevel := (attributes.readUnsigned "level").getD d.mLevel
          mVersion := (attributes.readUnsigned "version").getD d.mVersion }).checkRevision sev
        (attributes.readUnsigned "level").isSome (attributes.readUnsigned "version").isSome := by
  have hloop := readNamespaces_of_not_enabled reg sev attributes { d with
      mLevel := (attributes.readUnsigned "level").getD d.mLevel
      mVersion := (attributes.readUnsigned "version").getD d.mVersion } xmlns hns hen
  simp only [readAttributes, hloop]
  rfl

/-- **The revision check accepts exactly the valid revisions.** With no declared URI an enabled
    package's, `readAttributes` logs none of `InvalidSBMLLevelVersion`, `InvalidNamespaceOnSBML`,
    `MissingOrInconsistentLevel` and `MissingOrInconsistentVersion` exactly when the level and
    the version attributes are both read, form a valid revision, and the first core namespace
    declared is that revision's canonical one. -/
theorem readAttributes_accepts_iff (attributes : XMLAttributes) (d : SBMLDocument)
    (xmlns : XMLNamespaces) (hns : d.getNamespaces = some xmlns)
    (hen : ∀ n ∈ xmlns.decls, reg.isEnabledURI n.uri = false) :
    LogsNoneOf revisionCheckCodes d (d.readAttributes reg sev attributes) ↔
      ∃ level version, attributes.readUnsigned "level" = some level ∧
        attributes.readUnsigned "version" = some version ∧
        validLevelVersion level version = true ∧
        (xmlns.decls.find? (·.uri ∈ sbmlCoreURIs)).map (·.uri) =
          some (getSBMLNamespaceURI level version) := by
  set d₀ : SBMLDocument := { d with
    mLevel := (attributes.readUnsigned "level").getD d.mLevel
    mVersion := (attributes.readUnsigned "version").getD d.mVersion }
  obtain ⟨h₁, h₂, h₃⟩ := foldl_stepOk_revision reg sev attributes xmlns.decls d₀
  obtain ⟨-, hlog⟩ := foldl_stepOk_table_log reg sev attributes xmlns.decls d₀
  -- the loop logs only the unknown packages' records
  have hloop : LogsNoneOf revisionCheckCodes d (xmlns.decls.foldl (stepOk reg sev attributes) d₀) :=
    (logsNoneOf_addAll hlog).2 fun e he => by
      obtain ⟨n, -, rfl⟩ := List.mem_map.1 he
      rcases unknownPackageRecord_errorId sev attributes d₀.mLevel d₀.mVersion n with h | h <;>
        rw [h] <;> decide
  have hns₁ : (xmlns.decls.foldl (stepOk reg sev attributes) d₀).getNamespaces = some xmlns := by
    rw [getNamespaces, h₃]
    exact hns
  rw [readAttributes_eq_checkRevision reg sev attributes d xmlns hns hen,
    logsNoneOf_trans (hlog ▸ SBMLErrorLog.extends_addAll _ _)
      (appendsOnly_checkRevision sev _ _ _).extends,
    logsNoneOf_checkRevision sev _ xmlns hns₁, h₁, h₂]
  simp only [hloop, true_and]
  cases attributes.readUnsigned "level" <;> cases attributes.readUnsigned "version" <;>
    simp [firstCore_accepts_iff]

/-- `packageDocument`, read with no package registered, passes the checks: its L3V2 attributes
    and its first declaration, L3V2 core, agree. -/
theorem readAttributes_accepts_iff_packageDocument :
    packageDocument.getNamespaces = some packageNamespaces ∧
      (∀ n ∈ packageNamespaces.decls, SBMLExtensionRegistry.empty.isEnabledURI n.uri = false) ∧
      LogsNoneOf revisionCheckCodes packageDocument
        (packageDocument.readAttributes .empty (fun _ _ _ => .error) packageAttributes) :=
  have hen : ∀ n ∈ packageNamespaces.decls, SBMLExtensionRegistry.empty.isEnabledURI n.uri = false :=
    fun _ _ => rfl
  ⟨rfl, hen, (readAttributes_accepts_iff .empty _ packageAttributes packageDocument
    packageNamespaces rfl hen).2 ⟨3, 2, by decide, by decide, rfl, by decide⟩⟩

/-! ### What `readAttributes` never touches -/

/-- What `readAttributes` leaves alone, on every exit: the document's address, its model and its
    table of disabled packages; its log it only extends. -/
structure ReadFrame (d r : SBMLDocument) : Prop where
  sbml : r.mSBML = d.mSBML
  model : r.mModel = d.mModel
  disabled : r.mRequiredAttrOfUnknownDisabledPkg = d.mRequiredAttrOfUnknownDisabledPkg
  log : d.mErrorLog.Extends r.mErrorLog

/-- Two parts of `readAttributes` in a row keep the frame. -/
theorem ReadFrame.trans {d₁ d₂ d₃ : SBMLDocument} (h₁ : ReadFrame d₁ d₂)
    (h₂ : ReadFrame d₂ d₃) : ReadFrame d₁ d₃ :=
  ⟨h₂.sbml.trans h₁.sbml, h₂.model.trans h₁.model, h₂.disabled.trans h₁.disabled,
    h₁.log.trans h₂.log⟩

/-- Logging a record. -/
theorem readFrame_logError (d : SBMLDocument) (code : SBMLErrorCode) (details : String) :
    ReadFrame d (d.logError sev code details) :=
  ⟨rfl, rfl, rfl, SBMLErrorLog.extends_addAll _ _⟩

/-- A turn of the namespace loop that does not return. -/
theorem readFrame_stepOk (attributes : XMLAttributes) (d : SBMLDocument) (n : XMLNamespace) :
    ReadFrame d (d.stepOk reg sev attributes n) := by
  unfold stepOk createDocumentPlugin readUnknownPackage
  dsimp only
  split <;> split_ifs
  all_goals first
    | exact ⟨rfl, rfl, rfl, .refl _⟩
    | exact ⟨rfl, rfl, rfl, SBMLErrorLog.extends_addAll _ _⟩

/-- The namespace check writes the revision into the namespaces and the element namespace. -/
theorem readFrame_checkSBMLNamespace (d : SBMLDocument) (levelRead versionRead : Bool) :
    ReadFrame d (d.checkSBMLNamespace sev levelRead versionRead) := by
  refine ⟨?_, ?_, ?_, (appendsOnly_checkSBMLNamespace sev d levelRead versionRead).extends⟩ <;>
  · unfold checkSBMLNamespace checkCoreNamespace
    split
    · rfl
    · split
      · rfl
      · dsimp only
        split_ifs <;> rfl

/-- The checks after the loop. -/
theorem readFrame_checkRevision (d : SBMLDocument) (levelRead versionRead : Bool) :
    ReadFrame d (d.checkRevision sev levelRead versionRead) := by
  rcases checkLevelVersion_cases sev d with hc | hc | hc <;> rw [checkRevision, hc]
  · exact readFrame_checkSBMLNamespace sev d levelRead versionRead
  · exact (readFrame_logError sev d _ _).trans (readFrame_checkSBMLNamespace sev _ _ _)
  · exact readFrame_logError sev d _ _

/-- `readAttributes` keeps the frame on every exit, whatever the registry and the namespaces. -/
theorem readFrame_readAttributes (attributes : XMLAttributes) (d : SBMLDocument) :
    ReadFrame d (d.readAttributes reg sev attributes) := by
  let d₀ : SBMLDocument := { d with
    mLevel := (attributes.readUnsigned "level").getD d.mLevel
    mVersion := (attributes.readUnsigned "version").getD d.mVersion }
  have h₀ : ReadFrame d d₀ := ⟨rfl, rfl, rfl, .refl _⟩
  have hfold : ∀ (ds : List XMLNamespace) (r : SBMLDocument), ReadFrame d r →
      ReadFrame d (ds.foldl (stepOk reg sev attributes) r) := by
    intro ds
    induction ds with
    | nil => exact fun _ h => h
    | cons n ns ih => exact fun r h => ih _ (h.trans (readFrame_stepOk reg sev attributes r n))
  -- the namespace loop, on either exit
  have hloop : ∀ r, d₀.readNamespaces reg sev attributes = .ok r ∨
      d₀.readNamespaces reg sev attributes = .error r → ReadFrame d r := by
    intro r hr
    unfold readNamespaces at hr
    split at hr
    · simp only [Except.ok.injEq, reduceCtorEq, or_false] at hr
      exact hr ▸ h₀
    · rw [foldlM_readNamespace] at hr
      split at hr <;>
        simp only [Except.ok.injEq, Except.error.injEq, reduceCtorEq, or_false, false_or] at hr <;>
        subst hr
      · exact hfold _ _ h₀
      · exact (hfold _ _ h₀).trans (readFrame_logError sev _ _ _)
  show ReadFrame d (match d₀.readNamespaces reg sev attributes with
    | .error d => d
    | .ok d => d.checkRevision sev _ _)
  split
  · exact hloop _ (.inr ‹_›)
  · exact (hloop _ (.inl ‹_›)).trans (readFrame_checkRevision sev _ _ _)

end SBMLDocument

end LibSbml
