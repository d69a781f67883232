import LibSbml.Document.Copy
import LibSbml.Io.RevisionCheck

namespace LibSbml

/-!
# Reachable documents — the unknown-package tables stay well formed

Every constructor leaves both unknown-package tables empty; a copy or an assignment takes them
from another document; four methods change them: `readAttributes`, `addUnknownPackageRequired`,
`setPackageRequired` and `enablePackageInternal`. Each keeps every entry a `required`
attribute with a non-empty value, so that, a table holding one entry per (name, URI), it holds
one entry per URI. The index accessors test the name at the position asked for; in such a table
they read that position.

* `TableWellFormed`, `SBMLDocument.TablesWellFormed` — the invariant, of one table and of both;
* `tablesWellFormed_readAttributes`, `tablesWellFormed_addUnknownPackageRequired`,
  `tablesWellFormed_setPackageRequired`, `tablesWellFormed_enablePackageInternal` — each method
  keeps it;
* `Reachable` — the documents a run of constructors, copies, assignments and those methods
  builds, and `Reachable.tablesWellFormed` — each of them satisfies the invariant;
* `unknownPackages_wellFormed` — what that gives `getNumUnknownPackages`,
  `getUnknownPackageURI`, `getUnknownPackagePrefix` and `isSetPackageRequired`.
-/

/-! ### One table -/

/-- An unknown-package table as the methods keep it: every entry is a `required` attribute with
    a non-empty value. -/
structure TableWellFormed (t : XMLAttributes) : Prop where
  named : ∀ a ∈ t.attrs, a.name = "required"
  valued : ∀ a ∈ t.attrs, a.value ≠ ""

namespace TableWellFormed

/-- The empty table of a fresh document. -/
theorem empty : TableWellFormed .empty := ⟨by simp, by simp⟩

/-- Adding a `required` attribute with a value keeps a table well formed. -/
theorem add {t : XMLAttributes} (h : TableWellFormed t) {value uri pfx : String}
    (hv : value ≠ "") : TableWellFormed (t.add "required" value uri pfx) where
  named a ha := (XMLAttributes.mem_addAttr ha).elim (h.named a) fun e => e ▸ rfl
  valued a ha := (XMLAttributes.mem_addAttr ha).elim (h.valued a) fun e => e ▸ hv

/-- Removing a position keeps a table well formed. -/
theorem remove {t : XMLAttributes} (h : TableWellFormed t) (i : Nat) :
    TableWellFormed (t.remove i) where
  named a ha := h.named a (List.mem_of_mem_eraseIdx ha)
  valued a ha := h.valued a (List.mem_of_mem_eraseIdx ha)

/-- All names being `required`, distinct keys are distinct URIs. -/
theorem uri_nodup {t : XMLAttributes} (h : TableWellFormed t) : (t.attrs.map (·.uri)).Nodup := by
  have hkeys : t.attrs.map XMLAttribute.key = (t.attrs.map (·.uri)).map (Prod.mk "required") := by
    rw [List.map_map]
    exact List.map_congr_left fun a ha => by simp [XMLAttribute.key, h.named a ha]
  exact List.Nodup.of_map _ (hkeys ▸ t.nodup)

/-- The entry `enablePackageInternal` finds is a `required` attribute with a value. -/
theorem found {t : XMLAttributes} (h : TableWellFormed t) {uri pfx : String} {i : Nat}
    (hi : SBMLDocument.indexOfPackage t uri pfx = some i) :
    t.getName i = "required" ∧ t.getValueAt i ≠ "" := by
  obtain ⟨l₁, a, l₂, hsplit, rfl, -, -⟩ := firstIndex_eq_some hi
  have ha : a ∈ t.attrs := hsplit ▸ List.mem_append_right _ (List.mem_cons_self _ _)
  simp only [XMLAttributes.getName, XMLAttributes.getValueAt, XMLAttributes.getElem?_split hsplit,
    Option.map_some', Option.getD_some]
  exact ⟨h.named a ha, h.valued a ha⟩

end TableWellFormed

namespace SBMLDocument

/-- The invariant of a document: both unknown-package tables are well formed. -/
structure TablesWellFormed (d : SBMLDocument) : Prop where
  unknown : TableWellFormed d.mRequiredAttrOfUnknownPkg
  disabled : TableWellFormed d.mRequiredAttrOfUnknownDisabledPkg

/-! ### Each method keeps the invariant -/

variable (reg : SBMLExtensionRegistry) (sev : SBMLErrorCode → Nat → Nat → Severity)

/-- Logging touches neither table. -/
theorem TablesWellFormed.logError {d : SBMLDocument} (h : TablesWellFormed d)
    (code : SBMLErrorCode) (details : String) : TablesWellFormed (d.logError sev code details) :=
  ⟨h.unknown, h.disabled⟩

/-- A turn of the namespace loop stores only an unknown package's non-empty `required`
    value. -/
theorem tablesWellFormed_stepOk (attributes : XMLAttributes) (d : SBMLDocument)
    (n : XMLNamespace) (h : TablesWellFormed d) :
    TablesWellFormed (d.stepOk reg sev attributes n) := by
  unfold stepOk createDocumentPlugin readUnknownPackage
  split
  · split_ifs <;> exact ⟨h.unknown, h.disabled⟩
  · dsimp only
    split_ifs with hu
    · exact ⟨h.unknown.add hu.2, h.disabled⟩
    · exact ⟨h.unknown.add hu.2, h.disabled⟩
    · exact h

/-- The turns over a list of declarations keep the invariant. -/
theorem tablesWellFormed_foldl_stepOk (attributes : XMLAttributes) (ds : List XMLNamespace)
    (d : SBMLDocument) (h : TablesWellFormed d) :
    TablesWellFormed (ds.foldl (stepOk reg sev attributes) d) := by
  induction ds generalizing d with
  | nil => exact h
  | cons n ns ih => exact ih _ (tablesWellFormed_stepOk reg sev attributes d n h)

/-- The checks after the loop touch neither table. -/
theorem tablesWellFormed_checkRevision (d : SBMLDocument) (levelRead versionRead : Bool)
    (h : TablesWellFormed d) : TablesWellFormed (d.checkRevision sev levelRead versionRead) := by
  have hns : ∀ r : SBMLDocument, TablesWellFormed r →
      TablesWellFormed (r.checkSBMLNamespace sev levelRead versionRead) := fun r hr => by
    unfold checkSBMLNamespace checkCoreNamespace
    split
    · exact ⟨hr.unknown, hr.disabled⟩
    · split
      · exact ⟨hr.unknown, hr.disabled⟩
      · dsimp only
        split_ifs <;> exact ⟨hr.unknown, hr.disabled⟩
  rcases checkLevelVersion_cases sev d with hc | hc | hc <;> rw [checkRevision, hc]
  · exact hns d h
  · exact hns _ (h.logError sev _ _)
  · exact h.logError sev _ _

/-- `readAttributes` keeps the invariant, on every exit. -/
theorem tablesWellFormed_readAttributes (attributes : XMLAttributes) (d : SBMLDocument)
    (h : TablesWellFormed d) : TablesWellFormed (d.readAttributes reg sev attributes) := by
  let d₀ : SBMLDocument := { d with
    mLevel := (attributes.readUnsigned "level").getD d.mLevel
    mVersion := (attributes.readUnsigned "version").getD d.mVersion }
  have hfold := tablesWellFormed_foldl_stepOk reg sev attributes
  -- the namespace loop, on either exit
  have hloop : ∀ r, d₀.readNamespaces reg sev attributes = .ok r ∨
      d₀.readNamespaces reg sev attributes = .error r → TablesWellFormed r := by
    intro r hr
    unfold readNamespaces at hr
    split at hr
    · simp only [Except.ok.injEq, reduceCtorEq, or_false] at hr
      exact hr ▸ ⟨h.unknown, h.disabled⟩
    · rw [foldlM_readNamespace] at hr
      split at hr <;>
        simp only [Except.ok.injEq, Except.error.injEq, reduceCtorEq, or_false, false_or] at hr <;>
        subst hr
      · exact hfold _ d₀ ⟨h.unknown, h.disabled⟩
      · exact (hfold _ d₀ ⟨h.unknown, h.disabled⟩).logError sev _ _
  show TablesWellFormed (match d₀.readNamespaces reg sev attributes with
    | .error d => d
    | .ok d => d.checkRevision sev _ _)
  split
  · exact hloop _ (.inr ‹_›)
  · exact tablesWellFormed_checkRevision sev _ _ _ (hloop _ (.inl ‹_›))

/-- `addUnknownPackageRequired` stores `true` or `false`. -/
theorem tablesWellFormed_addUnknownPackageRequired (d : SBMLDocument) (pkgURI pfx : String)
    (flag : Bool) (h : TablesWellFormed d) :
    TablesWellFormed (d.addUnknownPackageRequired pkgURI pfx flag).1 :=
  ⟨h.unknown.add (by cases flag <;> decide), h.disabled⟩

/-- `setPackageRequired` changes a plugin, or stores `true` or `false`. -/
theorem tablesWellFormed_setPackageRequired (d : SBMLDocument) (package : String) (flag : Bool)
    (h : TablesWellFormed d) : TablesWellFormed (d.setPackageRequired reg package flag).1 := by
  unfold setPackageRequired
  split
  · exact ⟨h.unknown, h.disabled⟩
  · by_cases hv : d.mRequiredAttrOfUnknownPkg.getValue "required" package ≠ ""
    · rw [if_pos hv]
      exact ⟨h.unknown.add (by cases flag <;> decide), h.disabled⟩
    · rw [if_neg hv]
      exact h

/-- `enablePackageInternal` moves a well-formed entry from one table to the other. -/
theorem tablesWellFormed_enablePackageInternal (d : SBMLDocument) (uri pfx : String)
    (flag : Bool) (h : TablesWellFormed d) :
    TablesWellFormed (d.enablePackageInternal reg uri pfx flag) := by
  cases flag with
  | false =>
    have ht := enablePackageInternal_false_tables reg d uri pfx
    dsimp only at ht
    cases hi : indexOfPackage d.mRequiredAttrOfUnknownPkg uri pfx with
    | none =>
      simp only [hi, Prod.mk.injEq] at ht
      exact ⟨ht.1 ▸ h.unknown, ht.2 ▸ h.disabled⟩
    | some i =>
      obtain ⟨hname, hvalue⟩ := h.unknown.found hi
      simp only [hi, hname, Prod.mk.injEq] at ht
      exact ⟨ht.1 ▸ h.unknown.remove i, ht.2 ▸ h.disabled.add hvalue⟩
  | true =>
    have ht := enablePackageInternal_true_tables reg d uri pfx
    dsimp only at ht
    cases hi : indexOfPackage d.mRequiredAttrOfUnknownDisabledPkg uri pfx with
    | none =>
      simp only [hi, Prod.mk.injEq] at ht
      exact ⟨ht.1 ▸ h.unknown, ht.2 ▸ h.disabled⟩
    | some i =>
      obtain ⟨hname, hvalue⟩ := h.disabled.found hi
      simp only [hi, hname, Prod.mk.injEq] at ht
      exact ⟨ht.1 ▸ h.unknown.add hvalue, ht.2 ▸ h.disabled.remove i⟩

/-- An assignment takes both tables from one of two well-formed documents. -/
theorem tablesWellFormed_assign {a b : SBMLDocument} (ha : TablesWellFormed a)
    (hb : TablesWellFormed b) : TablesWellFormed (a.assign b) := by
  unfold assign connectToChild
  split_ifs
  · exact ⟨hb.unknown, hb.disabled⟩
  · exact ⟨ha.unknown, ha.disabled⟩

/-! ### Every run keeps it -/

/-- The documents a program can build: what a constructor leaves (both tables empty), a copy
    or an assignment of such documents, and any of them after `readAttributes` (given the
    declarations of the element read), `addUnknownPackageRequired`, `setPackageRequired` or
    `enablePackageInternal`, under any registry and severity table. -/
inductive Reachable : SBMLDocument → Prop
  | init {d : SBMLDocument} (hu : d.mRequiredAttrOfUnknownPkg = .empty)
      (hd : d.mRequiredAttrOfUnknownDisabledPkg = .empty) : Reachable d
  | copy {d : SBMLDocument} (self : Nat) : Reachable d → Reachable (d.copy self)
  | assign {a b : SBMLDocument} : Reachable a → Reachable b → Reachable (a.assign b)
  | readAttributes {d : SBMLDocument} (reg : SBMLExtensionRegistry)
      (sev : SBMLErrorCode → Nat → Nat → Severity) (xmlns : Option XMLNamespaces)
      (attributes : XMLAttributes) : Reachable d →
      Reachable ({ d with mSBMLNamespaces := { d.mSBMLNamespaces with namespaces := xmlns } }
        |>.readAttributes reg sev attributes)
  | addUnknownPackageRequired {d : SBMLDocument} (pkgURI pfx : String) (flag : Bool) :
      Reachable d → Reachable (d.addUnknownPackageRequired pkgURI pfx flag).1
  | setPackageRequired {d : SBMLDocument} (reg : SBMLExtensionRegistry) (package : String)
      (flag : Bool) : Reachable d → Reachable (d.setPackageRequired reg package flag).1
  | enablePackageInternal {d : SBMLDocument} (reg : SBMLExtensionRegistry) (pkgURI pkgPrefix : String)
      (flag : Bool) : Reachable d → Reachable (d.enablePackageInternal reg pkgURI pkgPrefix flag)

/-- `SBMLDocument(level, version)` builds a reachable document. -/
theorem Reachable.new {dflt : DefaultRevision} {self l v : Nat} {d : SBMLDocument}
    (h : new dflt self l v = some d) : Reachable d := by
  unfold SBMLDocument.new at h
  split_ifs at h <;> dsimp only at h <;> split_ifs at h <;> cases h <;> exact .init rfl rfl

/-- Every reachable document satisfies the invariant. -/
theorem Reachable.tablesWellFormed {d : SBMLDocument} (h : Reachable d) : TablesWellFormed d := by
  induction h with
  | init hu hd => exact ⟨hu ▸ .empty, hd ▸ .empty⟩
  | copy _ _ ih => exact ⟨ih.unknown, ih.disabled⟩
  | assign _ _ iha ihb => exact tablesWellFormed_assign iha ihb
  | readAttributes reg sev _ attributes _ ih =>
    exact tablesWellFormed_readAttributes reg sev attributes _ ⟨ih.unknown, ih.disabled⟩
  | addUnknownPackageRequired pkgURI pfx flag _ ih =>
    exact tablesWellFormed_addUnknownPackageRequired _ pkgURI pfx flag ih
  | setPackageRequired reg package flag _ ih =>
    exact tablesWellFormed_setPackageRequired reg _ package flag ih
  | enablePackageInternal reg pkgURI pkgPrefix flag _ ih =>
    exact tablesWellFormed_enablePackageInternal reg _ pkgURI pkgPrefix flag ih

/-! ### The accessors on a well-formed table -/

/-- Every entry is counted. -/
theorem TablesWellFormed.getNumUnknownPackages {d : SBMLDocument} (h : TablesWellFormed d) :
    d.getNumUnknownPackages = d.mRequiredAttrOfUnknownPkg.attrs.length :=
  List.countP_eq_length.2 fun a ha => by simp [h.unknown.named a ha]

/-- At the position of an entry, the accessors read that entry. -/
theorem TablesWellFormed.getUnknownPackage_of_getElem? {d : SBMLDocument}
    (h : TablesWellFormed d) {k : Nat} {a : XMLAttribute}
    (hk : d.mRequiredAttrOfUnknownPkg.attrs[k]? = some a) :
    d.getUnknownPackageURI k = a.uri ∧ d.getUnknownPackagePrefix k = a.xmlPrefix := by
  have hname : d.mRequiredAttrOfUnknownPkg.getName k = "required" := by
    simp [XMLAttributes.getName, hk, h.unknown.named a (List.getElem?_mem hk)]
  have h0 : (0 : Int) ≤ k := by omega
  simp [getUnknownPackageURI, getUnknownPackagePrefix, h0, hname, XMLAttributes.getURI,
    XMLAttributes.getPrefix, hk]

/-- Off the table, the accessors give the empty string. -/
theorem TablesWellFormed.getUnknownPackage_out_of_range {d : SBMLDocument}
    (h : TablesWellFormed d) {k : Int} (hk : k < 0 ∨ d.getNumUnknownPackages ≤ k) :
    d.getUnknownPackageURI k = "" ∧ d.getUnknownPackagePrefix k = "" := by
  have hname : ¬ (0 ≤ k ∧ d.mRequiredAttrOfUnknownPkg.getName k.toNat = "required") := by
    rintro ⟨hk₀, hn⟩
    rw [h.getNumUnknownPackages] at hk
    have hnone : d.mRequiredAttrOfUnknownPkg.attrs[k.toNat]? = none :=
      List.getElem?_eq_none (by omega)
    simp [XMLAttributes.getName, hnone] at hn
  simp [getUnknownPackageURI, getUnknownPackagePrefix, hname]

/-- Every entry's package counts as set. -/
theorem TablesWellFormed.isSetPackageRequired {d : SBMLDocument} (h : TablesWellFormed d)
    {a : XMLAttribute} (ha : a ∈ d.mRequiredAttrOfUnknownPkg.attrs) :
    d.isSetPackageRequired reg a.uri = true := by
  have hv := XMLAttributes.getValue_of_mem ha
  rw [h.unknown.named a ha] at hv
  simp [SBMLDocument.isSetPackageRequired, hv, h.unknown.valued a ha]

/-- **The unknown-package tables stay well formed.** In every reachable document every entry of
    both tables is a `required` attribute with a non-empty value and each table has one entry
    per URI; `getNumUnknownPackages()` counts the entries, `getUnknownPackageURI(k)` and
    `getUnknownPackagePrefix(k)` read entry `k` for `0 ≤ k < getNumUnknownPackages()` and give
    the empty string for every other `k`, and `isSetPackageRequired` holds of every entry's
    URI. -/
theorem unknownPackages_wellFormed {d : SBMLDocument} (h : Reachable d) :
    (∀ a ∈ d.mRequiredAttrOfUnknownPkg.attrs, a.name = "required" ∧ a.value ≠ "") ∧
      (∀ a ∈ d.mRequiredAttrOfUnknownDisabledPkg.attrs, a.name = "required" ∧ a.value ≠ "") ∧
      (d.mRequiredAttrOfUnknownPkg.attrs.map (·.uri)).Nodup ∧
      (d.mRequiredAttrOfUnknownDisabledPkg.attrs.map (·.uri)).Nodup ∧
      d.getNumUnknownPackages = d.mRequiredAttrOfUnknownPkg.attrs.length ∧
      (∀ (k : Nat) (a : XMLAttribute), d.mRequiredAttrOfUnknownPkg.attrs[k]? = some a →
        d.getUnknownPackageURI k = a.uri ∧ d.getUnknownPackagePrefix k = a.xmlPrefix) ∧
      (∀ k : Int, k < 0 ∨ d.getNumUnknownPackages ≤ k →
        d.getUnknownPackageURI k = "" ∧ d.getUnknownPackagePrefix k = "") ∧
      ∀ reg, ∀ a ∈ d.mRequiredAttrOfUnknownPkg.attrs, d.isSetPackageRequired reg a.uri = true := by
  have hw := h.tablesWellFormed
  exact ⟨fun a ha => ⟨hw.unknown.named a ha, hw.unknown.valued a ha⟩,
    fun a ha => ⟨hw.disabled.named a ha, hw.disabled.valued a ha⟩,
    hw.unknown.uri_nodup, hw.disabled.uri_nodup, hw.getNumUnknownPackages,
    fun _ _ hk => hw.getUnknownPackage_of_getElem? hk,
    fun _ hk => hw.getUnknownPackage_out_of_range hk,
    fun reg _ ha => hw.isSetPackageRequired reg ha⟩

/-- A run from a blank L3V2 document: `baz` recorded as required, `foo` as not required, then
    `baz` disabled. -/
def unknownPackagesRun : SBMLDocument :=
  ((((blank 1 3 2).addUnknownPackageRequired bazURI "baz" true).1.addUnknownPackageRequired
    fooURI "foo" false).1).enablePackageInternal .empty bazURI "baz" false

/-- `unknownPackages_wellFormed` on `unknownPackagesRun`. -/
theorem unknownPackages_wellFormed_run :
    Reachable unknownPackagesRun ∧
    let d := unknownPackagesRun
    (∀ a ∈ d.mRequiredAttrOfUnknownPkg.attrs, a.name = "required" ∧ a.value ≠ "") ∧
      (∀ a ∈ d.mRequiredAttrOfUnknownDisabledPkg.attrs, a.name = "required" ∧ a.value ≠ "") ∧
      (d.mRequiredAttrOfUnknownPkg.attrs.map (·.uri)).Nodup ∧
      (d.mRequiredAttrOfUnknownDisabledPkg.attrs.map (·.uri)).Nodup ∧
      d.getNumUnknownPackages = d.mRequiredAttrOfUnknownPkg.attrs.length ∧
      (∀ (k : Nat) (a : XMLAttribute), d.mRequiredAttrOfUnknownPkg.attrs[k]? = some a →
        d.getUnknownPackageURI k = a.uri ∧ d.getUnknownPackagePrefix k = a.xmlPrefix) ∧
      (∀ k : Int, k < 0 ∨ d.getNumUnknownPackages ≤ k →
        d.getUnknownPackageURI k = "" ∧ d.getUnknownPackagePrefix k = "") ∧
      ∀ reg, ∀ a ∈ d.mRequiredAttrOfUnknownPkg.attrs, d.isSetPackageRequired reg a.uri = true :=
  have hr : Reachable unknownPackagesRun :=
    .enablePackageInternal _ _ _ _ (.addUnknownPackageRequired _ _ _
      (.addUnknownPackageRequired _ _ _ (.init rfl rfl)))
  ⟨hr, unknownPackages_wellFormed hr⟩

example : unknownPackagesRun.getNumUnknownPackages = 1 ∧
    unknownPackagesRun.getUnknownPackageURI 0 = fooURI ∧
    unknownPackagesRun.getUnknownPackageURI 1 = "" ∧
    unknownPackagesRun.mRequiredAttrOfUnknownDisabledPkg.attrs.map (·.uri) = [bazURI] := by
  decide

end SBMLDocument

end LibSbml
