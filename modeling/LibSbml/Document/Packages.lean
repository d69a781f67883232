import LibSbml.Document.State

namespace LibSbml

/-!
# Package state — `required` flags, default namespaces, enabling and disabling

The document methods that look a package up among the plugins and fall back on the table of
unknown packages, and `enablePackageInternal`, which moves an unknown package's entry between
`mRequiredAttrOfUnknownPkg` and `mRequiredAttrOfUnknownDisabledPkg`.

* `enableDefaultNS` / `isEnabledDefaultNS` — their loops do not stop, so the *last* plugin of the
  package names the URI (`lastMatchingURI`);
* `setPackageRequired` / `getPackageRequired` / `isSetPackageRequired` — these return at the
  *first* plugin of the package, else consult the unknown-package table;
* `isIgnoredPackage` / `isDisabledIgnoredPackage` — a package set or parked without a plugin;
* `disable_then_enable_tables` — disabling then re-enabling `(uri, prefix)` while no disabled
  entry has `uri` gives back the same entries in both tables;
* `disable_then_enable_eraseFlag` — the default-namespace flag of `uri` is erased by disabling
  and not restored by enabling.
-/

variable (reg : SBMLExtensionRegistry)

namespace SBMLDocument

/-! ### Looking a package up -/

/-- `pkgURI` after the loops of `enableDefaultNS` and `isEnabledDefaultNS`: the URI of the last
    plugin of `package`, the empty string when there is none. -/
def lastMatchingURI (ps : List SBasePlugin) (package : String) : String :=
  ps.foldl (fun acc p => if p.matches reg package then p.uri else acc) ""

/-- `enableDefaultNS(package, flag)`. -/
def enableDefaultNS (d : SBMLDocument) (package : String) (flag : Bool) :
    SBMLDocument × OperationReturnValue :=
  let pkgURI := lastMatchingURI reg d.mPlugins package
  if pkgURI = "" then (d, .pkgUnknownVersion)
  else ({ d with mPkgUseDefaultNSMap := flagSet d.mPkgUseDefaultNSMap pkgURI flag },
    .operationSuccess)

/-- `isEnabledDefaultNS(package)`. -/
def isEnabledDefaultNS (d : SBMLDocument) (package : String) : Bool :=
  (flagLookup d.mPkgUseDefaultNSMap (lastMatchingURI reg d.mPlugins package)).getD false

/-- The loop of `setPackageRequired` over the plugins: `setRequired(flag)` on the first plugin of
    `package` (an `SBMLDocumentPlugin`, whose `setRequired` always succeeds); `none` when no
    plugin is the package's. -/
def setRequiredOfFirst (package : String) (flag : Bool) :
    List SBasePlugin → Option (List SBasePlugin)
  | [] => none
  | p :: ps =>
    if p.matches reg package then some ({ p with required := flag } :: ps)
    else (setRequiredOfFirst package flag ps).map (p :: ·)

/-- `setPackageRequired(package, flag)`: a plugin of the package takes the flag; otherwise an
    unknown package's entry is overwritten with `"true"` or `"false"` under its old prefix;
    otherwise `LIBSBML_PKG_UNKNOWN_VERSION`. -/
def setPackageRequired (d : SBMLDocument) (package : String) (flag : Bool) :
    SBMLDocument × OperationReturnValue :=
  match setRequiredOfFirst reg package flag d.mPlugins with
  | some ps => ({ d with mPlugins := ps }, .operationSuccess)
  | none =>
    if d.mRequiredAttrOfUnknownPkg.getValue "required" package ≠ "" then
      let pfx := match d.mRequiredAttrOfUnknownPkg.getIndex "required" package with
        | some i => d.mRequiredAttrOfUnknownPkg.getPrefix i
        | none => ""
      let value := if flag then "true" else "false"
      ({ d with mRequiredAttrOfUnknownPkg :=
          d.mRequiredAttrOfUnknownPkg.add "required" value package pfx }, .operationSuccess)
    else (d, .pkgUnknownVersion)

/-- `addUnknownPackageRequired(pkgURI, prefix, flag)`. -/
def addUnknownPackageRequired (d : SBMLDocument) (pkgURI pfx : String) (flag : Bool) :
    SBMLDocument × OperationReturnValue :=
  ({ d with mRequiredAttrOfUnknownPkg :=
      d.mRequiredAttrOfUnknownPkg.add "required" (if flag then "true" else "false") pkgURI pfx },
    .operationSuccess)

/-- `getPackageRequired(package)`: the first plugin's flag, else whether the unknown package's
    value is the string `"true"`. -/
def getPackageRequired (d : SBMLDocument) (package : String) : Bool :=
  match d.mPlugins.find? (·.matches reg package) with
  | some p => p.required
  | none => d.mRequiredAttrOfUnknownPkg.getValue "required" package == "true"

/-- `isSetPackageRequired(package)`. -/
def isSetPackageRequired (d : SBMLDocument) (package : String) : Bool :=
  d.mPlugins.any (·.matches reg package) ||
    d.mRequiredAttrOfUnknownPkg.getValue "required" package != ""

/-- `hasUnknownPackage(pkgURI)`. -/
def hasUnknownPackage (d : SBMLDocument) (pkgURI : String) : Bool :=
  d.mRequiredAttrOfUnknownPkg.getValue "required" pkgURI != ""

/-- Modelled from the spec: `SBase::isPackageURIEnabled(pkgURI)` (not in the sources), whether a
    plugin of that URI is attached (§4.2). -/
def isPackageURIEnabled (d : SBMLDocument) (pkgURI : String) : Bool :=
  d.mPlugins.any (·.uri == pkgURI)

/-- `isIgnoredPackage(pkgURI)` (and `isIgnoredPkg`): the package is set but has no plugin. -/
def isIgnoredPackage (d : SBMLDocument) (pkgURI : String) : Bool :=
  d.isSetPackageRequired reg pkgURI && !d.isPackageURIEnabled pkgURI

/-- `isDisabledIgnoredPackage(pkgURI)`: no plugin, and a `required` value parked in the table of
    disabled unknown packages. -/
def isDisabledIgnoredPackage (d : SBMLDocument) (pkgURI : String) : Bool :=
  !d.isPackageURIEnabled pkgURI &&
    d.mRequiredAttrOfUnknownDisabledPkg.getValue "required" pkgURI != ""

/-- `getNumUnknownPackages()`: the entries named `required`. -/
def getNumUnknownPackages (d : SBMLDocument) : Nat :=
  d.mRequiredAttrOfUnknownPkg.attrs.countP (·.name == "required")

/-- `getUnknownPackageURI(index)`: its loop returns at `i == index` when that entry is named
    `required`, so it reads the table position `index`; the empty string otherwise. -/
def getUnknownPackageURI (d : SBMLDocument) (index : Int) : String :=
  if 0 ≤ index ∧ d.mRequiredAttrOfUnknownPkg.getName index.toNat = "required" then
    d.mRequiredAttrOfUnknownPkg.getURI index.toNat
  else ""

/-- `getUnknownPackagePrefix(index)`, the same loop reading the prefix. -/
def getUnknownPackagePrefix (d : SBMLDocument) (index : Int) : String :=
  if 0 ≤ index ∧ d.mRequiredAttrOfUnknownPkg.getName index.toNat = "required" then
    d.mRequiredAttrOfUnknownPkg.getPrefix index.toNat
  else ""

/-! ### Enabling and disabling -/

/-- Modelled from the spec: `SBase::enablePackageInternal` on a plugin list (not in the
    sources; §4.2, attach a plugin when enabling and none exists, detach when disabling);
    `creates` says whether the package has a plugin creator for the element. -/
def enablePlugins (creates : Bool) (uri pfx : String) (flag : Bool) (ps : List SBasePlugin) :
    List SBasePlugin :=
  if flag then
    if ps.any (·.uri == uri) || !creates then ps else ps ++ [⟨uri, pfx, false⟩]
  else ps.filter (·.uri != uri)

/-- Whether the package of `uri` can plug into `<sbml>`. -/
def createsDocumentPlugin (uri : String) : Bool :=
  ((reg.getExtensionInternal uri).map (·.documentPluginCreator)).getD false

/-- The search of both loops of `enablePackageInternal`: the first entry of `(pkgURI,
    pkgPrefix)`. -/
def indexOfPackage (t : XMLAttributes) (pkgURI pkgPrefix : String) : Option Nat :=
  firstIndex (fun a => a.uri == pkgURI && a.xmlPrefix == pkgPrefix) t.attrs

/-- `enablePackageInternal(pkgURI, pkgPrefix, flag)`. Disabling erases the default-namespace
    flag and moves the first unknown entry of `(pkgURI, pkgPrefix)` to the disabled table;
    enabling moves the first disabled entry back. The model follows. -/
def enablePackageInternal (d : SBMLDocument) (pkgURI pkgPrefix : String) (flag : Bool) :
    SBMLDocument :=
  let plugins := enablePlugins (createsDocumentPlugin reg pkgURI) pkgURI pkgPrefix flag d.mPlugins
  let d := { d with mPlugins := plugins }
  let d :=
    if !flag then
      let d := { d with mPkgUseDefaultNSMap := flagErase d.mPkgUseDefaultNSMap pkgURI }
      let u := d.mRequiredAttrOfUnknownPkg
      match indexOfPackage u pkgURI pkgPrefix with
      | some i =>
        { d with
          mRequiredAttrOfUnknownDisabledPkg :=
            d.mRequiredAttrOfUnknownDisabledPkg.add (u.getName i) (u.getValueAt i) pkgURI pkgPrefix
          mRequiredAttrOfUnknownPkg := u.remove i }
      | none => d
    else
      let dis := d.mRequiredAttrOfUnknownDisabledPkg
      match indexOfPackage dis pkgURI pkgPrefix with
      | some i =>
        { d with
          mRequiredAttrOfUnknownPkg :=
            d.mRequiredAttrOfUnknownPkg.add (dis.getName i) (dis.getValueAt i) pkgURI pkgPrefix
          mRequiredAttrOfUnknownDisabledPkg := dis.remove i }
      | none => d
  let modelPlugins := enablePlugins (reg.getExtensionInternal pkgURI).isSome pkgURI pkgPrefix flag
  { d with mModel := d.mModel.map fun m => { m with mPlugins := modelPlugins m.mPlugins } }

/-! ### What one call does to the tables and the flags -/

/-- The two tables after disabling: the first entry of `(uri, pfx)`, if any, moves. -/
theorem enablePackageInternal_false_tables (d : SBMLDocument) (uri pfx : String) :
    let u := d.mRequiredAttrOfUnknownPkg
    let dis := d.mRequiredAttrOfUnknownDisabledPkg
    let d' := d.enablePackageInternal reg uri pfx false
    (d'.mRequiredAttrOfUnknownPkg, d'.mRequiredAttrOfUnknownDisabledPkg) =
      match indexOfPackage u uri pfx with
      | some i => (u.remove i, dis.add (u.getName i) (u.getValueAt i) uri pfx)
      | none => (u, dis) := by
  simp only [enablePackageInternal, Bool.not_false, if_true]
  split <;> rfl

/-- The two tables after enabling: the first disabled entry of `(uri, pfx)`, if any, moves
    back. -/
theorem enablePackageInternal_true_tables (d : SBMLDocument) (uri pfx : String) :
    let u := d.mRequiredAttrOfUnknownPkg
    let dis := d.mRequiredAttrOfUnknownDisabledPkg
    let d' := d.enablePackageInternal reg uri pfx true
    (d'.mRequiredAttrOfUnknownPkg, d'.mRequiredAttrOfUnknownDisabledPkg) =
      match indexOfPackage dis uri pfx with
      | some i => (u.add (dis.getName i) (dis.getValueAt i) uri pfx, dis.remove i)
      | none => (u, dis) := by
  simp only [enablePackageInternal, Bool.not_true, Bool.false_eq_true, if_false]
  split <;> rfl

/-- Disabling erases the default-namespace flag of the URI. -/
@[simp] theorem enablePackageInternal_false_flags (d : SBMLDocument) (uri pfx : String) :
    (d.enablePackageInternal reg uri pfx false).mPkgUseDefaultNSMap =
      flagErase d.mPkgUseDefaultNSMap uri := by
  simp only [enablePackageInternal, Bool.not_false, if_true]
  split <;> rfl

/-- Enabling leaves the default-namespace flags alone. -/
@[simp] theorem enablePackageInternal_true_flags (d : SBMLDocument) (uri pfx : String) :
    (d.enablePackageInternal reg uri pfx true).mPkgUseDefaultNSMap = d.mPkgUseDefaultNSMap := by
  simp only [enablePackageInternal, Bool.not_true, Bool.false_eq_true, if_false]
  split <;> rfl

/-! ### Disabling then enabling -/

/-- No entry of `t` has `uri`, so the search finds nothing. -/
theorem indexOfPackage_eq_none {t : XMLAttributes} {uri pfx : String}
    (h : ∀ a ∈ t.attrs, a.uri ≠ uri) : indexOfPackage t uri pfx = none :=
  firstIndex_eq_none.2 fun x hx => by simp [h x hx]

/-- An entry for a URI the table lacks is appended, and is where the search of the URI and its
    prefix then stops. -/
theorem add_of_uri_absent {t : XMLAttributes} {name value uri pfx : String}
    (h : ∀ a ∈ t.attrs, a.uri ≠ uri) :
    (t.add name value uri pfx).attrs = t.attrs ++ [⟨name, uri, pfx, value⟩] ∧
      indexOfPackage (t.add name value uri pfx) uri pfx = some t.attrs.length := by
  have hnew : (name, uri) ∉ t.attrs.map XMLAttribute.key := by
    simp only [List.mem_map, not_exists, not_and]
    exact fun x hx hk => h x hx (congrArg Prod.snd hk)
  have hadd : (t.add name value uri pfx).attrs = t.attrs ++ [⟨name, uri, pfx, value⟩] :=
    XMLAttributes.add_attrs_of_not_mem hnew
  refine ⟨hadd, ?_⟩
  rw [indexOfPackage, hadd]
  exact firstIndex_append_cons (fun x hx => by simp [h x hx]) (by simp)

/-- Disabling then re-enabling `(uri, pfx)` while no disabled entry has `uri` gives back the
    unknown-package table up to order and the disabled table exactly: the entry parked by the
    first call is the one the second call finds. -/
theorem disable_then_enable_tables (d : SBMLDocument) (uri pfx : String)
    (hdis : ∀ a ∈ d.mRequiredAttrOfUnknownDisabledPkg.attrs, a.uri ≠ uri) :
    let d' := (d.enablePackageInternal reg uri pfx false).enablePackageInternal reg uri pfx true
    d'.mRequiredAttrOfUnknownPkg.attrs.Perm d.mRequiredAttrOfUnknownPkg.attrs ∧
      d'.mRequiredAttrOfUnknownDisabledPkg = d.mRequiredAttrOfUnknownDisabledPkg := by
  intro d'
  have h₁ := enablePackageInternal_false_tables reg d uri pfx
  have h₂ := enablePackageInternal_true_tables reg (d.enablePackageInternal reg uri pfx false)
    uri pfx
  dsimp only at h₁ h₂
  set u := d.mRequiredAttrOfUnknownPkg
  set dis := d.mRequiredAttrOfUnknownDisabledPkg
  cases hi : indexOfPackage u uri pfx with
  | none =>
    simp only [hi, Prod.mk.injEq] at h₁
    rw [h₁.1, h₁.2, indexOfPackage_eq_none hdis, Prod.mk.injEq] at h₂
    exact ⟨h₂.1 ▸ List.Perm.refl _, h₂.2⟩
  | some i =>
    obtain ⟨l₁, e, l₂, hu, rfl, he, -⟩ := firstIndex_eq_some hi
    have heu : e.uri = uri ∧ e.xmlPrefix = pfx := by simpa using he
    have hmid := XMLAttributes.getElem?_split hu
    -- the parked entry is appended to the disabled table, whose entries all lack `uri`
    obtain ⟨hdis', hfind⟩ : (dis.add e.name e.value uri pfx).attrs =
        dis.attrs ++ [⟨e.name, uri, pfx, e.value⟩] ∧
        indexOfPackage (dis.add e.name e.value uri pfx) uri pfx = some dis.attrs.length :=
      add_of_uri_absent hdis
    -- the key of `e` occurs once in `u`, so re-adding it to the rest appends
    have hrest : (e.name, uri) ∉ (l₁ ++ l₂).map XMLAttribute.key := by
      have := u.nodup
      rw [hu, List.map_append, List.map_cons, List.nodup_middle, List.nodup_cons,
        ← List.map_append] at this
      simpa [XMLAttribute.key, heu.1] using this.1
    simp only [hi, XMLAttributes.getName, XMLAttributes.getValueAt, hmid, Option.map_some',
      Option.getD_some, Prod.mk.injEq] at h₁
    rw [h₁.1, h₁.2, hfind] at h₂
    simp only [XMLAttributes.getName, XMLAttributes.getValueAt, hdis', List.getElem?_append_right,
      le_refl, Nat.sub_self, List.getElem?_cons_zero, Option.map_some', Option.getD_some,
      Prod.mk.injEq] at h₂
    have hr : (u.remove l₁.length).attrs = l₁ ++ l₂ := by
      rw [XMLAttributes.remove_attrs, hu, List.eraseIdx_append_of_length_le le_rfl,
        Nat.sub_self, List.eraseIdx_cons_zero]
    refine ⟨?_, ?_⟩
    · rw [h₂.1, XMLAttributes.add_attrs_of_not_mem (hr ▸ hrest), hr, hu, ← heu.1, ← heu.2]
      exact (List.perm_append_singleton _ _).trans List.perm_middle.symm
    · rw [h₂.2]
      ext1
      rw [XMLAttributes.remove_attrs, hdis', List.eraseIdx_append_of_length_le le_rfl,
        Nat.sub_self, List.eraseIdx_cons_zero, List.append_nil]

/-- Disabling erases the default-namespace flag of `uri` and enabling does not restore it. -/
theorem disable_then_enable_eraseFlag (d : SBMLDocument) (uri pfx : String) :
    flagLookup ((d.enablePackageInternal reg uri pfx false).enablePackageInternal reg uri pfx
      true).mPkgUseDefaultNSMap uri = none := by
  simp

/-- Disabling then re-enabling `(uri, pfx)` while the package is enabled (no disabled entry
    has `uri`) restores both unknown-package tables, the first up to order, and leaves the
    default-namespace map with no flag for `uri`. -/
theorem disable_then_enable (d : SBMLDocument) (uri pfx : String)
    (hdis : ∀ a ∈ d.mRequiredAttrOfUnknownDisabledPkg.attrs, a.uri ≠ uri) :
    let d' := (d.enablePackageInternal reg uri pfx false).enablePackageInternal reg uri pfx true
    d'.mRequiredAttrOfUnknownPkg.attrs.Perm d.mRequiredAttrOfUnknownPkg.attrs ∧
      d'.mRequiredAttrOfUnknownDisabledPkg = d.mRequiredAttrOfUnknownDisabledPkg ∧
      flagLookup d'.mPkgUseDefaultNSMap uri = none :=
  ⟨(disable_then_enable_tables reg d uri pfx hdis).1,
    (disable_then_enable_tables reg d uri pfx hdis).2, disable_then_enable_eraseFlag reg d uri pfx⟩

/-- A Level 3 package namespace. -/
def fooURI : String := "http://www.sbml.org/sbml/level3/version1/foo/version1"

/-- A registry with one enabled package, `foo`, that plugs into `<sbml>`. -/
def fooRegistry : SBMLExtensionRegistry :=
  ⟨[{ name := "foo", uris := [(fooURI, 1)], uris_not_core := by decide, enabled := true
      documentPluginCreator := true, l2Namespaces := [], l2_not_l3 := by simp
      l2_not_core := by simp }]⟩

/-- An L3V1 document with the `foo` plugin and its default-namespace flag set. -/
def fooDocument : SBMLDocument :=
  { blank 1 3 1 with mPlugins := [⟨fooURI, "foo", false⟩], mPkgUseDefaultNSMap := [(fooURI, true)] }

/-- An unknown package `foo`, required, next to another unknown package `bar`. -/
def unknownFooDocument : SBMLDocument :=
  { blank 1 3 1 with
    mRequiredAttrOfUnknownPkg := (XMLAttributes.empty.add "required" "true" fooURI "foo").add
      "required" "false" "http://www.sbml.org/sbml/level3/version1/bar/version1" "bar" }

/-- Disabling then enabling `foo` in `unknownFooDocument` brings its entry back. -/
theorem disable_then_enable_unknownFoo :
    (∀ a ∈ unknownFooDocument.mRequiredAttrOfUnknownDisabledPkg.attrs, a.uri ≠ fooURI) ∧
      let d' := (unknownFooDocument.enablePackageInternal .empty fooURI "foo" false
        ).enablePackageInternal .empty fooURI "foo" true
      d'.mRequiredAttrOfUnknownPkg.attrs.Perm unknownFooDocument.mRequiredAttrOfUnknownPkg.attrs ∧
        d'.mRequiredAttrOfUnknownDisabledPkg =
          unknownFooDocument.mRequiredAttrOfUnknownDisabledPkg ∧
        flagLookup d'.mPkgUseDefaultNSMap fooURI = none :=
  have h : ∀ a ∈ unknownFooDocument.mRequiredAttrOfUnknownDisabledPkg.attrs, a.uri ≠ fooURI := by
    simp [unknownFooDocument, blank]
  ⟨h, disable_then_enable .empty unknownFooDocument fooURI "foo" h⟩

/-- The default-namespace flag does not survive disabling then re-enabling `foo`. -/
theorem disable_then_enable_loses_defaultNS :
    fooDocument.mRequiredAttrOfUnknownDisabledPkg.attrs = [] ∧
      fooDocument.isEnabledDefaultNS fooRegistry fooURI = true ∧
      ((fooDocument.enablePackageInternal fooRegistry fooURI "foo" false).enablePackageInternal
        fooRegistry fooURI "foo" true).isEnabledDefaultNS fooRegistry fooURI = false := by
  decide

end SBMLDocument

end LibSbml
