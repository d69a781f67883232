import LibSbml.Document.PackageSlots

namespace LibSbml

/-!
# Package laws — what a setter leaves for its getter, and how calls compose

The package methods of the document pair up: `setPackageRequired` with `getPackageRequired`,
`enableDefaultNS` with `isEnabledDefaultNS`, and `enablePackageInternal` with itself. Each setter
searches the plugins the same way as its getter (the first plugin of the package for the
`required` flag, the last for the default namespace), so what it stores is what the getter reads.

* `getPackageRequired_setPackageRequired`, `isEnabledDefaultNS_enableDefaultNS` — a setter that
  succeeds is read back by its getter; the default namespace of every package with another
  plugin URI stays as it was;
* `setPackageRequired_setPackageRequired`, `enableDefaultNS_enableDefaultNS` — two calls on one
  package are the last one: the unknown-package entry keeps its prefix, and the default-namespace
  map its order;
* `enablePackageInternal_idempotent` — on well-formed tables switching a package twice the same
  way is switching it once.
-/

/-! ### The default-namespace map -/

/-- After `flagSet`, the key holds the flag. -/
@[simp] theorem flagLookup_flagSet_self (m : List (String × Bool)) (uri : String) (flag : Bool) :
    flagLookup (flagSet m uri flag) uri = some flag := by
  unfold flagLookup flagSet
  split_ifs with h
  · obtain ⟨x, hx, hxu⟩ := List.any_eq_true.1 h
    obtain ⟨y, hy⟩ : ∃ y, m.find? (·.1 == uri) = some y :=
      Option.isSome_iff_exists.1 (List.find?_isSome.2 ⟨x, hx, hxu⟩)
    have hf : ((fun p : String × Bool => p.1 == uri) ∘
        fun p => if p.1 == uri then (uri, flag) else p) = (·.1 == uri) := by
      funext p
      by_cases hp : p.1 = uri <;> simp [hp]
    have hy' : y.1 = uri := by simpa using List.find?_some hy
    rw [List.find?_map, hf, hy]
    simp [hy']
  · have hn : m.find? (·.1 == uri) = none := List.find?_eq_none.2 fun x hx hxu =>
      h (List.any_eq_true.2 ⟨x, hx, hxu⟩)
    simp [List.find?_append, hn]

/-- `flagSet` leaves every other key. -/
theorem flagLookup_flagSet_ne (m : List (String × Bool)) {uri w : String} (flag : Bool)
    (hw : w ≠ uri) : flagLookup (flagSet m uri flag) w = flagLookup m w := by
  unfold flagLookup flagSet
  have hu : (uri == w) = false := by simpa using Ne.symm hw
  split_ifs
  · -- the rewritten pair never has the key `w`, the others are unchanged
    have hf : ((fun p : String × Bool => p.1 == w) ∘
        fun p => if p.1 == uri then (uri, flag) else p) = (·.1 == w) := by
      funext p
      by_cases hp : p.1 = uri <;> simp [hp, hw, Ne.symm hw]
    rw [List.find?_map, hf]
    cases hy : m.find? (·.1 == w) with
    | none => rfl
    | some y =>
      have hy' : y.1 = w := by simpa using List.find?_some hy
      simp [hy', hw]
  · simp [List.find?_append, hu]

/-- Two `flagSet`s of one key are the last. -/
theorem flagSet_flagSet (m : List (String × Bool)) (uri : String) (f₁ f₂ : Bool) :
    flagSet (flagSet m uri f₁) uri f₂ = flagSet m uri f₂ := by
  unfold flagSet
  by_cases h : m.any (·.1 == uri)
  · have h₁ : (m.map fun p => if p.1 == uri then (uri, f₁) else p).any (·.1 == uri) := by
      simpa [List.any_map, Function.comp_def, apply_ite] using h
    simp only [h, h₁, if_true, List.map_map]
    congr 1
    funext p
    by_cases hp : p.1 = uri <;> simp [hp]
  · have hm : m.map (fun p => if p.1 = uri then (uri, f₂) else p) = m :=
      (List.map_congr_left fun p hp => if_neg fun e => h (List.any_eq_true.2 ⟨p, hp, by simp [e]⟩)
        ).trans (List.map_id m)
    simp [h, hm]

namespace SBMLDocument

variable (reg : SBMLExtensionRegistry)

/-! ### `setPackageRequired` and `getPackageRequired` -/

/-- The plugin loop finds nothing exactly when no plugin is the package's, whatever the flag. -/
theorem setRequiredOfFirst_eq_none {package : String} {flag : Bool} {ps : List SBasePlugin} :
    setRequiredOfFirst reg package flag ps = none ↔ ps.find? (·.matches reg package) = none := by
  induction ps with
  | nil => simp [setRequiredOfFirst]
  | cons p ps ih => by_cases hp : p.matches reg package <;> simp [setRequiredOfFirst, hp, ih]

/-- After the loop, the first plugin of the package carries the flag. -/
theorem find?_setRequiredOfFirst {package : String} {flag : Bool} {ps ps' : List SBasePlugin}
    (h : setRequiredOfFirst reg package flag ps = some ps') :
    (ps'.find? (·.matches reg package)).map (·.required) = some flag := by
  induction ps generalizing ps' with
  | nil => cases h
  | cons p ps ih =>
    by_cases hp : p.matches reg package
    · simp only [setRequiredOfFirst, hp, if_true, Option.some.injEq] at h
      subst h
      have hp' : ({ p with required := flag } : SBasePlugin).matches reg package = true := hp
      simp [List.find?_cons, hp']
    · simp only [setRequiredOfFirst, hp, Bool.false_eq_true, if_false, Option.map_eq_some'] at h
      obtain ⟨qs, hq, rfl⟩ := h
      simpa [hp] using ih hq

/-- Two runs of the loop on one package are the last. -/
theorem setRequiredOfFirst_twice (package : String) (f₁ f₂ : Bool) (ps : List SBasePlugin) :
    (setRequiredOfFirst reg package f₁ ps).bind (setRequiredOfFirst reg package f₂) =
      setRequiredOfFirst reg package f₂ ps := by
  induction ps with
  | nil => rfl
  | cons p ps ih =>
    by_cases hp : p.matches reg package
    · have hp' : ({ p with required := f₁ } : SBasePlugin).matches reg package = true := hp
      simp [setRequiredOfFirst, hp, hp']
    · simp only [setRequiredOfFirst, hp, Bool.false_eq_true, if_false]
      cases hq : setRequiredOfFirst reg package f₁ ps with
      | none => rw [hq] at ih; simp [← ih]
      | some qs =>
        rw [hq, Option.some_bind] at ih
        simp [setRequiredOfFirst, hp, ih]

/-- Past attributes of other keys, `addAttr` overwrites the attribute of its key in place. -/
theorem addAttr_append_cons {a b : XMLAttribute} {l₁ l₂ : List XMLAttribute}
    (h₁ : ∀ x ∈ l₁, (x.key == a.key) = false) (hb : b.key = a.key) :
    addAttr a (l₁ ++ b :: l₂) = l₁ ++ a :: l₂ := by
  induction l₁ with
  | nil => simp [addAttr, hb]
  | cons x l ih =>
    have hx : x.key ≠ a.key := by simpa using h₁ x (by simp)
    simp [addAttr, hx, ih fun y hy => h₁ y (by simp [hy])]

/-- `add` of a key the table holds overwrites it in place. -/
theorem add_of_getIndex {t : XMLAttributes} {name uri : String} {i : Nat}
    (hi : t.getIndex name uri = some i) (value pfx : String) :
    (t.add name value uri pfx).getIndex name uri = some i ∧
      (t.add name value uri pfx).getPrefix i = pfx := by
  obtain ⟨l₁, b, l₂, hsplit, rfl, hb, hl₁⟩ := firstIndex_eq_some hi
  have hattrs : (t.add name value uri pfx).attrs = l₁ ++ ⟨name, uri, pfx, value⟩ :: l₂ := by
    rw [XMLAttributes.add_attrs, hsplit]
    exact addAttr_append_cons hl₁ (beq_iff_eq.1 hb)
  refine ⟨?_, ?_⟩
  · rw [XMLAttributes.getIndex, hattrs]
    exact firstIndex_append_cons hl₁ (by simp [XMLAttribute.key])
  · rw [XMLAttributes.getPrefix, XMLAttributes.getElem?_split hattrs]
    rfl

/-- Adding one key twice is adding the last. -/
theorem addAttr_addAttr {a₁ a₂ : XMLAttribute} (h : a₁.key = a₂.key) (l : List XMLAttribute) :
    addAttr a₂ (addAttr a₁ l) = addAttr a₂ l := by
  induction l with
  | nil => simp [addAttr, h]
  | cons b l ih =>
    by_cases hb : b.key = a₁.key
    · simp [addAttr, hb, h]
    · have hb' : b.key ≠ a₂.key := h ▸ hb
      simp [addAttr, hb, hb', ih]

/-- A non-empty value is found at some index. -/
theorem getIndex_of_getValue {t : XMLAttributes} {name uri : String}
    (h : t.getValue name uri ≠ "") : ∃ i, t.getIndex name uri = some i := by
  cases hf : t.attrs.find? (fun a => a.key == (name, uri)) with
  | none => simp [XMLAttributes.getValue, hf] at h
  | some a =>
    refine Option.ne_none_iff_exists'.1 fun hn => ?_
    have := firstIndex_eq_none.1 hn a (List.mem_of_find?_eq_some hf)
    simp [List.find?_some hf] at this

/-- **`getPackageRequired` reads what `setPackageRequired` stored.** A successful
    `setPackageRequired(package, flag)` leaves `getPackageRequired(package) = flag`, through the
    first plugin of the package or, without one, through its unknown-package entry. -/
theorem getPackageRequired_setPackageRequired (d : SBMLDocument) (package : String) (flag : Bool)
    (h : (d.setPackageRequired reg package flag).2 = .operationSuccess) :
    (d.setPackageRequired reg package flag).1.getPackageRequired reg package = flag := by
  unfold setPackageRequired at h ⊢
  cases hp : setRequiredOfFirst reg package flag d.mPlugins with
  | some ps =>
    have hf := find?_setRequiredOfFirst reg hp
    simp only [getPackageRequired]
    cases hq : ps.find? (·.matches reg package) with
    | none => simp [hq] at hf
    | some q => simpa [hq] using hf
  | none =>
    simp only [hp] at h ⊢
    have hn := (setRequiredOfFirst_eq_none reg).1 hp
    by_cases hv : d.mRequiredAttrOfUnknownPkg.getValue "required" package ≠ ""
    · simp only [if_pos hv, getPackageRequired, hn]
      cases flag <;> simp
    · simp [if_neg hv] at h

/-- `getPackageRequired_setPackageRequired` on `unknownFooDocument`, setting `foo` not
    required. -/
theorem getPackageRequired_setPackageRequired_unknownFoo :
    (unknownFooDocument.setPackageRequired .empty fooURI false).2 = .operationSuccess ∧
      (unknownFooDocument.setPackageRequired .empty fooURI false).1.getPackageRequired .empty
        fooURI = false :=
  have h : (unknownFooDocument.setPackageRequired .empty fooURI false).2 = .operationSuccess := by
    decide
  ⟨h, getPackageRequired_setPackageRequired .empty unknownFooDocument fooURI false h⟩

/-- **Setting a package's `required` flag twice is setting it once.** Whatever the document,
    `setPackageRequired(package, f₁)` then `setPackageRequired(package, f₂)` returns and leaves
    what `setPackageRequired(package, f₂)` alone does: the first plugin of the package takes
    `f₂`, or the unknown-package entry takes it under its old prefix, or both calls fail and
    change nothing. -/
theorem setPackageRequired_setPackageRequired (d : SBMLDocument) (package : String)
    (f₁ f₂ : Bool) :
    (d.setPackageRequired reg package f₁).1.setPackageRequired reg package f₂ =
      d.setPackageRequired reg package f₂ := by
  have htwice := setRequiredOfFirst_twice reg package f₁ f₂ d.mPlugins
  unfold setPackageRequired
  cases hp : setRequiredOfFirst reg package f₁ d.mPlugins with
  | some ps =>
    rw [hp, Option.some_bind] at htwice
    -- the package has a plugin, so the second call also takes the plugin path
    obtain ⟨ps₂, hps₂⟩ : ∃ ps₂, setRequiredOfFirst reg package f₂ d.mPlugins = some ps₂ :=
      Option.ne_none_iff_exists'.1 fun hn => by
        simp [(setRequiredOfFirst_eq_none reg).2 ((setRequiredOfFirst_eq_none reg).1 hn)] at hp
    simp [htwice, hps₂]
  | none =>
    have hp₂ : setRequiredOfFirst reg package f₂ d.mPlugins = none :=
      (setRequiredOfFirst_eq_none reg).2 ((setRequiredOfFirst_eq_none reg).1 hp)
    simp only [hp₂]
    by_cases hv : d.mRequiredAttrOfUnknownPkg.getValue "required" package ≠ ""
    · obtain ⟨i, hi⟩ := getIndex_of_getValue hv
      set U := d.mRequiredAttrOfUnknownPkg
      have hadd := add_of_getIndex hi (if f₁ then "true" else "false") (U.getPrefix i)
      have hv₁ : (U.add "required" (if f₁ then "true" else "false") package
          (U.getPrefix i)).getValue "required" package ≠ "" := by
        rw [XMLAttributes.getValue_add_self]
        cases f₁ <;> decide
      simp only [if_pos hv, hi, hp₂, if_pos hv₁, hadd.1, hadd.2]
      congr 2
      refine XMLAttributes.ext (addAttr_addAttr ?_ _)
      rfl
    · simp only [if_neg hv, hp₂]

/-! ### `enableDefaultNS` and `isEnabledDefaultNS` -/

/-- **`isEnabledDefaultNS` reads what `enableDefaultNS` stored.** A successful
    `enableDefaultNS(package, flag)` leaves `isEnabledDefaultNS(package) = flag`, and the answer
    for every package whose last plugin has another URI as it was. -/
theorem isEnabledDefaultNS_enableDefaultNS (d : SBMLDocument) (package : String) (flag : Bool)
    (h : (d.enableDefaultNS reg package flag).2 = .operationSuccess) :
    let d' := (d.enableDefaultNS reg package flag).1
    d'.isEnabledDefaultNS reg package = flag ∧
      ∀ q, lastMatchingURI reg d.mPlugins q ≠ lastMatchingURI reg d.mPlugins package →
        d'.isEnabledDefaultNS reg q = d.isEnabledDefaultNS reg q := by
  unfold enableDefaultNS at h ⊢
  by_cases hu : lastMatchingURI reg d.mPlugins package = ""
  · simp [hu] at h
  · simp only [hu, if_false, isEnabledDefaultNS]
    exact ⟨by simp, fun q hq => by rw [flagLookup_flagSet_ne _ _ hq]⟩

/-- `isEnabledDefaultNS_enableDefaultNS` on `fooDocument`, turning the default namespace of
    `foo` off. -/
theorem isEnabledDefaultNS_enableDefaultNS_foo :
    (fooDocument.enableDefaultNS fooRegistry "foo" false).2 = .operationSuccess ∧
      let d' := (fooDocument.enableDefaultNS fooRegistry "foo" false).1
      d'.isEnabledDefaultNS fooRegistry "foo" = false ∧
        ∀ q, lastMatchingURI fooRegistry fooDocument.mPlugins q ≠
            lastMatchingURI fooRegistry fooDocument.mPlugins "foo" →
          d'.isEnabledDefaultNS fooRegistry q = fooDocument.isEnabledDefaultNS fooRegistry q :=
  have h : (fooDocument.enableDefaultNS fooRegistry "foo" false).2 = .operationSuccess := by
    decide
  ⟨h, isEnabledDefaultNS_enableDefaultNS fooRegistry fooDocument "foo" false h⟩

/-- **Setting a default namespace twice is setting it once.** Whatever the document,
    `enableDefaultNS(package, f₁)` then `enableDefaultNS(package, f₂)` returns and leaves what
    `enableDefaultNS(package, f₂)` alone does. -/
theorem enableDefaultNS_enableDefaultNS (d : SBMLDocument) (package : String) (f₁ f₂ : Bool) :
    (d.enableDefaultNS reg package f₁).1.enableDefaultNS reg package f₂ =
      d.enableDefaultNS reg package f₂ := by
  unfold enableDefaultNS
  by_cases hu : lastMatchingURI reg d.mPlugins package = ""
  · simp [hu]
  · simp [hu, flagSet_flagSet]

/-! ### Switching twice -/

/-- `enablePackageInternal` in one piece: the plugins, the default-namespace flags, the move
    between the tables, and the model's plugins. -/
theorem enablePackageInternal_eq (d : SBMLDocument) (uri pfx : String) (flag : Bool) :
    d.enablePackageInternal reg uri pfx flag =
      let tables := if flag then
          (moveEntry d.mRequiredAttrOfUnknownDisabledPkg d.mRequiredAttrOfUnknownPkg uri pfx).swap
        else moveEntry d.mRequiredAttrOfUnknownPkg d.mRequiredAttrOfUnknownDisabledPkg uri pfx
      let modelPlugins := enablePlugins (reg.getExtensionInternal uri).isSome uri pfx flag
      { d with
        mPlugins := enablePlugins (createsDocumentPlugin reg uri) uri pfx flag d.mPlugins
        mPkgUseDefaultNSMap :=
          if flag then d.mPkgUseDefaultNSMap else flagErase d.mPkgUseDefaultNSMap uri
        mRequiredAttrOfUnknownPkg := tables.1
        mRequiredAttrOfUnknownDisabledPkg := tables.2
        mModel := d.mModel.map fun m => { m with mPlugins := modelPlugins m.mPlugins } } := by
  cases flag
  · simp only [enablePackageInternal, moveEntry, Bool.not_false, if_true, if_false,
      Bool.false_eq_true]
    cases indexOfPackage d.mRequiredAttrOfUnknownPkg uri pfx <;> rfl
  · simp only [enablePackageInternal, moveEntry, Bool.not_true, if_true, if_false,
      Bool.false_eq_true]
    cases indexOfPackage d.mRequiredAttrOfUnknownDisabledPkg uri pfx <;> rfl

/-- A search that finds nothing moves nothing. -/
theorem moveEntry_of_none {A B : XMLAttributes} {uri pfx : String}
    (h : indexOfPackage A uri pfx = none) : moveEntry A B uri pfx = (A, B) := by
  simp [moveEntry, h]

/-- A well-formed table holds one entry per URI, so after a move none of `(uri, pfx)` is left. -/
theorem indexOfPackage_moveEntry {A : XMLAttributes} (hA : TableWellFormed A) (B : XMLAttributes)
    (uri pfx : String) : indexOfPackage (moveEntry A B uri pfx).1 uri pfx = none := by
  unfold moveEntry
  cases hi : indexOfPackage A uri pfx with
  | none => exact hi
  | some i =>
    obtain ⟨l₁, e, l₂, hsplit, rfl, he, -⟩ := firstIndex_eq_some hi
    have heu : e.uri = uri := (by simpa using he : e.uri = uri ∧ e.xmlPrefix = pfx).1
    have hmem : e ∈ A.attrs := hsplit ▸ List.mem_append_right _ (List.mem_cons_self _ _)
    have hkey : e.key = ("required", uri) := by simp [XMLAttribute.key, hA.named e hmem, heu]
    -- the entry of `uri` is gone, so no entry of the rest has `uri`
    have hgone : requiredEntry (A.remove l₁.length) uri = none := by
      rw [requiredEntry_remove hsplit, if_pos hkey]
    refine indexOfPackage_eq_none fun a ha hau => ?_
    have := (hA.remove l₁.length).requiredEntry_of_mem ha
    rw [hau, hgone] at this
    cases this

/-- Moving twice is moving once. -/
theorem moveEntry_idem {A : XMLAttributes} (hA : TableWellFormed A) (B : XMLAttributes)
    (uri pfx : String) :
    moveEntry (moveEntry A B uri pfx).1 (moveEntry A B uri pfx).2 uri pfx = moveEntry A B uri pfx :=
  moveEntry_of_none (indexOfPackage_moveEntry hA B uri pfx)

/-- Attaching or detaching twice is doing it once. -/
theorem enablePlugins_idem (creates : Bool) (uri pfx : String) (flag : Bool)
    (ps : List SBasePlugin) :
    enablePlugins creates uri pfx flag (enablePlugins creates uri pfx flag ps) =
      enablePlugins creates uri pfx flag ps := by
  unfold enablePlugins
  cases flag with
  | false => simp [List.filter_filter]
  | true => by_cases h : (ps.any (·.uri == uri) || !creates) = true <;> simp [h]

/-- **Switching a package twice the same way is switching it once.** On a document whose two
    unknown-package tables are well formed (every reachable one), `enablePackageInternal(uri,
    pfx, flag)` applied to its own result changes nothing: no second entry of `(uri, pfx)` is
    left to move, no second plugin is attached, and the flag it erases is gone. -/
theorem enablePackageInternal_idempotent (d : SBMLDocument) (uri pfx : String) (flag : Bool)
    (h : TablesWellFormed d) :
    (d.enablePackageInternal reg uri pfx flag).enablePackageInternal reg uri pfx flag =
      d.enablePackageInternal reg uri pfx flag := by
  rw [enablePackageInternal_eq reg (d.enablePackageInternal reg uri pfx flag),
    enablePackageInternal_eq reg d]
  cases flag <;>
    simp [enablePlugins_idem, flagErase, List.filter_filter, moveEntry_idem h.unknown,
      moveEntry_idem h.disabled, Option.map_map, Function.comp_def]

/-- `enablePackageInternal_idempotent` on `unknownFooDocument`, disabling `foo`. -/
theorem enablePackageInternal_idempotent_unknownFoo :
    TablesWellFormed unknownFooDocument ∧
      (unknownFooDocument.enablePackageInternal .empty fooURI "foo" false).enablePackageInternal
        .empty fooURI "foo" false =
        unknownFooDocument.enablePackageInternal .empty fooURI "foo" false :=
  have h : TablesWellFormed unknownFooDocument := ⟨⟨by decide, by decide⟩, ⟨by decide, by decide⟩⟩
  ⟨h, enablePackageInternal_idempotent .empty unknownFooDocument fooURI "foo" false h⟩

end SBMLDocument

end LibSbml
