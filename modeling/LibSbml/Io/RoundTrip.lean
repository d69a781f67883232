import LibSbml.Io.Read
import LibSbml.Io.Write

namespace LibSbml

/-!
# The `<sbml>` round trip — `writeXMLNS`, `writeAttributes`, then `readAttributes`

A document is written and its root element read back into a fresh document (`readBack`): the
declarations `writeXMLNS` emits become the new document's, and `readAttributes` reads the
attributes `writeAttributes` emits, their prefixes resolved against those declarations.

* `readUnsigned_toString` — a written level or version reads back as itself;
* `writeXMLNS_declares`, `writeXMLNS_not_enabled`, `writeXMLNS_core` — what the emitted
  declarations hold;
* `readAttributeList_writeAttributes` — the reader hands `readAttributes` the level, the version
  and the unknown-package table, unchanged;
* `find?_readBack_table` — the table read back agrees with the original on every URI;
* `readBack_roundTrip` — the round trip logs no revision or namespace error, keeps the revision
  written and gives back the same unknown-package entries, when the first core namespace
  declared is the revision's, each unknown package's URI is declared once, under its own
  prefix, with a non-empty value, and the document has no plugin;
* `readBack_counterexamples` — where each of those conditions fails, so does the round trip.
-/

/-! ### Numerals -/

/-- A decimal digit's character reads back as the digit. -/
theorem digitChar_ten : ∀ k < 10,
    (Nat.digitChar k).isDigit = true ∧ (Nat.digitChar k).toNat - '0'.toNat = k := by
  decide

/-- The characters `toDigitsCore` puts before `ds`, with fuel enough, are decimal digits whose
    value is `n`. -/
theorem toDigitsCore_ten (fuel n : Nat) (ds : List Char) (h : n < fuel) :
    ∃ cs, Nat.toDigitsCore 10 fuel n ds = cs ++ ds ∧ cs ≠ [] ∧ cs.all Char.isDigit = true ∧
      digitsValue 0 cs = n := by
  induction fuel generalizing n ds with
  | zero => omega
  | succ fuel ih =>
    obtain ⟨hd, hv⟩ := digitChar_ten (n % 10) (Nat.mod_lt _ (by decide))
    -- one step of `toDigitsCore`, by its definition
    have hstep : Nat.toDigitsCore 10 (fuel + 1) n ds =
        if n / 10 = 0 then Nat.digitChar (n % 10) :: ds
        else Nat.toDigitsCore 10 fuel (n / 10) (Nat.digitChar (n % 10) :: ds) := rfl
    rw [hstep]
    split_ifs with hn
    · refine ⟨[Nat.digitChar (n % 10)], rfl, List.cons_ne_nil _ _, by simpa using hd, ?_⟩
      simp only [digitsValue, List.foldl_cons, List.foldl_nil, hv]
      omega
    · obtain ⟨cs, hcs, -, hall, hval⟩ := ih (n / 10) (Nat.digitChar (n % 10) :: ds) (by omega)
      refine ⟨cs ++ [Nat.digitChar (n % 10)], by simp [hcs], by simp, by simp [hall, hd], ?_⟩
      simp only [digitsValue, List.foldl_append, List.foldl_cons, List.foldl_nil] at hval ⊢
      rw [hval, hv]
      omega

/-- The decimal numeral of `n` reads back as `n`. -/
theorem toString_digits (n : Nat) :
    (toString n).data ≠ [] ∧ (toString n).data.all Char.isDigit = true ∧
      digitsValue 0 (toString n).data = n := by
  obtain ⟨cs, hcs, hne, hall, hval⟩ := toDigitsCore_ten (n + 1) n [] (Nat.lt_succ_self n)
  have : (toString n).data = cs := by
    show Nat.toDigitsCore 10 (n + 1) n [] = cs
    rw [hcs, List.append_nil]
  exact this ▸ ⟨hne, hall, hval⟩

/-- An attribute whose value is the numeral of an `unsigned int`, first of its name, reads back
    as that number. -/
theorem readUnsigned_toString (t : XMLAttributes) (name : String) (n : Nat) (uri pfx : String)
    (hfind : t.attrs.find? (·.name == name) = some ⟨name, uri, pfx, toString n⟩)
    (hn : n < UInt32.size) : t.readUnsigned name = some n := by
  obtain ⟨hne, hall, hval⟩ := toString_digits n
  simp [XMLAttributes.readUnsigned, hfind, hne, hall, hval, hn]

/-! ### Core namespaces and the registry -/

/-- The URIs of the `strcmp` chain are the SBML core namespaces. -/
theorem coreNamespace_isSome (u : String) : (coreNamespace u).isSome ↔ u ∈ sbmlCoreURIs := by
  rw [coreNamespace, List.lookup_isSome_iff,
    show sbmlCoreURIs = coreNamespaces.map (·.1) from rfl, List.mem_map]
  simp only [beq_iff_eq, @eq_comm _ u]

/-- The core namespace of a valid revision is one of the core namespaces, and the branch it
    takes demands that level and allows that version. -/
theorem coreNamespace_getSBMLNamespaceURI {l v : Nat} (h : validLevelVersion l v = true) :
    getSBMLNamespaceURI l v ∈ sbmlCoreURIs ∧
      ∃ vs, coreNamespace (getSBMLNamespaceURI l v) = some (l, vs) ∧ v ∈ vs := by
  obtain ⟨vs, hvs, hv⟩ : ∃ vs, coreNamespace (getSBMLNamespaceURI l v) = some (l, vs) ∧ v ∈ vs :=
    match l, v, h with
    | 1, 1, _ | 1, 2, _ | 2, 1, _ | 2, 2, _ | 2, 3, _ | 2, 4, _ | 2, 5, _ | 3, 1, _ | 3, 2, _ =>
      ⟨_, rfl, by decide⟩
  exact ⟨(coreNamespace_isSome _).1 (by rw [hvs]; rfl), vs, hvs, hv⟩

/-- No package claims an SBML core namespace. -/
theorem isEnabledURI_of_core (reg : SBMLExtensionRegistry) {u : String} (hu : u ∈ sbmlCoreURIs) :
    reg.isEnabledURI u = false := by
  have : reg.getExtensionInternal u = none := List.find?_eq_none.2 fun e _ h => by
    obtain ⟨p, hp, hpu⟩ := List.any_eq_true.1 h
    exact e.uris_not_core p hp ((beq_iff_eq.1 hpu).symm ▸ hu)
  simp [SBMLExtensionRegistry.isEnabledURI, this]

/-- `findSome?` is `find?` on the elements where it succeeds. -/
theorem List.findSome?_eq_find? {α β : Type} (f : α → Option β) (l : List α) :
    l.findSome? f = (l.find? fun x => (f x).isSome).bind f := by
  induction l with
  | nil => rfl
  | cons x l ih => cases h : f x <;> simp [List.findSome?_cons, h, ih]

/-- A filter that keeps every element the search looks for leaves the search alone. -/
theorem List.find?_filter_of_imp {α : Type} {p q : α → Bool} {l : List α}
    (h : ∀ x ∈ l, q x = true → p x = true) : (l.filter p).find? q = l.find? q := by
  induction l with
  | nil => rfl
  | cons x l ih =>
    have ih' := ih fun y hy => h y (List.mem_cons_of_mem _ hy)
    by_cases hq : q x = true
    · simp [List.filter_cons, h x (List.mem_cons_self _ _) hq, hq]
    · by_cases hp : p x = true <;> simp [List.filter_cons, hp, hq, ih']

/-- A non-empty list whose every element is `y` ends with `y`. -/
theorem List.getLast?_of_forall_eq {α : Type} {l : List α} {y : α} (hne : l ≠ [])
    (h : ∀ x ∈ l, x = y) : l.getLast? = some y := by
  rw [List.getLast?_eq_getLast l hne, h _ (List.getLast_mem hne)]

/-! ### What `writeXMLNS` emits -/

/-- The declarations `removeL2Namespaces` keeps. -/
theorem mem_removeL2Namespaces {reg : SBMLExtensionRegistry} {ns : XMLNamespaces}
    {n : XMLNamespace} :
    n ∈ (reg.removeL2Namespaces ns).decls ↔
      n ∈ ns.decls ∧ ∀ e ∈ reg.extensions, n.uri ∉ e.l2Namespaces := by
  simp [SBMLExtensionRegistry.removeL2Namespaces]

variable (reg : SBMLExtensionRegistry) (sev : SBMLErrorCode → Nat → Nat → Severity)
  (dflt : DefaultRevision)

namespace SBMLDocument

/-- The root element written by `d` and read into `fresh`: the declarations `writeXMLNS` emits
    become `fresh`'s, and `readAttributes` reads the attributes `writeAttributes` emits, as the
    reader resolves them against those declarations; `none` where the reader rejects the
    element. -/
def readBack (d fresh : SBMLDocument) : Option SBMLDocument :=
  let ns := (d.writeXMLNS reg dflt).2
  (readAttributeList ns (d.writeAttributes dflt)).map fun attributes =>
    { fresh with mSBMLNamespaces := { fresh.mSBMLNamespaces with namespaces := some ns } }
      |>.readAttributes reg sev attributes

/-- The revision written is a valid one when the document's is valid or (0, 0). -/
theorem xmlnsRevision_valid (d : SBMLDocument)
    (h : validLevelVersion d.mLevel d.mVersion = true ∨ (d.mLevel = 0 ∧ d.mVersion = 0)) :
    validLevelVersion (d.xmlnsRevision dflt).1 (d.xmlnsRevision dflt).2 = true := by
  unfold xmlnsRevision
  split_ifs with h0
  · exact dflt.valid
  · exact h.resolve_right h0

/-- An unknown package's URI, declared once under its own prefix (neither empty nor
    `addedPrefix`), is emitted once, under that prefix. -/
theorem writeXMLNS_declares (d : SBMLDocument) (ns : XMLNamespaces) (uri p : String)
    (hns : d.getNamespaces = some ns) (hmem : ⟨p, uri⟩ ∈ ns.decls)
    (huniq : ∀ m ∈ ns.decls, m.uri = uri → m.xmlPrefix = p) (hp₁ : p ≠ "")
    (hp₂ : p ≠ "addedPrefix") (hl3 : beginsWith uri sbmlL3Prefix = true) :
    ⟨p, uri⟩ ∈ (d.writeXMLNS reg dflt).2.decls ∧
      ∀ n ∈ (d.writeXMLNS reg dflt).2.decls, n.uri = uri → n.xmlPrefix = p := by
  simp only [writeXMLNS, hns]
  refine ⟨mem_removeL2Namespaces.2 ⟨settleNamespaces_keeps hmem hp₁ hp₂, fun e _ hu => ?_⟩,
    fun n hn => settleNamespaces_uri_unique hmem huniq hp₁ n (mem_removeL2Namespaces.1 hn).1⟩
  exact absurd hl3 (by simp [e.l2_not_l3 uri hu])

/-- When no declared URI is an enabled package's, no emitted one is. -/
theorem writeXMLNS_not_enabled (d : SBMLDocument)
    (hrev : validLevelVersion d.mLevel d.mVersion = true ∨ (d.mLevel = 0 ∧ d.mVersion = 0))
    (hreg : ∀ ns, d.getNamespaces = some ns → ∀ m ∈ ns.decls, reg.isEnabledURI m.uri = false) :
    ∀ n ∈ (d.writeXMLNS reg dflt).2.decls, reg.isEnabledURI n.uri = false := by
  intro n hn
  rcases mem_settleNamespaces (mem_removeL2Namespaces.1 hn).1 with
    ⟨rfl, -⟩ | ⟨ns, hns, hn'⟩ | ⟨ns, hns, -, hd⟩
  · exact isEnabledURI_of_core reg
      (coreNamespace_getSBMLNamespaceURI (d.xmlnsRevision_valid dflt hrev)).1
  · exact hreg ns (Option.mem_def.1 hns) n hn'
  · exact hreg ns (Option.mem_def.1 hns) ⟨"", n.uri⟩ hd

/-- When the first core namespace declared, if any, is the revision's, the core-namespace check
    of the reading takes the revision's branch. -/
theorem writeXMLNS_core (d : SBMLDocument)
    (hrev : validLevelVersion d.mLevel d.mVersion = true ∨ (d.mLevel = 0 ∧ d.mVersion = 0))
    (hcore : ∀ ns, d.getNamespaces = some ns → ∀ m ∈ ns.decls.find? (·.uri ∈ sbmlCoreURIs),
      m.uri = getSBMLNamespaceURI (d.xmlnsRevision dflt).1 (d.xmlnsRevision dflt).2) :
    (d.writeXMLNS reg dflt).2.decls.findSome? (coreNamespace ·.uri) =
      coreNamespace (getSBMLNamespaceURI (d.xmlnsRevision dflt).1 (d.xmlnsRevision dflt).2) := by
  have hc := (coreNamespace_getSBMLNamespaceURI (d.xmlnsRevision_valid dflt hrev)).1
  obtain ⟨n, hn, hnc⟩ := find?_core_settleNamespaces hc
    (fun ns hns => hcore ns (Option.mem_def.1 hns))
  have hsearch : (fun x : XMLNamespace => (coreNamespace x.uri).isSome) =
      fun x => decide (x.uri ∈ sbmlCoreURIs) := by
    funext x
    exact Bool.eq_iff_iff.2 ((coreNamespace_isSome x.uri).trans (by simp))
  -- the Level 2 namespaces dropped are never core namespaces
  have hkeep : ∀ x ∈ (settleNamespaces (getSBMLNamespaceURI (d.xmlnsRevision dflt).1
      (d.xmlnsRevision dflt).2) d.getNamespaces).decls,
      decide (x.uri ∈ sbmlCoreURIs) = true →
        (!reg.extensions.any (x.uri ∈ ·.l2Namespaces)) = true := by
    intro x _ hx
    simpa using fun e _ hl2 => e.l2_not_core x.uri hl2 (by simpa using hx)
  simp only [writeXMLNS, List.findSome?_eq_find?, hsearch, SBMLExtensionRegistry.removeL2Namespaces]
  rw [List.find?_filter_of_imp hkeep, hn, Option.some_bind, hnc]

/-- For a valid revision, or (0, 0), `writeAttributes` writes the revision `writeXMLNS`
    declares. -/
theorem writeAttributes_revision (d : SBMLDocument)
    (hrev : validLevelVersion d.mLevel d.mVersion = true ∨ (d.mLevel = 0 ∧ d.mVersion = 0)) :
    (if d.mLevel > 0 then d.mLevel else dflt.level) = (d.xmlnsRevision dflt).1 ∧
      (if d.mVersion > 0 then d.mVersion else dflt.version) = (d.xmlnsRevision dflt).2 := by
  unfold xmlnsRevision
  rcases hrev with h | ⟨h₁, h₂⟩
  · obtain ⟨hl, -, hv, -⟩ := validLevelVersion_bounds h
    simp [hl, hv, Nat.pos_iff_ne_zero.1 hl]
  · simp [h₁, h₂]

end SBMLDocument

/-! ### The attributes the reader hands over -/

/-- `mapM` of a partial function that takes each image of `w` back gives the list back. -/
theorem List.mapM_map_of_inverse {α β : Type} {f : β → Option α} {w : α → β} {l : List α}
    (h : ∀ x ∈ l, f (w x) = some x) : (l.map w).mapM f = some l := by
  induction l with
  | nil => rfl
  | cons x l ih =>
    rw [List.map_cons, List.mapM_cons, h x (List.mem_cons_self _ _),
      ih fun y hy => h y (List.mem_cons_of_mem _ hy)]
    rfl

/-- An entry named `required` whose non-empty prefix is declared resolves back to itself. -/
theorem resolveAttribute_entry {E : XMLNamespaces} {a : XMLAttribute}
    (hname : a.name = "required") (hp : a.xmlPrefix ≠ "") (hd : ⟨a.xmlPrefix, a.uri⟩ ∈ E.decls) :
    resolveAttribute E ⟨a.xmlPrefix, "required", a.value⟩ = some a := by
  obtain ⟨name, uri, pfx, value⟩ := a
  subst hname
  simp only [resolveAttribute, if_neg hp, XMLNamespaces.find?_prefix_of_mem hd]
  rfl

namespace SBMLDocument

/-- With no plugins, and each entry named `required` and declared under its own non-empty
    prefix, the reader hands `readAttributes` the level, the version and the entries, in that
    order. -/
theorem readAttributeList_writeAttributes (d : SBMLDocument) (E : XMLNamespaces)
    (hplugins : d.mPlugins = [])
    (hentries : ∀ a ∈ d.mRequiredAttrOfUnknownPkg.attrs,
      a.name = "required" ∧ a.xmlPrefix ≠ "" ∧ ⟨a.xmlPrefix, a.uri⟩ ∈ E.decls) :
    ∃ attrs, readAttributeList E (d.writeAttributes dflt) = some attrs ∧
      attrs.attrs = ⟨"level", "", "", toString (if d.mLevel > 0 then d.mLevel else dflt.level)⟩ ::
        ⟨"version", "", "", toString (if d.mVersion > 0 then d.mVersion else dflt.version)⟩ ::
          d.mRequiredAttrOfUnknownPkg.attrs := by
  have hmap : (d.mRequiredAttrOfUnknownPkg.attrs.map fun a =>
      (⟨a.xmlPrefix, "required", a.value⟩ : WrittenAttribute)).mapM (resolveAttribute E) =
        some d.mRequiredAttrOfUnknownPkg.attrs :=
    List.mapM_map_of_inverse fun a ha =>
      resolveAttribute_entry (hentries a ha).1 (hentries a ha).2.1 (hentries a ha).2.2
  -- the level and the version have keys no entry has
  have hkeys : ∀ lv vv : String, (((⟨"level", "", "", lv⟩ : XMLAttribute) ::
      ⟨"version", "", "", vv⟩ :: d.mRequiredAttrOfUnknownPkg.attrs).map
        XMLAttribute.key).Nodup := by
    intro lv vv
    have hreq : ∀ k ∈ d.mRequiredAttrOfUnknownPkg.attrs.map XMLAttribute.key, k.1 = "required" := by
      simpa [XMLAttribute.key] using fun a ha => (hentries a ha).1
    simp only [List.map_cons, List.nodup_cons, List.mem_cons, not_or]
    exact ⟨⟨by simp [XMLAttribute.key], fun h => absurd (hreq _ h) (by simp [XMLAttribute.key])⟩,
      fun h => absurd (hreq _ h) (by simp [XMLAttribute.key]), d.mRequiredAttrOfUnknownPkg.nodup⟩
  refine ⟨⟨_, hkeys _ _⟩, ?_, rfl⟩
  simp only [readAttributeList, writeAttributes, hplugins, writeExtensionAttributes, List.map_nil,
    List.append_nil, List.cons_append, List.nil_append]
  rw [List.mapM_cons, List.mapM_cons, hmap]
  simp only [resolveAttribute, if_true]
  exact dif_pos (hkeys _ _)

/-! ### The entries read back -/

section Entries

variable {E : XMLNamespaces} {A T : XMLAttributes}

/-- With the level and the version before the entries, a search for a `required` attribute
    finds what it finds among the entries. -/
theorem find?_required_of_cons (lv vv : String)
    (hT : T.attrs = ⟨"level", "", "", lv⟩ :: ⟨"version", "", "", vv⟩ :: A.attrs) (uri : String) :
    T.attrs.find? (·.key == ("required", uri)) = A.attrs.find? (·.key == ("required", uri)) := by
  simp [hT, List.find?_cons, XMLAttribute.key]

/-- Each URI's search in the table read back finds what it finds in the original table `A`,
    when every entry of `A` is named `required`, has a non-empty value and a Level 3 URI, and is
    declared in `E` under its own prefix only, and no URI of `E` is an enabled package's. -/
theorem find?_readBack_table (lv vv : String)
    (hT : T.attrs = ⟨"level", "", "", lv⟩ :: ⟨"version", "", "", vv⟩ :: A.attrs)
    (hentries : ∀ a ∈ A.attrs, a.name = "required" ∧ a.value ≠ "" ∧
      beginsWith a.uri sbmlL3Prefix = true ∧ ⟨a.xmlPrefix, a.uri⟩ ∈ E.decls ∧
        ∀ n ∈ E.decls, n.uri = a.uri → n.xmlPrefix = a.xmlPrefix)
    (hen : ∀ n ∈ E.decls, reg.isEnabledURI n.uri = false) (uri : String) :
    ((E.decls.filter (isUnknownRequired reg T)).foldl (addUnknownEntry T) .empty).attrs.find?
        (·.key == ("required", uri)) = A.attrs.find? (·.key == ("required", uri)) := by
  have hval : ∀ u, T.getValue "required" u = A.getValue "required" u := fun u => by
    simp only [XMLAttributes.getValue, find?_required_of_cons lv vv hT]
  rw [find_foldl_addUnknownEntry]
  by_cases hu : ∃ a ∈ A.attrs, a.uri = uri
  · -- the URI's entry: its one declaration is the last unknown one
    obtain ⟨a, ha, rfl⟩ := hu
    obtain ⟨hname, hne, hl3, hd, huniq⟩ := hentries a ha
    have hfa : A.attrs.find? (·.key == ("required", a.uri)) = some a := by
      rw [show ("required", a.uri) = a.key by simp [XMLAttribute.key, hname]]
      exact XMLAttributes.find?_key_of_mem ha
    have hget : T.getValue "required" a.uri = a.value := by
      rw [hval, ← hname]
      exact XMLAttributes.getValue_of_mem ha
    have hlast : ((E.decls.filter (isUnknownRequired reg T)).filter (·.uri == a.uri)).getLast? =
        some ⟨a.xmlPrefix, a.uri⟩ := by
      refine List.getLast?_of_forall_eq (List.ne_nil_of_mem (List.mem_filter.2
        ⟨List.mem_filter.2 ⟨hd, ?_⟩, by simp⟩)) fun n hn => ?_
      · simp [isUnknownRequired, hen _ hd, hl3, hget, hne]
      · obtain ⟨hn, hnu⟩ := List.mem_filter.1 hn
        have hnu : n.uri = a.uri := by simpa using hnu
        rw [← huniq n (List.mem_filter.1 hn).1 hnu, ← hnu]
    rw [hlast, hfa, hget, ← hname]
  · -- no entry: no declaration of the URI is read as an unknown package's
    push_neg at hu
    have hnone : A.attrs.find? (·.key == ("required", uri)) = none :=
      List.find?_eq_none.2 fun a ha => by simp [XMLAttribute.key, hu a ha]
    have hget : T.getValue "required" uri = "" := by
      rw [hval]
      simp [XMLAttributes.getValue, hnone]
    have hempty : (E.decls.filter (isUnknownRequired reg T)).filter (·.uri == uri) = [] :=
      List.filter_eq_nil_iff.2 fun n hn hnu => by
        have hnu : n.uri = uri := by simpa using hnu
        simp [isUnknownRequired, hnu, hget] at hn
    rw [hempty, hnone]
    rfl

end Entries

/-! ### The round trip -/

/-- The root element of a document reads back into a fresh one: no revision or namespace
    error is logged, the revision is the one written, and the unknown-package table holds the
    same entries. This holds when the revision is valid or (0, 0); the document has no plugins;
    each entry is named `required`, has a non-empty value, a Level 3 URI and a prefix neither
    empty nor `addedPrefix`, and its URI is declared under that prefix and no other; no
    declared URI is an enabled package's; and the first core namespace declared, if any, is
    the revision's. -/
theorem readBack_roundTrip (self : Nat) (d : SBMLDocument)
    (hrev : validLevelVersion d.mLevel d.mVersion = true ∨ (d.mLevel = 0 ∧ d.mVersion = 0))
    (hplugins : d.mPlugins = [])
    (hentries : ∀ a ∈ d.mRequiredAttrOfUnknownPkg.attrs, a.name = "required" ∧ a.value ≠ "" ∧
      a.xmlPrefix ≠ "" ∧ a.xmlPrefix ≠ "addedPrefix" ∧ beginsWith a.uri sbmlL3Prefix = true ∧
      ∃ ns, d.getNamespaces = some ns ∧ ⟨a.xmlPrefix, a.uri⟩ ∈ ns.decls ∧
        ∀ m ∈ ns.decls, m.uri = a.uri → m.xmlPrefix = a.xmlPrefix)
    (hreg : ∀ ns, d.getNamespaces = some ns → ∀ m ∈ ns.decls, reg.isEnabledURI m.uri = false)
    (hcore : ∀ ns, d.getNamespaces = some ns → ∀ m ∈ ns.decls.find? (·.uri ∈ sbmlCoreURIs),
      m.uri = getSBMLNamespaceURI (d.xmlnsRevision dflt).1 (d.xmlnsRevision dflt).2) :
    ∃ fresh r, new dflt self 0 0 = some fresh ∧ d.readBack reg sev dflt fresh = some r ∧
      (∀ e ∈ r.mErrorLog.errors, e.errorId ∉ [SBMLErrorCode.invalidSBMLLevelVersion,
        .invalidNamespaceOnSBML, .missingOrInconsistentLevel, .missingOrInconsistentVersion]) ∧
      (r.mLevel, r.mVersion) = d.xmlnsRevision dflt ∧
      ∀ a, a ∈ r.mRequiredAttrOfUnknownPkg.attrs ↔ a ∈ d.mRequiredAttrOfUnknownPkg.attrs := by
  have hvalid := d.xmlnsRevision_valid dflt hrev
  obtain ⟨-, hl, -, hv⟩ := validLevelVersion_bounds hvalid
  -- what `writeXMLNS` emits
  have hdecl : ∀ a ∈ d.mRequiredAttrOfUnknownPkg.attrs,
      ⟨a.xmlPrefix, a.uri⟩ ∈ (d.writeXMLNS reg dflt).2.decls ∧
        ∀ n ∈ (d.writeXMLNS reg dflt).2.decls, n.uri = a.uri → n.xmlPrefix = a.xmlPrefix :=
    fun a ha => by
      obtain ⟨-, -, hp₁, hp₂, hl3, ns, hns, hmem, huniq⟩ := hentries a ha
      exact d.writeXMLNS_declares reg dflt ns a.uri a.xmlPrefix hns hmem huniq hp₁ hp₂ hl3
  have hen := d.writeXMLNS_not_enabled reg dflt hrev hreg
  obtain ⟨vs, hvs, hV⟩ := (coreNamespace_getSBMLNamespaceURI hvalid).2
  -- what the reader hands over
  obtain ⟨T, hread, hT⟩ := d.readAttributeList_writeAttributes dflt _ hplugins fun a ha =>
    ⟨(hentries a ha).1, (hentries a ha).2.2.1, (hdecl a ha).1⟩
  obtain ⟨hlw, hvw⟩ := d.writeAttributes_revision dflt hrev
  rw [hlw, hvw] at hT
  have hlevel : T.readUnsigned "level" = some (d.xmlnsRevision dflt).1 :=
    readUnsigned_toString T "level" _ "" "" (by simp [hT]) (by simp [UInt32.size]; omega)
  have hversion : T.readUnsigned "version" = some (d.xmlnsRevision dflt).2 :=
    readUnsigned_toString T "version" _ "" "" (by simp [hT]) (by simp [UInt32.size]; omega)
  -- the fresh document, given the emitted declarations, and the reading
  obtain ⟨fresh, hnew, htab₀, hlog₀⟩ : ∃ f, new dflt self 0 0 = some f ∧
      f.mRequiredAttrOfUnknownPkg = .empty ∧ f.mErrorLog = .empty := by
    simp only [new, and_self, if_true, dflt.valid]
    exact ⟨_, rfl, rfl, rfl⟩
  obtain ⟨h₁, h₂, htab, hlog⟩ := readAttributes_accepted_fields reg sev T
    { fresh with
      mSBMLNamespaces :=
        { fresh.mSBMLNamespaces with namespaces := some (d.writeXMLNS reg dflt).2 } }
    _ rfl hlevel hversion hvalid hen ⟨vs, (d.writeXMLNS_core reg dflt hrev hcore).trans hvs, hV⟩
  refine ⟨fresh, _, hnew, by simp only [readBack, hread]; rfl, ?_, Prod.ext h₁ h₂, ?_⟩
  · -- only the unknown packages' records
    intro e he
    rw [hlog] at he
    simp only [hlog₀, SBMLErrorLog.addAll, SBMLErrorLog.empty, List.nil_append, List.map_map,
      List.mem_map] at he
    obtain ⟨n, -, rfl⟩ := he
    rcases unknownPackageRecord_errorId sev T (d.xmlnsRevision dflt).1 (d.xmlnsRevision dflt).2 n
      with h | h <;> simp [SBMLErrorLog.overridden, h]
  · -- the table read back and the original agree on every URI
    rw [htab]
    simp only [htab₀]
    refine XMLAttributes.mem_iff_of_find?
      (name_foldl_addUnknownEntry T _ _ (by simp [XMLAttributes.empty]))
      (fun a ha => (hentries a ha).1) fun uri => ?_
    exact find?_readBack_table reg _ _ hT (fun a ha => ⟨(hentries a ha).1,
      (hentries a ha).2.1, (hentries a ha).2.2.2.2.1, hdecl a ha⟩) hen uri

/-- Level 3 Version 2 as the default revision. -/
def l3v2Default : DefaultRevision := ⟨3, 2, rfl⟩

/-- An L3V2 document declaring `baz` under one prefix, with the value `true` stored for it. -/
def bazDocument : SBMLDocument :=
  { blank 1 3 2 with
    mSBMLNamespaces := ⟨3, 2, some ⟨[⟨"", sbmlL3v2⟩, ⟨"baz", bazURI⟩], by decide⟩⟩
    mRequiredAttrOfUnknownPkg := XMLAttributes.empty.add "required" "true" bazURI "baz" }

/-- `readBack_roundTrip` on `bazDocument`, with the empty registry. -/
theorem readBack_roundTrip_bazDocument :
    ∃ fresh r, new l3v2Default 0 0 0 = some fresh ∧
      bazDocument.readBack .empty (fun _ _ _ => .error) l3v2Default fresh = some r ∧
      (∀ e ∈ r.mErrorLog.errors, e.errorId ∉ [SBMLErrorCode.invalidSBMLLevelVersion,
        .invalidNamespaceOnSBML, .missingOrInconsistentLevel, .missingOrInconsistentVersion]) ∧
      (r.mLevel, r.mVersion) = bazDocument.xmlnsRevision l3v2Default ∧
      ∀ a, a ∈ r.mRequiredAttrOfUnknownPkg.attrs ↔ a ∈ bazDocument.mRequiredAttrOfUnknownPkg.attrs :=
  readBack_roundTrip .empty _ l3v2Default 0 bazDocument (.inl rfl) rfl
    (fun a ha => by
      obtain rfl : a = ⟨"required", bazURI, "baz", "true"⟩ := List.mem_singleton.1 ha
      exact ⟨rfl, by decide, by decide, by decide, by decide, _, rfl, by decide, by decide⟩)
    (fun _ _ _ _ => rfl)
    (fun ns hns => by
      obtain rfl := (Option.some.inj hns).symm
      decide)

/-! ### Where the conditions fail -/

/-- An L3V2 document whose first core declaration is a stale Level 2 Version 4 one. -/
def staleCoreDocument : SBMLDocument :=
  { blank 1 3 2 with
    mSBMLNamespaces := ⟨3, 2, some ⟨[⟨"old", sbmlL2v4⟩, ⟨"", sbmlL3v2⟩], by decide⟩⟩ }

/-- `bazDocument` with `baz` declared under a second prefix too. -/
def twoPrefixDocument : SBMLDocument :=
  { bazDocument with
    mSBMLNamespaces := ⟨3, 2, some ⟨[⟨"", sbmlL3v2⟩, ⟨"baz", bazURI⟩, ⟨"baz2", bazURI⟩],
      by decide⟩⟩ }

/-- `bazDocument` with the empty value stored for `baz`. -/
def emptyValueDocument : SBMLDocument :=
  { bazDocument with
    mRequiredAttrOfUnknownPkg := XMLAttributes.empty.add "required" "" bazURI "baz" }

/-- `bazDocument` with no entry but a plugin for `baz`. -/
def pluginDocument : SBMLDocument :=
  { bazDocument with
    mRequiredAttrOfUnknownPkg := .empty, mPlugins := [⟨bazURI, "baz", false⟩] }

/-- The XHTML namespace, which a document may take as its default namespace. -/
def xhtmlURI : String := "http://www.w3.org/1999/xhtml"

/-- An L3V2 document without its core namespace, XHTML as its default namespace, and `baz`
    declared and stored under `addedPrefix`. -/
def addedPrefixDocument : SBMLDocument :=
  { bazDocument with
    mSBMLNamespaces := ⟨3, 2, some ⟨[⟨"", xhtmlURI⟩, ⟨"addedPrefix", bazURI⟩], by decide⟩⟩
    mRequiredAttrOfUnknownPkg := XMLAttributes.empty.add "required" "true" bazURI "addedPrefix" }

/-- Where a condition of `readBack_roundTrip` fails, so does the round trip, with the empty
    registry, which enables nothing: a stale core namespace declared first gives both
    consistency errors; an entry whose URI has a second prefix comes back under that one; an
    empty value is dropped; a plugin's `required` attribute comes back as an entry; and an
    entry under `addedPrefix` is lost when `writeXMLNS` moves the default namespace onto that
    prefix. -/
theorem readBack_counterexamples :
    let roundTrip (d : SBMLDocument) :=
      (new l3v2Default 0 0 0).bind (d.readBack .empty (fun _ _ _ => .error) l3v2Default)
    (roundTrip staleCoreDocument).map (·.mErrorLog.errors.map (·.errorId)) =
        some [.missingOrInconsistentLevel, .missingOrInconsistentVersion] ∧
      (roundTrip twoPrefixDocument).map (·.mRequiredAttrOfUnknownPkg.attrs) =
        some [⟨"required", bazURI, "baz2", "true"⟩] ∧
      (roundTrip emptyValueDocument).map (·.mRequiredAttrOfUnknownPkg.attrs) = some [] ∧
      (roundTrip pluginDocument).map (·.mRequiredAttrOfUnknownPkg.attrs) =
        some [⟨"required", bazURI, "baz", "false"⟩] ∧
      (roundTrip addedPrefixDocument).map (·.mRequiredAttrOfUnknownPkg.attrs) = some [] := by
  decide

end SBMLDocument

end LibSbml
