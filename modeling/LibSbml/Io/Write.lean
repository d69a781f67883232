import LibSbml.Document.State

namespace LibSbml

/-!
# Writing `<sbml>` — `SBMLDocument::writeXMLNS` and `writeAttributes`

`writeXMLNS` first settles the document's own declarations: with none, or an empty list, the
core namespace of the revision becomes the default namespace; when the core namespace is
missing it is added under the prefix `getPrefix` gives it, which is then the empty one, and a
default namespace already bound there moves to the prefix `addedPrefix`. It writes the settled
list without the registered packages' Level 2 namespaces. `writeAttributes` writes the level and
the version, the plugins' attributes and the `required` attribute of every unknown package.

* `settleNamespaces`, `writeXMLNS`, `writeAttributes` — as the source has them;
* `readAttributeList` — the XML reader's side: prefixes resolved against the declarations;
* `mem_settleNamespaces` — what the settled list holds: the old declarations it keeps, the core
  namespace, and the displaced default namespace;
* `settleNamespaces_keeps`, `settleNamespaces_uri_unique`, `find?_core_settleNamespaces` — the
  facts the round trip needs about a declared URI and about the first core namespace;
* `settleNamespaces_keeps_uri` — every non-empty URI declared before is declared after, unless
  it was bound to `addedPrefix`; `writeXMLNS_overwrites_addedPrefix` — such a URI can be lost;
* `writeXMLNS_repeatable` — settling the settled declarations changes nothing, so two writes of
  an unchanged document emit the same declarations and attributes.
-/

/-- Modelled from the spec: `SBMLExtensionRegistry::removeL2Namespaces(xmlns)` (not in the
    sources) drops every declaration of a registered package's Level 2 namespace. -/
def SBMLExtensionRegistry.removeL2Namespaces (reg : SBMLExtensionRegistry) (ns : XMLNamespaces) :
    XMLNamespaces :=
  ⟨ns.decls.filter (fun n => !reg.extensions.any (n.uri ∈ ·.l2Namespaces)),
    ns.nodup.sublist ((List.filter_sublist _).map _)⟩

/-- An attribute as `XMLOutputStream::writeAttribute` puts it on the element: its prefix, its
    local name and its value. -/
structure WrittenAttribute where
  xmlPrefix : String
  name : String
  value : String
  deriving DecidableEq, Repr

variable (reg : SBMLExtensionRegistry) (dflt : DefaultRevision)

/-- The declarations `writeXMLNS` settles on for the core namespace `sbmlURI`. -/
def settleNamespaces (sbmlURI : String) : Option XMLNamespaces → XMLNamespaces
  | none => XMLNamespaces.empty.add sbmlURI ""
  | some ns =>
    if ns.getLength = 0 then ns.add sbmlURI ""
    else
      let sbmlPrefix := ns.getPrefix sbmlURI
      if ns.hasNS sbmlURI sbmlPrefix = false then
        let other := ns.getURI sbmlPrefix
        if other ≠ "" then ((ns.remove sbmlPrefix).add sbmlURI sbmlPrefix).add other "addedPrefix"
        else ns.add sbmlURI sbmlPrefix
      else ns

namespace SBMLDocument

/-- The revision `writeXMLNS` writes for: the default one in place of (0, 0). -/
def xmlnsRevision (d : SBMLDocument) : Nat × Nat :=
  if d.mLevel = 0 ∧ d.mVersion = 0 then (dflt.level, dflt.version) else (d.mLevel, d.mVersion)

/-- `writeXMLNS(stream)`: the document with its declarations settled, and the declarations
    written. -/
def writeXMLNS (d : SBMLDocument) : SBMLDocument × XMLNamespaces :=
  let thisNs := settleNamespaces
    (getSBMLNamespaceURI (d.xmlnsRevision dflt).1 (d.xmlnsRevision dflt).2) d.getNamespaces
  ({ d with mSBMLNamespaces := { d.mSBMLNamespaces with namespaces := some thisNs } },
    reg.removeL2Namespaces thisNs)

/-- Modelled from the spec: `SBase::writeExtensionAttributes` (not in the sources), each plugin
    writing its `required` flag under its prefix (§6). -/
def writeExtensionAttributes (ps : List SBasePlugin) : List WrittenAttribute :=
  ps.map fun p => ⟨p.xmlPrefix, "required", if p.required then "true" else "false"⟩

/-- `writeAttributes(stream)`: the level and the version, the default ones standing for `0`;
    the plugins' attributes; then each entry of the unknown-package table as a `required`
    attribute under its prefix. The base class's own attributes (`metaid`, `sboTerm`, …), which
    the model does not hold, are left out. -/
def writeAttributes (d : SBMLDocument) : List WrittenAttribute :=
  [⟨"", "level", toString (if d.mLevel > 0 then d.mLevel else dflt.level)⟩,
    ⟨"", "version", toString (if d.mVersion > 0 then d.mVersion else dflt.version)⟩] ++
  writeExtensionAttributes d.mPlugins ++
  d.mRequiredAttrOfUnknownPkg.attrs.map fun a => ⟨a.xmlPrefix, "required", a.value⟩

end SBMLDocument

/-! ### The settled declarations -/

/-- Without the core namespace, `getPrefix` gives it the empty prefix. -/
theorem XMLNamespaces.undeclared_of_hasNS_false {ns : XMLNamespaces} {c : String}
    (h : ns.hasNS c (ns.getPrefix c) = false) :
    (∀ m ∈ ns.decls, m.uri ≠ c) ∧ ns.getPrefix c = "" := by
  have hnd : ∀ m ∈ ns.decls, m.uri ≠ c := fun m hm hmc =>
    absurd (XMLNamespaces.hasNS_getPrefix.2 ⟨m, hm, hmc⟩) (by simp [h])
  exact ⟨hnd, XMLNamespaces.getPrefix_of_not_declared hnd⟩

/-- What the settled list holds: the core namespace, added only where it was not declared; the
    old declarations; and the displaced default namespace, under `addedPrefix`. -/
theorem mem_settleNamespaces {c : String} {ns? : Option XMLNamespaces} {n : XMLNamespace}
    (h : n ∈ (settleNamespaces c ns?).decls) :
    (n = ⟨"", c⟩ ∧ ∀ ns ∈ ns?, ∀ m ∈ ns.decls, m.uri ≠ c) ∨ (∃ ns ∈ ns?, n ∈ ns.decls) ∨
      ∃ ns ∈ ns?, n.xmlPrefix = "addedPrefix" ∧ ⟨"", n.uri⟩ ∈ ns.decls := by
  cases ns? with
  | none => simp [settleNamespaces, XMLNamespaces.empty, XMLNamespaces.erasePrefix] at h; simp [h]
  | some ns =>
    simp only [settleNamespaces] at h
    split_ifs at h with h0 hs ho
    · -- no declarations: the core namespace alone
      have he : ns.decls = [] := List.eq_nil_of_length_eq_zero h0
      rcases XMLNamespaces.mem_add.1 h with ⟨hm, -⟩ | rfl
      · simp [he] at hm
      · simp [he]
    · -- the core namespace is added, the default one moves to `addedPrefix`
      obtain ⟨hnd, hp⟩ := XMLNamespaces.undeclared_of_hasNS_false hs
      rw [hp] at h ho
      rcases XMLNamespaces.mem_add.1 h with ⟨h₁, -⟩ | rfl
      · rcases XMLNamespaces.mem_add.1 h₁ with ⟨h₂, -⟩ | rfl
        · exact .inr (.inl ⟨ns, rfl, (XMLNamespaces.mem_remove.1 h₂).1⟩)
        · exact .inl ⟨rfl, by simpa using hnd⟩
      · exact .inr (.inr ⟨ns, rfl, rfl, XMLNamespaces.mem_of_getURI_ne ho⟩)
    · -- the core namespace is added under the empty prefix
      obtain ⟨hnd, hp⟩ := XMLNamespaces.undeclared_of_hasNS_false hs
      rcases XMLNamespaces.mem_add.1 h with ⟨hm, -⟩ | rfl
      · exact .inr (.inl ⟨ns, rfl, hm⟩)
      · exact .inl ⟨by rw [hp], by simpa using hnd⟩
    · exact .inr (.inl ⟨ns, rfl, h⟩)

/-- A declaration under a prefix other than the empty one and `addedPrefix` is kept. -/
theorem settleNamespaces_keeps {c : String} {ns : XMLNamespaces} {n : XMLNamespace}
    (h : n ∈ ns.decls) (h₁ : n.xmlPrefix ≠ "") (h₂ : n.xmlPrefix ≠ "addedPrefix") :
    n ∈ (settleNamespaces c (some ns)).decls := by
  simp only [settleNamespaces]
  split_ifs with h0 hs ho
  · exact absurd (List.eq_nil_of_length_eq_zero h0 ▸ h) (List.not_mem_nil n)
  · rw [(XMLNamespaces.undeclared_of_hasNS_false hs).2]
    exact XMLNamespaces.mem_add.2 (.inl ⟨XMLNamespaces.mem_add.2 (.inl
      ⟨XMLNamespaces.mem_remove.2 ⟨h, h₁⟩, h₁⟩), h₂⟩)
  · rw [(XMLNamespaces.undeclared_of_hasNS_false hs).2]
    exact XMLNamespaces.mem_add.2 (.inl ⟨h, h₁⟩)
  · exact h

/-- A URI declared under the one prefix `p` (neither empty nor `addedPrefix`) keeps that one
    prefix in the settled list. -/
theorem settleNamespaces_uri_unique {c uri p : String} {ns : XMLNamespaces}
    (hmem : ⟨p, uri⟩ ∈ ns.decls) (huniq : ∀ m ∈ ns.decls, m.uri = uri → m.xmlPrefix = p)
    (hp : p ≠ "") :
    ∀ n ∈ (settleNamespaces c (some ns)).decls, n.uri = uri → n.xmlPrefix = p := by
  intro n hn hu
  rcases mem_settleNamespaces hn with ⟨rfl, hnd⟩ | ⟨w, hw, hn'⟩ | ⟨w, hw, -, hd⟩
  · exact absurd hu (Ne.symm (hnd ns rfl _ hmem))
  · obtain rfl := Option.mem_some_iff.1 hw
    exact huniq n hn' hu
  · obtain rfl := Option.mem_some_iff.1 hw
    exact absurd (huniq _ hd hu).symm hp

/-- A search for a property some element of the list has succeeds. -/
theorem List.exists_find?_eq_some {α : Type} {q : α → Bool} {l : List α} {x : α} (hx : x ∈ l)
    (hq : q x = true) : ∃ y, l.find? q = some y :=
  Option.isSome_iff_exists.1 (List.find?_isSome.2 ⟨x, hx, hq⟩)

/-- If a list holds `y`, and `y` is the only element satisfying `q`, the search finds it. -/
theorem List.find?_eq_some_of_unique {α : Type} {q : α → Bool} {l : List α} {y : α}
    (hy : y ∈ l) (hq : q y = true) (huniq : ∀ x ∈ l, q x = true → x = y) : l.find? q = some y := by
  obtain ⟨z, hz⟩ := List.exists_find?_eq_some hy hq
  rw [hz, huniq z (List.mem_of_find?_eq_some hz) (List.find?_some hz)]

/-- Where the core namespace is not declared, the settled list declares it under the empty
    prefix. -/
theorem core_mem_settleNamespaces {c : String} {ns? : Option XMLNamespaces}
    (hnd : ∀ ns ∈ ns?, ∀ m ∈ ns.decls, m.uri ≠ c) : ⟨"", c⟩ ∈ (settleNamespaces c ns?).decls := by
  cases ns? with
  | none => simp [settleNamespaces, XMLNamespaces.empty, XMLNamespaces.erasePrefix]
  | some ns =>
    simp only [settleNamespaces]
    split_ifs with h0 hs ho
    · exact XMLNamespaces.mem_add.2 (.inr rfl)
    · rw [(XMLNamespaces.undeclared_of_hasNS_false hs).2]
      exact XMLNamespaces.mem_add.2 (.inl ⟨XMLNamespaces.mem_add.2 (.inr rfl), by simp⟩)
    · rw [(XMLNamespaces.undeclared_of_hasNS_false hs).2]
      exact XMLNamespaces.mem_add.2 (.inr rfl)
    · exact absurd (XMLNamespaces.hasNS_getPrefix.1 (by simpa using hs)) (by simpa using hnd ns rfl)

/-- Where the core namespace is declared, the settled list is the document's own. -/
theorem settleNamespaces_of_declared {c : String} {ns : XMLNamespaces}
    (hd : ∃ m ∈ ns.decls, m.uri = c) : settleNamespaces c (some ns) = ns := by
  have h0 : ns.getLength ≠ 0 := by
    obtain ⟨m, hm, -⟩ := hd
    exact (List.length_pos_of_mem hm).ne'
  simp [settleNamespaces, h0, XMLNamespaces.hasNS_getPrefix.2 hd]

/-- When the first core namespace declared, if any, is `c`, then so it is after settling, with
    `c` itself one of the core namespaces. -/
theorem find?_core_settleNamespaces {c : String} {ns? : Option XMLNamespaces}
    (hc : c ∈ sbmlCoreURIs)
    (hfirst : ∀ ns ∈ ns?, ∀ n ∈ ns.decls.find? (·.uri ∈ sbmlCoreURIs), n.uri = c) :
    ∃ n, (settleNamespaces c ns?).decls.find? (·.uri ∈ sbmlCoreURIs) = some n ∧ n.uri = c := by
  -- where the core namespace is added, nothing declared before it is a core namespace
  have hadded : (∀ ns ∈ ns?, ∀ m ∈ ns.decls, m.uri ≠ c) →
      (settleNamespaces c ns?).decls.find? (·.uri ∈ sbmlCoreURIs) = some ⟨"", c⟩ := by
    intro hnd
    have hnocore : ∀ ns ∈ ns?, ∀ m ∈ ns.decls, m.uri ∉ sbmlCoreURIs := fun ns hns m hm hmc => by
      obtain ⟨y, hy⟩ : ∃ y, ns.decls.find? (·.uri ∈ sbmlCoreURIs) = some y :=
        List.exists_find?_eq_some hm (by simpa using hmc)
      exact hnd ns hns y (List.mem_of_find?_eq_some hy) (hfirst ns hns y hy)
    refine List.find?_eq_some_of_unique (core_mem_settleNamespaces hnd) (by simpa using hc)
      fun x hx hxc => ?_
    rcases mem_settleNamespaces hx with ⟨rfl, -⟩ | ⟨ns, hns, hx'⟩ | ⟨ns, hns, -, hd⟩
    · rfl
    · exact absurd (by simpa using hxc) (hnocore ns hns x hx')
    · exact absurd (by simpa using hxc) (hnocore ns hns _ hd)
  cases ns? with
  | none => exact ⟨_, hadded (by simp), rfl⟩
  | some ns =>
    by_cases hd : ∃ m ∈ ns.decls, m.uri = c
    · -- the core namespace was declared: nothing changes
      obtain ⟨m, hm, hmc⟩ := hd
      obtain ⟨y, hy⟩ : ∃ y, ns.decls.find? (·.uri ∈ sbmlCoreURIs) = some y :=
        List.exists_find?_eq_some hm (by simpa [hmc] using hc)
      exact ⟨y, by rw [settleNamespaces_of_declared ⟨m, hm, hmc⟩]; exact hy, hfirst ns rfl y hy⟩
    · push_neg at hd
      exact ⟨_, hadded (fun ns' hns' => by cases hns'; exact hd), rfl⟩

/-! ### What the settling keeps -/

/-- A URI declared before settling is declared after it, unless the URI is empty or was bound to
    `addedPrefix`: a declaration under another prefix than the empty one stays, and the default
    namespace, when the core namespace takes its prefix, moves to `addedPrefix`. -/
theorem settleNamespaces_keeps_uri {c : String} {ns : XMLNamespaces} {m : XMLNamespace}
    (hm : m ∈ ns.decls) (hu : m.uri ≠ "") (hp : m.xmlPrefix ≠ "addedPrefix") :
    ∃ n ∈ (settleNamespaces c (some ns)).decls, n.uri = m.uri := by
  by_cases hp₀ : m.xmlPrefix = ""
  swap
  · exact ⟨m, settleNamespaces_keeps hm hp₀ hp, rfl⟩
  by_cases hd : ∃ k ∈ ns.decls, k.uri = c
  · rw [settleNamespaces_of_declared hd]
    exact ⟨m, hm, rfl⟩
  -- the core namespace takes the empty prefix, and `m`, bound there, moves to `addedPrefix`
  push_neg at hd
  have hsp : ns.getPrefix c = "" := XMLNamespaces.getPrefix_of_not_declared hd
  have hs : ns.hasNS c "" = false :=
    Bool.eq_false_iff.2 fun h => by
      obtain ⟨k, hk, hkc⟩ := XMLNamespaces.hasNS_getPrefix.1 (hsp ▸ h)
      exact hd k hk hkc
  have hfind := XMLNamespaces.find?_prefix_of_mem hm
  rw [hp₀] at hfind
  have hother : ns.getURI "" = m.uri := by simp [XMLNamespaces.getURI, hfind]
  have h0 : ns.getLength ≠ 0 := (List.length_pos_of_mem hm).ne'
  refine ⟨⟨"addedPrefix", m.uri⟩, ?_, rfl⟩
  simp only [settleNamespaces, h0, if_false, hsp, hs, hother, ne_eq, hu, not_false_eq_true,
    if_true]
  exact XMLNamespaces.mem_add.2 (.inr rfl)

/-- An L3V2 document without its core namespace, with XHTML as its default namespace and a
    package namespace declared under `addedPrefix`. -/
def displacedDefaultDocument : SBMLDocument :=
  { SBMLDocument.blank 1 3 2 with
    mSBMLNamespaces := ⟨3, 2, some ⟨[⟨"", "http://www.w3.org/1999/xhtml"⟩,
      ⟨"addedPrefix", "http://www.sbml.org/sbml/level3/version1/baz/version1"⟩], by decide⟩⟩ }

/-- `writeXMLNS` moves the displaced default namespace onto `addedPrefix` without checking that
    the prefix is free: the package namespace bound there is no longer declared. -/
theorem writeXMLNS_overwrites_addedPrefix (reg : SBMLExtensionRegistry) (dflt : DefaultRevision) :
    ((displacedDefaultDocument.writeXMLNS reg dflt).1.getNamespaces).map (·.decls) =
      some [⟨"", sbmlL3v2⟩, ⟨"addedPrefix", "http://www.w3.org/1999/xhtml"⟩] :=
  rfl

/-! ### Writing twice -/

/-- After settling, the core namespace is declared. -/
theorem declares_settleNamespaces (c : String) (ns? : Option XMLNamespaces) :
    ∃ m ∈ (settleNamespaces c ns?).decls, m.uri = c := by
  cases ns? with
  | none => exact ⟨_, core_mem_settleNamespaces (by simp), rfl⟩
  | some ns =>
    by_cases hd : ∃ m ∈ ns.decls, m.uri = c
    · rw [settleNamespaces_of_declared hd]
      exact hd
    · push_neg at hd
      exact ⟨_, core_mem_settleNamespaces (fun ns' hns' => by cases hns'; exact hd), rfl⟩

/-- Settling the settled declarations changes nothing. -/
theorem settleNamespaces_idem (c : String) (ns? : Option XMLNamespaces) :
    settleNamespaces c (some (settleNamespaces c ns?)) = settleNamespaces c ns? :=
  settleNamespaces_of_declared (declares_settleNamespaces c ns?)

namespace SBMLDocument

/-- Unfolding lemma: `writeXMLNS` keeps the revision. -/
@[simp] theorem xmlnsRevision_writeXMLNS (d : SBMLDocument) :
    (d.writeXMLNS reg dflt).1.xmlnsRevision dflt = d.xmlnsRevision dflt := rfl

/-- Unfolding lemma: the declarations `writeXMLNS` stores. -/
@[simp] theorem getNamespaces_writeXMLNS (d : SBMLDocument) :
    (d.writeXMLNS reg dflt).1.getNamespaces = some (settleNamespaces
      (getSBMLNamespaceURI (d.xmlnsRevision dflt).1 (d.xmlnsRevision dflt).2) d.getNamespaces) :=
  rfl

/-- Unfolding lemma: `writeXMLNS` changes nothing `writeAttributes` reads. -/
@[simp] theorem writeAttributes_writeXMLNS (d : SBMLDocument) :
    (d.writeXMLNS reg dflt).1.writeAttributes dflt = d.writeAttributes dflt := rfl

/-- Writing the root is repeatable: on the document a first `writeXMLNS` leaves, a second one
    changes nothing and emits the same declarations, and `writeAttributes` emits the same
    attributes. -/
theorem writeXMLNS_repeatable (d : SBMLDocument) :
    let d₁ := (d.writeXMLNS reg dflt).1
    d₁.writeXMLNS reg dflt = (d₁, (d.writeXMLNS reg dflt).2) ∧
      d₁.writeAttributes dflt = d.writeAttributes dflt := by
  intro d₁
  refine ⟨?_, writeAttributes_writeXMLNS reg dflt d⟩
  have hrev : d₁.xmlnsRevision dflt = d.xmlnsRevision dflt := xmlnsRevision_writeXMLNS reg dflt d
  have hns : d₁.getNamespaces = some (settleNamespaces
      (getSBMLNamespaceURI (d.xmlnsRevision dflt).1 (d.xmlnsRevision dflt).2) d.getNamespaces) :=
    getNamespaces_writeXMLNS reg dflt d
  simp only [writeXMLNS, hns, hrev, settleNamespaces_idem]
  rfl

end SBMLDocument

/-- Modelled from the spec: the XML reader (not in the sources) gives an unprefixed attribute
    no namespace and a prefixed one the URI its prefix is bound to; `none` for an unbound
    prefix. -/
def resolveAttribute (ns : XMLNamespaces) (w : WrittenAttribute) : Option XMLAttribute :=
  if w.xmlPrefix = "" then some ⟨w.name, "", "", w.value⟩
  else (ns.decls.find? (·.xmlPrefix == w.xmlPrefix)).map fun n =>
    ⟨w.name, n.uri, w.xmlPrefix, w.value⟩

/-- The attributes the reader hands to `readAttributes`; `none` where it rejects the element:
    an unbound prefix, or two attributes of one name and namespace. -/
def readAttributeList (ns : XMLNamespaces) (ws : List WrittenAttribute) : Option XMLAttributes :=
  match ws.mapM (resolveAttribute ns) with
  | none => none
  | some attrs => if h : (attrs.map XMLAttribute.key).Nodup then some ⟨attrs, h⟩ else none

end LibSbml
