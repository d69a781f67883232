import LibSbml.Xml.Attributes

namespace LibSbml

/-!
# XML namespace declarations

The `<sbml>` element's namespace declarations are an `XMLNamespaces` list of (prefix, URI)
pairs. Like `XMLAttributes` the class is not among the sources; it is modelled from the spec
(§4.5: the canonical namespace is added "relocating any conflicting prefix") and from the XML
rule it implements: a prefix is bound to one URI at a time.

* `XMLNamespaces` — the declarations in order, carrying as a field that no prefix is bound twice;
* `XMLNamespaces.add` — rebinding a prefix drops its old binding, then appends;
* `getURI` / `getPrefix` / `hasNS` — the lookups `writeXMLNS` and `readAttributes` make.
-/

/-- One declaration `xmlns:prefix="uri"` (the default namespace has the empty prefix). -/
structure XMLNamespace where
  xmlPrefix : String
  uri : String
  deriving DecidableEq, Repr

/-- Modelled from the spec: `XMLNamespaces` (not in the sources) — the declarations in order,
    at most one per prefix. -/
structure XMLNamespaces where
  decls : List XMLNamespace
  nodup : (decls.map (·.xmlPrefix)).Nodup

namespace XMLNamespaces

/-- The list without the first declaration of `pfx`. -/
def erasePrefix (pfx : String) : List XMLNamespace → List XMLNamespace
  | [] => []
  | n :: l => if n.xmlPrefix = pfx then l else n :: erasePrefix pfx l

/-- `erasePrefix` removes a sublist's worth. -/
theorem erasePrefix_sublist (pfx : String) (l : List XMLNamespace) :
    (erasePrefix pfx l).Sublist l := by
  induction l with
  | nil => exact List.Sublist.slnil
  | cons n l ih =>
    by_cases h : n.xmlPrefix = pfx
    · simp [erasePrefix, h]
    · simpa [erasePrefix, h] using ih.cons₂ n

/-- With prefixes distinct, `erasePrefix` removes every binding of `pfx`. -/
theorem not_mem_erasePrefix {pfx : String} {l : List XMLNamespace}
    (h : (l.map (·.xmlPrefix)).Nodup) : pfx ∉ (erasePrefix pfx l).map (·.xmlPrefix) := by
  induction l with
  | nil => simp [erasePrefix]
  | cons n l ih =>
    simp only [List.map_cons, List.nodup_cons] at h
    by_cases hn : n.xmlPrefix = pfx
    · simpa [erasePrefix, hn] using h.1
    · simpa [erasePrefix, hn, Ne.symm hn] using ih h.2

/-- The empty declaration list. -/
def empty : XMLNamespaces := ⟨[], List.nodup_nil⟩

/-- `getLength()`. -/
def getLength (ns : XMLNamespaces) : Nat := ns.decls.length

/-- `getURI(prefix)`: the URI bound to `pfx`, the empty string when unbound. -/
def getURI (ns : XMLNamespaces) (pfx : String) : String :=
  ((ns.decls.find? (·.xmlPrefix == pfx)).map (·.uri)).getD ""

/-- `getPrefix(uri)`: the prefix of the first declaration of `uri`, the empty string when
    undeclared. -/
def getPrefix (ns : XMLNamespaces) (uri : String) : String :=
  ((ns.decls.find? (·.uri == uri)).map (·.xmlPrefix)).getD ""

/-- `hasNS(uri, prefix)`: the pair is declared. -/
def hasNS (ns : XMLNamespaces) (uri pfx : String) : Bool :=
  ns.decls.any (fun n => n.uri == uri && n.xmlPrefix == pfx)

/-- `remove(prefix)`: drops the declaration of `pfx`, if any. -/
def remove (ns : XMLNamespaces) (pfx : String) : XMLNamespaces :=
  ⟨erasePrefix pfx ns.decls, ns.nodup.sublist ((erasePrefix_sublist _ _).map _)⟩

/-- `add(uri, prefix)`: binds `pfx` to `uri`, dropping an earlier binding of `pfx`. -/
def add (ns : XMLNamespaces) (uri pfx : String) : XMLNamespaces :=
  ⟨erasePrefix pfx ns.decls ++ [⟨pfx, uri⟩], by
    rw [List.map_append]
    exact (ns.nodup.sublist ((erasePrefix_sublist _ _).map _)).append (List.nodup_singleton _)
      (by simpa using not_mem_erasePrefix ns.nodup)⟩

/-- Unfolding lemma: the declarations after `add`. -/
@[simp] theorem add_decls (ns : XMLNamespaces) (uri pfx : String) :
    (ns.add uri pfx).decls = erasePrefix pfx ns.decls ++ [⟨pfx, uri⟩] := rfl

/-- Unfolding lemma: the declarations after `remove`. -/
@[simp] theorem remove_decls (ns : XMLNamespaces) (pfx : String) :
    (ns.remove pfx).decls = erasePrefix pfx ns.decls := rfl

/-- Two declaration lists with the same declarations are equal. -/
@[ext] theorem ext {ns ns' : XMLNamespaces} (h : ns.decls = ns'.decls) : ns = ns' := by
  cases ns; cases ns'; cases h; rfl

instance : DecidableEq XMLNamespaces :=
  fun ns ns' => decidable_of_iff (ns.decls = ns'.decls) ⟨ext, congrArg _⟩

/-! ### Membership and lookups -/

/-- With prefixes distinct, `erasePrefix` drops exactly the binding of `pfx`. -/
theorem mem_erasePrefix {pfx : String} {l : List XMLNamespace} (h : (l.map (·.xmlPrefix)).Nodup)
    {n : XMLNamespace} : n ∈ erasePrefix pfx l ↔ n ∈ l ∧ n.xmlPrefix ≠ pfx := by
  induction l with
  | nil => simp [erasePrefix]
  | cons m l ih =>
    simp only [List.map_cons, List.nodup_cons] at h
    by_cases hm : m.xmlPrefix = pfx
    · simp only [erasePrefix, hm, if_true, List.mem_cons]
      constructor
      · intro hn
        exact ⟨.inr hn, fun e => h.1 (hm ▸ e ▸ List.mem_map_of_mem _ hn)⟩
      · rintro ⟨rfl | hn, hp⟩
        · exact absurd hm hp
        · exact hn
    · simp only [erasePrefix, hm, if_false, List.mem_cons, ih h.2]
      constructor
      · rintro (rfl | ⟨hl, hp⟩)
        · exact ⟨.inl rfl, hm⟩
        · exact ⟨.inr hl, hp⟩
      · rintro ⟨rfl | hl, hp⟩
        · exact .inl rfl
        · exact .inr ⟨hl, hp⟩

/-- The declarations after `remove`. -/
theorem mem_remove {ns : XMLNamespaces} {pfx : String} {n : XMLNamespace} :
    n ∈ (ns.remove pfx).decls ↔ n ∈ ns.decls ∧ n.xmlPrefix ≠ pfx :=
  mem_erasePrefix ns.nodup

/-- The declarations after `add`: the old ones of other prefixes, and the new one. -/
theorem mem_add {ns : XMLNamespaces} {uri pfx : String} {n : XMLNamespace} :
    n ∈ (ns.add uri pfx).decls ↔ (n ∈ ns.decls ∧ n.xmlPrefix ≠ pfx) ∨ n = ⟨pfx, uri⟩ := by
  simp [mem_erasePrefix ns.nodup]

/-- A declared prefix is found with its own declaration. -/
theorem find?_prefix_of_mem {ns : XMLNamespaces} {n : XMLNamespace} (h : n ∈ ns.decls) :
    ns.decls.find? (·.xmlPrefix == n.xmlPrefix) = some n := by
  obtain ⟨decls, nodup⟩ := ns
  induction decls with
  | nil => cases h
  | cons m l ih =>
    simp only [List.map_cons, List.nodup_cons] at nodup
    by_cases hm : m.xmlPrefix = n.xmlPrefix
    · -- the prefix is bound once, so `m` is `n`
      have : m = n := by
        rcases List.mem_cons.1 h with rfl | hl
        · rfl
        · exact absurd (hm ▸ List.mem_map_of_mem _ hl) nodup.1
      simp [this]
    · have hl : n ∈ l := (List.mem_cons.1 h).resolve_left fun e => hm (e ▸ rfl)
      simpa [hm] using ih nodup.2 hl

/-- `getPrefix(uri)` of a declared URI is a prefix it is declared under. -/
theorem hasNS_getPrefix {ns : XMLNamespaces} {uri : String} :
    ns.hasNS uri (ns.getPrefix uri) = true ↔ ∃ n ∈ ns.decls, n.uri = uri := by
  unfold hasNS getPrefix
  constructor
  · intro h
    obtain ⟨n, hn, hb⟩ := List.any_eq_true.1 h
    simp only [Bool.and_eq_true, beq_iff_eq] at hb
    exact ⟨n, hn, hb.1⟩
  · rintro ⟨n, hn, rfl⟩
    obtain ⟨m, hm⟩ := Option.isSome_iff_exists.1
      (List.find?_isSome.2 ⟨n, hn, by simp⟩ : (ns.decls.find? (·.uri == n.uri)).isSome)
    have hmu : m.uri = n.uri := by simpa using List.find?_some hm
    refine List.any_eq_true.2 ⟨m, List.mem_of_find?_eq_some hm, ?_⟩
    simp [hm, hmu]

/-- An undeclared URI has the empty prefix. -/
theorem getPrefix_of_not_declared {ns : XMLNamespaces} {uri : String}
    (h : ∀ n ∈ ns.decls, n.uri ≠ uri) : ns.getPrefix uri = "" := by
  have : ns.decls.find? (·.uri == uri) = none :=
    List.find?_eq_none.2 fun n hn => by simpa using h n hn
  simp [getPrefix, this]

/-- A prefix with a non-empty `getURI` is declared with that URI. -/
theorem mem_of_getURI_ne {ns : XMLNamespaces} {pfx : String} (h : ns.getURI pfx ≠ "") :
    ⟨pfx, ns.getURI pfx⟩ ∈ ns.decls := by
  unfold getURI at h ⊢
  cases hf : ns.decls.find? (·.xmlPrefix == pfx) with
  | none => simp [hf] at h
  | some n =>
    have hp : n.xmlPrefix = pfx := by simpa using List.find?_some hf
    simp only [hf, Option.map_some', Option.getD_some]
    rw [← hp]
    exact List.mem_of_find?_eq_some hf

end XMLNamespaces

end LibSbml
