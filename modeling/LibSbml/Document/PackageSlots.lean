import LibSbml.Document.Reachable

namespace LibSbml

/-!
# Package slots — the two unknown-package tables as one store

`enablePackageInternal` moves an unknown package's `required` attribute between
`mRequiredAttrOfUnknownPkg` and `mRequiredAttrOfUnknownDisabledPkg`. What the two tables are for
is one store with a slot per package URI, in use or parked, holding the prefix the package was
declared with and its `required` value, in which switching `(uri, prefix)` flips the slot of
`uri` when it was declared with `prefix`, and touches nothing else.

* `PackageSlot`, `PackageSlots.switch`, `PackageSlots.run` — the abstract store;
  `PackageSlots.run_apply` — after any run a slot keeps its prefix and value and is in use as
  the last switch of its URI and prefix says;
* `SBMLDocument.packageSlots` — the abstraction of a document's two tables, faithful under
  `PackageTablesOK`: both tables well formed, no package in both;
* `moveEntry_spec` — the move both branches of `enablePackageInternal` make;
* `enablePackageInternal_refines`, `enablePackages_refines` — one call, and any run of calls,
  is the abstract switch and keeps the invariant;
* `switches_keep_packages` — over any run of switches no package's entry is lost, duplicated or
  altered, and it is in use exactly when the last switch of its URI and prefix enabled it;
* `switches_observed` — after any run of switches `hasUnknownPackage` and
  `isDisabledIgnoredPackage` report the slot's last switch;
* `Switched`, `switched_exclusive` — in a document read from a file and then switched, no
  package is both an unknown package and a disabled ignored one.
-/

/-! ### The abstract store -/

/-- What a document keeps of an unknown package: whether its `required` attribute is in use (in
    `mRequiredAttrOfUnknownPkg`) or parked by a disabling (in
    `mRequiredAttrOfUnknownDisabledPkg`), the prefix the package was declared with, and the
    value. -/
structure PackageSlot where
  active : Bool
  xmlPrefix : String
  value : String
  deriving DecidableEq, Repr

/-- A switch of `pfx` sets the flag of a slot declared with `pfx`, and leaves any other. -/
def PackageSlot.switch (pfx : String) (flag : Bool) (e : PackageSlot) : PackageSlot :=
  if e.xmlPrefix = pfx then { e with active := flag } else e

/-- A slot already in the state a switch asks for stays as it is. -/
theorem PackageSlot.switch_of_active {e : PackageSlot} {flag : Bool} (h : e.active = flag)
    (pfx : String) : e.switch pfx flag = e := by
  unfold switch
  split_ifs
  · rw [← h]
  · rfl

namespace PackageSlots

/-- Switching `(uri, pfx)` on or off: the slot of `uri` switches, every other slot stays. -/
def switch (s : String → Option PackageSlot) (uri pfx : String) (flag : Bool) :
    String → Option PackageSlot :=
  fun u => if u = uri then (s u).map (PackageSlot.switch pfx flag) else s u

/-- A run of switches, each `(uri, pfx, flag)`, in order. -/
def run (s : String → Option PackageSlot) (sw : List (String × String × Bool)) :
    String → Option PackageSlot :=
  sw.foldl (fun s x => switch s x.1 x.2.1 x.2.2) s

/-- The flag of the last switch of `(uri, pfx)` in a run, if there is one. -/
def lastSwitch (uri pfx : String) (sw : List (String × String × Bool)) : Option Bool :=
  ((sw.filter fun x => x.1 == uri && x.2.1 == pfx).getLast?).map (·.2.2)

/-- A switch at the end of a run is the last one of its URI and prefix. -/
theorem lastSwitch_concat (uri pfx : String) (sw : List (String × String × Bool))
    (x : String × String × Bool) :
    lastSwitch uri pfx (sw ++ [x]) =
      if x.1 = uri ∧ x.2.1 = pfx then some x.2.2 else lastSwitch uri pfx sw := by
  by_cases hx : x.1 = uri ∧ x.2.1 = pfx
  · simp [lastSwitch, hx, List.getLast?_concat]
  · have hx' : (x.1 == uri && x.2.1 == pfx) = false := by simpa using hx
    simp only [lastSwitch, List.filter_append, List.filter_cons, hx', List.filter_nil,
      List.append_nil, if_neg hx, Bool.false_eq_true, if_false]

/-- **A slot survives every run.** After any run of switches each slot keeps its prefix and its
    value, and is in use as the last switch of its URI and prefix says, or as before when there
    is none; no slot appears or disappears. -/
theorem run_apply (s : String → Option PackageSlot) (sw : List (String × String × Bool))
    (u : String) :
    run s sw u = (s u).map fun e =>
      { e with active := (lastSwitch u e.xmlPrefix sw).getD e.active } := by
  induction sw using List.reverseRecOn with
  | nil =>
    simp only [run, List.foldl_nil]
    cases s u <;> rfl
  | append_singleton sw x ih =>
    have hrun : run s (sw ++ [x]) = switch (run s sw) x.1 x.2.1 x.2.2 := by
      simp only [run, List.foldl_append, List.foldl_cons, List.foldl_nil]
    rw [hrun]
    simp only [switch, ih, lastSwitch_concat]
    by_cases hu : u = x.1
    · rw [if_pos hu]
      cases s u with
      | none => rfl
      | some e =>
        by_cases hp : e.xmlPrefix = x.2.1
        · simp [PackageSlot.switch, hp, hu]
        · simp [PackageSlot.switch, hp, hu, Ne.symm hp]
    · simp [hu, Ne.symm hu]

end PackageSlots

/-! ### The entry of a package -/

/-- The `required` attribute a table holds for the package `uri`, the one
    `getValue("required", uri)` reads. -/
def requiredEntry (t : XMLAttributes) (uri : String) : Option XMLAttribute :=
  t.attrs.find? (·.key == ("required", uri))

/-- What the search finds is an entry of the table, for that URI. -/
theorem requiredEntry_mem {t : XMLAttributes} {uri : String} {a : XMLAttribute}
    (h : requiredEntry t uri = some a) : a ∈ t.attrs ∧ a.uri = uri := by
  have hk := List.find?_some h
  simp only [beq_iff_eq, XMLAttribute.key, Prod.mk.injEq] at hk
  exact ⟨List.mem_of_find?_eq_some h, hk.2⟩

/-- In a well-formed table, an entry is its URI's entry. -/
theorem TableWellFormed.requiredEntry_of_mem {t : XMLAttributes} (h : TableWellFormed t)
    {a : XMLAttribute} (ha : a ∈ t.attrs) : requiredEntry t a.uri = some a := by
  have hk : ("required", a.uri) = a.key := by simp [XMLAttribute.key, h.named a ha]
  rw [requiredEntry, hk]
  exact XMLAttributes.find?_key_of_mem ha

/-- `add` of a `required` attribute sets the entry of its URI. -/
theorem requiredEntry_add (t : XMLAttributes) (value uri pfx w : String) :
    requiredEntry (t.add "required" value uri pfx) w =
      if w = uri then some ⟨"required", uri, pfx, value⟩ else requiredEntry t w := by
  unfold requiredEntry
  split_ifs with hw
  · subst hw
    exact find_addAttr_self ⟨"required", w, pfx, value⟩ t.attrs
  · rw [XMLAttributes.add_attrs, find_addAttr_ne _ (by simp [XMLAttribute.key, Ne.symm hw])]

/-- Removing the position of an entry removes the entry of its key, and only that. -/
theorem requiredEntry_remove {t : XMLAttributes} {l₁ l₂ : List XMLAttribute} {e : XMLAttribute}
    (ht : t.attrs = l₁ ++ e :: l₂) (w : String) :
    requiredEntry (t.remove l₁.length) w =
      if e.key = ("required", w) then none else requiredEntry t w := by
  have hr : (t.remove l₁.length).attrs = l₁ ++ l₂ := by
    rw [XMLAttributes.remove_attrs, ht, List.eraseIdx_append_of_length_le le_rfl, Nat.sub_self,
      List.eraseIdx_cons_zero]
  unfold requiredEntry
  rw [hr]
  split_ifs with he
  · -- the key of `e` occurs once in the table
    have hnd := t.nodup
    rw [ht, List.map_append, List.map_cons, List.nodup_middle, List.nodup_cons,
      ← List.map_append] at hnd
    refine List.find?_eq_none.2 fun x hx hk => hnd.1 ?_
    rw [he, ← beq_iff_eq.1 hk]
    exact List.mem_map_of_mem _ hx
  · rw [ht]
    simp [List.find?_append, List.find?_cons, he]

namespace SBMLDocument

variable (reg : SBMLExtensionRegistry) (sev : SBMLErrorCode → Nat → Nat → Severity)

/-! ### The abstraction -/

/-- The slot of a package whose entry in use is `u` and parked entry is `p`. -/
def slotOf : Option XMLAttribute → Option XMLAttribute → Option PackageSlot
  | some a, _ => some ⟨true, a.xmlPrefix, a.value⟩
  | none, p => p.map fun a => ⟨false, a.xmlPrefix, a.value⟩

/-- The abstraction of a document's two unknown-package tables. -/
def packageSlots (d : SBMLDocument) (uri : String) : Option PackageSlot :=
  slotOf (requiredEntry d.mRequiredAttrOfUnknownPkg uri)
    (requiredEntry d.mRequiredAttrOfUnknownDisabledPkg uri)

/-- The invariant under which the abstraction loses nothing: both tables well formed, and no
    package with an entry in both. -/
structure PackageTablesOK (d : SBMLDocument) : Prop where
  wellFormed : TablesWellFormed d
  disjoint : ∀ uri, requiredEntry d.mRequiredAttrOfUnknownPkg uri = none ∨
    requiredEntry d.mRequiredAttrOfUnknownDisabledPkg uri = none

/-- A document with well-formed tables and nothing parked satisfies the invariant. -/
theorem PackageTablesOK.of_disabled_empty {d : SBMLDocument} (h : TablesWellFormed d)
    (hd : d.mRequiredAttrOfUnknownDisabledPkg = .empty) : PackageTablesOK d :=
  ⟨h, fun _ => .inr (by rw [hd]; rfl)⟩

/-! ### The move -/

/-- The move both branches of `enablePackageInternal` make: the first entry of `(uri, pfx)` in
    `A` is removed from `A` and added to `B`. -/
def moveEntry (A B : XMLAttributes) (uri pfx : String) : XMLAttributes × XMLAttributes :=
  match indexOfPackage A uri pfx with
  | some i => (A.remove i, B.add (A.getName i) (A.getValueAt i) uri pfx)
  | none => (A, B)

/-- Disabling moves from the unknown table to the disabled one. -/
theorem enablePackageInternal_false_moveEntry (d : SBMLDocument) (uri pfx : String) :
    let d' := d.enablePackageInternal reg uri pfx false
    (d'.mRequiredAttrOfUnknownPkg, d'.mRequiredAttrOfUnknownDisabledPkg) =
      moveEntry d.mRequiredAttrOfUnknownPkg d.mRequiredAttrOfUnknownDisabledPkg uri pfx :=
  enablePackageInternal_false_tables reg d uri pfx

/-- Enabling moves from the disabled table to the unknown one. -/
theorem enablePackageInternal_true_moveEntry (d : SBMLDocument) (uri pfx : String) :
    let d' := d.enablePackageInternal reg uri pfx true
    (d'.mRequiredAttrOfUnknownDisabledPkg, d'.mRequiredAttrOfUnknownPkg) =
      moveEntry d.mRequiredAttrOfUnknownDisabledPkg d.mRequiredAttrOfUnknownPkg uri pfx := by
  have ht := enablePackageInternal_true_tables reg d uri pfx
  dsimp only at ht ⊢
  rw [Prod.ext_iff] at ht ⊢
  unfold moveEntry
  split <;> simp_all

/-- **The move.** From a well-formed `A`, the entry of `uri` moves to `B` when it was declared
    with `pfx`; every other entry of both tables stays. -/
theorem moveEntry_spec {A : XMLAttributes} (hA : TableWellFormed A) (B : XMLAttributes)
    (uri pfx w : String) :
    requiredEntry (moveEntry A B uri pfx).1 w =
        (if w = uri ∧ (requiredEntry A uri).any (·.xmlPrefix == pfx) then none
          else requiredEntry A w) ∧
      requiredEntry (moveEntry A B uri pfx).2 w =
        (if w = uri ∧ (requiredEntry A uri).any (·.xmlPrefix == pfx) then requiredEntry A uri
          else requiredEntry B w) := by
  unfold moveEntry
  cases hi : indexOfPackage A uri pfx with
  | none =>
    -- no entry of `uri` is declared with `pfx`
    have hno : (requiredEntry A uri).any (·.xmlPrefix == pfx) = false := by
      cases ha : requiredEntry A uri with
      | none => rfl
      | some a =>
        have := firstIndex_eq_none.1 hi a (requiredEntry_mem ha).1
        simpa [(requiredEntry_mem ha).2] using this
    simp [hno]
  | some i =>
    obtain ⟨l₁, e, l₂, hsplit, rfl, he, -⟩ := firstIndex_eq_some hi
    have heu : e.uri = uri ∧ e.xmlPrefix = pfx := by simpa using he
    have hmem : e ∈ A.attrs := hsplit ▸ List.mem_append_right _ (List.mem_cons_self _ _)
    have hname := hA.named e hmem
    have hentry : requiredEntry A uri = some e := heu.1 ▸ hA.requiredEntry_of_mem hmem
    have hkey : e.key = ("required", uri) := by simp [XMLAttribute.key, hname, heu.1]
    have he' : (⟨"required", uri, pfx, e.value⟩ : XMLAttribute) = e := by
      rw [← hname, ← heu.1, ← heu.2]
    simp only [requiredEntry_remove hsplit, XMLAttributes.getName, XMLAttributes.getValueAt,
      XMLAttributes.getElem?_split hsplit, Option.map_some', Option.getD_some, hname,
      requiredEntry_add, hkey, hentry, he', Option.any_some, heu.2, beq_self_eq_true, and_true,
      Prod.mk.injEq, true_and, eq_comm (a := uri)]

/-- A move out of a well-formed table keeps two tables from sharing a package. -/
theorem moveEntry_disjoint {A B : XMLAttributes} (hA : TableWellFormed A)
    (hd : ∀ w, requiredEntry A w = none ∨ requiredEntry B w = none) (uri pfx w : String) :
    requiredEntry (moveEntry A B uri pfx).1 w = none ∨
      requiredEntry (moveEntry A B uri pfx).2 w = none := by
  obtain ⟨h₁, h₂⟩ := moveEntry_spec hA B uri pfx w
  rw [h₁, h₂]
  split_ifs
  · exact .inl rfl
  · exact hd w

/-! ### One switch, and a run of switches -/

/-- **`enablePackageInternal` refines the abstract switch.** On a document whose tables are well
    formed and share no package, `enablePackageInternal(uri, pfx, flag)` keeps that invariant,
    and its tables are those of the abstract store after switching `(uri, pfx)` to `flag`. -/
theorem enablePackageInternal_refines (d : SBMLDocument) (uri pfx : String) (flag : Bool)
    (h : PackageTablesOK d) :
    let d' := d.enablePackageInternal reg uri pfx flag
    PackageTablesOK d' ∧ packageSlots d' = PackageSlots.switch (packageSlots d) uri pfx flag := by
  intro d'
  have hwf := tablesWellFormed_enablePackageInternal reg d uri pfx flag h.wellFormed
  set U := d.mRequiredAttrOfUnknownPkg
  set D := d.mRequiredAttrOfUnknownDisabledPkg
  cases flag with
  | false =>
    have ht := enablePackageInternal_false_moveEntry reg d uri pfx
    rw [Prod.ext_iff] at ht
    have hm := moveEntry_spec h.wellFormed.unknown D uri pfx
    have hdis := moveEntry_disjoint h.wellFormed.unknown h.disjoint uri pfx
    simp only [← ht.1, ← ht.2] at hm hdis
    refine ⟨⟨hwf, hdis⟩, funext fun w => ?_⟩
    obtain ⟨h₁, h₂⟩ := hm w
    simp only [packageSlots, h₁, h₂, PackageSlots.switch]
    by_cases hw : w = uri
    · subst hw
      cases hU : requiredEntry U w with
      | none =>
        cases requiredEntry D w <;>
          simp [slotOf, PackageSlot.switch_of_active]
      | some a =>
        by_cases hp : a.xmlPrefix = pfx <;> simp [slotOf, PackageSlot.switch, hp]
    · simp [hw]
  | true =>
    have ht := enablePackageInternal_true_moveEntry reg d uri pfx
    rw [Prod.ext_iff] at ht
    have hm := moveEntry_spec h.wellFormed.disabled U uri pfx
    have hdis := moveEntry_disjoint h.wellFormed.disabled (fun w => (h.disjoint w).symm) uri pfx
    simp only [← ht.1, ← ht.2] at hm hdis
    refine ⟨⟨hwf, fun w => (hdis w).symm⟩, funext fun w => ?_⟩
    obtain ⟨h₁, h₂⟩ := hm w
    simp only [packageSlots, h₁, h₂, PackageSlots.switch]
    by_cases hw : w = uri
    · subst hw
      cases hD : requiredEntry D w with
      | none =>
        cases requiredEntry U w <;>
          simp [slotOf, PackageSlot.switch_of_active]
      | some b =>
        -- a parked package has no entry in use
        have hU : requiredEntry U w = none := (h.disjoint w).resolve_right (by simp [hD])
        by_cases hp : b.xmlPrefix = pfx <;> simp [slotOf, PackageSlot.switch, hp, hU]
    · simp [hw]

/-- A run of `enablePackageInternal` calls, each `(pkgURI, pkgPrefix, flag)`, in order. -/
def enablePackages (d : SBMLDocument) (sw : List (String × String × Bool)) : SBMLDocument :=
  sw.foldl (fun d x => d.enablePackageInternal reg x.1 x.2.1 x.2.2) d

/-- Any run of switches refines the abstract run, and keeps the invariant. -/
theorem enablePackages_refines (d : SBMLDocument) (sw : List (String × String × Bool))
    (h : PackageTablesOK d) :
    PackageTablesOK (d.enablePackages reg sw) ∧
      packageSlots (d.enablePackages reg sw) = PackageSlots.run (packageSlots d) sw := by
  induction sw generalizing d with
  | nil => exact ⟨h, rfl⟩
  | cons x sw ih =>
    obtain ⟨h₁, e₁⟩ := enablePackageInternal_refines reg d x.1 x.2.1 x.2.2 h
    obtain ⟨h₂, e₂⟩ := ih _ h₁
    exact ⟨h₂, e₂.trans (congrArg (PackageSlots.run · sw) e₁)⟩

/-- **Switching never loses a package.** On a document whose tables are well formed and share no
    package, any run of `enablePackageInternal` calls keeps that invariant and is the abstract run
    of switches; so the slot of every URI is the one it had, with the same prefix and `required`
    value, in use exactly when the last call on the URI and that prefix enabled it, and as before
    when there was no such call. -/
theorem switches_keep_packages (d : SBMLDocument) (sw : List (String × String × Bool))
    (h : PackageTablesOK d) :
    PackageTablesOK (d.enablePackages reg sw) ∧
      packageSlots (d.enablePackages reg sw) = PackageSlots.run (packageSlots d) sw ∧
      ∀ uri, packageSlots (d.enablePackages reg sw) uri = (packageSlots d uri).map fun e =>
        { e with active := (PackageSlots.lastSwitch uri e.xmlPrefix sw).getD e.active } := by
  obtain ⟨hok, hrun⟩ := enablePackages_refines reg d sw h
  exact ⟨hok, hrun, fun uri => by rw [hrun, PackageSlots.run_apply]⟩

/-- `switches_keep_packages` on `unknownFooDocument`: `foo` disabled, enabled under another
    prefix, disabled again. -/
theorem switches_keep_packages_unknownFoo :
    let sw := [(fooURI, "foo", false), (fooURI, "foo2", true), (fooURI, "foo", false)]
    let d := unknownFooDocument
    PackageTablesOK d ∧
      PackageTablesOK (d.enablePackages .empty sw) ∧
      packageSlots (d.enablePackages .empty sw) = PackageSlots.run (packageSlots d) sw ∧
      ∀ uri, packageSlots (d.enablePackages .empty sw) uri = (packageSlots d uri).map fun e =>
        { e with active := (PackageSlots.lastSwitch uri e.xmlPrefix sw).getD e.active } :=
  have h : PackageTablesOK unknownFooDocument :=
    .of_disabled_empty ⟨⟨by decide, by decide⟩, ⟨by decide, by decide⟩⟩ rfl
  ⟨h, switches_keep_packages .empty unknownFooDocument _ h⟩

example : packageSlots (unknownFooDocument.enablePackages .empty
    [(fooURI, "foo", false), (fooURI, "foo2", true)]) fooURI = some ⟨false, "foo", "true"⟩ := by
  decide

/-! ### What the observers see -/

/-- `getValue("required", uri)` reads the entry of `uri`. -/
theorem getValue_required (t : XMLAttributes) (uri : String) :
    t.getValue "required" uri = ((requiredEntry t uri).map (·.value)).getD "" := rfl

/-- Under the invariant, `hasUnknownPackage` says that the package's slot is in use. -/
theorem hasUnknownPackage_eq_slot {d : SBMLDocument} (h : PackageTablesOK d) (uri : String) :
    d.hasUnknownPackage uri = (packageSlots d uri).any (·.active) := by
  simp only [hasUnknownPackage, getValue_required, packageSlots]
  cases hU : requiredEntry d.mRequiredAttrOfUnknownPkg uri with
  | none => cases requiredEntry d.mRequiredAttrOfUnknownDisabledPkg uri <;> rfl
  | some a => simpa [slotOf] using h.wellFormed.unknown.valued a (requiredEntry_mem hU).1

/-- Under the invariant, a value in the disabled table says that the package's slot is
    parked. -/
theorem parked_eq_slot {d : SBMLDocument} (h : PackageTablesOK d) (uri : String) :
    (d.mRequiredAttrOfUnknownDisabledPkg.getValue "required" uri != "") =
      (packageSlots d uri).any (!·.active) := by
  simp only [getValue_required, packageSlots]
  cases hD : requiredEntry d.mRequiredAttrOfUnknownDisabledPkg uri with
  | none => cases requiredEntry d.mRequiredAttrOfUnknownPkg uri <;> rfl
  | some b =>
    have hU : requiredEntry d.mRequiredAttrOfUnknownPkg uri = none :=
      (h.disjoint uri).resolve_right (by simp [hD])
    simpa [hU, slotOf] using h.wellFormed.disabled.valued b (requiredEntry_mem hD).1

/-- **What the observers report after any run of switches.** On a document whose tables are well
    formed and share no package, after any run of `enablePackageInternal` calls,
    `hasUnknownPackage(uri)` holds exactly when `uri` had an unknown package's entry and the last
    call on `uri` and the prefix it was declared with enabled it (with no such call, when it was
    in use); `isDisabledIgnoredPackage(uri)` holds exactly when no plugin of `uri` is attached and
    that entry ends parked. -/
theorem switches_observed (d : SBMLDocument) (sw : List (String × String × Bool))
    (h : PackageTablesOK d) (uri : String) :
    (d.enablePackages reg sw).hasUnknownPackage uri = (packageSlots d uri).any
        (fun e => (PackageSlots.lastSwitch uri e.xmlPrefix sw).getD e.active) ∧
      (d.enablePackages reg sw).isDisabledIgnoredPackage uri =
        (!(d.enablePackages reg sw).isPackageURIEnabled uri && (packageSlots d uri).any
          (fun e => !(PackageSlots.lastSwitch uri e.xmlPrefix sw).getD e.active)) := by
  obtain ⟨hok, hrun⟩ := enablePackages_refines reg d sw h
  have hslot := congrFun hrun uri
  rw [PackageSlots.run_apply] at hslot
  refine ⟨?_, ?_⟩
  · rw [hasUnknownPackage_eq_slot hok, hslot]
    cases packageSlots d uri <;> rfl
  · rw [isDisabledIgnoredPackage, parked_eq_slot hok, hslot]
    cases packageSlots d uri <;> rfl

/-- `switches_observed` on `unknownFooDocument`, after `foo` is disabled, enabled under another
    prefix and disabled again. -/
theorem switches_observed_unknownFoo :
    let sw := [(fooURI, "foo", false), (fooURI, "foo2", true), (fooURI, "foo", false)]
    let d := unknownFooDocument
    PackageTablesOK d ∧
      (d.enablePackages .empty sw).hasUnknownPackage fooURI = (packageSlots d fooURI).any
        (fun e => (PackageSlots.lastSwitch fooURI e.xmlPrefix sw).getD e.active) ∧
      (d.enablePackages .empty sw).isDisabledIgnoredPackage fooURI =
        (!(d.enablePackages .empty sw).isPackageURIEnabled fooURI && (packageSlots d fooURI).any
          (fun e => !(PackageSlots.lastSwitch fooURI e.xmlPrefix sw).getD e.active)) :=
  have h : PackageTablesOK unknownFooDocument :=
    .of_disabled_empty ⟨⟨by decide, by decide⟩, ⟨by decide, by decide⟩⟩ rfl
  ⟨h, switches_observed .empty unknownFooDocument _ h fooURI⟩

/-! ### Documents read from a file, then switched -/

/-- `setPackageRequired` rewrites only the value of a package in use. -/
theorem PackageTablesOK.setPackageRequired {d : SBMLDocument} (h : PackageTablesOK d)
    (package : String) (flag : Bool) : PackageTablesOK (d.setPackageRequired reg package flag).1 := by
  refine ⟨tablesWellFormed_setPackageRequired reg d package flag h.wellFormed, fun w => ?_⟩
  unfold SBMLDocument.setPackageRequired
  split
  · exact h.disjoint w
  · by_cases hv : d.mRequiredAttrOfUnknownPkg.getValue "required" package ≠ ""
    · rw [if_pos hv]
      dsimp only
      rw [requiredEntry_add]
      split_ifs with hw
      · -- the package is in use, so not parked
        subst hw
        refine .inr ((h.disjoint w).resolve_left fun hn => hv ?_)
        rw [getValue_required, hn]
        rfl
      · exact h.disjoint w
    · rw [if_neg hv]
      exact h.disjoint w

/-- The documents read from a file and then switched: a fresh document (both tables empty) given
    its declarations and read by `readAttributes`, then any run of copies, `setPackageRequired`
    and `enablePackageInternal` calls. A second `readAttributes`, or an
    `addUnknownPackageRequired` of a parked package, can put a package in both tables. -/
inductive Switched : SBMLDocument → Prop
  | read {d : SBMLDocument} (hu : d.mRequiredAttrOfUnknownPkg = .empty)
      (hd : d.mRequiredAttrOfUnknownDisabledPkg = .empty) (reg : SBMLExtensionRegistry)
      (sev : SBMLErrorCode → Nat → Nat → Severity) (xmlns : Option XMLNamespaces)
      (attributes : XMLAttributes) :
      Switched ({ d with mSBMLNamespaces := { d.mSBMLNamespaces with namespaces := xmlns } }
        |>.readAttributes reg sev attributes)
  | copy {d : SBMLDocument} (self : Nat) : Switched d → Switched (d.copy self)
  | setPackageRequired {d : SBMLDocument} (reg : SBMLExtensionRegistry) (package : String)
      (flag : Bool) : Switched d → Switched (d.setPackageRequired reg package flag).1
  | enablePackageInternal {d : SBMLDocument} (reg : SBMLExtensionRegistry)
      (pkgURI pkgPrefix : String) (flag : Bool) :
      Switched d → Switched (d.enablePackageInternal reg pkgURI pkgPrefix flag)

/-- Every switched document satisfies the invariant. -/
theorem Switched.packageTablesOK {d : SBMLDocument} (h : Switched d) : PackageTablesOK d := by
  induction h with
  | read hu hd reg sev _ attributes =>
    refine .of_disabled_empty (tablesWellFormed_readAttributes reg sev attributes _
      ⟨hu ▸ .empty, hd ▸ .empty⟩) ?_
    rw [(readFrame_readAttributes reg sev attributes _).disabled]
    exact hd
  | copy _ _ ih => exact ⟨⟨ih.wellFormed.unknown, ih.wellFormed.disabled⟩, ih.disjoint⟩
  | setPackageRequired reg package flag _ ih => exact ih.setPackageRequired reg package flag
  | enablePackageInternal reg pkgURI pkgPrefix flag _ ih =>
    exact (enablePackageInternal_refines reg _ pkgURI pkgPrefix flag ih).1

/-- **No package is both unknown and disabled.** In every document read from a file and then
    switched, the tables are well formed and share no package, so for every URI
    `hasUnknownPackage` and `isDisabledIgnoredPackage` never both hold. -/
theorem switched_exclusive {d : SBMLDocument} (h : Switched d) :
    PackageTablesOK d ∧
      ∀ uri, ¬ (d.hasUnknownPackage uri = true ∧ d.isDisabledIgnoredPackage uri = true) := by
  refine ⟨h.packageTablesOK, fun uri ⟨hu, hd⟩ => ?_⟩
  simp only [hasUnknownPackage, isDisabledIgnoredPackage, getValue_required, Bool.and_eq_true,
    bne_iff_ne, ne_eq] at hu hd
  rcases h.packageTablesOK.disjoint uri with hn | hn
  · exact hu (by rw [hn]; rfl)
  · exact hd.2 (by rw [hn]; rfl)

/-- `packageDocument` read: `foo` in use under the prefix `foo2`, nothing parked. -/
def readPackageDocument : SBMLDocument :=
  packageDocument.readAttributes barRegistry (fun _ _ _ => .error) packageAttributes

/-- `readPackageDocument` is read from a fresh document. -/
theorem switched_readPackageDocument : Switched readPackageDocument :=
  .read (d := blank 1 3 2) rfl rfl barRegistry _ (some packageNamespaces) packageAttributes

/-- `switched_exclusive` on `readPackageDocument` after disabling `foo`. -/
theorem switched_exclusive_readPackageDocument :
    let d := readPackageDocument.enablePackageInternal .empty fooURI "foo2" false
    Switched d ∧ PackageTablesOK d ∧
      ∀ uri, ¬ (d.hasUnknownPackage uri = true ∧ d.isDisabledIgnoredPackage uri = true) :=
  have h := Switched.enablePackageInternal .empty fooURI "foo2" false switched_readPackageDocument
  ⟨h, switched_exclusive h⟩

end SBMLDocument

end LibSbml
