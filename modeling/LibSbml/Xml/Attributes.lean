import Mathlib.Data.List.Nodup

namespace LibSbml

/-!
# XML attributes — the tables of unknown packages

`SBMLDocument` records the `required` attribute of every package namespace it has no
implementation for in an `XMLAttributes` table (`mRequiredAttrOfUnknownPkg`), and parks an entry
in a second one (`mRequiredAttrOfUnknownDisabledPkg`) while its package is disabled. The class
belongs to the XML layer, which is not among the sources: it is modelled from the spec (§9, a
map keyed by namespace holding opaque payloads) and from the calls `SBMLDocument.cpp` makes.

* `XMLAttributes` — the attributes in order, carrying as a field that no two share the
  (name, namespace URI) key every lookup of the class goes by;
* `XMLAttributes.add` — replaces the attribute with the same key in place, or appends;
* `XMLAttributes.remove` — drops one position;
* `firstIndex` — the `for (i …) if (…) { …; break; }` search of the document's loops, with
  `firstIndex_eq_some` splitting a table at the position it finds.
-/

/-- One attribute: its `XMLTriple` (name, namespace URI, prefix) and its value. -/
structure XMLAttribute where
  name : String
  uri : String
  xmlPrefix : String
  value : String
  deriving DecidableEq, Repr

/-- The (name, namespace URI) pair `XMLAttributes` looks an attribute up by. -/
def XMLAttribute.key (a : XMLAttribute) : String × String := (a.name, a.uri)

/-! ### The `for … break` search -/

/-- The position of the first element satisfying `p`, as a loop over `i` that breaks there. -/
def firstIndex {α : Type} (p : α → Bool) : List α → Option Nat
  | [] => none
  | a :: l => if p a then some 0 else (firstIndex p l).map (· + 1)

/-- A search that finds position `i` splits the list there, after elements that all fail. -/
theorem firstIndex_eq_some {α : Type} {p : α → Bool} {l : List α} {i : Nat}
    (h : firstIndex p l = some i) :
    ∃ l₁ a l₂, l = l₁ ++ a :: l₂ ∧ l₁.length = i ∧ p a = true ∧ ∀ x ∈ l₁, p x = false := by
  induction l generalizing i with
  | nil => cases h
  | cons b l ih =>
    by_cases hb : p b
    · simp only [firstIndex, hb, if_true, Option.some.injEq] at h
      exact ⟨[], b, l, rfl, h, hb, by simp⟩
    · simp only [firstIndex, hb, Bool.false_eq_true, if_false, Option.map_eq_some'] at h
      obtain ⟨j, hj, rfl⟩ := h
      obtain ⟨l₁, a, l₂, rfl, rfl, ha, hl₁⟩ := ih hj
      refine ⟨b :: l₁, a, l₂, rfl, rfl, ha, ?_⟩
      simpa [hb] using hl₁

/-- A search finds nothing exactly when no element satisfies `p`. -/
theorem firstIndex_eq_none {α : Type} {p : α → Bool} {l : List α} :
    firstIndex p l = none ↔ ∀ x ∈ l, p x = false := by
  induction l with
  | nil => simp [firstIndex]
  | cons b l ih => by_cases hb : p b <;> simp [firstIndex, hb, ih]

/-- Past elements that all fail, the search stops at the first one that holds. -/
theorem firstIndex_append_cons {α : Type} {p : α → Bool} {l₁ l₂ : List α} {a : α}
    (h₁ : ∀ x ∈ l₁, p x = false) (ha : p a = true) :
    firstIndex p (l₁ ++ a :: l₂) = some l₁.length := by
  induction l₁ with
  | nil => simp [firstIndex, ha]
  | cons b l ih =>
    have hb : p b = false := h₁ b (by simp)
    simp [firstIndex, hb, ih (fun x hx => h₁ x (by simp [hx]))]

/-! ### Replace-or-append -/

/-- The list `add` leaves: the attribute with `a`'s key replaced by `a`, or `a` appended. -/
def addAttr (a : XMLAttribute) : List XMLAttribute → List XMLAttribute
  | [] => [a]
  | b :: l => if b.key = a.key then a :: l else b :: addAttr a l

/-- `addAttr` keeps the keys, adding `a`'s at the end when it is new. -/
theorem map_key_addAttr (a : XMLAttribute) (l : List XMLAttribute) :
    (addAttr a l).map XMLAttribute.key =
      if a.key ∈ l.map XMLAttribute.key then l.map XMLAttribute.key
      else l.map XMLAttribute.key ++ [a.key] := by
  induction l with
  | nil => simp [addAttr]
  | cons b l ih =>
    by_cases hb : b.key = a.key
    · simp [addAttr, hb]
    · have hb' : a.key ≠ b.key := Ne.symm hb
      simp only [addAttr, hb, if_false, List.map_cons, ih, List.mem_cons, hb', false_or]
      split_ifs <;> rfl

/-- `addAttr` keeps the keys distinct. -/
theorem nodup_addAttr (a : XMLAttribute) {l : List XMLAttribute}
    (h : (l.map XMLAttribute.key).Nodup) : ((addAttr a l).map XMLAttribute.key).Nodup := by
  rw [map_key_addAttr]
  split_ifs with ha
  · exact h
  · exact h.append (List.nodup_singleton _) (by simpa using ha)

/-- A new key is appended. -/
theorem addAttr_of_not_mem {a : XMLAttribute} {l : List XMLAttribute}
    (h : a.key ∉ l.map XMLAttribute.key) : addAttr a l = l ++ [a] := by
  induction l with
  | nil => rfl
  | cons b l ih =>
    have hb : b.key ≠ a.key := fun e => h (by simp [e])
    simp [addAttr, hb, ih (fun hm => h (List.mem_cons_of_mem _ hm))]

/-- After `addAttr a`, the key of `a` finds `a`. -/
theorem find_addAttr_self (a : XMLAttribute) (l : List XMLAttribute) :
    (addAttr a l).find? (fun x => x.key == a.key) = some a := by
  induction l with
  | nil => simp [addAttr]
  | cons b l ih => by_cases hb : b.key = a.key <;> simp [addAttr, hb, ih]

/-- `addAttr a` leaves the lookup of every other key alone. -/
theorem find_addAttr_ne {a : XMLAttribute} (l : List XMLAttribute) {k : String × String}
    (hk : a.key ≠ k) :
    (addAttr a l).find? (fun x => x.key == k) = l.find? (fun x => x.key == k) := by
  induction l with
  | nil => simp [addAttr, hk]
  | cons b l ih =>
    by_cases hb : b.key = a.key
    · have : b.key ≠ k := hb ▸ hk
      simp [addAttr, hb, hk, this]
    · rw [addAttr, if_neg hb, List.find?_cons, List.find?_cons, ih]

/-! ### The table -/

/-- Modelled from the spec: `XMLAttributes` (not in the sources) — the attributes in order, at
    most one per (name, namespace URI). -/
structure XMLAttributes where
  attrs : List XMLAttribute
  nodup : (attrs.map XMLAttribute.key).Nodup

namespace XMLAttributes

/-- The empty table, as a fresh document holds. -/
def empty : XMLAttributes := ⟨[], List.nodup_nil⟩

/-- `getLength()`. -/
def getLength (t : XMLAttributes) : Nat := t.attrs.length

/-- `getName(i)`, the empty string out of range. -/
def getName (t : XMLAttributes) (i : Nat) : String := (t.attrs[i]?.map (·.name)).getD ""

/-- `getURI(i)`, the empty string out of range. -/
def getURI (t : XMLAttributes) (i : Nat) : String := (t.attrs[i]?.map (·.uri)).getD ""

/-- `getPrefix(i)`, the empty string out of range. -/
def getPrefix (t : XMLAttributes) (i : Nat) : String := (t.attrs[i]?.map (·.xmlPrefix)).getD ""

/-- `getValue(i)`, the empty string out of range. -/
def getValueAt (t : XMLAttributes) (i : Nat) : String := (t.attrs[i]?.map (·.value)).getD ""

/-- `getValue(name, uri)`: the value of the attribute with that key, the empty string when
    there is none. -/
def getValue (t : XMLAttributes) (name uri : String) : String :=
  ((t.attrs.find? (fun a => a.key == (name, uri))).map (·.value)).getD ""

/-- `getIndex(name, uri)`: the position of the attribute with that key (`-1`, here `none`,
    when there is none). -/
def getIndex (t : XMLAttributes) (name uri : String) : Option Nat :=
  firstIndex (fun a => a.key == (name, uri)) t.attrs

/-- `add(name, value, uri, prefix)`: an attribute with the same name and URI is overwritten in
    place (value and prefix), otherwise the new one is appended. -/
def add (t : XMLAttributes) (name value uri pfx : String) : XMLAttributes :=
  ⟨addAttr ⟨name, uri, pfx, value⟩ t.attrs, nodup_addAttr _ t.nodup⟩

/-- `remove(i)`: drops position `i` (nothing out of range). -/
def remove (t : XMLAttributes) (i : Nat) : XMLAttributes :=
  ⟨t.attrs.eraseIdx i, t.nodup.sublist ((List.eraseIdx_sublist _ _).map _)⟩

/-- Unfolding lemma: the attributes of `add`. -/
@[simp] theorem add_attrs (t : XMLAttributes) (name value uri pfx : String) :
    (t.add name value uri pfx).attrs = addAttr ⟨name, uri, pfx, value⟩ t.attrs := rfl

/-- Unfolding lemma: the attributes of `remove`. -/
@[simp] theorem remove_attrs (t : XMLAttributes) (i : Nat) :
    (t.remove i).attrs = t.attrs.eraseIdx i := rfl

/-- Unfolding lemma: the empty table has no attributes. -/
@[simp] theorem empty_attrs : empty.attrs = [] := rfl

/-- Two tables with the same attributes are equal (the invariant is a proof). -/
@[ext] theorem ext {t t' : XMLAttributes} (h : t.attrs = t'.attrs) : t = t' := by
  cases t; cases t'; cases h; rfl

instance : DecidableEq XMLAttributes :=
  fun t t' => decidable_of_iff (t.attrs = t'.attrs) ⟨ext, congrArg _⟩

/-- Position `l₁.length` of a table split as `l₁ ++ e :: l₂` holds `e`. -/
theorem getElem?_split {t : XMLAttributes} {l₁ l₂ : List XMLAttribute} {e : XMLAttribute}
    (h : t.attrs = l₁ ++ e :: l₂) : t.attrs[l₁.length]? = some e := by
  rw [h, List.getElem?_append_right (le_refl _), Nat.sub_self, List.getElem?_cons_zero]

/-- `add` of a key the table lacks appends. -/
theorem add_attrs_of_not_mem {t : XMLAttributes} {name value uri pfx : String}
    (h : (name, uri) ∉ t.attrs.map XMLAttribute.key) :
    (t.add name value uri pfx).attrs = t.attrs ++ [⟨name, uri, pfx, value⟩] :=
  addAttr_of_not_mem h

/-- `getValue` after `add` of the same key reads the value just added. -/
@[simp] theorem getValue_add_self (t : XMLAttributes) (name value uri pfx : String) :
    (t.add name value uri pfx).getValue name uri = value := by
  simp only [getValue, add_attrs]
  rw [show (name, uri) = XMLAttribute.key ⟨name, uri, pfx, value⟩ from rfl, find_addAttr_self]
  rfl

/-- `getValue` of another key is unchanged by `add`. -/
theorem getValue_add_ne (t : XMLAttributes) {name value uri pfx n u : String}
    (h : (name, uri) ≠ (n, u)) : (t.add name value uri pfx).getValue n u = t.getValue n u := by
  simp only [getValue, add_attrs]
  rw [find_addAttr_ne _ (show XMLAttribute.key ⟨name, uri, pfx, value⟩ ≠ (n, u) from h)]

/-- An attribute of the table is what the search by its key finds. -/
theorem find?_key_of_mem {t : XMLAttributes} {a : XMLAttribute} (ha : a ∈ t.attrs) :
    t.attrs.find? (·.key == a.key) = some a := by
  obtain ⟨attrs, nodup⟩ := t
  induction attrs with
  | nil => cases ha
  | cons b l ih =>
    simp only [List.map_cons, List.nodup_cons] at nodup
    rcases List.mem_cons.mp ha with rfl | hl
    · simp
    · have hb : b.key ≠ a.key := fun e => nodup.1 (e ▸ List.mem_map_of_mem _ hl)
      simpa [hb] using ih nodup.2 hl

/-- An attribute of the table is what `getValue` finds under its key. -/
theorem getValue_of_mem {t : XMLAttributes} {a : XMLAttribute} (ha : a ∈ t.attrs) :
    t.getValue a.name a.uri = a.value := by
  simp only [getValue]
  rw [show ((a.name, a.uri) : String × String) = a.key from rfl, find?_key_of_mem ha]
  rfl

/-- What `addAttr` holds: the old attributes and the new one. -/
theorem mem_addAttr {a x : XMLAttribute} {l : List XMLAttribute} (h : x ∈ addAttr a l) :
    x ∈ l ∨ x = a := by
  induction l with
  | nil => simpa [addAttr] using h
  | cons b l ih =>
    simp only [addAttr] at h
    split_ifs at h
    · rcases List.mem_cons.1 h with rfl | hl
      · exact .inr rfl
      · exact .inl (List.mem_cons_of_mem _ hl)
    · rcases List.mem_cons.1 h with rfl | hl
      · exact .inl (List.mem_cons_self _ _)
      · exact (ih hl).imp_left (List.mem_cons_of_mem _)

/-- Two tables whose attributes all have one name, and whose searches for that name agree on
    every URI, hold the same attributes. -/
theorem mem_iff_of_find? {t t' : XMLAttributes} {name : String}
    (h : ∀ a ∈ t.attrs, a.name = name) (h' : ∀ a ∈ t'.attrs, a.name = name)
    (hf : ∀ uri, t.attrs.find? (·.key == (name, uri)) = t'.attrs.find? (·.key == (name, uri)))
    (a : XMLAttribute) : a ∈ t.attrs ↔ a ∈ t'.attrs := by
  -- the search by an attribute's own key finds it
  have hkey : ∀ {s : XMLAttributes}, (∀ b ∈ s.attrs, b.name = name) → a ∈ s.attrs →
      s.attrs.find? (·.key == (name, a.uri)) = some a := fun hs ha => by
    rw [show (name, a.uri) = a.key by simp [XMLAttribute.key, hs a ha]]
    exact find?_key_of_mem ha
  exact ⟨fun ha => List.mem_of_find?_eq_some ((hf a.uri).symm.trans (hkey h ha)),
    fun ha => List.mem_of_find?_eq_some ((hf a.uri).trans (hkey h' ha))⟩

end XMLAttributes

end LibSbml
