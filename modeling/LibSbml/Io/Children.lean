import LibSbml.Document.State

namespace LibSbml

/-!
# Reading the children of `<sbml>` — `createObject`

The base class's `read`, not among the sources, hands each child element of `<sbml>` to
`createObject`, which recognises one name, `model`. A `<model>` met while the document already
holds one is reported, with a code that depends on the revision: before Level 3 Version 2 only
one model is allowed (`NotSchemaConformant`), from Level 3 Version 2 on the code is
`MissingModel`. Either way the old model is deleted and a new one built; when the `Model`
constructor throws at the document's namespaces, a model of the default revision is built
instead (unlike `createModel`, which then returns `NULL`).

* `SBMLDocument.createObject` — as the source has it, the `Model` constructors as parameters;
* `duplicateModelRecord` — the record one extra `<model>` costs;
* `readChildren_eq` — reading any sequence of children: nothing changes unless some child is a
  `<model>`; then the document holds the model built at its namespaces, and the log gains one
  record per `<model>` beyond the first (per `<model>` when it held a model already), every one
  with the code of the document's revision.
-/

variable (sev : SBMLErrorCode → Nat → Nat → Severity)
  (newModel : SBMLNamespaces → Option Model) (defaultModel : Model)

/-- The details `createObject` gives `NotSchemaConformant`. -/
def onlyOneModelMessage : String := "Only one <model> element is permitted inside a document."

namespace SBMLDocument

/-- `createObject(stream)` for a child element named `name`: `new Model(getSBMLNamespaces())`,
    `none` when it throws, and `defaultModel`, what `new Model(getDefaultLevel(),
    getDefaultVersion())` builds, in its place; the object created is returned. -/
def createObject (d : SBMLDocument) (name : String) : SBMLDocument × Option Model :=
  if name = "model" then
    let d :=
      if d.mModel.isSome then
        if d.mLevel < 3 ∨ (d.mLevel = 3 ∧ d.mVersion < 2) then
          d.logError sev .notSchemaConformant onlyOneModelMessage
        else d.logError sev .missingModel ""
      else d
    let m := (newModel d.mSBMLNamespaces).getD defaultModel
    ({ d with mModel := some m }, some m)
  else (d, none)

/-- Modelled from the spec: the parser's loop over the children of `<sbml>` (the base class's
    `read`, not among the sources; §3, a node is "created … by the parser when a matching element
    name is recognized"), each child, by element name, handed to `createObject` in document
    order. -/
def readChildren (d : SBMLDocument) (names : List String) : SBMLDocument :=
  names.foldl (fun d name => (d.createObject sev newModel defaultModel name).1) d

end SBMLDocument

/-- The record a `<model>` costs when the document at (`level`, `version`) holds one already. -/
def duplicateModelRecord (level version : Nat) : SBMLError :=
  if level < 3 ∨ (level = 3 ∧ version < 2) then
    ⟨.notSchemaConformant, sev .notSchemaConformant level version, onlyOneModelMessage⟩
  else ⟨.missingModel, sev .missingModel level version, ""⟩

namespace SBMLDocument

/-! ### One child -/

/-- A `<model>` child: the model built at the document's namespaces replaces the old one, and
    the log gains the duplicate record exactly when there was one. -/
theorem createObject_model (d : SBMLDocument) :
    (d.createObject sev newModel defaultModel "model").1 =
      { d with
        mModel := some ((newModel d.mSBMLNamespaces).getD defaultModel)
        mErrorLog := d.mErrorLog.addAll
          (if d.mModel.isSome then [duplicateModelRecord sev d.mLevel d.mVersion] else []) } := by
  unfold createObject duplicateModelRecord
  by_cases hm : d.mModel.isSome
  · by_cases hr : d.mLevel < 3 ∨ (d.mLevel = 3 ∧ d.mVersion < 2) <;>
      simp only [hm, hr, if_true, if_false] <;> rfl
  · simp [hm]

/-- Any other child is not recognised and changes nothing. -/
theorem createObject_other (d : SBMLDocument) {name : String} (h : name ≠ "model") :
    (d.createObject sev newModel defaultModel name).1 = d := by
  simp [createObject, h]

/-! ### A sequence of children -/

/-- **Reading the children of `<sbml>`.** After any sequence of children with `k` `<model>`
    elements among them, the document is unchanged when `k = 0`; otherwise it holds the model
    built at its namespaces, and its log has gained `k` records, or `k - 1` when it held no model
    before, each the duplicate record of its revision: `NotSchemaConformant` below Level 3
    Version 2, `MissingModel` from there on. -/
theorem readChildren_eq (d : SBMLDocument) (names : List String) :
    let k := names.count "model"
    d.readChildren sev newModel defaultModel names =
      if k = 0 then d
      else
        { d with
          mModel := some ((newModel d.mSBMLNamespaces).getD defaultModel)
          mErrorLog := d.mErrorLog.addAll (List.replicate (if d.mModel.isSome then k else k - 1)
            (duplicateModelRecord sev d.mLevel d.mVersion)) } := by
  induction names generalizing d with
  | nil => rfl
  | cons n ns ih =>
    by_cases hn : n = "model"
    · subst hn
      -- the first `<model>` sets the model; the rest only log
      simp only [readChildren, List.foldl_cons] at ih ⊢
      rw [createObject_model, ih, List.count_cons_self]
      by_cases hk : ns.count "model" = 0 <;> by_cases hm : d.mModel.isSome <;>
        simp [hk, hm, SBMLErrorLog.addAll_addAll, List.replicate_succ]
    · simp only [readChildren, List.foldl_cons, createObject_other sev newModel defaultModel d hn,
        List.count_cons_of_ne (Ne.symm hn)] at ih ⊢
      exact ih d

end SBMLDocument

end LibSbml
