import Mathlib.Data.List.Basic

namespace LibSbml

/-!
# The error log

Every check pass and the reading of the `<sbml>` element report through the document's
`SBMLErrorLog`. The log lives in the XML layer, which is not among the sources; it is modelled
from the spec (§3 Error Log, §7): an ordered sequence of records, append-only, queryable by
severity, with a severity override that forces every record it takes to an error or a warning.

* `SBMLErrorCode` — the codes `SBMLDocument.cpp` logs by name, every other code as `other`;
* `SBMLErrorLog.add` / `addAll` — append under the override;
* `SBMLErrorLog.Extends` — "changes the log only by appending records", the frame every check
  pass is stated with.
-/

/-- `SBMLErrorSeverity_t`. -/
inductive Severity where
  | info | warning | error | fatal
  deriving DecidableEq, Repr

/-- `XMLErrorSeverityOverride_t`, modelled from the spec (§7: "force-as-error / force-as-warning"):
    `disabled` keeps the raw severity. -/
inductive XMLErrorSeverityOverride where
  | disabled | warning | error
  deriving DecidableEq, Repr

/-- The severity a record is stored with under an override. -/
def XMLErrorSeverityOverride.apply : XMLErrorSeverityOverride → Severity → Severity
  | .disabled, s => s
  | .warning, _ => .warning
  | .error, _ => .error

/-- The error codes `SBMLDocument.cpp` logs by name (`SBMLErrorCode_t`); a code produced by a
    validator that the document only passes on is `other`. -/
inductive SBMLErrorCode where
  | invalidSBMLLevelVersion | invalidNamespaceOnSBML
  | missingOrInconsistentLevel | missingOrInconsistentVersion
  | requiredPackagePresent | unrequiredPackagePresent | invalidPackageLevelVersion
  | notSchemaConformant | missingModel
  | strictUnitsRequiredInL1 | strictUnitsRequiredInL2v1
  | strictUnitsRequiredInL2v2 | strictUnitsRequiredInL2v3
  | other (id : Nat)
  deriving DecidableEq, Repr

/-- One record of the log: its code, its severity and its message. -/
structure SBMLError where
  errorId : SBMLErrorCode
  severity : Severity
  message : String
  deriving DecidableEq, Repr

/-- The error log: its records in order and its severity override. -/
structure SBMLErrorLog where
  errors : List SBMLError
  severityOverride : XMLErrorSeverityOverride
  deriving DecidableEq, Repr

namespace SBMLErrorLog

/-- A fresh log: no records, no override. -/
def empty : SBMLErrorLog := ⟨[], .disabled⟩

/-- The record `add` stores for `e` under the override `o`. -/
def overridden (o : XMLErrorSeverityOverride) (e : SBMLError) : SBMLError :=
  { e with severity := o.apply e.severity }

/-- `add(const std::list<SBMLError>&)`: appends each record in order under the override. -/
def addAll (log : SBMLErrorLog) (es : List SBMLError) : SBMLErrorLog :=
  { log with errors := log.errors ++ es.map (overridden log.severityOverride) }

/-- `add(const SBMLError&)`. -/
def add (log : SBMLErrorLog) (e : SBMLError) : SBMLErrorLog := log.addAll [e]

/-- `setSeverityOverride(o)`. -/
def setSeverityOverride (log : SBMLErrorLog) (o : XMLErrorSeverityOverride) : SBMLErrorLog :=
  { log with severityOverride := o }

/-- `getNumFailsWithSeverity(s)`. -/
def getNumFailsWithSeverity (log : SBMLErrorLog) (s : Severity) : Nat :=
  log.errors.countP (·.severity == s)

/-- The log `log'` is `log` with records appended and the same override. -/
def Extends (log log' : SBMLErrorLog) : Prop :=
  log'.severityOverride = log.severityOverride ∧ ∃ es, log'.errors = log.errors ++ es

/-- Unfolding lemma: the records after `addAll`. -/
@[simp] theorem addAll_errors (log : SBMLErrorLog) (es : List SBMLError) :
    (log.addAll es).errors = log.errors ++ es.map (overridden log.severityOverride) := rfl

/-- Unfolding lemma: `addAll` keeps the override. -/
@[simp] theorem addAll_severityOverride (log : SBMLErrorLog) (es : List SBMLError) :
    (log.addAll es).severityOverride = log.severityOverride := rfl

/-- Unfolding lemma: the records after `setSeverityOverride`. -/
@[simp] theorem setSeverityOverride_errors (log : SBMLErrorLog) (o : XMLErrorSeverityOverride) :
    (log.setSeverityOverride o).errors = log.errors := rfl

/-- Unfolding lemma: the override after `setSeverityOverride`. -/
@[simp] theorem setSeverityOverride_severityOverride (log : SBMLErrorLog)
    (o : XMLErrorSeverityOverride) : (log.setSeverityOverride o).severityOverride = o := rfl

/-- With no override a record is stored as it is. -/
@[simp] theorem map_overridden_disabled (es : List SBMLError) :
    es.map (overridden .disabled) = es :=
  List.map_id' es

/-- Appending nothing is the identity. -/
@[simp] theorem addAll_nil (log : SBMLErrorLog) : log.addAll [] = log := by
  simp [addAll]

/-- Two appends are one. -/
theorem addAll_addAll (log : SBMLErrorLog) (es es' : List SBMLError) :
    (log.addAll es).addAll es' = log.addAll (es ++ es') := by
  simp [addAll]

/-- Every log extends itself. -/
theorem Extends.refl (log : SBMLErrorLog) : log.Extends log := ⟨rfl, [], by simp⟩

/-- Appending twice is appending. -/
theorem Extends.trans {a b c : SBMLErrorLog} (h₁ : a.Extends b) (h₂ : b.Extends c) :
    a.Extends c := by
  obtain ⟨o₁, es₁, e₁⟩ := h₁
  obtain ⟨o₂, es₂, e₂⟩ := h₂
  exact ⟨o₂.trans o₁, es₁ ++ es₂, by rw [e₂, e₁, List.append_assoc]⟩

/-- `addAll` only appends. -/
theorem extends_addAll (log : SBMLErrorLog) (es : List SBMLError) : log.Extends (log.addAll es) :=
  ⟨rfl, _, rfl⟩

end SBMLErrorLog

end LibSbml
