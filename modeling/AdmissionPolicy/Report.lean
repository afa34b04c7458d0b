import AdmissionPolicy.Finding

/-!
The outcome of checking a policy: whether it is valid, what was found, and what was not looked into.
-/

namespace AdmissionPolicy

/-- The flag is kept apart from the findings; every operation below keeps the two in step. -/
structure Report where
  valid : Bool
  findings : List Finding
  warnings : List Warning
  deriving DecidableEq, Repr

namespace Report

def clean : Report := ⟨true, [], []⟩

def withFinding (finding : Finding) : Report := ⟨false, [finding], []⟩

def addFinding (report : Report) (finding : Finding) : Report :=
  { report with valid := false, findings := report.findings ++ [finding] }

def addFindings (report : Report) (findings : List Finding) : Report :=
  { report with
    valid := report.valid && findings.isEmpty
    findings := report.findings ++ findings }

def addWarning (report : Report) (warning : Warning) : Report :=
  { report with warnings := report.warnings ++ [warning] }

def merge (report other : Report) : Report :=
  ⟨report.valid && other.valid, report.findings ++ other.findings,
    report.warnings ++ other.warnings⟩

end Report

end AdmissionPolicy
