import Conformance.Error
import Mathlib.Tactic.Lemma

/-!
# How diagnostics come about

A violation is put on a line by `Diagnostic.locate`, or detected there by `Diagnostic.report`, which
also looks at literals. Together they give all diagnostics, and what is known of a diagnostic
follows from the way it came about.

* **One construction** (`locate_eq_ok_iff`, `report_eq_ok_iff`): what each of the two takes to
  succeed, and the diagnostic that it gives then.
* **Either construction** (`Obtained`, `Obtained.cases`): a diagnostic that was obtained for a line
  and a violation has both, but for the missing entry point, which has no line.
* **Parts** (`ofParts?`): a diagnostic is nothing but its line and its violation.
* **Main statement** (`outOfRange_iff_report`): a diagnostic that calls a literal out of range is
  right exactly if `report` gives it; `report` refuses a literal that its type can hold on every
  line, while `locate` takes it on every line but line zero (`not_outOfRange_located`).
-/

namespace Conformance.Diagnostic

/-! ## One construction -/

/-- Putting a violation on a line takes a line that exists and a violation that belongs to one. -/
lemma locate_eq_ok_iff {line : Nat} {violation : Violation} {diagnostic : Diagnostic} :
    locate line violation = .ok diagnostic ↔
      ∃ (hline : line ≠ 0) (hlocated : violation ≠ .missingMain),
        diagnostic = atLine line violation hline hlocated := by
  unfold locate
  split
  · next hmain => simp [hmain]
  · next hmain =>
    split
    · next hzero => simp [hzero]
    · next hzero => simp [hmain, hzero, eq_comm]

/-- Detecting a violation takes what putting it on the line does, and a literal that is out of range
if it is about a literal; a missing entry point is always told. -/
lemma report_eq_ok_iff {line : Nat} {violation : Violation} {diagnostic : Diagnostic} :
    report line violation = .ok diagnostic ↔
      (violation = .missingMain ∧ diagnostic = missingMain) ∨
        ((∀ type value, violation = .literalOutOfRange type value → type.canHold value = false) ∧
          locate line violation = .ok diagnostic) := by
  cases violation with
  | missingMain =>
      constructor
      · rintro ⟨⟩
        exact .inl ⟨rfl, rfl⟩
      · rintro (⟨-, rfl⟩ | ⟨-, hlocate⟩)
        · rfl
        · cases hlocate
  | literalOutOfRange type value =>
      unfold report
      cases hfits : type.canHold value with
      | true => simp [hfits]
      | false => simp [hfits]
  | _ => simp [report]

/-! ## Either construction -/

/-- A diagnostic was obtained for a violation at a line, in one of the two ways. -/
inductive Obtained (line : Nat) (violation : Violation) (diagnostic : Diagnostic) : Prop where
  /-- The violation was put on the line. -/
  | located (locate_eq : locate line violation = .ok diagnostic)
  /-- The violation was detected at the line. -/
  | reported (report_eq : report line violation = .ok diagnostic)

/-- **Either construction** gives the diagnostic without a line for a missing entry point, and for
every other violation the one at the line. -/
lemma Obtained.cases {line : Nat} {violation : Violation} {diagnostic : Diagnostic}
    (h : Obtained line violation diagnostic) :
    (violation = .missingMain ∧ diagnostic = missingMain) ∨
      ∃ (hline : line ≠ 0) (hlocated : violation ≠ .missingMain),
        diagnostic = atLine line violation hline hlocated := by
  cases h with
  | located hlocate => exact .inr (locate_eq_ok_iff.mp hlocate)
  | reported hreport =>
      rcases report_eq_ok_iff.mp hreport with hmain | ⟨-, hlocate⟩
      · exact .inl hmain
      · exact .inr (locate_eq_ok_iff.mp hlocate)

/-- A diagnostic was obtained for the violation that it has. -/
lemma Obtained.violation_eq {line : Nat} {violation : Violation} {diagnostic : Diagnostic}
    (h : Obtained line violation diagnostic) : diagnostic.violation = violation := by
  rcases h.cases with ⟨rfl, rfl⟩ | ⟨_, _, rfl⟩ <;> rfl

/-- Obtained for another violation than the missing entry point, a diagnostic has the line. -/
lemma Obtained.line_eq {line : Nat} {violation : Violation} {diagnostic : Diagnostic}
    (h : Obtained line violation diagnostic) (hlocated : violation ≠ .missingMain) :
    diagnostic.line = some line ∧ line ≠ 0 := by
  rcases h.cases with ⟨hmain, -⟩ | ⟨hline, _, rfl⟩
  · exact absurd hmain hlocated
  · exact ⟨rfl, hline⟩

/-! ## Parts -/

/-- The diagnostic with a line and a violation, if there is one. -/
def ofParts? : Option Nat → Violation → Option Diagnostic
  | some line, violation => (locate line violation).toOption
  | none, .missingMain => some missingMain
  | none, _ => none

/-- **A diagnostic has no other parts** than its line and its violation. -/
lemma ofParts?_parts (diagnostic : Diagnostic) :
    ofParts? diagnostic.line diagnostic.violation = some diagnostic := by
  obtain ⟨line, violation, hmain, hzero⟩ := diagnostic
  cases line with
  | none =>
      obtain rfl := hmain.mp rfl
      rfl
  | some line =>
      have hline : line ≠ 0 := fun h => hzero (congrArg some h)
      have hlocated : violation ≠ .missingMain := fun h => nomatch hmain.mpr h
      have hlocate : locate line violation = .ok ⟨some line, violation, hmain, hzero⟩ :=
        locate_eq_ok_iff.mpr ⟨hline, hlocated, rfl⟩
      simp only [ofParts?, hlocate, Except.toOption]

/-! ## Literals -/

/-- Putting a literal on a line takes a line that exists; the value is not looked at. -/
lemma exists_locate_literal_iff (line : Nat) (type : ValueType) (value : Int) :
    (∃ diagnostic, locate line (.literalOutOfRange type value) = .ok diagnostic) ↔ line ≠ 0 := by
  constructor
  · rintro ⟨diagnostic, hlocate⟩
    exact (locate_eq_ok_iff.mp hlocate).1
  · intro hline
    exact ⟨_, locate_eq_ok_iff.mpr ⟨hline, nofun, rfl⟩⟩

/-- Detecting a literal refuses it, with its value and its type, exactly if the type can hold it. -/
lemma report_literal_eq_error_iff (line : Nat) (type : ValueType) (value : Int) :
    report line (.literalOutOfRange type value) = .error (.literalFits type value) ↔
      type.canHold value = true := by
  have hreport : report line (.literalOutOfRange type value) =
      if type.canHold value then .error (.literalFits type value)
      else locate line (.literalOutOfRange type value) := rfl
  rw [hreport]
  split
  · next hfits => exact iff_of_true rfl hfits
  · next hfits =>
      -- Line zero is refused as well, for another reason.
      refine iff_of_false ?_ hfits
      unfold locate
      by_cases hzero : line = 0 <;> simp [hzero]

/-- **Literals out of range.** Detection refuses a literal on every line exactly if its type can
hold it. Putting it on a line refuses line zero only, whatever the value is. So a diagnostic that
calls a literal out of range, in whichever way it was obtained, is right exactly if detection gives
it. -/
theorem outOfRange_iff_report (line : Nat) (type : ValueType) (value : Int) :
    (report line (.literalOutOfRange type value) = .error (.literalFits type value) ↔
      type.canHold value = true) ∧
    ((∃ diagnostic, locate line (.literalOutOfRange type value) = .ok diagnostic) ↔ line ≠ 0) ∧
    ∀ violation diagnostic, Obtained line violation diagnostic →
      diagnostic.violation = .literalOutOfRange type value →
      (type.canHold value = false ↔ report line violation = .ok diagnostic) := by
  refine ⟨report_literal_eq_error_iff line type value,
    exists_locate_literal_iff line type value, ?_⟩
  intro violation diagnostic hobtained hviolation
  obtain rfl : violation = .literalOutOfRange type value :=
    hobtained.violation_eq.symm.trans hviolation
  constructor
  · intro hfits
    obtain ⟨hmain, -⟩ | ⟨hline, hlocated, hdiagnostic⟩ := hobtained.cases
    · cases hmain
    refine report_eq_ok_iff.mpr (.inr ⟨?_, locate_eq_ok_iff.mpr ⟨hline, hlocated, hdiagnostic⟩⟩)
    rintro _ _ ⟨⟩
    exact hfits
  · intro hreport
    rcases report_eq_ok_iff.mp hreport with ⟨hmain, -⟩ | ⟨hfits, -⟩
    · cases hmain
    · exact hfits type value rfl

/-- A byte of 256 put on a line is right, and 255 put on the same line is not. -/
theorem outOfRange_iff_report_aboveByte :
    (Obtained 2 (.literalOutOfRange .byte 256) (atLine 2 (.literalOutOfRange .byte 256)) ∧
      report 2 (.literalOutOfRange .byte 256) = .ok (atLine 2 (.literalOutOfRange .byte 256))) ∧
    (Obtained 2 (.literalOutOfRange .byte 255) (atLine 2 (.literalOutOfRange .byte 255)) ∧
      report 2 (.literalOutOfRange .byte 255) ≠ .ok (atLine 2 (.literalOutOfRange .byte 255))) := by
  refine ⟨⟨.located rfl, ?_⟩, .located rfl, ?_⟩
  · exact ((outOfRange_iff_report 2 .byte 256).2.2 _ _ (.located rfl) rfl).mp (by decide)
  · intro hreport
    have hfits := ((outOfRange_iff_report 2 .byte 255).2.2 _ _ (.located rfl) rfl).mpr hreport
    exact absurd hfits (by decide)

/-- A diagnostic may call a literal out of range that its type can hold: a byte of five, put on a
line. -/
theorem not_outOfRange_located :
    ¬ ∀ line violation diagnostic type value, Obtained line violation diagnostic →
      diagnostic.violation = .literalOutOfRange type value → type.canHold value = false := by
  intro hall
  have hlocate : locate 2 (.literalOutOfRange .byte 5) =
      .ok (atLine 2 (.literalOutOfRange .byte 5)) := rfl
  exact absurd (hall 2 _ _ .byte 5 (.located hlocate) rfl) (by decide)

end Conformance.Diagnostic
