import Conformance.ValueType
import Mathlib.Data.List.Forall2
import Mathlib.Tactic.Lemma

/-!
# Arguments and the parameters they are bound to

A call binds each argument to a parameter of the argument's type or of a wider one. So binding
orders the lists of types, from the wider to the narrower, and no literal that an argument can hold
is out of range for its parameter.

* **One argument** (`Accepts`): what a parameter accepts, by two rules. A conversion that is not
  written out is allowed exactly by them (`convertsTo_implicit_iff`), they order the types of values
  (`Accepts.antisymm`, `Accepts.trans`), and a type holds the literals of those that it accepts
  (`Accepts.canHold`).
* **All arguments** (`argumentsFit_iff_forall₂`): a call binds exactly if every parameter accepts
  the argument in its place and there are no others. Hence binding is ordered as the rules are.
* **Parts of a call** (`argumentsFit_append`): two parts bind together exactly if each of them
  binds.
* **Main statement** (`argumentOrder`): what binding arguments to a list of parameters does.
-/

namespace Conformance.ValueType

variable {param arg other : ValueType} {params args others : List ValueType}

/-! ## One argument -/

/-- The types of the arguments that a parameter accepts. -/
inductive Accepts : (param arg : ValueType) → Prop where
  /-- A parameter accepts arguments of its own type, if that is the type of a value. -/
  | same {type : ValueType} (isValue : type ≠ void) : Accepts type type
  /-- A byte is widened where an integer is expected. -/
  | widened : Accepts int byte

/-- **Implicit conversion** to a parameter is what the rules allow. -/
lemma convertsTo_implicit_iff : arg.convertsTo param .implicit = true ↔ Accepts param arg := by
  constructor
  · intro hconverts
    unfold convertsTo at hconverts
    split at hconverts
    · next hsame =>
      subst hsame
      exact .same (bne_iff_ne.mp hconverts)
    · split at hconverts
      · exact .widened
      -- an integer is narrowed by a written cast only, and nothing else converts
      · cases hconverts
      · cases hconverts
  · intro haccepts
    cases haccepts with
    | same hvalue => simpa [convertsTo] using hvalue
    | widened => rfl

/-- Every type but `void` is accepted by itself. -/
lemma accepts_self_iff : Accepts param param ↔ param ≠ void := by
  constructor
  · rintro ⟨hvalue⟩
    exact hvalue
  · exact .same

/-- Only the same type is accepted in both directions. -/
lemma Accepts.antisymm (h : Accepts param arg) (h' : Accepts arg param) : param = arg := by
  cases h with
  | same => rfl
  | widened => cases h'

/-- What is accepted for an accepted argument is accepted itself. -/
lemma Accepts.trans (h : Accepts param arg) (h' : Accepts arg other) : Accepts param other := by
  cases h with
  | same => exact h'
  | widened =>
      cases h' with
      | same => exact .widened

/-- **No literal goes out of range** from an argument to a parameter that accepts it. -/
lemma Accepts.canHold {value : Int} (h : Accepts param arg) (hvalue : arg.canHold value = true) :
    param.canHold value = true := by
  cases h with
  | same => exact hvalue
  | widened =>
      -- the range of a byte lies within that of an integer
      simp only [ValueType.canHold, literalBounds?, Bool.and_eq_true, decide_eq_true_eq]
        at hvalue ⊢
      omega

/-! ## All arguments -/

/-- **A call binds** exactly if every parameter accepts the argument in its place, with no argument
left out and none left over. -/
lemma argumentsFit_iff_forall₂ :
    argumentsFit params args = true ↔ List.Forall₂ Accepts params args := by
  fun_induction argumentsFit params args with
  | case1 => simp
  | case2 param params arg args ih =>
      rw [Bool.and_eq_true, convertsTo_implicit_iff, ih, List.forall₂_cons]
  | case3 params args hnil hcons =>
      -- one of the lists has ended before the other
      refine iff_of_false Bool.false_ne_true fun haccepts => ?_
      cases haccepts with
      | nil => exact hnil rfl rfl
      | cons => exact hcons _ _ _ _ rfl rfl

/-- Arguments of the parameters' own types are bound exactly if none of them is `void`. -/
lemma argumentsFit_self_iff : argumentsFit params params = true ↔ void ∉ params := by
  rw [argumentsFit_iff_forall₂, List.forall₂_same]
  simp only [accepts_self_iff, ne_eq]
  exact List.forall_mem_ne'

/-- Only the same types bind in both directions. -/
lemma eq_of_argumentsFit (h : argumentsFit params args = true)
    (h' : argumentsFit args params = true) : params = args := by
  rw [argumentsFit_iff_forall₂] at h h'
  induction h with
  | nil => rfl
  | cons haccepts _ ih =>
      cases h' with
      | cons haccepts' hrest' => rw [haccepts.antisymm haccepts', ih hrest']

/-- What fits the arguments of a call that binds fits its parameters too. -/
lemma argumentsFit_trans (h : argumentsFit params args = true)
    (h' : argumentsFit args others = true) : argumentsFit params others = true := by
  rw [argumentsFit_iff_forall₂] at h h' ⊢
  induction h generalizing others with
  | nil => exact h'
  | cons haccepts _ ih =>
      cases h' with
      | cons haccepts' hrest' => exact .cons (haccepts.trans haccepts') (ih hrest')

/-- **Parts of a call** bind together exactly if each of them binds, where the first has as many
arguments as parameters. -/
lemma argumentsFit_append (hlength : params.length = args.length)
    (moreParams moreArgs : List ValueType) :
    argumentsFit (params ++ moreParams) (args ++ moreArgs) =
      (argumentsFit params args && argumentsFit moreParams moreArgs) := by
  induction params generalizing args with
  | nil =>
      obtain rfl := List.length_eq_zero_iff.mp hlength.symm
      rfl
  | cons param params ih =>
      cases args with
      | nil => cases hlength
      | cons arg args =>
          rw [List.cons_append, List.cons_append, argumentsFit, argumentsFit,
            ih (Nat.succ.inj hlength), Bool.and_assoc]

/-- What binding arguments to a list of parameters does. -/
structure ArgumentOrder (params : List ValueType) : Prop where
  /-- There must be as many arguments as parameters, each accepted in its place. -/
  fit_iff : ∀ args, argumentsFit params args = true ↔
    params.length = args.length ∧ ∀ pair ∈ params.zip args, Accepts pair.1 pair.2
  /-- Arguments of the parameters' own types are bound exactly if none of them is `void`. -/
  self_iff : argumentsFit params params = true ↔ void ∉ params
  /-- Only the same types bind in both directions. -/
  antisymm : ∀ args, argumentsFit params args = true → argumentsFit args params = true →
    params = args
  /-- What fits the arguments of a call that binds fits its parameters too. -/
  trans : ∀ args others, argumentsFit params args = true → argumentsFit args others = true →
    argumentsFit params others = true
  /-- Behind as many arguments as parameters, a call goes on with a part that binds on its own. -/
  append_iff : ∀ args moreParams moreArgs, params.length = args.length →
    (argumentsFit (params ++ moreParams) (args ++ moreArgs) = true ↔
      argumentsFit params args = true ∧ argumentsFit moreParams moreArgs = true)
  /-- Of literals passed to a call that binds, each that its argument can hold is in the range of
  the parameter too. -/
  canHold : ∀ args, argumentsFit params args = true →
    ∀ (values : List Int) (position : Nat) (hparam : position < params.length)
      (harg : position < args.length) (hvalue : position < values.length),
      args[position].canHold values[position] = true →
        params[position].canHold values[position] = true

/-- **Argument binding is an order** on the lists of types of values: that of the two rules, place
by place, so that a call binds exactly if each of its parts does. Passed on along it, no literal
goes out of range. -/
theorem argumentOrder (params : List ValueType) : ArgumentOrder params where
  fit_iff args := by
    rw [argumentsFit_iff_forall₂, List.forall₂_iff_zip, Prod.forall]
  self_iff := argumentsFit_self_iff
  antisymm _ := eq_of_argumentsFit
  trans _ _ := argumentsFit_trans
  append_iff args moreParams moreArgs hlength := by
    rw [argumentsFit_append hlength, Bool.and_eq_true]
  canHold args hfit values position hparam harg _ hvalue := by
    have haccepts : Accepts params[position] args[position] :=
      (argumentsFit_iff_forall₂.mp hfit).get hparam harg
    exact haccepts.canHold hvalue

/-- Two bytes can be passed for an integer and a byte, and these for two integers. So the bytes can
be passed for the integers, in front of a text too, and the one of two literals that is in the range
of its byte is in the range of its integer. -/
theorem argumentOrder_bytes :
    (argumentsFit [int, int] [int, byte] = true ∧ argumentsFit [int, byte] [byte, byte] = true ∧
      argumentsFit [int, int] [byte, byte] = true) ∧
    argumentsFit ([int, int] ++ [string]) ([byte, byte] ++ [string]) = true ∧
    (byte.canHold 200 = true ∧ byte.canHold 300 = false ∧ int.canHold 200 = true) := by
  have horder : ArgumentOrder [int, int] := argumentOrder [int, int]
  have hfit : argumentsFit [int, int] [byte, byte] = true :=
    horder.trans [int, byte] [byte, byte] (by decide) (by decide)
  have hheld : int.canHold 200 = true :=
    horder.canHold [byte, byte] hfit [200, 300] 0 (by decide) (by decide) (by decide) (by decide)
  have hparts : argumentsFit ([int, int] ++ [string]) ([byte, byte] ++ [string]) = true :=
    (horder.append_iff [byte, byte] [string] [string] rfl).mpr ⟨hfit, by decide⟩
  exact ⟨⟨by decide, by decide, hfit⟩, hparts, by decide, by decide, hheld⟩

end Conformance.ValueType
