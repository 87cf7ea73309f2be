import Conformance.Proofs.Outline.Lines

/-!
# The layout of a dump

Where the lines of a printed outline stand, told by a reader who knows nothing of the outline: it
counts markers, and the count gives the indentation of every line.

* **Replay** (`replay`): the lines are read in order with a counter that goes up at a marker that
  opens a scope and down after one that closes it. Only the text behind the spaces is looked at, so
  a name could look like a marker; that no display does is `LineKind.of_indented_display`.
* **The expected steps** (`Scope.steps`): what a replay meets in a scope of known depth. Printing
  and replaying agree for every scope and depth (`replay_dumpItems`), whatever follows.
* **Blocks** (`blocks`): the steps cut after each return of the counter to zero; they are the
  functions (`blocks_steps_program`).
* **Main statement** (`exists_layout_dump`): the dump of an outline has the layout `Layout`.
-/

namespace Conformance

/-! ## Replaying lines -/

/-- What a line of the scopes shows behind its spaces. -/
inductive LineKind where
  /-- The marker that opens a scope. -/
  | opening
  /-- The marker that closes a scope. -/
  | closing
  /-- Anything else. -/
  | content
  deriving DecidableEq

/-- The kind of a line. -/
def LineKind.of (line : String) : LineKind :=
  if line.toList.dropWhile (· = ' ') = scopeOpen.toList then .opening
  else if line.toList.dropWhile (· = ' ') = scopeClose.toList then .closing
  else .content

/-- A line that the reader has met. -/
structure Step where
  /-- The line. -/
  line : String
  /-- What it shows. -/
  kind : LineKind
  /-- The depth at which it is counted; a marker counts with the scope that it delimits. -/
  depth : Int
  /-- The counter after it. -/
  after : Int
  deriving DecidableEq

/-- The text of a line without two spaces for each level of its depth. -/
def Step.content (step : Step) : String :=
  String.ofList (step.line.toList.drop (2 * step.depth.toNat))

/-- The steps of a reader whose counter stands at a value before the lines. -/
def replay : Int → List String → List Step
  | _, [] => []
  | counter, line :: lines =>
    match LineKind.of line with
    | .opening => ⟨line, .opening, counter + 1, counter + 1⟩ :: replay (counter + 1) lines
    | .closing => ⟨line, .closing, counter, counter - 1⟩ :: replay (counter - 1) lines
    | .content => ⟨line, .content, counter, counter⟩ :: replay counter lines

/-- An indented opening marker is one. -/
lemma LineKind.of_indented_scopeOpen (depth : Nat) : of (indented depth scopeOpen) = .opening := by
  unfold of
  rw [dropWhile_toList_indented (by decide), if_pos rfl]

/-- An indented closing marker is one. -/
lemma LineKind.of_indented_scopeClose (depth : Nat) :
    of (indented depth scopeClose) = .closing := by
  unfold of
  rw [dropWhile_toList_indented (by decide), if_neg (by decide), if_pos rfl]

/-- No display of a binding looks like a marker, even if the name begins with spaces: what stands
behind the spaces of a line ends as the line does. -/
lemma LineKind.of_indented_display (depth : Nat) (binding : Binding) :
    of (indented depth binding.display) = .content := by
  have hne : ∀ marker : String, marker.toList.getLast? = some '-' →
      (indented depth binding.display).toList.dropWhile (· = ' ') ≠ marker.toList := by
    intro marker hdash heq
    have hline := List.takeWhile_append_dropWhile (p := (· = ' '))
      (l := (indented depth binding.display).toList)
    have hlast := congrArg List.getLast? hline
    rw [heq, List.getLast?_append, hdash, Option.some_or,
      getLast?_toList_indented binding.display_ne_empty] at hlast
    exact binding.getLast?_display_ne_dash hlast.symm
  unfold of
  rw [if_neg (hne _ (by decide)), if_neg (hne _ (by decide))]

/-! ## The steps of a scope -/

namespace Scope

/-- The steps of a replay through the items of a scope whose bindings stand at `depth`. -/
def steps (depth : Nat) : Scope → List Step
  | empty => []
  | binding first rest =>
    ⟨indented depth first.display, .content, depth, depth⟩ :: rest.steps depth
  | nested inner rest =>
    ⟨indented (depth + 1) scopeOpen, .opening, depth + 1, depth + 1⟩ ::
      (inner.steps (depth + 1) ++
        ⟨indented (depth + 1) scopeClose, .closing, depth + 1, depth⟩ :: rest.steps depth)

/-- Replaying the items of a scope meets the steps of the scope and leaves the counter as it was,
so that the lines after them are replayed as if the scope were not there. -/
lemma replay_dumpItems (scope : Scope) (depth : Nat) (lines : List String) :
    replay depth (scope.dumpItems depth ++ lines) = scope.steps depth ++ replay depth lines := by
  induction scope generalizing depth lines with
  | empty => rfl
  | binding first rest ih =>
      simp only [dumpItems, steps, List.cons_append, replay, LineKind.of_indented_display]
      rw [ih]
  | nested inner rest ihInner ihRest =>
      have hinner := ihInner (depth + 1) (indented (depth + 1) scopeClose ::
        (rest.dumpItems depth ++ lines))
      have hback : ((depth + 1 : Nat) : Int) - 1 = depth := by omega
      simp only [replay, LineKind.of_indented_scopeClose, hback, ihRest] at hinner
      simp only [dumpItems, steps, List.cons_append, List.append_assoc, replay,
        LineKind.of_indented_scopeOpen]
      exact congrArg _ hinner

/-- What holds of the markers and of a scope's bindings at every level from `depth` on holds of all
steps of the scope. -/
lemma forall_mem_steps {P : Step → Prop} {scope : Scope} (depth : Nat)
    (hopen : ∀ level, depth ≤ level →
      P ⟨indented (level + 1) scopeOpen, .opening, level + 1, level + 1⟩)
    (hclose : ∀ level, depth ≤ level →
      P ⟨indented (level + 1) scopeClose, .closing, level + 1, level⟩)
    (hbinding : ∀ binding ∈ scope.bindings, ∀ level, depth ≤ level →
      P ⟨indented level binding.display, .content, level, level⟩) :
    ∀ step ∈ scope.steps depth, P step := by
  induction scope generalizing depth with
  | empty => simp [steps]
  | binding first rest ih =>
      intro step hstep
      rcases List.mem_cons.mp hstep with rfl | hstep
      · exact hbinding first List.mem_cons_self depth (Nat.le_refl depth)
      · exact ih depth hopen hclose (fun b hb => hbinding b (List.mem_cons_of_mem _ hb)) step hstep
  | nested inner rest ihInner ihRest =>
      intro step hstep
      simp only [steps, List.mem_cons, List.mem_append] at hstep
      rcases hstep with rfl | hstep | rfl | hstep
      · exact hopen depth (Nat.le_refl depth)
      · exact ihInner (depth + 1) (fun level hlevel => hopen level (by omega))
          (fun level hlevel => hclose level (by omega))
          (fun b hb level hlevel => hbinding b (List.mem_append_left _ hb) level (by omega))
          step hstep
      · exact hclose depth (Nat.le_refl depth)
      · exact ihRest depth hopen hclose (fun b hb => hbinding b (List.mem_append_right _ hb)) step
          hstep

/-- The bindings that the steps of a scope show, without their indentation, are displayed in the
order in which the scope lists them. -/
lemma map_content_filter_steps (scope : Scope) (depth : Nat) :
    ((scope.steps depth).filter (·.kind = .content)).map Step.content =
      scope.bindings.map Binding.display := by
  induction scope generalizing depth with
  | empty => rfl
  | binding first rest ih =>
      have hcontent : Step.content ⟨indented depth first.display, .content, depth, depth⟩ =
          first.display := by
        unfold Step.content
        rw [Int.toNat_natCast, toList_indented, List.drop_left' (by simp), String.ofList_toList]
      simp [steps, bindings, ih, hcontent]
  | nested inner rest ihInner ihRest => simp [steps, bindings, ihInner, ihRest]

/-- The scopes in a scope, at every depth. -/
def nestedScopes : Scope → List Scope
  | empty => []
  | binding _ rest => rest.nestedScopes
  | nested inner rest => inner :: (inner.nestedScopes ++ rest.nestedScopes)

/-- The scopes in a program are its functions, each with the scopes in it. -/
lemma nestedScopes_program (functions : List Scope) :
    (program functions).nestedScopes =
      functions.flatMap fun scope => scope :: scope.nestedScopes := by
  induction functions with
  | nil => rfl
  | cons first functions ih => simpa [program, nestedScopes] using ih

/-- A binding takes one line and a nested scope the two lines of its markers. -/
lemma length_dumpItems (scope : Scope) (depth : Nat) :
    (scope.dumpItems depth).length = scope.bindings.length + 2 * scope.nestedScopes.length := by
  induction scope generalizing depth with
  | empty => rfl
  | binding first rest ih =>
      simp only [dumpItems, bindings, nestedScopes, List.length_cons, ih]
      omega
  | nested inner rest ihInner ihRest =>
      simp only [dumpItems, bindings, nestedScopes, List.length_cons, List.length_append, ihInner,
        ihRest]
      omega

end Scope

/-! ## Blocks -/

/-- The steps cut after each one that brings the counter to zero. -/
def blocks : List Step → List (List Step)
  | [] => []
  | step :: steps =>
    if step.after = 0 then [step] :: blocks steps
    else
      match blocks steps with
      | [] => [[step]]
      | block :: others => (step :: block) :: others

/-- A run of steps that ends where the counter first comes to zero is a block. -/
lemma blocks_append {block : List Step} (hblock : ∀ step ∈ block, step.after ≠ 0) {last : Step}
    (hlast : last.after = 0) (steps : List Step) :
    blocks (block ++ last :: steps) = (block ++ [last]) :: blocks steps := by
  induction block with
  | nil => rw [List.nil_append, blocks, if_pos hlast, List.nil_append]
  | cons first block ih =>
      rw [List.cons_append, blocks, if_neg (hblock first List.mem_cons_self),
        ih fun step hstep => hblock step (List.mem_cons_of_mem _ hstep)]
      rfl

namespace Scope

/-- The step at the closing marker of a function. -/
def closingStep : Step := ⟨indented 1 scopeClose, .closing, 1, 0⟩

/-- The steps of a function before its closing marker. -/
def openSteps (scope : Scope) : List Step :=
  ⟨indented 1 scopeOpen, .opening, 1, 1⟩ :: scope.steps 1

/-- The steps of a function, markers included. -/
def block (scope : Scope) : List Step :=
  scope.openSteps ++ [closingStep]

/-- Before the closing marker of a function the counter is not zero. -/
lemma after_ne_zero_of_mem_openSteps (scope : Scope) :
    ∀ step ∈ scope.openSteps, step.after ≠ 0 := by
  intro step hstep
  rcases List.mem_cons.mp hstep with rfl | hstep
  · decide
  · refine forall_mem_steps (P := fun step => step.after ≠ 0) 1 ?_ ?_ ?_ step hstep
    · intro level hlevel hzero
      simp only at hzero
      omega
    · intro level hlevel hzero
      simp only at hzero
      omega
    · intro binding _ level hlevel hzero
      simp only at hzero
      omega

/-- The steps of a program are those of its functions. -/
lemma steps_program (functions : List Scope) :
    (program functions).steps 0 = functions.flatMap block := by
  induction functions with
  | nil => rfl
  | cons first functions ih =>
      have hcons : program (first :: functions) = nested first (program functions) := rfl
      rw [hcons, steps, ih, List.flatMap_cons, block, openSteps]
      simp [closingStep]

/-- **The blocks of a program are its functions.** -/
lemma blocks_steps_program (functions : List Scope) :
    blocks ((program functions).steps 0) = functions.map block := by
  rw [steps_program]
  induction functions with
  | nil => rfl
  | cons first functions ih =>
      rw [List.flatMap_cons, block, List.append_assoc, List.cons_append, List.nil_append,
        blocks_append first.after_ne_zero_of_mem_openSteps rfl, ih]
      rfl

/-- The counter comes to zero once for each function. -/
lemma length_filter_steps_program (functions : List Scope) :
    (((program functions).steps 0).filter (·.after = 0)).length = functions.length := by
  have hblock : ∀ scope : Scope, scope.block.filter (·.after = 0) = [closingStep] := by
    intro scope
    have hopen : scope.openSteps.filter (·.after = 0) = [] := by
      rw [List.filter_eq_nil_iff]
      intro step hstep
      simpa using scope.after_ne_zero_of_mem_openSteps step hstep
    rw [block, List.filter_append, hopen]
    rfl
  rw [steps_program]
  induction functions with
  | nil => rfl
  | cons first functions ih =>
      rw [List.flatMap_cons, List.filter_append, hblock, List.length_append, ih]
      simp only [List.length_cons, List.length_nil]
      omega

/-- The last step of a program is the closing marker of its last function. -/
lemma eq_closingStep_of_mem_getLast? {functions : List Scope} {step : Step}
    (h : step ∈ ((program functions).steps 0).getLast?) : step = closingStep := by
  rw [steps_program] at h
  rcases List.eq_nil_or_concat functions with rfl | ⟨others, last, rfl⟩
  · cases h
  · have hlast : closingStep = step := by simpa [block] using h
    exact hlast.symm

/-- The blocks of a program show the bindings of its functions. -/
lemma map_content_filter_block (scope : Scope) :
    (scope.block.filter (·.kind = .content)).map Step.content =
      scope.bindings.map Binding.display := by
  have hsteps := map_content_filter_steps scope 1
  simpa [block, openSteps, closingStep] using hsteps

end Scope

/-! ## The layout -/

/-- How a text that shows an outline is laid out in lines, of which `body` are those between the
signatures and the end of the global scope. -/
structure Layout (outline : Outline) (lines body : List String) : Prop where
  /-- First the global scope is opened, then come the signatures, the library functions' first,
  then the scopes, and the last line closes the global scope. -/
  lines_eq : lines =
    globalOpen :: ((librarySignatures ++ outline.signatures).map Signature.display ++
      (body ++ [globalClose]))
  /-- No line is empty. -/
  line_ne_empty : ∀ line ∈ lines, line ≠ ""
  /-- Two spaces for each level of depth stand before the marker or the binding that a line shows,
  and nothing else is in it. -/
  line_eq_indented : ∀ step ∈ replay 0 body, ∃ level : Nat, step.depth = level ∧
    ((step.kind = .opening ∧ step.line = indented level scopeOpen) ∨
      (step.kind = .closing ∧ step.line = indented level scopeClose) ∨
      (step.kind = .content ∧ ∃ scope ∈ outline.scopes, ∃ binding ∈ scope.bindings,
        step.line = indented level binding.display))
  /-- The counter never falls below zero. -/
  counter_nonneg : ∀ step ∈ replay 0 body, 0 ≤ step.after
  /-- The counter comes to zero once for each function. -/
  returns_eq : ((replay 0 body).filter (·.after = 0)).length = outline.scopes.length
  /-- The last line of the scopes brings the counter to zero. -/
  last_return : ∀ step ∈ (replay 0 body).getLast?, step.after = 0
  /-- The blocks between the returns show the bindings of the functions, block by block. -/
  blocks_eq : ((blocks (replay 0 body)).map fun block =>
      (block.filter (·.kind = .content)).map Step.content) =
    outline.scopes.map fun scope => scope.bindings.map Binding.display
  /-- There are four lines of the frame, one for each signature and each binding, and two for each
  scope. -/
  length_eq : lines.length = 4 + outline.signatures.length +
    (outline.scopes.flatMap Scope.bindings).length +
    2 * (outline.scopes.flatMap fun scope => scope :: scope.nestedScopes).length

namespace Outline

/-- No line of a dump is empty. -/
lemma ne_empty_of_mem_dumpLines {outline : Outline} {line : String}
    (h : line ∈ outline.dumpLines) : line ≠ "" := by
  have hindented : ∀ level text, text ≠ "" → indented level text ≠ "" := by
    intro level text htext hempty
    have hcharacters := congrArg String.toList hempty
    rw [toList_indented] at hcharacters
    exact htext (by simpa using (List.append_eq_nil_iff.mp hcharacters).2)
  rw [dumpLines_eq] at h
  simp only [List.mem_cons, List.mem_append, List.mem_map, List.not_mem_nil, or_false] at h
  rcases h with rfl | ⟨signature, -, rfl⟩ | h | rfl
  · decide
  · exact signature.display_ne_empty
  · exact Scope.forall_mem_dumpItems (P := fun line => line ≠ "") 0
      (fun level => hindented level _ (by decide)) (fun level => hindented level _ (by decide))
      (fun binding _ level => hindented level _ binding.display_ne_empty) line h
  · decide

/-- **The layout of a dump.** Where no name of an outline holds a newline, the lines of its dump are
the frame, the signatures in order, and scopes whose indentation follows the count of markers; the
count never falls below zero, comes back to zero once for each function and with the last line, and
between two such returns stand the displays of one function's bindings in order. -/
theorem exists_layout_dump (outline : Outline) (h : outline.NamesOneLine) :
    ∃ body, Layout outline (textLines outline.dump) body := by
  have hsteps : replay 0 ((Scope.program outline.scopes).dumpItems 0) =
      (Scope.program outline.scopes).steps 0 := by
    simpa [replay] using Scope.replay_dumpItems (Scope.program outline.scopes) 0 []
  rw [textLines_dump h]
  refine ⟨(Scope.program outline.scopes).dumpItems 0, ?_⟩
  refine
    { lines_eq := dumpLines_eq outline
      line_ne_empty := fun line hline => ne_empty_of_mem_dumpLines hline
      line_eq_indented := ?_
      counter_nonneg := ?_
      returns_eq := by rw [hsteps, Scope.length_filter_steps_program]
      last_return := ?_
      blocks_eq := ?_
      length_eq := ?_ }
  · rw [hsteps]
    refine Scope.forall_mem_steps 0 ?_ ?_ ?_
    · intro level _
      exact ⟨level + 1, rfl, .inl ⟨rfl, rfl⟩⟩
    · intro level _
      exact ⟨level + 1, rfl, .inr (.inl ⟨rfl, rfl⟩)⟩
    · intro binding hbinding level _
      rw [Scope.bindings_program, List.mem_flatMap] at hbinding
      obtain ⟨scope, hscope, hbinding⟩ := hbinding
      exact ⟨level, rfl, .inr (.inr ⟨rfl, scope, hscope, binding, hbinding, rfl⟩)⟩
  · rw [hsteps]
    refine Scope.forall_mem_steps (P := fun step => 0 ≤ step.after) 0 ?_ ?_ ?_
    · intro level _
      simp only
      omega
    · intro level _
      simp only
      omega
    · intro binding _ level _
      simp only
      omega
  · intro step hstep
    rw [hsteps] at hstep
    rw [Scope.eq_closingStep_of_mem_getLast? hstep]
    rfl
  · rw [hsteps, Scope.blocks_steps_program, List.map_map]
    exact List.map_congr_left fun scope _ => scope.map_content_filter_block
  · rw [dumpLines_eq, ← Scope.bindings_program, ← Scope.nestedScopes_program]
    simp only [List.length_cons, List.length_append, List.length_map, List.length_nil,
      Scope.length_dumpItems, librarySignatures]
    omega

/-- The dump of an outline with misleading names has the layout. -/
theorem exists_layout_dump_lookalikes :
    lookalikes.NamesOneLine ∧ ∃ body, Layout lookalikes (textLines lookalikes.dump) body :=
  ⟨by decide, exists_layout_dump lookalikes (by decide)⟩

end Outline

end Conformance
