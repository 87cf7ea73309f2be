import Conformance.Suite

/-!
# The standard suite

The built-in conformance scenarios, passing programs first and failing ones after them.

* **Accepted programs** (`acceptedPrograms`): declarations, conversions, calls before definition,
  nested scopes and parameter slots.
* **Rejected programs** (`rejectedPrograms`): one violation each, on the line counted from the first
  line of the program that is not blank.
* **Suite** (`standard`): the 27 scenarios together; their names are distinct.
-/

namespace Conformance.Suite

/-- A source text of the given lines, after an empty line and with a newline at the end. -/
def program (lines : List String) : String :=
  "\n" ++ String.join (lines.map (· ++ "\n"))

/-- A program that must be accepted, with the items that make up its outline. -/
def accepts (name : String) (lines : List String) (items : List Outline.Item) : Scenario :=
  ⟨name, program lines, .accepted (.ofItems items)⟩

/-- A program that must be rejected. -/
def rejects (name : String) (lines : List String) (diagnostic : Diagnostic) : Scenario :=
  ⟨name, program lines, .rejected diagnostic⟩

/-- The programs that must be accepted. In a nested scope, an `if` opens one scope for the statement
and one for its block. -/
def acceptedPrograms : List Scenario :=
  [accepts "test_success_basic"
      ["void main() \x7b", "    int x = 5;", "    printi(x);", "\x7d"]
      [.definition "main" [] .void (.declare ⟨"x", .int⟩ .done)],
    accepts "test_success_casting"
      ["void main() \x7b", "    int i = 200;", "    byte b = (byte)i;", "    int j = b; ", "\x7d"]
      [.definition "main" [] .void
        (.declare ⟨"i", .int⟩ (.declare ⟨"b", .byte⟩ (.declare ⟨"j", .int⟩ .done)))],
    accepts "test_success_forward"
      ["void main() \x7b", "    foo();", "\x7d", "void foo() \x7b", "    print(\"bar\");", "\x7d"]
      [.definition "main" [] .void .done, .definition "foo" [] .void .done],
    accepts "test_success_nested"
      ["void main() \x7b", "    int a = 1;", "    if (true) \x7b", "        bool b = true;",
       "        if (b) \x7b", "            int c = 3;", "        \x7d", "    \x7d", "\x7d"]
      [.definition "main" [] .void
        (.declare ⟨"a", .int⟩ (.block (.block (.declare ⟨"b", .bool⟩ (.block (.block
          (.declare ⟨"c", .int⟩ .done) .done) .done)) .done) .done))],
    accepts "test_success_params"
      ["void foo(int a, bool b, byte c) \x7b", "    int d = a;", "\x7d", "void main() \x7b",
       "    foo(1, true, 10b);", "\x7d"]
      [.definition "foo" [⟨"a", .int⟩, ⟨"b", .bool⟩, ⟨"c", .byte⟩] .void
        (.declare ⟨"d", .int⟩ .done),
       .definition "main" [] .void .done]]

/-- The programs that must be rejected. -/
def rejectedPrograms : List Scenario :=
  [
    -- Names that nothing declares.
    rejects "test_fail_undef_var"
      ["void main() \x7b", "    x = 5;", "\x7d"]
      (.atLine 2 (.undefinedVariable "x")),
    rejects "test_fail_undef_func"
      ["void main() \x7b", "    foo();", "\x7d"]
      (.atLine 2 (.undefinedFunction "foo")),
    -- Names that are declared twice.
    rejects "test_fail_redef_var"
      ["void main() \x7b", "    int x;", "    bool x;", "\x7d"]
      (.atLine 3 (.duplicateSymbol "x")),
    rejects "test_fail_shadow_param"
      ["void foo(int x) \x7b", "    int x = 5;", "\x7d", "void main() \x7b", "    return;",
       "\x7d"]
      (.atLine 2 (.duplicateSymbol "x")),
    rejects "test_fail_nested_shadowing"
      ["void main() \x7b", "    int x = 5;", "    if (true) \x7b", "        int x = 10;",
       "    \x7d", "\x7d"]
      (.atLine 4 (.duplicateSymbol "x")),
    rejects "test_fail_redef_func"
      ["void foo() \x7b return; \x7d", "int foo() \x7b return 1; \x7d",
       "void main() \x7b return; \x7d"]
      (.atLine 2 (.duplicateSymbol "foo")),
    -- Values whose type does not fit.
    rejects "test_fail_assign_types"
      ["void main() \x7b", "    int x = true;", "\x7d"]
      (.atLine 2 .typeMismatch),
    rejects "test_fail_int_to_byte"
      ["void main() \x7b", "    int x = 5;", "    byte b = x;", "\x7d"]
      (.atLine 3 .typeMismatch),
    rejects "test_fail_if_cond"
      ["void main() \x7b", "    if (5) \x7b", "        print(\"error\");", "    \x7d", "\x7d"]
      (.atLine 2 .typeMismatch),
    rejects "test_fail_while_cond"
      ["void main() \x7b", "    int x = 0;", "    while (x) \x7b", "        x = x - 1;",
       "    \x7d", "\x7d"]
      (.atLine 3 .typeMismatch),
    rejects "test_fail_byte_large"
      ["void main() \x7b", "    byte b = 300b;", "\x7d"]
      (.atLine 2 (.literalOutOfRange .byte 300)),
    -- Loop control outside a loop.
    rejects "test_fail_break"
      ["void main() \x7b", "    if (true) \x7b", "        break;", "    \x7d", "\x7d"]
      (.atLine 3 .unexpectedBreak),
    rejects "test_fail_continue"
      ["void main() \x7b", "    continue;", "\x7d"]
      (.atLine 2 .unexpectedContinue),
    -- Returns that disagree with their function.
    rejects "test_fail_return_val_in_void"
      ["void main() \x7b", "    return 5;", "\x7d"]
      (.atLine 2 .typeMismatch),
    rejects "test_fail_return_void_in_int"
      ["int foo() \x7b", "    return;", "\x7d", "void main() \x7b", "    return;", "\x7d"]
      (.atLine 2 .typeMismatch),
    -- Calls that do not fit what they name.
    rejects "test_fail_arg_count"
      ["void foo(int a) \x7b return; \x7d", "void main() \x7b", "    foo(1, 2);", "\x7d"]
      (.atLine 3 (.prototypeMismatch "foo" [.int])),
    rejects "test_fail_arg_type"
      ["void foo(int a) \x7b return; \x7d", "void main() \x7b", "    foo(true);", "\x7d"]
      (.atLine 3 (.prototypeMismatch "foo" [.int])),
    rejects "test_fail_var_as_func"
      ["void main() \x7b", "    int x = 5;", "    x();", "\x7d"]
      (.atLine 3 (.nameKindMismatch "x" .var)),
    rejects "test_fail_func_as_var"
      ["void foo() \x7b return; \x7d", "void main() \x7b", "    int x = foo;", "\x7d"]
      (.atLine 3 (.nameKindMismatch "foo" .function)),
    -- Programs without an entry point.
    rejects "test_fail_no_main"
      ["void foo() \x7b return; \x7d"]
      .missingMain,
    rejects "test_fail_main_args"
      ["void main(int x) \x7b", "    return;", "\x7d"]
      .missingMain,
    rejects "test_fail_main_ret"
      ["int main() \x7b", "    return 0;", "\x7d"]
      .missingMain]

/-- The standard suite. -/
def standard : Suite where
  scenarios := acceptedPrograms ++ rejectedPrograms
  names_nodup := by decide +kernel

/-- The standard suite has 27 scenarios, of which 5 must be accepted. -/
example : standard.size = 27 ∧ acceptedPrograms.length = 5 := by decide

end Conformance.Suite
